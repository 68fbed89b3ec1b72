import Mathlib.Algebra.BigOperators.Group.List.Basic
import Mathlib.Data.List.Nodup
import Mathlib.Algebra.Order.BigOperators.Group.List
import Mathlib.Tactic.Ring
import Mathlib.Tactic.Linarith
import Mathlib.Data.List.Perm.Subperm

/-!
# Tables

A table is the list of its rows in the order of insertion.
-/

open List

namespace SmartResidence.Foundation

variable {Row Key : Type*}

/-- The rows that satisfy `chosen` are changed, the others stay. -/
def updateWhere (chosen : Row → Bool) (change : Row → Row) (rows : List Row) : List Row :=
  rows.map fun row => if chosen row then change row else row

def sumBy (measure : Row → ℤ) (rows : List Row) : ℤ := (rows.map measure).sum

section

variable (measure : Row → ℤ)

@[simp] theorem sumBy_nil : sumBy measure [] = 0 := rfl

@[simp] theorem sumBy_cons (row : Row) (rows : List Row) :
    sumBy measure (row :: rows) = measure row + sumBy measure rows := by
  simp [sumBy]

@[simp] theorem sumBy_append (rows more : List Row) :
    sumBy measure (rows ++ more) = sumBy measure rows + sumBy measure more := by
  simp [sumBy]

theorem sumBy_congr {first second : Row → ℤ} {rows : List Row}
    (same : ∀ row ∈ rows, first row = second row) : sumBy first rows = sumBy second rows := by
  simp only [sumBy]
  rw [map_congr_left same]

theorem sumBy_zero {rows : List Row} (zero : ∀ row ∈ rows, measure row = 0) : sumBy measure rows = 0 := by
  have same : sumBy measure rows = sumBy (fun _ => 0) rows := sumBy_congr zero
  rw [same]
  clear same zero
  induction rows with
  | nil => rfl
  | cons row rows ih => simpa using ih

theorem sumBy_add (other : Row → ℤ) (rows : List Row) :
    sumBy (fun row => measure row + other row) rows = sumBy measure rows + sumBy other rows := by
  induction rows with
  | nil => rfl
  | cons row rows ih => simp only [sumBy_cons, ih]; ring

theorem sumBy_neg (rows : List Row) : sumBy (fun row => - measure row) rows = - sumBy measure rows := by
  induction rows with
  | nil => rfl
  | cons row rows ih => simp only [sumBy_cons, ih]; ring

theorem sumBy_mul (factor : ℤ) (rows : List Row) :
    sumBy (fun row => factor * measure row) rows = factor * sumBy measure rows := by
  induction rows with
  | nil => simp
  | cons row rows ih => simp only [sumBy_cons, ih]; ring

theorem sumBy_nonneg {rows : List Row} (nonneg : ∀ row ∈ rows, 0 ≤ measure row) : 0 ≤ sumBy measure rows := by
  refine sum_nonneg fun value mem => ?_
  obtain ⟨row, found, rfl⟩ := mem_map.mp mem
  exact nonneg row found

theorem le_sumBy {rows : List Row} (nonneg : ∀ row ∈ rows, 0 ≤ measure row) {row : Row}
    (mem : row ∈ rows) : measure row ≤ sumBy measure rows := by
  induction rows with
  | nil => simp at mem
  | cons head rows ih =>
    have rest := sumBy_nonneg measure fun other found => nonneg other (mem_cons_of_mem _ found)
    rcases mem_cons.mp mem with rfl | found
    · simpa using rest
    · have := ih (fun other found => nonneg other (mem_cons_of_mem _ found)) found
      have := nonneg head (by simp)
      simp only [sumBy_cons]
      linarith

theorem sumBy_filter (chosen : Row → Bool) (rows : List Row) :
    sumBy measure (rows.filter chosen) = sumBy (fun row => if chosen row then measure row else 0) rows := by
  induction rows with
  | nil => rfl
  | cons row rows ih => by_cases h : chosen row <;> simp [h, ih]

theorem sumBy_perm {rows others : List Row} (same : rows.Perm others) : sumBy measure rows = sumBy measure others :=
  (same.map measure).sum_eq

variable {Other : Type*}

theorem sumBy_map (image : Other → Row) (rows : List Other) :
    sumBy measure (rows.map image) = sumBy (fun row => measure (image row)) rows := by
  simp [sumBy, Function.comp_def]

theorem sumBy_flatMap (parts : Other → List Row) (rows : List Other) :
    sumBy measure (rows.flatMap parts) = sumBy (fun row => sumBy measure (parts row)) rows := by
  induction rows with
  | nil => rfl
  | cons row rows ih => simp [ih]

theorem sumBy_comm (value : Row → Other → ℤ) (rows : List Row) (others : List Other) :
    sumBy (fun row => sumBy (value row) others) rows =
      sumBy (fun other => sumBy (fun row => value row other) rows) others := by
  induction rows with
  | nil => exact (sumBy_zero _ fun _ _ => rfl).symm
  | cons row rows ih => simp only [sumBy_cons, ih, sumBy_add]

theorem figure_foldl {State : Type*} {next : State → Row → State} (figure : State → ℤ)
    (adds : ∀ state row, figure (next state row) = figure state + measure row) (start : State)
    (rows : List Row) : figure (rows.foldl next start) = figure start + sumBy measure rows := by
  induction rows generalizing start with
  | nil => simp
  | cons row rows ih =>
    rw [foldl_cons, ih, adds, sumBy_cons]
    ring

end

section

variable {chosen : Row → Bool} {change : Row → Row} {rows : List Row}

theorem mem_updateWhere {row : Row} : row ∈ updateWhere chosen change rows ↔
    ∃ old ∈ rows, row = if chosen old then change old else old := by
  simp only [updateWhere, mem_map]
  exact ⟨fun ⟨old, mem, eq⟩ => ⟨old, mem, eq.symm⟩, fun ⟨old, mem, eq⟩ => ⟨old, mem, eq.symm⟩⟩

theorem updateWhere_none (none : ∀ row ∈ rows, chosen row = false) : updateWhere chosen change rows = rows := by
  rw [updateWhere, map_congr_left (g := id)]
  · simp
  · intro row mem
    simp [none row mem]

theorem map_updateWhere {Image : Type*} (image : Row → Image)
    (kept : ∀ row ∈ rows, chosen row → image (change row) = image row) :
    (updateWhere chosen change rows).map image = rows.map image := by
  rw [updateWhere, map_map]
  refine map_congr_left fun row mem => ?_
  by_cases h : chosen row
  · simpa [h] using kept row mem h
  · simp [h]

theorem sumBy_updateWhere (measure : Row → ℤ) : sumBy measure (updateWhere chosen change rows) =
      sumBy (fun row => if chosen row then measure (change row) else measure row) rows := by
  rw [updateWhere, sumBy_map]
  exact sumBy_congr fun row _ => by split <;> rfl

theorem sumBy_updateWhere_kept {measure : Row → ℤ}
    (kept : ∀ row ∈ rows, chosen row → measure (change row) = measure row) :
    sumBy measure (updateWhere chosen change rows) = sumBy measure rows := by
  rw [sumBy_updateWhere]
  refine sumBy_congr fun row mem => ?_
  by_cases h : chosen row
  · simpa [h] using kept row mem h
  · simp [h]

end

section

variable {key : Row → ℤ} {rows : List Row}

theorem below_append_rest (sorted : rows.Pairwise fun row later => key row ≤ key later) (bound : ℤ) :
    rows.filter (fun row => decide (key row < bound)) ++ rows.filter (fun row => decide (bound ≤ key row)) = rows := by
  induction rows with
  | nil => rfl
  | cons row rows ih =>
    obtain ⟨first, rest⟩ := pairwise_cons.mp sorted
    by_cases below : key row < bound
    · simpa [below] using ih rest
    · have above : ∀ later ∈ rows, bound ≤ key later := fun later mem => (not_lt.mp below).trans (first later mem)
      have none : rows.filter (fun row => decide (key row < bound)) = [] := by
        simpa using above
      have all : rows.filter (fun row => decide (bound ≤ key row)) = rows := by
        simpa using above
      simp [not_lt.mp below, none, all]

end

section

variable (key : Row → ℤ) {rows : List Row} {row : Row}

def later (best : Option Row) (row : Row) : Option Row :=
  if best.any fun old => decide (key row ≤ key old) then best else some row

def latestBy (rows : List Row) : Option Row := rows.foldl (later key) none

variable {best : Option Row}

theorem mem_of_latest (latest : rows.foldl (later key) best = some row) : best = some row ∨ row ∈ rows := by
  induction rows generalizing best with
  | nil => exact .inl latest
  | cons head rows ih =>
    rcases ih latest with found | mem
    · unfold later at found
      split at found
      · exact .inl found
      · exact .inr (mem_cons.mpr (.inl (Option.some.inj found).symm))
    · exact .inr (mem_cons_of_mem _ mem)

theorem latestBy_mem (latest : latestBy key rows = some row) : row ∈ rows :=
  (mem_of_latest key latest).resolve_left (by simp)

theorem latest_isSome : (rows.foldl (later key) (some row)).isSome := by
  induction rows generalizing row with
  | nil => rfl
  | cons head rows ih =>
    rw [foldl_cons]
    unfold later
    split
    · exact ih
    · exact ih

theorem latestBy_eq_none : latestBy key rows = none ↔ rows = [] := by
  cases rows with
  | nil => simp [latestBy]
  | cons row rows =>
    have found : (latestBy key (row :: rows)).isSome := latest_isSome key
    rw [Option.isSome_iff_exists] at found
    obtain ⟨last, same⟩ := found
    simp [same]

variable {last : Row}

theorem key_le_latest (latest : rows.foldl (later key) best = some last) :
    (∀ old, best = some old → key old ≤ key last) ∧ ∀ row ∈ rows, key row ≤ key last := by
  induction rows generalizing best with
  | nil =>
    obtain rfl : best = some last := latest
    simp
  | cons head rows ih =>
    obtain ⟨kept, rest⟩ := ih latest
    suffices reached : (∀ old, best = some old → key old ≤ key last) ∧ key head ≤ key last from
      ⟨reached.1, forall_mem_cons.mpr ⟨reached.2, rest⟩⟩
    unfold later at kept
    split at kept
    · rename_i before
      obtain ⟨old, same, le⟩ := Option.any_eq_true _ _ |>.mp before
      exact ⟨kept, (of_decide_eq_true le).trans (kept old same)⟩
    · rename_i after
      refine ⟨fun old same => ?_, kept head rfl⟩
      have above : key old < key head := by simpa [same] using after
      exact above.le.trans (kept head rfl)

theorem le_latestBy (latest : latestBy key rows = some last) (mem : row ∈ rows) : key row ≤ key last :=
  (key_le_latest key latest).2 row mem

end

section

variable [DecidableEq Key] {key : Row → Key} {rows : List Row} {row : Row}

def findBy (key : Row → Key) (wanted : Key) (rows : List Row) : Option Row :=
  rows.find? fun row => decide (key row = wanted)

def updateBy (key : Row → Key) (wanted : Key) (change : Row → Row) (rows : List Row) : List Row :=
  updateWhere (fun row => decide (key row = wanted)) change rows

theorem mem_of_findBy {wanted : Key} (found : findBy key wanted rows = some row) : row ∈ rows ∧ key row = wanted := by
  refine ⟨mem_of_find?_eq_some found, ?_⟩
  simpa using List.find?_some found

theorem findBy_of_mem (nodup : (rows.map key).Nodup) (mem : row ∈ rows) : findBy key (key row) rows = some row := by
  induction rows with
  | nil => simp at mem
  | cons head rows ih =>
    rw [map_cons, nodup_cons] at nodup
    rcases mem_cons.mp mem with rfl | found
    · simp [findBy]
    · have ne : key head ≠ key row := fun same => nodup.1 (same ▸ mem_map_of_mem found)
      have tail := ih nodup.2 found
      simpa [findBy, ne] using tail

theorem findBy_isSome {wanted : Key} : (findBy key wanted rows).isSome ↔ ∃ row ∈ rows, key row = wanted := by
  simp [findBy]

theorem findBy_eq_none {wanted : Key} : findBy key wanted rows = none ↔ ∀ row ∈ rows, key row ≠ wanted := by
  simp [findBy]

theorem findBy_append {wanted : Key} {more : List Row} :
    findBy key wanted (rows ++ more) = (findBy key wanted rows).or (findBy key wanted more) := by
  simp [findBy]

theorem eq_of_key_eq (nodup : (rows.map key).Nodup) {other : Row} (mem : row ∈ rows)
    (also : other ∈ rows) (same : key row = key other) : row = other := by
  have first := findBy_of_mem nodup mem
  rw [same, findBy_of_mem nodup also] at first
  exact (Option.some.inj first).symm

theorem mem_updateBy {wanted : Key} {change : Row → Row} :
    row ∈ updateBy key wanted change rows ↔ ∃ old ∈ rows, row = if key old = wanted then change old else old := by
  simp [updateBy, mem_updateWhere]

theorem change_mem_updateBy {change : Row → Row} (mem : row ∈ rows) : change row ∈ updateBy key (key row) change rows :=
  mem_updateBy.mpr ⟨row, mem, (if_pos rfl).symm⟩

theorem changed_or_kept (nodup : (rows.map key).Nodup) (found : row ∈ rows) {change : Row → Row} {new : Row}
    (mem : new ∈ updateBy key (key row) change rows) : new = change row ∨ new ∈ rows ∧ key new ≠ key row := by
  obtain ⟨old, listed, rfl⟩ := mem_updateBy.mp mem
  split
  · rename_i same
    obtain rfl := eq_of_key_eq nodup listed found same
    exact .inl rfl
  · rename_i ne
    exact .inr ⟨listed, ne⟩

theorem map_key_updateBy {wanted : Key} {change : Row → Row} (kept : ∀ row, key (change row) = key row) :
    (updateBy key wanted change rows).map key = rows.map key :=
  map_updateWhere key fun row _ _ => kept row

theorem updateWhere_eq_updateBy {chosen : Row → Bool} (change : Row → Row)
    (nodup : (rows.map key).Nodup) (mem : row ∈ rows) (own : chosen row)
    (only : ∀ other, chosen other → key other = key row) :
    updateWhere chosen change rows = updateBy key (key row) change rows := by
  refine map_congr_left fun other found => ?_
  by_cases same : key other = key row
  · obtain rfl := eq_of_key_eq nodup found mem same
    simp [own]
  · have none : chosen other = false := Bool.eq_false_iff.mpr fun chosen => same (only other chosen)
    simp [none, same]

theorem key_mem_updateBy {wanted other : Key} {change : Row → Row} (mem : other ∈ rows.map key)
    (kept : ∀ row, key (change row) = key row) : other ∈ (updateBy key wanted change rows).map key := by
  rw [map_key_updateBy kept]
  exact mem

theorem findBy_updateWhere_other {wanted : Key} {chosen : Row → Bool} {change : Row → Row}
    (kept : ∀ row, key (change row) = key row) (other : ∀ row ∈ rows, chosen row → key row ≠ wanted) :
    findBy key wanted (updateWhere chosen change rows) = findBy key wanted rows := by
  induction rows with
  | nil => rfl
  | cons head rows ih =>
    have rest := ih fun row mem => other row (mem_cons_of_mem _ mem)
    simp only [findBy, updateWhere, map_cons] at rest ⊢
    by_cases picked : chosen head = true
    · have ne := other head mem_cons_self picked
      simp only [picked, if_true, List.find?_cons, kept, ne, decide_false, rest]
    · simp only [picked, Bool.false_eq_true, if_false, List.find?_cons, rest]

theorem findBy_updateBy {wanted other : Key} {change : Row → Row} (kept : ∀ row, key (change row) = key row) :
    findBy key other (updateBy key wanted change rows) =
      (findBy key other rows).map fun row => if key row = wanted then change row else row := by
  induction rows with
  | nil => rfl
  | cons head rows ih =>
    have same : key (if key head = wanted then change head else head) = key head := by
      split
      · exact kept head
      · rfl
    simp only [findBy, updateBy, updateWhere, map_cons, decide_eq_true_eq] at ih ⊢
    by_cases h : key head = other
    · subst h
      simp only [List.find?_cons, same, decide_true, Option.map_some]
    · simp only [List.find?_cons, same, h]
      exact ih

theorem sumBy_updateBy (measure : Row → ℤ) {change : Row → Row} (nodup : (rows.map key).Nodup) (mem : row ∈ rows) :
    sumBy measure (updateBy key (key row) change rows) = sumBy measure rows - measure row + measure (change row) := by
  induction rows with
  | nil => simp at mem
  | cons head rows ih =>
    rw [map_cons, nodup_cons] at nodup
    simp only [updateBy, updateWhere, map_cons, sumBy_cons] at ih ⊢
    rcases mem_cons.mp mem with rfl | found
    · have rest : updateWhere (fun other => decide (key other = key row)) change rows = rows :=
        updateWhere_none fun other inside => decide_eq_false fun same => nodup.1 (same ▸ mem_map_of_mem inside)
      rw [updateWhere] at rest
      rw [rest]
      simp
      ring
    · have ne : key head ≠ key row := fun same => nodup.1 (same ▸ mem_map_of_mem found)
      rw [ih nodup.2 found]
      simp [ne]
      ring

theorem sumBy_own (measure : Row → ℤ) (nodup : (rows.map key).Nodup) (mem : row ∈ rows) :
    sumBy (fun other => if key other = key row then measure other else 0) rows = measure row := by
  induction rows with
  | nil => simp at mem
  | cons head rows ih =>
    rw [map_cons, nodup_cons] at nodup
    rcases mem_cons.mp mem with rfl | found
    · have rest : sumBy (fun other => if key other = key row then measure other else 0) rows = 0 :=
        sumBy_zero _ fun other inside => if_neg fun same : key other = key row =>
          nodup.1 (same ▸ mem_map_of_mem inside)
      simp [rest]
    · have ne : key head ≠ key row := fun same => nodup.1 (same ▸ mem_map_of_mem found)
      simp [ne, ih nodup.2 found]

end

section

/-- Distinct ids, all handed out by a counter that stands at `next`. -/
structure Allocated (ids : List Nat) (next : Nat) : Prop where
  distinct : ids.Nodup
  below : ∀ id ∈ ids, id < next

variable {ids : List Nat} {next later : Nat}

theorem Allocated.nil : Allocated [] next := ⟨nodup_nil, by simp⟩

theorem Allocated.mono (allocated : Allocated ids next) (grows : next ≤ later) : Allocated ids later :=
  ⟨allocated.distinct, fun id mem => lt_of_lt_of_le (allocated.below id mem) grows⟩

theorem Allocated.sublist {fewer : List Nat} (allocated : Allocated ids next) (sub : fewer.Sublist ids) :
    Allocated fewer next :=
  ⟨allocated.distinct.sublist sub, fun id mem => allocated.below id (sub.subset mem)⟩

theorem Allocated.fresh (allocated : Allocated ids next) : next ∉ ids :=
  fun mem => lt_irrefl next (allocated.below next mem)

theorem Allocated.push (allocated : Allocated ids next) (grows : next < later) : Allocated (ids ++ [next]) later := by
  refine ⟨?_, fun id mem => ?_⟩
  · refine nodup_append.mpr ⟨allocated.distinct, by simp, fun id mem other same => ?_⟩
    rw [mem_singleton] at same
    rintro rfl
    exact allocated.fresh (same ▸ mem)
  · rcases mem_append.mp mem with old | new
    · exact lt_trans (allocated.below id old) grows
    · rw [mem_singleton] at new
      exact new ▸ grows

theorem Allocated.updateBy {Row : Type*} {key : Row → Nat} {rows : List Row} {wanted : Nat}
    {change : Row → Row} (allocated : Allocated (rows.map key) next) (grows : next ≤ later)
    (kept : ∀ row, key (change row) = key row) : Allocated ((updateBy key wanted change rows).map key) later := by
  rw [map_key_updateBy kept]
  exact allocated.mono grows

theorem Allocated.updateWhere {Row : Type*} {key : Row → Nat} {rows : List Row} {chosen : Row → Bool}
    {change : Row → Row} (allocated : Allocated (rows.map key) next) (grows : next ≤ later)
    (kept : ∀ row ∈ rows, chosen row → key (change row) = key row) :
    Allocated ((updateWhere chosen change rows).map key) later := by
  rw [map_updateWhere key kept]
  exact allocated.mono grows

theorem Allocated.append_range (allocated : Allocated ids next) (count : Nat) :
    Allocated (ids ++ List.range' next count) (next + count) := by
  refine ⟨?_, fun id mem => ?_⟩
  · refine nodup_append.mpr ⟨allocated.distinct, nodup_range', fun id old other new same => ?_⟩
    have below := allocated.below id old
    have above := (mem_range'_1.mp new).1
    omega
  · rcases mem_append.mp mem with old | new
    · have below := allocated.below id old
      omega
    · exact (mem_range'_1.mp new).2

theorem Allocated.extend (allocated : Allocated ids next) (count : Nat) :
    Allocated (ids ++ List.range' (next + 1) count) (next + 1 + count) :=
  (allocated.mono (Nat.le_succ next)).append_range count

theorem map_mapIdx_range {Row Other : Type*} (key : Row → Nat) (make : Nat → Other → Row) {base : Nat}
    (assigned : ∀ index row, key (make index row) = base + index) (rows : List Other) :
    (rows.mapIdx make).map key = List.range' base rows.length := by
  apply ext_getElem
  · simp
  · simp [assigned]

theorem Allocated.insert {Row : Type*} {key : Row → Nat} {rows : List Row} {row : Row}
    (allocated : Allocated (rows.map key) next) (assigned : key row = next) (grows : next < later) :
    Allocated ((rows ++ [row]).map key) later := by
  rw [map_append, map_singleton, assigned]
  exact allocated.push grows

end

end SmartResidence.Foundation

namespace SmartResidence.Foundation

variable {Row Key : Type*} [DecidableEq Key] {key : Row → Key} {rows : List Row} {row : Row} {wanted : Key}
  {change : Row → Row} {counts : Row → Bool}

theorem updateBy_split (nodup : (rows.map key).Nodup) (mem : row ∈ rows) :
    ∃ front back, rows = front ++ row :: back ∧
      ∀ change : Row → Row, updateBy key (key row) change rows = front ++ change row :: back := by
  obtain ⟨front, back, rfl⟩ := append_of_mem mem
  refine ⟨front, back, rfl, fun change => ?_⟩
  rw [map_append, map_cons, nodup_middle, nodup_cons, ← map_append] at nodup
  have others : ∀ other ∈ front ++ back, decide (key other = key row) = false := fun other listed =>
    decide_eq_false fun same => nodup.1 (same ▸ mem_map_of_mem listed)
  have before := @updateWhere_none _ _ change _ fun other listed => others other (mem_append_left _ listed)
  have behind := @updateWhere_none _ _ change _ fun other listed => others other (mem_append_right _ listed)
  unfold updateBy updateWhere at *
  rw [map_append, map_cons, before, behind, if_pos (decide_eq_true rfl)]

theorem countP_updateBy (nodup : (rows.map key).Nodup) :
    (updateBy key wanted change rows).countP counts ≤ rows.countP counts ∨
      ∃ row ∈ rows, key row = wanted ∧ counts (change row) = true ∧ counts row = false ∧
        (updateBy key wanted change rows).countP counts = rows.countP counts + 1 := by
  by_cases listed : ∃ row ∈ rows, key row = wanted
  · obtain ⟨row, mem, rfl⟩ := listed
    obtain ⟨front, back, split, updated⟩ := updateBy_split nodup mem
    have whole : rows.countP counts = front.countP counts + (row :: back).countP counts := by
      rw [split, countP_append]
    rw [updated, countP_append, whole, countP_cons, countP_cons]
    cases after : counts (change row) with
    | false =>
      simp
    | true =>
      cases before : counts row with
      | true =>
        simp
      | false =>
        refine .inr ⟨row, mem, rfl, after, before, ?_⟩
        simp
        omega
  · have same : updateBy key wanted change rows = rows :=
      updateWhere_none fun row mem => decide_eq_false fun here => listed ⟨row, mem, here⟩
    rw [same]
    exact .inl le_rfl

theorem countP_updateWhere_le {chosen : Row → Bool}
    (falls : ∀ row ∈ rows, chosen row = true → counts (change row) = true → counts row = true) :
    (updateWhere chosen change rows).countP counts ≤ rows.countP counts := by
  unfold updateWhere
  rw [countP_map]
  refine countP_mono_left fun row mem => ?_
  by_cases picked : chosen row = true
  · simpa [picked] using falls row mem picked
  · simp [picked]

omit [DecidableEq Key] in
theorem countP_le_of_keys {others : List Row} {counted : Row → Bool} (nodup : (rows.map key).Nodup)
    (found : ∀ row ∈ rows, counts row = true → ∃ other ∈ others, key other = key row ∧ counted other = true) :
    rows.countP counts ≤ others.countP counted := by
  have unique : ((rows.filter counts).map key).Nodup := nodup.sublist (filter_sublist.map key)
  have inside : (rows.filter counts).map key ⊆ (others.filter counted).map key := by
    intro id mem
    obtain ⟨row, here, rfl⟩ := mem_map.mp mem
    obtain ⟨listed, counts⟩ := mem_filter.mp here
    obtain ⟨other, there, same, also⟩ := found row listed counts
    exact mem_map.mpr ⟨other, mem_filter.mpr ⟨there, also⟩, same⟩
  have short := (subperm_of_subset unique inside).length_le
  rw [length_map, length_map] at short
  rwa [countP_eq_length_filter, countP_eq_length_filter]

end SmartResidence.Foundation

/-!
## Upserts

A row of a unique key is changed where it is, or appended.
-/

namespace SmartResidence.Foundation

variable {Row Key : Type*} [DecidableEq Key] {key : Row → Key} {wanted other : Key} {create : Row}
  {update : Row → Row} {rows : List Row}

def upsertBy (key : Row → Key) (wanted : Key) (create : Row) (update : Row → Row) (rows : List Row) : List Row :=
  if (findBy key wanted rows).isSome then updateBy key wanted update rows else rows ++ [create]

theorem findBy_upsertBy_self (assigned : key create = wanted) (kept : ∀ row, key (update row) = key row) :
    findBy key wanted (upsertBy key wanted create update rows) =
      some ((findBy key wanted rows).elim create update) := by
  unfold upsertBy
  cases found : findBy key wanted rows with
  | none =>
    rw [if_neg (by simp), findBy_append, found]
    simp [findBy, assigned]
  | some row =>
    have same := (mem_of_findBy found).2
    rw [if_pos Option.isSome_some, findBy_updateBy kept, found]
    simp [same]

theorem findBy_upsertBy_other (assigned : key create = wanted) (kept : ∀ row, key (update row) = key row)
    (ne : other ≠ wanted) : findBy key other (upsertBy key wanted create update rows) = findBy key other rows := by
  unfold upsertBy
  split
  · rw [findBy_updateBy kept]
    cases found : findBy key other rows with
    | none => rfl
    | some row =>
      have apart : key row ≠ wanted := (mem_of_findBy found).2 ▸ ne
      simp [apart]
  · have apart : wanted ≠ other := ne.symm
    simp [findBy, assigned, apart]

theorem nodup_upsertBy (assigned : key create = wanted) (kept : ∀ row, key (update row) = key row)
    (nodup : (rows.map key).Nodup) : ((upsertBy key wanted create update rows).map key).Nodup := by
  unfold upsertBy
  split
  · rw [map_key_updateBy kept]
    exact nodup
  · rename_i missing
    rw [map_append, map_singleton, assigned]
    refine nodup_append.mpr ⟨nodup, nodup_singleton _, ?_⟩
    intro taken mem new single same
    rw [mem_singleton.mp single] at same
    obtain ⟨row, listed, own⟩ := mem_map.mp mem
    exact missing (findBy_isSome.mpr ⟨row, listed, own.trans same⟩)

section

variable {State Value : Type*} (look : State → Key → Value) {touch : State → Key → State} {keys : List Key}

omit [DecidableEq Key] in
theorem look_foldl_other (apart : ∀ state key other, other ≠ key → look (touch state key) other = look state other)
    (absent : wanted ∉ keys) (state : State) : look (keys.foldl touch state) wanted = look state wanted := by
  induction keys generalizing state with
  | nil => rfl
  | cons head keys ih =>
    obtain ⟨ne, absent⟩ := ne_and_not_mem_of_not_mem_cons absent
    rw [foldl_cons, ih absent, apart _ _ _ ne]

theorem look_foldl_own (change : Key → Value → Value → Prop)
    (own : ∀ state key, change key (look state key) (look (touch state key) key))
    (apart : ∀ state key other, other ≠ key → look (touch state key) other = look state other)
    (nodup : keys.Nodup) (mem : wanted ∈ keys) (state : State) :
    change wanted (look state wanted) (look (keys.foldl touch state) wanted) := by
  induction keys generalizing state with
  | nil => cases mem
  | cons head keys ih =>
    obtain ⟨fresh, rest⟩ := nodup_cons.mp nodup
    rw [foldl_cons]
    by_cases same : wanted = head
    · subst same
      rw [look_foldl_other look apart fresh]
      exact own state wanted
    · have later := ih rest ((mem_cons.mp mem).resolve_left same) (touch state head)
      rwa [apart _ _ _ same] at later

end

end SmartResidence.Foundation
