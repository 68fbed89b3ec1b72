import Mathlib.Data.List.Nodup
import Mathlib.Data.List.Dedup
import Mathlib.Data.List.Induction
import Mathlib.Algebra.BigOperators.Group.List.Basic
import Mathlib.Tactic.Ring

/-!
# Records

The entries of a JavaScript object or `Map`, in the order in which their keys were first assigned.
-/

open List

namespace SmartResidence.Foundation

variable {Key Value Other : Type*} [DecidableEq Key] {entries : List (Key × Value)} {key other : Key} {value : Value}

def assign (key : Key) (value : Value) : List (Key × Value) → List (Key × Value)
  | [] => [(key, value)]
  | entry :: rest => if entry.1 = key then (key, value) :: rest else entry :: assign key value rest

@[simp] theorem lookup_assign_self : (assign key value entries).lookup key = some value := by
  induction entries with
  | nil => simp [assign]
  | cons entry rest ih =>
    unfold assign
    split
    · simp
    · rename_i ne
      have apart : (key == entry.1) = false := beq_eq_false_iff_ne.mpr fun same => ne same.symm
      rw [lookup_cons, apart]
      exact ih

theorem lookup_assign_other (ne : other ≠ key) : (assign key value entries).lookup other = entries.lookup other := by
  induction entries with
  | nil =>
    have apart : (other == key) = false := beq_eq_false_iff_ne.mpr ne
    simp [assign, lookup_cons, apart]
  | cons entry rest ih =>
    unfold assign
    split
    · rename_i same
      have apart : (other == key) = false := beq_eq_false_iff_ne.mpr ne
      rw [lookup_cons, lookup_cons, same, apart]
    · rw [lookup_cons, lookup_cons, ih]

theorem assigned_mem : (key, value) ∈ assign key value entries := by
  induction entries with
  | nil => exact mem_singleton_self _
  | cons entry rest ih =>
    unfold assign
    split
    · exact mem_cons_self
    · exact mem_cons_of_mem _ ih

variable {entry : Key × Value}

theorem mem_assign_of_ne (ne : entry.1 ≠ key) (mem : entry ∈ entries) : entry ∈ assign key value entries := by
  induction entries with
  | nil => cases mem
  | cons first rest ih =>
    unfold assign
    rcases mem_cons.mp mem with rfl | later
    · rw [if_neg ne]
      exact mem_cons_self
    · split
      · exact mem_cons_of_mem _ later
      · exact mem_cons_of_mem _ (ih later)

theorem mem_assign (mem : entry ∈ assign key value entries) : entry = (key, value) ∨ entry ∈ entries := by
  induction entries with
  | nil => exact .inl (mem_singleton.mp mem)
  | cons first rest ih =>
    unfold assign at mem
    split at mem
    · rcases mem_cons.mp mem with new | later
      · exact .inl new
      · exact .inr (mem_cons_of_mem _ later)
    · rcases mem_cons.mp mem with rfl | later
      · exact .inr mem_cons_self
      · exact (ih later).imp_right (mem_cons_of_mem _)

theorem nodup_assign (nodup : (entries.map Prod.fst).Nodup) : ((assign key value entries).map Prod.fst).Nodup := by
  induction entries with
  | nil => exact nodup_singleton _
  | cons first rest ih =>
    obtain ⟨fresh, others⟩ := nodup_cons.mp nodup
    unfold assign
    split
    · rename_i same
      subst same
      exact nodup
    · rename_i ne
      refine nodup_cons.mpr ⟨fun stored => ?_, ih others⟩
      obtain ⟨entry, mem, same⟩ := mem_map.mp stored
      rcases mem_assign mem with rfl | old
      · exact ne same.symm
      · exact fresh (same ▸ mem_map_of_mem old)

theorem lookup_of_mem (nodup : (entries.map Prod.fst).Nodup) (mem : (key, value) ∈ entries) :
    entries.lookup key = some value := by
  induction entries with
  | nil => cases mem
  | cons first rest ih =>
    obtain ⟨fresh, others⟩ := nodup_cons.mp nodup
    rcases mem_cons.mp mem with rfl | later
    · exact lookup_cons_self
    · have apart : (key == first.1) = false :=
        beq_eq_false_iff_ne.mpr fun same => fresh (same ▸ mem_map_of_mem later)
      rw [lookup_cons, apart]
      exact ih others later

theorem mem_of_lookup (found : entries.lookup key = some value) : (key, value) ∈ entries := by
  obtain ⟨before, after, rfl, -⟩ := lookup_eq_some_iff.mp found
  exact mem_append_right _ mem_cons_self

theorem lookup_missing {keyed : List (Key × Other)} (missing : key ∉ keyed.map Prod.fst) : keyed.lookup key = none := by
  rw [lookup_eq_none_iff]
  intro entry mem
  have apart : key ≠ entry.1 := fun same => missing (same ▸ mem_map_of_mem mem)
  exact bne_iff_ne.mpr apart

theorem lookup_perm {others : List (Key × Value)} (nodup : (entries.map Prod.fst).Nodup) (same : entries.Perm others) :
    entries.lookup key = others.lookup key := by
  have also : (others.map Prod.fst).Nodup := (same.map Prod.fst).nodup_iff.mp nodup
  apply Option.ext
  intro value
  constructor
  · intro found
    exact lookup_of_mem also (same.mem_iff.mp (mem_of_lookup found))
  · intro found
    exact lookup_of_mem nodup (same.mem_iff.mpr (mem_of_lookup found))

def assignAll (news entries : List (Key × Value)) : List (Key × Value) :=
  news.foldl (fun entries entry => assign entry.1 entry.2 entries) entries

theorem lookup_assignAll {news : List (Key × Value)} (nodup : (news.map Prod.fst).Nodup) :
    (assignAll news entries).lookup key = (news.lookup key).or (entries.lookup key) := by
  induction news generalizing entries with
  | nil => rfl
  | cons entry rest ih =>
    obtain ⟨fresh, others⟩ := nodup_cons.mp nodup
    show (assignAll rest (assign entry.1 entry.2 entries)).lookup key = _
    rw [ih others, lookup_cons]
    by_cases same : key = entry.1
    · subst same
      rw [lookup_missing fresh, lookup_assign_self, beq_self_eq_true]
      rfl
    · rw [lookup_assign_other same, beq_eq_false_iff_ne.mpr same]

def present (fields : List (Key × Option Value)) : List (Key × Value) :=
  fields.filterMap fun field => field.2.map fun value => (field.1, value)

theorem lookup_present {fields : List (Key × Option Value)} (nodup : (fields.map Prod.fst).Nodup) :
    (present fields).lookup key = (fields.lookup key).join := by
  induction fields with
  | nil => rfl
  | cons field rest ih =>
    obtain ⟨name, value⟩ := field
    obtain ⟨fresh, others⟩ := nodup_cons.mp nodup
    by_cases own : key = name
    · subst own
      cases value with
      | some value => simp [present]
      | none =>
        have later := ih others
        rw [lookup_missing fresh] at later
        simpa [present] using later
    · have apart : (key == name) = false := beq_eq_false_iff_ne.mpr own
      rw [lookup_cons, apart]
      cases value with
      | none => exact ih others
      | some value =>
        have step : (present ((name, some value) :: rest)).lookup key = (present rest).lookup key := by
          show ((name, value) :: present rest).lookup key = _
          rw [lookup_cons, apart]
        exact step.trans (ih others)

/-- The members of a `Set`, in the order in which they were first added. -/
def membersOf (added : List Key) : List Key := added.reverse.dedup.reverse

@[simp] theorem mem_membersOf {added : List Key} : key ∈ membersOf added ↔ key ∈ added := by
  unfold membersOf
  rw [mem_reverse, mem_dedup, mem_reverse]

theorem nodup_membersOf (added : List Key) : (membersOf added).Nodup := by
  exact nodup_reverse.mpr (nodup_dedup _)

end SmartResidence.Foundation

/-!
## Rows gathered by a key

A `Map` that a loop over rows fills, each row added to what its key has so far.
-/

namespace SmartResidence.Foundation

variable {Key Value : Type*} [DecidableEq Key] {entries : List (Key × Value)} {key : Key} {value : Value}

theorem map_fst_assign : (assign key value entries).map Prod.fst =
    if key ∈ entries.map Prod.fst then entries.map Prod.fst else entries.map Prod.fst ++ [key] := by
  induction entries with
  | nil => rfl
  | cons first rest ih =>
    unfold assign
    split
    · rename_i same
      subst same
      simp
    · rename_i ne
      have apart : key ≠ first.1 := fun same => ne same.symm
      rw [map_cons, ih, map_cons]
      simp only [mem_cons, apart, false_or]
      split <;> rfl

theorem sum_assign (measure : Value → ℤ) : ((assign key value entries).map fun entry => measure entry.2).sum =
    (entries.map fun entry => measure entry.2).sum + measure value - (entries.lookup key).elim 0 measure := by
  induction entries with
  | nil => simp [assign]
  | cons first rest ih =>
    obtain ⟨name, old⟩ := first
    unfold assign
    split
    · rename_i same
      subst same
      simp only [map_cons, sum_cons, lookup_cons_self, Option.elim_some]
      ring
    · rename_i ne
      have apart : (key == name) = false := beq_eq_false_iff_ne.mpr fun same => ne same.symm
      rw [map_cons, sum_cons, ih, map_cons, sum_cons, lookup_cons, apart]
      ring

section

variable {Row : Type*} (keyOf : Row → Key) (start : Key → Value) (add : Value → Row → Value) (rows : List Row)

def gathered : List (Key × Value) :=
  rows.foldl (fun entries row => assign (keyOf row) (add ((entries.lookup (keyOf row)).getD (start (keyOf row))) row) entries) []

theorem gathered_append (row : Row) : gathered keyOf start add (rows ++ [row]) =
    assign (keyOf row) (add (((gathered keyOf start add rows).lookup (keyOf row)).getD (start (keyOf row))) row)
      (gathered keyOf start add rows) := by
  unfold gathered
  rw [foldl_append]
  rfl

theorem lookup_gathered : ((gathered keyOf start add rows).lookup key).getD (start key) =
    (rows.filter fun row => decide (keyOf row = key)).foldl add (start key) := by
  induction rows using List.reverseRecOn with
  | nil => rfl
  | append_singleton rows row ih =>
    rw [gathered_append]
    by_cases own : keyOf row = key
    · subst own
      rw [ih]
      simp
    · rw [lookup_assign_other (Ne.symm own), ih]
      simp [own]

theorem mem_keys_gathered : key ∈ (gathered keyOf start add rows).map Prod.fst ↔ key ∈ rows.map keyOf := by
  induction rows using List.reverseRecOn with
  | nil => exact Iff.rfl
  | append_singleton rows row ih =>
    rw [gathered_append, map_fst_assign, map_append, mem_append, ← ih]
    split
    · constructor
      · exact Or.inl
      · rintro (old | new)
        · exact old
        · rwa [mem_singleton.mp new]
    · exact mem_append

theorem nodup_gathered : ((gathered keyOf start add rows).map Prod.fst).Nodup := by
  induction rows using List.reverseRecOn with
  | nil => exact nodup_nil
  | append_singleton rows row ih =>
    rw [gathered_append]
    exact nodup_assign ih

theorem sum_gathered (measure : Value → ℤ) (amount : Row → ℤ) (empty : ∀ key, measure (start key) = 0)
    (step : ∀ value row, measure (add value row) = measure value + amount row) :
    ((gathered keyOf start add rows).map fun entry => measure entry.2).sum = (rows.map amount).sum := by
  induction rows using List.reverseRecOn with
  | nil => rfl
  | append_singleton rows row ih =>
    rw [gathered_append, sum_assign, ih, step, map_append, sum_append]
    cases (gathered keyOf start add rows).lookup (keyOf row) with
    | none => simp [empty]
    | some value =>
      simp only [Option.getD_some, Option.elim_some, map_singleton, sum_singleton]
      ring

end

end SmartResidence.Foundation
