import Mathlib.Data.List.Nodup
import Mathlib.Data.List.Sort
import Mathlib.Tactic.Ring

/-!
# Windows of an order with ties

A database may return rows of the same key in any order, and in another one the next time.
-/

namespace SmartResidence.Foundation

open List

variable {Row : Type*} {before : Row → Row → Prop} {rows listed other first second : List Row} {row : Row} {limit m n : Nat}

structure Arranged (before : Row → Row → Prop) (rows listed : List Row) : Prop where
  perm : listed.Perm rows
  sorted : listed.Pairwise before

theorem Arranged.append (left : Arranged before rows listed) (right : Arranged before first second)
    (across : ∀ row ∈ rows, ∀ next ∈ first, before row next) : Arranged before (rows ++ first) (listed ++ second) := by
  refine ⟨left.perm.append right.perm, ?_⟩
  apply pairwise_append.mpr
  refine ⟨left.sorted, right.sorted, fun row mem next member' => ?_⟩
  exact across row (left.perm.mem_iff.mp mem) next (right.perm.mem_iff.mp member')

theorem arranged_singleton (row : Row) : Arranged before [row] [row] := ⟨.rfl, pairwise_singleton _ _⟩

section

variable [DecidableRel before] (trans : ∀ a b c, before a b → before b c → before a c) (total : ∀ a b, before a b ∨ before b a)
include trans total

theorem arranged_mergeSort (rows : List Row) : Arranged before rows (rows.mergeSort fun a b => decide (before a b)) := by
  refine ⟨mergeSort_perm rows _, ?_⟩
  have sorted := @List.pairwise_mergeSort _ (fun a b => decide (before a b)) (by simpa using trans) (by simpa using total) rows
  simpa using sorted

theorem forall_mem_take_iff (nodup : rows.Nodup) (mem : row ∈ rows) :
    (∀ listed, Arranged before rows listed → row ∈ listed.take n) ↔ rows.countP (fun other => decide (before other row)) ≤ n := by
  have own : before row row := (total row row).elim id id
  constructor
  · intro always
    by_contra many
    obtain ⟨left, right, rfl⟩ := append_of_mem mem
    have apart : row ∉ left ++ right := (nodup_middle.mp nodup).notMem
    -- The order in which all others that may come before the row do so.
    let lower := (left ++ right).filter fun other => decide (before other row)
    let upper := (left ++ right).filter fun other => !decide (before other row)
    have precede : ∀ other ∈ lower, before other row := fun other found => of_decide_eq_true (mem_filter.mp found).2
    have follow : ∀ other ∈ upper, before row other := fun other found => by
      have behind : ¬ before other row := by simpa using (mem_filter.mp found).2
      exact (total row other).resolve_right behind
    have rest : Arranged before ([row] ++ upper) _ := (arranged_singleton row).append (arranged_mergeSort trans total upper)
      fun own single other found => mem_singleton.mp single ▸ follow other found
    have last := (arranged_mergeSort trans total lower).append rest fun other found next later => by
      rcases mem_append.mp later with single | behind
      · exact mem_singleton.mp single ▸ precede other found
      · exact trans _ _ _ (precede other found) (follow next behind)
    have same : (lower ++ ([row] ++ upper)).Perm (left ++ row :: right) :=
      (perm_middle.trans ((filter_append_perm _ _).cons row)).trans perm_middle.symm
    have place := always _ ⟨last.perm.trans same, last.sorted⟩
    have enough : n ≤ lower.length := by
      rw [countP_eq_length_filter, filter_append, filter_cons_of_pos (by simpa using own), length_append,
        length_cons] at many
      simp only [lower, filter_append, length_append]
      omega
    rw [take_append, length_mergeSort, Nat.sub_eq_zero_of_le enough, take_zero, append_nil] at place
    exact apart (mem_of_mem_filter (mem_mergeSort.mp (mem_of_mem_take place)))
  · intro few listed arranged
    obtain ⟨left, right, same⟩ := append_of_mem (arranged.perm.mem_iff.mpr mem)
    subst same
    have earlier : ∀ other ∈ left, before other row := fun other listed =>
      (pairwise_append.mp arranged.sorted).2.2 other listed row mem_cons_self
    have counted : left.length + 1 ≤ n := by
      refine le_trans ?_ few
      rw [← arranged.perm.countP_eq, countP_append, countP_cons_of_pos (by simpa using own),
        countP_eq_length.mpr (by simpa using earlier)]
      omega
    rw [take_append]
    apply mem_append_right
    have some : n - left.length = (n - left.length - 1) + 1 := by omega
    rw [some]
    exact mem_cons_self

end

def pageAt (limit page : Nat) (listed : List Row) : List Row := (listed.drop (page * limit)).take limit

/-- The rows before and after position `m` may come in either order. -/
def TiedAt (before : Row → Row → Prop) (listed : List Row) (m : Nat) : Prop :=
  ∃ earlier last next later, listed = earlier ++ last :: next :: later ∧ earlier.length + 1 = m ∧ before next last

theorem mem_pageAt {page : Nat} : row ∈ pageAt limit page listed ↔ ∃ i < limit, listed[page * limit + i]? = some row := by
  unfold pageAt
  rw [mem_iff_getElem?]
  constructor
  · rintro ⟨i, found⟩
    rw [List.getElem?_take] at found
    split at found
    · rename_i mem
      exact ⟨i, mem, by rwa [List.getElem?_drop] at found⟩
    · cases found
  · rintro ⟨i, mem, found⟩
    refine ⟨i, ?_⟩
    rw [List.getElem?_take, if_pos mem, List.getElem?_drop]
    exact found

theorem take_succ_page (limit page : Nat) (listed : List Row) :
    listed.take ((page + 1) * limit) = listed.take (page * limit) ++ pageAt limit page listed := by
  rw [Nat.succ_mul, take_add]
  rfl

theorem filter_append_rest {lower : Row → Bool} (passes : ∀ a b, before a b → lower b → lower a) (sorted : listed.Pairwise before) :
    listed.filter lower ++ listed.filter (fun row => !lower row) = listed := by
  induction listed with
  | nil => rfl
  | cons row listed ih =>
    obtain ⟨first, rest⟩ := pairwise_cons.mp sorted
    by_cases low : lower row
    · rw [filter_cons_of_pos low, filter_cons_of_neg (by simpa using low), cons_append, ih rest]
    · have none : listed.filter lower = [] :=
        filter_eq_nil_iff.mpr fun next mem lower' => low (passes _ _ (first next mem) lower')
      have all : listed.filter (fun row => !lower row) = listed :=
        filter_eq_self.mpr fun next mem => by simpa using filter_eq_nil_iff.mp none next mem
      rw [filter_cons_of_neg low, filter_cons_of_pos (by simpa using low), none, all, nil_append]

theorem exists_boundary (some : 0 < m) (mem : m < listed.length) :
    ∃ earlier last next later, listed = earlier ++ last :: next :: later ∧ earlier.length + 1 = m := by
  refine ⟨listed.take (m - 1), listed[m - 1], listed[m], listed.drop (m + 1), ?_, ?_⟩
  · rw [getElem_cons_drop]
    have step := @List.getElem_cons_drop _ listed (m - 1) (by omega)
    rw [Nat.sub_add_cancel some] at step
    rw [step, take_append_drop]
  · rw [length_take]
    omega

section

variable [DecidableRel before] (trans : ∀ a b c, before a b → before b c → before a c) (refl : ∀ a, before a a)
include trans refl

theorem Arranged.take_perm (arranged : Arranged before rows listed) (clean : ¬ TiedAt before listed m)
    (also : Arranged before rows other) : (other.take m).Perm (listed.take m) := by
  have same := also.perm.trans arranged.perm.symm
  rcases Nat.eq_zero_or_pos m with rfl | some
  · exact .rfl
  rcases Nat.lt_or_ge m listed.length with inside | all
  swap
  · rw [take_of_length_le all, take_of_length_le (same.length_eq ▸ all)]
    exact same
  obtain ⟨earlier, last, next, later, shape, place⟩ := exists_boundary some inside
  have behind : ¬ before next last := fun tie => clean ⟨earlier, last, next, later, shape, place, tie⟩
  have sorted := arranged.sorted
  rw [shape] at sorted
  obtain ⟨-, right, across⟩ := pairwise_append.mp sorted
  obtain ⟨-, right⟩ := pairwise_cons.mp right
  obtain ⟨following, -⟩ := pairwise_cons.mp right
  let lower := fun row => decide (before row last)
  have passes : ∀ a b, before a b → lower b → lower a := fun a b ahead low =>
    decide_eq_true (trans _ _ _ ahead (of_decide_eq_true low))
  have front : listed.filter lower = listed.take m := by
    have ahead : earlier.filter lower = earlier :=
      filter_eq_self.mpr fun row mem => decide_eq_true (across row mem last mem_cons_self)
    have own : lower last := decide_eq_true (refl last)
    have gone : (next :: later).filter lower = [] := by
      apply filter_eq_nil_iff.mpr
      intro row mem low
      rcases mem_cons.mp mem with rfl | after
      · exact behind (of_decide_eq_true low)
      · exact behind (trans _ _ _ (following row after) (of_decide_eq_true low))
    rw [shape, filter_append, filter_cons_of_pos own, ahead, gone, ← place, take_length_add_append]
    rfl
  have found := same.filter lower
  have length : (other.filter lower).length = m := by
    rw [found.length_eq, front, length_take]
    omega
  have start : other.take m = other.filter lower := by
    conv_lhs => rw [← filter_append_rest passes also.sorted]
    rw [← length, take_left]
  rw [start, ← front]
  exact found

theorem pages_perm {orders : Nat → List Row} (arranged : Arranged before rows listed)
    (clean : ∀ page, ¬ TiedAt before listed ((page + 1) * limit)) (each : ∀ page, Arranged before rows (orders page)) (pages : Nat) :
    ((List.range pages).flatMap fun page => pageAt limit page (orders page)).Perm (listed.take (pages * limit)) := by
  have start : ∀ page, ((orders page).take (page * limit)).Perm (listed.take (page * limit)) := by
    intro page
    cases page with
    | zero => rw [Nat.zero_mul, take_zero, take_zero]
    | succ page => exact arranged.take_perm trans refl (clean page) (each _)
  induction pages with
  | zero => simp
  | succ pages ih =>
    have next := arranged.take_perm trans refl (clean pages) (each pages)
    rw [take_succ_page, take_succ_page] at next
    have own : (pageAt limit pages (orders pages)).Perm (pageAt limit pages listed) :=
      (perm_append_left_iff _).mp (((start pages).symm.append_right _).trans next)
    rw [range_succ, take_succ_page]
    simpa using ih.append own

end

theorem exists_repeated {page pages : Nat} (arranged : Arranged before rows listed)
    (tied : TiedAt before listed ((page + 1) * limit)) (pos : 0 < limit) (inside : page + 1 < pages) :
    ∃ orders : Nat → List Row, (∀ page, Arranged before rows (orders page)) ∧
      ¬ ((List.range pages).flatMap fun page => pageAt limit page (orders page)).Nodup := by
  obtain ⟨earlier, last, next, later, rfl, place, tie⟩ := tied
  have swapped : Arranged before rows (earlier ++ next :: last :: later) := by
    refine ⟨((List.Perm.swap last next later).append_left earlier).trans arranged.perm, ?_⟩
    obtain ⟨left, right, across⟩ := pairwise_append.mp arranged.sorted
    obtain ⟨first, rest⟩ := pairwise_cons.mp right
    obtain ⟨second, rest⟩ := pairwise_cons.mp rest
    apply pairwise_append.mpr
    refine ⟨left, pairwise_cons.mpr ⟨?_, pairwise_cons.mpr ⟨?_, rest⟩⟩, ?_⟩
    · intro row mem
      rcases mem_cons.mp mem with rfl | after
      · exact tie
      · exact second row after
    · exact fun row after => first row (mem_cons_of_mem _ after)
    · intro row mem other listed
      apply across row mem other
      simp only [mem_cons] at listed ⊢
      tauto
  let orders := fun number => if number ≤ page then earlier ++ last :: next :: later else earlier ++ next :: last :: later
  refine ⟨orders, fun number => ?_, fun nodup => ?_⟩
  · by_cases early : number ≤ page
    · simpa [orders, early] using arranged
    · simpa [orders, early] using swapped
  · obtain ⟨-, apart⟩ := nodup_flatMap.mp nodup
    have disjoint := pairwise_iff_getElem.mp apart page (page + 1) (by simpa using by omega) (by simpa using inside) (by omega)
    simp only [getElem_range] at disjoint
    have position : (page + 1) * limit = page * limit + limit := Nat.succ_mul page limit
    have ends : last ∈ pageAt limit page (orders page) := by
      apply mem_pageAt.mpr
      refine ⟨limit - 1, by omega, ?_⟩
      have index : page * limit + (limit - 1) = earlier.length := by omega
      simp [orders, index]
    have begins : last ∈ pageAt limit (page + 1) (orders (page + 1)) := by
      apply mem_pageAt.mpr
      refine ⟨0, pos, ?_⟩
      have index : (page + 1) * limit + 0 = earlier.length + 1 := by omega
      simp [orders, index]
    exact disjoint ends begins

theorem pages_perm_iff [DecidableRel before] (trans : ∀ a b c, before a b → before b c → before a c) (refl : ∀ a, before a a)
    (arranged : Arranged before rows listed) (nodup : rows.Nodup) (pos : 0 < limit) :
    (∀ orders : Nat → List Row, (∀ page, Arranged before rows (orders page)) →
      ((List.range (rows.length / limit + 1)).flatMap fun page => pageAt limit page (orders page)).Perm rows) ↔
      ∀ page, ¬ TiedAt before listed ((page + 1) * limit) := by
  have enough : rows.length < (rows.length / limit + 1) * limit := by
    rw [Nat.mul_comm]
    exact Nat.lt_mul_div_succ _ pos
  constructor
  · intro covers page tied
    obtain ⟨earlier, last, next, later, shape, place, -⟩ := id tied
    have within : (page + 1) * limit < rows.length := by
      rw [← arranged.perm.length_eq, shape, length_append, length_cons, length_cons]
      omega
    have mem : page + 1 < rows.length / limit + 1 := Nat.lt_succ_of_le ((Nat.le_div_iff_mul_le pos).mpr within.le)
    obtain ⟨orders, each, repeated⟩ := exists_repeated arranged tied pos mem
    exact repeated ((covers orders each).nodup_iff.mpr nodup)
  · intro clean orders each
    have found := pages_perm trans refl arranged clean each (rows.length / limit + 1)
    rw [take_of_length_le (by rw [arranged.perm.length_eq]; exact enough.le)] at found
    exact found.trans arranged.perm

end SmartResidence.Foundation
