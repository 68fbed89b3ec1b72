import Mathlib.Data.Int.LeastGreatest
import Mathlib.Order.Interval.Set.OrdConnectedLinear

/-!
# Bisection

The first position that is not below the wanted one, where positions can only be compared with it.
-/

namespace SmartResidence.Foundation

/-- Searches from `low` on and before `high`; the answer is `high` where all are below. -/
def bisect (below : ℤ → Bool) (low high : ℤ) : ℤ :=
  if low < high then
    let mid := (low + high) / 2
    if below mid then bisect below (mid + 1) high else bisect below low mid
  else low
termination_by (high - low).toNat
decreasing_by all_goals omega

section

variable {below : ℤ → Bool} {low high boundary : ℤ}

theorem bisect_right (some : low < high) (under : below ((low + high) / 2) = true) :
    bisect below low high = bisect below ((low + high) / 2 + 1) high := by
  rw [bisect]
  simp [some, under]

theorem bisect_left (some : low < high) (outside : below ((low + high) / 2) = false) :
    bisect below low high = bisect below low ((low + high) / 2) := by
  rw [bisect]
  simp [some, outside]

theorem bisect_eq (first : low ≤ boundary) (last : boundary ≤ high)
    (splits : ∀ position, low ≤ position → position < high → (below position = true ↔ position < boundary)) :
    bisect below low high = boundary := by
  fun_induction bisect below low high with
  | case1 low high some mid under ih =>
    have before := (splits mid (by omega) (by omega)).mp under
    exact ih (by omega) last fun position from' upTo => splits position (by omega) upTo
  | case2 low high some mid outside ih =>
    have behind : boundary ≤ mid := not_lt.mp fun before => outside ((splits mid (by omega) (by omega)).mpr before)
    exact ih first behind fun position from' upTo => splits position from' (by omega)
  | case3 low high none => omega

theorem bisect_of_all (ordered : low ≤ high) (none : ∀ position, low ≤ position → position < high → below position = false) :
    bisect below low high = low := by
  refine bisect_eq le_rfl ordered fun position from' upTo => ?_
  simp [none position from' upTo, from']

theorem bisect_bounds : low ≤ bisect below low high ∧ bisect below low high ≤ max low high := by
  fun_induction bisect below low high with
  | case1 low high some mid under ih => omega
  | case2 low high some mid outside ih => omega
  | case3 low high none => omega

def probes (target low high : ℤ) : List ℤ :=
  if low < high then
    let mid := (low + high) / 2
    mid :: if mid < target then probes target (mid + 1) high else probes target low mid
  else []
termination_by (high - low).toNat
decreasing_by all_goals omega

variable {target : ℤ}

theorem probes_right (some : low < high) (before : (low + high) / 2 < target) :
    probes target low high = (low + high) / 2 :: probes target ((low + high) / 2 + 1) high := by
  rw [probes]
  simp [some, before]

theorem probes_left (some : low < high) (behind : ¬ (low + high) / 2 < target) :
    probes target low high = (low + high) / 2 :: probes target low ((low + high) / 2) := by
  rw [probes]
  simp [some, behind]

theorem bisect_eq_iff : bisect below low high = target ↔ low ≤ target ∧ target ≤ max low high ∧
    ∀ position ∈ probes target low high, (below position = true ↔ position < target) := by
  fun_induction bisect below low high with
  | case1 low high some mid under ih =>
    by_cases before : mid < target
    · have same : (below mid = true ↔ mid < target) := iff_of_true under before
      rw [ih, probes_right some before, List.forall_mem_cons, and_iff_right same, ← and_assoc, ← and_assoc]
      apply and_congr_left'
      omega
    · rw [probes_left some before, List.forall_mem_cons]
      constructor
      · omega
      · rintro ⟨-, -, splits, -⟩
        exact absurd (splits.mp under) before
  | case2 low high some mid outside ih =>
    by_cases before : mid < target
    · rw [probes_right some before, List.forall_mem_cons]
      constructor
      · omega
      · rintro ⟨-, -, splits, -⟩
        exact absurd (splits.mpr before) outside
    · have same : (below mid = true ↔ mid < target) := iff_of_false outside before
      rw [ih, probes_left some before, List.forall_mem_cons, and_iff_right same, ← and_assoc, ← and_assoc]
      apply and_congr_left'
      omega
  | case3 low high none =>
    rw [probes, if_neg none]
    simp only [List.not_mem_nil, false_imp_iff, implies_true, and_true]
    omega

end

section

variable {level : ℤ → ℤ} {low high wanted : ℤ}

theorem exists_isLeast_level (mono : Monotone level) (steps : ∀ position, level (position + 1) ≤ level position + 1)
    (before : level low < wanted) (after : wanted ≤ level high) :
    ∃ boundary, low < boundary ∧ boundary ≤ high ∧ IsLeast {position | level position = wanted} boundary ∧
      ∀ position, wanted ≤ level position ↔ boundary ≤ position := by
  obtain ⟨boundary, reached, least⟩ := Int.exists_least_of_bdd (P := fun position => wanted ≤ level position)
    ⟨low, fun position reached => le_of_lt (mono.reflect_lt (before.trans_le reached))⟩ ⟨high, after⟩
  have unreached : level (boundary - 1) < wanted := by
    by_contra reached'
    have := least (boundary - 1) (not_lt.mp reached')
    omega
  have exact' : level boundary = wanted := by
    have step := steps (boundary - 1)
    rw [Int.sub_add_cancel] at step
    omega
  refine ⟨boundary, mono.reflect_lt (before.trans_le reached), least high after,
    ⟨exact', fun position same => least position same.ge⟩, fun position => ⟨least position, fun behind => ?_⟩⟩
  exact reached.trans (mono behind)

end

end SmartResidence.Foundation
