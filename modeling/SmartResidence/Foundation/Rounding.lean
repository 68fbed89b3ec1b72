import Mathlib.Data.Rat.Floor
import Mathlib.Algebra.Order.Floor.Ring
import Mathlib.Tactic.Linarith
import Mathlib.Tactic.Positivity
import Mathlib.Tactic.NormNum

/-!
# Rounding to whole units
-/

namespace SmartResidence.Foundation

def roundHalfUp (x : ℚ) : ℤ := ⌊x + 1 / 2⌋

def roundHalfAway (x : ℚ) : ℤ := if 0 ≤ x then roundHalfUp x else - roundHalfUp (-x)

def Whole (x : ℚ) : Prop := ∃ n : ℤ, x = n

@[simp] theorem roundHalfUp_intCast (n : ℤ) : roundHalfUp n = n := by
  rw [roundHalfUp, Int.floor_eq_iff]
  constructor <;> linarith

@[simp] theorem roundHalfAway_intCast (n : ℤ) : roundHalfAway n = n := by
  rw [roundHalfAway]
  split
  · exact roundHalfUp_intCast n
  · rw [← Int.cast_neg, roundHalfUp_intCast, neg_neg]

@[simp] theorem roundHalfAway_zero : roundHalfAway 0 = 0 := by
  exact roundHalfAway_intCast 0

variable {x : ℚ} {n : ℤ}

theorem roundHalfUp_le_iff : roundHalfUp x ≤ n ↔ x < n + 1 / 2 := by
  rw [roundHalfUp, ← Int.lt_add_one_iff, Int.floor_lt]
  push_cast
  constructor <;> intro bound <;> linarith

theorem le_roundHalfUp_iff : n ≤ roundHalfUp x ↔ (n : ℚ) - 1 / 2 ≤ x := by
  rw [roundHalfUp, Int.le_floor]
  constructor <;> intro bound <;> linarith

theorem roundHalfAway_of_nonneg (nonneg : 0 ≤ x) : roundHalfAway x = roundHalfUp x :=
  if_pos nonneg

theorem roundHalfAway_nonneg (nonneg : 0 ≤ x) : 0 ≤ roundHalfAway x := by
  rw [roundHalfAway_of_nonneg nonneg, le_roundHalfUp_iff]
  linarith

theorem roundHalfUp_intCast_add (n : ℤ) (x : ℚ) : roundHalfUp (n + x) = n + roundHalfUp x := by
  rw [roundHalfUp, roundHalfUp, add_assoc, Int.floor_intCast_add]

theorem roundHalfAway_intCast_add (base : 0 ≤ n) (nonneg : 0 ≤ x) : roundHalfAway (n + x) = n + roundHalfAway x := by
  have cast : (0 : ℚ) ≤ n := by exact_mod_cast base
  rw [roundHalfAway_of_nonneg nonneg, roundHalfAway_of_nonneg (add_nonneg cast nonneg), roundHalfUp_intCast_add]

theorem roundHalfAway_neg (x : ℚ) : roundHalfAway (-x) = - roundHalfAway x := by
  rcases lt_trichotomy x 0 with negative | rfl | pos
  · simp [roundHalfAway, negative.le, not_le.mpr negative]
  · simp
  · simp [roundHalfAway, pos.le, not_le.mpr pos]

theorem Whole.intCast (n : ℤ) : Whole n := ⟨n, rfl⟩

theorem Whole.ofNat (n : ℕ) [n.AtLeastTwo] : Whole (OfNat.ofNat n : ℚ) := ⟨OfNat.ofNat n, by simp⟩

theorem Whole.cast_roundHalfAway (whole : Whole x) : (roundHalfAway x : ℚ) = x := by
  obtain ⟨n, rfl⟩ := whole
  simp

end SmartResidence.Foundation
