import Mathlib.Data.Int.Log
import Mathlib.Tactic.FieldSimp
import SmartResidence.Foundation.Rounding

/-!
# The double nearest to a number
-/

namespace SmartResidence.Foundation

def roundHalfEven (x : ℚ) : ℤ :=
  if x - ⌊x⌋ < 1 / 2 then ⌊x⌋
  else if 1 / 2 < x - ⌊x⌋ then ⌊x⌋ + 1
  else if ⌊x⌋ % 2 = 0 then ⌊x⌋
  else ⌊x⌋ + 1

def lastPlace (x : ℚ) : ℤ := max (Int.log 2 |x| - 52) (-1074)

def double (x : ℚ) : Option ℚ :=
  let rounded := (roundHalfEven (x / 2 ^ lastPlace x) : ℚ) * 2 ^ lastPlace x
  if |rounded| < 2 ^ 1024 then some rounded else none

variable {x y : ℚ}

theorem le_roundHalfEven {n : ℤ} (le : n ≤ x) : n ≤ roundHalfEven x := by
  have floor : n ≤ ⌊x⌋ := Int.le_floor.mpr le
  unfold roundHalfEven
  split
  · exact floor
  · split
    · omega
    · split <;> omega

theorem roundHalfEven_intCast (n : ℤ) : roundHalfEven n = n := by
  rw [roundHalfEven, Int.floor_intCast, if_pos (by norm_num)]

variable {n : ℕ}

theorem integer_places {place : ℤ} (nonpos : place ≤ 0) : ((n * 2 ^ (- place).toNat : ℤ) : ℚ) * 2 ^ place = n := by
  have exponent : place = - ((- place).toNat : ℤ) := by omega
  have power : (2 : ℚ) ^ place = (2 ^ (- place).toNat)⁻¹ := by
    rw [← zpow_natCast, ← zpow_neg, ← exponent]
  rw [power]
  push_cast
  field_simp

theorem double_natCast (small : n < 2 ^ 53) : double n = some (n : ℚ) := by
  have place : lastPlace n ≤ 0 := by
    have log : Int.log 2 (n : ℚ) ≤ 52 := by
      exact_mod_cast Nat.lt_succ_iff.mp (Nat.log_lt_of_lt_pow' (by norm_num) small)
    simp only [lastPlace, Nat.abs_cast]
    omega
  have exact := @integer_places n _ place
  have pos : (0 : ℚ) < 2 ^ lastPlace n := zpow_pos two_pos _
  have quotient : (n : ℚ) / 2 ^ lastPlace n = ((n * 2 ^ (- lastPlace n).toNat : ℤ) : ℚ) := by
    rw [div_eq_iff pos.ne', exact]
  have finite : |(n : ℚ)| < 2 ^ 1024 := by
    rw [Nat.abs_cast]
    have bound : (n : ℚ) < 2 ^ 53 := by exact_mod_cast small
    exact bound.trans_le (pow_le_pow_right₀ (by norm_num) (by norm_num))
  simp only [double, quotient, roundHalfEven_intCast, exact]
  rw [if_pos finite]

theorem le_double (small : n ≤ 2 ^ 53) (le : n ≤ x) (rounded : double x = some y) : n ≤ y := by
  simp only [double, Option.ite_none_right_eq_some, Option.some.injEq] at rounded
  obtain ⟨_, rfl⟩ := rounded
  have pos : (0 : ℚ) < 2 ^ lastPlace x := zpow_pos two_pos _
  rcases le_or_gt (lastPlace x) 0 with fine | coarse
  · have exact := @integer_places n _ fine
    have least : (n * 2 ^ (- lastPlace x).toNat : ℤ) ≤ roundHalfEven (x / 2 ^ lastPlace x) := by
      refine le_roundHalfEven ?_
      rw [le_div_iff₀ pos, exact]
      exact le
    calc (n : ℚ) = ((n * 2 ^ (- lastPlace x).toNat : ℤ) : ℚ) * 2 ^ lastPlace x := exact.symm
      _ ≤ (roundHalfEven (x / 2 ^ lastPlace x) : ℚ) * 2 ^ lastPlace x := by
          refine mul_le_mul_of_nonneg_right ?_ pos.le
          exact_mod_cast least
  · -- the number has more than 53 bits before the point
    have nonneg : 0 ≤ x := le_trans (Nat.cast_nonneg n) le
    have place : lastPlace x = Int.log 2 x - 52 := by
      simp only [lastPlace, abs_of_nonneg nonneg] at coarse ⊢
      omega
    have nonzero : 0 < x := by
      rcases nonneg.eq_or_lt with zero | above
      · rw [place, ← zero, Int.log_zero_right] at coarse
        omega
      · exact above
    have bits : (2 ^ 52 : ℤ) ≤ roundHalfEven (x / 2 ^ lastPlace x) := by
      refine le_roundHalfEven ?_
      have log := Int.zpow_log_le_self (b := 2) (by norm_num) nonzero
      have split : Int.log 2 x = 52 + lastPlace x := by omega
      rw [split, zpow_add₀ (by norm_num)] at log
      rw [le_div_iff₀ pos]
      exact_mod_cast log
    have two : (2 : ℚ) ≤ 2 ^ lastPlace x := by
      calc (2 : ℚ) = 2 ^ (1 : ℤ) := by norm_num
        _ ≤ 2 ^ lastPlace x := zpow_le_zpow_right₀ (by norm_num) coarse
    calc (n : ℚ) ≤ 2 ^ 53 := by exact_mod_cast small
      _ = 2 ^ 52 * 2 := by norm_num
      _ ≤ (roundHalfEven (x / 2 ^ lastPlace x) : ℚ) * 2 ^ lastPlace x := by
          refine mul_le_mul ?_ two (by norm_num) ?_
          · exact_mod_cast bits
          · exact_mod_cast le_trans (by norm_num) bits

end SmartResidence.Foundation

/-!
## Arithmetic on doubles

Each operation gives the double nearest to its exact result, as long as that is finite.
-/

namespace SmartResidence.Foundation

def nearest (x : ℚ) : ℚ := (roundHalfEven (x / 2 ^ lastPlace x) : ℚ) * 2 ^ lastPlace x

def runningSum (start : ℚ) (numbers : List ℚ) : ℚ := numbers.foldl (fun sum number => nearest (sum + number)) start

variable {x y bound : ℚ}

theorem roundHalfEven_error (x : ℚ) : |roundHalfEven x - x| ≤ 1 / 2 := by
  have below := Int.floor_le x
  have above := Int.lt_floor_add_one x
  rw [abs_le]
  unfold roundHalfEven
  split
  · constructor <;> linarith
  · split
    · push_cast
      constructor <;> linarith
    · split
      · constructor <;> linarith
      · push_cast
        constructor <;> linarith

theorem nearest_natCast {n : ℕ} (small : n < 2 ^ 53) : nearest n = n := by
  have exact := double_natCast small
  simp only [double, Option.ite_none_right_eq_some, Option.some.injEq] at exact
  exact exact.2

@[simp] theorem nearest_zero : nearest 0 = 0 := by
  have zero : roundHalfEven 0 = 0 := by simpa using roundHalfEven_intCast 0
  simp [nearest, zero]

theorem half_place_le (nonzero : x ≠ 0) : (2 : ℚ) ^ lastPlace x / 2 ≤ |x| / 2 ^ 53 + 1 / 2 ^ 60 := by
  have log := Int.zpow_log_le_self (b := 2) (r := |x|) (by norm_num) (abs_pos.mpr nonzero)
  unfold lastPlace
  rcases max_cases (Int.log 2 |x| - 52) (-1074) with ⟨same, -⟩ | ⟨same, -⟩
  · have place : (2 : ℚ) ^ (Int.log 2 |x| - 52) ≤ |x| / 2 ^ 52 := by
      rw [zpow_sub₀ (by norm_num)]
      exact div_le_div_of_nonneg_right log (by norm_num)
    rw [same]
    linarith
  · have least : (2 : ℚ) ^ (-1074 : ℤ) ≤ 1 / 2 ^ 60 := by
      have power : (2 : ℚ) ^ (-1074 : ℤ) ≤ 2 ^ (-60 : ℤ) := zpow_le_zpow_right₀ (by norm_num) (by norm_num)
      exact power.trans (by norm_num)
    have size := abs_nonneg x
    rw [same]
    linarith

theorem nearest_error (x : ℚ) : |nearest x - x| ≤ |x| / 2 ^ 53 + 1 / 2 ^ 60 := by
  by_cases zero : x = 0
  · subst zero
    norm_num
  · have pos : (0 : ℚ) < 2 ^ lastPlace x := zpow_pos two_pos _
    have scaled : nearest x - x = (roundHalfEven (x / 2 ^ lastPlace x) - x / 2 ^ lastPlace x) * 2 ^ lastPlace x := by
      rw [sub_mul, div_mul_cancel₀ _ pos.ne']
      rfl
    rw [scaled, abs_mul, abs_of_pos pos]
    have error := mul_le_mul_of_nonneg_right (roundHalfEven_error (x / 2 ^ lastPlace x)) pos.le
    have place := half_place_le zero
    linarith

theorem nearest_within (size : |x| ≤ bound) : |nearest x - x| ≤ bound / 2 ^ 53 + 1 / 2 ^ 60 := by
  have error := nearest_error x
  linarith

theorem nearest_error_nonneg (nonneg : 0 ≤ x) : |nearest x - x| ≤ x / 2 ^ 53 + 1 / 2 ^ 60 := by
  have error := nearest_error x
  rwa [abs_of_nonneg nonneg] at error

theorem nearest_nonneg (nonneg : 0 ≤ x) : 0 ≤ nearest x := by
  have pos : (0 : ℚ) < 2 ^ lastPlace x := zpow_pos two_pos _
  have least : (0 : ℤ) ≤ roundHalfEven (x / 2 ^ lastPlace x) := by
    refine le_roundHalfEven ?_
    exact div_nonneg nonneg pos.le
  exact mul_nonneg (by exact_mod_cast least) pos.le

theorem le_nearest (nonneg : 0 ≤ x) : 99 / 100 * x - 1 / 100 ≤ nearest x := by
  have error := (abs_le.mp (nearest_error_nonneg nonneg)).1
  linarith

theorem nearest_le (nonneg : 0 ≤ x) : nearest x ≤ 101 / 100 * x + 1 / 100 := by
  have error := (abs_le.mp (nearest_error_nonneg nonneg)).2
  linarith

theorem nearest_add_error {a b : ℚ} (first : 0 ≤ x) (second : 0 ≤ y) (near : |x - a| ≤ bound) (also : |y - b| ≤ bound) :
    |nearest (x + y) - (a + b)| ≤ (x + y) / 2 ^ 53 + 1 / 2 ^ 60 + 2 * bound := by
  have error := abs_le.mp (nearest_error_nonneg (add_nonneg first second))
  obtain ⟨low, high⟩ := abs_le.mp near
  obtain ⟨lower, higher⟩ := abs_le.mp also
  rw [abs_le]
  constructor <;> linarith

theorem roundHalfUp_near {n : ℤ} (near : |x - n| < 1 / 2) : roundHalfUp x = n := by
  obtain ⟨low, high⟩ := abs_lt.mp near
  rw [roundHalfUp, Int.floor_eq_iff]
  constructor <;> linarith

theorem sub_half_le_roundHalfUp (x : ℚ) : x - 1 / 2 ≤ roundHalfUp x := by
  have above := Int.lt_floor_add_one (x + 1 / 2)
  unfold roundHalfUp
  linarith

theorem roundHalfUp_le_add_half (x : ℚ) : roundHalfUp x ≤ x + 1 / 2 := Int.floor_le _

end SmartResidence.Foundation
