import Mathlib.Order.Interval.Set.Basic
import Mathlib.Data.String.Basic
import Mathlib.Tactic.IntervalCases

/-!
# Clock times and cyclic intervals

Times of a clock are compared as texts of four digits.
-/

namespace SmartResidence.Foundation

section

variable {Point : Type*} [LinearOrder Point] {first last point : Point}

/-- From `first` on and before `last`, round the end of the order if `last` comes first. -/
def cyclicIco (first last : Point) : Set Point :=
  if first ≤ last then Set.Ico first last else (Set.Ico last first)ᶜ

theorem cyclicIco_self (point : Point) : cyclicIco point point = ∅ := by
  unfold cyclicIco
  rw [if_pos (le_refl point), Set.Ico_self]

theorem mem_cyclicIco_of_lt (before : first < last) : point ∈ cyclicIco first last ↔ first ≤ point ∧ point < last := by
  unfold cyclicIco
  rw [if_pos before.le]
  exact Set.mem_Ico

theorem mem_cyclicIco_of_gt (after : last < first) : point ∈ cyclicIco first last ↔ first ≤ point ∨ point < last := by
  unfold cyclicIco
  rw [if_neg (not_le.mpr after), Set.mem_compl_iff, Set.mem_Ico, not_and_or, not_le, not_lt]
  exact or_comm

end

structure ClockTime where
  hour : Nat
  minute : Nat
  hour_lt : hour < 100
  minute_lt : minute < 100

namespace ClockTime

variable (time other : ClockTime)

def position : Nat := 100 * time.hour + time.minute

def minutes : Nat := 60 * time.hour + time.minute

def OfDay : Prop := time.hour < 24 ∧ time.minute < 60

def text : String :=
  String.ofList [Nat.digitChar (time.hour / 10), Nat.digitChar (time.hour % 10), ':', Nat.digitChar (time.minute / 10),
    Nat.digitChar (time.minute % 10)]

variable {one two : Nat}

theorem digitChar_lt (one_lt : one < 10) (two_lt : two < 10) : Nat.digitChar one < Nat.digitChar two ↔ one < two := by
  interval_cases one <;> interval_cases two <;> decide

theorem digitChar_inj (one_lt : one < 10) (two_lt : two < 10) : Nat.digitChar one = Nat.digitChar two ↔ one = two := by
  interval_cases one <;> interval_cases two <;> decide

theorem text_lt : time.text < other.text ↔ time.position < other.position := by
  have tens : ∀ t : ClockTime, t.hour / 10 < 10 := fun t => Nat.div_lt_of_lt_mul t.hour_lt
  have tens' : ∀ t : ClockTime, t.minute / 10 < 10 := fun t => Nat.div_lt_of_lt_mul t.minute_lt
  have units := fun n : Nat => Nat.mod_lt n (by decide : 10 > 0)
  rw [String.lt_iff]
  simp only [text, String.toList_ofList, List.cons_lt_cons_iff, lt_irrefl, false_or, true_and, and_false, or_false,
    digitChar_lt (tens _) (tens _), digitChar_inj (tens _) (tens _), digitChar_lt (units _) (units _),
    digitChar_inj (units _) (units _), digitChar_lt (tens' _) (tens' _), digitChar_inj (tens' _) (tens' _)]
  have bounds := time.minute_lt
  have bounds' := other.minute_lt
  unfold position
  omega

theorem text_inj : time.text = other.text ↔ time.position = other.position := by
  constructor
  · intro same
    have not_before := (text_lt time other).not.mp (same ▸ lt_irrefl _)
    have not_after := (text_lt other time).not.mp (same ▸ lt_irrefl _)
    omega
  · intro same
    have hours : time.hour = other.hour := by
      have bounds := time.minute_lt
      have bounds' := other.minute_lt
      unfold position at same
      omega
    have minutes : time.minute = other.minute := by
      unfold position at same
      omega
    unfold text
    rw [hours, minutes]

variable {time other}

theorem minutes_lt (one : time.OfDay) (two : other.OfDay) : time.position < other.position ↔ time.minutes < other.minutes := by
  obtain ⟨-, one⟩ := one
  obtain ⟨-, two⟩ := two
  unfold position minutes
  omega

end ClockTime

end SmartResidence.Foundation
