import Mathlib.Order.Interval.Set.OrdConnectedLinear

/-!
# Days and months of the Gregorian calendar

Days and months are counted from 1 January 1970.
-/

namespace SmartResidence.Foundation

def monthStart (month : ℤ) : ℤ :=
  let fromMarch := month + 12 * 1970 - 2
  let year := fromMarch / 12
  365 * year + year / 4 - year / 100 + year / 400 + (153 * (fromMarch % 12) + 2) / 5 - 719468

def monthLength (month : ℤ) : ℤ := monthStart (month + 1) - monthStart month

theorem monthStart_near (month : ℤ) :
    146097 * month - 24000 ≤ 4800 * monthStart month ∧ 4800 * monthStart month ≤ 146097 * month + 24000 := by
  simp only [monthStart]
  constructor <;> omega

theorem monthStart_injective {first second : ℤ} (same : monthStart first = monthStart second) : first = second := by
  have left := monthStart_near first
  have right := monthStart_near second
  omega

theorem monthLength_bounds (month : ℤ) : 28 ≤ monthLength month ∧ monthLength month ≤ 31 := by
  simp only [monthLength, monthStart]
  have next : month + 1 + 12 * 1970 - 2 = month + 12 * 1970 - 2 + 1 := by omega
  rw [next]
  generalize month + 12 * 1970 - 2 = fromMarch
  by_cases last : fromMarch % 12 = 11
  · have year : (fromMarch + 1) / 12 = fromMarch / 12 + 1 := by omega
    have start : (fromMarch + 1) % 12 = 0 := by omega
    rw [year, last]
    omega
  · have year : (fromMarch + 1) / 12 = fromMarch / 12 := by omega
    have later : (fromMarch + 1) % 12 = fromMarch % 12 + 1 := by omega
    rw [year]
    omega
def monthOf (day : ℤ) : ℤ :=
  let guess := day * 4800 / 146097
  if day < monthStart guess then guess - 1
  else if monthStart (guess + 1) ≤ day then guess + 1
  else guess

theorem monthOf_spec (day : ℤ) : monthStart (monthOf day) ≤ day ∧ day < monthStart (monthOf day + 1) := by
  unfold monthOf
  generalize location : day * 4800 / 146097 = guess
  by_cases before : day < monthStart guess
  · have start := monthStart_near (guess - 1)
    simp only [before, if_true, Int.sub_add_cancel, and_true]
    omega
  · by_cases after : monthStart (guess + 1) ≤ day
    · have next := monthStart_near (guess + 1 + 1)
      simp only [before, after, if_true, if_false, true_and]
      omega
    · simp only [before, after, if_false]
      omega

theorem monthStart_strictMono : StrictMono monthStart := by
  refine strictMono_int_of_lt_succ fun month => ?_
  have left := monthStart_near month
  have right := monthStart_near (month + 1)
  omega

theorem monthOf_eq_iff {day month : ℤ} : monthStart month ≤ day ∧ day < monthStart (month + 1) ↔ monthOf day = month := by
  obtain ⟨begins, ends⟩ := monthOf_spec day
  constructor
  · intro ⟨after, before⟩
    have below : month < monthOf day + 1 := monthStart_strictMono.lt_iff_lt.mp (after.trans_lt ends)
    have above : monthOf day < month + 1 := monthStart_strictMono.lt_iff_lt.mp (begins.trans_lt before)
    omega
  · rintro rfl
    exact ⟨begins, ends⟩

example : monthOf 19782 = 12 * 54 + 1 ∧ monthLength (12 * 54 + 1) = 29 := by decide

end SmartResidence.Foundation
