import SmartResidence.Billing.Automation
import SmartResidence.Proof.NumberTexts

/-!
# `Date.UTC` and the dates of `toISOString`
-/

namespace SmartResidence.Billing

open Foundation

variable {day other : ℤ}

def yearOf (day : ℤ) : ℤ := monthOf day / 12 + 1970

def monthOfYear (day : ℤ) : ℤ := monthOf day % 12 + 1

def dayOfMonth (day : ℤ) : ℤ := day - monthStart (monthOf day) + 1

def dayOf (year month dayOfMonth : ℤ) : ℤ := monthStart (12 * (year - 1970) + (month - 1)) + dayOfMonth - 1

theorem dayOf_parts (day : ℤ) : dayOf (yearOf day) (monthOfYear day) (dayOfMonth day) = day := by
  have whole : 12 * (yearOf day - 1970) + (monthOfYear day - 1) = monthOf day := by
    unfold yearOf monthOfYear
    omega
  rw [dayOf, whole, dayOfMonth]
  ring

theorem monthOfYear_bounds (day : ℤ) : 1 ≤ monthOfYear day ∧ monthOfYear day ≤ 12 := by
  unfold monthOfYear
  omega

theorem dayOfMonth_bounds (day : ℤ) : 1 ≤ dayOfMonth day ∧ dayOfMonth day ≤ 31 := by
  obtain ⟨begins, ends⟩ := monthOf_spec day
  have short := (monthLength_bounds (monthOf day)).2
  unfold monthLength at short
  unfold dayOfMonth
  omega

theorem lt_of_monthOf_lt (earlier : monthOf day < monthOf other) : day < other :=
  (monthOf_spec day).2.trans_le ((monthStart_strictMono.monotone (Int.add_one_le_iff.mpr earlier)).trans (monthOf_spec other).1)

theorem monthOf_mono : Monotone monthOf :=
  fun _ _ ordered => not_lt.mp fun earlier => absurd (lt_of_monthOf_lt earlier) (not_lt.mpr ordered)

theorem yearOf_mono : Monotone yearOf := by
  intro day other ordered
  have months := monthOf_mono ordered
  unfold yearOf
  omega

theorem day_lt_iff : day < other ↔ yearOf day < yearOf other ∨ yearOf day = yearOf other ∧
    (monthOfYear day < monthOfYear other ∨ monthOfYear day = monthOfYear other ∧ dayOfMonth day < dayOfMonth other) := by
  have split : day < other ↔ monthOf day < monthOf other ∨ monthOf day = monthOf other ∧ dayOfMonth day < dayOfMonth other := by
    rcases lt_trichotomy (monthOf day) (monthOf other) with before | same | after
    · simp only [before, lt_of_monthOf_lt before, true_or]
    · simp only [dayOfMonth, same, lt_irrefl, true_and, false_or, add_lt_add_iff_right, sub_lt_sub_iff_right]
    · simp only [after.not_gt, after.ne', (lt_of_monthOf_lt after).not_gt, false_and, or_self]
  rw [split]
  unfold yearOf monthOfYear
  generalize monthOf day = month
  generalize monthOf other = month'
  constructor
  · rintro (before | ⟨same, days⟩)
    · by_cases years : month / 12 = month' / 12
      · exact .inr ⟨by omega, .inl (by omega)⟩
      · exact .inl (by omega)
    · exact .inr ⟨by omega, .inr ⟨by omega, days⟩⟩
  · rintro (years | ⟨years, months | ⟨months, days⟩⟩)
    · exact .inl (by omega)
    · exact .inl (by omega)
    · exact .inr ⟨by omega, days⟩

def twoDigits (n : ℤ) : List Char := padStart 2 (Nat.toDigits 10 n.toNat)

def dashed (year : List Char) (day : ℤ) : List Char :=
  year ++ '-' :: (twoDigits (monthOfYear day) ++ '-' :: twoDigits (dayOfMonth day))

def isoYear (year : ℤ) : List Char :=
  if 0 ≤ year ∧ year ≤ 9999 then padStart 4 (Nat.toDigits 10 year.toNat)
  else (if year < 0 then '-' else '+') :: padStart 6 (Nat.toDigits 10 year.natAbs)

/-- The date in front of the `T` of `toISOString`. -/
def isoDate (day : ℤ) : List Char := dashed (isoYear (yearOf day)) day

theorem length_padStart {width n : ℕ} (some : 0 < width) (small : n < 10 ^ width) :
    (padStart width (Nat.toDigits 10 n)).length = width := by
  have short := (Nat.length_toDigits_le_iff (by decide) some).mpr small
  rw [padStart, List.length_append, List.length_replicate]
  omega

variable {n : ℤ}

theorem length_twoDigits (small : n < 100) : (twoDigits n).length = 2 :=
  length_padStart (by decide) (by omega)

theorem twoDigits_digits : ∀ c ∈ twoDigits n, c.isDigit = true := isDigit_padStart

theorem digitsValue_twoDigits : digitsValue (twoDigits n) = n.toNat := digitsValue_padStart

variable {m : ℤ}

theorem twoDigits_lt_iff (nonneg : 0 ≤ n) (nonneg' : 0 ≤ m) (small : n < 100) (small' : m < 100) :
    twoDigits n < twoDigits m ↔ n < m := by
  rw [digits_lt_iff ((length_twoDigits small).trans (length_twoDigits small').symm) twoDigits_digits twoDigits_digits,
    digitsValue_twoDigits, digitsValue_twoDigits]
  omega

theorem twoDigits_inj (nonneg : 0 ≤ n) (nonneg' : 0 ≤ m) (small : n < 100) (small' : m < 100) :
    twoDigits n = twoDigits m ↔ n = m := by
  rw [digits_inj ((length_twoDigits small).trans (length_twoDigits small').symm) twoDigits_digits twoDigits_digits,
    digitsValue_twoDigits, digitsValue_twoDigits]
  omega

theorem dashed_lt_iff {year year' : List Char} (same : year.length = year'.length) (digits : ∀ c ∈ year, c.isDigit = true)
    (digits' : ∀ c ∈ year', c.isDigit = true) (value : (digitsValue year : ℤ) = yearOf day)
    (value' : (digitsValue year' : ℤ) = yearOf other) : dashed year day < dashed year' other ↔ day < other := by
  have months := monthOfYear_bounds day
  have months' := monthOfYear_bounds other
  have days := dayOfMonth_bounds day
  have days' := dayOfMonth_bounds other
  have lengths : (twoDigits (monthOfYear day)).length = (twoDigits (monthOfYear other)).length :=
    (length_twoDigits (by omega)).trans (length_twoDigits (by omega)).symm
  rw [dashed, dashed, append_lt_append_iff same, List.cons_lt_cons_iff, append_lt_append_iff lengths,
    List.cons_lt_cons_iff, twoDigits_lt_iff (by omega) (by omega) (by omega) (by omega),
    twoDigits_inj (by omega) (by omega) (by omega) (by omega),
    twoDigits_lt_iff (by omega) (by omega) (by omega) (by omega), digits_lt_iff same digits digits',
    digits_inj same digits digits', @day_lt_iff day other]
  simp only [lt_irrefl, false_or, true_and, ← value, ← value', Nat.cast_lt, Nat.cast_inj]

def truncate (value : ℚ) : ℤ := value.num.tdiv value.den

theorem truncate_intCast (n : ℤ) : truncate n = n := by
  simp [truncate]

def timeClip (time : ℤ) : Option Instant := if |time| ≤ 8640000000000000 then some time else none

/-- The months are counted from 0, the years 0 to 99 are those from 1900 on, and `none` stands for NaN. -/
def dateUtc (year month day : ℚ) : Option Instant :=
  let y := truncate year
  let fullYear := if 0 ≤ y ∧ y ≤ 99 then 1900 + y else y
  timeClip (dayOf fullYear (truncate month + 1) (truncate day) * msPerDay)

end SmartResidence.Billing
