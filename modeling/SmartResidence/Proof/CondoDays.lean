import Mathlib.Tactic.IntervalCases
import SmartResidence.Visitors.CondoTimezone
import SmartResidence.Visitors.Overnight

/-!
# The days of a condo
-/

namespace SmartResidence.Visitors

open Foundation Billing List

/-- The calendar days of a time zone: none is skipped, and each lies within 14 hours of that day in UTC. -/
structure ZoneDays (zone : Instant → ℤ) : Prop where
  mono : Monotone zone
  steps : ∀ instant, zone (instant + 1) ≤ zone instant + 1
  near : ∀ instant : ℤ, zone instant * msPerDay - 14 * msPerHour ≤ instant ∧
    instant < (zone instant + 1) * msPerDay + 14 * msPerHour

/-- 3 January 1000 and 30 December 9999, the first and the last day that are found in every time zone. -/
def firstFound : ℤ := dayOf 1000 1 3
def lastFound : ℤ := dayOf 9999 12 30

variable {zone : Instant → ℤ} {day other : ℤ}

/-! ## Keys -/

def FourDigits (day : ℤ) : Prop := 1000 ≤ yearOf day ∧ yearOf day ≤ 9999

theorem fourDigits_of (first : firstFound - 2 ≤ day) (last : day ≤ lastFound + 1) : FourDigits day :=
  ⟨yearOf_mono first, yearOf_mono last⟩

theorem dayKeyOf_eq (four : FourDigits day) : dayKeyOf day = isoDate day := by
  obtain ⟨first, last⟩ := four
  have some : 0 < yearOf day := by omega
  have enough : ¬ (Nat.toDigits 10 (yearOf day).toNat).length ≤ 3 := by
    rw [Nat.length_toDigits_le_iff (by decide) (by decide)]
    omega
  have filled : padStart 4 (Nat.toDigits 10 (yearOf day).toNat) = Nat.toDigits 10 (yearOf day).toNat := by
    have none : 4 - (Nat.toDigits 10 (yearOf day).toNat).length = 0 := by omega
    rw [padStart, none]
    rfl
  rw [dayKeyOf, isoDate, numericYear, isoYear, if_pos some, if_pos ⟨by omega, last⟩, filled]

theorem isoYear_eq (four : FourDigits day) : isoYear (yearOf day) = padStart 4 (Nat.toDigits 10 (yearOf day).toNat) := by
  obtain ⟨first, last⟩ := four
  rw [isoYear, if_pos ⟨by omega, last⟩]

theorem length_isoYear (four : FourDigits day) : (isoYear (yearOf day)).length = 4 := by
  have last := four.2
  rw [isoYear_eq four]
  exact length_padStart (by decide) (by omega)

theorem dayKeyOf_lt_iff (four : FourDigits day) (four' : FourDigits other) : dayKeyOf day < dayKeyOf other ↔ day < other := by
  have pos : ∀ {day}, FourDigits day → ((digitsValue (isoYear (yearOf day)) : ℕ) : ℤ) = yearOf day := by
    intro day four
    have first := four.1
    rw [isoYear_eq four, digitsValue_padStart]
    omega
  have digits : ∀ {day}, FourDigits day → ∀ c ∈ isoYear (yearOf day), c.isDigit = true := by
    intro day four
    rw [isoYear_eq four]
    exact isDigit_padStart
  rw [dayKeyOf_eq four, dayKeyOf_eq four']
  exact dashed_lt_iff ((length_isoYear four).trans (length_isoYear four').symm) (digits four) (digits four')
    (pos four) (pos four')

theorem dash_of_digits {text : List Char} (digits : ∀ c ∈ text, c.isDigit = true) : '-' ∉ text := by
  intro mem
  have digit := digits _ mem
  revert digit
  decide

theorem numberOf_twoDigits {n : ℤ} (nonneg : 0 ≤ n) (small : n < 100) : numberOf (.ofList (twoDigits n)) = some (n : ℚ) := by
  have some' : twoDigits n ≠ [] := ne_nil_of_length_pos (by rw [length_twoDigits small]; decide)
  have value : ((n.toNat : ℕ) : ℚ) = n := by
    exact_mod_cast congrArg (Int.cast (R := ℚ)) (Int.toNat_of_nonneg nonneg)
  rw [numberOf_digits twoDigits_digits some', digitsValue_twoDigits, value]

theorem parseDayKey_dayKeyOf (four : FourDigits day) :
    parseDayKey (dayKeyOf day) = .ok ((yearOf day : ℚ), (monthOfYear day : ℚ), (dayOfMonth day : ℚ)) := by
  have months := monthOfYear_bounds day
  have days := dayOfMonth_bounds day
  have first := four.1
  have joined : dayKeyOf day = ['-'].intercalate
      [numericYear (yearOf day), twoDigits (monthOfYear day), twoDigits (dayOfMonth day)] := by
    simp [dayKeyOf, dashed]
  have parts : (dayKeyOf day).splitOn '-' =
      [numericYear (yearOf day), twoDigits (monthOfYear day), twoDigits (dayOfMonth day)] := by
    rw [joined, splitOn_intercalate '-' _ (by simp)]
    intro part mem
    simp only [mem_cons, not_mem_nil, or_false] at mem
    rcases mem with rfl | rfl | rfl
    · exact dash_toDigits
    · exact dash_of_digits twoDigits_digits
    · exact dash_of_digits twoDigits_digits
  have year : numberOf (.ofList (numericYear (yearOf day))) = some ((yearOf day : ℤ) : ℚ) := by
    have value : (((yearOf day).toNat : ℕ) : ℚ) = ((yearOf day : ℤ) : ℚ) := by
      exact_mod_cast congrArg (Int.cast (R := ℚ)) (Int.toNat_of_nonneg (by omega : 0 ≤ yearOf day))
    rw [numericYear, if_pos (by omega : 0 < yearOf day), numberOf_digits isDigit_toDigits Nat.toDigits_ne_nil, digitsValue,
      Nat.ofDigitChars_ten_toDigits, value]
  simp only [parseDayKey, parts, List.getElem?_cons_zero, List.getElem?_cons_succ, Option.bind_some, year,
    numberOf_twoDigits (by omega : 0 ≤ monthOfYear day) (by omega), numberOf_twoDigits (by omega : 0 ≤ dayOfMonth day) (by omega)]

theorem dateUtc_shift (four : FourDigits day) (shift : ℤ) (small : |(day + shift) * msPerDay| ≤ 8640000000000000) :
    dateUtc (yearOf day : ℚ) ((monthOfYear day : ℚ) - 1) ((dayOfMonth day : ℚ) + shift) = some ((day + shift) * msPerDay) := by
  have month : (monthOfYear day : ℚ) - 1 = ((monthOfYear day - 1 : ℤ) : ℚ) := by push_cast; ring
  have days : (dayOfMonth day : ℚ) + shift = ((dayOfMonth day + shift : ℤ) : ℚ) := by push_cast; ring
  have late : ¬ (0 ≤ yearOf day ∧ yearOf day ≤ 99) := fun early => by
    have first := four.1
    omega
  have moved : dayOf (yearOf day) (monthOfYear day) (dayOfMonth day + shift) = day + shift := by
    conv_rhs => rw [← dayOf_parts day]
    unfold dayOf
    ring
  simp only [dateUtc, month, days, truncate_intCast, late, if_false, Int.sub_add_cancel, moved, timeClip, if_pos small]

theorem addDaysToDayKey_next (four : FourDigits day) (four' : FourDigits (day + 1))
    (small : |(day + 1) * msPerDay| ≤ 8640000000000000) :
    addDaysToDayKey (dayKeyOf day) 1 = .ok (dayKeyOf (day + 1)) := by
  have length : (isoDate (day + 1)).length = 10 := by
    have months := monthOfYear_bounds (day + 1)
    have days := dayOfMonth_bounds (day + 1)
    rw [isoDate, dashed]
    simp only [length_append, length_cons, length_isoYear four',
      length_twoDigits (by omega : monthOfYear (day + 1) < 100), length_twoDigits (by omega : dayOfMonth (day + 1) < 100)]
  have date := dateUtc_shift four 1 small
  have whole : (day + 1) * msPerDay / msPerDay = day + 1 := Int.mul_ediv_cancel _ (by decide)
  rw [addDaysToDayKey, parseDayKey_dayKeyOf four]
  dsimp only [bind, Except.bind]
  rw [date, dayKeyOf_eq four']
  show Except.ok ((isoDate ((day + 1) * msPerDay / msPerDay)).take 10) = _
  rw [whole, take_of_length_le length.le]

/-! ## The search -/

theorem inRange (first : firstFound - 2 ≤ day) (last : day ≤ lastFound + 2) : |day * msPerDay| ≤ 8640000000000000 := by
  have least : firstFound = -354283 := by decide
  have greatest : lastFound = 2932895 := by decide
  unfold msPerDay
  rw [abs_le]
  constructor <;> omega

theorem search_eq {day boundary : ℤ} {below : ℤ → Bool} (first : (day - 1) * msPerDay ≤ boundary)
    (last : boundary ≤ (day + 1) * msPerDay)
    (splits : ∀ t, (day - 1) * msPerDay ≤ t → 4 * t ≤ (4 * day + 5) * msPerDay → (below t = true ↔ t < boundary)) :
    bisect below ((day - 1) * msPerDay) ((day + 2) * msPerDay) = boundary := by
  have middle : ((day - 1) * msPerDay + (day + 2) * msPerDay) / 2 = day * msPerDay + 43200000 := by
    unfold msPerDay
    omega
  have second : (day * msPerDay + 43200000 + 1 + (day + 2) * msPerDay) / 2 = day * msPerDay + 108000000 := by
    unfold msPerDay
    omega
  have some : (day - 1) * msPerDay < (day + 2) * msPerDay := by
    omega
  cases side : below (day * msPerDay + 43200000) with
  | false =>
    rw [bisect_left some (by rw [middle, side]), middle]
    have behind : boundary ≤ day * msPerDay + 43200000 := not_lt.mp fun before => by
      have under := (splits (day * msPerDay + 43200000) (by unfold msPerDay; omega) (by unfold msPerDay; omega)).mpr before
      rw [side] at under
      cases under
    refine bisect_eq first behind fun t from' upTo => splits t from' ?_
    unfold msPerDay at *
    omega
  | true =>
    have before := (splits (day * msPerDay + 43200000) (by unfold msPerDay; omega) (by unfold msPerDay; omega)).mp side
    have outside : below (day * msPerDay + 108000000) = false := by
      rw [← Bool.not_eq_true, splits (day * msPerDay + 108000000) (by unfold msPerDay; omega) (by unfold msPerDay; omega)]
      unfold msPerDay at last ⊢
      omega
    rw [bisect_right some (by rw [middle, side]), middle, bisect_left (by unfold msPerDay; omega) (by rw [second, outside])]
    refine bisect_eq (by omega) (by unfold msPerDay at last ⊢; omega) fun t from' upTo => splits t ?_ ?_
    · omega
    · unfold msPerDay at *
      omega

theorem zonedMidnightUtc_found (days : ZoneDays zone) (first : firstFound ≤ day) (last : day ≤ lastFound) :
    ∃ midnight, zonedMidnightUtc zone (dayKeyOf day) = .ok (some midnight) ∧ IsLeast {t | zone t = day} midnight ∧
      ∀ t, day ≤ zone t ↔ midnight ≤ t := by
  have four : FourDigits day := fourDigits_of (by omega) (by omega)
  have before : zone ((day - 1) * msPerDay) < day := by
    have near := (days.near ((day - 1) * msPerDay)).1
    unfold msPerDay msPerHour at *
    omega
  have after : day ≤ zone ((day + 1) * msPerDay) := by
    have near := (days.near ((day + 1) * msPerDay)).2
    unfold msPerDay msPerHour at *
    omega
  obtain ⟨boundary, left, right, least, reached⟩ := exists_isLeast_level days.mono days.steps before after
  have splits : ∀ t, (day - 1) * msPerDay ≤ t → 4 * t ≤ (4 * day + 5) * msPerDay →
      (decide (zonedDayKey zone t < dayKeyOf day) = true ↔ t < boundary) := by
    intro t from' upTo
    have near := days.near t
    have four' : FourDigits (zone t) := by
      refine fourDigits_of ?_ ?_
      · unfold msPerDay msPerHour at *
        omega
      · unfold msPerDay msPerHour at *
        omega
    rw [decide_eq_true_iff, zonedDayKey, dayKeyOf_lt_iff four' four, ← not_le, reached, not_le]
  have low := dateUtc_shift four (-1) (inRange (by omega) (by omega))
  have high := dateUtc_shift four 2 (inRange (by omega) (by omega))
  refine ⟨boundary, ?_, least, reached⟩
  rw [zonedMidnightUtc, parseDayKey_dayKeyOf four]
  dsimp only [bind, Except.bind]
  have minus : (dayOfMonth day : ℚ) - 1 = (dayOfMonth day : ℚ) + (-1 : ℤ) := by push_cast; ring
  have plus : (dayOfMonth day : ℚ) + 2 = (dayOfMonth day : ℚ) + (2 : ℤ) := by push_cast; ring
  rw [minus, plus, low, high]
  exact congrArg (fun found => Except.ok (some found)) (search_eq left.le right splits)

/-- The bounds of the day of an instant, and of each day. -/
theorem condo_day_bounds (days : ZoneDays zone) :
    (∀ day, firstFound ≤ day → day ≤ lastFound → ∃ midnight, zonedMidnightUtc zone (dayKeyOf day) = .ok (some midnight) ∧
      IsLeast {t | zone t = day} midnight) ∧
    ∀ instant, firstFound ≤ zone instant → zone instant < lastFound → ∃ start stop,
      condoDayBounds zone instant = .ok ⟨some start, some stop⟩ ∧ start ≤ instant ∧ instant < stop ∧
      IsLeast {t | zone t = zone instant} start ∧ IsLeast {t | zone t = zone instant + 1} stop ∧
      ∀ t, zone t = zone instant ↔ start ≤ t ∧ t < stop := by
  refine ⟨fun day first last => ?_, fun instant first last => ?_⟩
  · obtain ⟨midnight, found, least, -⟩ := zonedMidnightUtc_found days first last
    exact ⟨midnight, found, least⟩
  · obtain ⟨start, found, least, reached⟩ := zonedMidnightUtc_found days first last.le
    have first' : firstFound ≤ zone instant + 1 := by omega
    obtain ⟨stop, found', least', reached'⟩ := zonedMidnightUtc_found days first' last
    have next : addDaysToDayKey (dayKeyOf (zone instant)) 1 = .ok (dayKeyOf (zone instant + 1)) :=
      addDaysToDayKey_next (fourDigits_of (by omega) (by omega)) (fourDigits_of (by omega) (by omega))
        (inRange (by omega) (by omega))
    have bounds : ∀ t, zone t = zone instant ↔ start ≤ t ∧ t < stop := by
      intro t
      rw [← reached, ← not_le, ← reached']
      omega
    obtain ⟨after, before⟩ := (bounds instant).mp rfl
    refine ⟨start, stop, ?_, after, before, least, least', bounds⟩
    rw [condoDayBounds, zonedDayKey, found, next]
    show (do
      let stop ← zonedMidnightUtc zone (dayKeyOf (zone instant + 1))
      return (⟨some start, stop⟩ : DayBounds)) = _
    rw [found']
    rfl

def fixedZone (offset : ℤ) (instant : Instant) : ℤ := (instant + offset) / msPerDay

theorem fixedZone_days {offset : ℤ} (behind : - (14 * msPerHour) ≤ offset) (ahead : offset ≤ 14 * msPerHour) :
    ZoneDays (fixedZone offset) := by
  refine ⟨?_, ?_, ?_⟩
  · intro first second ordered
    exact Int.ediv_le_ediv (by decide) (by linarith)
  · intro (instant : ℤ)
    show (instant + 1 + offset) / msPerDay ≤ (instant + offset) / msPerDay + 1
    unfold msPerDay
    omega
  · intro instant
    show (instant + offset) / msPerDay * msPerDay - 14 * msPerHour ≤ instant ∧
      instant < ((instant + offset) / msPerDay + 1) * msPerDay + 14 * msPerHour
    unfold msPerDay msPerHour at *
    omega

theorem condo_day_bounds_kuala_lumpur : ∃ midnight,
    zonedMidnightUtc (fixedZone (8 * msPerHour)) (dayKeyOf (dayOf 2026 1 1)) = .ok (some midnight) ∧
      IsLeast {t | fixedZone (8 * msPerHour) t = dayOf 2026 1 1} midnight :=
  (condo_day_bounds (fixedZone_days (by decide) (by decide))).1 (dayOf 2026 1 1) (by decide) (by decide)

theorem condo_day_missed : ¬ ∀ zone, ZoneDays zone → ∀ day, ∃ midnight,
    zonedMidnightUtc zone (dayKeyOf day) = .ok (some midnight) ∧ IsLeast {t | zone t = day} midnight := by
  intro found
  obtain ⟨midnight, search, first, -⟩ := found (fixedZone 0) (fixedZone_days (by decide) (by decide)) (dayOf 10000 1 1)
  have day : dayOf 10000 1 1 = 2932897 := by decide
  have parsed : parseDayKey (dayKeyOf 2932897) = .ok (10000, 1, 1) := by decide +kernel
  have low : dateUtc 10000 (1 - 1) (1 - 1) = some (2932896 * msPerDay) := by decide +kernel
  have high : dateUtc 10000 (1 - 1) (1 + 2) = some (2932899 * msPerDay) := by decide +kernel
  have stays : bisect (fun mid => decide (zonedDayKey (fixedZone 0) mid < dayKeyOf 2932897)) (2932896 * msPerDay)
      (2932899 * msPerDay) = 2932896 * msPerDay := by
    refine bisect_of_all (by decide) fun t from' upTo => ?_
    have least : 2932896 ≤ fixedZone 0 t := by
      unfold fixedZone msPerDay at *
      omega
    have greatest : fixedZone 0 t ≤ 2932898 := by
      unfold fixedZone msPerDay at *
      omega
    unfold zonedDayKey
    interval_cases fixedZone 0 t
    · decide +kernel
    · decide +kernel
    · decide +kernel
  rw [day, zonedMidnightUtc, parsed] at search
  dsimp only [bind, Except.bind] at search
  rw [low, high] at search
  have same : 2932896 * msPerDay = midnight := stays.symm.trans (Option.some.inj (Except.ok.inj search))
  have other : fixedZone 0 midnight = 2932896 := by
    rw [← same]
    decide
  have wanted : fixedZone 0 midnight = dayOf 10000 1 1 := first
  rw [other, day] at wanted
  cases wanted

end SmartResidence.Visitors
