import SmartResidence.Foundation.Clocks
import SmartResidence.Proof.VisitorLifecycle

/-!
# The windows of recurring passes

Local times and the ends of a window are compared as texts. Texts of clock times have the order of the clock, and no
others are promised to.
-/

namespace SmartResidence.Visitors

open Foundation Billing

def isClockText (text : String) : Bool :=
  match text.toList with
  | [h₁, h₂, ':', m₁, m₂] =>
      [h₁, h₂, m₁, m₂].all Char.isDigit && decide (digitsValue [h₁, h₂] < 24 ∧ digitsValue [m₁, m₂] < 60)
  | _ => false

theorem digitChar_toNat {c : Char} (isDigit : c.isDigit = true) : Nat.digitChar (c.toNat - 48) = c := by
  obtain ⟨least, most⟩ := Char.isDigit_iff_toNat.mp isDigit
  have least : 48 ≤ c.toNat := least
  have most : c.toNat ≤ 57 := most
  apply Char.toNat_inj.mp
  generalize c.toNat = code at least most
  interval_cases code <;> rfl

theorem two_digits (tens units : Char) : digitsValue [tens, units] = 10 * (tens.toNat - 48) + (units.toNat - 48) := by
  have none : digitsValue [] = 0 := rfl
  rw [digitsValue_cons, digitsValue_cons, none]
  simp

theorem toNat_digitChar {digit : Nat} (small : digit < 10) : (Nat.digitChar digit).toNat - 48 = digit := by
  interval_cases digit <;> rfl

theorem isClockText_iff {text : String} : isClockText text = true ↔ ∃ time : ClockTime, time.OfDay ∧ text = time.text := by
  unfold isClockText
  constructor
  · intro clock
    split at clock
    · rename_i h₁ h₂ m₁ m₂ chars
      obtain ⟨digits, bounds⟩ := Bool.and_eq_true_iff.mp clock
      simp only [List.all_cons, List.all_nil, Bool.and_true, Bool.and_eq_true] at digits
      obtain ⟨one, two, three, four⟩ := digits
      have bounds := of_decide_eq_true bounds
      rw [two_digits, two_digits] at bounds
      have small : ∀ {c : Char}, c.isDigit = true → c.toNat - 48 < 10 := by
        intro c digit
        have most : c.toNat ≤ 57 := (Char.isDigit_iff_toNat.mp digit).2
        omega
      refine ⟨⟨10 * (h₁.toNat - 48) + (h₂.toNat - 48), 10 * (m₁.toNat - 48) + (m₂.toNat - 48), by omega, by omega⟩, bounds, ?_⟩
      have tens : ∀ first second, second < 10 → (10 * first + second) / 10 = first := by omega
      have units : ∀ first second, second < 10 → (10 * first + second) % 10 = second := by omega
      unfold ClockTime.text
      rw [tens _ _ (small two), units _ _ (small two), tens _ _ (small four), units _ _ (small four), digitChar_toNat one,
        digitChar_toNat two, digitChar_toNat three, digitChar_toNat four, ← chars, String.ofList_toList]
    · cases clock
  · rintro ⟨time, ⟨hour, minute⟩, rfl⟩
    have tens : ∀ value, value < 100 → value / 10 < 10 := fun value small => Nat.div_lt_of_lt_mul small
    have units : ∀ value, value % 10 < 10 := fun value => Nat.mod_lt value (by decide)
    unfold ClockTime.text
    simp only [String.toList_ofList, List.all_cons, two_digits, toNat_digitChar (tens _ time.hour_lt),
      toNat_digitChar (tens _ time.minute_lt), toNat_digitChar (units _), Nat.isDigit_digitChar, tens _ time.hour_lt,
      tens _ time.minute_lt, units, Nat.div_add_mod, hour, minute]
    rfl

def minuteOfDay (wall : ℤ) : ℕ := (wall / 60000 % 1440).toNat

theorem minuteOfDay_lt (wall : ℤ) : minuteOfDay wall < 1440 := by
  unfold minuteOfDay
  omega

def clockAt (wall : ℤ) : ClockTime where
  hour := minuteOfDay wall / 60
  minute := minuteOfDay wall % 60
  hour_lt := by
    have bound := minuteOfDay_lt wall
    omega
  minute_lt := by omega

theorem clockAt_ofDay (wall : ℤ) : (clockAt wall).OfDay := by
  have bound := minuteOfDay_lt wall
  exact ⟨Nat.div_lt_of_lt_mul bound, Nat.mod_lt _ (by decide)⟩

theorem clockAt_minutes (wall : ℤ) : (clockAt wall).minutes = minuteOfDay wall := Nat.div_add_mod _ 60

/-- What `Intl.DateTimeFormat` makes of an instant: the weekday and the time of the wall clock of a zone. -/
structure ZonedClock (env : VisitorEnv) (wall : String → Instant → ℤ) : Prop where
  weekday : ∀ zone instant, env.zonedIsoWeekday zone instant = isoWeekday (wall zone instant / 86400000)
  time : ∀ zone instant, env.zonedTimeHm zone instant = (clockAt (wall zone instant)).text

structure AdmitsWindow (env : VisitorEnv) (wall : String → Instant → ℤ) (pass : RecurringPass) : Prop where
  dates : pass.validFrom < pass.validUntil
  window : ∃ start stop : ClockTime, start.OfDay ∧ stop.OfDay ∧ start.minutes < stop.minutes ∧
    pass.schedule.start = start.text ∧ pass.schedule.stop = stop.text ∧
    ∀ zone instant, checkSchedule env pass.schedule instant zone = .ok () ↔
      isoWeekday (wall zone instant / 86400000) ∈ pass.schedule.daysOfWeek ∧
        start.minutes ≤ minuteOfDay (wall zone instant) ∧ minuteOfDay (wall zone instant) < stop.minutes

def RecurringPassSchedule.WellFormed (schedule : RecurringPassSchedule) : Prop :=
  isClockText schedule.start = true ∧ isClockText schedule.stop = true ∧ schedule.start < schedule.stop

section

variable {env : VisitorEnv} {wall : String → Instant → ℤ} {pass : RecurringPass} {schedule : RecurringPassSchedule}

theorem text_ne_empty (time : ClockTime) : time.text ≠ "" := by
  intro empty
  have chars := congrArg String.toList empty
  rw [ClockTime.text, String.toList_ofList] at chars
  cases chars

theorem text_lt_minutes {one two : ClockTime} (first : one.OfDay) (second : two.OfDay) :
    one.text < two.text ↔ one.minutes < two.minutes := by
  rw [ClockTime.text_lt, ClockTime.minutes_lt first second]

theorem within_iff (clock : ZonedClock env wall) {start stop : ClockTime} (first : start.OfDay) (last : stop.OfDay)
    (opens : schedule.start = start.text) (closes : schedule.stop = stop.text) (zone : String) (instant : Instant) :
    isWithinRecurringSchedule env schedule instant zone = none ↔
      isoWeekday (wall zone instant / 86400000) ∈ schedule.daysOfWeek ∧
        start.minutes ≤ minuteOfDay (wall zone instant) ∧ minuteOfDay (wall zone instant) < stop.minutes := by
  have day := clockAt_ofDay (wall zone instant)
  unfold isWithinRecurringSchedule
  simp only [clock.weekday, clock.time, opens, closes, ← not_lt, text_lt_minutes day first, text_lt_minutes day last,
    clockAt_minutes]
  split
  · rename_i absent
    exact ⟨fun none => (nomatch none), fun within => absurd within.1 absent⟩
  · rename_i mem
    rw [not_not] at mem
    split
    · exact ⟨fun none => (nomatch none), fun within => absurd within.2 (by omega)⟩
    · exact ⟨fun _ => ⟨mem, by omega⟩, fun _ => rfl⟩

theorem checkSchedule_ok {instant : Instant} {zone : String} (opens : schedule.start ≠ "") (closes : schedule.stop ≠ "") :
    checkSchedule env schedule instant zone = .ok () ↔ isWithinRecurringSchedule env schedule instant zone = none := by
  unfold checkSchedule parseRecurringPassSchedule
  simp [opens, closes]

theorem admits_iff (clock : ZonedClock env wall) :
    AdmitsWindow env wall pass ↔ pass.validFrom < pass.validUntil ∧ pass.schedule.WellFormed := by
  constructor
  · intro admits
    obtain ⟨start, stop, first, last, ordered, opens, closes, -⟩ := admits.window
    refine ⟨admits.dates, isClockText_iff.mpr ⟨start, first, opens⟩, isClockText_iff.mpr ⟨stop, last, closes⟩, ?_⟩
    rw [opens, closes, text_lt_minutes first last]
    exact ordered
  · rintro ⟨dates, opening, closing, ordered⟩
    obtain ⟨start, first, opens⟩ := isClockText_iff.mp opening
    obtain ⟨stop, last, closes⟩ := isClockText_iff.mp closing
    rw [opens, closes, text_lt_minutes first last] at ordered
    refine ⟨dates, start, stop, first, last, ordered, opens, closes, fun zone instant => ?_⟩
    rw [checkSchedule_ok (opens ▸ text_ne_empty start) (closes ▸ text_ne_empty stop)]
    exact within_iff clock first last opens closes zone instant

end

section

variable {env : VisitorEnv} {wall : String → Instant → ℤ} {db after : VisitorDb} {user : AuthenticatedUser}

theorem created {accessCode : String} {dto : CreateRecurringPassDto}
    (done : createRecurringPass env accessCode db user dto = .ok after) :
    ∃ pass, after.recurringPasses = db.recurringPasses ++ [pass] ∧ pass.schedule = dto.schedule ∧
      pass.validFrom = dto.validFrom ∧ pass.validUntil = dto.validUntil := by
  simp only [createRecurringPass, bind_eq_ok, pure_eq_ok] at done
  obtain ⟨unit, -, _, -, _, -, guestPhone, -, _, -, rfl⟩ := done
  exact ⟨_, rfl, rfl, rfl, rfl⟩

theorem updated {passId : Id} {dto : UpdateRecurringPassDto} {existing : RecurringPass}
    (found : db.recurringPass? passId = some existing) (done : updateRecurringPass env db user passId dto = .ok after) :
    ∃ pass, after.recurringPass? passId = some pass ∧ pass.schedule = dto.schedule.getD existing.schedule ∧
      pass.validFrom < pass.validUntil := by
  simp only [updateRecurringPass, bind_eq_ok, pure_eq_ok, orThrow_eq_ok, throwIf_eq_ok] at done
  obtain ⟨row, stored, _, -, guestPhone, -, _, ordered, rfl⟩ := done
  obtain rfl := Option.some.inj (stored.symm.trans found)
  refine ⟨dto.change env guestPhone row, ?_, rfl, not_le.mp ordered⟩
  have same := (mem_of_findBy stored).2
  have kept : ∀ row, (dto.change env guestPhone row).id = row.id := fun _ => rfl
  unfold VisitorDb.recurringPass? at stored ⊢
  rw [findBy_updateBy kept, stored]
  simp [same]

/-- Which passes `create` and `update` store with the window that they were asked for. -/
theorem windows_exact (clock : ZonedClock env wall) :
    (∀ accessCode dto, createRecurringPass env accessCode db user dto = .ok after →
      ∃ pass, after.recurringPasses = db.recurringPasses ++ [pass] ∧
        (AdmitsWindow env wall pass ↔ dto.validFrom < dto.validUntil ∧ dto.schedule.WellFormed)) ∧
    ∀ passId dto existing, db.recurringPass? passId = some existing → updateRecurringPass env db user passId dto = .ok after →
      ∃ pass, after.recurringPass? passId = some pass ∧
        (AdmitsWindow env wall pass ↔ (dto.schedule.getD existing.schedule).WellFormed) := by
  constructor
  · intro accessCode dto done
    obtain ⟨pass, stored, schedule, opens, closes⟩ := created done
    refine ⟨pass, stored, ?_⟩
    rw [admits_iff clock, schedule, opens, closes]
  · intro passId dto existing found done
    obtain ⟨pass, stored, schedule, ordered⟩ := updated found done
    refine ⟨pass, stored, ?_⟩
    rw [admits_iff clock, schedule]
    exact and_iff_right ordered

end

namespace Sample

def utcClock : VisitorEnv := { env with zonedTimeHm := fun _ instant => (clockAt instant).text }

theorem utcClock_zoned : ZonedClock utcClock fun _ instant => instant := ⟨fun _ _ => rfl, fun _ _ => rfl⟩

def helper (opens closes : String) : CreateRecurringPassDto :=
  ⟨1, "Helper", none, none, ⟨[1, 2, 3, 4, 5], opens, closes⟩, 0, 30 * 86400000⟩

end Sample

theorem window_missed : ∃ after pass, createRecurringPass Sample.utcClock "123456" Sample.start.db Sample.owner
      (Sample.helper "9:00" "18:00") = .ok after ∧
    after.recurringPasses = [pass] ∧ ¬ AdmitsWindow Sample.utcClock (fun _ instant => instant) pass ∧
    checkSchedule Sample.utcClock pass.schedule 36000000 "UTC" ≠ .ok () := by
  refine ⟨_, _, rfl, rfl, ?_, ?_⟩
  · rw [admits_iff Sample.utcClock_zoned]
    rintro ⟨-, opening, -⟩
    cases opening
  · decide

theorem windows_exact_utc : ∃ after pass, createRecurringPass Sample.utcClock "123456" Sample.start.db Sample.owner
      (Sample.helper "09:00" "18:00") = .ok after ∧
    after.recurringPasses = Sample.start.db.recurringPasses ++ [pass] ∧
    (AdmitsWindow Sample.utcClock (fun _ instant => instant) pass ↔
      (0 : ℤ) < 30 * 86400000 ∧ (Sample.helper "09:00" "18:00").schedule.WellFormed) := by
  obtain ⟨after, done⟩ : ∃ after, createRecurringPass Sample.utcClock "123456" Sample.start.db Sample.owner
      (Sample.helper "09:00" "18:00") = .ok after := ⟨_, rfl⟩
  obtain ⟨pass, stored, window⟩ := (windows_exact Sample.utcClock_zoned).1 _ _ done
  exact ⟨after, pass, done, stored, window⟩

end SmartResidence.Visitors
