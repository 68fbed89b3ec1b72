import SmartResidence.Proof.OvernightCapacity

/-!
# The monthly overnight cap

`create` asks for the cap and the suspension of the unit before its transaction, `approveOvernight` does not ask.
-/

namespace SmartResidence.Visitors

open Foundation Billing

def stayed : List VisitorStatus := [.approved, .checkedIn, .checkedOut]

def monthly (env : VisitorEnv) (db : VisitorDb) (unitId : Id) (ref : Instant) : Nat :=
  db.visitors.countP (countsTowardMonth unitId (calendarMonthRange env.calendar ref) stayed)

def cap (env : VisitorEnv) (db : VisitorDb) (unitId : Id) : ℚ :=
  ((db.unit? unitId).elim env.defaultSettings fun unit => settingsOf env db unit.condoId).maxOvernightVisitsPerUnitPerMonth

def WithinCap (env : VisitorEnv) (db : VisitorDb) : Prop :=
  ∀ unitId ref, (monthly env db unitId ref : ℚ) ≤ cap env db unitId

def Fitting (env : VisitorEnv) (db : VisitorDb) (unitId : Id) (ref : Instant) : Prop :=
  (monthly env db unitId ref : ℚ) + 1 ≤ cap env db unitId

/-- An overnight visitor becomes APPROVED only where the unit is not suspended, and a stay of the month only where one more
fits. -/
def Allowed (env : VisitorEnv) (db : VisitorDb) (now made : Instant) (before after : VisitorStatus) (visitor : Visitor) :
    Prop :=
  visitor.overnight = true → ∀ unitId ∈ visitor.unitId,
    (before ∉ stayed → after ∈ stayed → Fitting env db unitId made) ∧
      (before ≠ .approved → after = .approved → getUnitSuspendPolicy db unitId now = none)

def StillEligible (env : VisitorEnv) (before : VisitorState) : VisitorEvent → Prop
  | .proceed now call =>
      (∀ visitorId ending, call.writes = some (visitorId, ending) → ∀ visitor ∈ before.db.visitors,
        visitor.id = visitorId → Allowed env before.db now visitor.createdAt visitor.status
          (ending.change env visitor).status visitor) ∧
      ∀ draft, call.inserts = some draft → call.Settled env before.db →
        Allowed env before.db now now .pendingManagementApproval draft.status draft
  | _ => True

/-- Who becomes APPROVED for a night does so in a step of a call, and the unit is not suspended then. -/
def Unsuspended (before : VisitorState) (event : VisitorEvent) (later : VisitorState) : Prop :=
  ∀ visitor ∈ later.db.visitors, visitor.overnight = true → visitor.status = .approved →
    (∀ old ∈ before.db.visitors, old.id = visitor.id → old.status ≠ .approved) →
    ∃ now call, event = .proceed now call ∧ ∀ unitId ∈ visitor.unitId, getUnitSuspendPolicy before.db unitId now = none

/-! ## Months -/

section

variable {env : VisitorEnv} {now : Instant} {db after : VisitorDb} {call : InFlight} {more : List InFlight}
  {visitor row : Visitor} {unitId : Id} {ref : Instant}

theorem counts_iff : countsTowardMonth unitId (calendarMonthRange env.calendar ref) stayed visitor = true ↔
    visitor.unitId = some unitId ∧ visitor.overnight = true ∧ visitor.status ∈ stayed ∧
      localMonth env.calendar visitor.createdAt = localMonth env.calendar ref := by
  unfold countsTowardMonth calendarMonthRange
  simp only [decide_eq_true_eq, LocalCalendar.day_mem_iff, monthOf_eq_iff]
  rfl

theorem monthly_congr {other : Instant} (same : localMonth env.calendar other = localMonth env.calendar ref) :
    monthly env db unitId other = monthly env db unitId ref := by
  unfold monthly calendarMonthRange
  rw [same]

theorem within_of_le (within : WithinCap env db) (others : Surroundings db after)
    (fewer : ∀ unitId ref, monthly env after unitId ref ≤ monthly env db unitId ref ∨
      (monthly env after unitId ref : ℚ) ≤ cap env db unitId) : WithinCap env after := by
  intro unitId ref
  have same : cap env after unitId = cap env db unitId := by
    unfold cap settingsOf VisitorDb.condo? VisitorDb.unit?
    rw [others.condos, others.units]
  rw [same]
  rcases fewer unitId ref with less | fits
  · exact (Nat.cast_le.mpr less).trans (within unitId ref)
  · exact fits

variable {calls : List InFlight}

theorem within_change (ids : Allocated (db.visitors.map Visitor.id) db.nextId) (within : WithinCap env db)
    (others : Surroundings db after) (eligible : StillEligible env ⟨db, calls⟩ (.proceed now call))
    (change : RowChange env now db call after) : WithinCap env after := by
  refine within_of_le within others fun unitId ref => ?_
  unfold monthly
  cases change with
  | keeps visitors => exact .inl (by rw [visitors])
  | @writes visitorId ending writes visitors =>
    rw [visitors]
    rcases countP_updateBy ids.distinct with fewer | ⟨visitor, mem, same, after, before, more⟩
    · exact .inl fewer
    · right
      have place : SameVisit visitor (ending.change env visitor) := Ending.sameVisit
      obtain ⟨own, overnight, status, month⟩ := counts_iff.mp after
      rw [place.unitId] at own
      rw [place.overnight] at overnight
      rw [place.createdAt] at month
      have outside : visitor.status ∉ stayed := fun inside => by
        rw [counts_iff.mpr ⟨own, overnight, inside, month⟩] at before
        cases before
      have fits := (eligible.1 visitorId ending writes visitor mem same overnight unitId own).1 outside status
      rw [Fitting, monthly_congr month] at fits
      rw [more]
      push_cast
      exact fits
  | @inserts draft row inserts settled new visitors grows =>
    rw [visitors, List.countP_append, List.countP_singleton]
    by_cases counts : countsTowardMonth unitId (calendarMonthRange env.calendar ref) stayed row = true
    · right
      obtain ⟨own, overnight, status, month⟩ := counts_iff.mp counts
      rw [new.unitId] at own
      rw [new.overnight] at overnight
      rw [new.status] at status
      rw [new.createdAt] at month
      have fits := (eligible.2 draft inserts settled overnight unitId own).1 (by decide) status
      rw [Fitting, monthly_congr month] at fits
      rw [if_pos counts]
      push_cast
      exact fits
    · left
      rw [if_neg counts]
      rfl

variable {later : VisitorState}

theorem unsuspended_change (eligible : StillEligible env ⟨db, calls⟩ (.proceed now call))
    (change : RowChange env now db call later.db) : Unsuspended ⟨db, calls⟩ (.proceed now call) later := by
  intro visitor mem overnight approved fresh
  refine ⟨now, call, rfl, fun unitId own => ?_⟩
  have old : visitor ∈ db.visitors → False := fun listed => fresh visitor listed rfl approved
  cases change with
  | keeps visitors => exact (old (visitors ▸ mem)).elim
  | @writes visitorId ending writes visitors =>
    rw [visitors] at mem
    obtain ⟨earlier, listed, rfl⟩ := mem_updateBy.mp mem
    by_cases same : earlier.id = visitorId
    · rw [if_pos same] at overnight approved own fresh
      have place : SameVisit earlier (ending.change env earlier) := Ending.sameVisit
      rw [place.overnight] at overnight
      rw [place.unitId] at own
      have allowed := eligible.1 visitorId ending writes earlier listed same overnight unitId own
      exact allowed.2 (fresh earlier listed place.id.symm) approved
    · rw [if_neg same] at old
      exact (old listed).elim
  | @inserts draft row inserts settled new visitors grows =>
    rw [visitors] at mem
    rcases List.mem_append.mp mem with earlier | added
    · exact (old earlier).elim
    · obtain rfl := List.mem_singleton.mp added
      rw [new.overnight] at overnight
      rw [new.unitId] at own
      rw [new.status] at approved
      exact (eligible.2 draft inserts settled overnight unitId own).2 (by decide) approved

variable {pick : Visitor → Bool}

theorem stayed_not_expired : (updateWhere pick Visitor.expire db.visitors).countP
        (countsTowardMonth unitId (calendarMonthRange env.calendar ref) stayed) ≤ monthly env db unitId ref := by
  refine countP_updateWhere_le fun visitor _ _ counts => ?_
  obtain ⟨-, -, status, -⟩ := counts_iff.mp counts
  exact absurd status (by simp [Visitor.expire, stayed])

variable {before : VisitorState} {event : VisitorEvent}

theorem within_step (tidy : Tidy before) (within : WithinCap env before.db) (eligible : StillEligible env before event)
    (step : VisitorStep env before event later) : WithinCap env later.db := by
  have others := (tidy.step step).2
  cases step with
  | expireApprovals => exact within_of_le within others fun _ _ => .inl stayed_not_expired
  | expirePasses => exact within_of_le within others fun _ _ => .inl stayed_not_expired
  | policies => exact within_of_le within others fun _ _ => .inl le_rfl
  | begin begins => exact within
  | proceed proceeds =>
    exact within_change tidy.ids within others eligible (proceed_rows tidy.ids proceeds).1
  | abort aborts => exact within

theorem not_approved_by_sweep (visitors : later.db.visitors = updateWhere pick Visitor.expire db.visitors) :
    Unsuspended ⟨db, calls⟩ event later := by
  intro visitor mem _ approved fresh
  rw [visitors] at mem
  obtain ⟨old, listed, rfl⟩ := mem_updateWhere.mp mem
  split at approved
  · cases approved
  · rename_i kept
    rw [if_neg kept] at fresh
    exact absurd approved (fresh old listed rfl)

theorem not_approved_by_rest (visitors : later.db.visitors = before.db.visitors) : Unsuspended before event later :=
  fun visitor mem _ approved fresh => absurd approved (fresh visitor (visitors ▸ mem) rfl)

theorem unsuspended_step (tidy : Tidy before) (eligible : StillEligible env before event)
    (step : VisitorStep env before event later) : Unsuspended before event later := by
  cases step with
  | expireApprovals => exact not_approved_by_sweep rfl
  | expirePasses => exact not_approved_by_sweep rfl
  | policies => exact not_approved_by_rest rfl
  | begin begins => exact not_approved_by_rest rfl
  | proceed proceeds => exact unsuspended_change eligible (proceed_rows tidy.ids proceeds).1
  | abort aborts => exact not_approved_by_rest rfl

end

def offsetCalendar (offset : ℤ) : LocalCalendar where
  day instant := (instant + offset) / (24 * msPerHour)
  hour day hour := day * (24 * msPerHour) + hour * msPerHour - offset
  begins (instant : ℤ) := by
    show (instant + offset) / (24 * msPerHour) * (24 * msPerHour) + (0 : ℕ) * msPerHour - offset ≤ instant
    unfold msPerHour
    omega
  ends (instant : ℤ) := by
    show instant < ((instant + offset) / (24 * msPerHour) + 1) * (24 * msPerHour) + (0 : ℕ) * msPerHour - offset
    unfold msPerHour
    omega
  ordered day := by
    show day * (24 * msPerHour) + (0 : ℕ) * msPerHour - offset < (day + 1) * (24 * msPerHour) + (0 : ℕ) * msPerHour - offset
    unfold msPerHour
    omega

section

variable {offset : ℤ} {now arrival : Instant} {settings : CondoVisitorSettings} {occupied : Nat}

def HolidayNight (settings : CondoVisitorSettings) (day : ℤ) : Prop :=
  day ∈ settings.publicHolidays ∨ isoWeekday day ∉ settings.weekdays

def AutoApproved (calendar : LocalCalendar) (now arrival : Instant) (settings : CondoVisitorSettings) (occupied : Nat) : Prop :=
  ∃ outcome, resolveOvernightOutcome calendar now arrival settings occupied = .ok outcome ∧ outcome.status = .approved

theorem dateKey_startOfLocalDay (behind : - (12 * msPerHour) ≤ offset) (ahead : offset ≤ 14 * msPerHour) :
    dateKey (startOfLocalDay (offsetCalendar offset) arrival) =
      (offsetCalendar offset).day arrival - if 0 < offset then 1 else 0 := by
  show ((offsetCalendar offset).day arrival * (24 * msPerHour) + (0 : ℕ) * msPerHour - offset) / (24 * msPerHour) = _
  unfold msPerHour at *
  split <;> omega

theorem day_startOfLocalDay (arrival : Instant) : (offsetCalendar offset).day (startOfLocalDay (offsetCalendar offset) arrival) =
    (offsetCalendar offset).day arrival := by
  show ((offsetCalendar offset).day arrival * (24 * msPerHour) + (0 : ℕ) * msPerHour - offset + offset) / (24 * msPerHour) = _
  unfold msPerHour
  omega

variable {calendar : LocalCalendar}

theorem isHolidayAuto_iff : isHolidayAuto calendar settings arrival = true ↔
    settings.holidayOvernightAutoApprove = true ∧ (dateKey (startOfLocalDay calendar arrival) ∈ settings.publicHolidays ∨
      isoWeekday (calendar.day (startOfLocalDay calendar arrival)) ∉ settings.weekdays) := by
  simp only [isHolidayAuto, isWorkingDay, isPublicHoliday, Bool.and_eq_true, Bool.not_eq_true', Bool.and_eq_false_iff,
    Bool.not_eq_false', decide_eq_true_eq, decide_eq_false_iff_not]
  exact and_comm

theorem autoApproved_iff : AutoApproved calendar now arrival settings occupied ↔
    isHolidayAuto calendar settings arrival = true ∧ occupied < settings.overnightSlotsPerNight := by
  unfold AutoApproved resolveOvernightOutcome
  by_cases auto : isHolidayAuto calendar settings arrival = true
  · by_cases full : settings.overnightSlotsPerNight ≤ occupied
    · simp [auto, full]
    · simp [auto, full, not_le.mp full]
  · simp [auto]

/-- The holiday test is made for the arrival's day just if the server is not ahead of UTC. Otherwise it is made for the day before,
which matters for a working weekday when only one of the two days is listed. -/
theorem night_classification (behind : - (12 * msPerHour) ≤ offset) (ahead : offset ≤ 14 * msPerHour) :
    ((∀ holidays, isPublicHoliday (startOfLocalDay (offsetCalendar offset) arrival) holidays =
        decide ((offsetCalendar offset).day arrival ∈ holidays)) ∧
      (offsetCalendar offset).day (startOfLocalDay (offsetCalendar offset) arrival) = (offsetCalendar offset).day arrival ↔
        offset ≤ 0) ∧
    ((AutoApproved (offsetCalendar offset) now arrival settings occupied ↔
        settings.holidayOvernightAutoApprove = true ∧ occupied < settings.overnightSlotsPerNight ∧
          HolidayNight settings ((offsetCalendar offset).day arrival)) ↔
      offset ≤ 0 ∨ settings.holidayOvernightAutoApprove = false ∨ settings.overnightSlotsPerNight ≤ occupied ∨
        isoWeekday ((offsetCalendar offset).day arrival) ∉ settings.weekdays ∨
        ((offsetCalendar offset).day arrival ∈ settings.publicHolidays ↔
          (offsetCalendar offset).day arrival - 1 ∈ settings.publicHolidays)) := by
  have key : dateKey (startOfLocalDay (offsetCalendar offset) arrival) = _ := dateKey_startOfLocalDay behind ahead
  constructor
  · rw [and_iff_left (day_startOfLocalDay arrival)]
    unfold isPublicHoliday
    rw [key]
    constructor
    · intro same
      by_contra positive
      rw [if_pos (not_le.mp positive)] at same
      have listed := same [(offsetCalendar offset).day arrival]
      simp at listed
    · intro west holidays
      rw [if_neg (not_lt.mpr west), Int.sub_zero]
  · rw [autoApproved_iff, isHolidayAuto_iff, key, day_startOfLocalDay, HolidayNight]
    generalize (offsetCalendar offset).day arrival = day
    by_cases west : offset ≤ 0
    · rw [if_neg (not_lt.mpr west), Int.sub_zero]
      simp only [west, true_or, iff_true]
      tauto
    · rw [if_pos (not_le.mp west)]
      simp only [west, false_or, ← not_lt, ← Bool.not_eq_true]
      tauto

end

def Sample.withHoliday : CondoVisitorSettings := { Sample.settings with publicHolidays := [7] }

theorem night_classification_utc :
    AutoApproved (offsetCalendar 0) 0 (7 * (24 * msPerHour) + 20 * msPerHour) Sample.withHoliday 0 ↔
      Sample.withHoliday.holidayOvernightAutoApprove = true ∧ 0 < Sample.withHoliday.overnightSlotsPerNight ∧
        HolidayNight Sample.withHoliday 7 :=
  (night_classification (by decide) (by decide)).2.mpr (.inl le_rfl)

theorem night_of_holiday_missed : ¬ ∀ (offset : ℤ) (now arrival : Instant) (settings : CondoVisitorSettings) (occupied : Nat),
    - (12 * msPerHour) ≤ offset → offset ≤ 14 * msPerHour →
    (AutoApproved (offsetCalendar offset) now arrival settings occupied ↔
      settings.holidayOvernightAutoApprove = true ∧ occupied < settings.overnightSlotsPerNight ∧
        HolidayNight settings ((offsetCalendar offset).day arrival)) := by
  intro right
  have approved := (right (8 * msPerHour) 0 (7 * (24 * msPerHour) + 12 * msPerHour) Sample.withHoliday 0 (by decide)
    (by decide)).mpr ⟨rfl, by decide, .inl (by decide)⟩
  have not : isHolidayAuto (offsetCalendar (8 * msPerHour)) Sample.withHoliday (7 * (24 * msPerHour) + 12 * msPerHour) = false := by
    decide
  rw [autoApproved_iff, not] at approved
  cases approved.1

end SmartResidence.Visitors
