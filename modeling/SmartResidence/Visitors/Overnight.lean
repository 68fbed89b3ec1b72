import SmartResidence.Visitors.Schema

/-!
# `overnight-rules.ts` and `overnight-policy.ts`
-/

namespace SmartResidence.Visitors

open Foundation Billing

def msPerHour : ℤ := 3600000
def msPerMinute : ℤ := 60000

def hoursUntilArrival (now expectedAt : Instant) : ℚ := ((expectedAt - now : ℤ) : ℚ) / msPerHour

def startOfLocalDay (calendar : LocalCalendar) (instant : Instant) : Instant :=
  calendar.hour (calendar.day instant) 0

def dateKey (instant : Instant) : ℤ := instant / (24 * msPerHour)

def isPublicHoliday (date : Instant) (holidays : List ℤ) : Bool := dateKey date ∈ holidays

def isoWeekday (day : ℤ) : Nat := ((day + 3) % 7).toNat + 1

def isWorkingDay (calendar : LocalCalendar) (date : Instant) (settings : CondoVisitorSettings) : Bool :=
  !isPublicHoliday date settings.publicHolidays && isoWeekday (calendar.day date) ∈ settings.weekdays

def overnightDurationMins (calendar : LocalCalendar) (expectedAt : Instant) : Nat :=
  let stop := calendar.hour (calendar.day expectedAt + 1) 10
  max (mathRound (((stop - expectedAt : ℤ) : ℚ) / msPerMinute)).toNat 480

def nightRangeForArrival (calendar : LocalCalendar) (expectedAt : Instant) : Instant × Instant :=
  (startOfLocalDay calendar expectedAt, calendar.hour (calendar.day expectedAt + 1) 0)

structure OvernightOutcome where
  status : VisitorStatus
  urgentOvernight : Bool
  pendingManagementReview : Bool
  expectedDurationMins : Nat
  isHolidayAuto : Bool

def isHolidayAuto (calendar : LocalCalendar) (settings : CondoVisitorSettings) (expectedAt : Instant) : Bool :=
  !isWorkingDay calendar (startOfLocalDay calendar expectedAt) settings && settings.holidayOvernightAutoApprove

def isUrgentArrival (now expectedAt : Instant) (settings : CondoVisitorSettings) : Bool :=
  decide (hoursUntilArrival now expectedAt < settings.urgentOvernightMinHours)

def resolveOvernightOutcome (calendar : LocalCalendar) (now expectedAt : Instant) (settings : CondoVisitorSettings)
    (occupiedSlots : Nat) : Except String OvernightOutcome :=
  let urgent := isUrgentArrival now expectedAt settings
  let duration := overnightDurationMins calendar expectedAt
  if isHolidayAuto calendar settings expectedAt then
    if settings.overnightSlotsPerNight ≤ occupiedSlots then .error "OVERNIGHT_SLOTS_FULL"
    else .ok {
      status := .approved
      urgentOvernight := urgent
      pendingManagementReview := true
      expectedDurationMins := duration
      isHolidayAuto := true }
  else .ok {
    status := .pendingManagementApproval
    urgentOvernight := urgent
    pendingManagementReview := false
    expectedDurationMins := duration
    isHolidayAuto := false }

def countedOvernightStatuses (settings : CondoVisitorSettings) : List VisitorStatus :=
  if settings.countPendingTowardCap then [.pendingManagementApproval, .approved, .checkedIn, .checkedOut]
  else [.approved, .checkedIn, .checkedOut]

def localMonth (calendar : LocalCalendar) (instant : Instant) : ℤ := monthOf (calendar.day instant)

def calendarMonthRange (calendar : LocalCalendar) (ref : Instant) : Instant × Instant :=
  let month := localMonth calendar ref
  (calendar.hour (monthStart month) 0, calendar.hour (monthStart (month + 1)) 0)

def indefiniteSuspendUntil : Instant := 4102444799000

def isIndefiniteSuspend (until? : Option Instant) : Bool := until?.any fun stop => decide (indefiniteSuspendUntil ≤ stop)

def isOvernightSuspended (policy : UnitVisitorPolicy) (now : Instant) : Bool :=
  policy.overnightSuspendedUntil.any fun stop => decide (now < stop)

def countsTowardMonth (unitId : Id) (range : Instant × Instant) (statuses : List VisitorStatus) (visitor : Visitor) :
    Bool :=
  decide (visitor.unitId = some unitId ∧ visitor.overnight = true ∧ visitor.status ∈ statuses ∧
    range.1 ≤ visitor.createdAt ∧ visitor.createdAt < range.2)

def countMonthlyOvernightForUnit (db : VisitorDb) (unitId : Id) (range : Instant × Instant)
    (settings : CondoVisitorSettings) : Nat :=
  db.visitors.countP (countsTowardMonth unitId range (countedOvernightStatuses settings))

def getUnitSuspendPolicy (db : VisitorDb) (unitId : Id) (now : Instant) : Option UnitVisitorPolicy :=
  db.policies.find? fun policy => decide (policy.unitId = unitId) && isOvernightSuspended policy now

structure OvernightEligibility where
  allowed : Bool
  reason : Option String
  monthlyCount : Nat
  monthlyLimit : ℚ
  suspended : Bool

def suspendedReason (env : VisitorEnv) (policy : UnitVisitorPolicy) : String :=
  match policy.suspendReason with
  | none | some "" => "Overnight registration is temporarily suspended for this unit — contact management"
  | some reason =>
      let untilLabel :=
        if isIndefiniteSuspend policy.overnightSuspendedUntil then some "until lifted by management"
        else policy.overnightSuspendedUntil.map env.localeDateString
      "Overnight registration suspended" ++ (untilLabel.elim "" fun label => " " ++ label) ++ ": " ++ reason

def checkUnitOvernightEligibility (env : VisitorEnv) (db : VisitorDb) (unitId : Id) (settings : CondoVisitorSettings)
    (now : Instant) : OvernightEligibility :=
  match getUnitSuspendPolicy db unitId now with
  | some policy => {
      allowed := false
      reason := some (suspendedReason env policy)
      monthlyCount := 0
      monthlyLimit := settings.maxOvernightVisitsPerUnitPerMonth
      suspended := true }
  | none =>
      let monthlyCount := countMonthlyOvernightForUnit db unitId (calendarMonthRange env.calendar now) settings
      let limit := settings.maxOvernightVisitsPerUnitPerMonth
      if limit ≤ monthlyCount then {
        allowed := false
        reason := some ("Monthly overnight limit reached (" ++ env.numberString limit ++
          " per unit) — contact management")
        monthlyCount := monthlyCount
        monthlyLimit := limit
        suspended := false }
      else {
        allowed := true
        reason := none
        monthlyCount := monthlyCount
        monthlyLimit := limit
        suspended := false }

end SmartResidence.Visitors
