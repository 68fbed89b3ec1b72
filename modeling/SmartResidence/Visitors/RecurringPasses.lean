import SmartResidence.Visitors.Registration

/-!
# `recurring-pass.service.ts`
-/

namespace SmartResidence.Visitors

open Foundation Billing

def dayName (weekday : Nat) : String :=
  (["", "Mon", "Tue", "Wed", "Thu", "Fri", "Sat", "Sun"][weekday]?).getD ""

def isWithinRecurringSchedule (env : VisitorEnv) (schedule : RecurringPassSchedule) (instant : Instant)
    (timezone : String) : Option String :=
  let weekday := env.zonedIsoWeekday timezone instant
  let nowHm := env.zonedTimeHm timezone instant
  if weekday ∉ schedule.daysOfWeek then some ("Recurring pass is not valid on " ++ dayName weekday)
  else if nowHm < schedule.start ∨ schedule.stop ≤ nowHm then
    some ("Outside allowed window (" ++ schedule.start ++ "–" ++ schedule.stop ++ ")")
  else none

def parseRecurringPassSchedule (schedule : RecurringPassSchedule) : Result RecurringPassSchedule := do
  throwIf (schedule.start = "" ∨ schedule.stop = "") (.failure "Invalid recurring pass schedule")
  return schedule

def checkSchedule (env : VisitorEnv) (schedule : RecurringPassSchedule) (instant : Instant) (timezone : String) :
    Result Unit := do
  let schedule ← parseRecurringPassSchedule schedule
  let refusal := isWithinRecurringSchedule env schedule instant timezone
  throwIf refusal.isSome (.badRequest (refusal.getD "Outside recurring pass schedule"))

def recurringByStored (db : VisitorDb) (condoId : Option Id) (normalized : String) : Option RecurringPass :=
  (db.recurringPasses.find? fun row => decide (row.qrPayload = some normalized)).or
    (db.recurringPasses.find? fun row =>
      decide (row.accessCode = some normalized) && condoId.all fun id => decide (row.condoId = id))

def lookupRecurring (env : VisitorEnv) (db : VisitorDb) (condoId : Option Id) (normalized : String) :
    Result (Option RecurringPass) := do
  match ← findById env RecurringPass.id db.recurringPasses normalized with
  | some row => return some row
  | none =>
      match ← findByPayload env RecurringPass.id RecurringPass.condoId db.recurringPasses normalized with
      | some row => return some row
      | none => return recurringByStored db condoId normalized

def resolvePass (env : VisitorEnv) (db : VisitorDb) (pass : String) (condoId : Option Id) : Result RecurringPass := do
  let found ← lookupRecurring env db condoId (normalizePassInput pass)
  orThrow found (.notFound "Unknown recurring pass — check the QR or access code")

def RecurringPass.blacklistInput (row : RecurringPass) : BlacklistInput where
  name := some row.guestName
  phone := row.guestPhone
  vehiclePlate := row.vehiclePlate
  idNumber := none

def RecurringPass.draft (row : RecurringPass) (now : Instant) : Visitor :=
  { blankVisitor row.condoId row.guestName row.guestPhone now with
    unitId := some row.unitId
    hostUserId := some row.hostUserId
    vehiclePlate := row.vehiclePlate
    status := .checkedIn
    approvedByUserId := some row.hostUserId
    approvedAt := some now }

def recurringDraft (env : VisitorEnv) (now : Instant) (db : VisitorDb) (pass : String) (guard : GateUser) :
    Result Visitor := do
  throwIf (¬ isGateOperator guard.toAuthenticatedUser)
    (.forbidden "Only security guards can check in recurring passes")
  let condoId ← guardCondoId guard
  let row ← resolvePass env db pass (some condoId)
  throwIf (row.condoId ≠ condoId) (.forbidden "Recurring pass is not for this condo")
  throwIf (¬ row.active) (.badRequest "Recurring pass is inactive")
  throwIf (now < row.validFrom ∨ row.validUntil < now) (.badRequest "Recurring pass is outside its validity period")
  let timezone := (db.condo? row.condoId).elim "Asia/Kuala_Lumpur" VisitorCondo.timezone
  checkSchedule env row.schedule now timezone
  assertNotBlacklisted env now db row.condoId row.blacklistInput
  return row.draft now

def recurringCheckIn (env : VisitorEnv) (now : Instant) (db : VisitorDb) (pass : String) (guard : GateUser) :
    Result VisitorDb := do
  let draft ← recurringDraft env now db pass guard
  return insertCheckedIn env now db draft guard.id

structure CreateRecurringPassDto where
  unitId : Id
  guestName : String
  guestPhone : Option String
  vehiclePlate : Option String
  schedule : RecurringPassSchedule
  validFrom : Instant
  validUntil : Instant

structure UpdateRecurringPassDto where
  guestName : Option String
  guestPhone : Option String
  vehiclePlate : Option String
  schedule : Option RecurringPassSchedule
  validFrom : Option Instant
  validUntil : Option Instant
  active : Option Bool

/-- The service's own `userCanManageUnit`, without the household. -/
def userCanManagePasses (user : AuthenticatedUser) (unitId : Id) : Bool :=
  user.roles.any fun r => decide (r.unitId = some unitId ∧ (r.roleId = .unitOwner ∨ r.roleId = .tenant))

def passPhone (phone : Option String) : Result (Option String) :=
  match phone.bind orNull with
  | none => .ok none
  | some phone => (normalizePhone phone).map some

def CreateRecurringPassDto.row (dto : CreateRecurringPassDto) (env : VisitorEnv) (user : AuthenticatedUser) (unit : VisitorUnit)
    (guestPhone : Option String) (id : Id) (accessCode : String) : RecurringPass :=
  let qrPayload := buildQrPayload (env.uuid unit.condoId) (env.uuid id) accessCode
  { id := id
    condoId := unit.condoId
    unitId := unit.id
    hostUserId := user.id
    guestName := trimText dto.guestName
    guestPhone := guestPhone
    vehiclePlate := normalizePlate env dto.vehiclePlate
    schedule := dto.schedule
    validFrom := dto.validFrom
    validUntil := dto.validUntil
    accessCode := some accessCode
    qrPayload := some qrPayload
    qrCode := some qrPayload
    active := true }

def createRecurringPass (env : VisitorEnv) (accessCode : String) (db : VisitorDb) (user : AuthenticatedUser)
    (dto : CreateRecurringPassDto) : Result VisitorDb := do
  let unit ← orThrow (db.unit? dto.unitId) (.notFound "Unit not found")
  throwIf (¬ userCanManagePasses user unit.id) (.forbidden "You can only create recurring passes for your unit")
  assertUnitNotAccessRestricted env user unit.id "recurringPasses"
  let guestPhone ← passPhone dto.guestPhone
  assertAccessCodeFree db unit.condoId accessCode
  return { db with
    recurringPasses := db.recurringPasses ++ [dto.row env user unit guestPhone db.nextId accessCode]
    nextId := db.nextId + 1 }

def UpdateRecurringPassDto.change (dto : UpdateRecurringPassDto) (env : VisitorEnv) (guestPhone : Option String)
    (row : RecurringPass) : RecurringPass :=
  { row with
    guestName := (dto.guestName.map trimText).getD row.guestName
    guestPhone := if dto.guestPhone.isSome then guestPhone else row.guestPhone
    vehiclePlate := if dto.vehiclePlate.isSome then normalizePlate env dto.vehiclePlate else row.vehiclePlate
    schedule := dto.schedule.getD row.schedule
    validFrom := dto.validFrom.getD row.validFrom
    validUntil := dto.validUntil.getD row.validUntil
    active := dto.active.getD row.active }

def updateRecurringPass (env : VisitorEnv) (db : VisitorDb) (user : AuthenticatedUser) (passId : Id)
    (dto : UpdateRecurringPassDto) : Result VisitorDb := do
  let existing ← orThrow (db.recurringPass? passId) (.notFound "Recurring pass not found")
  throwIf (¬ userCanManagePasses user existing.unitId) (.forbidden "You can only update recurring passes for your unit")
  let guestPhone ← passPhone dto.guestPhone
  throwIf (dto.validUntil.getD existing.validUntil ≤ dto.validFrom.getD existing.validFrom)
    (.badRequest "Valid until must be after valid from")
  return { db with recurringPasses := updateBy RecurringPass.id passId (dto.change env guestPhone) db.recurringPasses }

end SmartResidence.Visitors
