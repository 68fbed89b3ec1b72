import SmartResidence.Visitors.VisitorService

/-!
# New visitors in `visitor.service.ts`

A draft is the row to be inserted, but for its id, its time and the codes of its pass.
-/

namespace SmartResidence.Visitors

open Foundation Billing

inductive VisitorEntryMode
  | walkIn | driveIn
  deriving DecidableEq

structure CreateVisitorDto where
  unitId : Id
  name : String
  identification : Option String
  phone : String
  entryMode : Option VisitorEntryMode
  vehiclePlate : Option String
  vehiclePlatePhotoUrl : Option String
  overnight : Bool
  expectedAt : Instant
  expectedDurationMins : Option Nat
  urgentReason : Option String

def malaysiaPhoneError : String := "Enter a valid Malaysia mobile number (e.g. +60123456789 or 012-345 6789)"

/-- `normalizeMalaysiaPhoneField` of a phone that is required -/
def requiredPhone (phone : String) : Result String := do
  throwIf (trimText phone = "") (.badRequest "Phone number is required for visitors")
  let normalized := normalizeMalaysiaPhone phone
  throwIf (¬ isValidMalaysiaPhone normalized) (.badRequest malaysiaPhoneError)
  return normalized

def blankVisitor (condoId : Id) (name : String) (phone : Option String) (expectedAt : Instant) : Visitor where
  id := 0
  condoId := condoId
  visitType := .preReg
  unitId := none
  hostUserId := none
  name := name
  identification := none
  phone := phone
  vehiclePlate := none
  overnight := false
  expectedAt := expectedAt
  expectedDurationMins := none
  qrCode := none
  qrPayload := none
  accessCode := none
  expiresAt := none
  approvalDeadline := none
  status := .approved
  approvedByUserId := none
  approvedAt := none
  cancelledAt := none
  createdAt := 0

def CreateVisitorDto.mode (dto : CreateVisitorDto) : VisitorEntryMode :=
  if dto.overnight then .driveIn else dto.entryMode.getD .driveIn

def isBlank (text : Option String) : Bool := decide (trimmedOrNull text = none)

def validatePreRegDto (env : VisitorEnv) (now : Instant) (db : VisitorDb) (unit : VisitorUnit)
    (settings : CondoVisitorSettings) (dto : CreateVisitorDto) : Result Unit := do
  let _ ← requiredPhone dto.phone
  throwIf (dto.overnight = true ∧ dto.entryMode = some .walkIn)
    (.badRequest "Overnight stays are only for drive-in pre-registrations — vehicle park overnight")
  throwIf (dto.mode = .driveIn ∧ isBlank dto.vehiclePlate)
    (.badRequest "Plate number is required for drive-in visitors")
  if dto.overnight then do
    throwIf (settings.requirePlatePhotoOvernight ∧ isBlank dto.vehiclePlatePhotoUrl)
      (.badRequest ("Overnight visits require a vehicle plate photo — capture the plate on mobile or upload a " ++
        "photo that matches the typed plate"))
    let eligibility := checkUnitOvernightEligibility env db unit.id settings now
    throwIf (¬ eligibility.allowed) (.badRequest (eligibility.reason.getD "Overnight registration not allowed"))
    throwIf (isUrgentArrival now dto.expectedAt settings ∧ isBlank dto.urgentReason)
      (.badRequest "Urgent overnight visits require a brief reason — visit management office before arrival")

def holdsSlot (calendar : LocalCalendar) (condoId : Id) (expectedAt : Instant) (visitor : Visitor) : Bool :=
  let night := nightRangeForArrival calendar expectedAt
  decide (visitor.condoId = condoId ∧ visitor.overnight = true ∧
    visitor.status ∈ [VisitorStatus.approved, .pendingManagementApproval, .checkedIn] ∧
    night.1 ≤ visitor.expectedAt ∧ visitor.expectedAt < night.2)

def countOvernightSlots (calendar : LocalCalendar) (visitors : List Visitor) (condoId : Id) (expectedAt : Instant) : Nat :=
  visitors.countP (holdsSlot calendar condoId expectedAt)

def overnightOutcome (calendar : LocalCalendar) (now : Instant) (settings : CondoVisitorSettings)
    (visitors : List Visitor) (condoId : Id) (expectedAt : Instant) : Result OvernightOutcome :=
  let occupied := countOvernightSlots calendar visitors condoId expectedAt
  match resolveOvernightOutcome calendar now expectedAt settings occupied with
  | .ok outcome => .ok outcome
  | .error _ => .error (.badRequest ("No overnight slots left tonight — contact management or register as urgent " ++
      "and visit the management office"))

def statusAndDuration (env : VisitorEnv) (now : Instant) (db : VisitorDb) (unit : VisitorUnit)
    (settings : CondoVisitorSettings) (dto : CreateVisitorDto) : Result (VisitorStatus × Nat) :=
  if dto.overnight then do
    let outcome ← overnightOutcome env.calendar now settings db.visitors unit.condoId dto.expectedAt
    return (outcome.status, outcome.expectedDurationMins)
  else return (.approved, dto.expectedDurationMins.getD defaultVisitDurationMins)

def CreateVisitorDto.draft (dto : CreateVisitorDto) (now : Instant) (user : AuthenticatedUser) (unit : VisitorUnit)
    (settings : CondoVisitorSettings) (phone : String) (status : VisitorStatus) (duration : Nat) : Visitor :=
  let approved := decide (status = .approved)
  { blankVisitor unit.condoId dto.name (some phone) dto.expectedAt with
    unitId := some unit.id
    hostUserId := some user.id
    identification := dto.identification
    vehiclePlate := if dto.mode = .driveIn then dto.vehiclePlate.map trimText else none
    overnight := dto.overnight
    expectedDurationMins := some duration
    status := status
    approvedByUserId := if approved then some user.id else none
    approvedAt := if approved then some now else none
    expiresAt := if approved then some (computePreRegExpiresAt dto.expectedAt duration settings) else none }

def createDraft (env : VisitorEnv) (now : Instant) (db : VisitorDb) (user : AuthenticatedUser)
    (dto : CreateVisitorDto) : Result Visitor := do
  let unit ← orThrow (db.unit? dto.unitId) (.notFound "Unit not found")
  throwIf (¬ userCanManageUnit user unit.id) (.forbidden "You can only pre-register visitors for your own units")
  assertUnitNotAccessRestricted env user unit.id "visitors"
  let settings := settingsOf env db unit.condoId
  validatePreRegDto env now db unit settings dto
  let (status, duration) ← statusAndDuration env now db unit settings dto
  let phone ← requiredPhone dto.phone
  return dto.draft now user unit settings phone status duration

def Visitor.inserted (env : VisitorEnv) (draft : Visitor) (id : Id) (now : Instant) (accessCode : Option String) :
    Visitor :=
  { draft with
    id := id
    accessCode := accessCode
    qrPayload := accessCode.map (buildQrPayload (env.uuid draft.condoId) "pending")
    createdAt := now }

def insertVisitor (env : VisitorEnv) (now : Instant) (db : VisitorDb) (draft : Visitor) (accessCode : Option String) :
    Result VisitorDb := do
  throwIf (codeTaken db draft.condoId db.nextId accessCode) (.conflict "Unique constraint failed")
  return { db with visitors := db.visitors ++ [draft.inserted env db.nextId now accessCode], nextId := db.nextId + 1 }

def codeFor (draft : Visitor) (accessCode : String) : Option String :=
  if draft.status = .approved then some accessCode else none

def insertPass (env : VisitorEnv) (now : Instant) (db : VisitorDb) (draft : Visitor) (accessCode : String) :
    Result VisitorDb := do
  let code := codeFor draft accessCode
  throwIf (code.isSome ∧ ¬ accessCodeFree db draft.condoId accessCode) (.conflict "Access code already in use")
  let inserted ← insertVisitor env now db draft code
  if code.isSome then (Ending.update (.passFields accessCode)).commit env inserted db.nextId else return inserted

def insertOvernight (env : VisitorEnv) (now : Instant) (db : VisitorDb) (snapshot : List Visitor) (checkedAt : Instant)
    (settings : CondoVisitorSettings) (draft : Visitor) (accessCode : String) : Result VisitorDb := do
  let _ ← overnightOutcome env.calendar checkedAt settings snapshot draft.condoId draft.expectedAt
  insertPass env now db draft accessCode

def create (env : VisitorEnv) (now : Instant) (accessCode : String) (db : VisitorDb) (user : AuthenticatedUser)
    (dto : CreateVisitorDto) : Result VisitorDb := do
  let draft ← createDraft env now db user dto
  if draft.overnight then
    insertOvernight env now db db.visitors now (settingsOf env db draft.condoId) draft accessCode
  else insertPass env now db draft accessCode

inductive QuickEntryKind
  | delivery | eHailing
  deriving DecidableEq

structure CreateDeliveryPassDto where
  unitId : Id
  passKind : QuickEntryKind
  platform : String
  name : Option String
  vehiclePlate : Option String
  expectedAt : Instant
  expectedDurationMins : Option Nat

def quickEntryDurationMins (passKind : QuickEntryKind) (requested : Option Nat) : Nat :=
  requested.getD (match passKind with
    | .delivery => 120
    | .eHailing => 180)

def defaultQuickEntryPassName (passKind : QuickEntryKind) (platform : String) : String :=
  match passKind with
  | .delivery => platform ++ " delivery"
  | .eHailing => platform ++ " driver"

def deliveryDraft (env : VisitorEnv) (now : Instant) (db : VisitorDb) (user : AuthenticatedUser)
    (dto : CreateDeliveryPassDto) : Result Visitor := do
  let unit ← orThrow (db.unit? dto.unitId) (.notFound "Unit not found")
  throwIf (¬ userCanManageUnit user unit.id) (.forbidden "You can only create passes for your own units")
  assertUnitNotAccessRestricted env user unit.id "deliveryPasses"
  let duration := quickEntryDurationMins dto.passKind dto.expectedDurationMins
  let name := (trimmedOrNull dto.name).getD (defaultQuickEntryPassName dto.passKind dto.platform)
  return { blankVisitor unit.condoId name none dto.expectedAt with
    unitId := some unit.id
    hostUserId := some user.id
    vehiclePlate := trimmedOrNull dto.vehiclePlate
    expectedDurationMins := some duration
    status := .approved
    approvedByUserId := some user.id
    approvedAt := some now
    expiresAt := some (addMinutes dto.expectedAt (duration + quickEntryExpiryBufferMins)) }

def createDeliveryPass (env : VisitorEnv) (now : Instant) (accessCode : String) (db : VisitorDb)
    (user : AuthenticatedUser) (dto : CreateDeliveryPassDto) : Result VisitorDb := do
  let draft ← deliveryDraft env now db user dto
  insertPass env now db draft accessCode

structure CreateWalkInUnitDto where
  unitId : Id
  name : String
  phone : String
  vehiclePlate : Option String
  overnight : Bool
  admitNow : Bool

structure CreateWalkInOfficeDto where
  name : String
  phone : String
  vehiclePlate : Option String
  purpose : String
  overnight : Bool

def rejectWalkInOvernight (overnight : Bool) : Result Unit :=
  throwIf overnight (.badRequest ("Overnight stays are only available for pre-registered visitors — " ++
    "walk-ins are one visit validated at the gate"))

def walkInDraft (condoId : Id) (now : Instant) (visitType : VisitorVisitType) (unitId : Option Id) (name phone : String)
    (vehiclePlate : Option String) : Visitor :=
  { blankVisitor condoId name (some phone) now with
    visitType := visitType
    unitId := unitId
    vehiclePlate := vehiclePlate
    status := .checkedIn }

def insertCheckedIn (env : VisitorEnv) (now : Instant) (db : VisitorDb) (draft : Visitor) (guardId : Id) : VisitorDb :=
  ({ db with visitors := db.visitors ++ [draft.inserted env db.nextId now none], nextId := db.nextId + 1 } : VisitorDb)
    |>.recordCheckIn db.nextId guardId now

inductive WalkIn
  | waits (draft : Visitor)
  | enters (draft : Visitor)

def WalkIn.insert (env : VisitorEnv) (now : Instant) (db : VisitorDb) (guardId : Id) : WalkIn → Result VisitorDb
  | waits draft => insertVisitor env now db draft none
  | enters draft => return insertCheckedIn env now db draft guardId

def walkInUnit (env : VisitorEnv) (now : Instant) (db : VisitorDb) (guard : GateUser) (dto : CreateWalkInUnitDto) :
    Result WalkIn := do
  assertGateOperator guard.toAuthenticatedUser
  rejectWalkInOvernight dto.overnight
  let condoId ← guardCondoId guard
  let unit ← orThrow (db.units.find? fun unit => decide (unit.id = dto.unitId ∧ unit.condoId = condoId))
    (.notFound "Unit not found in this condo")
  let settings := settingsOf env db condoId
  let phone ← requiredPhone dto.phone
  let draft := walkInDraft condoId now .walkinUnit (some unit.id) dto.name phone dto.vehiclePlate
  if dto.admitNow then
    return .enters { draft with approvedByUserId := some guard.id, approvedAt := some now }
  if ¬ settings.walkInRequireOwnerApproval then return .enters draft
  return .waits { draft with
    status := .pendingOwnerApproval
    approvalDeadline := some (addMinutes now settings.walkInApprovalMinutes) }

def walkInOffice (now : Instant) (guard : GateUser) (dto : CreateWalkInOfficeDto) : Result WalkIn := do
  assertGateOperator guard.toAuthenticatedUser
  rejectWalkInOvernight dto.overnight
  let condoId ← guardCondoId guard
  throwIf (trimText dto.purpose = "") (.badRequest "Purpose is required for management office visitors")
  let phone ← requiredPhone dto.phone
  return .enters (walkInDraft condoId now .walkinOffice none dto.name phone dto.vehiclePlate)

def createWalkInUnit (env : VisitorEnv) (now : Instant) (db : VisitorDb) (guard : GateUser)
    (dto : CreateWalkInUnitDto) : Result VisitorDb := do
  let walkIn ← walkInUnit env now db guard dto
  walkIn.insert env now db guard.id

def createWalkInOffice (env : VisitorEnv) (now : Instant) (db : VisitorDb) (guard : GateUser)
    (dto : CreateWalkInOfficeDto) : Result VisitorDb := do
  let walkIn ← walkInOffice now guard dto
  walkIn.insert env now db guard.id

end SmartResidence.Visitors
