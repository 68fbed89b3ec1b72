import SmartResidence.Visitors.Blacklist
import SmartResidence.Visitors.Overnight

/-!
# `visitor.service.ts`

An operation reads and checks first, and says with an `Ending` what it writes.
-/

namespace SmartResidence.Visitors

open Foundation Billing

def addMinutes (instant : Instant) (mins : Nat) : Instant := instant + mins * msPerMinute

def defaultVisitDurationMins : Nat := 120
def quickEntryExpiryBufferMins : Nat := 30
def walkInCheckInWindowMins : Nat := 120

def computePreRegExpiresAt (expectedAt : Instant) (durationMins : Nat) (settings : CondoVisitorSettings) : Instant :=
  addMinutes expectedAt (durationMins + settings.preRegExpiryBufferMins)

def userCanApproveUnit (user : AuthenticatedUser) (unitId : Id) : Bool :=
  user.roles.any fun r => decide (r.unitId = some unitId ∧ (r.roleId = .unitOwner ∨ r.roleId = .tenant))

def userCanManageUnit (user : AuthenticatedUser) (unitId : Id) : Bool :=
  user.roles.any fun r => decide (r.unitId = some unitId ∧
    (r.roleId = .unitOwner ∨ r.roleId = .tenant ∨ r.roleId = .householdMember))

def isGuard (user : AuthenticatedUser) : Bool := user.roles.any fun r => decide (r.roleId = .securityGuard)

def assertUnitAccess (user : AuthenticatedUser) (unitId : Id) (db : VisitorDb) : Result Unit :=
  if userCanManageUnit user unitId then return ()
  else do
    let unit ← orThrow (db.unit? unitId) (.notFound "Unit not found")
    throwIf (¬ userIsManagement user unit.condoId) (.forbidden "You cannot access visitors for this unit")

def assertMayView (user : AuthenticatedUser) (visitor : Visitor) (db : VisitorDb) : Result Unit :=
  if userIsManagement user visitor.condoId || isGuard user then return ()
  else
    match visitor.unitId with
    | some unitId => assertUnitAccess user unitId db
    | none => .error (.forbidden "You cannot view this visitor pass")

def getVisitor (user : AuthenticatedUser) (id : Id) (db : VisitorDb) : Result Visitor := do
  let visitor ← orThrow (db.visitor? id) (.notFound "Not Found")
  assertMayView user visitor db
  return visitor

def isGateOperator (user : AuthenticatedUser) : Bool :=
  user.roles.any fun r => isSuperAdmin r || decide (r.roleId = .securityGuard)

def assertGateOperator (user : AuthenticatedUser) : Result Unit :=
  throwIf (¬ isGateOperator user) (.forbidden "Only security guards can perform gate operations")

def guardCondoId (guard : GateUser) : Result Id :=
  orThrow guard.activeCondoId (.badRequest "Active condo context required")

def assertUnitNotAccessRestricted (env : VisitorEnv) (user : AuthenticatedUser) (unitId : Id) (feature : String) :
    Result Unit :=
  throwIf (¬ env.mayUse user unitId feature) (.forbidden ("This unit cannot use this service while " ++
    "maintenance charges are unpaid. Please settle outstanding invoices or contact management."))

def inScope (scope : Option Id) (visitor : Visitor) : Bool := scope.all fun condoId => decide (visitor.condoId = condoId)

def passed (date : Option Instant) (now : Instant) : Bool := date.any fun stop => decide (stop < now)

def Visitor.approvalLapsed (now : Instant) (visitor : Visitor) : Bool :=
  decide (visitor.status = .pendingOwnerApproval) && passed visitor.approvalDeadline now

def Visitor.passLapsed (now : Instant) (visitor : Visitor) : Bool :=
  decide (visitor.status = .approved ∧ visitor.visitType ∈ [VisitorVisitType.preReg, .walkinUnit]) &&
    passed visitor.expiresAt now

def Visitor.expire (visitor : Visitor) : Visitor := { visitor with status := .expired }

def expireApprovals (scope : Option Id) (now : Instant) (db : VisitorDb) : VisitorDb :=
  { db with
    visitors := updateWhere (fun visitor => inScope scope visitor && visitor.approvalLapsed now) Visitor.expire db.visitors }

def expirePasses (scope : Option Id) (now : Instant) (db : VisitorDb) : VisitorDb :=
  { db with
    visitors := updateWhere (fun visitor => inScope scope visitor && visitor.passLapsed now) Visitor.expire db.visitors }

def expireStale (scope : Option Id) (now : Instant) (db : VisitorDb) : VisitorDb :=
  expirePasses scope now (expireApprovals scope now db)

inductive Decision
  | approve (userId : Id) (now expiresAt : Instant)
  | approveOvernight (userId : Id) (now expiresAt : Instant) (accessCode : String)
  | reject
  | cancel (now : Instant)
  | expire
  | checkOut
  | passFields (accessCode : String)

def Visitor.withPass (env : VisitorEnv) (accessCode : String) (visitor : Visitor) : Visitor :=
  let qrPayload := buildQrPayload (env.uuid visitor.condoId) (env.uuid visitor.id) accessCode
  { visitor with accessCode := some accessCode, qrPayload := some qrPayload, qrCode := some qrPayload }

def Decision.apply (env : VisitorEnv) (decision : Decision) (visitor : Visitor) : Visitor :=
  match decision with
  | .approve userId now expiresAt =>
      { visitor with
        status := .approved
        approvedByUserId := some userId
        approvedAt := some now
        expiresAt := some expiresAt }
  | .approveOvernight userId now expiresAt accessCode =>
      { visitor.withPass env accessCode with
        status := .approved
        approvedByUserId := some userId
        approvedAt := some now
        expiresAt := some expiresAt }
  | .reject => { visitor with status := .rejected }
  | .cancel now => { visitor with status := .cancelled, cancelledAt := some now }
  | .expire => visitor.expire
  | .checkOut => { visitor with status := .checkedOut }
  | .passFields accessCode => visitor.withPass env accessCode

def Decision.accessCode : Decision → Option String
  | approveOvernight _ _ _ accessCode | passFields accessCode => some accessCode
  | _ => none

def codeTaken (db : VisitorDb) (condoId visitorId : Id) (accessCode : Option String) : Bool :=
  accessCode.any fun code => db.visitors.any fun other =>
    decide (other.id ≠ visitorId ∧ other.condoId = condoId ∧ other.accessCode = some code)

inductive Ending
  | update (decision : Decision)
  | expire (message : String)
  | letIn (guardId : Id) (now : Instant) (approves : Bool)

def Visitor.enter (guardId : Id) (now : Instant) (approves : Bool) (visitor : Visitor) : Visitor :=
  { visitor with
    status := .checkedIn
    approvedByUserId := if approves then some guardId else visitor.approvedByUserId
    approvedAt := if approves then some now else visitor.approvedAt }

def VisitorDb.recordCheckIn (db : VisitorDb) (visitorId guardId : Id) (now : Instant) : VisitorDb :=
  { db with
    checkIns := db.checkIns ++ [⟨db.nextId, visitorId, now, guardId, none, none⟩]
    nextId := db.nextId + 1 }

def requireVisitor (db : VisitorDb) (id : Id) : Result Visitor :=
  orThrow (db.visitor? id) (.failure "Record to update not found.")

def Ending.commit (env : VisitorEnv) (db : VisitorDb) (visitorId : Id) : Ending → Result VisitorDb
  | update decision => do
      let visitor ← requireVisitor db visitorId
      throwIf (codeTaken db visitor.condoId visitorId decision.accessCode) (.conflict "Unique constraint failed")
      return db.updateVisitor visitorId (decision.apply env)
  | expire _ => do
      let _ ← requireVisitor db visitorId
      return db.updateVisitor visitorId Visitor.expire
  | letIn guardId now approves => do
      let _ ← requireVisitor db visitorId
      return (db.updateVisitor visitorId (Visitor.enter guardId now approves)).recordCheckIn visitorId guardId now

def Ending.answer : Ending → Result Unit
  | expire message => .error (.badRequest message)
  | _ => .ok ()

def Ending.run (env : VisitorEnv) (visitorId : Id) (ending : Ending) : VisitorCall Unit := fun db =>
  match ending.commit env db visitorId with
  | .ok after => (ending.answer, after)
  | .error failure => (.error failure, db)

def readVisitor (visitorId : Id) (message : String) : VisitorCall Visitor := fun db =>
  (orThrow (db.visitor? visitorId) (.notFound message), db)

def awaitingOwner (user : AuthenticatedUser) (visitor : Visitor) (verb done : String) : Result Unit := do
  throwIf (visitor.visitType ≠ .walkinUnit) (.badRequest ("Only unit walk-in visitors can be " ++ done))
  throwIf (¬ visitor.unitId.any (userCanApproveUnit user))
    (.forbidden ("You cannot " ++ verb ++ " visitors for this unit"))
  throwIf (visitor.status ≠ .pendingOwnerApproval)
    (.badRequest ("Visitor is " ++ visitor.status.name ++ ", not awaiting approval"))

def approveChecks (now : Instant) (user : AuthenticatedUser) (visitor : Visitor) : Result Ending := do
  awaitingOwner user visitor "approve" "approved"
  if passed visitor.approvalDeadline now then
    return .expire "Approval window expired — ask the guard to re-register the visitor"
  return .update (.approve user.id now (addMinutes now walkInCheckInWindowMins))

def approve (env : VisitorEnv) (now : Instant) (visitorId : Id) (user : AuthenticatedUser) : VisitorCall Unit := do
  Call.write (expireStale none now)
  let visitor ← readVisitor visitorId "Not Found"
  let ending ← Call.ofResult (approveChecks now user visitor)
  ending.run env visitorId

def rejectChecks (user : AuthenticatedUser) (visitor : Visitor) : Result Ending := do
  awaitingOwner user visitor "reject" "rejected"
  return .update .reject

def reject (env : VisitorEnv) (now : Instant) (visitorId : Id) (user : AuthenticatedUser) : VisitorCall Unit := do
  Call.write (expireStale none now)
  let visitor ← readVisitor visitorId "Not Found"
  let ending ← Call.ofResult (rejectChecks user visitor)
  ending.run env visitorId

def cancelChecks (now : Instant) (user : AuthenticatedUser) (visitor : Visitor) : Result Ending := do
  throwIf (¬ visitor.unitId.any (userCanManageUnit user)) (.badRequest "Only the unit owner can cancel this visitor")
  throwIf (¬ visitor.status.upcoming) (.badRequest "Only upcoming passes can be cancelled")
  return .update (.cancel now)

def cancel (env : VisitorEnv) (now : Instant) (visitorId : Id) (user : AuthenticatedUser) : VisitorCall Unit := do
  let visitor ← readVisitor visitorId "Not Found"
  let ending ← Call.ofResult (cancelChecks now user visitor)
  ending.run env visitorId

def settingsOf (env : VisitorEnv) (db : VisitorDb) (condoId : Id) : CondoVisitorSettings :=
  (db.condo? condoId).elim env.defaultSettings VisitorCondo.settings

def approveOvernightChecks (now : Instant) (user : AuthenticatedUser) (settings : CondoVisitorSettings)
    (accessCode : String) (visitor : Visitor) : Result Ending := do
  throwIf (¬ userIsManagement user visitor.condoId) (.forbidden "Only management can approve overnight visitors")
  throwIf (visitor.visitType ≠ .preReg ∨ visitor.overnight = false)
    (.badRequest "Only overnight pre-registrations can be approved here")
  throwIf (visitor.status ≠ .pendingManagementApproval)
    (.badRequest ("Visitor is " ++ visitor.status.name ++ ", not awaiting management approval"))
  let duration := visitor.expectedDurationMins.getD defaultVisitDurationMins
  return .update (.approveOvernight user.id now (computePreRegExpiresAt visitor.expectedAt duration settings) accessCode)

def approveOvernight (env : VisitorEnv) (now : Instant) (accessCode : String) (visitorId : Id)
    (user : AuthenticatedUser) : VisitorCall Unit := do
  Call.write (expireStale none now)
  let visitor ← readVisitor visitorId "Not Found"
  let settings ← Call.read fun db => settingsOf env db visitor.condoId
  let ending ← Call.ofResult (approveOvernightChecks now user settings accessCode visitor)
  let free ← Call.read fun db => assertAccessCodeFree db visitor.condoId accessCode
  Call.ofResult free
  ending.run env visitorId

def walkInOfCondo (condoId : Id) (visitor : Visitor) (done : String) : Result Unit := do
  throwIf (visitor.condoId ≠ condoId) (.notFound "Visitor not found")
  throwIf (visitor.visitType ≠ .walkinUnit)
    (.badRequest ("Only unit walk-in visitors can be " ++ done ++ " at the gate"))

def approveWalkInChecks (now : Instant) (guard : GateUser) (condoId : Id) (visitor : Visitor) : Result Ending := do
  walkInOfCondo condoId visitor "approved"
  throwIf (visitor.status ≠ .pendingOwnerApproval) (.badRequest (
    if visitor.status = .expired then "Approval window expired — re-register the visitor"
    else "Visitor is " ++ visitor.status.name ++ ", not awaiting approval"))
  return .letIn guard.id now true

def approveWalkInByGuard (env : VisitorEnv) (now : Instant) (visitorId : Id) (guard : GateUser) : VisitorCall Unit := do
  Call.ofResult (assertGateOperator guard.toAuthenticatedUser)
  let condoId ← Call.ofResult (guardCondoId guard)
  let visitor ← readVisitor visitorId "Visitor not found"
  let ending ← Call.ofResult (approveWalkInChecks now guard condoId visitor)
  ending.run env visitorId

def acknowledgeChecks (now : Instant) (guard : GateUser) (condoId : Id) (visitor : Visitor) : Result Ending := do
  walkInOfCondo condoId visitor "acknowledged"
  throwIf (visitor.status ≠ .approved) (.badRequest (
    if visitor.status = .checkedIn then "Visitor already acknowledged on site"
    else "Visitor is " ++ visitor.status.name ++ ", not awaiting gate acknowledgment"))
  if passed visitor.expiresAt now then
    return .expire "Owner approval window expired — ask the resident to re-register the visitor"
  return .letIn guard.id now false

def acknowledgeWalkIn (env : VisitorEnv) (now : Instant) (visitorId : Id) (guard : GateUser) : VisitorCall Unit := do
  Call.ofResult (assertGateOperator guard.toAuthenticatedUser)
  let condoId ← Call.ofResult (guardCondoId guard)
  let visitor ← readVisitor visitorId "Visitor not found"
  let ending ← Call.ofResult (acknowledgeChecks now guard condoId visitor)
  ending.run env visitorId

def enrichVerifyResult (env : VisitorEnv) (now : Instant) (visitor : Visitor) : Result Visitor := do
  throwIf (visitor.status = .cancelled) (.badRequest "Visitor pass has been cancelled")
  throwIf (visitor.status = .expired) (.badRequest (
    if visitor.visitType = .walkinUnit then
      "Owner did not respond in time — contact the resident or ask the visitor to leave"
    else "Visitor pass has expired"))
  throwIf (visitor.overnight = true ∧ visitor.visitType = .preReg ∧ visitor.status = .approved ∧ now < visitor.expectedAt)
    (.badRequest ("Pass not yet active — valid from " ++ env.localeString visitor.expectedAt))
  return visitor

def visitorByStored (db : VisitorDb) (condoId : Option Id) (normalized : String) : Option Visitor :=
  ((db.visitors.find? fun v => decide (v.qrPayload = some normalized)).or
    (db.visitors.find? fun v => decide (v.qrCode = some normalized))).or
    (db.visitors.find? fun v => decide (v.accessCode = some normalized) && condoId.all fun id => decide (v.condoId = id))

def lookupVisitor (env : VisitorEnv) (db : VisitorDb) (condoId : Option Id) (normalized : String) :
    Result (Option Visitor) := do
  match ← findById env Visitor.id db.visitors normalized with
  | some visitor => return some visitor
  | none =>
      match ← findByPayload env Visitor.id Visitor.condoId db.visitors normalized with
      | some visitor => return some visitor
      | none => return visitorByStored db condoId normalized

def verifyByPass (env : VisitorEnv) (now : Instant) (pass : String) (condoId : Option Id) : VisitorCall Visitor := do
  Call.write (expireStale condoId now)
  let found ← Call.read fun db => lookupVisitor env db condoId (normalizePassInput pass)
  let visitor ← Call.ofResult (found >>= fun found =>
    orThrow found (.notFound "Unknown pass — check the QR or access code"))
  Call.ofResult (enrichVerifyResult env now visitor)

def checkInChecks (now : Instant) (guard : GateUser) (condoId : Id) (visitor : Visitor) : Result Ending := do
  throwIf (visitor.condoId ≠ condoId) (.forbidden "Visitor pass is not for this condo")
  throwIf (visitor.status = .checkedIn) (.badRequest "Visitor already checked in")
  throwIf (visitor.visitType = .preReg ∧ visitor.status = .pendingManagementApproval)
    (.badRequest "Pre-registered visitor is awaiting management approval")
  throwIf (visitor.status ≠ .approved) (.badRequest ("Cannot check in visitor with status " ++ visitor.status.name))
  if passed visitor.expiresAt now then return .expire "Visitor pass has expired"
  return .letIn guard.id now false

def checkIn (env : VisitorEnv) (now : Instant) (pass : String) (guard : GateUser) : VisitorCall Unit := do
  Call.ofResult (assertGateOperator guard.toAuthenticatedUser)
  let condoId ← Call.ofResult (guardCondoId guard)
  let visitor ← verifyByPass env now pass (some condoId)
  let ending ← Call.ofResult (checkInChecks now guard condoId visitor)
  ending.run env visitor.id

structure Closing where
  visitorId : Id
  checkInId : Id
  checkOutAt : Instant
  guardId : Option Id

def Closing.close (closing : Closing) (row : VisitorCheckIn) : VisitorCheckIn :=
  { row with checkOutAt := some closing.checkOutAt, checkOutGuardId := closing.guardId }

def Closing.closeRecord (closing : Closing) (db : VisitorDb) : Result VisitorDb := do
  let _ ← orThrow (findBy VisitorCheckIn.id closing.checkInId db.checkIns) (.failure "Record to update not found.")
  return { db with checkIns := updateBy VisitorCheckIn.id closing.checkInId closing.close db.checkIns }

def Closing.run (env : VisitorEnv) (closing : Closing) : VisitorCall Unit := do
  fun db => match closing.closeRecord db with
    | .ok after => (.ok (), after)
    | .error failure => (.error failure, db)
  (Ending.update .checkOut).run env closing.visitorId

def lastCheckIn (db : VisitorDb) (visitorId : Id) : Option VisitorCheckIn :=
  latestBy VisitorCheckIn.checkInAt ((db.checkInsOf visitorId).filter fun row => row.checkOutAt.isNone)

def refuseWalkIn (visitor : Visitor) : Result Unit :=
  throwIf visitor.isWalkIn (.badRequest "Walk-in visits close automatically — manual checkout is not used")

def checkOut (env : VisitorEnv) (now : Instant) (pass : String) (guard : GateUser) : VisitorCall Unit := do
  Call.ofResult (assertGateOperator guard.toAuthenticatedUser)
  let condoId ← Call.ofResult (guardCondoId guard)
  let byId ← Call.read fun db => findById env Visitor.id db.visitors (normalizePassInput pass)
  let byId ← Call.ofResult byId
  Call.ofResult ((byId.filter fun visitor => decide (visitor.condoId = condoId)).elim (.ok ()) refuseWalkIn)
  let visitor ← verifyByPass env now pass (some condoId)
  Call.ofResult (refuseWalkIn visitor)
  let last ← Call.read fun db => lastCheckIn db visitor.id
  let record ← Call.ofResult (orThrow last (.badRequest "No active check-in for this visitor"))
  Closing.run env ⟨visitor.id, record.id, now, some guard.id⟩

def resolveAutoCloseAt (visitor : Visitor) (checkInAt dayStart now : Instant) : Option Instant :=
  let atDayStart := if checkInAt < dayStart then some dayStart else none
  if visitor.isWalkIn then atDayStart
  else if visitor.overnight then
    match visitor.expiresAt with
    | some stop => if now < stop then none else some stop
    | none => atDayStart
  else atDayStart

def autoClosings (env : VisitorEnv) (db : VisitorDb) (condoId : Id) (now : Instant) : List Closing :=
  let timezone := (db.condo? condoId).elim "Asia/Kuala_Lumpur" VisitorCondo.timezone
  let dayStart := env.condoDayStart timezone now
  (db.visitors.filter fun visitor => decide (visitor.condoId = condoId ∧ visitor.status = .checkedIn)).filterMap
    fun visitor => (lastCheckIn db visitor.id).bind fun active =>
      (resolveAutoCloseAt visitor active.checkInAt dayStart now).map fun closeAt =>
        ⟨visitor.id, active.id, closeAt, none⟩

def autoCloseStaleVisitors (env : VisitorEnv) (condoId : Id) (now : Instant) : VisitorCall Unit := fun db =>
  (autoClosings env db condoId now).foldlM (fun _ closing => Closing.run env closing) () db

end SmartResidence.Visitors
