import Mathlib.Data.List.Sort
import SmartResidence.Parcels.ParcelService

/-!
# `sos.service.ts`
-/

namespace SmartResidence.Safety

open Foundation Billing Settings Parcels

inductive SosKind
  | medical | security | fire | general
  deriving DecidableEq

inductive SosStatus
  | active | acknowledged | resolved | cancelled
  deriving DecidableEq

structure SosAlert where
  id : Id
  condoId : Id
  raisedByUserId : Id
  unitId : Option Id
  kind : SosKind
  status : SosStatus
  locationNote : Option String
  acknowledgedByUserId : Option Id
  acknowledgedAt : Option Instant
  resolvedByUserId : Option Id
  resolvedAt : Option Instant
  resolutionNote : Option String
  cancelledAt : Option Instant
  createdAt : Instant
  deriving DecidableEq

structure UnitResident where
  userId : Id
  unitId : Id
  active : Bool
  deriving DecidableEq

structure SosDb where
  nextId : Nat
  ownerships : List UnitResident
  tenancies : List UnitResident
  alerts : List SosAlert

def SosDb.alert? (db : SosDb) (id : Id) : Option SosAlert := findBy SosAlert.id id db.alerts

def openStatuses : List SosStatus := [.active, .acknowledged]

inductive SosNote
  | raised (sosId raisedByUserId : Id)
  | acknowledged (sosId actorUserId : Id)
  | resolved (sosId actorUserId : Id)
  | cancelled (sosId actorUserId : Id) (byManagement : Bool)
  deriving DecidableEq

def isManagementOrGuard (user : AuthenticatedUser) (condoId : Id) : Bool :=
  user.roles.any fun r => decide (r.roleId = .superAdmin ∨
    ((r.roleId = .managementAdmin ∨ r.roleId = .managementStaff ∨ r.roleId = .securityGuard) ∧ r.condoId = some condoId))

def assertManagementOrGuard (user : AuthenticatedUser) (condoId : Id) : Result Unit :=
  throwIf (¬ isManagementOrGuard user condoId) (.forbidden "Management or guard access required for this condo")

def assertCondoMember (user : AuthenticatedUser) (condoId : Id) : Result Unit :=
  throwIf (¬ user.roles.any fun r => decide (r.roleId = .superAdmin ∨ r.condoId = some condoId))
    (.forbidden "No access to this condo")

def UnitResident.livesIn (userId unitId : Id) (row : UnitResident) : Bool :=
  decide (row.userId = userId ∧ row.unitId = unitId) && row.active

def assertActsForUnit (actor : AuthenticatedUser) (unitId condoId : Id) (db : SosDb) : Result Unit :=
  throwIf (¬ isManagementOrGuard actor condoId ∧ ¬ (actor.roles.any fun r => decide (r.unitId = some unitId)) ∧
      ¬ db.ownerships.any (UnitResident.livesIn actor.id unitId) ∧ ¬ db.tenancies.any (UnitResident.livesIn actor.id unitId))
    (.forbidden "You are not a resident of the selected unit")

structure RaiseSosDto where
  condoId : Id
  unitId : Option Id
  kind : Option SosKind
  locationNote : Option String

def RaiseSosDto.row (dto : RaiseSosDto) (now : Instant) (actorId id : Id) : SosAlert :=
  { id := id, condoId := dto.condoId, raisedByUserId := actorId, unitId := dto.unitId, kind := dto.kind.getD .general
    status := .active, locationNote := trimmedOrNull dto.locationNote, acknowledgedByUserId := none, acknowledgedAt := none
    resolvedByUserId := none, resolvedAt := none, resolutionNote := none, cancelledAt := none, createdAt := now }

def raise (now : Instant) (actor : AuthenticatedUser) (dto : RaiseSosDto) (db : SosDb) : Result SosDb := do
  assertCondoMember actor dto.condoId
  if let some unitId := dto.unitId then assertActsForUnit actor unitId dto.condoId db
  return { db with alerts := db.alerts ++ [dto.row now actor.id db.nextId], nextId := db.nextId + 1 }

structure SosListing where
  active : List SosAlert
  recent : List SosAlert

def listForCondo (actor : AuthenticatedUser) (condoId : Id) (db : SosDb) : Result SosListing := do
  assertManagementOrGuard actor condoId
  let alerts := db.alerts.filter fun alert => decide (alert.condoId = condoId)
  return {
    active := (alerts.filter fun alert => decide (alert.status ∈ openStatuses)).mergeSort
      fun first second => decide (first.createdAt ≤ second.createdAt)
    recent := ((alerts.filter fun alert => decide (alert.status = .resolved ∨ alert.status = .cancelled)).mergeSort
      fun first second => decide (second.createdAt ≤ first.createdAt)).take 20 }

def SosDb.find (db : SosDb) (id : Id) : Result SosAlert := orThrow (db.alert? id) (.notFound "SOS alert not found")

def getAlert (actor : AuthenticatedUser) (id : Id) (db : SosDb) : Result SosAlert := do
  let alert ← db.find id
  throwIf (alert.raisedByUserId ≠ actor.id ∧ ¬ isManagementOrGuard actor alert.condoId) (.forbidden "You cannot view this alert")
  return alert

def readAcknowledge (actor : AuthenticatedUser) (id : Id) (db : SosDb) : Result SosAlert := do
  let alert ← db.find id
  assertManagementOrGuard actor alert.condoId
  throwIf (alert.status ≠ .active) (.badRequest "Only active alerts can be acknowledged")
  return alert

def SosAlert.acknowledge (now : Instant) (actorId : Id) (alert : SosAlert) : SosAlert :=
  { alert with status := .acknowledged, acknowledgedByUserId := some actorId, acknowledgedAt := some now }

def readResolve (actor : AuthenticatedUser) (id : Id) (db : SosDb) : Result SosAlert := do
  let alert ← db.find id
  assertManagementOrGuard actor alert.condoId
  throwIf (alert.status ∉ openStatuses) (.badRequest "This alert is already closed")
  return alert

def SosAlert.resolve (now : Instant) (actorId : Id) (resolutionNote : Option String) (alert : SosAlert) : SosAlert :=
  { alert with
    status := .resolved, resolvedByUserId := some actorId, resolvedAt := some now
    resolutionNote := trimmedOrNull resolutionNote }

def readCancel (actor : AuthenticatedUser) (id : Id) (db : SosDb) : Result SosAlert := do
  let alert ← db.find id
  throwIf (alert.raisedByUserId ≠ actor.id ∧ ¬ isManagementOrGuard actor alert.condoId) (.forbidden "You cannot cancel this alert")
  throwIf (alert.status ∉ openStatuses) (.badRequest "This alert is already closed")
  return alert

def SosAlert.cancel (now : Instant) (alert : SosAlert) : SosAlert := { alert with status := .cancelled, cancelledAt := some now }

inductive SosRequest
  | raise (actor : AuthenticatedUser) (dto : RaiseSosDto)
  | acknowledge (actor : AuthenticatedUser) (id : Id)
  | resolve (actor : AuthenticatedUser) (id : Id) (resolutionNote : Option String)
  | cancel (actor : AuthenticatedUser) (id : Id)

inductive SosFlight
  | acknowledging (actor : AuthenticatedUser) (alert : SosAlert)
  | resolving (actor : AuthenticatedUser) (alert : SosAlert) (resolutionNote : Option String)
  | cancelling (actor : AuthenticatedUser) (alert : SosAlert)

abbrev SosOutcome : Type := Outcome SosDb SosFlight SosNote

def SosDb.write (db : SosDb) (id : Id) (change : SosAlert → SosAlert) : Result SosDb := do
  let _ ← orThrow (db.alert? id) (.failure "Record to update not found")
  return { db with alerts := updateBy SosAlert.id id change db.alerts }

def beginSos (now : Instant) (request : SosRequest) (db : SosDb) : SosOutcome :=
  match request with
  | .raise actor dto => .ofWrite db (raise now actor dto db) [.raised db.nextId actor.id]
  | .acknowledge actor id => .ofRead db (readAcknowledge actor id db) (.acknowledging actor)
  | .resolve actor id resolutionNote => .ofRead db (readResolve actor id db) fun alert => .resolving actor alert resolutionNote
  | .cancel actor id => .ofRead db (readCancel actor id db) (.cancelling actor)

def proceedSos (now : Instant) (flight : SosFlight) (db : SosDb) : SosOutcome :=
  match flight with
  | .acknowledging actor alert =>
      .ofWrite db (db.write alert.id (SosAlert.acknowledge now actor.id)) [.acknowledged alert.id actor.id]
  | .resolving actor alert resolutionNote =>
      .ofWrite db (db.write alert.id (SosAlert.resolve now actor.id resolutionNote)) [.resolved alert.id actor.id]
  | .cancelling actor alert =>
      .ofWrite db (db.write alert.id (SosAlert.cancel now))
        [.cancelled alert.id actor.id (decide (alert.raisedByUserId ≠ actor.id))]

def sosService : Service Instant SosDb SosRequest SosFlight SosNote := ⟨beginSos, proceedSos⟩

end SmartResidence.Safety
