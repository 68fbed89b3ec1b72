import SmartResidence.Foundation.Services
import SmartResidence.Settings.Json

/-!
# `parcel.service.ts`
-/

namespace SmartResidence.Parcels

open Foundation Billing Settings

inductive ParcelStatus
  | received | notified | overdue | collected
  deriving DecidableEq

structure Parcel where
  id : Id
  condoId : Id
  unitId : Id
  recipientName : String
  carrier : Option String
  trackingRef : Option String
  photoUrl : Option String
  notes : Option String
  receivedByGuardId : Id
  status : ParcelStatus
  receivedAt : Instant
  collectedAt : Option Instant
  collectedByUserId : Option Id
  lastOverdueNotifiedAt : Option Instant
  deriving DecidableEq

structure ParcelUnit where
  id : Id
  condoId : Id
  deriving DecidableEq

structure ParcelDb where
  nextId : Nat
  units : List ParcelUnit
  parcels : List Parcel

def ParcelDb.parcel? (db : ParcelDb) (id : Id) : Option Parcel := findBy Parcel.id id db.parcels

def ParcelDb.updateParcel (db : ParcelDb) (id : Id) (change : Parcel → Parcel) : ParcelDb :=
  { db with parcels := updateBy Parcel.id id change db.parcels }

def ParcelDb.insertParcel (db : ParcelDb) (row : Id → Parcel) : ParcelDb :=
  { db with parcels := db.parcels ++ [row db.nextId], nextId := db.nextId + 1 }

inductive ParcelNote
  | received (parcelId : Id)
  | collected (parcelId userId : Id) (at' : Instant)
  | overdue (parcelId : Id) (at' : Instant)
  deriving DecidableEq

def isManagement (user : AuthenticatedUser) (condoId : Id) : Bool :=
  user.roles.any fun r => decide (r.roleId = .superAdmin ∨
    ((r.roleId = .managementAdmin ∨ r.roleId = .managementStaff) ∧ r.condoId = some condoId))

def isGuardOrManagement (user : AuthenticatedUser) (condoId : Id) : Bool :=
  isManagement user condoId ||
    user.roles.any fun r => decide (r.roleId = .securityGuard ∧ r.condoId = some condoId)

def userCanCollectParcel (user : AuthenticatedUser) (parcel : Parcel) : Bool :=
  isGuardOrManagement user parcel.condoId ||
    user.roles.any fun r => decide ((r.roleId = .unitOwner ∨ r.roleId = .tenant) ∧ r.unitId = some parcel.unitId)

def userCanReadParcel (user : AuthenticatedUser) (parcel : Parcel) : Bool :=
  isGuardOrManagement user parcel.condoId ||
    user.roles.any fun r => decide ((r.roleId = .unitOwner ∨ r.roleId = .tenant ∨ r.roleId = .householdMember) ∧
      r.unitId = some parcel.unitId)

def getParcel (user : AuthenticatedUser) (id : Id) (db : ParcelDb) : Result Parcel := do
  let parcel ← orThrow (db.parcel? id) (.notFound "Parcel not found")
  throwIf (¬ userCanReadParcel user parcel) (.forbidden "No access to this parcel")
  return parcel

structure CreateParcelDto where
  condoId : Id
  unitId : Id
  recipientName : String
  carrier : Option String
  trackingRef : Option String
  photoUrl : Option String
  notes : Option String

def trimmedOrNull (text : Option String) : Option String := (text.map trimText).filter fun text => decide (text ≠ "")

def CreateParcelDto.row (dto : CreateParcelDto) (now : Instant) (guardId id : Id) : Parcel :=
  { id := id, condoId := dto.condoId, unitId := dto.unitId, recipientName := trimText dto.recipientName
    carrier := trimmedOrNull dto.carrier, trackingRef := trimmedOrNull dto.trackingRef
    photoUrl := trimmedOrNull dto.photoUrl, notes := trimmedOrNull dto.notes, receivedByGuardId := guardId
    status := .notified, receivedAt := now, collectedAt := none, collectedByUserId := none, lastOverdueNotifiedAt := none }

def createParcel (now : Instant) (user : AuthenticatedUser) (dto : CreateParcelDto) (db : ParcelDb) : Result ParcelDb := do
  throwIf (¬ isGuardOrManagement user dto.condoId) (.forbidden "Guard or management access required for this condo")
  let unit ← orThrow (findBy ParcelUnit.id dto.unitId db.units) (.notFound "Unit not found")
  throwIf (unit.condoId ≠ dto.condoId) (.badRequest "Unit does not belong to this condo")
  return db.insertParcel (dto.row now user.id)

def readCollect (user : AuthenticatedUser) (id : Id) (db : ParcelDb) : Result Parcel := do
  let parcel ← orThrow (db.parcel? id) (.notFound "Parcel not found")
  throwIf (parcel.status = .collected) (.badRequest "Parcel already collected")
  throwIf (¬ userCanCollectParcel user parcel) (.forbidden "You cannot mark this parcel as collected")
  return parcel

def Parcel.collect (now : Instant) (userId : Id) (sent read : Option String) (parcel : Parcel) : Parcel :=
  { parcel with
    status := .collected, collectedAt := some now, collectedByUserId := some userId
    notes := (sent.map trimText).or read }

def dayMs : Int := 24 * 60 * 60 * 1000

def parcelOverdueDays : Int := 3

def overdueCandidates (now : Instant) (db : ParcelDb) : List Parcel :=
  db.parcels.filter fun parcel => decide (parcel.status ≠ .collected ∧ parcel.receivedAt < now - parcelOverdueDays * dayMs)

def alreadyNotified (now : Instant) (parcel : Parcel) : Bool :=
  parcel.lastOverdueNotifiedAt.any fun last => decide (now - last < dayMs)

def Parcel.flag (now : Instant) (parcel : Parcel) : Parcel := { parcel with status := .overdue, lastOverdueNotifiedAt := some now }

inductive ParcelRequest
  | create (user : AuthenticatedUser) (dto : CreateParcelDto)
  | collect (user : AuthenticatedUser) (id : Id) (notes : Option String)
  | detectOverdue

inductive ParcelFlight
  | collecting (user : AuthenticatedUser) (parcel : Parcel) (notes : Option String)
  | sweeping (now : Instant) (candidates : List Parcel)

def ParcelDb.write (db : ParcelDb) (id : Id) (change : Parcel → Parcel) (flights : List ParcelFlight) (note : ParcelNote) :
    Outcome ParcelDb ParcelFlight ParcelNote :=
  match db.parcel? id with
  | some _ => ⟨db.updateParcel id change, flights, [note]⟩
  | none => .ended db

def beginParcel (now : Instant) (request : ParcelRequest) (db : ParcelDb) : Outcome ParcelDb ParcelFlight ParcelNote :=
  match request with
  | .create user dto =>
      match createParcel now user dto db with
      | .ok after => ⟨after, [], [.received db.nextId]⟩
      | .error _ => .ended db
  | .collect user id notes =>
      match readCollect user id db with
      | .ok parcel => .reads db [.collecting user parcel notes]
      | .error _ => .ended db
  | .detectOverdue => .reads db [.sweeping now (overdueCandidates now db)]

def proceedParcel (now : Instant) (flight : ParcelFlight) (db : ParcelDb) : Outcome ParcelDb ParcelFlight ParcelNote :=
  match flight with
  | .collecting user parcel notes =>
      db.write parcel.id (Parcel.collect now user.id notes parcel.notes) [] (.collected parcel.id user.id now)
  | .sweeping _ [] => .ended db
  | .sweeping start (candidate :: rest) =>
      if alreadyNotified start candidate then .reads db [.sweeping start rest]
      else db.write candidate.id (Parcel.flag start) [.sweeping start rest] (.overdue candidate.id start)

def parcelService : Service Instant ParcelDb ParcelRequest ParcelFlight ParcelNote := ⟨beginParcel, proceedParcel⟩

end SmartResidence.Parcels
