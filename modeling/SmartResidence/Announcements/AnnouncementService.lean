import Mathlib.Data.Finset.Card
import Mathlib.Data.List.Sort
import SmartResidence.Auth.Schema
import SmartResidence.Foundation.Entries

/-!
# `announcement.service.ts` and `announcement-audience.ts`
-/

namespace SmartResidence.Announcements

open Foundation Billing Auth

inductive AnnouncementAudienceScope
  | condo | blocks | units
  deriving DecidableEq

inductive AnnouncementCategory
  | notice | document | maintenance
  deriving DecidableEq

inductive AnnouncementStatus
  | draft | scheduled | published | expired
  deriving DecidableEq

structure Announcement where
  id : Id
  condoId : Id
  authorUserId : Id
  title : String
  body : String
  category : AnnouncementCategory
  audienceScope : AnnouncementAudienceScope
  blockIds : List Id
  unitIds : List Id
  publishedAt : Option Instant
  expiresAt : Option Instant
  notifiedAt : Option Instant
  requiresAck : Bool
  pinned : Bool
  deletedAt : Option Instant
  createdAt : Instant
  deriving DecidableEq

structure AudienceBlock where
  id : Id
  condoId : Id
  deriving DecidableEq

structure AudienceUnit where
  id : Id
  condoId : Id
  blockId : Id
  deriving DecidableEq

structure Occupancy where
  unitId : Id
  userId : Id
  active : Bool
  deriving DecidableEq

structure Receipt where
  announcementId : Id
  userId : Id
  deriving DecidableEq

structure AnnouncementDb where
  nextId : Nat
  blocks : List AudienceBlock
  units : List AudienceUnit
  ownerships : List Occupancy
  tenancies : List Occupancy
  assignments : List AssignedRole
  announcements : List Announcement
  reads : List Receipt
  acks : List Receipt

def AnnouncementDb.user (db : AnnouncementDb) (now : Instant) (userId : Id) : AuthenticatedUser :=
  ⟨userId, rolesInForce now userId db.assignments⟩

def AnnouncementDb.announcement? (db : AnnouncementDb) (id : Id) : Option Announcement :=
  db.announcements.find? fun row => decide (row.id = id ∧ row.deletedAt = none)

def Announcement.status (row : Announcement) (now : Instant) : AnnouncementStatus :=
  match row.publishedAt with
  | none => .draft
  | some published =>
      if now < published then .scheduled
      else if row.expiresAt.any fun stop => decide (stop ≤ now) then .expired
      else .published

def isManagementForCondo (user : AuthenticatedUser) (condoId : Id) : Bool :=
  user.roles.any fun r => decide ((r.roleId = .superAdmin ∨ r.roleId = .managementAdmin ∨ r.roleId = .managementStaff) ∧
    r.condoId = some condoId)

structure ResidentAudienceContext where
  unitIds : List Id
  blockIds : List Id

def roleUnitIds (user : AuthenticatedUser) (condoId : Id) : List Id :=
  (user.roles.filter fun r => decide (r.condoId = some condoId)).filterMap RoleAssignment.unitId

def residentAudienceFromRoles (user : AuthenticatedUser) (condoId : Id) (units : List AudienceUnit) : ResidentAudienceContext :=
  let matched := units.filter fun unit => decide (unit.id ∈ roleUnitIds user condoId)
  ⟨matched.map AudienceUnit.id, (matched.map AudienceUnit.blockId).dedup⟩

def getResidentAudienceContext (user : AuthenticatedUser) (condoId : Id) (db : AnnouncementDb) : ResidentAudienceContext :=
  if roleUnitIds user condoId = [] then ⟨[], []⟩
  else residentAudienceFromRoles user condoId
    (db.units.filter fun unit => decide (unit.id ∈ roleUnitIds user condoId ∧ unit.condoId = condoId))

/-- `audienceWhereForResident`, as the database filters by it -/
def audienceWhereForResident (ctx : ResidentAudienceContext) (row : Announcement) : Bool :=
  decide (row.audienceScope = .condo) ||
    decide (ctx.blockIds ≠ [] ∧ row.audienceScope = .blocks ∧ ∃ blockId ∈ row.blockIds, blockId ∈ ctx.blockIds) ||
    decide (ctx.unitIds ≠ [] ∧ row.audienceScope = .units ∧ ∃ unitId ∈ row.unitIds, unitId ∈ ctx.unitIds)

def announcementMatchesResident (row : Announcement) (ctx : ResidentAudienceContext) : Bool :=
  match row.audienceScope with
  | .condo => true
  | .blocks => row.blockIds.any fun blockId => decide (blockId ∈ ctx.blockIds)
  | .units => row.unitIds.any fun unitId => decide (unitId ∈ ctx.unitIds)

def audienceUnitIds (row : Announcement) (condoId : Id) (db : AnnouncementDb) : List Id :=
  match row.audienceScope with
  | .condo => (db.units.filter fun unit => decide (unit.condoId = condoId)).map AudienceUnit.id
  | .blocks => (db.units.filter fun unit => decide (unit.condoId = condoId ∧ unit.blockId ∈ row.blockIds)).map AudienceUnit.id
  | .units => row.unitIds

def Occupancy.activeIn (unitIds : List Id) (row : Occupancy) : Bool := decide (row.unitId ∈ unitIds) && row.active

def unitRoles (condoId : Id) (unitIds : List Id) (db : AnnouncementDb) : List AssignedRole :=
  db.assignments.filter fun row => decide (row.condoId = some condoId ∧ row.revokedAt = none) &&
    row.unitId.any fun unitId => decide (unitId ∈ unitIds)

def resolveAnnouncementRecipientUserIds (row : Announcement) (condoId : Id) (db : AnnouncementDb) : List Id :=
  let unitIds := audienceUnitIds row condoId db
  ((db.ownerships.filter (Occupancy.activeIn unitIds)).map Occupancy.userId ++
    (db.tenancies.filter (Occupancy.activeIn unitIds)).map Occupancy.userId ++
    (unitRoles condoId unitIds db).map AssignedRole.userId).dedup

structure ListOptions where
  limit : Nat
  offset : Nat
  manage : Bool
  category : Option AnnouncementCategory

structure AnnouncementView where
  announcement : Announcement
  status : AnnouncementStatus
  ackCount : Nat
  readCount : Option Nat
  readByMe : Bool
  ackedByMe : Bool
  deriving DecidableEq

def serialize (db : AnnouncementDb) (now : Instant) (user : AuthenticatedUser) (manage : Bool) (row : Announcement) :
    AnnouncementView where
  announcement := row
  status := row.status now
  ackCount := (db.acks.filter fun ack => decide (ack.announcementId = row.id)).length
  readCount := if manage then some (db.reads.filter fun read => decide (read.announcementId = row.id)).length else none
  readByMe := decide (⟨row.id, user.id⟩ ∈ db.reads)
  ackedByMe := decide (⟨row.id, user.id⟩ ∈ db.acks)

structure AnnouncementPage where
  items : List AnnouncementView
  total : Nat
  limit : Nat
  offset : Nat

def listedBefore (first second : Announcement) : Bool :=
  if first.pinned ≠ second.pinned then first.pinned
  else if first.publishedAt ≠ second.publishedAt then
    match first.publishedAt, second.publishedAt with
    | none, _ => true
    | some _, none => false
    | some one, some two => decide (two ≤ one)
  else decide (second.createdAt ≤ first.createdAt)

def publishedWhere (now : Instant) (ctx : ResidentAudienceContext) (row : Announcement) : Bool :=
  (row.publishedAt.any fun published => decide (published ≤ now)) && (row.expiresAt.all fun stop => decide (now < stop)) &&
    audienceWhereForResident ctx row

def listPage (db : AnnouncementDb) (now : Instant) (user : AuthenticatedUser) (manage : Bool) (opts : ListOptions)
    (selected : List Announcement) : AnnouncementPage where
  items := (((selected.mergeSort listedBefore).drop opts.offset).take opts.limit).map (serialize db now user manage)
  total := selected.length
  limit := opts.limit
  offset := opts.offset

def list (now : Instant) (user : AuthenticatedUser) (condoId : Id) (opts : ListOptions) (db : AnnouncementDb) :
    Result AnnouncementPage := do
  let manage := opts.manage && isManagementForCondo user condoId
  let inCondo := db.announcements.filter fun row => decide (row.condoId = condoId ∧ row.deletedAt = none) &&
    opts.category.all fun category => decide (row.category = category)
  if manage then return listPage db now user manage opts inCondo
  else
    throwIf (¬ user.roles.any fun r => decide (r.roleId = .superAdmin ∨ r.condoId = some condoId))
      (.forbidden "You cannot view announcements for this condo")
    let audienceCtx := getResidentAudienceContext user condoId db
    return listPage db now user manage opts (inCondo.filter (publishedWhere now audienceCtx))

def notFound : ApiError := .notFound "Not Found"

def getOne (now : Instant) (user : AuthenticatedUser) (id : Id) (db : AnnouncementDb) : Result AnnouncementView := do
  let row ← orThrow (db.announcement? id) notFound
  let manage := isManagementForCondo user row.condoId
  throwIf (¬ manage ∧ row.status now ≠ .published) notFound
  throwIf (¬ manage ∧ ¬ announcementMatchesResident row (getResidentAudienceContext user row.condoId db)) notFound
  return serialize db now user manage row

def assertResidentCanAccess (user : AuthenticatedUser) (id : Id) (db : AnnouncementDb) : Result Unit := do
  let row ← orThrow (db.announcement? id) notFound
  if isManagementForCondo user row.condoId then return ()
  else throwIf (¬ announcementMatchesResident row (getResidentAudienceContext user row.condoId db)) notFound

def withReceipt (receipt : Receipt) (receipts : List Receipt) : List Receipt :=
  if receipt ∈ receipts then receipts else receipts ++ [receipt]

def markRead (user : AuthenticatedUser) (id : Id) (db : AnnouncementDb) : Result AnnouncementDb := do
  assertResidentCanAccess user id db
  return { db with reads := withReceipt ⟨id, user.id⟩ db.reads }

def acknowledge (user : AuthenticatedUser) (id : Id) (db : AnnouncementDb) : Result AnnouncementDb := do
  assertResidentCanAccess user id db
  markRead user id { db with acks := withReceipt ⟨id, user.id⟩ db.acks }

structure ReadStats where
  recipientCount : Nat
  readCount : Nat
  readPercent : ℤ
  deriving DecidableEq

structure AnnouncementStats extends ReadStats where
  ackCount : Nat
  ackPercent : ℤ

def pct (n total : Nat) : ℤ := if 0 < total then mathRound ((n : ℚ) / total * 100) else 0

def getReadStats (user : AuthenticatedUser) (id : Id) (db : AnnouncementDb) : Result AnnouncementStats := do
  let row ← orThrow (db.announcement? id) notFound
  throwIf (¬ isManagementForCondo user row.condoId) notFound
  let recipientIds := resolveAnnouncementRecipientUserIds row row.condoId db
  let recipientCount := recipientIds.length
  let count (receipts : List Receipt) :=
    if recipientCount = 0 then 0
    else (receipts.filter fun receipt => decide (receipt.announcementId = id ∧ receipt.userId ∈ recipientIds)).length
  return {
    recipientCount := recipientCount
    readCount := count db.reads
    readPercent := pct (count db.reads) recipientCount
    ackCount := count db.acks
    ackPercent := pct (count db.acks) recipientCount }

def unitIdsByBlock (condoUnits : List AudienceUnit) : List (Id × List Id) :=
  gathered AudienceUnit.blockId (fun _ => []) (fun list unit => list ++ [unit.id]) condoUnits

def pageUnitIds (condoUnits : List AudienceUnit) (row : Announcement) : List Id :=
  match row.audienceScope with
  | .condo => condoUnits.map AudienceUnit.id
  | .blocks => row.blockIds.flatMap fun blockId => ((unitIdsByBlock condoUnits).lookup blockId).getD []
  | .units => row.unitIds

/-- The units and users that `linkUser` is called with. -/
def unitUsers (condoId : Id) (unitIdList : List Id) (db : AnnouncementDb) : List (Id × Id) :=
  (db.ownerships.filter (Occupancy.activeIn unitIdList)).map (fun row => (row.unitId, row.userId)) ++
    (db.tenancies.filter (Occupancy.activeIn unitIdList)).map (fun row => (row.unitId, row.userId)) ++
    (unitRoles condoId unitIdList db).filterMap fun row => row.unitId.map fun unitId => (unitId, row.userId)

def usersByUnit (links : List (Id × Id)) : List (Id × Finset Id) :=
  gathered Prod.fst (fun _ => ∅) (fun set link => insert link.2 set) links

def recipientsOf (users : List (Id × Finset Id)) (unitIds : List Id) : Finset Id :=
  unitIds.foldl (fun recipientIds unitId => recipientIds ∪ (users.lookup unitId).getD ∅) ∅

def byAnnouncement {Value : Type} (rows : List Announcement) (value : Announcement → Value) : List (Id × Value) :=
  rows.foldl (fun entries row => assign row.id (value row) entries) []

def AnnouncementDb.condoUnits (db : AnnouncementDb) (condoId : Id) : List AudienceUnit :=
  db.units.filter fun unit => decide (unit.condoId = condoId)

def recipientIdsByAnnouncement (rows : List Announcement) (condoId : Id) (db : AnnouncementDb) : List (Id × Finset Id) :=
  let unitIdsByAnnouncement := byAnnouncement rows (pageUnitIds (db.condoUnits condoId))
  let unitIdList := membersOf (rows.flatMap (pageUnitIds (db.condoUnits condoId)))
  let users := usersByUnit (unitUsers condoId unitIdList db)
  byAnnouncement rows fun row => recipientsOf users ((unitIdsByAnnouncement.lookup row.id).getD [])

def batchReadStats (rows : List Announcement) (condoId : Id) (db : AnnouncementDb) : List (Id × ReadStats) :=
  let recipients := recipientIdsByAnnouncement rows condoId db
  let allRecipientIds : Finset Id := recipients.foldl (fun all entry => all ∪ entry.2) ∅
  let reads := db.reads.filter fun read => decide (read.announcementId ∈ rows.map Announcement.id ∧ read.userId ∈ allRecipientIds)
  byAnnouncement rows fun row =>
    let recipientIds := (recipients.lookup row.id).getD ∅
    let readCount := (reads.filter fun read => decide (read.announcementId = row.id ∧ read.userId ∈ recipientIds)).length
    ⟨recipientIds.card, readCount, pct readCount recipientIds.card⟩

end SmartResidence.Announcements
