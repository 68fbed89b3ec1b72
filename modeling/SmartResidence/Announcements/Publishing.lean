import SmartResidence.Announcements.AnnouncementService
import SmartResidence.Foundation.Services
import SmartResidence.Storage.Attachments

/-!
# Writing and publishing announcements

A notice is announced when it is live, by its writer or by the sweep of the scheduled ones.
-/

namespace SmartResidence.Announcements

open Foundation Billing Storage

structure PublishingDb extends AnnouncementDb where
  attachments : List Attachment
  clock : Instant

inductive PublishingNote
  | published (id condoId : Id) (row : Announcement) (now : Instant)
  | scheduled (id : Id)
  deriving DecidableEq

def validateSchedule (publishedAt : Instant) (expiresAt : Option Instant) : Result Unit :=
  throwIf (∃ stop ∈ expiresAt, stop ≤ publishedAt) (.badRequest "Expiry must be after the publish time")

def validateAudience (condoId : Id) (scope : AnnouncementAudienceScope) (blockIds unitIds : List Id) (db : PublishingDb) :
    Result Unit := do
  match scope with
  | .condo => return ()
  | .blocks => do
      throwIf (blockIds = []) (.badRequest "Select at least one block for block-targeted notices")
      let found := db.blocks.filter fun block => decide (block.condoId = condoId ∧ block.id ∈ blockIds)
      throwIf (found.length ≠ blockIds.length) (.badRequest "One or more blocks are invalid for this condo")
  | .units => do
      throwIf (unitIds = []) (.badRequest "Select at least one unit for unit-targeted notices")
      let found := db.units.filter fun unit => decide (unit.condoId = condoId ∧ unit.id ∈ unitIds)
      throwIf (found.length ≠ unitIds.length) (.badRequest "One or more units are invalid for this condo")

structure CreateAnnouncementDto where
  condoId : Id
  title : String
  body : String
  category : Option AnnouncementCategory
  audienceScope : Option AnnouncementAudienceScope
  blockIds : List Id
  unitIds : List Id
  publishedAt : Option Instant
  expiresAt : Option Instant
  requiresAck : Option Bool
  pinned : Option Bool
  attachmentIds : List Id

def CreateAnnouncementDto.row (dto : CreateAnnouncementDto) (userId : Id) (publishedAt now : Instant) (id : Id) : Announcement :=
  let audienceScope := dto.audienceScope.getD .condo
  { id := id, condoId := dto.condoId, authorUserId := userId, title := dto.title, body := dto.body
    category := dto.category.getD .document, audienceScope := audienceScope
    blockIds := if audienceScope = .blocks then dto.blockIds else []
    unitIds := if audienceScope = .units then dto.unitIds else []
    publishedAt := some publishedAt, expiresAt := dto.expiresAt, notifiedAt := none, requiresAck := dto.requiresAck.getD false
    pinned := dto.pinned.getD false, deletedAt := none, createdAt := now }

def readCreate (now : Instant) (user : AuthenticatedUser) (dto : CreateAnnouncementDto) (db : PublishingDb) : Result Instant := do
  throwIf (¬ isManagementForCondo user dto.condoId) (.forbidden "Only management can publish announcements for this condo")
  if dto.attachmentIds ≠ [] then validateAttachments user.id dto.attachmentIds db.attachments
  validateAudience dto.condoId (dto.audienceScope.getD .condo) dto.blockIds dto.unitIds db
  let publishedAt := dto.publishedAt.getD now
  validateSchedule publishedAt dto.expiresAt
  return publishedAt

def PublishingDb.insert (db : PublishingDb) (now : Instant) (userId : Id) (dto : CreateAnnouncementDto) (publishedAt : Instant) :
    PublishingDb :=
  { db with
    nextId := db.nextId + 1
    announcements := db.announcements ++ [dto.row userId publishedAt now db.nextId]
    attachments := updateWhere (Attachment.pendingFree userId dto.attachmentIds) (Attachment.commit (.announcement db.nextId))
      db.attachments }

structure UpdateAnnouncementDto where
  title : Option String
  body : Option String
  category : Option AnnouncementCategory
  audienceScope : Option AnnouncementAudienceScope
  blockIds : Option (List Id)
  unitIds : Option (List Id)
  publishedAt : Option (Option Instant)
  expiresAt : Option (Option Instant)
  requiresAck : Option Bool
  pinned : Option Bool

def UpdateAnnouncementDto.audienceChanged (dto : UpdateAnnouncementDto) : Bool :=
  dto.audienceScope.isSome || dto.blockIds.isSome || dto.unitIds.isSome

def UpdateAnnouncementDto.becomingUnpublishedOrScheduled (now : Instant) (dto : UpdateAnnouncementDto) : Bool :=
  dto.publishedAt.any fun publishedAt => publishedAt.all fun published => decide (now < published)

/-- What the update sets, with what `existing` had for the audience. -/
def UpdateAnnouncementDto.change (dto : UpdateAnnouncementDto) (existing : Announcement) (unpublished : Bool) (row : Announcement) :
    Announcement :=
  let audienceScope := dto.audienceScope.getD existing.audienceScope
  let written : Announcement := { row with
    title := dto.title.getD row.title, body := dto.body.getD row.body, category := dto.category.getD row.category
    audienceScope := dto.audienceScope.getD row.audienceScope, publishedAt := dto.publishedAt.getD row.publishedAt
    expiresAt := dto.expiresAt.getD row.expiresAt, requiresAck := dto.requiresAck.getD row.requiresAck
    pinned := dto.pinned.getD row.pinned, notifiedAt := if unpublished then none else row.notifiedAt }
  if dto.audienceChanged then { written with
    blockIds := if audienceScope = .blocks then dto.blockIds.getD existing.blockIds else []
    unitIds := if audienceScope = .units then dto.unitIds.getD existing.unitIds else [] }
  else written

def readManaged (user : AuthenticatedUser) (id : Id) (message : String) (db : PublishingDb) : Result Announcement := do
  let existing ← orThrow (db.announcement? id) notFound
  throwIf (¬ isManagementForCondo user existing.condoId) (.forbidden message)
  return existing

def checkUpdate (existing : Announcement) (dto : UpdateAnnouncementDto) (db : PublishingDb) : Result Unit := do
  if dto.audienceChanged then
    validateAudience existing.condoId (dto.audienceScope.getD existing.audienceScope) (dto.blockIds.getD existing.blockIds)
      (dto.unitIds.getD existing.unitIds) db
  if let some publishedAt := dto.publishedAt.getD existing.publishedAt then
    validateSchedule publishedAt (dto.expiresAt.getD existing.expiresAt)

def PublishingDb.write (db : PublishingDb) (id : Id) (change : Announcement → Announcement) : Result PublishingDb := do
  let _ ← orThrow (findBy Announcement.id id db.announcements) (.failure "Record to update not found")
  return { db with announcements := updateBy Announcement.id id change db.announcements }

def dueScheduled (now : Instant) (db : PublishingDb) : List Announcement :=
  db.announcements.filter fun row => decide (row.deletedAt = none ∧ row.notifiedAt = none) &&
    row.publishedAt.any fun published => decide (published ≤ now)

def PublishingDb.claimable? (db : PublishingDb) (id : Id) : Option Announcement :=
  db.announcements.find? fun row => decide (row.id = id ∧ row.notifiedAt = none)

def Announcement.notify (at' : Instant) (row : Announcement) : Announcement := { row with notifiedAt := some at' }

structure Claim where
  id : Id
  condoId : Id
  liveAt : Instant
  deriving DecidableEq

inductive PublishingRequest
  | create (user : AuthenticatedUser) (dto : CreateAnnouncementDto)
  | update (user : AuthenticatedUser) (id : Id) (dto : UpdateAnnouncementDto)
  | softDelete (user : AuthenticatedUser) (id : Id)
  | publishDueScheduled

inductive PublishingFlight
  | creating (userId : Id) (dto : CreateAnnouncementDto) (publishedAt : Instant)
  | checking (existing : Announcement) (dto : UpdateAnnouncementDto)
  | updating (existing : Announcement) (dto : UpdateAnnouncementDto) (unpublished : Bool)
  | deleting (id : Id)
  | claiming (claims : List Claim) (sweep : Option Instant)

abbrev PublishingOutcome : Type := Outcome PublishingDb PublishingFlight PublishingNote

def claimIfLive (now : Instant) (id condoId : Id) (publishedAt : Option Instant) : List PublishingFlight :=
  if publishedAt.any fun published => decide (published ≤ now) then [.claiming [⟨id, condoId, now⟩] none] else []

def beginPublishing (now : Instant) (request : PublishingRequest) (db : PublishingDb) : PublishingOutcome :=
  let db := { db with clock := now }
  match request with
  | .create user dto => .ofRead db (readCreate now user dto db) fun publishedAt => .creating user.id dto publishedAt
  | .update user id dto =>
      .ofRead db (readManaged user id "Only management can update announcements for this condo" db) fun existing =>
        .checking existing dto
  | .softDelete user id =>
      .ofRead db (readManaged user id "Only management can delete announcements for this condo" db) fun existing =>
        .deleting existing.id
  | .publishDueScheduled =>
      .reads db [.claiming ((dueScheduled now db).map fun row => ⟨row.id, row.condoId, now⟩) (some now)]

def PublishingDb.claim (db : PublishingDb) (at' : Instant) (id : Id) : PublishingDb :=
  { db with
    announcements := updateWhere (fun row => decide (row.id = id ∧ row.notifiedAt = none)) (Announcement.notify at')
      db.announcements }

def claimAndNotify (now : Instant) (claim : Claim) (sweep : Option Instant) (db : PublishingDb) :
    PublishingDb × List PublishingNote :=
  match db.claimable? claim.id with
  | some row => (db.claim (sweep.getD now) claim.id, [.published claim.id claim.condoId row now])
  | none => (db, [])

def proceedPublishing (now : Instant) (flight : PublishingFlight) (db : PublishingDb) : PublishingOutcome :=
  let db := { db with clock := now }
  match flight with
  | .creating userId dto publishedAt =>
      ⟨db.insert now userId dto publishedAt, claimIfLive now db.nextId dto.condoId (some publishedAt), [.scheduled db.nextId]⟩
  | .checking existing dto =>
      .ofRead db (checkUpdate existing dto db) fun _ => .updating existing dto (dto.becomingUnpublishedOrScheduled now)
  | .updating existing dto unpublished =>
      .thenGo db (db.write existing.id (dto.change existing unpublished))
        (fun _ => claimIfLive now existing.id existing.condoId (dto.publishedAt.getD existing.publishedAt))
        (if unpublished then [.scheduled existing.id] else [])
  | .deleting id => .ofWrite db (db.write id fun row => { row with deletedAt := some now }) []
  | .claiming [] _ => .ended db
  | .claiming (claim :: rest) sweep =>
      let (after, notes) := claimAndNotify now claim sweep db
      ⟨after, [.claiming rest sweep], notes⟩

def publishingService : Service Instant PublishingDb PublishingRequest PublishingFlight PublishingNote :=
  ⟨beginPublishing, proceedPublishing⟩

end SmartResidence.Announcements
