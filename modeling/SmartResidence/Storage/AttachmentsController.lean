import SmartResidence.Announcements.AnnouncementService
import SmartResidence.Defects.DefectService
import SmartResidence.Documents.DocumentsService
import SmartResidence.Procurement.VendorBills
import SmartResidence.Threads.ThreadsService

/-!
# `attachments.controller.ts`

The download asks the tables of most records that a file can be attached to.
-/

namespace SmartResidence.Storage

open Foundation Billing Parcels
open Announcements (Announcement AnnouncementDb)
open Defects (Defect DefectUpdate)
open Documents (DocumentsDb DocumentVersion)
open Threads (Thread ThreadDb ThreadMessage managementRoles)

structure StoredDefectUpdate where
  id : Id
  update : DefectUpdate

inductive LostFoundStatus
  | opened | resolved | removed
  deriving DecidableEq

structure LostFoundPost where
  id : Id
  condoId : Id
  userId : Id
  status : LostFoundStatus
  photoAttachmentId : Option Id

structure FiledBill where
  bill : Procurement.VendorBill
  attachmentId : Option Id

structure FileDb where
  documents : DocumentsDb
  announcements : AnnouncementDb
  threads : ThreadDb
  defects : List Defect
  defectUpdates : List StoredDefectUpdate
  posts : List LostFoundPost
  bills : List FiledBill
  announcement_ids : (announcements.announcements.map Announcement.id).Nodup

namespace FileDb

variable (db : FileDb) (attachment : Attachment)

def attachment? (id : Id) : Option Attachment := findBy Attachment.id id db.documents.attachments

def messageOf : Option ThreadMessage := attachment.threadMessageId.bind fun id => findBy ThreadMessage.id id db.threads.messages

def threadOf : Option Thread := (db.messageOf attachment).bind fun message => db.threads.thread? message.threadId

def announcementOf : Option Announcement :=
  attachment.announcementId.bind fun id => findBy Announcement.id id db.announcements.announcements

def defectOf : Option Defect := attachment.defectId.bind fun id => findBy Defect.id id db.defects

def updateOf : Option StoredDefectUpdate := attachment.defectUpdateId.bind fun id => findBy StoredDefectUpdate.id id db.defectUpdates

def updatedDefect : Option Defect := (db.updateOf attachment).bind fun row => findBy Defect.id row.update.defectId db.defects

def versionOf : Option DocumentVersion := attachment.documentVersionId.bind db.documents.version?

end FileDb

def canViewDefect (user : AuthenticatedUser) (defect : Defect) : Bool :=
  user.roles.any (fun r => decide (r.roleId ∈ managementRoles ∧ r.condoId = some defect.condoId)) ||
    defect.unitId.any fun unitId => user.roles.any fun r => decide (r.unitId = some unitId)

def canViewCondoAnnouncement (user : AuthenticatedUser) (condoId : Id) : Bool :=
  user.roles.any fun r => decide (r.condoId = some condoId)

def canViewThread (user : AuthenticatedUser) (thread : Thread) : Bool :=
  let mgmtRoles := user.roles.filter fun r => decide (r.roleId ∈ managementRoles)
  if 0 < mgmtRoles.length then mgmtRoles.any fun r => decide (r.condoId = some thread.condoId)
  else decide (thread.createdByUserId = user.id) ||
    thread.unitId.any fun unitId => user.roles.any fun r => decide (r.unitId = some unitId)

namespace FileDb

variable (db : FileDb)

def showsThread (user : AuthenticatedUser) (attachment : Attachment) : Bool := (db.threadOf attachment).any (canViewThread user)

def showsAnnouncement (user : AuthenticatedUser) (attachment : Attachment) : Bool :=
  (db.announcementOf attachment).any fun row => decide (row.deletedAt = none) && canViewCondoAnnouncement user row.condoId

def defectScope (attachment : Attachment) : Option Defect := (db.defectOf attachment).or (db.updatedDefect attachment)

def showsDefect (user : AuthenticatedUser) (attachment : Attachment) : Bool := (db.defectScope attachment).any (canViewDefect user)

end FileDb

def authorize (user : AuthenticatedUser) (id : Id) (db : FileDb) : Result Attachment := do
  let attachment ← orThrow (db.attachment? id) (.notFound "Not Found")
  throwIf (attachment.uploadedByUserId ≠ some user.id ∧ ¬ db.showsThread user attachment ∧
    ¬ db.showsAnnouncement user attachment ∧ ¬ db.showsDefect user attachment) (.forbidden "Forbidden")
  return attachment

structure ServedFile where
  key : String
  contentType : String
  inlineName : Option String
  deriving DecidableEq

def fileNameFromMetadata (attachment : Attachment) : Option String :=
  (trimmedOrNull attachment.fileName).or (if isPdfMime attachment.mimeType then some "memo.pdf" else none)

def raw (user : AuthenticatedUser) (id : Id) (db : FileDb) : Result ServedFile := do
  let attachment ← authorize user id db
  let inlineName := if isPdfMime attachment.mimeType then fileNameFromMetadata attachment else none
  return ⟨attachment.key, attachment.mimeType, inlineName⟩

def thumb (user : AuthenticatedUser) (id : Id) (db : FileDb) : Result ServedFile := do
  let attachment ← authorize user id db
  match attachment.thumbnailKey with
  | some key => return ⟨key, "image/webp", none⟩
  | none => return ⟨attachment.key, attachment.mimeType, none⟩

namespace LostFound

def isManagement (user : AuthenticatedUser) (condoId : Id) : Bool :=
  user.roles.any fun r => decide (r.roleId ∈ managementRoles ∧ (r.roleId = .superAdmin ∨ r.condoId = some condoId))

def hasCondoAccess (user : AuthenticatedUser) (condoId : Id) : Bool :=
  user.roles.any fun r => decide (r.condoId = some condoId ∨ r.roleId = .superAdmin)

def canReadPost (user : AuthenticatedUser) (post : LostFoundPost) : Bool :=
  isManagement user post.condoId ||
    hasCondoAccess user post.condoId && ! decide (post.status = .removed ∧ post.userId ≠ user.id)

end LostFound

end SmartResidence.Storage
