import SmartResidence.Documents.DocumentsService

/-!
# `attachment-cleanup.service.ts`, and the calls that commit files

Of a call that commits files to its record, the model starts where its other checks have passed.
-/

namespace SmartResidence.Storage

open Foundation Billing Documents

structure StorageDb extends DocumentsDb where
  objects : List String

/-- The keys of an upload, with what `nanoid` draws for it. -/
structure UploadKeys where
  full : Id → String
  thumb : Id → String
  apart : ∀ id other, id ≠ other → full id ≠ full other ∧ full id ≠ thumb other ∧ thumb id ≠ thumb other

def Attachment.keys (row : Attachment) : List String := row.key :: row.thumbnailKey.toList

def Attachment.parents (row : Attachment) : List Parent :=
  (row.defectId.map Parent.defect).toList ++ (row.defectUpdateId.map Parent.defectUpdate).toList ++
    (row.announcementId.map Parent.announcement).toList ++ (row.threadMessageId.map Parent.threadMessage).toList ++
    (row.documentVersionId.map Parent.documentVersion).toList

inductive StorageNote
  | accepted (parent : Parent) (id : Id)
  | committed (parent : Parent) (id : Id) (keys : List String)
  deriving DecidableEq

structure UploadedFile where
  mimeType : String
  size : Nat
  fileName : Option String
  thumbnail : Bool

/-- The row that `upload` creates once its objects are stored. -/
def uploadRow (keys : UploadKeys) (now : Instant) (userId : Id) (file : UploadedFile) (id : Id) : Attachment :=
  { id := id, key := keys.full id, thumbnailKey := if file.thumbnail then some (keys.thumb id) else none, mimeType := file.mimeType
    size := file.size, fileName := file.fileName, status := .pending, ownerKind := .generic, uploadedByUserId := some userId
    defectId := none, defectUpdateId := none, threadMessageId := none, announcementId := none, documentVersionId := none
    createdAt := now }

/-- The row that `presign` creates; the client stores the object later. -/
def presignRow (keys : UploadKeys) (now : Instant) (userId : Id) (file : UploadedFile) (id : Id) : Attachment :=
  { uploadRow keys now userId { file with thumbnail := false } id with status := .committed }

def StorageDb.create (db : StorageDb) (row : Attachment) (objects : List String) : StorageDb :=
  { db with nextId := db.nextId + 1, attachments := db.attachments ++ [row], objects := db.objects ++ objects }

/-- The calls that commit with one `updateMany`. -/
inductive CommitKind
  | thread | message | defectUpdate
  deriving DecidableEq

def CommitKind.parent (kind : CommitKind) (id : Id) : Parent :=
  match kind with
  | .thread => .threadMessage id
  | .message => .threadMessage id
  | .defectUpdate => .defectUpdate id

def StorageDb.note (db : StorageDb) (parent : Parent) (row : Attachment) : StorageNote :=
  .committed parent row.id (row.keys.filter fun key => decide (key ∈ db.objects))

/-- An `updateMany` that commits the chosen files. -/
def StorageDb.commitWhere (db : StorageDb) (parent : Parent) (chosen : Attachment → Bool) : StorageDb :=
  { db with attachments := updateWhere chosen (Attachment.commit parent) db.attachments }

def StorageDb.drawn (db : StorageDb) : StorageDb := { db with nextId := db.nextId + 1 }

/-- `status` is not asked, but only what is pending counts as accepted. -/
def StorageDb.notesFree (db : StorageDb) (parent : Parent) (userId : Id) (ids : List Id) : List StorageNote :=
  (db.attachments.filter (Attachment.pendingFree userId ids)).map (fun row => .accepted parent row.id) ++
    (db.attachments.filter (Attachment.free userId ids)).map (db.note parent)

def StorageDb.notesChecked (db : StorageDb) (parent : Parent) (userId : Id) (ids : List Id) : List StorageNote :=
  ids.map (StorageNote.accepted parent) ++ (db.attachments.filter (Attachment.pendingFree userId ids)).map (db.note parent)

structure Orphan where
  id : Id
  keys : List String
  deriving DecidableEq

def sweepBatch : Nat := 200

def findOrphans (now : Instant) (order : Attachment → Attachment → Bool) (db : StorageDb) : List Orphan :=
  let old := db.attachments.filter fun row => decide (row.status = .pending ∧ row.createdAt < now - orphanAttachmentTtlMs)
  ((old.mergeSort order).take sweepBatch).map fun row => ⟨row.id, row.keys⟩

/-- `removeMany`, which only logs when the storage fails -/
def removeMany (orphans : List Orphan) (succeeds : Bool) (db : StorageDb) : StorageDb :=
  if succeeds then { db with objects := db.objects.filter fun key => decide (key ∉ orphans.flatMap Orphan.keys) } else db

def deleteMany (orphans : List Orphan) (db : StorageDb) : StorageDb :=
  { db with attachments := db.attachments.filter fun row => decide (row.id ∉ orphans.map Orphan.id) }

inductive StorageRequest
  | upload (userId : Id) (file : UploadedFile)
  | presign (userId : Id) (file : UploadedFile)
  | clientPut (id : Id)
  | commit (kind : CommitKind) (userId : Id) (attachmentIds : List Id)
  | createDefect (userId : Id) (attachmentIds : List Id)
  | createAnnouncement (userId : Id) (attachmentIds : List Id)
  | publishVersion (actor : AuthenticatedUser) (documentId : Id) (dto : PublishDocumentVersionDto)
  | sweep (order : Attachment → Attachment → Bool) (removes : Bool)

inductive StorageFlight
  | linking (defectId userId : Id) (attachmentIds : List Id)
  | announcing (userId : Id) (attachmentIds : List Id)
  | numbering (actor : AuthenticatedUser) (dto : PublishDocumentVersionDto) (doc : Document) (attachment : Attachment)
  | publishing (actor : AuthenticatedUser) (dto : PublishDocumentVersionDto) (plan : PublishPlan)
  | removing (orphans : List Orphan) (removes : Bool)
  | deleting (orphans : List Orphan)

abbrev StorageOutcome : Type := Outcome StorageDb StorageFlight StorageNote

def StorageDb.commitFree (db : StorageDb) (parent : Parent) (userId : Id) (ids : List Id) : StorageOutcome :=
  ⟨db.drawn.commitWhere parent (Attachment.free userId ids), [], db.notesFree parent userId ids⟩

def beginStorage (keys : UploadKeys) (now : Instant) (request : StorageRequest) (db : StorageDb) : StorageOutcome :=
  match request with
  | .upload userId file =>
      let row := uploadRow keys now userId file db.nextId
      .ended (db.create row row.keys)
  | .presign userId file => .ended (db.create (presignRow keys now userId file db.nextId) [])
  | .clientPut id => .ended { db with objects := db.objects ++ [keys.full id] }
  | .commit kind userId attachmentIds => db.commitFree (kind.parent db.nextId) userId attachmentIds
  | .createDefect userId attachmentIds => .reads db.drawn [.linking db.nextId userId attachmentIds]
  | .createAnnouncement userId attachmentIds =>
      .ofRead db (validateAttachments userId attachmentIds db.attachments) fun _ => .announcing userId attachmentIds
  | .publishVersion actor documentId dto =>
      .ofRead db (checkPublish actor documentId dto db.toDocumentsDb) fun (doc, attachment) => .numbering actor dto doc attachment
  | .sweep order removes =>
      match findOrphans now order db with
      | [] => .ended db
      | orphans => .reads db [.removing orphans removes]

def StorageDb.notesPublished (db : StorageDb) (id : Id) : List StorageNote :=
  .accepted (.documentVersion db.nextId) id ::
    (db.attachments.filter fun row => decide (row.id = id)).map (db.note (.documentVersion db.nextId))

def proceedStorage (now : Instant) (flight : StorageFlight) (db : StorageDb) : StorageOutcome :=
  match flight with
  | .linking defectId userId attachmentIds =>
      ⟨db.commitWhere (.defect defectId) (Attachment.free userId attachmentIds), [],
        db.notesFree (.defect defectId) userId attachmentIds⟩
  | .announcing userId attachmentIds =>
      ⟨db.drawn.commitWhere (.announcement db.nextId) (Attachment.pendingFree userId attachmentIds), [],
        db.notesChecked (.announcement db.nextId) userId attachmentIds⟩
  | .numbering actor dto doc attachment =>
      .reads db [.publishing actor dto ⟨doc, attachment, nextVersionNumber doc.id db.toDocumentsDb⟩]
  | .publishing actor dto plan =>
      match writePublish now actor dto plan db.toDocumentsDb with
      | .ok after => ⟨⟨after, db.objects⟩, [], db.notesPublished plan.attachment.id⟩
      | .error _ => .ended db
  | .removing orphans removes => ⟨removeMany orphans removes db, [.deleting orphans], []⟩
  | .deleting orphans => .ended (deleteMany orphans db)

def storageService (keys : UploadKeys) : Service Instant StorageDb StorageRequest StorageFlight StorageNote :=
  ⟨beginStorage keys, proceedStorage⟩

end SmartResidence.Storage
