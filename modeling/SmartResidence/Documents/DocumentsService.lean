import Mathlib.Data.List.Sort
import SmartResidence.Parcels.ParcelService
import SmartResidence.Storage.Attachments

/-!
# `documents.service.ts`
-/

namespace SmartResidence.Documents

open Foundation Billing Settings Parcels Storage

inductive DocumentFolderAudience
  | all | owners | management
  deriving DecidableEq

structure DocumentFolder where
  id : Id
  condoId : Id
  name : String
  audience : DocumentFolderAudience
  position : Int
  active : Bool
  deriving DecidableEq

structure Document where
  id : Id
  folderId : Id
  condoId : Id
  title : String
  description : Option String
  currentVersionId : Option Id
  active : Bool
  createdAt : Instant
  deriving DecidableEq

structure DocumentVersion where
  id : Id
  documentId : Id
  versionNumber : Nat
  fileKey : String
  mimeType : String
  sizeBytes : Nat
  uploadedByUserId : Id
  publishedAt : Instant
  notes : Option String
  deriving DecidableEq

structure DocumentsDb where
  nextId : Nat
  folders : List DocumentFolder
  documents : List Document
  versions : List DocumentVersion
  attachments : List Attachment

namespace DocumentsDb

variable (db : DocumentsDb)

def folder? (id : Id) : Option DocumentFolder := findBy DocumentFolder.id id db.folders
def document? (id : Id) : Option Document := findBy Document.id id db.documents
def version? (id : Id) : Option DocumentVersion := findBy DocumentVersion.id id db.versions

def folderOf (row : Document) : Result DocumentFolder := orThrow (db.folder? row.folderId) (.failure "Inconsistent query result")

end DocumentsDb

def isManagement (user : AuthenticatedUser) (condoId : Id) : Bool :=
  user.roles.any fun r => decide (r.roleId = .superAdmin ∨
    ((r.roleId = .managementAdmin ∨ r.roleId = .managementStaff) ∧ r.condoId = some condoId))

def assertManagement (user : AuthenticatedUser) (condoId : Id) : Result Unit :=
  throwIf (¬ isManagement user condoId) (.forbidden "Management access required")

def assertCondoAccess (user : AuthenticatedUser) (condoId : Id) : Result Unit :=
  throwIf (¬ user.roles.any fun r => decide (r.roleId = .superAdmin ∨ r.condoId = some condoId)) (.forbidden "No access to this condo")

def visibleAudiences (actor : AuthenticatedUser) (condoId : Id) : List DocumentFolderAudience :=
  if isManagement actor condoId then [.all, .owners, .management]
  else if actor.roles.any fun r => decide (r.roleId = .unitOwner ∧ r.condoId = some condoId) then [.all, .owners]
  else [.all]

def assertCanReadFolder (actor : AuthenticatedUser) (condoId : Id) (audience : DocumentFolderAudience) : Result Unit := do
  assertCondoAccess actor condoId
  if isManagement actor condoId then return ()
  else throwIf (audience ∉ visibleAudiences actor condoId) (.forbidden "You do not have access to this folder")

structure CreateDocumentFolderDto where
  condoId : Id
  name : String
  audience : Option DocumentFolderAudience
  position : Option Int

def createFolder (actor : AuthenticatedUser) (dto : CreateDocumentFolderDto) (db : DocumentsDb) : Result DocumentsDb := do
  assertManagement actor dto.condoId
  let folder : DocumentFolder :=
    { id := db.nextId, condoId := dto.condoId, name := trimText dto.name, audience := dto.audience.getD .all
      position := dto.position.getD 0, active := true }
  return { db with nextId := db.nextId + 1, folders := db.folders ++ [folder] }

structure UpdateDocumentFolderDto where
  name : Option String
  audience : Option DocumentFolderAudience
  position : Option Int
  active : Option Bool

def UpdateDocumentFolderDto.change (dto : UpdateDocumentFolderDto) (folder : DocumentFolder) : DocumentFolder :=
  { folder with
    name := (dto.name.map trimText).getD folder.name, audience := dto.audience.getD folder.audience
    position := dto.position.getD folder.position, active := dto.active.getD folder.active }

def DocumentsDb.writeFolder (db : DocumentsDb) (id : Id) (change : DocumentFolder → DocumentFolder) : DocumentsDb :=
  { db with folders := updateBy DocumentFolder.id id change db.folders }

def updateFolder (actor : AuthenticatedUser) (id : Id) (dto : UpdateDocumentFolderDto) (db : DocumentsDb) : Result DocumentsDb := do
  let existing ← orThrow (db.folder? id) (.notFound "Folder not found")
  assertManagement actor existing.condoId
  return db.writeFolder id dto.change

def DocumentFolder.deactivate (folder : DocumentFolder) : DocumentFolder := { folder with active := false }

def deleteFolder (actor : AuthenticatedUser) (id : Id) (db : DocumentsDb) : Result DocumentsDb := do
  let existing ← orThrow (db.folder? id) (.notFound "Folder not found")
  assertManagement actor existing.condoId
  if ∃ row ∈ db.documents, row.folderId = id then return db.writeFolder id DocumentFolder.deactivate
  else return { db with folders := db.folders.filter fun folder => decide (folder.id ≠ id) }

structure ListDocumentsOptions where
  folderId : Option Id
  includeInactive : Bool
  limit : Nat
  offset : Nat

structure DocumentPage where
  items : List Document
  total : Nat
  limit : Nat
  offset : Nat

def listedBefore (collate : String → String → Bool) (first second : Document) : Bool :=
  if first.title = second.title then decide (second.createdAt ≤ first.createdAt) else collate first.title second.title

def documentWhere (actor : AuthenticatedUser) (condoId : Id) (opts : ListDocumentsOptions) (db : DocumentsDb) (row : Document) :
    Bool :=
  let manage := isManagement actor condoId
  decide (row.condoId = condoId) && (opts.folderId.all fun folderId => decide (row.folderId = folderId)) &&
    (manage && opts.includeInactive || row.active) &&
    (manage || (db.folder? row.folderId).any fun folder =>
      decide (folder.audience ∈ visibleAudiences actor condoId) && folder.active)

def listDocuments (collate : String → String → Bool) (actor : AuthenticatedUser) (condoId : Id) (opts : ListDocumentsOptions)
    (db : DocumentsDb) : Result DocumentPage := do
  assertCondoAccess actor condoId
  let selected := db.documents.filter (documentWhere actor condoId opts db)
  return ⟨((selected.mergeSort (listedBefore collate)).drop opts.offset).take opts.limit, selected.length, opts.limit, opts.offset⟩

def assertActive (actor : AuthenticatedUser) (row : Document) (message : String) : Result Unit :=
  throwIf (¬ row.active ∧ ¬ isManagement actor row.condoId) (.notFound message)

def getDocument (actor : AuthenticatedUser) (id : Id) (db : DocumentsDb) : Result Document := do
  let row ← orThrow (db.document? id) (.notFound "Document not found")
  assertActive actor row "Document not found"
  let folder ← db.folderOf row
  assertCanReadFolder actor row.condoId folder.audience
  return row

structure CreateDocumentDto where
  folderId : Id
  title : String
  description : Option String

def createDocument (now : Instant) (actor : AuthenticatedUser) (dto : CreateDocumentDto) (db : DocumentsDb) : Result DocumentsDb := do
  let folder ← orThrow ((db.folder? dto.folderId).filter DocumentFolder.active) (.notFound "Folder not found")
  assertManagement actor folder.condoId
  let row : Document :=
    { id := db.nextId, folderId := folder.id, condoId := folder.condoId, title := trimText dto.title
      description := trimmedOrNull dto.description, currentVersionId := none, active := true, createdAt := now }
  return { db with nextId := db.nextId + 1, documents := db.documents ++ [row] }

structure UpdateDocumentDto where
  folderId : Option Id
  title : Option String
  description : Option String
  active : Option Bool

def UpdateDocumentDto.change (dto : UpdateDocumentDto) (row : Document) : Document :=
  { row with
    folderId := dto.folderId.getD row.folderId, title := (dto.title.map trimText).getD row.title
    description := if dto.description.isSome then trimmedOrNull dto.description else row.description
    active := dto.active.getD row.active }

def checkMove (existing : Document) (folderId : Id) (db : DocumentsDb) : Result Unit := do
  let _ ← orThrow ((db.folder? folderId).filter fun folder => decide (folder.condoId = existing.condoId))
    (.badRequest "Target folder not found in this condo")
  return ()

def DocumentsDb.writeDocument (db : DocumentsDb) (id : Id) (change : Document → Document) : DocumentsDb :=
  { db with documents := updateBy Document.id id change db.documents }

def updateDocument (actor : AuthenticatedUser) (id : Id) (dto : UpdateDocumentDto) (db : DocumentsDb) : Result DocumentsDb := do
  let existing ← orThrow (db.document? id) (.notFound "Document not found")
  assertManagement actor existing.condoId
  if let some folderId := dto.folderId then checkMove existing folderId db
  return db.writeDocument id dto.change

def Document.deactivate (row : Document) : Document := { row with active := false }

def deleteDocument (actor : AuthenticatedUser) (id : Id) (db : DocumentsDb) : Result DocumentsDb := do
  let existing ← orThrow (db.document? id) (.notFound "Document not found")
  assertManagement actor existing.condoId
  return db.writeDocument id Document.deactivate

def listVersions (actor : AuthenticatedUser) (documentId : Id) (db : DocumentsDb) : Result (List DocumentVersion) := do
  let doc ← getDocument actor documentId db
  return (db.versions.filter fun version => decide (version.documentId = doc.id)).mergeSort
    fun first second => decide (second.versionNumber ≤ first.versionNumber)

structure PublishDocumentVersionDto where
  attachmentId : Id
  notes : Option String

/-- What `publishVersion` has read before its transaction. -/
structure PublishPlan where
  doc : Document
  attachment : Attachment
  versionNumber : Nat

def checkPublish (actor : AuthenticatedUser) (documentId : Id) (dto : PublishDocumentVersionDto) (db : DocumentsDb) :
    Result (Document × Attachment) := do
  let doc ← orThrow ((db.document? documentId).filter Document.active) (.notFound "Document not found")
  assertManagement actor doc.condoId
  let attachment ← orThrow (findBy Attachment.id dto.attachmentId db.attachments) (.badRequest "Attachment not found")
  throwIf (attachment.uploadedByUserId ≠ some actor.id) (.forbidden "Attachment was uploaded by another user")
  throwIf (attachment.status ≠ .pending ∨ attachment.ownerKind ≠ .generic) (.badRequest "Attachment is not available for publishing")
  throwIf (¬ isAllowedDocumentMime attachment.mimeType) (.badRequest "Only PDF documents can be published")
  return (doc, attachment)

def nextVersionNumber (documentId : Id) (db : DocumentsDb) : Nat :=
  let numbers := (db.versions.filter fun version => decide (version.documentId = documentId)).map DocumentVersion.versionNumber
  numbers.max?.getD 0 + 1

def writePublish (now : Instant) (actor : AuthenticatedUser) (dto : PublishDocumentVersionDto) (plan : PublishPlan) (db : DocumentsDb) :
    Result DocumentsDb := do
  throwIf (∃ version ∈ db.versions, version.documentId = plan.doc.id ∧ version.versionNumber = plan.versionNumber)
    (.failure "Unique constraint failed")
  let _ ← orThrow (findBy Attachment.id plan.attachment.id db.attachments) (.failure "Record to update not found")
  let version : DocumentVersion :=
    { id := db.nextId, documentId := plan.doc.id, versionNumber := plan.versionNumber, fileKey := plan.attachment.key
      mimeType := plan.attachment.mimeType, sizeBytes := plan.attachment.size, uploadedByUserId := actor.id
      publishedAt := now, notes := trimmedOrNull dto.notes }
  return { db with
    nextId := db.nextId + 1
    versions := db.versions ++ [version]
    attachments := updateBy Attachment.id plan.attachment.id (Attachment.commit (.documentVersion db.nextId)) db.attachments
    documents := updateBy Document.id plan.doc.id (fun row => { row with currentVersionId := some db.nextId }) db.documents }

def publishVersion (now : Instant) (actor : AuthenticatedUser) (documentId : Id) (dto : PublishDocumentVersionDto) (db : DocumentsDb) :
    Result DocumentsDb := do
  let (doc, attachment) ← checkPublish actor documentId dto db
  writePublish now actor dto ⟨doc, attachment, nextVersionNumber documentId db⟩ db

structure Download where
  url : String
  expiresIn : Nat
  fileName : String
  mimeType : String
  sizeBytes : Nat
  deriving DecidableEq

def getDownloadUrl (presign : String → Nat → String) (actor : AuthenticatedUser) (versionId : Id) (db : DocumentsDb) :
    Result Download := do
  let version ← orThrow (db.version? versionId) (.notFound "Version not found")
  let doc ← orThrow (db.document? version.documentId) (.failure "Inconsistent query result")
  assertActive actor doc "Version not found"
  let folder ← db.folderOf doc
  assertCanReadFolder actor doc.condoId folder.audience
  let meta' := db.attachments.find? fun row => decide (row.documentVersionId = some versionId)
  let fileName := (meta'.bind Attachment.fileName).getD (doc.title ++ ".pdf")
  return ⟨presign version.fileKey (60 * 5), 60 * 5, fileName, version.mimeType, version.sizeBytes⟩

inductive DocumentCall
  | createFolder (actor : AuthenticatedUser) (dto : CreateDocumentFolderDto)
  | updateFolder (actor : AuthenticatedUser) (id : Id) (dto : UpdateDocumentFolderDto)
  | deleteFolder (actor : AuthenticatedUser) (id : Id)
  | createDocument (actor : AuthenticatedUser) (dto : CreateDocumentDto)
  | updateDocument (actor : AuthenticatedUser) (id : Id) (dto : UpdateDocumentDto)
  | deleteDocument (actor : AuthenticatedUser) (id : Id)
  | publishVersion (actor : AuthenticatedUser) (documentId : Id) (dto : PublishDocumentVersionDto)
  | upload (attachment : Attachment)

def runCall (now : Instant) (db : DocumentsDb) : DocumentCall → Result DocumentsDb
  | .createFolder actor dto => createFolder actor dto db
  | .updateFolder actor id dto => updateFolder actor id dto db
  | .deleteFolder actor id => deleteFolder actor id db
  | .createDocument actor dto => createDocument now actor dto db
  | .updateDocument actor id dto => updateDocument actor id dto db
  | .deleteDocument actor id => deleteDocument actor id db
  | .publishVersion actor documentId dto => publishVersion now actor documentId dto db
  | .upload attachment => .ok { db with nextId := db.nextId + 1, attachments := db.attachments ++ [{ attachment with id := db.nextId }] }

def DocumentsDb.next (db : DocumentsDb) (event : Instant × DocumentCall) : DocumentsDb :=
  match runCall event.1 db event.2 with
  | .ok after => after
  | .error _ => db

def DocumentStep (before : DocumentsDb) (event : Instant × DocumentCall) (after : DocumentsDb) : Prop := before.next event = after

end SmartResidence.Documents
