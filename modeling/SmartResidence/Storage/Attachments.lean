import SmartResidence.Billing.Schema

/-!
# Uploaded files

An upload is pending until an operation commits it to a parent record.
-/

namespace SmartResidence.Storage

open Foundation Billing

inductive AttachmentOwner
  | defect | defectUpdate | announcement | threadMessage | profile | generic | documentVersion
  deriving DecidableEq

inductive AttachmentStatus
  | pending | committed
  deriving DecidableEq

structure Attachment where
  id : Id
  key : String
  thumbnailKey : Option String
  mimeType : String
  size : Nat
  fileName : Option String
  status : AttachmentStatus
  ownerKind : AttachmentOwner
  uploadedByUserId : Option Id
  defectId : Option Id
  defectUpdateId : Option Id
  threadMessageId : Option Id
  announcementId : Option Id
  documentVersionId : Option Id
  createdAt : Instant
  deriving DecidableEq

def orphanAttachmentTtlMs : Int := 24 * 60 * 60 * 1000

def isAllowedDocumentMime (mime : String) : Bool := decide (mime.toLower = "application/pdf")

def isPdfMime (mime : String) : Bool := isAllowedDocumentMime mime

inductive Parent
  | defect (id : Id)
  | defectUpdate (id : Id)
  | announcement (id : Id)
  | threadMessage (id : Id)
  | documentVersion (id : Id)
  deriving DecidableEq

def Attachment.commit (parent : Parent) (row : Attachment) : Attachment :=
  match parent with
  | .defect id => { row with defectId := some id, ownerKind := .defect, status := .committed }
  | .defectUpdate id => { row with defectUpdateId := some id, ownerKind := .defectUpdate, status := .committed }
  | .announcement id => { row with announcementId := some id, ownerKind := .announcement, status := .committed }
  | .threadMessage id => { row with threadMessageId := some id, ownerKind := .threadMessage, status := .committed }
  | .documentVersion id => { row with documentVersionId := some id, ownerKind := .documentVersion, status := .committed }

def Attachment.free (userId : Id) (ids : List Id) (row : Attachment) : Bool :=
  decide (row.id ∈ ids ∧ row.uploadedByUserId = some userId ∧ row.ownerKind = .generic)

def Attachment.pendingFree (userId : Id) (ids : List Id) (row : Attachment) : Bool :=
  row.free userId ids && decide (row.status = .pending)

/-- `validateAttachments` of the announcements -/
def validateAttachments (userId : Id) (ids : List Id) (rows : List Attachment) : Result Unit := do
  let found := rows.filter (Attachment.pendingFree userId ids)
  throwIf (found.length ≠ ids.length) (.badRequest "One or more attachments are invalid or already used")
  throwIf (1 < (found.filter fun row => isPdfMime row.mimeType).length)
    (.badRequest "Only one PDF memo can be attached per announcement")

end SmartResidence.Storage
