import SmartResidence.Billing.Invoices
import SmartResidence.EInvoice.MyInvois
import SmartResidence.Foundation.Services

/-!
# `einvoice.service.ts`

A call to a provider is one step: until its result is stored, no other call knows the document that it is about.
-/

namespace SmartResidence.EInvoice

open Foundation Billing

structure EInvoiceCondo where
  id : Id
  config : EInvoiceConfig
  credentials : Option MyInvoisCredentials

structure EInvoiceInvoice where
  id : Id
  condoId : Id
  unitId : Id
  billed : BilledInvoice

structure EInvoiceRow where
  invoiceId : Id
  condoId : Id
  status : EInvoiceStatus
  environment : EInvoiceEnvironment
  lhdnUuid : Option String
  lhdnLongId : Option String
  submissionUid : Option String
  qrPayload : Option String
  validationUrl : Option String
  document : Option EInvoiceDocument
  errorMessage : Option String
  submittedAt : Option Instant
  validatedAt : Option Instant
  cancelledAt : Option Instant

structure Registered where
  invoiceId : Id
  uuid : String
  deriving DecidableEq

structure EInvoiceDb where
  condos : List EInvoiceCondo
  invoices : List EInvoiceInvoice
  eInvoices : List EInvoiceRow
  registered : List Registered

namespace EInvoiceDb

variable (db : EInvoiceDb)

def row? (invoiceId : Id) : Option EInvoiceRow := findBy EInvoiceRow.invoiceId invoiceId db.eInvoices

def loadInvoice (invoiceId : Id) : Result (EInvoiceInvoice × EInvoiceCondo) := do
  let invoice ← orThrow (findBy EInvoiceInvoice.id invoiceId db.invoices) (.notFound "Invoice not found")
  let condo ← orThrow (findBy EInvoiceCondo.id invoice.condoId db.condos) (.failure "Inconsistent query result")
  return (invoice, condo)

def upsert (row : EInvoiceRow) (update : EInvoiceRow → EInvoiceRow) : EInvoiceDb :=
  { db with eInvoices := upsertBy EInvoiceRow.invoiceId row.invoiceId row update db.eInvoices }

def write (invoiceId : Id) (change : EInvoiceRow → EInvoiceRow) : EInvoiceDb :=
  { db with eInvoices := updateBy EInvoiceRow.invoiceId invoiceId change db.eInvoices }

def register (invoiceId : Id) (uuid : Option String) : EInvoiceDb :=
  { db with registered := db.registered ++ uuid.toList.map (Registered.mk invoiceId) }

def remove (uuid : Option String) : EInvoiceDb :=
  { db with registered := db.registered.filter fun row => decide (some row.uuid ≠ uuid) }

def Clear (invoiceId : Id) : Prop := ∀ row ∈ db.registered, row.invoiceId ≠ invoiceId

instance (invoiceId : Id) : Decidable (db.Clear invoiceId) := inferInstanceAs (Decidable (∀ _ ∈ _, _))

end EInvoiceDb

/-- `assertCondoManagement` for administrators only -/
def assertEInvoiceManagement (user : AuthenticatedUser) (condoId : Id) : Result Unit :=
  throwIf (¬ user.roles.any fun r => decide (r.roleId = .superAdmin ∨ (r.roleId = .managementAdmin ∧ r.condoId = some condoId)))
    (.forbidden "You cannot manage e-invoicing for this condo")

structure Submission where
  actorUserId : Option Id
  invoiceId : Id
  condoId : Id
  ctx : MyInvoisSubmitContext

def Submission.of (actorUserId : Option Id) (invoice : EInvoiceInvoice) (condo : EInvoiceCondo) : Submission where
  actorUserId := actorUserId
  invoiceId := invoice.id
  condoId := invoice.condoId
  ctx := ⟨buildDocument invoice.billed condo.config, condo.config.environment, condo.credentials⟩

def submit (actor : AuthenticatedUser) (invoiceId : Id) (db : EInvoiceDb) : Result Submission := do
  let (invoice, condo) ← db.loadInvoice invoiceId
  assertEInvoiceManagement actor invoice.condoId
  throwIf (¬ condo.config.enabled) (.badRequest "E-invoicing is not enabled for this condo")
  return .of (some actor.id) invoice condo

def processSubmitJob (invoiceId : Id) (db : EInvoiceDb) : Result Submission := do
  let (invoice, condo) ← db.loadInvoice invoiceId
  return .of none invoice condo

def assertNotValidated (invoiceId : Id) (db : EInvoiceDb) : Result Unit :=
  throwIf ((db.row? invoiceId).any fun row => decide (row.status = .valid))
    (.badRequest "This invoice already has a validated e-invoice")

def EInvoiceRow.submitted (now : Instant) (submission : Submission) (result : MyInvoisSubmitResult) (row : EInvoiceRow) :
    EInvoiceRow :=
  { row with
    condoId := submission.condoId, status := result.status, environment := submission.ctx.environment
    lhdnUuid := some result.uuid, lhdnLongId := result.longId, submissionUid := result.submissionUid
    qrPayload := result.qrPayload, validationUrl := result.validationUrl, document := some submission.ctx.document
    errorMessage := result.error, submittedAt := some now
    validatedAt := if result.status = .valid then some now else none }

def EInvoiceRow.blank (invoiceId condoId : Id) (environment : EInvoiceEnvironment) : EInvoiceRow :=
  ⟨invoiceId, condoId, .notSubmitted, environment, none, none, none, none, none, none, none, none, none, none⟩

def EInvoiceDb.store (db : EInvoiceDb) (now : Instant) (submission : Submission) (result : MyInvoisSubmitResult) : EInvoiceDb :=
  let blank := EInvoiceRow.blank submission.invoiceId submission.condoId submission.ctx.environment
  db.upsert (blank.submitted now submission result) (EInvoiceRow.submitted now submission result)

structure Cancellation where
  actorUserId : Id
  invoiceId : Id
  reason : Option String
  credentials : Option MyInvoisCredentials

def cancel (actor : AuthenticatedUser) (invoiceId : Id) (reason : Option String) (db : EInvoiceDb) : Result Cancellation := do
  let (invoice, condo) ← db.loadInvoice invoiceId
  assertEInvoiceManagement actor invoice.condoId
  return ⟨actor.id, invoice.id, reason, condo.credentials⟩

def toCancel (invoiceId : Id) (db : EInvoiceDb) : Result (Option (String × EInvoiceEnvironment)) := do
  let row ← orThrow (db.row? invoiceId) (.notFound "No e-invoice for this invoice")
  let uuid ← orThrow (textOrNone row.lhdnUuid) (.badRequest "E-invoice has no LHDN identifier to cancel")
  if row.status = .cancelled then return none else return some (uuid, row.environment)

def EInvoiceRow.recorded (now : Instant) (result : MyInvoisCancelResult) (row : EInvoiceRow) : EInvoiceRow :=
  { row with status := result.status, cancelledAt := some now, errorMessage := result.error }

inductive EInvoiceRequest
  | submit (actor : AuthenticatedUser) (invoiceId : Id)
  | cancel (actor : AuthenticatedUser) (invoiceId : Id) (reason : Option String)
  | processSubmitJob (invoiceId : Id)
  | invoiceIssued (invoiceId : Id)

inductive EInvoiceNote
  | submitted (actorUserId invoiceId : Id) (status : EInvoiceStatus) (lhdnUuid : String) (provider : MyInvoisProviderId)
      (error : Option String)
  | cancelled (actorUserId invoiceId : Id) (reason : Option String) (lhdnUuid : String)
  deriving DecidableEq

inductive EInvoiceFlight
  | checking (submission : Submission)
  | sending (submission : Submission)
  | storing (submission : Submission) (registered : Option String) (result : MyInvoisSubmitResult)
  | looking (cancellation : Cancellation)
  | cancelling (cancellation : Cancellation) (uuid : String) (environment : EInvoiceEnvironment)
  | recording (cancellation : Cancellation) (uuid : String) (result : MyInvoisCancelResult)
  | issued (invoiceId condoId : Id) (config : EInvoiceConfig)
  | queued (invoiceId : Id)
  | creating (invoiceId condoId : Id) (environment : EInvoiceEnvironment)

abbrev EInvoiceOutcome : Type := Outcome EInvoiceDb EInvoiceFlight EInvoiceNote

def onInvoiceIssued (invoiceId : Id) (db : EInvoiceDb) : EInvoiceOutcome :=
  match db.loadInvoice invoiceId with
  | .ok (invoice, condo) =>
      if condo.config.enabled then .reads db [.issued invoice.id invoice.condoId condo.config] else .ended db
  | .error _ => .ended db

def beginEInvoice (_ : EInvoiceMoment) (request : EInvoiceRequest) (db : EInvoiceDb) : EInvoiceOutcome :=
  match request with
  | .submit actor invoiceId => .ofRead db (submit actor invoiceId db) .checking
  | .cancel actor invoiceId reason => .ofRead db (cancel actor invoiceId reason db) .looking
  | .processSubmitJob invoiceId => .ofRead db (processSubmitJob invoiceId db) .checking
  | .invoiceIssued invoiceId => onInvoiceIssued invoiceId db

def submittedNotes (submission : Submission) (result : MyInvoisSubmitResult) : List EInvoiceNote :=
  submission.actorUserId.toList.map fun actorUserId =>
    .submitted actorUserId submission.invoiceId result.status result.uuid
      (resolveProviderId submission.ctx.environment submission.ctx.credentials) result.error

def proceedEInvoice (env : MyInvoisEnv) (moment : EInvoiceMoment) (flight : EInvoiceFlight) (db : EInvoiceDb) : EInvoiceOutcome :=
  match flight with
  | .checking submission => .ofRead db (assertNotValidated submission.invoiceId db) fun _ => .sending submission
  | .sending submission =>
      let registered := moment.submission.registers submission.ctx
      .reads (db.register submission.invoiceId registered)
        [.storing submission registered (Delegating.submit env moment submission.ctx)]
  | .storing submission _ result => ⟨db.store moment.now submission result, [], submittedNotes submission result⟩
  | .looking cancellation =>
      match toCancel cancellation.invoiceId db with
      | .ok (some (uuid, environment)) => .reads db [.cancelling cancellation uuid environment]
      | .ok none | .error _ => .ended db
  | .cancelling cancellation uuid environment =>
      let result := Delegating.cancel moment.cancellation uuid environment cancellation.credentials
      .reads (db.remove (moment.cancellation.removes uuid environment cancellation.credentials))
        [.recording cancellation uuid result]
  | .recording cancellation uuid result =>
      ⟨db.write cancellation.invoiceId (EInvoiceRow.recorded moment.now result), [],
        [.cancelled cancellation.actorUserId cancellation.invoiceId cancellation.reason uuid]⟩
  | .issued invoiceId condoId config =>
      if (db.row? invoiceId).isSome then .ended db
      else if config.autoSubmitOnIssue then .reads db [.queued invoiceId]
      else .reads db [.creating invoiceId condoId config.environment]
  | .queued invoiceId => .ofRead db (processSubmitJob invoiceId db) .checking
  | .creating invoiceId condoId environment =>
      -- a row that is there by now fails the insert, which is only logged
      if (db.row? invoiceId).isSome then .ended db
      else .ended { db with eInvoices := db.eInvoices ++ [.blank invoiceId condoId environment] }

def eInvoiceService (env : MyInvoisEnv) : Service EInvoiceMoment EInvoiceDb EInvoiceRequest EInvoiceFlight EInvoiceNote where
  begin := beginEInvoice
  proceed := proceedEInvoice env

end SmartResidence.EInvoice
