import SmartResidence.EInvoice.DocumentBuilder
import SmartResidence.Settings.Json

/-!
# `providers/`

Of a JSON body the model has what `readString` and `readArray` find in it.
-/

namespace SmartResidence.EInvoice

open Foundation Billing Settings

inductive EInvoiceStatus
  | notSubmitted | pending | valid | invalid | cancelled
  deriving DecidableEq

def EInvoiceStatus.stands : EInvoiceStatus → Bool
  | pending | valid => true
  | notSubmitted | invalid | cancelled => false

def includes (text needle : String) : Bool := decide (needle.toList <:+: text.toList)

def mapMyInvoisStatus (raw : Option String) : EInvoiceStatus :=
  let s := (raw.getD "").toLower
  if includes s "valid" && ! includes s "invalid" then .valid
  else if includes s "invalid" || includes s "reject" then .invalid
  else if includes s "cancel" then .cancelled
  else if includes s "submitted" || includes s "progress" || includes s "pending" then .pending
  else .pending

/-! ## Answers of LHDN -/

inductive Fetched (Body : Type)
  | thrown (message : String)
  | refused (message : String)
  | replied (body : Body)

def Fetched.arrives {Body : Type} : Fetched Body → Bool
  | .replied _ => true
  | .thrown _ | .refused _ => false

structure AcceptedDocument where
  uuid : Option String
  longId : Option String
  deriving DecidableEq

structure SubmissionBody where
  submissionUid : Option String
  acceptedDocuments : List (Option AcceptedDocument)
  rejectedDocuments : List (Option String)
  deriving DecidableEq

def SubmissionBody.unreadable : SubmissionBody := ⟨none, [], []⟩

structure ParsedSubmissionResponse where
  submissionUid : Option String
  uuid : Option String
  longId : Option String
  status : EInvoiceStatus
  error : Option String

def parseSubmissionResponse (body : SubmissionBody) : ParsedSubmissionResponse :=
  match body.rejectedDocuments with
  | none :: _ => ⟨body.submissionUid, none, none, .invalid, some "Rejected document with no details"⟩
  | some error :: _ => ⟨body.submissionUid, none, none, .invalid, some error⟩
  | [] =>
      match body.acceptedDocuments with
      | none :: _ => ⟨body.submissionUid, none, none, .invalid, some "Accepted document with no details"⟩
      | some doc :: _ => ⟨body.submissionUid, doc.uuid, doc.longId, .pending, none⟩
      | [] =>
          let status := if body.submissionUid.isSome then EInvoiceStatus.pending else .invalid
          ⟨body.submissionUid, none, none, status, some "Empty submission response"⟩

structure DocumentSummary where
  uuid : Option String
  longId : Option String
  status : Option String
  error : Option String

structure PollBody where
  overallStatus : Option String
  documents : List DocumentSummary

namespace PollBody

variable (body : PollBody)

def doc : Option DocumentSummary := body.documents.head?

def status : EInvoiceStatus :=
  match body.doc.bind DocumentSummary.status with
  | some status => mapMyInvoisStatus (some status)
  | none => mapMyInvoisStatus body.overallStatus

def error : Option String := body.doc.bind DocumentSummary.error

def final : Bool := decide (body.status = .valid ∨ body.status = .invalid)

end PollBody

structure DetailsBody where
  longId : Option String
  status : Option String
  validationErrors : List String

structure SubmissionAnswers where
  accepted : Option String
  reply : Fetched SubmissionBody
  poll : Nat → Fetched PollBody
  details : Fetched DetailsBody
  reply_honest : ∀ uuid body, accepted = some uuid → reply = .replied body → body = .unreadable ∨
    body.rejectedDocuments = [] ∧ ∃ longId more, body.acceptedDocuments = some ⟨some uuid, longId⟩ :: more
  poll_honest : ∀ attempt body, accepted.isSome → poll attempt = .replied body → body.status.stands ∧ body.error = none
  details_honest : ∀ body, accepted.isSome → details = .replied body →
    (mapMyInvoisStatus body.status).stands ∧ body.validationErrors = []

structure CancelBody where
  uuid : Option String
  status : Option String
  error : Option String

structure CancelAnswers where
  accepted : Bool
  reply : Fetched CancelBody

/-! ## Results -/

structure MyInvoisSubmitResult where
  uuid : String
  longId : Option String
  submissionUid : Option String
  status : EInvoiceStatus
  qrPayload : Option String
  validationUrl : Option String
  error : Option String
  deriving DecidableEq

def MyInvoisSubmitResult.invalid (uuid : String) (longId submissionUid : Option String) (error : Option String) :
    MyInvoisSubmitResult :=
  ⟨uuid, longId, submissionUid, .invalid, none, none, error⟩

structure MyInvoisCancelResult where
  uuid : String
  status : EInvoiceStatus
  error : Option String
  deriving DecidableEq

structure MyInvoisCredentials where
  clientId : Option String
  clientSecret : Option String
  deriving DecidableEq

namespace MyInvoisCredentials

variable (credentials : MyInvoisCredentials)

def complete : Bool := (textOrNone credentials.clientId).isSome && (textOrNone credentials.clientSecret).isSome

/-- `fetchMyInvoisAccessToken` asks for a token. -/
def usable : Bool :=
  (textOrNone (credentials.clientId.map trimText)).isSome && (textOrNone (credentials.clientSecret.map trimText)).isSome

end MyInvoisCredentials

structure MyInvoisSubmitContext where
  document : EInvoiceDocument
  environment : EInvoiceEnvironment
  credentials : Option MyInvoisCredentials

def missingFields (document : EInvoiceDocument) : String :=
  "Missing required fields: " ++ ", ".intercalate (validateEInvoiceDocument document)

def myInvoisVerifyBase : EInvoiceEnvironment → String
  | .sandbox => "https://preprod.myinvois.hasil.gov.my"
  | .production => "https://myinvois.hasil.gov.my"

def myInvoisValidationUrl (environment : EInvoiceEnvironment) (uuid : String) (longId : Option String) : String :=
  match longId with
  | some longId => myInvoisVerifyBase environment ++ "/" ++ uuid ++ "/share/" ++ longId
  | none => myInvoisVerifyBase environment ++ "/" ++ uuid

/-! ## `production-myinvois.provider.ts`

An `error` is what the submission returns early; what is thrown returns without an identifier.
-/

abbrev Submitting (Value : Type) : Type := Except MyInvoisSubmitResult Value

def caught (message : String) : MyInvoisSubmitResult := .invalid "" none none (some message)

structure LastSeen where
  uuid : Option String
  longId : Option String
  status : EInvoiceStatus

def LastSeen.after (last : LastSeen) (body : PollBody) : LastSeen where
  uuid := (body.doc.bind DocumentSummary.uuid).or last.uuid
  longId := (body.doc.bind DocumentSummary.longId).or last.longId
  status := body.status

def pollAttempts (poll : Nat → Fetched PollBody) (submissionUid : String) : (left attempt : Nat) → LastSeen → Submitting LastSeen
  | 0, _, last => .ok last
  | left + 1, attempt, last =>
      match poll attempt with
      | .thrown message => .error (caught message)
      | .refused message => .error (.invalid (last.uuid.getD "") none (some submissionUid) (some message))
      | .replied body =>
          let last := last.after body
          match body.error with
          | some error => .error (.invalid (last.uuid.getD "") last.longId (some submissionUid) (some error))
          | none => if body.final then .ok last else pollAttempts poll submissionUid left (attempt + 1) last

def statusPollAttempts : Nat := 3

def fetchDocumentDetails (details : Fetched DetailsBody) : Submitting DetailsBody :=
  match details with
  | .thrown message | .refused message => .error (caught message)
  | .replied body => .ok body

def afterDetails (details : Fetched DetailsBody) (submissionUid : String) (last : LastSeen) : Submitting LastSeen :=
  match last.uuid with
  | none => .ok last
  | some uuid =>
      if last.status = .invalid then .ok last
      else do
        let body ← fetchDocumentDetails details
        let longId := body.longId.or last.longId
        if body.validationErrors = [] then return ⟨uuid, longId, mapMyInvoisStatus body.status⟩
        else .error (.invalid uuid longId (some submissionUid) (some ("; ".intercalate body.validationErrors)))

def pollSubmission (answers : SubmissionAnswers) (environment : EInvoiceEnvironment) (submissionUid : String)
    (initialUuid initialLongId : Option String) : Submitting MyInvoisSubmitResult := do
  let initial : LastSeen := ⟨initialUuid, initialLongId, mapMyInvoisStatus (some "submitted")⟩
  let polled ← pollAttempts answers.poll submissionUid statusPollAttempts 0 initial
  let last ← afterDetails answers.details submissionUid polled
  let validationUrl := last.uuid.map fun uuid => myInvoisValidationUrl environment uuid last.longId
  return ⟨last.uuid.getD "", last.longId, some submissionUid, last.status, validationUrl, validationUrl, none⟩

def followUp (answers : SubmissionAnswers) (environment : EInvoiceEnvironment) (parsed : ParsedSubmissionResponse) :
    Submitting MyInvoisSubmitResult :=
  if parsed.status = .invalid then return .invalid (parsed.uuid.getD "") none parsed.submissionUid parsed.error
  else
    match parsed.submissionUid, parsed.uuid with
    | some submissionUid, uuid => pollSubmission answers environment submissionUid uuid parsed.longId
    | none, some uuid => do
        let body ← fetchDocumentDetails answers.details
        let longId := body.longId.or parsed.longId
        let validationUrl := myInvoisValidationUrl environment uuid longId
        return ⟨uuid, longId, none, mapMyInvoisStatus body.status, some validationUrl, some validationUrl, none⟩
    | none, none => return .invalid "" none none (some "Submission accepted but no document identifier was returned")

def postDocument (answers : SubmissionAnswers) (environment : EInvoiceEnvironment) : Submitting MyInvoisSubmitResult :=
  match answers.reply with
  | .thrown message | .refused message => .error (caught message)
  | .replied body => followUp answers environment (parseSubmissionResponse body)

def Submitting.result (submitting : Submitting MyInvoisSubmitResult) : MyInvoisSubmitResult :=
  match submitting with
  | .ok result | .error result => result

namespace Production

def submit (answers : SubmissionAnswers) (ctx : MyInvoisSubmitContext) : MyInvoisSubmitResult :=
  if validateEInvoiceDocument ctx.document ≠ [] then .invalid "" none none (some (missingFields ctx.document))
  else if ¬ ctx.credentials.any MyInvoisCredentials.complete then
    .invalid "" none none (some "LHDN API client id and secret are required for production submission")
  else if ¬ ctx.credentials.any MyInvoisCredentials.usable then caught "MyInvois API client id and secret are required"
  else (postDocument answers ctx.environment).result

def parseCancelResponse (uuid : String) (body : CancelBody) : MyInvoisCancelResult :=
  match body.error with
  | some error => ⟨body.uuid.getD uuid, .invalid, some error⟩
  | none => ⟨body.uuid.getD uuid, mapMyInvoisStatus (some (body.status.getD "cancelled")), none⟩

def cancel (answers : CancelAnswers) (uuid : String) (credentials : Option MyInvoisCredentials) : MyInvoisCancelResult :=
  if ¬ credentials.any MyInvoisCredentials.complete then ⟨uuid, .invalid, some "LHDN API credentials required"⟩
  else if ¬ credentials.any MyInvoisCredentials.usable then
    ⟨uuid, .invalid, some "MyInvois API client id and secret are required"⟩
  else
    match answers.reply with
    | .thrown message | .refused message => ⟨uuid, .invalid, some message⟩
    | .replied body => parseCancelResponse uuid body

end Production

structure MyInvoisEnv where
  longIdFor : String → String

structure EInvoiceMoment where
  now : Instant
  randomUuid : String
  randomSubmissionUid : String
  submission : SubmissionAnswers
  cancellation : CancelAnswers

namespace Sandbox

def submit (env : MyInvoisEnv) (moment : EInvoiceMoment) (ctx : MyInvoisSubmitContext) : MyInvoisSubmitResult :=
  if validateEInvoiceDocument ctx.document ≠ [] then .invalid moment.randomUuid none none (some (missingFields ctx.document))
  else
    let longId := env.longIdFor ctx.document.invoiceNumber
    let validationUrl := myInvoisVerifyBase ctx.environment ++ "/" ++ moment.randomUuid ++ "/share/" ++ longId
    ⟨moment.randomUuid, some longId, some moment.randomSubmissionUid, .valid, some validationUrl, some validationUrl, none⟩

def cancel (uuid : String) : MyInvoisCancelResult := ⟨uuid, .cancelled, none⟩

end Sandbox

inductive MyInvoisProviderId
  | sandbox | production
  deriving DecidableEq

def resolveProviderId (environment : EInvoiceEnvironment) (credentials : Option MyInvoisCredentials) : MyInvoisProviderId :=
  if environment = .production ∧ credentials.any MyInvoisCredentials.complete then .production else .sandbox

namespace Delegating

def submit (env : MyInvoisEnv) (moment : EInvoiceMoment) (ctx : MyInvoisSubmitContext) : MyInvoisSubmitResult :=
  match resolveProviderId ctx.environment ctx.credentials with
  | .production => Production.submit moment.submission ctx
  | .sandbox => Sandbox.submit env moment ctx

def cancel (answers : CancelAnswers) (uuid : String) (environment : EInvoiceEnvironment)
    (credentials : Option MyInvoisCredentials) : MyInvoisCancelResult :=
  match resolveProviderId environment credentials with
  | .production => Production.cancel answers uuid credentials
  | .sandbox => Sandbox.cancel uuid

end Delegating

def reachesLhdn (environment : EInvoiceEnvironment) (credentials : Option MyInvoisCredentials) : Bool :=
  decide (resolveProviderId environment credentials = .production) && credentials.any MyInvoisCredentials.usable

def SubmissionAnswers.registers (answers : SubmissionAnswers) (ctx : MyInvoisSubmitContext) : Option String :=
  if reachesLhdn ctx.environment ctx.credentials ∧ validateEInvoiceDocument ctx.document = [] then answers.accepted else none

def CancelAnswers.removes (answers : CancelAnswers) (uuid : String) (environment : EInvoiceEnvironment)
    (credentials : Option MyInvoisCredentials) : Option String :=
  if reachesLhdn environment credentials ∧ answers.accepted then some uuid else none

end SmartResidence.EInvoice
