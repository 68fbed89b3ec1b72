import SmartResidence.EInvoice.MyInvois
import SmartResidence.Foundation.Calls

/-!
# The requests of `production-myinvois.provider.ts`

The submission from the answers of LHDN to its requests, one after the other, each a status and a JSON body.
-/

namespace SmartResidence.EInvoice.Http

open Foundation Billing Settings

/-- `value && typeof value === 'object' ? value[key] : undefined` -/
def field (key : String) (value : Json) : Option Json := value.spread.lookup key

def readString (value : Json) (keys : List String) : Option String :=
  match keys.foldlM (fun cur key => field key cur) value with
  | some (.string text) => if text = "" then none else some text
  | _ => none

def readArray (value : Json) (key : String) : List Json :=
  match field key value with
  | some (.array items) => items
  | _ => []

def truthy : Json → Bool
  | .null => false
  | .bool value => value
  | .number value => decide (value ≠ 0)
  | .string value => decide (value ≠ "")
  | .array _ | .object _ => true

def errorOrSelf (value : Json) : Json :=
  match field "error" value with
  | none | some .null => value
  | some error => error

inductive HttpAnswer
  | failed (message : String) (text : message ≠ "")
  | response (status : Nat) (body : Json)

structure Network where
  answer : Nat → HttpAnswer
  now : Nat → Instant
  stringify : Json → String
  stringify_text : ∀ value, stringify value ≠ ""

def okStatus (status : Nat) : Bool := decide (200 ≤ status ∧ status < 300)

section

variable (network : Network)

def rejection (first : Json) : String :=
  ((readString first ["error", "message"]).or (readString first ["error", "details", "0", "message"])).getD
    (network.stringify (errorOrSelf first))

def readSubmission (body : Json) : SubmissionBody where
  submissionUid := readString body ["submissionUid"]
  acceptedDocuments := (readArray body "acceptedDocuments").map fun doc =>
    if truthy doc then some ⟨readString doc ["uuid"], readString doc ["longId"]⟩ else none
  rejectedDocuments := (readArray body "rejectedDocuments").map fun first =>
    if truthy first then some (rejection network first) else none

def readSubmissionStatus (body : Json) : PollBody where
  overallStatus := (readString body ["overallStatus"]).or (readString body ["status"])
  documents := (readArray body "documentSummary").map fun row =>
    { uuid := readString row ["uuid"], longId := readString row ["longId"], status := readString row ["status"]
      error := (readString row ["errorMessage"]).or (readString row ["error", "message"]) }

def readDocumentDetails (body : Json) : DetailsBody where
  longId := readString body ["longId"]
  status := readString body ["status"]
  validationErrors := (readArray body "validationResults").filterMap fun v => (readString v ["error"]).or (readString v ["message"])

def parseApiError (body : Json) : String :=
  let message := ((readString body ["message"]).or (readString body ["error", "message"])).or
    (readString body ["error", "details", "0", "message"])
  match body with
  | .string text => if trimText text ≠ "" then text else message.getD (network.stringify body)
  | _ => message.getD (network.stringify body)

end

inductive Request
  | accessToken
  | submission
  | submissionStatus (submissionUid : String)
  | documentDetails (uuid : String)
  deriving DecidableEq

abbrev Exchange : Type := Request × HttpAnswer

structure CachedToken where
  accessToken : String
  expiresAtMs : ℚ

structure Connection where
  calls : List Exchange
  cached : Option CachedToken

abbrev Online (Value : Type) : Type := Call Connection MyInvoisSubmitResult Value

section

variable (network : Network)

def fetchImpl (request : Request) : Online (Nat × Json) := fun connection =>
  let answer := network.answer connection.calls.length
  let after := { connection with calls := connection.calls ++ [(request, answer)] }
  match answer with
  | .failed message _ => (.error (caught message), after)
  | .response status body => (.ok (status, body), after)

def Connection.usableToken (connection : Connection) : Option String :=
  (connection.cached.filter fun cached => decide ((network.now connection.calls.length + 30000 : ℚ) < cached.expiresAtMs)).map
    CachedToken.accessToken

def expiresIn (json : Json) : ℚ :=
  match field "expires_in" json with
  | some (.number seconds) => seconds
  | _ => 3600

def cacheToken (accessToken : String) (json : Json) (connection : Connection) : Connection :=
  { connection with cached := some ⟨accessToken, network.now connection.calls.length + expiresIn json * 1000⟩ }

def fetchMyInvoisAccessToken (credentials : MyInvoisCredentials) : Online String := do
  if ¬ credentials.usable then Call.throw (caught "MyInvois API client id and secret are required")
  else
    match ← Call.read (Connection.usableToken network) with
    | some accessToken => return accessToken
    | none =>
        let (status, json) ← fetchImpl network .accessToken
        if ¬ okStatus status then Call.throw (caught (parseApiError network json))
        else
          match readString json ["access_token"] with
          | none => Call.throw (caught "MyInvois OAuth response missing access_token")
          | some accessToken =>
              Call.write (cacheToken network accessToken json)
              return accessToken

def authorized (credentials : MyInvoisCredentials) (request : Request) (refused : String → MyInvoisSubmitResult) : Online Json := do
  let _ ← fetchMyInvoisAccessToken network credentials
  let (status, body) ← fetchImpl network request
  if okStatus status then return body
  else Call.throw (refused (parseApiError network body))

def fetchDocumentDetails (credentials : MyInvoisCredentials) (uuid : String) : Online DetailsBody := do
  let body ← authorized network credentials (.documentDetails uuid) caught
  return readDocumentDetails body

def pollAttempts (credentials : MyInvoisCredentials) (submissionUid : String) : (left : Nat) → LastSeen → Online LastSeen
  | 0, last => return last
  | left + 1, last => do
      let body ← authorized network credentials (.submissionStatus submissionUid) fun message =>
        .invalid (last.uuid.getD "") none (some submissionUid) (some message)
      let parsed := readSubmissionStatus body
      let last := last.after parsed
      match parsed.error with
      | some error => Call.throw (.invalid (last.uuid.getD "") last.longId (some submissionUid) (some error))
      | none => if parsed.final then return last else pollAttempts credentials submissionUid left last

def afterDetails (credentials : MyInvoisCredentials) (submissionUid : String) (last : LastSeen) : Online LastSeen :=
  match last.uuid with
  | none => return last
  | some uuid =>
      if last.status = .invalid then return last
      else do
        let details ← fetchDocumentDetails network credentials uuid
        let longId := details.longId.or last.longId
        if details.validationErrors = [] then return ⟨uuid, longId, mapMyInvoisStatus details.status⟩
        else Call.throw (.invalid uuid longId (some submissionUid) (some ("; ".intercalate details.validationErrors)))

def pollSubmission (credentials : MyInvoisCredentials) (environment : EInvoiceEnvironment) (submissionUid : String)
    (initialUuid initialLongId : Option String) : Online MyInvoisSubmitResult := do
  let initial : LastSeen := ⟨initialUuid, initialLongId, mapMyInvoisStatus (some "submitted")⟩
  let polled ← pollAttempts network credentials submissionUid statusPollAttempts initial
  let last ← afterDetails network credentials submissionUid polled
  let validationUrl := last.uuid.map fun uuid => myInvoisValidationUrl environment uuid last.longId
  return ⟨last.uuid.getD "", last.longId, some submissionUid, last.status, validationUrl, validationUrl, none⟩

def followUp (credentials : MyInvoisCredentials) (environment : EInvoiceEnvironment) (parsed : ParsedSubmissionResponse) :
    Online MyInvoisSubmitResult :=
  if parsed.status = .invalid then Call.throw (.invalid (parsed.uuid.getD "") none parsed.submissionUid parsed.error)
  else
    match parsed.submissionUid, parsed.uuid with
    | some submissionUid, uuid => pollSubmission network credentials environment submissionUid uuid parsed.longId
    | none, some uuid => do
        let details ← fetchDocumentDetails network credentials uuid
        let longId := details.longId.or parsed.longId
        let validationUrl := myInvoisValidationUrl environment uuid longId
        return ⟨uuid, longId, none, mapMyInvoisStatus details.status, some validationUrl, some validationUrl, none⟩
    | none, none => Call.throw (caught "Submission accepted but no document identifier was returned")

def postDocument (credentials : MyInvoisCredentials) (environment : EInvoiceEnvironment) : Online MyInvoisSubmitResult := do
  let body ← authorized network credentials .submission caught
  followUp network credentials environment (parseSubmissionResponse (readSubmission network body))

def submitOnline (ctx : MyInvoisSubmitContext) : Online MyInvoisSubmitResult :=
  if validateEInvoiceDocument ctx.document ≠ [] then Call.throw (.invalid "" none none (some (missingFields ctx.document)))
  else
    match ctx.credentials.filter MyInvoisCredentials.complete with
    | none => Call.throw (caught "LHDN API client id and secret are required for production submission")
    | some credentials => postDocument network credentials ctx.environment

structure Submission where
  result : MyInvoisSubmitResult
  calls : List Exchange

def submit (ctx : MyInvoisSubmitContext) (cached : Option CachedToken) : Submission :=
  let run := submitOnline network ctx ⟨[], cached⟩
  ⟨Submitting.result run.1, run.2.calls⟩

end

end SmartResidence.EInvoice.Http
