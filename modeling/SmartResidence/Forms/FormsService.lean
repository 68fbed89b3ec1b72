import SmartResidence.Foundation.Services
import SmartResidence.Visitors.Blacklist
import SmartResidence.Visitors.Overnight

/-!
# Form templates, submissions and answers
-/

namespace SmartResidence.Forms

open Foundation Billing Visitors

inductive FormTemplateKind
  | moveIn | moveOut | renovation | vehicleSticker | custom
  deriving DecidableEq

def permitFormKinds : List FormTemplateKind := [.renovation]

def isPermitFormKind (kind : FormTemplateKind) : Bool := decide (kind ∈ permitFormKinds)

inductive FormSubmissionStatus
  | draft | submitted | approved | rejected | cancelled
  deriving DecidableEq

def FormSubmissionStatus.text : FormSubmissionStatus → String
  | .draft => "DRAFT"
  | .submitted => "SUBMITTED"
  | .approved => "APPROVED"
  | .rejected => "REJECTED"
  | .cancelled => "CANCELLED"

structure FormField where
  id : String
  type : String
  label : String
  required : Bool
  options : Option (List String)
  deriving DecidableEq

structure FormTemplate where
  id : Id
  condoId : Id
  kind : FormTemplateKind
  title : String
  fields : List FormField
  active : Bool
  position : Int
  deriving DecidableEq

structure FormSubmission where
  id : Id
  templateId : Id
  condoId : Id
  unitId : Id
  userId : Id
  status : FormSubmissionStatus
  answers : Body
  reviewedByUserId : Option Id
  reviewedAt : Option Instant
  reviewNote : Option String
  submittedAt : Option Instant
  accessCode : Option String
  qrPayload : Option String
  permitValidFrom : Option Instant
  permitValidUntil : Option Instant

structure FormUnit where
  id : Id
  condoId : Id
  identifier : String
  deriving DecidableEq

structure FormUser where
  id : Id
  name : String
  deriving DecidableEq

structure FormsDb where
  nextId : Nat
  units : List FormUnit
  users : List FormUser
  templates : List FormTemplate
  submissions : List FormSubmission
  passCodes : List (Id × String)

namespace FormsDb

variable (db : FormsDb)

def template? (id : Id) : Option FormTemplate := findBy FormTemplate.id id db.templates

def submission? (id : Id) : Option FormSubmission := findBy FormSubmission.id id db.submissions

def insertSubmission (row : Id → FormSubmission) : FormsDb :=
  { db with submissions := db.submissions ++ [row db.nextId], nextId := db.nextId + 1 }

def updateSubmission (id : Id) (change : FormSubmission → FormSubmission) : FormsDb :=
  { db with submissions := updateBy FormSubmission.id id change db.submissions }

def writeSubmission (id : Id) (change : FormSubmission → FormSubmission) : Result FormsDb := do
  let _ ← orThrow (db.submission? id) (.failure "Record to update not found")
  return db.updateSubmission id change

end FormsDb

structure FormsEnv extends VisitorEnv where
  /-- The instant that `new Date` makes of a text that is no calendar date. -/
  legacyDate : String → Option Instant

def isBlankAnswer : Option JsValue → Bool
  | none | some (.string "") => true
  | _ => false

def isBooleanAnswer : Option JsValue → Bool
  | some (.bool _) => true
  | _ => false

def validateAnswer (answers : Body) (f : FormField) : Result Unit := do
  let value := field answers f.id
  throwIf (f.required ∧ isBlankAnswer value) (.badRequest (f.label ++ " is required"))
  throwIf (f.required ∧ f.type = "boolean" ∧ ¬ isTrue value) (.badRequest (f.label ++ " must be confirmed"))
  if isBlankAnswer value then return ()
  else
    throwIf (f.type = "boolean" ∧ ¬ isBooleanAnswer value) (.badRequest (f.label ++ " must be yes/no"))
    match f.type, f.options with
    | "select", some options => do
        let chosen ← textOr value ""
        throwIf (chosen ∉ options) (.badRequest (f.label ++ " has an invalid selection"))
    | _, _ => return ()

def validateAnswers (fields : List FormField) (answers : Body) : Result Unit := fields.forM (validateAnswer answers)

def validateIfSubmitted (submit : Bool) (fields : List FormField) (answers : Body) : Result Unit :=
  if submit then validateAnswers fields answers else return ()

def parseFields (fields : List FormField) : Result (List FormField) := do
  throwIf (fields = []) (.badRequest "Form template has no fields configured")
  return fields

def stringAnswer (answers : Body) (key : String) : Result (Option String) :=
  if isBlankAnswer (field answers key) then return none
  else (textOr (field answers key) "").map some

/-- The day of a text `YYYY-MM-DD`, if there is such a day. -/
def isoDay (text : List Char) : Option ℤ :=
  match text.splitOn '-' with
  | [year, month, day] =>
      if year.length = 4 ∧ month.length = 2 ∧ day.length = 2 ∧ (year ++ month ++ day).all Char.isDigit then
        let number := 12 * ((digitsValue year : ℤ) - 1970) + digitsValue month - 1
        if 1 ≤ digitsValue month ∧ digitsValue month ≤ 12 ∧ 1 ≤ digitsValue day ∧ digitsValue day ≤ monthLength number
        then some (monthStart number + digitsValue day - 1)
        else none
      else none
  | _ => none

/-- `new Date(text)`, unless it is invalid: a calendar date is read in UTC. -/
def FormsEnv.date (env : FormsEnv) (text : String) : Option Instant :=
  match isoDay text.toList with
  | some day => some (day * (24 * msPerHour))
  | none => env.legacyDate text

def parseAnswerDate (env : FormsEnv) (answers : Body) (key : String) : Option Instant :=
  match field answers key with
  | some (.string raw) => if trim raw.toList = [] then none else env.date raw
  | _ => none

/-- `setHours(23, 59, 59, 999)` on the server's calendar -/
def endOfDay (calendar : LocalCalendar) (date : Option Instant) : Option Instant :=
  date.map fun date => calendar.hour (calendar.day date) 23 + (msPerHour - 1)

/-! ## `forms.service.ts` -/

inductive FormsNote
  | updated (submissionId : Id) (status : FormSubmissionStatus)
  | submitted (submissionId : Id)
  | approved (submissionId : Id)
  | rejected (submissionId : Id) (reviewNote : Option String)
  deriving DecidableEq

def isManagement (actor : AuthenticatedUser) (condoId : Id) : Bool :=
  actor.roles.any fun r => decide (r.condoId = some condoId ∧ (r.roleId = .managementAdmin ∨ r.roleId = .managementStaff))

def assertManagement (actor : AuthenticatedUser) (condoId : Id) : Result Unit :=
  throwIf (¬ isManagement actor condoId) (.forbidden "Management access required")

def assertCondoAccess (actor : AuthenticatedUser) (condoId : Id) : Result Unit :=
  throwIf (¬ actor.roles.any fun r => decide (r.condoId = some condoId)) (.forbidden "No access to this condo")

def assertActsForUnit (actor : AuthenticatedUser) (unitId condoId : Id) (db : FormsDb) : Result Unit := do
  let unit ← orThrow (findBy FormUnit.id unitId db.units) (.badRequest "Invalid unit")
  throwIf (unit.condoId ≠ condoId) (.badRequest "Invalid unit")
  throwIf (¬ actor.roles.any fun r => decide (r.condoId = some condoId ∧
      (r.unitId = some unitId ∨ r.roleId = .managementAdmin ∨ r.roleId = .managementStaff)))
    (.forbidden "You cannot submit forms for this unit")

structure CreateFormSubmissionDto where
  templateId : Id
  unitId : Id
  answers : Option Body
  submit : Bool

def CreateFormSubmissionDto.row (dto : CreateFormSubmissionDto) (now : Instant) (template : FormTemplate) (userId id : Id) :
    FormSubmission :=
  { id := id, templateId := template.id, condoId := template.condoId, unitId := dto.unitId, userId := userId
    status := if dto.submit then .submitted else .draft, answers := dto.answers.getD [], reviewedByUserId := none
    reviewedAt := none, reviewNote := none, submittedAt := if dto.submit then some now else none, accessCode := none
    qrPayload := none, permitValidFrom := none, permitValidUntil := none }

def createSubmission (now : Instant) (actor : AuthenticatedUser) (dto : CreateFormSubmissionDto) (db : FormsDb) :
    Result FormsDb := do
  let template ← orThrow ((db.template? dto.templateId).filter FormTemplate.active) (.notFound "Form template not found")
  assertCondoAccess actor template.condoId
  assertActsForUnit actor dto.unitId template.condoId db
  let fields ← parseFields template.fields
  validateIfSubmitted dto.submit fields (dto.answers.getD [])
  return db.insertSubmission (dto.row now template actor.id)

def submittedNotes (submit : Bool) (id : Id) : List FormsNote := if submit then [.submitted id] else []

structure UpdateFormSubmissionDto where
  answers : Option Body
  submit : Bool

def requireSubmission (db : FormsDb) (id : Id) : Result FormSubmission :=
  orThrow (db.submission? id) (.notFound "Form submission not found")

def getSubmission (actor : AuthenticatedUser) (id : Id) (db : FormsDb) : Result FormSubmission := do
  let row ← requireSubmission db id
  throwIf (row.userId ≠ actor.id ∧ ¬ isManagement actor row.condoId) (.forbidden "You cannot view this submission")
  return row

def requireTemplate (db : FormsDb) (row : FormSubmission) : Result FormTemplate :=
  orThrow (db.template? row.templateId) (.failure "Inconsistent query result")

def readUpdate (actor : AuthenticatedUser) (id : Id) (dto : UpdateFormSubmissionDto) (db : FormsDb) :
    Result (FormSubmission × Body) := do
  let existing ← requireSubmission db id
  let template ← requireTemplate db existing
  throwIf (existing.userId ≠ actor.id) (.forbidden "You can only edit your own submissions")
  throwIf (existing.status ≠ .draft) (.badRequest "Only draft submissions can be edited")
  let answers := dto.answers.getD existing.answers
  let fields ← parseFields template.fields
  validateIfSubmitted dto.submit fields answers
  return (existing, answers)

def FormSubmission.edit (now : Instant) (answers : Body) (submit : Bool) (row : FormSubmission) : FormSubmission :=
  { row with
    answers := answers
    status := if submit then .submitted else row.status
    submittedAt := if submit then some now else row.submittedAt }

def cancellable (status : FormSubmissionStatus) : Bool := decide (status = .draft ∨ status = .submitted)

def readCancel (actor : AuthenticatedUser) (id : Id) (db : FormsDb) : Result FormSubmission := do
  let existing ← requireSubmission db id
  throwIf (existing.userId ≠ actor.id) (.forbidden "You can only cancel your own submissions")
  throwIf (¬ cancellable existing.status) (.badRequest "This submission can no longer be cancelled")
  return existing

def FormSubmission.cancel (row : FormSubmission) : FormSubmission := { row with status := .cancelled }

structure PermitFields where
  accessCode : String
  qrPayload : String
  permitValidFrom : Option Instant
  permitValidUntil : Option Instant

/-- What `allocatePermitFields` makes of a free code. -/
def permitFields (env : FormsEnv) (condoId submissionId : Id) (answers : Body) (accessCode : String) : PermitFields where
  accessCode := accessCode
  qrPayload := buildQrPayload (env.uuid condoId) (env.uuid submissionId) accessCode
  permitValidFrom := parseAnswerDate env answers "startDate"
  permitValidUntil := endOfDay env.calendar (parseAnswerDate env answers "endDate")

def permitAccessCodeFree (db : FormsDb) (condoId : Id) (accessCode : String) : Bool :=
  decide ((condoId, accessCode) ∉ db.passCodes) &&
    db.submissions.all fun row => decide (¬ (row.condoId = condoId ∧ row.accessCode = some accessCode))

def accessCodeAllocationAttempts : Nat := 8

def readApprove (actor : AuthenticatedUser) (id : Id) (db : FormsDb) : Result (FormSubmission × Bool) := do
  let existing ← requireSubmission db id
  let template ← requireTemplate db existing
  assertManagement actor existing.condoId
  throwIf (existing.status ≠ .submitted) (.badRequest "Only submitted forms can be approved")
  return (existing, isPermitFormKind template.kind)

def FormSubmission.approve (now : Instant) (actorId : Id) (permit : Option PermitFields) (row : FormSubmission) :
    FormSubmission :=
  { row with
    status := .approved, reviewedByUserId := some actorId, reviewedAt := some now, reviewNote := none
    accessCode := (permit.map PermitFields.accessCode).or row.accessCode
    qrPayload := (permit.map PermitFields.qrPayload).or row.qrPayload
    permitValidFrom := permit.elim row.permitValidFrom PermitFields.permitValidFrom
    permitValidUntil := permit.elim row.permitValidUntil PermitFields.permitValidUntil }

def permitTaken (db : FormsDb) (read : FormSubmission) (permit : PermitFields) : Bool :=
  db.submissions.any fun other => decide (other.id ≠ read.id ∧
    (other.condoId = read.condoId ∧ other.accessCode = some permit.accessCode ∨ other.qrPayload = some permit.qrPayload))

def FormsDb.approve (db : FormsDb) (now : Instant) (actor : AuthenticatedUser) (read : FormSubmission)
    (permit : Option PermitFields) : Result FormsDb := do
  throwIf (permit.any (permitTaken db read)) (.conflict "Unique constraint failed")
  db.writeSubmission read.id (FormSubmission.approve now actor.id permit)

def readReject (actor : AuthenticatedUser) (id : Id) (db : FormsDb) : Result FormSubmission := do
  let existing ← requireSubmission db id
  assertManagement actor existing.condoId
  throwIf (existing.status ≠ .submitted) (.badRequest "Only submitted forms can be rejected")
  return existing

def FormSubmission.reject (now : Instant) (actorId : Id) (note : Option String) (row : FormSubmission) : FormSubmission :=
  { row with status := .rejected, reviewedByUserId := some actorId, reviewedAt := some now, reviewNote := trimmedOrNull note }

inductive FormsRequest
  | createSubmission (actor : AuthenticatedUser) (dto : CreateFormSubmissionDto)
  | updateSubmission (actor : AuthenticatedUser) (id : Id) (dto : UpdateFormSubmissionDto)
  | cancelSubmission (actor : AuthenticatedUser) (id : Id)
  | approveSubmission (actor : AuthenticatedUser) (id : Id) (draws : Nat → String)
  | rejectSubmission (actor : AuthenticatedUser) (id : Id) (note : Option String)

inductive FormsFlight
  | saving (read : FormSubmission) (answers : Body) (submit : Bool)
  | cancelling (read : FormSubmission)
  | allocating (actor : AuthenticatedUser) (read : FormSubmission) (draws : Nat → String) (attempt : Nat)
  | approving (actor : AuthenticatedUser) (read : FormSubmission) (permit : Option PermitFields)
  | rejecting (actor : AuthenticatedUser) (read : FormSubmission) (note : Option String)

abbrev FormsOutcome : Type := Outcome FormsDb FormsFlight FormsNote

def beginForms (now : Instant) (request : FormsRequest) (db : FormsDb) : FormsOutcome :=
  match request with
  | .createSubmission actor dto =>
      .ofWrite db (createSubmission now actor dto db)
        (.updated db.nextId (if dto.submit then .submitted else .draft) :: submittedNotes dto.submit db.nextId)
  | .updateSubmission actor id dto => .ofRead db (readUpdate actor id dto db) fun read => .saving read.1 read.2 dto.submit
  | .cancelSubmission actor id => .ofRead db (readCancel actor id db) .cancelling
  | .approveSubmission actor id draws =>
      .ofRead db (readApprove actor id db) fun read =>
        if read.2 then .allocating actor read.1 draws 0 else .approving actor read.1 none
  | .rejectSubmission actor id note => .ofRead db (readReject actor id db) fun read => .rejecting actor read note

def proceedForms (env : FormsEnv) (now : Instant) (flight : FormsFlight) (db : FormsDb) : FormsOutcome :=
  match flight with
  | .saving read answers submit =>
      .ofWrite db (db.writeSubmission read.id (FormSubmission.edit now answers submit))
        (.updated read.id (if submit then .submitted else ((db.submission? read.id).elim read.status FormSubmission.status)) ::
          submittedNotes submit read.id)
  | .cancelling read => .ofWrite db (db.writeSubmission read.id FormSubmission.cancel) [.updated read.id .cancelled]
  | .allocating actor read draws attempt =>
      if permitAccessCodeFree db read.condoId (draws attempt) then
        .reads db [.approving actor read (permitFields env read.condoId read.id read.answers (draws attempt))]
      else if attempt + 1 < accessCodeAllocationAttempts then .reads db [.allocating actor read draws (attempt + 1)]
      else .ended db
  | .approving actor read permit =>
      .ofWrite db (db.approve now actor read permit) [.updated read.id .approved, .approved read.id]
  | .rejecting actor read note =>
      .ofWrite db (db.writeSubmission read.id (FormSubmission.reject now actor.id note))
        [.updated read.id .rejected, .rejected read.id (trimmedOrNull note)]

def formsService (env : FormsEnv) : Service Instant FormsDb FormsRequest FormsFlight FormsNote :=
  ⟨beginForms, proceedForms env⟩

structure FormPermitVerify where
  id : Id
  condoId : Id
  status : FormSubmissionStatus
  accessCode : Option String
  qrPayload : Option String
  permitValidFrom : Option Instant
  permitValidUntil : Option Instant
  templateKind : FormTemplateKind
  templateTitle : String
  unitLabel : Option String
  residentName : Option String
  contractorCompany : Option String
  workScope : Option String
  valid : Bool
  message : Option String
  deriving DecidableEq

def guardCondoId (actor : GateUser) : Result Id := orThrow actor.activeCondoId (.badRequest "Active condo context required")

def isGuard (actor : AuthenticatedUser) (condoId : Id) : Bool :=
  actor.roles.any fun r => decide (r.condoId = some condoId ∧ r.roleId = .securityGuard)

def assertGuardOrManagement (actor : AuthenticatedUser) (condoId : Id) : Result Unit :=
  throwIf (¬ isGuard actor condoId ∧ ¬ isManagement actor condoId) (.forbidden "Guard or management access required")

/-- The submission with the normalized text as its payload in any condo, or as its access code in the guard's. -/
def permitByStored (db : FormsDb) (condoId : Id) (normalized : String) : Option FormSubmission :=
  (db.submissions.find? fun row => decide (row.qrPayload = some normalized)).or
    (db.submissions.find? fun row => decide (row.accessCode = some normalized ∧ row.condoId = condoId))

def lookupPermit (env : VisitorEnv) (db : FormsDb) (condoId : Id) (normalized : String) : Result (Option FormSubmission) := do
  match ← findById env FormSubmission.id db.submissions normalized with
  | some row => return some row
  | none =>
      match ← findByPayload env FormSubmission.id FormSubmission.condoId db.submissions normalized with
      | some row => return some row
      | none => return permitByStored db condoId normalized

def resolvePermitPass (env : VisitorEnv) (db : FormsDb) (pass : String) (condoId : Id) : Result (Option FormSubmission) :=
  lookupPermit env db condoId (normalizePassInput pass)

def permitMessage (now : Instant) (row : FormSubmission) : Option String :=
  if row.status ≠ .approved then some ("Permit is " ++ row.status.text)
  else if row.permitValidFrom.any fun from' => decide (now < from') then some "Permit is not yet valid"
  else if row.permitValidUntil.any fun until' => decide (until' < now) then some "Permit has expired"
  else none

def toPermitVerify (now : Instant) (db : FormsDb) (template : FormTemplate) (row : FormSubmission) : Result FormPermitVerify := do
  let message := permitMessage now row
  let contractorCompany ← stringAnswer row.answers "contractorCompany"
  let workScope ← stringAnswer row.answers "workScope"
  return {
    id := row.id, condoId := row.condoId, status := row.status, accessCode := row.accessCode, qrPayload := row.qrPayload
    permitValidFrom := row.permitValidFrom, permitValidUntil := row.permitValidUntil, templateKind := template.kind
    templateTitle := template.title, unitLabel := (findBy FormUnit.id row.unitId db.units).map FormUnit.identifier
    residentName := (findBy FormUser.id row.userId db.users).map FormUser.name, contractorCompany := contractorCompany
    workScope := workScope, valid := message.isNone, message := message }

/-- `verifyPermit` as the gate calls it, with the guard's active condo -/
def verifyPermit (env : VisitorEnv) (now : Instant) (actor : GateUser) (pass : String) (db : FormsDb) :
    Result FormPermitVerify := do
  let scopeCondoId ← guardCondoId actor
  assertGuardOrManagement actor.toAuthenticatedUser scopeCondoId
  let found ← resolvePermitPass env db pass scopeCondoId
  let row ← orThrow found (.notFound "Permit not found")
  throwIf (row.condoId ≠ scopeCondoId) (.forbidden "Permit is not for this condo")
  let template ← requireTemplate db row
  throwIf (¬ isPermitFormKind template.kind) (.badRequest "This form is not a gate-verifiable permit")
  toPermitVerify now db template row

end SmartResidence.Forms
