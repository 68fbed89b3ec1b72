import SmartResidence.Billing.Schema
import SmartResidence.Foundation.Services

/-!
# `defect.service.ts`, `defect-report.service.ts` and `defect-transitions.ts`
-/

namespace SmartResidence.Defects

open Foundation Billing

inductive DefectStatus
  | new | ack | assigned | inProgress | resolved | closed | reopened
  deriving DecidableEq

def validTransitions : DefectStatus → List DefectStatus
  | .new => [.ack, .assigned, .resolved, .closed]
  | .ack => [.assigned, .inProgress, .resolved, .closed]
  | .assigned => [.inProgress, .resolved, .closed]
  | .inProgress => [.resolved, .closed]
  | .resolved => [.closed, .reopened]
  | .closed => [.reopened]
  | .reopened => [.assigned, .inProgress, .resolved, .closed]

def canTransitionDefect (source target : DefectStatus) : Bool :=
  if source = target then false else decide (target ∈ validTransitions source)

def DefectStatus.text : DefectStatus → String
  | .new => "NEW"
  | .ack => "ACK"
  | .assigned => "ASSIGNED"
  | .inProgress => "IN_PROGRESS"
  | .resolved => "RESOLVED"
  | .closed => "CLOSED"
  | .reopened => "REOPENED"

structure DefectText where
  category : String
  severity : String
  title : String
  description : String
  location : Option String
  deriving DecidableEq

structure Defect where
  id : Id
  condoId : Id
  unitId : Option Id
  raisedByUserId : Id
  text : DefectText
  status : DefectStatus
  assignedToUserId : Option Id
  reportId : Option Id
  acknowledgedAt : Option Instant
  resolvedAt : Option Instant
  closedAt : Option Instant
  deriving DecidableEq

structure DefectUpdate where
  defectId : Id
  authorUserId : Id
  message : String
  statusFrom : Option DefectStatus
  statusTo : Option DefectStatus
  isInternal : Bool
  createdAt : Instant
  deriving DecidableEq

structure DefectReport where
  id : Id
  condoId : Id
  unitId : Id
  raisedByUserId : Id
  deriving DecidableEq

structure DefectUnit where
  id : Id
  condoId : Id
  deriving DecidableEq

structure DefectDb where
  nextId : Nat
  units : List DefectUnit
  reports : List DefectReport
  defects : List Defect
  updates : List DefectUpdate

inductive DefectNote
  | created (defectId : Id)
  | updated (defectId : Id) (statusFrom statusTo : DefectStatus)
  | commented (defectId : Id) (isInternal : Bool)
  | reportCreated (reportId : Id) (itemCount : Nat)
  | reportItemsResolved (reportId : Id) (updatedCount : Nat)
  deriving DecidableEq

namespace DefectDb

variable (db : DefectDb)

def defect? (id : Id) : Option Defect := findBy Defect.id id db.defects

def updateDefect (id : Id) (change : Defect → Defect) : DefectDb := { db with defects := updateBy Defect.id id change db.defects }

def insertDefect (row : Id → Defect) : DefectDb :=
  { db with defects := db.defects ++ [row db.nextId], nextId := db.nextId + 1 }

def insertUpdate (update : DefectUpdate) : DefectDb := { db with updates := db.updates ++ [update] }

def writeDefect (id : Id) (change : Defect → Defect) (update : DefectUpdate) : Result DefectDb := do
  let _ ← orThrow (db.defect? id) (.failure "Record to update not found")
  return (db.updateDefect id change).insertUpdate update

end DefectDb

def isManagement (user : AuthenticatedUser) (condoId : Id) : Bool :=
  user.roles.any fun r => decide ((r.roleId = .superAdmin ∨ r.roleId = .managementAdmin ∨ r.roleId = .managementStaff) ∧
    (r.roleId = .superAdmin ∨ r.condoId = some condoId))

def userHasUnitRole (user : AuthenticatedUser) (unitId : Id) : Bool := user.roles.any fun r => decide (r.unitId = some unitId)

def mayAccess (user : AuthenticatedUser) (defect : Defect) : Bool :=
  isManagement user defect.condoId || defect.unitId.any (userHasUnitRole user) || decide (defect.assignedToUserId = some user.id)

def assertDefectAccess (user : AuthenticatedUser) (defect : Defect) : Result Unit :=
  throwIf (¬ mayAccess user defect) (.forbidden "You cannot access this defect")

def newDefect (unit : DefectUnit) (userId : Id) (reportId : Option Id) (text : DefectText) (id : Id) : Defect :=
  { id := id, condoId := unit.condoId, unitId := some unit.id, raisedByUserId := userId, text := text, status := .new
    assignedToUserId := none, reportId := reportId, acknowledgedAt := none, resolvedAt := none, closedAt := none }

def assertUnit (user : AuthenticatedUser) (unitId : Id) (refusal : String) (db : DefectDb) : Result DefectUnit := do
  let unit ← orThrow (findBy DefectUnit.id unitId db.units) (.notFound "Unit not found")
  throwIf (¬ userHasUnitRole user unit.id ∧ ¬ isManagement user unit.condoId) (.forbidden refusal)
  return unit

def createDefect (user : AuthenticatedUser) (unitId : Id) (text : DefectText) (db : DefectDb) : Result DefectDb := do
  let unit ← assertUnit user unitId "You cannot raise defects for this unit" db
  return db.insertDefect (newDefect unit user.id none text)

def handoverReportItemsHardCap : Nat := 5000

/-- `DefectReportService.create`: one defect for each item, with the texts that its taxonomy gives. -/
def createReport (user : AuthenticatedUser) (unitId : Id) (items : List DefectText) (db : DefectDb) : Result DefectDb := do
  throwIf (handoverReportItemsHardCap < items.length) (.badRequest ("This submission has " ++ toString items.length ++
    " defects; the maximum is " ++ toString handoverReportItemsHardCap ++ ". Please split into smaller batches."))
  let unit ← assertUnit user unitId "You cannot raise a handover report for this unit" db
  let reported : DefectDb :=
    { db with reports := db.reports ++ [⟨db.nextId, unit.condoId, unit.id, user.id⟩], nextId := db.nextId + 1 }
  return items.foldl (fun reported text => reported.insertDefect (newDefect unit user.id (some db.nextId) text)) reported

structure TransitionDefectDto where
  status : DefectStatus
  assignedToUserId : Option Id
  message : Option String

def readTransition (user : AuthenticatedUser) (id : Id) (dto : TransitionDefectDto) (db : DefectDb) : Result Defect := do
  let defect ← orThrow (db.defect? id) (.notFound "Not Found")
  assertDefectAccess user defect
  throwIf (¬ canTransitionDefect defect.status dto.status)
    (.badRequest ("Cannot move from " ++ defect.status.text ++ " to " ++ dto.status.text))
  return defect

def Defect.transition (now : Instant) (read : Defect) (dto : TransitionDefectDto) (defect : Defect) : Defect :=
  { defect with
    status := dto.status
    assignedToUserId := dto.assignedToUserId.or read.assignedToUserId
    acknowledgedAt := if dto.status = .ack then some now else read.acknowledgedAt
    resolvedAt := if dto.status = .resolved then some now else read.resolvedAt
    closedAt := if dto.status = .closed then some now else read.closedAt }

def DefectDb.transition (db : DefectDb) (now : Instant) (user : AuthenticatedUser) (read : Defect) (dto : TransitionDefectDto) :
    Result DefectDb :=
  db.writeDefect read.id (Defect.transition now read dto)
    { defectId := read.id, authorUserId := user.id, message := dto.message.getD ("Status changed to " ++ dto.status.text)
      statusFrom := some read.status, statusTo := some dto.status, isInternal := false, createdAt := now }

/-- An assignee that is sent as `null` is `some none`. -/
structure BulkUpdateReportItemsDto where
  defectIds : List Id
  status : Option DefectStatus
  assignedToUserId : Option (Option Id)
  message : Option String

def readBulk (user : AuthenticatedUser) (reportId : Id) (dto : BulkUpdateReportItemsDto) (db : DefectDb) :
    Result (List Defect) := do
  let report ← orThrow (findBy DefectReport.id reportId db.reports) (.notFound "Report not found")
  throwIf (¬ isManagement user report.condoId) (.forbidden "Only management can triage report items")
  throwIf (handoverReportItemsHardCap < dto.defectIds.length) (.badRequest ("Cannot update " ++
    toString dto.defectIds.length ++ " items at once; the maximum is " ++ toString handoverReportItemsHardCap ++ "."))
  return db.defects.filter fun defect => decide (defect.id ∈ dto.defectIds ∧ defect.reportId = some report.id)

def nextStatus (dto : BulkUpdateReportItemsDto) (read : Defect) : Option DefectStatus :=
  dto.status.filter fun status => decide (status ≠ read.status) && canTransitionDefect read.status status

def willAssign (dto : BulkUpdateReportItemsDto) (read : Defect) : Bool :=
  dto.assignedToUserId.any fun assignee => decide (assignee ≠ read.assignedToUserId)

def Defect.triage (now : Instant) (read : Defect) (dto : BulkUpdateReportItemsDto) (defect : Defect) : Defect :=
  let moved := nextStatus dto read
  { defect with
    status := moved.getD defect.status
    assignedToUserId := dto.assignedToUserId.getD defect.assignedToUserId
    acknowledgedAt := if moved = some .ack ∧ read.acknowledgedAt = none then some now else defect.acknowledgedAt
    resolvedAt := if moved = some .resolved then some now else defect.resolvedAt
    closedAt := if moved = some .closed then some now else defect.closedAt }

def DefectDb.triage (now : Instant) (user : AuthenticatedUser) (dto : BulkUpdateReportItemsDto) (db : DefectDb) (read : Defect) :
    Result DefectDb :=
  let moved := nextStatus dto read
  if moved = none ∧ ¬ willAssign dto read then return db
  else
    db.writeDefect read.id (Defect.triage now read dto)
      { defectId := read.id, authorUserId := user.id
        message := dto.message.getD (match moved with
          | some status => "Status changed to " ++ status.text ++ " (bulk)"
          | none => "Assigned (bulk)")
        statusFrom := moved.map fun _ => read.status, statusTo := moved, isInternal := true, createdAt := now }

def bulkNotes (reportId : Id) (dto : BulkUpdateReportItemsDto) (read : List Defect) : List DefectNote :=
  let updated := (read.filter fun defect => (nextStatus dto defect).isSome || willAssign dto defect).length
  if 0 < updated ∧ dto.status = some .resolved then [.reportItemsResolved reportId updated] else []

inductive DefectRequest
  | create (user : AuthenticatedUser) (unitId : Id) (text : DefectText)
  | createReport (user : AuthenticatedUser) (unitId : Id) (items : List DefectText)
  | addUpdate (user : AuthenticatedUser) (id : Id) (message : String) (isInternal : Bool)
  | transition (user : AuthenticatedUser) (id : Id) (dto : TransitionDefectDto)
  | bulkUpdateItems (user : AuthenticatedUser) (reportId : Id) (dto : BulkUpdateReportItemsDto)

inductive DefectFlight
  | commenting (user : AuthenticatedUser) (read : Defect) (message : String) (isInternal : Bool)
  | transitioning (user : AuthenticatedUser) (read : Defect) (dto : TransitionDefectDto)
  | triaging (user : AuthenticatedUser) (reportId : Id) (read : List Defect) (dto : BulkUpdateReportItemsDto)

abbrev DefectOutcome : Type := Outcome DefectDb DefectFlight DefectNote

def beginDefect (_ : Instant) (request : DefectRequest) (db : DefectDb) : DefectOutcome :=
  match request with
  | .create user unitId text => .ofWrite db (createDefect user unitId text db) [.created db.nextId]
  | .createReport user unitId items =>
      .ofWrite db (createReport user unitId items db) [.reportCreated db.nextId items.length]
  | .addUpdate user id message isInternal =>
      .ofRead db (do
        let defect ← orThrow (db.defect? id) (.notFound "Not Found")
        assertDefectAccess user defect
        return defect) fun read => .commenting user read message isInternal
  | .transition user id dto => .ofRead db (readTransition user id dto db) fun read => .transitioning user read dto
  | .bulkUpdateItems user reportId dto =>
      .ofRead db (readBulk user reportId dto db) fun read => .triaging user reportId read dto

def proceedDefect (now : Instant) (flight : DefectFlight) (db : DefectDb) : DefectOutcome :=
  match flight with
  | .commenting user read message isInternal =>
      ⟨db.insertUpdate ⟨read.id, user.id, message, none, none, isInternal, now⟩, [], [.commented read.id isInternal]⟩
  | .transitioning user read dto => .ofWrite db (db.transition now user read dto) [.updated read.id read.status dto.status]
  | .triaging user reportId read dto => .ofWrite db (read.foldlM (DefectDb.triage now user dto) db) (bulkNotes reportId dto read)

def defectService : Service Instant DefectDb DefectRequest DefectFlight DefectNote := ⟨beginDefect, proceedDefect⟩

end SmartResidence.Defects
