import SmartResidence.Defects.DefectService
import SmartResidence.Foundation.Calls
import SmartResidence.Settings.Json
import SmartResidence.Storage.Attachments
import Mathlib.Data.List.ReduceOption

/-!
# `DefectReportService.createHandover` statement by statement

The server decides which statement fails, which ids the new rows get and in which order they come back.
-/

namespace SmartResidence.Defects.Handover

open Foundation Billing Settings Storage

structure HandoverReportItem where
  spaceLabel : String
  spaceTypeId : Option Id
  elementId : Option Id
  issueId : Option Id
  elementName : Option String
  issueName : Option String
  note : Option String
  attachmentIds : Option (List Id)

structure CreateHandoverReport where
  unitId : Id
  title : Option String
  items : List HandoverReportItem

inductive DefectReportKind
  | handover | standard
  deriving DecidableEq

structure ReportRow extends DefectReport where
  kind : DefectReportKind
  title : String
  deriving DecidableEq

structure DefectRow extends Defect where
  spaceLabel : Option String
  spaceTypeId : Option Id
  elementId : Option Id
  issueId : Option Id
  metadata : Json

abbrev Taxonomy : Type := Id → Option String

structure Tables where
  units : List DefectUnit
  elements : Taxonomy
  issues : Taxonomy
  spaceTypes : Taxonomy
  reports : List ReportRow
  defects : List DefectRow
  attachments : List Attachment

structure Server where
  fails : Nat → Option ApiError
  draw : Nat → Nat → Id
  order : Nat → List DefectRow → List DefectRow
  perm : ∀ made rows, (order made rows).Perm rows

structure Session where
  tables : Tables
  made : Nat
  notes : List DefectNote

abbrev HandoverCall (Value : Type) : Type := Call Session ApiError Value

variable (server : Server)

def statement {Value : Type} (run : Nat → Tables → Result (Value × Tables)) : HandoverCall Value := fun session =>
  let later := { session with made := session.made + 1 }
  match server.fails session.made with
  | some failure => (.error failure, later)
  | none =>
      match run session.made session.tables with
      | .error failure => (.error failure, later)
      | .ok (value, tables) => (.ok value, { later with tables := tables })

def query {Value : Type} (look : Tables → Value) : HandoverCall Value :=
  statement server fun _ tables => .ok (look tables, tables)

def transaction {Value : Type} (body : HandoverCall Value) : HandoverCall Value := fun session =>
  match (body >>= fun value => query server fun _ => value) session with
  | (.ok value, after) => (.ok value, after)
  | (.error failure, after) => (.error failure, { after with tables := session.tables })

def createReport (unit : DefectUnit) (userId : Id) (title : String) : HandoverCall ReportRow :=
  statement server fun made tables =>
    let row : ReportRow := ⟨⟨server.draw made 0, unit.condoId, unit.id, userId⟩, .handover, title⟩
    do
      throwIf (row.id ∈ tables.reports.map fun report => report.id) (.failure "Unique constraint failed")
      return (row, { tables with reports := tables.reports ++ [row] })

def Tables.Admit (tables : Tables) (rows : List DefectRow) : Prop :=
  (rows.map fun row => row.id).Nodup ∧ ∀ row ∈ rows, row.id ∉ (tables.defects.map fun defect => defect.id) ∧
    row.spaceTypeId.all (fun id => (tables.spaceTypes id).isSome) ∧
    row.elementId.all (fun id => (tables.elements id).isSome) ∧ row.issueId.all fun id => (tables.issues id).isSome

instance (tables : Tables) (rows : List DefectRow) : Decidable (tables.Admit rows) := by
  unfold Tables.Admit
  infer_instance

def drawn (made : Nat) (chunk : List (Id → DefectRow)) : List DefectRow :=
  chunk.mapIdx fun k row => row (server.draw made k)

def createManyAndReturn (chunk : List (Id → DefectRow)) : HandoverCall (List DefectRow) :=
  statement server fun made tables => do
    throwIf (¬ tables.Admit (drawn server made chunk)) (.failure "Constraint failed")
    return (server.order made (drawn server made chunk), { tables with defects := tables.defects ++ drawn server made chunk })

def updateAttachments (userId : Id) (ids : List Id) (defectId : Id) : HandoverCall Unit :=
  statement server fun _ tables => .ok ((),
    { tables with attachments := updateWhere (Attachment.free userId ids) (Attachment.commit (.defect defectId)) tables.attachments })

def handoverDefectTitle (spaceLabel : String) (elementName issueName : Option String) : String :=
  let head := match elementName with
    | some name => if name = "" then spaceLabel else spaceLabel ++ " - " ++ name
    | none => spaceLabel
  match issueName with
  | some name => if name = "" then head else head ++ ": " ++ name
  | none => head

def trimmed (text : Option String) : Option String := (text.map trimText).filter fun text => decide (text ≠ "")

structure Names where
  elements : List (Id × String)
  issues : List (Id × String)
  spaceTypes : List (Id × String)

def nameOf (names : List (Id × String)) (id : Option Id) (sent : Option String) : Option String :=
  match id with
  | some id => names.lookup id
  | none => sent

def defectText (names : Names) (item : HandoverReportItem) : DefectText :=
  let elName := nameOf names.elements item.elementId item.elementName
  let isName := nameOf names.issues item.issueId item.issueName
  let parts := [elName, isName].filterMap fun name => name.filter fun text => decide (text ≠ "")
  { category := (nameOf names.spaceTypes item.spaceTypeId none).getD "Handover"
    severity := "MEDIUM"
    title := handoverDefectTitle item.spaceLabel elName isName
    description := (trimmed item.note).getD
      (if parts = [] then "Reported as part of a multi-defect submission." else String.intercalate " — " parts)
    location := some item.spaceLabel }

def defectRow (unit : DefectUnit) (userId reportId : Id) (names : Names) (index : Nat) (item : HandoverReportItem) (id : Id) : DefectRow :=
  { newDefect unit userId (some reportId) (defectText names item) id with
    spaceLabel := some item.spaceLabel
    spaceTypeId := item.spaceTypeId
    elementId := item.elementId
    issueId := item.issueId
    metadata := .object [("handoverIndex", .number index)] }

def handoverReportInsertChunk : Nat := 100

def chunks {Row : Type} (rows : List Row) : List (List Row) :=
  (List.range ((rows.length + handoverReportInsertChunk - 1) / handoverReportInsertChunk)).map fun k =>
    (rows.drop (k * handoverReportInsertChunk)).take handoverReportInsertChunk

/-- `defectIdByIndex` after the rows that one statement has returned. -/
def recordCreated (index : List (ℚ × Id)) (created : List DefectRow) : List (ℚ × Id) :=
  created.foldl (fun index row =>
    match row.metadata.get "handoverIndex" with
    | .number idx => assign idx row.id index
    | _ => index) index

def insertChunks : List (List (Id → DefectRow)) → List (ℚ × Id) → HandoverCall (List (ℚ × Id))
  | [], index => pure index
  | chunk :: rest, index => do
      let created ← createManyAndReturn server chunk
      insertChunks rest (recordCreated index created)

def commitPhoto (userId : Id) (index : List (ℚ × Id)) (i : Nat) (item : HandoverReportItem) : HandoverCall Unit :=
  match item.attachmentIds.getD [], index.lookup (i : ℚ) with
  | attachmentId :: more, some defectId => updateAttachments server userId (attachmentId :: more) defectId
  | _, _ => pure ()

def commitPhotos (userId : Id) (index : List (ℚ × Id)) : Nat → List HandoverReportItem → HandoverCall Unit
  | _, [] => pure ()
  | i, item :: rest => do
      commitPhoto server userId index i item
      commitPhotos userId index (i + 1) rest

def findNames (ids : List (Option Id)) (taxonomy : Tables → Taxonomy) : HandoverCall (List (Id × String)) :=
  let wanted := ids.reduceOption.dedup
  if wanted = [] then pure []
  else query server fun tables => wanted.filterMap fun id => (taxonomy tables id).map fun name => (id, name)

def readNames (items : List HandoverReportItem) : HandoverCall Names := do
  let elements ← findNames server (items.map HandoverReportItem.elementId) Tables.elements
  let issues ← findNames server (items.map HandoverReportItem.issueId) Tables.issues
  let spaceTypes ← findNames server (items.map HandoverReportItem.spaceTypeId) Tables.spaceTypes
  return ⟨elements, issues, spaceTypes⟩

def readUnit (user : AuthenticatedUser) (unitId : Id) : HandoverCall DefectUnit := do
  let found ← query server fun tables => findBy DefectUnit.id unitId tables.units
  let unit ← Call.ofResult (orThrow found (.notFound "Unit not found"))
  Call.ofResult (throwIf (¬ userHasUnitRole user unit.id ∧ ¬ isManagement user unit.condoId)
    (.forbidden "You cannot raise a handover report for this unit"))
  return unit

def saveReport (user : AuthenticatedUser) (dto : CreateHandoverReport) (unit : DefectUnit) (names : Names) : HandoverCall ReportRow := do
  let created ← createReport server unit user.id ((trimmed dto.title).getD "Multiple defects")
  let defectRows := dto.items.mapIdx fun index item => defectRow unit user.id created.id names index item
  let defectIdByIndex ← insertChunks server (chunks defectRows) []
  commitPhotos server user.id defectIdByIndex 0 dto.items
  return created

/-- `createHandover` up to the end of its transaction. -/
def saveHandover (user : AuthenticatedUser) (dto : CreateHandoverReport) : HandoverCall ReportRow := do
  Call.ofResult (throwIf (handoverReportItemsHardCap < dto.items.length) (.badRequest ("This submission has " ++
    toString dto.items.length ++ " defects; the maximum is " ++ toString handoverReportItemsHardCap ++
    ". Please split into smaller batches.")))
  let unit ← readUnit server user dto.unitId
  let names ← readNames server dto.items
  transaction server (saveReport server user dto unit names)

structure DefectReportSummary where
  id : Id
  condoId : Id
  unitId : Id
  kind : DefectReportKind
  title : String
  itemCount : Nat
  statusCounts : List (DefectStatus × Nat)
  deriving DecidableEq

def getSummary (user : AuthenticatedUser) (id : Id) (itemCount : Nat) : HandoverCall DefectReportSummary := do
  let found ← query server fun tables => findBy (fun row : ReportRow => row.id) id tables.reports
  let report ← Call.ofResult (orThrow found (.notFound "Report not found"))
  Call.ofResult (throwIf (¬ isManagement user report.condoId ∧ report.raisedByUserId ≠ user.id ∧
    ¬ userHasUnitRole user report.unitId) (.forbidden "Forbidden"))
  return ⟨report.id, report.condoId, report.unitId, report.kind, report.title, itemCount, [(.new, itemCount)]⟩

def createHandover (user : AuthenticatedUser) (dto : CreateHandoverReport) : HandoverCall DefectReportSummary := do
  let report ← saveHandover server user dto
  Call.write fun session => { session with notes := session.notes ++ [.reportCreated report.id dto.items.length] }
  getSummary server user report.id dto.items.length

end SmartResidence.Defects.Handover
