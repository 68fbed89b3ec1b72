import SmartResidence.Accounting.GlPosting
import SmartResidence.Billing.Automation
import SmartResidence.Billing.Numbering

/-!
# `bank-reconciliation.service.ts`
-/

namespace SmartResidence.Accounting

open Foundation Billing

/-- A column of the type `Date` holds the midnight before an instant. -/
def asDate (instant : Instant) : Instant := instant / 86400000 * 86400000

structure BankCsvRow where
  date : Instant
  description : String
  amount : ℚ

structure ImportBankStatementDto where
  accountId : Id
  periodStart : Instant
  periodEnd : Instant
  openingBalance : ℚ
  closingBalance : ℚ
  rows : List BankCsvRow

def ImportBankStatementDto.row (input : ImportBankStatementDto) (condoId : Id) (id : Id) : BankStatementImport where
  id := id
  condoId := condoId
  accountId := input.accountId
  periodStart := asDate input.periodStart
  periodEnd := asDate input.periodEnd
  openingBalance := stored input.openingBalance
  closingBalance := stored input.closingBalance

def BankCsvRow.line (row : BankCsvRow) (importId : Id) (id : Id) : BankStatementLine where
  id := id
  importId := importId
  date := asDate row.date
  description := row.description
  amount := stored row.amount
  matchedJournalLineId := none

/-- `bankStatementImport.create` with its lines. -/
def insertImport (condoId : Id) (input : ImportBankStatementDto) : GlCall BankStatementImport := fun db =>
  let created := input.row condoId db.nextId
  if db.hasAccount input.accountId = false then (.error .foreignKeyViolation, db)
  else (.ok created, { db with
    imports := db.imports ++ [created]
    statementLines := db.statementLines ++ input.rows.mapIdx fun index row => row.line db.nextId (db.nextId + 1 + index)
    nextId := db.nextId + 1 + input.rows.length })

def importCsv (condoId : Id) (input : ImportBankStatementDto) : GlCall BankStatementImport := do
  ensureSeeded condoId
  let account ← Call.read fun db => db.accounts.find? fun account =>
    decide (account.id = input.accountId ∧ account.condoId = condoId ∧ account.type = .asset)
  match account with
  | none => Call.throw (.notFound "Bank GL account not found")
  | some _ =>
      if input.rows = [] then Call.throw (.badRequest "No valid rows in CSV")
      else insertImport condoId input

namespace GlDb

variable (db : GlDb)

def statementLineIn (condoId lineId : Id) : Option BankStatementLine :=
  db.statementLines.find? fun line => decide (line.id = lineId) &&
    db.imports.any fun imp => decide (imp.id = line.importId ∧ imp.condoId = condoId)

def journalLineIn (condoId journalLineId : Id) : Option GlJournalLine :=
  ((db.entries.filter fun entry => entry.condoId = condoId).flatMap GlJournalEntry.lines).find?
    fun line => line.id = journalLineId

end GlDb

def writeMatch (lineId : Id) (journalLineId : Option Id) : GlCall Unit := Call.write fun db =>
  { db with
    statementLines := updateBy BankStatementLine.id lineId
      (fun line => { line with matchedJournalLineId := journalLineId }) db.statementLines }

def matchLine (condoId lineId : Id) (journalLineId : Option Id) : GlCall Unit := do
  match ← Call.read fun db => db.statementLineIn condoId lineId with
  | none => Call.throw (.notFound "Statement line not found")
  | some _ =>
      match journalLineId with
      | none => writeMatch lineId none
      | some id =>
          match ← Call.read fun db => db.journalLineIn condoId id with
          | none => Call.throw (.notFound "Journal line not found")
          | some _ => writeMatch lineId (some id)

/-- `cashLinesForAccount` of `gl.service.ts`, with the dates of the entries. -/
def cashLinesForAccount (db : GlDb) (condoId accountId : Id) (periodStart periodEnd : Instant) :
    List (Instant × GlJournalLine) :=
  (db.entries.flatMap fun entry =>
    if entry.condoId = condoId ∧ periodStart ≤ asDate entry.entryDate ∧ asDate entry.entryDate ≤ periodEnd then
      (entry.lines.filter fun line => line.accountId = accountId).map fun line => (asDate entry.entryDate, line)
    else []).insertionSort fun a b => a.1 ≤ b.1

structure WorksheetGlLine where
  line : GlJournalLine
  entryDate : Instant
  isMatched : Bool
  deriving DecidableEq

structure WorksheetSummary where
  statementLineCount : Nat
  matchedCount : Nat
  unmatchedStatementCount : Nat
  unmatchedGlCount : Nat
  statementMovement : ℤ
  glNetMovement : ℤ
  deriving DecidableEq

structure BankReconciliationWorksheet where
  imp : BankStatementImport
  statementLines : List BankStatementLine
  glLines : List WorksheetGlLine
  summary : WorksheetSummary
  deriving DecidableEq

def worksheetOf (db : GlDb) (imp : BankStatementImport) : BankReconciliationWorksheet :=
  let lines := (db.statementLines.filter fun line => line.importId = imp.id).insertionSort fun a b => a.date ≤ b.date
  let matchedGlIds := lines.filterMap BankStatementLine.matchedJournalLineId
  let glLines := cashLinesForAccount db imp.condoId imp.accountId imp.periodStart imp.periodEnd
  let matchedCount := lines.countP fun line => line.matchedJournalLineId.isSome
  { imp := imp
    statementLines := lines
    glLines := glLines.map fun (date, line) => ⟨line, date, matchedGlIds.contains line.id⟩
    summary := {
      statementLineCount := lines.length
      matchedCount := matchedCount
      unmatchedStatementCount := lines.length - matchedCount
      unmatchedGlCount := glLines.countP fun (_, line) => !matchedGlIds.contains line.id
      statementMovement := sumBy BankStatementLine.amount lines
      glNetMovement := sumBy (fun (_, line) => line.debit - line.credit) glLines } }

def worksheet (condoId importId : Id) : GlCall BankReconciliationWorksheet := do
  match ← Call.read fun db => db.imports.find? fun imp => decide (imp.id = importId ∧ imp.condoId = condoId) with
  | none => Call.throw (.notFound "Bank import not found")
  | some imp => Call.read fun db => worksheetOf db imp

inductive AutomaticPosting
  | invoiceCharges (opts : PostInvoiceChargesOpts)
  | payment (opts : PostPaymentOpts)
  | ledgerEntry (entry : PostLedgerEntryOpts)
  | vendorBillApproved (opts : PostVendorBillOpts)
  | vendorBillPaid (opts : PostVendorBillOpts)

def AutomaticPosting.call (env : Env) : AutomaticPosting → GlCall (Option GlJournalEntry)
  | .invoiceCharges opts => postInvoiceCharges env opts
  | .payment opts => postPayment env opts
  | .ledgerEntry entry => postLedgerEntry entry
  | .vendorBillApproved opts => postVendorBillApproved env opts
  | .vendorBillPaid opts => postVendorBillPaid env opts

def AutomaticPosting.key (env : Env) : AutomaticPosting → Option String
  | .invoiceCharges opts => some (invoiceKey env opts.invoiceId)
  | .payment opts => some (paymentKey env opts.paymentId)
  | .ledgerEntry entry => depositKey entry.idempotencyKey
  | .vendorBillApproved opts => some (vendorBillKey env opts.vendorBillId)
  | .vendorBillPaid opts => some (vendorPaymentKey env opts.vendorBillId)

inductive LedgerOp
  | postManual (user : AuthenticatedUser) (condoId : Id) (input : PostManualJournalDto)
  | createAccount (user : AuthenticatedUser) (condoId : Id) (input : CreateGlAccountDto)
  | updateAccount (user : AuthenticatedUser) (accountId : Id) (input : UpdateGlAccountDto)
  | importCsv (user : AuthenticatedUser) (condoId : Id) (input : ImportBankStatementDto)
  | matchLine (user : AuthenticatedUser) (condoId lineId : Id) (journalLineId : Option Id)
  | automatic (posting : AutomaticPosting)

def LedgerOp.call (env : Env) : LedgerOp → GlCall (Option GlJournalEntry)
  | .postManual user condoId input => do
      Call.ofResult (assertCondoManagement user condoId)
      let entry ← Accounting.postManual user condoId input
      return some entry
  | .createAccount user condoId input => do
      Call.ofResult (assertCondoManagement user condoId)
      let _ ← Accounting.createAccount condoId input
      return none
  | .updateAccount user accountId input => do
      Accounting.updateAccount user accountId input
      return none
  | .importCsv user condoId input => do
      Call.ofResult (assertCondoManagement user condoId)
      let _ ← Accounting.importCsv condoId input
      return none
  | .matchLine user condoId lineId journalLineId => do
      Call.ofResult (assertCondoManagement user condoId)
      Accounting.matchLine condoId lineId journalLineId
      return none
  | .automatic posting => posting.call env

def LedgerOp.Performs (env : Env) (before : GlDb) (op : LedgerOp) (after : GlDb) : Prop :=
  after = (op.call env before).2

def afterOps (env : Env) (db : GlDb) (ops : List LedgerOp) : GlDb := ops.foldl (fun db op => (op.call env db).2) db

theorem run_afterOps (env : Env) (db : GlDb) (ops : List LedgerOp) :
    Run (LedgerOp.Performs env) db ops (afterOps env db ops) := by
  induction ops generalizing db with
  | nil => exact .done
  | cons op rest ih => exact (ih (op.call env db).2).cons rfl

def dropReturn (line : List Char) : List Char := if line.getLast? = some '\r' then line.dropLast else line

def splitLines (text : List Char) : List (List Char) :=
  let pieces := text.splitOn '\n'
  pieces.dropLast.map dropReturn ++ pieces.getLast?.toList

/-- The loop of `parseCsvLine`: whether it is inside quotes, the cell so far, and the characters to come. -/
def cellsFrom : Bool → List Char → List Char → List (List Char)
  | _, cur, [] => [cur]
  | true, cur, '\x22' :: '\x22' :: rest => cellsFrom true (cur ++ ['\x22']) rest
  | true, cur, '\x22' :: rest => cellsFrom false cur rest
  | true, cur, c :: rest => cellsFrom true (cur ++ [c]) rest
  | false, cur, '\x22' :: rest => cellsFrom true cur rest
  | false, cur, ',' :: rest => cur :: cellsFrom false [] rest
  | false, cur, c :: rest => cellsFrom false (cur ++ [c]) rest

def parseCsvLine (line : List Char) : List (List Char) := cellsFrom false [] line

/-- The year, month and day of `/^\d{4}-\d{2}-\d{2}$/`. -/
def isoParts : List Char → Option (ℕ × ℕ × ℕ)
  | [a, b, c, d, '-', e, f, '-', g, h] =>
      if [a, b, c, d, e, f, g, h].all Char.isDigit then
        some (digitsValue [a, b, c, d], digitsValue [e, f], digitsValue [g, h])
      else none
  | _ => none

/-- `Date.parse`, which gives the midnight (UTC) of a date that is written in ISO format. A month has days up to the
31st, which may lie in the next month, and `none` stands for NaN. Texts in no ISO format are left to the engine. -/
def dateParse (engine : List Char → Option Instant) (text : List Char) : Option Instant :=
  match isoParts text with
  | some (year, month, day) =>
      if 1 ≤ month ∧ month ≤ 12 ∧ 1 ≤ day ∧ day ≤ 31 then some (utcDate (12 * (year - 1970) + (month - 1)) day) else none
  | none => engine text

def isSeparator (c : Char) : Bool := c = '/' || c = '-'

/-- One or two digits of the day, one or two of the month and four of the year, with a slash or a dash between them. -/
def dmyParts (text : List Char) : Option (List Char × List Char × List Char) :=
  let d := text.takeWhile Char.isDigit
  match text.dropWhile Char.isDigit with
  | [] => none
  | first :: rest =>
      let m := rest.takeWhile Char.isDigit
      match rest.dropWhile Char.isDigit with
      | [] => none
      | second :: y =>
          if isSeparator first ∧ isSeparator second ∧ (d.length = 1 ∨ d.length = 2) ∧ (m.length = 1 ∨ m.length = 2) ∧
            y.length = 4 ∧ y.all Char.isDigit then some (d, m, y)
          else none

/-- A `Date`, unless there is none; a `Date` may be invalid. -/
def parseDate (engine : List Char → Option Instant) (raw : List Char) : Option (Option Instant) :=
  let s := trim raw
  if (isoParts s).isSome then some (dateParse engine s)
  else
    match dmyParts s with
    | some (d, m, y) => some (dateParse engine (y ++ '-' :: (padStart 2 m ++ '-' :: padStart 2 d)))
    | none => (dateParse engine s).map some

def isAmountNoise (c : Char) : Bool := c = ',' || isSpace c || c.toLower = 'r' || c.toLower = 'm'

def parseAmount (raw : List Char) : Option ℚ :=
  let cleaned := trim (raw.filter fun c => !isAmountNoise c)
  if cleaned = [] then none else (numberOf (String.ofList cleaned)).bind double

def isHeader (dateCell : List Char) : Bool :=
  let lower := dateCell.map Char.toLower
  includes lower ['d', 'a', 't', 'e'] || includes lower ['t', 'a', 'r', 'i', 'k', 'h']

structure ParsedBankRow where
  date : Option Instant
  description : String
  amount : ℚ
  deriving DecidableEq

def parseRow (engine : List Char → Option Instant) (i : ℕ) (rawLine : List Char) : Option ParsedBankRow :=
  let line := trim rawLine
  if line = [] then none
  else
    match parseCsvLine line with
    | dateCell :: descCell :: amountCell :: _ =>
        if i = 0 ∧ isHeader dateCell then none
        else
          match parseDate engine dateCell, parseAmount amountCell with
          | some date, some amount =>
              let description := trim descCell
              if description = [] then none else some ⟨date, String.ofList description, amount⟩
          | _, _ => none
    | _ => none

def csvLines (csv : String) : List (List Char × ℕ) := (splitLines (trim csv.toList)).zipIdx

def parseBankCsv (engine : List Char → Option Instant) (csv : String) : List ParsedBankRow :=
  (csvLines csv).filterMap fun (rawLine, i) => parseRow engine i rawLine

def quoted (cell : List Char) : List Char :=
  '\x22' :: (cell.flatMap (fun c => if c = '\x22' then ['\x22', '\x22'] else [c]) ++ ['\x22'])

def buildCsv (rows : List (List String)) : String :=
  String.ofList <| ['\n'].intercalate <| rows.map fun row => [','].intercalate <| row.map fun cell => quoted cell.toList

end SmartResidence.Accounting
