import Mathlib.Data.List.Sort
import SmartResidence.Gateway.JsValue
import SmartResidence.Foundation.Calls
import SmartResidence.Foundation.Forests

/-!
# The general ledger: `coa.service.ts` and `gl.service.ts`
-/

namespace SmartResidence.Accounting

open Foundation Billing

inductive GlAccountType
  | asset | liability | equity | income | expense
  deriving DecidableEq

inductive GlJournalSourceType
  | invoice | payment | manual | reversal | vendorBill | vendorPayment
  deriving DecidableEq

structure GlAccount where
  id : Id
  condoId : Id
  code : String
  type : GlAccountType
  fund : LedgerFund
  parentId : Option Id
  active : Bool
  deriving DecidableEq

structure GlJournalLine where
  id : Id
  accountId : Id
  debit : ℤ
  credit : ℤ
  fund : LedgerFund
  deriving DecidableEq

structure GlJournalEntry where
  id : Id
  condoId : Id
  entryDate : Instant
  sourceType : GlJournalSourceType
  sourceId : Option Id
  postedByUserId : Option Id
  idempotencyKey : Option String
  lines : List GlJournalLine
  deriving DecidableEq

structure BankStatementImport where
  id : Id
  condoId : Id
  accountId : Id
  periodStart : Instant
  periodEnd : Instant
  openingBalance : ℤ
  closingBalance : ℤ
  deriving DecidableEq

structure BankStatementLine where
  id : Id
  importId : Id
  date : Instant
  description : String
  amount : ℤ
  matchedJournalLineId : Option Id
  deriving DecidableEq

structure GlDb where
  nextId : Id
  accounts : List GlAccount
  entries : List GlJournalEntry
  imports : List BankStatementImport
  statementLines : List BankStatementLine
  deriving DecidableEq

inductive GlIndex
  | accountCode
  | idempotencyKey
  deriving DecidableEq

inductive GlError
  | badRequest (message : String)
  | notFound (message : String)
  | forbidden (message : String)
  | uniqueViolation (index : GlIndex)
  | foreignKeyViolation
  deriving DecidableEq

abbrev GlCall := Call GlDb GlError

namespace GlDb

variable (db : GlDb)

def account? (id : Id) : Option GlAccount := findBy GlAccount.id id db.accounts

def hasAccount (id : Id) : Bool := (db.account? id).isSome

def journalLines : List GlJournalLine := db.entries.flatMap GlJournalEntry.lines

end GlDb

structure CoaTemplateRow where
  code : String
  type : GlAccountType
  fund : LedgerFund
  parentCode : Option String

def malaysianJmbCoa : List CoaTemplateRow := [
  ⟨"1000", .asset, .maintenance, none⟩,
  ⟨"1010", .asset, .sinkingFund, none⟩,
  ⟨"1020", .asset, .deposit, none⟩,
  ⟨"1100", .asset, .maintenance, none⟩,
  ⟨"1110", .asset, .sinkingFund, none⟩,
  ⟨"1120", .asset, .general, none⟩,
  ⟨"1200", .asset, .general, none⟩,
  ⟨"2000", .liability, .deposit, none⟩,
  ⟨"2100", .liability, .general, none⟩,
  ⟨"2200", .liability, .general, none⟩,
  ⟨"3000", .equity, .maintenance, none⟩,
  ⟨"3010", .equity, .sinkingFund, none⟩,
  ⟨"3020", .equity, .general, none⟩,
  ⟨"4000", .income, .maintenance, none⟩,
  ⟨"4010", .income, .sinkingFund, none⟩,
  ⟨"4020", .income, .general, none⟩,
  ⟨"4030", .income, .general, none⟩,
  ⟨"4040", .income, .maintenance, none⟩,
  ⟨"5000", .expense, .maintenance, none⟩,
  ⟨"5010", .expense, .maintenance, none⟩,
  ⟨"5020", .expense, .maintenance, none⟩,
  ⟨"5030", .expense, .maintenance, none⟩,
  ⟨"5100", .expense, .sinkingFund, none⟩,
  ⟨"5200", .expense, .general, none⟩,
  ⟨"5300", .expense, .general, none⟩,
  ⟨"5400", .expense, .general, none⟩]

def insertAccount (row : Id → GlAccount) : GlCall GlAccount := fun db =>
  let account := row db.nextId
  if ∃ other ∈ db.accounts, other.condoId = account.condoId ∧ other.code = account.code then
    (.error (.uniqueViolation .accountCode), db)
  else if ∃ parentId ∈ account.parentId, db.hasAccount parentId = false then (.error .foreignKeyViolation, db)
  else (.ok account, { db with accounts := db.accounts ++ [account], nextId := db.nextId + 1 })

def lookup {Value : Type} (key : String) (map : List (String × Value)) : Option Value :=
  (map.reverse.find? fun pair => pair.1 = key).map Prod.snd

def seedRows (condoId : Id) : List CoaTemplateRow → List (String × Id) → GlCall Unit
  | [], _ => return
  | row :: rest, idByCode => do
      let parentId := row.parentCode.bind fun code => lookup code idByCode
      let created ← insertAccount fun id => ⟨id, condoId, row.code, row.type, row.fund, parentId, true⟩
      seedRows condoId rest (idByCode ++ [(row.code, created.id)])

def ensureSeeded (condoId : Id) : GlCall Unit := do
  let existing ← Call.read fun db => db.accounts.countP fun account => account.condoId = condoId
  if existing > 0 then return
  else seedRows condoId malaysianJmbCoa []

structure CreateGlAccountDto where
  code : String
  type : GlAccountType
  fund : LedgerFund
  parentId : Option Id

structure UpdateGlAccountDto where
  active : Option Bool
  parentId : Option (Option Id)

def isManagementForCondo (user : AuthenticatedUser) (condoId : Id) : Bool :=
  user.roles.any fun r => decide ((r.roleId = .superAdmin ∨ r.roleId = .managementAdmin ∨
    r.roleId = .managementStaff) ∧ r.condoId = some condoId)

def assertCondoManagement (user : AuthenticatedUser) (condoId : Id) : Except GlError Unit :=
  if user.roles.any (fun r => decide (r.roleId = .superAdmin)) || isManagementForCondo user condoId then .ok ()
  else .error (.forbidden "Management access required for this condo")

def createAccount (condoId : Id) (input : CreateGlAccountDto) : GlCall GlAccount := do
  ensureSeeded condoId
  insertAccount fun id =>
    ⟨id, condoId, String.ofList (trim input.code.toList), input.type, input.fund, input.parentId, true⟩

def updatedAccount (input : UpdateGlAccountDto) (account : GlAccount) : GlAccount :=
  { account with
    active := input.active.getD account.active
    parentId := input.parentId.getD account.parentId }

def writeAccount (accountId : Id) (input : UpdateGlAccountDto) : GlCall Unit := fun db =>
  if ∃ parentId ∈ input.parentId, ∃ id ∈ parentId, db.hasAccount id = false then (.error .foreignKeyViolation, db)
  else (.ok (), { db with accounts := updateBy GlAccount.id accountId (updatedAccount input) db.accounts })

def updateAccount (user : AuthenticatedUser) (accountId : Id) (input : UpdateGlAccountDto) : GlCall Unit := do
  match ← Call.read fun db => db.account? accountId with
  | none => Call.throw (.notFound "GL account not found")
  | some existing =>
      Call.ofResult (assertCondoManagement user existing.condoId)
      writeAccount accountId input

abbrev GlAccountNode := Rose GlAccount

def childrenOf (rows : List GlAccount) (parent : GlAccount) : List GlAccount :=
  rows.filter fun row => row.parentId = some parent.id

def hasParent (rows : List GlAccount) (row : GlAccount) : Bool := rows.any fun other => row.parentId = some other.id

/-- Only what hangs below a root is in the list that is returned. No path down from a root is longer than the
number of rows. -/
def buildTree (rows : List GlAccount) : List GlAccountNode :=
  (rows.filter fun row => !hasParent rows row).map (grow (childrenOf rows) rows.length)

def accountRows (condoId : Id) (db : GlDb) : List GlAccount :=
  (db.accounts.filter fun account => account.condoId = condoId).insertionSort fun a b => a.code ≤ b.code

def listTree (condoId : Id) : GlCall (List GlAccountNode) := do
  ensureSeeded condoId
  let rows ← Call.read (accountRows condoId)
  return buildTree rows

structure JournalLineInput where
  accountId : Id
  debit : ℚ
  credit : ℚ
  fund : LedgerFund

def journalBalanced (lines : List JournalLineInput) : Bool :=
  let debit := (lines.map JournalLineInput.debit).sum
  let credit := (lines.map JournalLineInput.credit).sum
  decide (|(mathRound (debit - credit) : ℚ)| < 1 / 2)

def normalized (lines : List JournalLineInput) : List JournalLineInput :=
  (lines.filter fun line => decide (|line.debit| ≥ 1 / 2 ∨ |line.credit| ≥ 1 / 2)).map fun line =>
    { line with debit := mathRound line.debit, credit := mathRound line.credit }

structure PostEntryOpts where
  condoId : Id
  entryDate : Instant
  sourceType : GlJournalSourceType
  sourceId : Option Id
  postedByUserId : Option Id
  idempotencyKey : Option String
  lines : List JournalLineInput

def postedUnder (key : Option String) (db : GlDb) : Option GlJournalEntry :=
  match key with
  | none => none
  | some text => if text = "" then none else db.entries.find? fun entry => entry.idempotencyKey = some text

def storedLine (id : Id) (line : JournalLineInput) : GlJournalLine :=
  ⟨id, line.accountId, stored line.debit, stored line.credit, line.fund⟩

def PostEntryOpts.row (opts : PostEntryOpts) (lines : List JournalLineInput) (id : Id) : GlJournalEntry where
  id := id
  condoId := opts.condoId
  entryDate := opts.entryDate
  sourceType := opts.sourceType
  sourceId := opts.sourceId
  postedByUserId := opts.postedByUserId
  idempotencyKey := opts.idempotencyKey
  lines := lines.mapIdx fun index line => storedLine (id + 1 + index) line

def insertEntry (opts : PostEntryOpts) (lines : List JournalLineInput) : GlCall GlJournalEntry := fun db =>
  let entry := opts.row lines db.nextId
  if opts.idempotencyKey.isSome ∧ ∃ other ∈ db.entries, other.idempotencyKey = opts.idempotencyKey then
    (.error (.uniqueViolation .idempotencyKey), db)
  else if ∃ line ∈ lines, db.hasAccount line.accountId = false then (.error .foreignKeyViolation, db)
  else (.ok entry, { db with entries := db.entries ++ [entry], nextId := db.nextId + 1 + lines.length })

def postEntry (opts : PostEntryOpts) : GlCall GlJournalEntry := do
  ensureSeeded opts.condoId
  match ← Call.read (postedUnder opts.idempotencyKey) with
  | some existing => return existing
  | none =>
      let lines := normalized opts.lines
      if lines.length < 2 then Call.throw (.badRequest "A journal entry needs at least two lines")
      else if journalBalanced lines = false then Call.throw (.badRequest "Debits must equal credits")
      else insertEntry opts lines

structure JournalLineDto extends JournalLineInput where
  debit_nonneg : 0 ≤ debit
  credit_nonneg : 0 ≤ credit

structure PostManualJournalDto where
  entryDate : Instant
  lines : List JournalLineDto
  idempotencyKey : Option String

def manualOpts (userId condoId : Id) (input : PostManualJournalDto) : PostEntryOpts where
  condoId := condoId
  entryDate := input.entryDate
  sourceType := .manual
  sourceId := none
  postedByUserId := some userId
  idempotencyKey := input.idempotencyKey
  lines := input.lines.map JournalLineDto.toJournalLineInput

def postManual (user : AuthenticatedUser) (condoId : Id) (input : PostManualJournalDto) : GlCall GlJournalEntry :=
  postEntry (manualOpts user.id condoId input)

end SmartResidence.Accounting
