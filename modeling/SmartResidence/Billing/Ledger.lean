import Mathlib.Data.List.Sort
import Mathlib.Data.List.Infix
import SmartResidence.Billing.Schema

/-!
# `ledger.service.ts` and `receipt.service.ts`
-/

namespace SmartResidence.Billing

open Foundation

/-- The letters that `toUpperCase` maps to something with an ASCII letter in it. -/
def upperChar (c : Char) : List Char :=
  match c with
  | 'ſ' => ['S']
  | 'ı' => ['I']
  | 'ß' => ['S', 'S']
  | 'ŉ' => ['ʼ', 'N']
  | 'ǰ' => ['J', '\u030c']
  | 'ẖ' => ['H', '\u0331']
  | 'ẗ' => ['T', '\u0308']
  | 'ẘ' => ['W', '\u030a']
  | 'ẙ' => ['Y', '\u030a']
  | 'ẚ' => ['A', 'ʾ']
  | 'ﬀ' => ['F', 'F']
  | 'ﬁ' => ['F', 'I']
  | 'ﬂ' => ['F', 'L']
  | 'ﬃ' => ['F', 'F', 'I']
  | 'ﬄ' => ['F', 'F', 'L']
  | 'ﬅ' => ['S', 'T']
  | 'ﬆ' => ['S', 'T']
  | _ => [c.toUpper]

/-- `String.prototype.toUpperCase`, exact on the letters it maps to ASCII. -/
def toUpperCase (s : String) : List Char := s.toList.flatMap upperChar

def includes (text word : List Char) : Bool := decide (word <:+: text)

def fundOfCode (code : String) : LedgerFund :=
  if includes (toUpperCase code) ['S', 'I', 'N', 'K'] then .sinkingFund
  else if includes (toUpperCase code) ['M', 'A', 'I', 'N', 'T'] then .maintenance
  else .general

def appendPosting (entries : List LedgerEntry) (posting : LedgerPosting) : List LedgerEntry :=
  if posting.idempotencyKey.isSome ∧
      ∃ entry ∈ entries, entry.idempotencyKey = posting.idempotencyKey then entries
  else entries ++ [{ posting with id := entries.length }]

namespace Db

def record (db : Db) (posting : LedgerPosting) : Db :=
  { db with ledgerEntries := appendPosting db.ledgerEntries posting }

def recordMany (db : Db) (postings : List LedgerPosting) : Db :=
  { db with ledgerEntries := postings.foldl appendPosting db.ledgerEntries }

end Db

structure ChargeLine where
  code : String
  description : String
  amount : ℚ
  fund : Option LedgerFund

def chargePosting (invoice : Invoice) (occurredAt : Instant) (actorUserId : Option Id)
    (index : Nat) (line : ChargeLine) : LedgerPosting where
  condoId := invoice.condoId
  unitId := some invoice.unitId
  fund := line.fund.getD (fundOfCode line.code)
  type := .charge
  amount := stored line.amount
  idempotencyKey := some (.invoiceCharge invoice.id index)
  source := .invoice invoice.id
  occurredAt := occurredAt
  createdByUserId := actorUserId

def recordInvoiceCharges (now : Instant) (db : Db) (invoice : Invoice) (lines : List ChargeLine)
    (actorUserId : Option Id) : Db :=
  db.recordMany (lines.mapIdx (chargePosting invoice (invoice.issuedAt.getD now) actorUserId))

def voidPosting (now : Instant) (invoice : Invoice) (actorUserId : Option Id) (charge : LedgerEntry) :
    LedgerPosting where
  condoId := invoice.condoId
  unitId := some invoice.unitId
  fund := charge.fund
  type := .adjustment
  amount := - charge.amount
  idempotencyKey := some (.invoiceVoid invoice.id charge.id)
  source := .invoice invoice.id
  occurredAt := now
  createdByUserId := actorUserId

def chargesOf (db : Db) (invoiceId : Id) : List LedgerEntry :=
  db.ledgerEntries.filter fun entry =>
    decide (entry.source = .invoice invoiceId ∧ entry.type = .charge)

def reverseInvoiceCharges (now : Instant) (db : Db) (invoice : Invoice) (actorUserId : Option Id) : Db :=
  let charges := (chargesOf db invoice.id).insertionSort fun a b => a.occurredAt ≤ b.occurredAt
  db.recordMany (charges.map (voidPosting now invoice actorUserId))

/-- Adds to the value under a key, keeping the order of first insertion of a `Map`. -/
def addToFund (byFund : List (LedgerFund × ℤ)) (fund : LedgerFund) (amount : ℤ) :
    List (LedgerFund × ℤ) :=
  match byFund with
  | [] => [(fund, amount)]
  | (other, total) :: rest =>
      if other = fund then (other, total + amount) :: rest
      else (other, total) :: addToFund rest fund amount

def linesByFund (lines : List InvoiceLine) : List (LedgerFund × ℤ) :=
  lines.foldl (fun byFund line => addToFund byFund (fundOfCode line.code) line.amount) []

def lineTotal (lines : List InvoiceLine) : ℤ := sumBy InvoiceLine.amount lines

def shareOut (amount total allocated : ℤ) : List (LedgerFund × ℤ) → List (LedgerFund × ℤ)
  | [] => []
  | [(fund, _)] => [(fund, amount - allocated)]
  | (fund, fundTotal) :: next :: rest =>
      let share := mathRound ((amount : ℚ) * fundTotal / total)
      (fund, share) :: shareOut amount total (allocated + share) (next :: rest)

def allocationsOf (lines : List InvoiceLine) (amount : ℤ) : List (LedgerFund × ℤ) :=
  if 0 < lineTotal lines then shareOut amount (lineTotal lines) 0 (linesByFund lines)
  else [(.general, amount)]

def paymentPosting (invoice : Invoice) (paymentId : Id) (occurredAt : Instant)
    (actorUserId : Option Id) (allocation : LedgerFund × ℤ) : LedgerPosting where
  condoId := invoice.condoId
  unitId := some invoice.unitId
  fund := allocation.1
  type := .payment
  amount := allocation.2
  idempotencyKey := some (.payment paymentId allocation.1)
  source := .payment paymentId
  occurredAt := occurredAt
  createdByUserId := actorUserId

def recordPaymentAllocation (db : Db) (invoiceId paymentId : Id) (amount : ℤ)
    (occurredAt : Instant) (actorUserId : Option Id) : Db :=
  match db.invoice? invoiceId with
  | none => db
  | some invoice =>
      let shares := (allocationsOf invoice.lines amount).filter fun allocation => allocation.2 ≠ 0
      db.recordMany (shares.map (paymentPosting invoice paymentId occurredAt actorUserId))

def incrementAccount (accounts : List UnitAccount) (unitId : Id) (amount : ℤ) : List UnitAccount :=
  updateBy UnitAccount.unitId unitId
    (fun account => { account with creditBalance := account.creditBalance + amount }) accounts

def upsertAccount (accounts : List UnitAccount) (condoId unitId : Id) (amount : ℤ) :
    List UnitAccount :=
  match findBy UnitAccount.unitId unitId accounts with
  | some _ => incrementAccount accounts unitId amount
  | none => accounts ++ [⟨condoId, unitId, amount⟩]

namespace Db

def getCredit (db : Db) (unitId : Id) : ℤ :=
  match db.unitAccount? unitId with
  | some account => account.creditBalance
  | none => 0

def incrementCredit (db : Db) (unitId : Id) (amount : ℤ) : Db :=
  { db with unitAccounts := incrementAccount db.unitAccounts unitId amount }

def addCredit (db : Db) (condoId unitId : Id) (amount : ℤ) : Db :=
  { db with unitAccounts := upsertAccount db.unitAccounts condoId unitId amount }

def consumeCredit (db : Db) (unitId : Id) (amount : ℤ) : Result Db := do
  throwIf (∀ account ∈ db.unitAccount? unitId, account.creditBalance < amount)
    (.badRequest "Insufficient unit credit")
  return db.incrementCredit unitId (- amount)

end Db

def fundBalance (db : Db) (condoId : Id) (fund : LedgerFund) : ℤ :=
  sumBy (fun entry => entry.amount) (db.ledgerEntries.filter fun entry =>
    decide (entry.condoId = condoId ∧ entry.fund = fund ∧ entry.type ≠ .charge))

def ledgerFunds : List LedgerFund := [.maintenance, .sinkingFund, .deposit, .general]

def fundBalances (db : Db) (condoId : Id) : List (LedgerFund × ℤ) :=
  ledgerFunds.map fun fund => (fund, mathRound (fundBalance db condoId fund))

structure UnitStatementEntry where
  occurredAt : Instant
  type : LedgerEntryType
  fund : LedgerFund
  charge : ℤ
  payment : ℤ
  balance : ℤ
  deriving DecidableEq

structure UnitStatementInRange where
  unitId : Id
  creditBalance : ℤ
  totalOutstanding : ℤ
  openingBalance : ℤ
  closingBalance : ℤ
  entries : List UnitStatementEntry
  deriving DecidableEq

def applyLedgerEntry (balance : ℤ) (entry : LedgerEntry) : UnitStatementEntry :=
  let charge := if entry.type = .charge then entry.amount else 0
  let payment := if entry.type = .charge then 0 else entry.amount
  { occurredAt := entry.occurredAt
    type := entry.type
    fund := entry.fund
    charge := charge
    payment := payment
    balance := mathRound (balance + charge - payment) }

structure StatementCursor where
  balance : ℤ
  openingBalance : ℤ
  entries : List UnitStatementEntry

def statementStep (start stop : Instant) (cursor : StatementCursor) (entry : LedgerEntry) :
    StatementCursor :=
  let line := applyLedgerEntry cursor.balance entry
  if entry.occurredAt < start then
    { cursor with balance := line.balance, openingBalance := line.balance }
  else if entry.occurredAt ≤ stop then
    { cursor with balance := line.balance, entries := cursor.entries ++ [line] }
  else { cursor with balance := line.balance }

def unitLedger (db : Db) (unitId : Id) : List LedgerEntry :=
  db.ledgerEntries.filter fun entry => decide (entry.unitId = some unitId ∧ entry.type ≠ .deposit)

def unitStatementInRange (db : Db) (unitId : Id) (start stop : Instant) : UnitStatementInRange :=
  let ordered := (unitLedger db unitId).insertionSort fun a b => a.occurredAt ≤ b.occurredAt
  let last := ordered.foldl (statementStep start stop) ⟨0, 0, []⟩
  { unitId := unitId
    creditBalance := db.getCredit unitId
    totalOutstanding := mathRound last.balance
    openingBalance := last.openingBalance
    closingBalance := match last.entries.getLast? with
      | some line => line.balance
      | none => last.openingBalance
    entries := last.entries }

structure UnitStatement where
  unitId : Id
  creditBalance : ℤ
  totalOutstanding : ℤ
  entries : List UnitStatementEntry
  deriving DecidableEq

def unitStatement (db : Db) (unitId : Id) : UnitStatement :=
  let full := unitStatementInRange db unitId 0 8640000000000000
  ⟨full.unitId, full.creditBalance, full.totalOutstanding, full.entries⟩

structure IssueReceiptInput where
  condoId : Id
  kind : ReceiptKind
  amount : ℚ
  issuedToUserId : Option Id
  unitId : Option Id
  paymentId : Option Id
  depositId : Option Id

/-- `ReceiptService.issueInTx`: the new receipt has the next id. -/
def issueInTx (db : Db) (input : IssueReceiptInput) : Result Db := do
  let _ ← orThrow (db.condo? input.condoId) (.notFound "Condo not found")
  throwIf (input.paymentId.isSome ∧ ∃ receipt ∈ db.receipts, receipt.paymentId = input.paymentId)
    (.uniqueViolation .receiptsPayment)
  throwIf (input.depositId.isSome ∧ ∃ receipt ∈ db.receipts, receipt.depositId = input.depositId)
    (.uniqueViolation .receiptsDeposit)
  return { db with
    receipts := db.receipts ++ [{
      id := db.nextId
      condoId := input.condoId
      kind := input.kind
      amount := stored input.amount
      issuedToUserId := input.issuedToUserId
      unitId := input.unitId
      paymentId := input.paymentId
      depositId := input.depositId }]
    nextId := db.nextId + 1 }

end SmartResidence.Billing
