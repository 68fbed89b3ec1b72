import SmartResidence.Foundation.Aborts
import SmartResidence.Accounting.GlPosting
import SmartResidence.Billing.Operations

/-!
# The postings of `ledger.service.ts`

`recordInvoiceCharges` and `recordPaymentAllocation` also post to the general ledger, in the same transaction.
-/

namespace SmartResidence.Accounting

open Foundation Billing

structure Books where
  billing : Db
  gl : GlDb

def chargeOpts (now : Instant) (invoice : Invoice) (lines : List ChargeLine) (actorUserId : Option Id) :
    PostInvoiceChargesOpts where
  now := now
  invoiceId := invoice.id
  condoId := invoice.condoId
  issuedAt := invoice.issuedAt
  lines := lines.map fun line => ⟨line.code, line.amount⟩
  actorUserId := actorUserId

def allocationOpts (invoice : Invoice) (paymentId : Id) (amount : ℤ) (occurredAt : Instant)
    (actorUserId : Option Id) : PostPaymentOpts where
  now := occurredAt
  paymentId := paymentId
  condoId := invoice.condoId
  allocations := ((allocationsOf invoice.lines amount).filter fun allocation => allocation.2 ≠ 0).map
    fun allocation => (allocation.1, (allocation.2 : ℚ))
  occurredAt := some occurredAt
  actorUserId := actorUserId

def storedLines (draft : InvoiceDraft) : List ChargeLine :=
  draft.lines.map fun line => { line with amount := stored line.amount }

/-- `create` and `createInvoiceInTx` charge the lines as they are stored, `generateRecurring` as it computed them. -/
def chargedLines (op : Op) (draft : InvoiceDraft) : List ChargeLine :=
  match op with
  | .generateRecurring _ _ _ _ => draft.lines
  | _ => storedLines draft

theorem chargedLines_eq_nil {op : Op} {draft : InvoiceDraft} : chargedLines op draft = [] ↔ draft.lines = [] := by
  cases op <;> simp [chargedLines, storedLines]

namespace Books

variable (env : Env) (books : Books)

def recordInvoiceCharges (now : Instant) (invoice : Invoice) (lines : List ChargeLine)
    (actorUserId : Option Id) : Books :=
  if lines = [] then books
  else {
    billing := Billing.recordInvoiceCharges now books.billing invoice lines actorUserId
    gl := (postInvoiceCharges env (chargeOpts now invoice lines actorUserId) books.gl).2 }

def recordPaymentAllocation (invoiceId paymentId : Id) (amount : ℤ) (occurredAt : Instant)
    (actorUserId : Option Id) : Books :=
  match books.billing.invoice? invoiceId with
  | none => books
  | some invoice => {
      billing := Billing.recordPaymentAllocation books.billing invoiceId paymentId amount occurredAt actorUserId
      gl := (postPayment env (allocationOpts invoice paymentId amount occurredAt actorUserId) books.gl).2 }

end Books

def isAccount (gl : GlDb) (condoId : Id) (code : String) (accountId : Id) : Bool :=
  gl.accounts.any fun account =>
    decide (account.id = accountId ∧ account.condoId = condoId ∧ account.code = code)

def accountBalance (gl : GlDb) (condoId : Id) (code : String) : ℤ :=
  sumBy (fun line => line.debit - line.credit)
    (gl.journalLines.filter fun line => isAccount gl condoId code line.accountId)

def fundBalanceOn (gl : GlDb) (condoId : Id) (code : String) (fund : LedgerFund) : ℤ :=
  sumBy (fun line => line.debit - line.credit)
    (gl.journalLines.filter fun line => isAccount gl condoId code line.accountId && decide (line.fund = fund))

/-!
## Transactions that post

`postInvoiceCharges` and `postPayment` make their statements on the client of the transaction that calls them.
-/

abbrev GlProgram := Program GlDb GlError

namespace OnClient

def seedRows (condoId : Id) : List CoaTemplateRow → List (String × Id) → GlProgram Unit
  | [], _ => return
  | row :: rest, idByCode => do
      let parentId := row.parentCode.bind fun code => lookup code idByCode
      let created ← Program.statement <|
        insertAccount fun id => ⟨id, condoId, row.code, row.type, row.fund, parentId, true⟩
      seedRows condoId rest (idByCode ++ [(row.code, created.id)])

def ensureSeeded (condoId : Id) : GlProgram Unit := do
  let existing ← Program.query fun db => db.accounts.countP fun account => account.condoId = condoId
  if existing > 0 then return
  else seedRows condoId malaysianJmbCoa []

/-- `findUnique`, when there is a key to look for. -/
def findPosted (key : Option String) : GlProgram (Option GlJournalEntry) :=
  if key.getD "" = "" then return none else Program.query (postedUnder key)

def postEntry (opts : PostEntryOpts) : GlProgram GlJournalEntry := do
  ensureSeeded opts.condoId
  match ← findPosted opts.idempotencyKey with
  | some existing => return existing
  | none =>
      let lines := normalized opts.lines
      if lines.length < 2 then Program.throw (.badRequest "A journal entry needs at least two lines")
      else if journalBalanced lines = false then Program.throw (.badRequest "Debits must equal credits")
      else Program.statement (insertEntry opts lines)

def post (condoId : Id) (lines : List GlAccount → List JournalLineInput)
    (opts : List JournalLineInput → PostEntryOpts) : GlProgram (Option GlJournalEntry) := do
  ensureSeeded condoId
  let rows ← Program.query (accountCodes condoId)
  if lines rows = [] then return none
  else
    let entry ← postEntry (opts (lines rows))
    return some entry

def logged (program : GlProgram (Option GlJournalEntry)) : GlProgram (Option GlJournalEntry) := do
  match ← Program.attempt program with
  | .ok entry => return entry
  | .error _ => return none

def postInvoiceCharges (env : Env) (opts : PostInvoiceChargesOpts) : GlProgram (Option GlJournalEntry) :=
  logged <| post opts.condoId (fun rows => fundPairs rows receivableCode incomeCode (chargesByFund opts.lines))
    fun lines => {
      condoId := opts.condoId
      entryDate := opts.issuedAt.getD opts.now
      sourceType := .invoice
      sourceId := some opts.invoiceId
      postedByUserId := opts.actorUserId
      idempotencyKey := some (invoiceKey env opts.invoiceId)
      lines := lines }

def postPayment (env : Env) (opts : PostPaymentOpts) : GlProgram (Option GlJournalEntry) :=
  logged <| post opts.condoId (fun rows => fundPairs rows bankCode receivableCode opts.allocations) fun lines => {
    condoId := opts.condoId
    entryDate := opts.occurredAt.getD opts.now
    sourceType := .payment
    sourceId := some opts.paymentId
    postedByUserId := opts.actorUserId
    idempotencyKey := some (paymentKey env opts.paymentId)
    lines := lines }

end OnClient

inductive Posting
  | invoiceCharges (opts : PostInvoiceChargesOpts)
  | payment (opts : PostPaymentOpts)

def Posting.program (env : Env) : Posting → GlProgram (Option GlJournalEntry)
  | .invoiceCharges opts => OnClient.postInvoiceCharges env opts
  | .payment opts => OnClient.postPayment env opts

def Posting.condoId : Posting → Id
  | .invoiceCharges opts => opts.condoId
  | .payment opts => opts.condoId

def Posting.key (env : Env) : Posting → String
  | .invoiceCharges opts => invoiceKey env opts.invoiceId
  | .payment opts => paymentKey env opts.paymentId

abbrev BillingTx := Transaction Db ApiError Posting

namespace InTx

def recordInvoiceCharges (now : Instant) (invoice : Invoice) (lines : List ChargeLine) (actorUserId : Option Id) :
    BillingTx Unit := do
  if lines = [] then return
  else
    Transaction.change fun db => .ok (Billing.recordInvoiceCharges now db invoice lines actorUserId)
    Transaction.beside (.invoiceCharges (chargeOpts now invoice lines actorUserId))

/-- The insert and the charges, whose lines are those of the draft as they were computed or as they are stored. -/
def issueInvoice (now : Instant) (draft : InvoiceDraft) (lines : List ChargeLine) (actorUserId : Option Id) :
    BillingTx Invoice := do
  let invoice ← Transaction.call fun db => do
    let inserted ← db.insertInvoice (draft.row now)
    return (inserted, draft.row now db.nextId)
  recordInvoiceCharges now invoice lines actorUserId
  return invoice

def recordPaymentAllocation (invoiceId paymentId : Id) (amount : ℤ) (occurredAt : Instant)
    (actorUserId : Option Id) : BillingTx Unit := do
  match ← Transaction.look fun db => db.invoice? invoiceId with
  | none => return
  | some invoice =>
      Transaction.change fun db =>
        .ok (Billing.recordPaymentAllocation db invoiceId paymentId amount occurredAt actorUserId)
      Transaction.beside (.payment (allocationOpts invoice paymentId amount occurredAt actorUserId))

def settleInvoice (now : Instant) (invoiceId paymentId : Id) (actorUserId : Option Id) : BillingTx (Option Bool) := do
  let paid ← Transaction.look fun db => paidSoFar db invoiceId
  match ← Transaction.look fun db => db.invoice? invoiceId with
  | none => return none
  | some invoice =>
      Transaction.change fun db => db.updateInvoice invoice (settled now paid)
      match ← Transaction.look fun db => db.payment? paymentId with
      | none => return some (decide (paid ≥ invoice.total))
      | some payment =>
          recordPaymentAllocation invoiceId paymentId payment.amount (payment.paidAt.getD now) actorUserId
          if payment.metadata.method = some "PREPAYMENT_APPLIED" then return some (decide (paid ≥ invoice.total))
          else
            Transaction.change fun db => issueInTx db {
              condoId := invoice.condoId
              kind := .payment
              amount := payment.amount
              issuedToUserId := payment.userId
              unitId := some invoice.unitId
              paymentId := some payment.id
              depositId := none }
            return some (decide (paid ≥ invoice.total))

def insertPayment (row : Id → Payment) : BillingTx Id :=
  Transaction.call fun db => .ok (db.insertPayment row, db.nextId)

def issueChunk (now : Instant) (condoId : Id) (dto : GenerateRecurringDto) (actorUserId : Option Id) :
    List PlannedBill → BillingTx (List CreatedInvoice)
  | [] => return []
  | plan :: rest => do
      let draft := plan.draft condoId dto
      let invoice ← issueInvoice now draft draft.lines actorUserId
      let rows ← issueChunk now condoId dto actorUserId rest
      return ⟨invoice.id, plan.unitId⟩ :: rows

/-- The transaction of `markPaymentSucceeded`. -/
def confirmPaymentInTx (now : Instant) (payment : Payment) : BillingTx Unit := do
  let pending ← Transaction.call fun db =>
    .ok (db.updatePayments (isPending payment.id) (succeed now), db.payments.any (isPending payment.id))
  if pending = false then return
  else
    Transaction.change fun db => .ok (db.updatePayments
      (fun row => isPendingFor payment.invoiceId row && decide (row.id ≠ payment.id))
      fun row => { row with status := .cancelled })
    let _ ← settleInvoice now payment.invoiceId payment.id payment.userId
    return

/-- The transaction of `recordManualPayment`, once the request is checked. -/
def recordManualPaymentInTx (now : Instant) (actorId invoiceId : Id) (amount : ℚ) (dto : RecordManualPaymentDto) :
    BillingTx Unit := do
  let paymentId ← insertPayment (manualPayment now invoiceId actorId amount dto)
  let _ ← settleInvoice now invoiceId paymentId (some actorId)
  return

/-- The transaction of `applyCreditToInvoice`. -/
def applyCreditInTx (now : Instant) (invoiceId unitId condoId : Id) : BillingTx Unit := do
  let credit ← Transaction.look fun db => db.getCredit unitId
  if (credit : ℚ) ≤ 1 / 2 then return
  else
    match ← Transaction.look fun db => db.invoice? invoiceId with
    | none => return
    | some invoice =>
        if invoice.status = .void ∨ invoice.status = .paid then return
        else
          let apply := min credit (invoice.total - invoice.amountPaid)
          if (apply : ℚ) ≤ 1 / 2 then return
          else
            let paymentId ← insertPayment (creditPayment now invoiceId apply)
            let _ ← settleInvoice now invoiceId paymentId none
            Transaction.change fun db => db.consumeCredit unitId apply
            Transaction.change fun db =>
              .ok (db.record (prepaymentAppliedPosting now condoId unitId invoiceId paymentId apply))

end InTx

inductive PostingTx
  | create (actorUserId condoId : Id) (dto : CreateInvoiceDto)
  | createInvoiceInTx (before : Db → Result Db) (opts : CreateInvoiceInTxOpts) (after : Invoice → Db → Result Db)
  | generateRecurring (condoId : Id) (dto : GenerateRecurringDto) (actorUserId : Option Id)
      (pending : List PlannedBill)
  | markPaymentSucceeded (payment : Payment)
  | recordManualPayment (actorId invoiceId : Id) (amount : ℚ) (dto : RecordManualPaymentDto)
  | applyCreditToInvoice (invoiceId unitId condoId : Id)

def PostingTx.body (now : Instant) : PostingTx → BillingTx Unit
  | .create actorUserId condoId dto => do
      let draft := dto.draft condoId
      let _ ← InTx.issueInvoice now draft (storedLines draft) (some actorUserId)
      return
  | .createInvoiceInTx before opts after => do
      Transaction.change before
      let draft := opts.draft now
      let invoice ← InTx.issueInvoice now draft (storedLines draft) opts.actorUserId
      Transaction.change (after invoice)
  | .generateRecurring condoId dto actorUserId pending => do
      let _ ← InTx.issueChunk now condoId dto actorUserId pending
      return
  | .markPaymentSucceeded payment => InTx.confirmPaymentInTx now payment
  | .recordManualPayment actorId invoiceId amount dto => InTx.recordManualPaymentInTx now actorId invoiceId amount dto
  | .applyCreditToInvoice invoiceId unitId condoId => InTx.applyCreditInTx now invoiceId unitId condoId

end SmartResidence.Accounting
