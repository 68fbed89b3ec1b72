import SmartResidence.Billing.Payments
import SmartResidence.Billing.Deposits
import SmartResidence.Foundation.ReadCommitted

/-!
# The operations as SQL sessions

The statements of an operation in their order, those of a `$transaction` together.
-/

namespace SmartResidence.Billing

open Foundation

inductive Lock
  | invoice (id : Id)
  | activePeriod (unitId : Id) (periodStart : Instant)
  | payment (id : Id)
  | advancePayment (id : Id)
  | unitAccount (unitId : Id)
  | deposit (id : Id)
  | receiptNumbers (condoId : Id)
  | receiptOfPayment (paymentId : Id)
  | receiptOfDeposit (depositId : Id)
  | ledgerKey (key : IdempotencyKey)
  | newId (id : Id)
  deriving DecidableEq

inductive Statement
  | settlesInvoice (invoiceId : Id)
  | returnsDeposit (depositId : Id) (amount : ℚ)

abbrev Sql := Script Db Lock Statement ApiError

def IdempotencyKey.ids : IdempotencyKey → List Id
  | .invoiceCharge invoiceId _ => [invoiceId]
  | .invoiceVoid invoiceId _ => [invoiceId]
  | .payment paymentId _ => [paymentId]
  | .prepayment receiptId => [receiptId]
  | .advancePaymentCredit advanceId => [advanceId]
  | .invoicePrepayment invoiceId paymentId => [invoiceId, paymentId]
  | .depositHeld depositId => [depositId]
  | .depositRefund depositId _ => [depositId]
  | .depositForfeitLiability depositId _ => [depositId]
  | .depositForfeitIncome depositId _ => [depositId]

namespace Db

variable (db : Db)

def ledgerKeys : List IdempotencyKey := db.ledgerEntries.filterMap fun entry => entry.idempotencyKey

def usesId (id : Id) : Bool :=
  decide (id ∈ db.invoices.map Invoice.id ++ db.payments.map Payment.id ++
    db.advancePayments.map AdvancePayment.id ++ db.receipts.map Receipt.id ++
    db.deposits.map Deposit.id ++ db.ledgerKeys.flatMap IdempotencyKey.ids)

def addPayment (payment : Payment) : Db :=
  { db with payments := db.payments ++ [payment], nextId := max db.nextId (payment.id + 1) }

def addReceipt (receipt : Receipt) : Db :=
  { db with receipts := db.receipts ++ [receipt], nextId := max db.nextId (receipt.id + 1) }

end Db

namespace Sql

def newId : Sql Id := Script.newId Db.usesId Lock.newId

def check {Value : Type} (result : Result Value) : Sql Value := .stop result

def keyLocks (postings : List LedgerPosting) : List Lock :=
  (postings.filterMap LedgerPosting.idempotencyKey).map Lock.ledgerKey

def record (posting : LedgerPosting) : Sql Unit :=
  Script.write (keyLocks [posting]) fun db => db.record posting

def recordMany (postings : List LedgerPosting) : Sql Unit :=
  Script.write (keyLocks postings) fun db => db.recordMany postings

def receiptRow (input : IssueReceiptInput) (id : Id) : Receipt where
  id := id
  condoId := input.condoId
  kind := input.kind
  amount := stored input.amount
  issuedToUserId := input.issuedToUserId
  unitId := input.unitId
  paymentId := input.paymentId
  depositId := input.depositId

def receiptLocks (input : IssueReceiptInput) : List Lock :=
  (input.paymentId.map Lock.receiptOfPayment).toList ++
    (input.depositId.map Lock.receiptOfDeposit).toList

def issueInTx (input : IssueReceiptInput) : Sql Id := do
  let condo ← Script.read fun db => db.condo? input.condoId
  let _ ← check (orThrow condo (.notFound "Condo not found"))
  -- `nextReceiptNumber` locks the condo's row in the number sequence
  Script.write [.receiptNumbers input.condoId] id
  let id ← newId
  Script.statement none (fun _ => receiptLocks input) (fun _ db => db.addReceipt (receiptRow input id))
    fun db => do
      throwIf (input.paymentId.isSome ∧ ∃ receipt ∈ db.receipts, receipt.paymentId = input.paymentId)
        (.uniqueViolation .receiptsPayment)
      throwIf (input.depositId.isSome ∧ ∃ receipt ∈ db.receipts, receipt.depositId = input.depositId)
        (.uniqueViolation .receiptsDeposit)
  return id

/-! ## Settling an invoice in `billing.service.ts` -/

/-- `updateMany`: the rows that match are locked and changed, and counted. -/
def updatePayments (chosen : Payment → Bool) (change : Payment → Payment) : Sql ℕ :=
  Script.statement none (fun db => (db.payments.filter chosen).map fun row => .payment row.id)
    (fun view db =>
      let matching := (view.payments.filter chosen).map Payment.id
      db.updatePayments (fun row => decide (row.id ∈ matching)) change)
    fun view => .ok (view.payments.countP chosen)

def insertPayment (row : Id → Payment) : Sql Id := do
  let id ← newId
  Script.write [.payment id] fun db => db.addPayment (row id)
  return id

def recordPaymentAllocation (invoiceId paymentId : Id) (amount : ℤ) (occurredAt : Instant)
    (actorUserId : Option Id) : Sql Unit := do
  match ← Script.read fun db => db.invoice? invoiceId with
  | none => return
  | some invoice =>
      let shares := (allocationsOf invoice.lines amount).filter fun allocation => allocation.2 ≠ 0
      recordMany (shares.map (paymentPosting invoice paymentId occurredAt actorUserId))

/-- The columns that `settleInvoice` writes, from the invoice it has read. -/
def settledRow (now : Instant) (paid : ℤ) (invoice row : Invoice) : Invoice :=
  { row with
    amountPaid := paid
    status := settledStatus invoice paid
    paidAt := if paid ≥ invoice.total then some now else none }

def settledLocks (invoice : Invoice) (paid : ℤ) : List Lock :=
  .invoice invoice.id :: if settledStatus invoice paid = .void then []
    else [.activePeriod invoice.unitId invoice.periodStart]

/-- What `settleInvoice` records of the payment once the invoice is written. -/
def bookPayment (now : Instant) (invoice : Invoice) (paymentId : Id) (actorUserId : Option Id) :
    Sql Unit := do
  match ← Script.read fun db => db.payment? paymentId with
  | none => return
  | some payment =>
      recordPaymentAllocation invoice.id paymentId payment.amount (payment.paidAt.getD now) actorUserId
      if payment.metadata.method = some "PREPAYMENT_APPLIED" then return
      else
        let _ ← issueInTx {
          condoId := invoice.condoId
          kind := .payment
          amount := payment.amount
          issuedToUserId := payment.userId
          unitId := some invoice.unitId
          paymentId := some payment.id
          depositId := none }

def settleInvoice (now : Instant) (invoiceId paymentId : Id) (actorUserId : Option Id) : Sql Unit := do
  let paid ← Script.read fun db => paidSoFar db invoiceId
  match ← Script.statement (some (.settlesInvoice invoiceId)) (fun _ => []) (fun _ db => db)
      fun db => .ok (db.invoice? invoiceId) with
  | none => return
  | some invoice =>
      Script.statement (some (.settlesInvoice invoiceId)) (fun _ => settledLocks invoice paid)
        (fun _ db => db.changeInvoice invoiceId (settledRow now paid invoice)) fun db =>
          throwIf (settledStatus invoice paid ≠ .void ∧
              db.activePeriodTaken invoice.unitId invoice.periodStart (some invoice.id))
            (.uniqueViolation .invoicesActivePeriod)
      bookPayment now invoice paymentId actorUserId

def recordManualPayment (now : Instant) (actor : AuthenticatedUser) (invoiceId : Id)
    (dto : RecordManualPaymentDto) : Sql Unit := do
  let found ← Script.read fun db => getInvoice db invoiceId (some actor)
  let invoice ← check found
  check (assertCondoManagement actor invoice.condoId true)
  check (throwIf (invoice.status = .void) (.badRequest "Cannot record a payment on a voided invoice"))
  check (throwIf (invoice.status = .paid) (.badRequest "Invoice is already fully paid"))
  check (throwIf (manualAmount invoice dto ≤ 0)
    (.badRequest "Payment amount must be greater than zero"))
  check (throwIf (manualAmount invoice dto > ((invoice.total - invoice.amountPaid : ℤ) : ℚ) + 1 / 2)
    (.badRequest "Payment exceeds the outstanding balance"))
  Script.transaction do
    let paymentId ← insertPayment
      (manualPayment now invoice.id actor.id (manualAmount invoice dto) dto)
    settleInvoice now invoice.id paymentId (some actor.id)

def cancelled (row : Payment) : Payment := { row with status := .cancelled }

def confirmPaymentInTx (now : Instant) (payment : Payment) : Sql Unit := do
  let transitioned ← updatePayments (isPending payment.id) (succeed now)
  if transitioned = 0 then return
  else
    let _ ← updatePayments
      (fun row => isPendingFor payment.invoiceId row && decide (row.id ≠ payment.id)) cancelled
    let _ ← Script.read fun db => db.payment? payment.id
    settleInvoice now payment.invoiceId payment.id payment.userId

def markPaymentSucceeded (env : Env) (now : Instant) (ref : String) : Sql Unit := do
  match ← Script.read fun db => findPaymentByProviderRef env db ref with
  | none => return
  | some payment =>
      if payment.status = .succeeded then return
      else Script.transaction (confirmPaymentInTx now payment)

/-! ## Credit in `billing.service.ts` and `ledger.service.ts` -/

def getCredit (unitId : Id) : Sql ℤ := Script.read fun db => db.getCredit unitId

def addCredit (condoId unitId : Id) (amount : ℤ) : Sql Unit :=
  Script.write [.unitAccount unitId] fun db => db.addCredit condoId unitId amount

def hasCredit (unitId : Id) (amount : ℤ) (db : Db) : Bool :=
  (db.unitAccount? unitId).any fun account => decide (amount ≤ account.creditBalance)

def consumeCredit (unitId : Id) (amount : ℤ) : Sql Unit :=
  Script.statement none (fun db => if hasCredit unitId amount db then [.unitAccount unitId] else [])
    (fun _ db => db.incrementCredit unitId (- amount)) fun db =>
      throwIf (hasCredit unitId amount db = false) (.badRequest "Insufficient unit credit")

/-- The transaction of `applyCreditToInvoice`. -/
def applyCreditInTx (now : Instant) (invoiceId unitId condoId : Id) : Sql Unit := do
  let credit ← getCredit unitId
  if (credit : ℚ) ≤ 1 / 2 then return
  else match ← Script.read fun db => db.invoice? invoiceId with
    | none => return
    | some invoice =>
        if invoice.status = .void ∨ invoice.status = .paid then return
        else
          let apply := min credit (invoice.total - invoice.amountPaid)
          if (apply : ℚ) ≤ 1 / 2 then return
          else
            let paymentId ← insertPayment (creditPayment now invoiceId apply)
            settleInvoice now invoiceId paymentId none
            consumeCredit unitId apply
            record (prepaymentAppliedPosting now condoId unitId invoiceId paymentId apply)

def applyCreditToInvoice (now : Instant) (invoiceId unitId condoId : Id) : Sql Unit := do
  let credit ← getCredit unitId
  if (credit : ℚ) ≤ 1 / 2 then return
  else Script.transaction (applyCreditInTx now invoiceId unitId condoId)

def applyCreditToEach (now : Instant) (unitId condoId : Id) : List Id → Sql Unit
  | [] => return
  | invoiceId :: rest => do
      let credit ← getCredit unitId
      if (credit : ℚ) ≤ 1 / 2 then return
      else
        applyCreditToInvoice now invoiceId unitId condoId
        applyCreditToEach now unitId condoId rest

def applyCreditToOutstanding (now : Instant) (unitId condoId : Id) : Sql Unit := do
  let invoices ← Script.read fun db => outstandingInvoices db unitId
  applyCreditToEach now unitId condoId (invoices.map Invoice.id)

def recordPrepaymentInTx (now : Instant) (actorId condoId : Id) (dto : RecordPrepaymentDto) :
    Sql Unit := do
  let receiptId ← issueInTx {
    condoId := condoId
    kind := .payment
    amount := dto.amount
    issuedToUserId := dto.userId
    unitId := some dto.unitId
    paymentId := none
    depositId := none }
  record (prepaymentPosting now condoId dto.unitId receiptId actorId dto.amount)
  addCredit condoId dto.unitId (stored dto.amount)

def recordPrepayment (now : Instant) (actor : AuthenticatedUser) (dto : RecordPrepaymentDto) :
    Sql Unit := do
  let row ← Script.read fun db => db.unit? dto.unitId
  let unit ← check (orThrow row (.notFound "Unit not found"))
  check (assertCondoManagement actor unit.condoId true)
  check (throwIf (dto.amount ≤ 0) (.badRequest "Amount must be greater than zero"))
  Script.transaction (recordPrepaymentInTx now actor.id unit.condoId dto)
  applyCreditToOutstanding now unit.id unit.condoId

def updateAdvancePayments (chosen : AdvancePayment → Bool)
    (change : AdvancePayment → AdvancePayment) : Sql ℕ :=
  Script.statement none
    (fun db => (db.advancePayments.filter chosen).map fun row => .advancePayment row.id)
    (fun view db =>
      let matching := (view.advancePayments.filter chosen).map AdvancePayment.id
      db.updateAdvancePayments (fun row => decide (row.id ∈ matching)) change)
    fun view => .ok (view.advancePayments.countP chosen)

/-- The transaction of `markAdvancePaymentSucceeded`; it returns the updated row. -/
def confirmAdvanceInTx (now : Instant) (advance : AdvancePayment) : Sql (Option AdvancePayment) := do
  let transitioned ← updateAdvancePayments (isPendingAdvance advance.id) (succeedAdvance now)
  if transitioned = 0 then return none
  else match ← Script.read fun db => db.advancePayment? advance.id with
    | none => return none
    | some updated =>
        let _ ← issueInTx {
          condoId := updated.condoId
          kind := .payment
          amount := updated.amount
          issuedToUserId := updated.userId
          unitId := some updated.unitId
          paymentId := none
          depositId := none }
        record (advancePosting now updated)
        addCredit updated.condoId updated.unitId updated.amount
        return some updated

def markAdvancePaymentSucceeded (env : Env) (now : Instant) (ref : String) : Sql Unit := do
  match ← Script.read fun db => findAdvancePaymentByProviderRef env db ref with
  | none => return
  | some advance =>
      if advance.status = .succeeded then return
      else match ← Script.transaction (confirmAdvanceInTx now advance) with
        | none => return
        | some updated => applyCreditToOutstanding now updated.unitId updated.condoId

def updateDeposit (depositId : Id) (amount : ℚ) (change : Deposit → Deposit) : Sql Unit :=
  Script.statement (some (.returnsDeposit depositId amount)) (fun _ => [.deposit depositId])
    (fun _ db => db.updateDeposit depositId change) fun _ => .ok ()

def heldRefundedRow (now : Instant) (refunded : ℤ) (row : Deposit) : Deposit :=
  { row with refundedAmount := refunded, status := .refunded, refundedAt := some now }

def refundHeldInTx (now : Instant) (depositId : Id) (actorUserId : Option Id) : Sql ℤ := do
  match ← Script.read fun db => db.deposit? depositId with
  | none => return 0
  | some deposit =>
      let held := depositHeldAmount deposit
      if (held : ℚ) ≤ 1 / 2 then return 0
      else
        let refunded := deposit.refundedAmount + held
        updateDeposit depositId held (heldRefundedRow now refunded)
        let _ ← issueInTx (refundReceipt deposit held)
        record (depositPosting now deposit actorUserId .deposit .refund (-held)
          (.depositRefund depositId refunded))
        return held

def returnedRow (now : Instant) (deposit : Deposit) (figures : RefundFigures) (row : Deposit) : Deposit :=
  { row with
    refundedAmount := stored figures.newRefunded
    forfeitedAmount := stored figures.newForfeited
    status := refundStatus figures
    refundedAt := if figures.remaining ≤ 1 / 2 then some now else deposit.refundedAt }

def refundInTx (now : Instant) (actorId : Id) (deposit : Deposit) (dto : RefundDepositDto) :
    Sql Unit := do
  let figures := refundFigures deposit dto
  updateDeposit deposit.id figures.amount (returnedRow now deposit figures)
  if dto.forfeit then
    record (depositPosting now deposit (some actorId) .deposit .adjustment (- figures.amount)
      (.depositForfeitLiability deposit.id figures.newForfeited))
    record (depositPosting now deposit (some actorId) .general .adjustment figures.amount
      (.depositForfeitIncome deposit.id figures.newForfeited))
  else
    let _ ← issueInTx (refundReceipt deposit figures.amount)
    record (depositPosting now deposit (some actorId) .deposit .refund (- figures.amount)
      (.depositRefund deposit.id figures.newRefunded))

def refund (now : Instant) (actor : AuthenticatedUser) (id : Id) (dto : RefundDepositDto) :
    Sql Unit := do
  let row ← Script.read fun db => db.deposit? id
  let deposit ← check (orThrow row (.notFound "Deposit not found"))
  check (assertDepositManagement actor deposit.condoId)
  check (throwIf (depositHeldAmount deposit ≤ 0) (.badRequest "Nothing left to refund on this deposit"))
  check (throwIf ((refundFigures deposit dto).amount ≤ 0)
    (.badRequest "Refund amount must be greater than zero"))
  check (throwIf ((refundFigures deposit dto).amount > (depositHeldAmount deposit : ℚ) + 1 / 2)
    (.badRequest "Refund exceeds the held balance"))
  Script.transaction (refundInTx now actor.id deposit dto)

end Sql

inductive DepositReturn
  | refund (now : Instant) (actor : AuthenticatedUser) (dto : RefundDepositDto)
  | refundHeldInTx (now : Instant) (actorUserId : Option Id)

def DepositReturn.script (depositId : Id) : DepositReturn → Sql Unit
  | .refund now actor dto => Sql.refund now actor depositId dto
  | .refundHeldInTx now actorUserId => do
      let _ ← Script.transaction (Sql.refundHeldInTx now depositId actorUserId)

end SmartResidence.Billing
