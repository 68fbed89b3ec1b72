import SmartResidence.Billing.Operations
import SmartResidence.Proof.LedgerEntries

/-!
# What one committed transaction does
-/

namespace SmartResidence.Billing

open Foundation

def succeededAfter (db : Db) (payment : Payment) : ℤ :=
  sumBy Payment.amount (db.payments.filter fun other =>
    decide (other.invoiceId = payment.invoiceId ∧ other.status = .succeeded ∧ payment.id < other.id))

inductive Change
  | issued (draft : InvoiceDraft)
  | paymentsMarked
  | paymentOpened (invoice : Invoice)
  | confirmed (payment : Payment) (later : ℤ)
  | manual (invoice : Invoice) (amount : ℚ) (method : Option String)
  | creditApplied (invoice : Invoice) (condoId : Id) (amount : ℤ)
  | advancesMarked
  | advanceOpened (amount : ℚ)
  | advanceConfirmed (advance : AdvancePayment)
  | prepaid (condoId unitId : Id) (amount : ℚ)
  | voided (invoice : Invoice) (pendingLeft : Bool)
  | invoicesMarked
  | depositHeld (condoId unitId : Id) (amount : ℚ)
  | depositRefunded (deposit : Deposit) (amount : ℚ)
  | depositForfeited (deposit : Deposit) (amount : ℚ)

def Change.Whole : Change → Prop
  | .issued draft => ∀ line ∈ draft.lines, Foundation.Whole line.amount
  | .manual _ amount _ => Foundation.Whole amount
  | .advanceOpened amount => Foundation.Whole amount
  | .prepaid _ _ amount => Foundation.Whole amount
  | .depositHeld _ _ amount => Foundation.Whole amount
  | .depositRefunded _ amount => Foundation.Whole amount
  | .depositForfeited _ amount => Foundation.Whole amount
  | _ => True

def Change.refundedFrom (depositId : Id) : Change → ℤ
  | .depositRefunded deposit amount => if deposit.id = depositId then stored amount else 0
  | _ => 0

def Change.forfeitedFrom (depositId : Id) : Change → ℤ
  | .depositForfeited deposit amount => if deposit.id = depositId then stored amount else 0
  | _ => 0

structure QuietPayment (old new : Payment) : Prop where
  id : new.id = old.id
  invoiceId : new.invoiceId = old.invoiceId
  amount : new.amount = old.amount
  provider : new.provider = old.provider
  method : new.metadata.method = old.metadata.method
  status : new.status = old.status ∨
    ((old.status = .pending ∨ old.status = .failed) ∧ (new.status = .failed ∨ new.status = .cancelled))

structure QuietAdvance (old new : AdvancePayment) : Prop where
  id : new.id = old.id
  condoId : new.condoId = old.condoId
  unitId : new.unitId = old.unitId
  amount : new.amount = old.amount
  status : new.status = old.status ∨
    (old.status = .pending ∧ (new.status = .failed ∨ new.status = .cancelled))

structure QuietInvoice (old new : Invoice) : Prop where
  id : new.id = old.id
  condoId : new.condoId = old.condoId
  unitId : new.unitId = old.unitId
  periodStart : new.periodStart = old.periodStart
  total : new.total = old.total
  amountPaid : new.amountPaid = old.amountPaid
  lines : new.lines = old.lines
  status : new.status = old.status ∨
    ((old.status = .issued ∨ old.status = .partlyPaid) ∧ new.status = .overdue)

def returnStatus (deposit : Deposit) (refunded forfeited : ℚ) : DepositStatus :=
  refundStatus ⟨refunded + forfeited, refunded, forfeited, deposit.amount - refunded - forfeited⟩

structure ReturnedDeposit (old new : Deposit) (refunded forfeited : ℚ) : Prop where
  id : new.id = old.id
  condoId : new.condoId = old.condoId
  unitId : new.unitId = old.unitId
  amount : new.amount = old.amount
  refundedAmount : new.refundedAmount = stored refunded
  forfeitedAmount : new.forfeitedAmount = stored forfeited
  status : new.status = returnStatus old refunded forfeited ∨ new.status = .refunded ∧
    refunded = old.refundedAmount + depositHeldAmount old ∧ forfeited = old.forfeitedAmount

def refundReceipts (receipts : List Receipt) : ℤ :=
  sumBy Receipt.amount (receipts.filter fun receipt => decide (receipt.kind = .refund))

def settledBy (now : Instant) (db : Db) (invoice : Invoice) (payment : Payment) (actorUserId : Option Id)
    (receipts : List Receipt) (nextId : Id) : Db :=
  { db with
    invoices := updateBy Invoice.id invoice.id (settled now (paidSoFar db invoice.id)) db.invoices
    ledgerEntries := appendPostings db.ledgerEntries
      (paymentPostings invoice payment.id payment.amount (payment.paidAt.getD now) actorUserId)
    receipts := receipts
    nextId := nextId }

def confirming (now : Instant) (db : Db) (payment : Payment) : Db :=
  (db.updatePayments (isPending payment.id) (succeed now)).updatePayments
    (fun row => isPendingFor payment.invoiceId row && decide (row.id ≠ payment.id))
    fun row => { row with status := .cancelled }

inductive Commit (db : Db) : Change → Db → Prop
  | issued {now : Instant} {draft : InvoiceDraft} {actorUserId : Option Id}
      (free : db.activePeriodTaken draft.unitId draft.periodStart none = false) :
      Commit db (.issued draft) { db with
        invoices := db.invoices ++ [draft.row now db.nextId]
        nextId := db.nextId + 1
        ledgerEntries := appendPostings db.ledgerEntries
          (chargePostings now (draft.row now db.nextId) actorUserId draft.lines) }
  | paymentsMarked {chosen : Payment → Bool} {change : Payment → Payment}
      (quiet : ∀ payment ∈ db.payments, chosen payment → QuietPayment payment (change payment)) :
      Commit db .paymentsMarked (db.updatePayments chosen change)
  | paymentOpened {now : Instant} {userId : Id} {invoice : Invoice} {provider : PaymentProvider}
      (found : invoice ∈ db.invoices) (active : invoice.status ≠ .void)
      (owed : 0 < invoice.total - invoice.amountPaid)
      (alone : ∀ payment ∈ db.payments, isPendingFor invoice.id payment = false) :
      Commit db (.paymentOpened invoice) (db.insertPayment
        (pendingPayment now invoice.id userId (invoice.total - invoice.amountPaid) provider))
  | confirmed {now : Instant} {payment : Payment} {invoice : Invoice} {receipts : List Receipt}
      {nextId : Id} (member : payment ∈ db.payments) (pending : payment.status = .pending)
      (found : invoice ∈ db.invoices) (owner : invoice.id = payment.invoiceId)
      (grows : db.nextId ≤ nextId) :
      Commit db (.confirmed payment (succeededAfter db payment))
        (settledBy now (confirming now db payment) invoice (succeed now payment) payment.userId
          receipts nextId)
  | manual {now : Instant} {actorId : Id} {invoice : Invoice} {amount : ℚ}
      {dto : RecordManualPaymentDto} {receipts : List Receipt} {nextId : Id}
      (found : invoice ∈ db.invoices) (active : invoice.status ≠ .void) (positive : 0 < amount)
      (bounded : amount ≤ ((invoice.total - invoice.amountPaid : ℤ) : ℚ) + 1 / 2)
      (grows : db.nextId < nextId) :
      Commit db (.manual invoice amount dto.method)
        (settledBy now (db.insertPayment (manualPayment now invoice.id actorId amount dto)) invoice
          (manualPayment now invoice.id actorId amount dto db.nextId) (some actorId) receipts nextId)
  | creditApplied {now : Instant} {invoice : Invoice} {condoId : Id} {amount : ℤ}
      {receipts : List Receipt} {nextId : Id} (found : invoice ∈ db.invoices)
      (active : invoice.status ≠ .void) (positive : 0 < amount)
      (bounded : amount ≤ invoice.total - invoice.amountPaid)
      (covered : amount ≤ db.getCredit invoice.unitId) (grows : db.nextId < nextId) :
      Commit db (.creditApplied invoice condoId amount)
        (((settledBy now (db.insertPayment (creditPayment now invoice.id amount)) invoice
          (creditPayment now invoice.id amount db.nextId) none receipts nextId).incrementCredit
            invoice.unitId (- amount)).record
          (prepaymentAppliedPosting now condoId invoice.unitId invoice.id db.nextId amount))
  | advancesMarked {chosen : AdvancePayment → Bool} {change : AdvancePayment → AdvancePayment}
      (quiet : ∀ advance ∈ db.advancePayments, chosen advance → QuietAdvance advance (change advance)) :
      Commit db .advancesMarked (db.updateAdvancePayments chosen change)
  | advanceOpened {now : Instant} {condoId userId : Id} {dto : CreateAdvancePaymentDto} :
      Commit db (.advanceOpened dto.amount)
        (db.insertAdvancePayment (pendingAdvance now condoId userId dto))
  | advanceConfirmed {now : Instant} {advance : AdvancePayment} {receipts : List Receipt} {nextId : Id}
      (member : advance ∈ db.advancePayments) (pending : advance.status = .pending)
      (grows : db.nextId ≤ nextId) :
      Commit db (.advanceConfirmed advance)
        ((({ db.updateAdvancePayments (isPendingAdvance advance.id) (succeedAdvance now) with
              receipts := receipts, nextId := nextId } : Db).record
            (advancePosting now (succeedAdvance now advance))).addCredit
          advance.condoId advance.unitId advance.amount)
  | prepaid {now : Instant} {condoId actorId : Id} {dto : RecordPrepaymentDto}
      {receipts : List Receipt} (positive : 0 < dto.amount) :
      Commit db (.prepaid condoId dto.unitId dto.amount)
        ((({ db with receipts := receipts, nextId := db.nextId + 1 } : Db).record
            (prepaymentPosting now condoId dto.unitId db.nextId actorId dto.amount)).addCredit
          condoId dto.unitId (stored dto.amount))
  | voided {now : Instant} {invoice : Invoice} {actorUserId : Option Id} (found : invoice ∈ db.invoices)
      (active : invoice.status ≠ .void) (unpaid : invoice.amountPaid ≤ 0) :
      Commit db (.voided invoice (db.payments.any (isPendingFor invoice.id))) { db with
        ledgerEntries := appendPostings db.ledgerEntries
          (voidPostings now db.ledgerEntries invoice actorUserId)
        invoices := updateBy Invoice.id invoice.id (voided now) db.invoices }
  | invoicesMarked {chosen : Invoice → Bool} {change : Invoice → Invoice}
      (quiet : ∀ invoice ∈ db.invoices, chosen invoice → QuietInvoice invoice (change invoice)) :
      Commit db .invoicesMarked { db with invoices := updateWhere chosen change db.invoices }
  | depositHeld {now : Instant} {input : RecordDepositInput} {receipts : List Receipt} {nextId : Id}
      (grows : db.nextId < nextId) :
      Commit db (.depositHeld input.condoId input.unitId input.amount)
        (({ db with
            deposits := db.deposits ++ [input.row now db.nextId]
            receipts := receipts
            nextId := nextId } : Db).record (depositHeldPosting now input db.nextId))
  | depositRefunded {now : Instant} {deposit : Deposit} {actorUserId : Option Id} {amount : ℚ}
      {change : Deposit → Deposit} {receipts : List Receipt} {nextId : Id}
      (member : deposit ∈ db.deposits) (positive : 0 < amount)
      (bounded : amount ≤ (depositHeldAmount deposit : ℚ) + 1 / 2)
      (returned : ReturnedDeposit deposit (change deposit) (deposit.refundedAmount + amount)
        deposit.forfeitedAmount)
      (keeps : ∀ row, (change row).id = row.id) (grows : db.nextId ≤ nextId)
      (issued : refundReceipts receipts = refundReceipts db.receipts + stored amount) :
      Commit db (.depositRefunded deposit amount)
        (({ db.updateDeposit deposit.id change with receipts := receipts, nextId := nextId } : Db).record
          (depositPosting now deposit actorUserId .deposit .refund (- amount)
            (.depositRefund deposit.id (deposit.refundedAmount + amount))))
  | depositForfeited {now : Instant} {deposit : Deposit} {actorUserId : Option Id} {amount : ℚ}
      {change : Deposit → Deposit} (member : deposit ∈ db.deposits) (positive : 0 < amount)
      (bounded : amount ≤ (depositHeldAmount deposit : ℚ) + 1 / 2)
      (returned : ReturnedDeposit deposit (change deposit) deposit.refundedAmount
        (deposit.forfeitedAmount + amount))
      (keeps : ∀ row, (change row).id = row.id) :
      Commit db (.depositForfeited deposit amount)
        (((db.updateDeposit deposit.id change).record
          (depositPosting now deposit actorUserId .deposit .adjustment (- amount)
            (.depositForfeitLiability deposit.id (deposit.forfeitedAmount + amount)))).record
          (depositPosting now deposit actorUserId .general .adjustment amount
            (.depositForfeitIncome deposit.id (deposit.forfeitedAmount + amount))))

inductive DepositOrigin (db : Db) (change : Change) (row : Deposit) : Prop
  | kept (found : row ∈ db.deposits) (refunded : change.refundedFrom row.id = 0)
      (forfeited : change.forfeitedFrom row.id = 0)
  | refunded (old : Deposit) (amount : ℚ) (found : old ∈ db.deposits)
      (same : change = .depositRefunded old amount) (positive : 0 < amount)
      (bounded : amount ≤ (depositHeldAmount old : ℚ) + 1 / 2)
      (returned : ReturnedDeposit old row (old.refundedAmount + amount) old.forfeitedAmount)
  | forfeited (old : Deposit) (amount : ℚ) (found : old ∈ db.deposits)
      (same : change = .depositForfeited old amount) (positive : 0 < amount)
      (bounded : amount ≤ (depositHeldAmount old : ℚ) + 1 / 2)
      (returned : ReturnedDeposit old row old.refundedAmount (old.forfeitedAmount + amount))
  | recorded (now : Instant) (input : RecordDepositInput)
      (same : change = .depositHeld input.condoId input.unitId input.amount)
      (new : row = input.row now db.nextId)

end SmartResidence.Billing
