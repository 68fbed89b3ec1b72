import SmartResidence.Billing.Sessions
import SmartResidence.Foundation.SteadyScripts

/-!
# The due sweep and voiding as SQL sessions
-/

namespace SmartResidence.Billing

open Foundation

namespace Sql

def recordEach : List LedgerPosting → Sql Unit
  | [] => return
  | posting :: rest => do
      record posting
      recordEach rest

def reverseInvoiceCharges (now : Instant) (invoice : Invoice) (actorUserId : Option Id) : Sql Unit := do
  let charges ← Script.read fun db => (chargesOf db invoice.id).insertionSort fun a b => a.occurredAt ≤ b.occurredAt
  recordEach (charges.map (voidPosting now invoice actorUserId))

def voidedRow (now : Instant) (invoice row : Invoice) : Invoice :=
  { row with status := .void, voidedAt := some now, dueSoonNotifiedAt := invoice.dueSoonNotifiedAt }

def voidInvoiceInTx (now : Instant) (invoice : Invoice) (actorId : Id) : Sql Unit := do
  let _ ← updatePayments (isPendingFor invoice.id) cancelled
  reverseInvoiceCharges now invoice (some actorId)
  Script.write [.invoice invoice.id] fun db => db.changeInvoice invoice.id (voidedRow now invoice)

def voidInvoice (now : Instant) (actor : AuthenticatedUser) (invoiceId : Id) : Sql Unit := do
  let found ← Script.read fun db => getInvoice db invoiceId (some actor)
  let invoice ← check found
  check (assertCondoManagement actor invoice.condoId true)
  check (throwIf (invoice.status = .paid) (.badRequest "Cannot void a fully paid invoice"))
  check (throwIf ((invoice.amountPaid : ℚ) > 1 / 2)
    (.badRequest "Cannot void an invoice with payments; issue a refund or adjustment first"))
  if invoice.status = .void then return
  else Script.transaction (voidInvoiceInTx now invoice actor.id)

def voidUnpaidInvoiceInTx (now : Instant) (invoiceId : Id) (actorUserId : Option Id) : Sql Bool := do
  match ← Script.read fun db => db.invoice? invoiceId with
  | none => return false
  | some invoice =>
      if invoice.status = .void then return true
      else if (invoice.amountPaid : ℚ) > 1 / 2 ∨ invoice.status = .paid then return false
      else
        reverseInvoiceCharges now invoice actorUserId
        Script.write [.invoice invoiceId] fun db => db.changeInvoice invoiceId (voided now)
        return true

end Sql

inductive SweepStatement
  | marksOverdue (ids : List Id)

/-- An invoice that a bulk update has marked, with the status it had; `invoice.overdue` is emitted for it. -/
structure Marked where
  invoiceId : Id
  status : InvoiceStatus
  deriving DecidableEq

abbrev SweptDb := Db × List Marked

abbrev SweepSql := Script SweptDb Lock SweepStatement ApiError

def overdueRow (invoice : Invoice) : Invoice := { invoice with status := .overdue }

def Db.markOverdue (ids : List Id) (db : Db) : Db :=
  { db with invoices := updateWhere (fun invoice => decide (invoice.id ∈ ids)) overdueRow db.invoices }

def Db.markedBy (ids : List Id) (db : Db) : List Marked :=
  (db.invoices.filter fun invoice => decide (invoice.id ∈ ids)).map fun invoice => ⟨invoice.id, invoice.status⟩

def notifiedRow (now : Instant) (invoice : Invoice) : Invoice := { invoice with dueSoonNotifiedAt := some now }

namespace SweepSql

def check {Value : Type} (result : Result Value) : SweepSql Value := .stop result

def updateOverdue (ids : List Id) : SweepSql Unit :=
  Script.statement (some (.marksOverdue ids)) (fun _ => ids.map Lock.invoice)
    (fun _ both => (both.1.markOverdue ids, both.2 ++ both.1.markedBy ids)) fun view =>
      throwIf (∃ invoice ∈ view.1.invoices, invoice.id ∈ ids ∧
          (view.1.markOverdue ids).activePeriodTaken invoice.unitId invoice.periodStart (some invoice.id) = true)
        (.uniqueViolation .invoicesActivePeriod)

def notifyEach (now : Instant) : List Id → SweepSql Unit
  | [] => return
  | id :: rest => do
      Script.transaction (Script.write [.invoice id] fun both => (both.1.changeInvoice id (notifiedRow now), both.2))
      notifyEach now rest

def runDueSweep (now : Instant) (actor : AuthenticatedUser) (condoId : Id) : SweepSql Unit := do
  check (assertCondoManagement actor condoId true)
  let overdue ← Script.read fun both => (both.1.invoices.filter (isOverdue now condoId)).map Invoice.id
  if overdue ≠ [] then Script.transaction (updateOverdue overdue)
  let dueSoon ← Script.read fun both => (both.1.invoices.filter (isDueSoon now condoId)).map Invoice.id
  notifyEach now dueSoon

end SweepSql

inductive SweepRequest
  | runDueSweep (now : Instant) (actor : AuthenticatedUser) (condoId : Id)
  | recordManualPayment (now : Instant) (actor : AuthenticatedUser) (invoiceId : Id)
      (dto : RecordManualPaymentDto)
  | markPaymentSucceeded (now : Instant) (ref : String)
  | recordPrepayment (now : Instant) (actor : AuthenticatedUser) (dto : RecordPrepaymentDto)
  | markAdvancePaymentSucceeded (now : Instant) (ref : String)
  | applyCreditToInvoice (now : Instant) (invoiceId unitId condoId : Id)
  | applyCreditToOutstanding (now : Instant) (unitId condoId : Id)
  | voidInvoice (now : Instant) (actor : AuthenticatedUser) (invoiceId : Id)
  | voidUnpaidInvoiceInTx (now : Instant) (invoiceId : Id) (actorUserId : Option Id)

def SweepRequest.script (env : Env) : SweepRequest → SweepSql Unit
  | .runDueSweep now actor condoId => SweepSql.runDueSweep now actor condoId
  | .recordManualPayment now actor invoiceId dto => (Sql.recordManualPayment now actor invoiceId dto).beside
  | .markPaymentSucceeded now ref => (Sql.markPaymentSucceeded env now ref).beside
  | .recordPrepayment now actor dto => (Sql.recordPrepayment now actor dto).beside
  | .markAdvancePaymentSucceeded now ref => (Sql.markAdvancePaymentSucceeded env now ref).beside
  | .applyCreditToInvoice now invoiceId unitId condoId =>
      (Sql.applyCreditToInvoice now invoiceId unitId condoId).beside
  | .applyCreditToOutstanding now unitId condoId => (Sql.applyCreditToOutstanding now unitId condoId).beside
  | .voidInvoice now actor invoiceId => (Sql.voidInvoice now actor invoiceId).beside
  | .voidUnpaidInvoiceInTx now invoiceId actorUserId =>
      (Script.transaction do
        let _ ← Sql.voidUnpaidInvoiceInTx now invoiceId actorUserId
        return).beside

end SmartResidence.Billing
