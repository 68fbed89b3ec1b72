import SmartResidence.Billing.Ledger

/-!
# Invoices in `billing.service.ts`
-/

namespace SmartResidence.Billing

open Foundation

def isSuperAdmin (r : RoleAssignment) : Bool := decide (r.roleId = .superAdmin)

def assertCondoManagement (user : AuthenticatedUser) (condoId : Id) (adminOnly : Bool) : Result Unit :=
  throwIf (¬ user.roles.any fun r =>
      isSuperAdmin r || decide (r.roleId = .managementAdmin ∧ r.condoId = some condoId) ||
      (!adminOnly && decide (r.roleId = .managementStaff ∧ r.condoId = some condoId)))
    (.forbidden "You cannot manage billing for this condo")

def canReadUnitMoney (user : AuthenticatedUser) (condoId unitId : Id) : Bool :=
  user.roles.any fun r =>
    isSuperAdmin r ||
    decide ((r.roleId = .managementAdmin ∨ r.roleId = .managementStaff) ∧ r.condoId = some condoId) ||
    decide (r.unitId = some unitId)

def canPay (user : AuthenticatedUser) (condoId unitId : Id) : Bool :=
  user.roles.any fun r =>
    isSuperAdmin r || decide (r.roleId = .managementAdmin ∧ r.condoId = some condoId) ||
    decide (r.roleId = .unitOwner ∧ r.unitId = some unitId)

def assertCanPayInvoice (user : AuthenticatedUser) (invoice : Invoice) : Result Unit :=
  throwIf (¬ canPay user invoice.condoId invoice.unitId) (.forbidden "You cannot pay this invoice")

def assertCanPayUnit (user : AuthenticatedUser) (condoId unitId : Id) : Result Unit :=
  throwIf (¬ canPay user condoId unitId)
    (.forbidden "You cannot make an advance payment for this unit")

def getInvoice (db : Db) (id : Id) (actor : Option AuthenticatedUser) : Result Invoice := do
  let invoice ← orThrow (db.invoice? id) (.notFound "Invoice not found")
  throwIf (∃ user ∈ actor, ¬ canReadUnitMoney user invoice.condoId invoice.unitId)
    (.forbidden "You cannot access this invoice")
  return invoice

structure InvoiceLineDto where
  code : String
  description : String
  unitPrice : ℚ
  quantity : Option ℚ
  unitPrice_nonneg : 0 ≤ unitPrice
  quantity_nonneg : 0 ≤ quantity.getD 1

def InvoiceLineDto.amount (line : InvoiceLineDto) : ℚ := line.unitPrice * line.quantity.getD 1

def InvoiceLineDto.toCharge (line : InvoiceLineDto) : ChargeLine :=
  ⟨line.code, line.description, line.amount, none⟩

structure InvoiceDraft where
  condoId : Id
  unitId : Id
  periodStart : Instant
  periodEnd : Instant
  dueDate : Instant
  lines : List ChargeLine

def InvoiceDraft.subtotal (draft : InvoiceDraft) : ℚ := (draft.lines.map ChargeLine.amount).sum

def InvoiceDraft.row (draft : InvoiceDraft) (now : Instant) (id : Id) : Invoice where
  id := id
  condoId := draft.condoId
  unitId := draft.unitId
  periodStart := draft.periodStart
  periodEnd := draft.periodEnd
  dueDate := draft.dueDate
  status := .issued
  issuedAt := some now
  subtotal := stored draft.subtotal
  total := stored draft.subtotal
  amountPaid := 0
  paidAt := none
  voidedAt := none
  lines := draft.lines.mapIdx fun i line => ⟨line.code, line.description, stored line.amount, i⟩
  dueSoonNotifiedAt := none

/-- The insert and the charges that `create`, `createInvoiceInTx` and `generateRecurring` share. -/
def issueInvoice (now : Instant) (db : Db) (draft : InvoiceDraft) (actorUserId : Option Id) :
    Result (Db × Invoice) := do
  let inserted ← db.insertInvoice (draft.row now)
  let invoice := draft.row now db.nextId
  return (recordInvoiceCharges now inserted invoice draft.lines actorUserId, invoice)

structure CreateInvoiceInTxOpts where
  condoId : Id
  unitId : Id
  dueDate : Instant
  periodStart : Option Instant
  periodEnd : Option Instant
  lines : List InvoiceLineDto
  actorUserId : Option Id

def CreateInvoiceInTxOpts.draft (opts : CreateInvoiceInTxOpts) (now : Instant) : InvoiceDraft where
  condoId := opts.condoId
  unitId := opts.unitId
  periodStart := opts.periodStart.getD now
  periodEnd := opts.periodEnd.getD opts.dueDate
  dueDate := opts.dueDate
  lines := opts.lines.map InvoiceLineDto.toCharge

def createInvoiceInTx (now : Instant) (db : Db) (opts : CreateInvoiceInTxOpts) :
    Result (Db × Invoice) :=
  issueInvoice now db (opts.draft now) opts.actorUserId

def paidSoFar (db : Db) (invoiceId : Id) : ℤ :=
  sumBy Payment.amount (db.payments.filter fun payment =>
    decide (payment.invoiceId = invoiceId ∧ payment.status = .succeeded))

def settledStatus (invoice : Invoice) (paid : ℤ) : InvoiceStatus :=
  if paid ≥ invoice.total then .paid else if paid > 0 then .partlyPaid else invoice.status

def settled (now : Instant) (paid : ℤ) (invoice : Invoice) : Invoice :=
  { invoice with
    amountPaid := paid
    status := settledStatus invoice paid
    paidAt := if paid ≥ invoice.total then some now else none }

def settleInvoice (now : Instant) (db : Db) (invoiceId paymentId : Id) (actorUserId : Option Id) :
    Result (Db × Option Bool) := do
  let paid := paidSoFar db invoiceId
  match db.invoice? invoiceId with
  | none => return (db, none)
  | some invoice =>
      let updated ← db.updateInvoice invoice (settled now paid)
      match updated.payment? paymentId with
      | none => return (updated, some (decide (paid ≥ invoice.total)))
      | some payment =>
          let allocated := recordPaymentAllocation updated invoiceId paymentId payment.amount
            (payment.paidAt.getD now) actorUserId
          if payment.metadata.method = some "PREPAYMENT_APPLIED" then
            return (allocated, some (decide (paid ≥ invoice.total)))
          let receipted ← issueInTx allocated {
            condoId := invoice.condoId
            kind := .payment
            amount := payment.amount
            issuedToUserId := payment.userId
            unitId := some invoice.unitId
            paymentId := some payment.id
            depositId := none }
          return (receipted, some (decide (paid ≥ invoice.total)))

def creditPayment (now : Instant) (invoiceId : Id) (apply : ℤ) (id : Id) : Payment where
  id := id
  invoiceId := invoiceId
  userId := none
  amount := apply
  status := .succeeded
  provider := .manual
  providerRef := none
  metadata := { PaymentMetadata.empty with method := some "PREPAYMENT_APPLIED" }
  paidAt := some now
  createdAt := now

def prepaymentAppliedPosting (now : Instant) (condoId unitId invoiceId paymentId : Id) (apply : ℤ) :
    LedgerPosting where
  condoId := condoId
  unitId := some unitId
  fund := .general
  type := .prepaymentApplied
  amount := - apply
  idempotencyKey := some (.invoicePrepayment invoiceId paymentId)
  source := .invoice invoiceId
  occurredAt := now
  createdByUserId := none

def applyCreditInTx (now : Instant) (db : Db) (invoiceId unitId condoId : Id) (apply : ℤ) :
    Result Db := do
  let created := db.insertPayment (creditPayment now invoiceId apply)
  let (settledDb, _) ← settleInvoice now created invoiceId db.nextId none
  let consumed ← settledDb.consumeCredit unitId apply
  return consumed.record (prepaymentAppliedPosting now condoId unitId invoiceId db.nextId apply)

def applyCreditToInvoice (now : Instant) (db : Db) (invoiceId unitId condoId : Id) : Result Db := do
  let credit := db.getCredit unitId
  if (credit : ℚ) ≤ 1 / 2 then return db
  match db.invoice? invoiceId with
  | none => return db
  | some invoice =>
      if invoice.status = .void ∨ invoice.status = .paid then return db
      let apply := min credit (invoice.total - invoice.amountPaid)
      if (apply : ℚ) ≤ 1 / 2 then return db
      applyCreditInTx now db invoiceId unitId condoId apply

def applyCreditToEach (now : Instant) (db : Db) (unitId condoId : Id) : List Id → Result Db
  | [] => return db
  | invoiceId :: rest => do
      if (db.getCredit unitId : ℚ) ≤ 1 / 2 then return db
      let applied ← applyCreditToInvoice now db invoiceId unitId condoId
      applyCreditToEach now applied unitId condoId rest

def outstandingInvoices (db : Db) (unitId : Id) : List Invoice :=
  (db.invoices.filter fun invoice => decide (invoice.unitId = unitId ∧
    (invoice.status = .issued ∨ invoice.status = .partlyPaid ∨ invoice.status = .overdue))).insertionSort
      fun a b => a.dueDate ≤ b.dueDate

def applyCreditToOutstanding (now : Instant) (db : Db) (unitId condoId : Id) : Result Db :=
  applyCreditToEach now db unitId condoId ((outstandingInvoices db unitId).map Invoice.id)

structure CreateInvoiceDto where
  unitId : Id
  periodStart : Instant
  periodEnd : Instant
  dueDate : Instant
  lines : List InvoiceLineDto

def CreateInvoiceDto.draft (dto : CreateInvoiceDto) (condoId : Id) : InvoiceDraft where
  condoId := condoId
  unitId := dto.unitId
  periodStart := dto.periodStart
  periodEnd := dto.periodEnd
  dueDate := dto.dueDate
  lines := dto.lines.map InvoiceLineDto.toCharge

def create (now : Instant) (db : Db) (actor : AuthenticatedUser) (dto : CreateInvoiceDto) :
    Result (Db × Invoice) := do
  let unit ← orThrow (db.unit? dto.unitId) (.notFound "Unit not found")
  assertCondoManagement actor unit.condoId true
  let (issued, invoice) ← issueInvoice now db (dto.draft unit.condoId) (some actor.id)
  let applied ← applyCreditToInvoice now issued invoice.id invoice.unitId invoice.condoId
  return (applied, invoice)

def voided (now : Instant) (invoice : Invoice) : Invoice :=
  { invoice with status := .void, voidedAt := some now }

def voidUnpaidInvoiceInTx (now : Instant) (db : Db) (invoiceId : Id) (actorUserId : Option Id) :
    Result (Db × Bool) :=
  match db.invoice? invoiceId with
  | none => return (db, false)
  | some invoice => do
      if invoice.status = .void then return (db, true)
      if (invoice.amountPaid : ℚ) > 1 / 2 ∨ invoice.status = .paid then return (db, false)
      let reversed := reverseInvoiceCharges now db invoice actorUserId
      let updated ← reversed.updateInvoice invoice (voided now)
      return (updated, true)

def isPendingFor (invoiceId : Id) (payment : Payment) : Bool :=
  decide (payment.invoiceId = invoiceId ∧ payment.status = .pending)

def cancelStalePendingPayments (db : Db) (invoiceId : Id) : Db :=
  db.updatePayments (isPendingFor invoiceId) fun payment => { payment with status := .cancelled }

def voidInvoice (now : Instant) (db : Db) (actor : AuthenticatedUser) (invoiceId : Id) : Result Db := do
  let invoice ← getInvoice db invoiceId (some actor)
  assertCondoManagement actor invoice.condoId true
  throwIf (invoice.status = .paid) (.badRequest "Cannot void a fully paid invoice")
  throwIf ((invoice.amountPaid : ℚ) > 1 / 2)
    (.badRequest "Cannot void an invoice with payments; issue a refund or adjustment first")
  if invoice.status = .void then return db
  let cancelled := cancelStalePendingPayments db invoiceId
  let reversed := reverseInvoiceCharges now cancelled invoice (some actor.id)
  reversed.updateInvoice invoice (voided now)

def dueSoonWindowDays : Int := 5

def isOverdue (now : Instant) (condoId : Id) (invoice : Invoice) : Bool :=
  decide (invoice.condoId = condoId ∧ (invoice.status = .issued ∨ invoice.status = .partlyPaid) ∧
    invoice.dueDate < now)

def isDueSoon (now : Instant) (condoId : Id) (invoice : Invoice) : Bool :=
  decide (invoice.condoId = condoId ∧ invoice.status = .issued ∧ now ≤ invoice.dueDate ∧
    invoice.dueDate ≤ now + dueSoonWindowDays * 86400000 ∧ invoice.dueSoonNotifiedAt = none)

def markOverdue (now : Instant) (condoId : Id) (db : Db) : Db :=
  let overdue := (db.invoices.filter (isOverdue now condoId)).map Invoice.id
  { db with invoices := updateWhere (fun invoice => decide (invoice.id ∈ overdue))
                          (fun invoice => { invoice with status := .overdue }) db.invoices }

def notifyDueSoon (now : Instant) (condoId : Id) (db : Db) : Db :=
  { db with invoices := updateWhere (isDueSoon now condoId)
                          (fun invoice => { invoice with dueSoonNotifiedAt := some now }) db.invoices }

def runDueSweep (now : Instant) (db : Db) (actor : AuthenticatedUser) (condoId : Id) : Result Db := do
  assertCondoManagement actor condoId true
  return notifyDueSoon now condoId (markOverdue now condoId db)

end SmartResidence.Billing
