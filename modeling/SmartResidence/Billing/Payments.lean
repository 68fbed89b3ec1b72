import SmartResidence.Billing.Invoices

/-!
# Gateway, manual and advance payments in `billing.service.ts`
-/

namespace SmartResidence.Billing

open Foundation

def Credentials.value (credentials : Credentials) (field : String) : Option String :=
  (credentials.find? fun pair => decide (pair.1 = field)).map Prod.snd

def credential (credentials : Option Credentials) (field : String) : Option String :=
  (credentials.bind fun fields => fields.value field).filter fun value => decide (value ≠ "")

structure ResolvedCredentials where
  mode : GatewayMode
  credentials : Credentials

def resolveCredentials (db : Db) (condoId : Id) (provider : PaymentProvider) :
    Option ResolvedCredentials :=
  let usable := db.gatewayConnections.filter fun connection =>
    decide (connection.condoId = condoId ∧ connection.provider = provider) && connection.enabled &&
      connection.credentials.isSome
  let ordered := (usable.filter fun connection => decide (connection.mode = .test)) ++
    (usable.filter fun connection => decide (connection.mode = .live))
  match ordered.head? with
  | none => none
  | some connection => connection.credentials.map fun credentials => ⟨connection.mode, credentials⟩

/-- The reference an adapter's `createIntent` stores for a payment. -/
def withoutHyphens (uuid : String) : List Char := uuid.toList.filter fun c => decide (c ≠ '-')

def duitnowBillRef (uuid : String) : String := String.ofList ((withoutHyphens uuid).take 30)
def fiuuOrderId (uuid : String) : String := String.ofList (withoutHyphens uuid)
def tngOrderId (uuid : String) : String := String.ofList (withoutHyphens uuid)

def createIntent (env : Env) (provider : PaymentProvider) (id : Id) (credentials : Credentials) :
    Result String :=
  match provider with
  | .stripe =>
      if (credential (some credentials) "secretKey").isSome ∨ env.stripeSecretKey.isSome then
        orThrow (env.stripeIntent id) (.failure "Stripe request failed")
      else return "mock_" ++ env.uuid id
  | .fpx => return "fpx_" ++ env.uuid id
  | .ipay88 => return env.uuid id
  | .razer => return fiuuOrderId (env.uuid id)
  | .tng => return tngOrderId (env.uuid id)
  | .duitnowQr => do
      let configured := (credential (some credentials) "merchantId").isSome ∧
        (credential (some credentials) "clientId").isSome ∧
        (credential (some credentials) "clientSecret").isSome
      throwIf (configured ∧ ¬ env.paynetIssues id)
        (.failure "Unable to create DuitNow QR. Please try again or contact management.")
      return duitnowBillRef (env.uuid id)
  | .manual => .error (.badRequest "Unsupported provider: MANUAL")

/-! ## Starting a payment -/

def pendingPayment (now : Instant) (invoiceId userId : Id) (amount : ℤ) (provider : PaymentProvider)
    (id : Id) : Payment where
  id := id
  invoiceId := invoiceId
  userId := some userId
  amount := amount
  status := .pending
  provider := provider
  providerRef := none
  metadata := PaymentMetadata.empty
  paidAt := none
  createdAt := now

def notEnabled : ApiError :=
  .badRequest "This payment method is not enabled for your condo. Please contact management."

/-- What `createPayment` reads and checks before its first write. -/
def checkPayable (db : Db) (actor : AuthenticatedUser) (invoiceId : Id) (provider : PaymentProvider) :
    Result (Invoice × ResolvedCredentials) := do
  let invoice ← getInvoice db invoiceId (some actor)
  assertCanPayInvoice actor invoice
  throwIf (invoice.status = .void) (.badRequest "Cannot pay a voided invoice")
  throwIf (invoice.status = .paid) (.badRequest "Invoice already paid")
  throwIf (provider = .manual) (.badRequest "Unsupported provider: MANUAL")
  let resolved ← orThrow (resolveCredentials db invoice.condoId provider) notEnabled
  throwIf (((invoice.total - invoice.amountPaid : ℤ) : ℚ) ≤ 1 / 2)
    (.badRequest "Nothing left to pay on this invoice")
  return (invoice, resolved)

/-- Stores the reference unless `(provider, providerRef)` is taken. -/
def setProviderRef (db : Db) (paymentId : Id) (provider : PaymentProvider) (providerRef : String) :
    Result Db := do
  throwIf (∃ payment ∈ db.payments, payment.provider = provider ∧
      payment.providerRef = some providerRef ∧ payment.id ≠ paymentId)
    (.uniqueViolation .paymentsProviderRef)
  return db.updatePayments (fun payment => decide (payment.id = paymentId))
    fun payment => { payment with providerRef := some providerRef }

def createPayment (env : Env) (now : Instant) (db : Db) (actor : AuthenticatedUser) (invoiceId : Id)
    (provider : PaymentProvider) : Result Db := do
  let (invoice, resolved) ← checkPayable db actor invoiceId provider
  let cancelled := cancelStalePendingPayments db invoice.id
  let created := cancelled.insertPayment
    (pendingPayment now invoice.id actor.id (invoice.total - invoice.amountPaid) provider)
  let providerRef ← createIntent env provider cancelled.nextId resolved.credentials
  setProviderRef created cancelled.nextId provider providerRef

structure CreateAdvancePaymentDto where
  unitId : Id
  amount : ℚ
  provider : PaymentProvider
  amount_ge : 100 ≤ amount

def pendingAdvance (now : Instant) (condoId userId : Id) (dto : CreateAdvancePaymentDto) (id : Id) :
    AdvancePayment where
  id := id
  condoId := condoId
  unitId := dto.unitId
  userId := some userId
  amount := stored dto.amount
  status := .pending
  provider := dto.provider
  providerRef := none
  metadata := PaymentMetadata.empty
  paidAt := none
  createdAt := now

def setAdvanceProviderRef (db : Db) (id : Id) (provider : PaymentProvider) (providerRef : String) :
    Result Db := do
  throwIf (∃ advance ∈ db.advancePayments, advance.provider = provider ∧
      advance.providerRef = some providerRef ∧ advance.id ≠ id)
    (.uniqueViolation .advancePaymentsProviderRef)
  return db.updateAdvancePayments (fun advance => decide (advance.id = id))
    fun advance => { advance with providerRef := some providerRef }

def cancelPendingAdvances (db : Db) (unitId userId : Id) : Db :=
  db.updateAdvancePayments (fun advance => decide (advance.unitId = unitId ∧
      advance.userId = some userId ∧ advance.status = .pending))
    fun advance => { advance with status := .cancelled }

def createAdvancePayment (env : Env) (now : Instant) (db : Db) (actor : AuthenticatedUser)
    (dto : CreateAdvancePaymentDto) : Result Db := do
  let unit ← orThrow (db.unit? dto.unitId) (.notFound "Unit not found")
  assertCanPayUnit actor unit.condoId unit.id
  throwIf (dto.amount ≤ 0) (.badRequest "Amount must be greater than zero")
  throwIf (dto.provider = .manual) (.badRequest "Unsupported provider: MANUAL")
  let resolved ← orThrow (resolveCredentials db unit.condoId dto.provider) notEnabled
  let cancelled := cancelPendingAdvances db unit.id actor.id
  let created := cancelled.insertAdvancePayment (pendingAdvance now unit.condoId actor.id dto)
  let providerRef ← createIntent env dto.provider cancelled.nextId resolved.credentials
  setAdvanceProviderRef created cancelled.nextId dto.provider providerRef

def isHexDigit (c : Char) : Bool :=
  ('0' ≤ c && c ≤ '9') || ('a' ≤ c && c ≤ 'f') || ('A' ≤ c && c ≤ 'F')

def isHex (length : Nat) (ref : String) : Bool :=
  decide (ref.toList.length = length) && ref.toList.all isHexDigit

def hyphenated (ref : String) : String :=
  let digits := ref.toList
  String.ofList (digits.take 8 ++ '-' :: (digits.drop 8).take 4 ++ '-' :: (digits.drop 12).take 4 ++
    '-' :: (digits.drop 16).take 4 ++ '-' :: digits.drop 20)

/-- `orderBy createdAt desc`, the later row first among equals. -/
def newestFirst {Row : Type} (createdAt : Row → Instant) (rows : List Row) : List Row :=
  rows.reverse.insertionSort fun a b => createdAt b ≤ createdAt a

def findPaymentByProviderRef (env : Env) (db : Db) (ref : String) : Option Payment :=
  let direct := db.payments.find? fun payment => decide (payment.providerRef = some ref)
  let byBillRef :=
    if isHex 30 ref then
      let pending := (newestFirst Payment.createdAt (db.payments.filter fun payment =>
        decide (payment.provider = .duitnowQr ∧ payment.status = .pending))).take 30
      pending.find? fun payment => decide (duitnowBillRef (env.uuid payment.id) = ref)
    else none
  let byUuid :=
    if isHex 32 ref then
      db.payments.find? fun payment => decide (payment.providerRef = some (hyphenated ref) ∨
        env.uuid payment.id = hyphenated ref)
    else none
  direct.or (byBillRef.or byUuid)

def findAdvancePaymentByProviderRef (env : Env) (db : Db) (ref : String) : Option AdvancePayment :=
  let direct := db.advancePayments.find? fun advance => decide (advance.providerRef = some ref)
  let byBillRef :=
    if isHex 30 ref then
      let pending := (newestFirst AdvancePayment.createdAt (db.advancePayments.filter fun advance =>
        decide (advance.provider = .duitnowQr ∧ advance.status = .pending))).take 30
      pending.find? fun advance => decide (duitnowBillRef (env.uuid advance.id) = ref)
    else none
  let byUuid :=
    if isHex 32 ref then
      db.advancePayments.find? fun advance => decide (advance.providerRef = some (hyphenated ref) ∨
        env.uuid advance.id = hyphenated ref)
    else none
  direct.or (byBillRef.or byUuid)

/-! ## Outcomes reported by the gateway -/

def isPending (id : Id) (payment : Payment) : Bool :=
  decide (payment.id = id ∧ payment.status = .pending)

def isPendingAdvance (id : Id) (advance : AdvancePayment) : Bool :=
  decide (advance.id = id ∧ advance.status = .pending)

def flagged (now : Instant) (reported expected : ℚ) (metadata : PaymentMetadata) : PaymentMetadata :=
  { metadata with
    reviewReason := some "AMOUNT_MISMATCH"
    reportedAmount := some reported
    expectedAmount := some expected
    flaggedAt := some now }

def flagPaymentForReview (env : Env) (now : Instant) (db : Db) (ref : String) (reported expected : ℚ) :
    Db :=
  match findPaymentByProviderRef env db ref with
  | none => db
  | some payment =>
      if payment.status ≠ .pending then db
      else db.updatePayments (fun row => decide (row.id = payment.id))
        fun row => { row with metadata := flagged now reported expected payment.metadata }

def flagAdvancePaymentForReview (env : Env) (now : Instant) (db : Db) (ref : String)
    (reported expected : ℚ) : Db :=
  match findAdvancePaymentByProviderRef env db ref with
  | none => db
  | some advance =>
      if advance.status ≠ .pending then db
      else db.updateAdvancePayments (fun row => decide (row.id = advance.id))
        fun row => { row with metadata := flagged now reported expected advance.metadata }

def withGatewayStatus (now : Instant) (gatewayStatus : String) (metadata : PaymentMetadata) :
    PaymentMetadata :=
  { metadata with
    failedAt := some now
    gatewayStatus := if gatewayStatus = "" then metadata.gatewayStatus else some gatewayStatus }

def markPaymentFailed (env : Env) (now : Instant) (db : Db) (ref : String) (gatewayStatus : String) :
    Db :=
  match findPaymentByProviderRef env db ref with
  | none => db
  | some payment =>
      db.updatePayments (isPending payment.id) fun row =>
        { row with status := .failed, metadata := withGatewayStatus now gatewayStatus payment.metadata }

def markAdvancePaymentFailed (env : Env) (now : Instant) (db : Db) (ref : String)
    (gatewayStatus : String) : Db :=
  match findAdvancePaymentByProviderRef env db ref with
  | none => db
  | some advance =>
      db.updateAdvancePayments (isPendingAdvance advance.id) fun row =>
        { row with status := .failed, metadata := withGatewayStatus now gatewayStatus advance.metadata }

def succeed (now : Instant) (payment : Payment) : Payment :=
  { payment with status := .succeeded, paidAt := some now }

/-- The transaction of `markPaymentSucceeded` on a payment read before it. -/
def confirmPaymentInTx (now : Instant) (db : Db) (payment : Payment) : Result Db := do
  if ¬ db.payments.any (isPending payment.id) then return db
  let transitioned := db.updatePayments (isPending payment.id) (succeed now)
  let cancelled := transitioned.updatePayments
    (fun row => isPendingFor payment.invoiceId row && decide (row.id ≠ payment.id))
    fun row => { row with status := .cancelled }
  let (settledDb, _) ← settleInvoice now cancelled payment.invoiceId payment.id payment.userId
  return settledDb

def markPaymentSucceeded (env : Env) (now : Instant) (db : Db) (ref : String) : Result Db :=
  match findPaymentByProviderRef env db ref with
  | none => return db
  | some payment =>
      if payment.status = .succeeded then return db
      else confirmPaymentInTx now db payment

def advancePosting (now : Instant) (advance : AdvancePayment) : LedgerPosting where
  condoId := advance.condoId
  unitId := some advance.unitId
  fund := .general
  type := .prepayment
  amount := advance.amount
  idempotencyKey := some (.advancePaymentCredit advance.id)
  source := .advancePayment advance.id
  occurredAt := advance.paidAt.getD now
  createdByUserId := advance.userId

def succeedAdvance (now : Instant) (advance : AdvancePayment) : AdvancePayment :=
  { advance with status := .succeeded, paidAt := some now }

/-- The transaction of `markAdvancePaymentSucceeded`; it returns the updated row. -/
def confirmAdvanceInTx (now : Instant) (db : Db) (advance : AdvancePayment) :
    Result (Db × Option AdvancePayment) := do
  if ¬ db.advancePayments.any (isPendingAdvance advance.id) then return (db, none)
  let transitioned := db.updateAdvancePayments (isPendingAdvance advance.id) (succeedAdvance now)
  match transitioned.advancePayment? advance.id with
  | none => return (transitioned, none)
  | some updated =>
      let receipted ← issueInTx transitioned {
        condoId := updated.condoId
        kind := .payment
        amount := updated.amount
        issuedToUserId := updated.userId
        unitId := some updated.unitId
        paymentId := none
        depositId := none }
      let recorded := receipted.record (advancePosting now updated)
      return (recorded.addCredit updated.condoId updated.unitId updated.amount, some updated)

def markAdvancePaymentSucceeded (env : Env) (now : Instant) (db : Db) (ref : String) : Result Db :=
  match findAdvancePaymentByProviderRef env db ref with
  | none => return db
  | some advance =>
      if advance.status = .succeeded then return db
      else do
        let (confirmed, result) ← confirmAdvanceInTx now db advance
        match result with
        | none => return confirmed
        | some updated => applyCreditToOutstanding now confirmed updated.unitId updated.condoId

structure RecordManualPaymentDto where
  amount : Option ℚ
  method : Option String
  reference : Option String
  note : Option String
  amount_nonneg : 0 ≤ amount.getD 0

def manualPayment (now : Instant) (invoiceId actorId : Id) (amount : ℚ) (dto : RecordManualPaymentDto)
    (id : Id) : Payment where
  id := id
  invoiceId := invoiceId
  userId := some actorId
  amount := stored amount
  status := .succeeded
  provider := .manual
  providerRef := none
  metadata := { PaymentMetadata.empty with
    method := some (dto.method.getD "CASH")
    reference := dto.reference
    note := dto.note
    recordedByUserId := some actorId }
  paidAt := some now
  createdAt := now

def manualAmount (invoice : Invoice) (dto : RecordManualPaymentDto) : ℚ :=
  dto.amount.getD ((invoice.total - invoice.amountPaid : ℤ) : ℚ)

def recordManualPayment (now : Instant) (db : Db) (actor : AuthenticatedUser) (invoiceId : Id)
    (dto : RecordManualPaymentDto) : Result Db := do
  let invoice ← getInvoice db invoiceId (some actor)
  assertCondoManagement actor invoice.condoId true
  throwIf (invoice.status = .void) (.badRequest "Cannot record a payment on a voided invoice")
  throwIf (invoice.status = .paid) (.badRequest "Invoice is already fully paid")
  throwIf (manualAmount invoice dto ≤ 0) (.badRequest "Payment amount must be greater than zero")
  throwIf (manualAmount invoice dto > ((invoice.total - invoice.amountPaid : ℤ) : ℚ) + 1 / 2)
    (.badRequest "Payment exceeds the outstanding balance")
  let created := db.insertPayment (manualPayment now invoice.id actor.id (manualAmount invoice dto) dto)
  let (settledDb, _) ← settleInvoice now created invoice.id db.nextId (some actor.id)
  return settledDb

structure RecordPrepaymentDto where
  unitId : Id
  userId : Option Id
  amount : ℚ
  amount_nonneg : 0 ≤ amount

def prepaymentPosting (now : Instant) (condoId unitId receiptId actorId : Id) (amount : ℚ) :
    LedgerPosting where
  condoId := condoId
  unitId := some unitId
  fund := .general
  type := .prepayment
  amount := stored amount
  idempotencyKey := some (.prepayment receiptId)
  source := .prepayment receiptId
  occurredAt := now
  createdByUserId := some actorId

def recordPrepaymentInTx (now : Instant) (db : Db) (actorId condoId : Id) (dto : RecordPrepaymentDto) :
    Result Db := do
  let receipted ← issueInTx db {
    condoId := condoId
    kind := .payment
    amount := dto.amount
    issuedToUserId := dto.userId
    unitId := some dto.unitId
    paymentId := none
    depositId := none }
  let recorded := receipted.record
    (prepaymentPosting now condoId dto.unitId db.nextId actorId dto.amount)
  return recorded.addCredit condoId dto.unitId (stored dto.amount)

def recordPrepayment (now : Instant) (db : Db) (actor : AuthenticatedUser) (dto : RecordPrepaymentDto) :
    Result Db := do
  let unit ← orThrow (db.unit? dto.unitId) (.notFound "Unit not found")
  assertCondoManagement actor unit.condoId true
  throwIf (dto.amount ≤ 0) (.badRequest "Amount must be greater than zero")
  let prepaid ← recordPrepaymentInTx now db actor.id unit.condoId dto
  applyCreditToOutstanding now prepaid unit.id unit.condoId

def listPaymentIssues (db : Db) (actor : AuthenticatedUser) (condoId : Id) : Result (List Payment) := do
  assertCondoManagement actor condoId false
  let payments := (newestFirst Payment.createdAt (db.payments.filter fun payment =>
    (db.invoice? payment.invoiceId).any (fun invoice => decide (invoice.condoId = condoId)) &&
      decide (payment.status = .failed ∨ payment.status = .pending))).take 100
  return payments.filter fun payment =>
    decide (payment.status = .failed) ||
      payment.metadata.reviewReason.any fun reason => decide (reason ≠ "")

def dismissPayment (now : Instant) (db : Db) (actor : AuthenticatedUser) (paymentId : Id) :
    Result Db := do
  let payment ← orThrow (db.payment? paymentId) (.notFound "Payment not found")
  let invoice ← orThrow (db.invoice? payment.invoiceId) (.notFound "Payment not found")
  assertCondoManagement actor invoice.condoId true
  throwIf (payment.status ≠ .pending ∧ payment.status ≠ .failed)
    (.badRequest "Only pending or failed payments can be dismissed")
  return db.updatePayments (fun row => decide (row.id = paymentId)) fun row =>
    { row with
      status := .cancelled
      metadata := { payment.metadata with
        dismissedByUserId := some actor.id
        dismissedAt := some now } }

def approveReviewedPayment (env : Env) (now : Instant) (db : Db) (actor : AuthenticatedUser)
    (paymentId : Id) : Result Db := do
  let payment ← orThrow (db.payment? paymentId) (.notFound "Payment not found")
  let invoice ← orThrow (db.invoice? payment.invoiceId) (.notFound "Payment not found")
  assertCondoManagement actor invoice.condoId true
  throwIf (payment.status ≠ .pending) (.badRequest "Only pending payments can be approved")
  throwIf (payment.metadata.reviewReason.getD "" = "") (.badRequest "Payment is not flagged for review")
  throwIf (payment.providerRef.getD "" = "") (.badRequest "Payment has no gateway reference")
  let approved := db.updatePayments (fun row => decide (row.id = paymentId)) fun row =>
    { row with metadata := { payment.metadata with
        approvedByUserId := some actor.id
        approvedAt := some now } }
  markPaymentSucceeded env now approved (payment.providerRef.getD "")

end SmartResidence.Billing
