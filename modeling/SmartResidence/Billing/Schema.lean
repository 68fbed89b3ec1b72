import SmartResidence.Foundation.Rounding
import SmartResidence.Foundation.Tables

/-!
# The billing tables

Amounts are in sen: a `number` of the source is a rational, a stored `Decimal(14,2)` an integer.
The source's `0.005` is half a sen and its `Math.round(x * 100) / 100` is `mathRound x`.
Rows are numbered in the order in which they are created.
-/

namespace SmartResidence.Billing

open Foundation

abbrev Id := Nat
abbrev Instant := Int

def mathRound (x : ℚ) : ℤ := roundHalfUp x

def stored (x : ℚ) : ℤ := roundHalfAway x

@[simp] theorem mathRound_intCast (n : ℤ) : mathRound n = n := roundHalfUp_intCast n
theorem stored_le_iff {x : ℚ} {n : ℤ} (nonneg : 0 ≤ x) : stored x ≤ n ↔ x < n + 1 / 2 := by
  rw [stored, roundHalfAway_of_nonneg nonneg, roundHalfUp_le_iff]

theorem stored_neg (x : ℚ) : stored (- x) = - stored x := roundHalfAway_neg x
@[simp] theorem stored_intCast (n : ℤ) : stored n = n := roundHalfAway_intCast n

inductive RoleId
  | superAdmin | managementAdmin | managementStaff | securityGuard
  | unitOwner | tenant | householdMember | contractor
  deriving DecidableEq

inductive InvoiceStatus
  | draft | issued | partlyPaid | paid | void | overdue
  deriving DecidableEq

inductive PaymentStatus
  | pending | succeeded | failed | refunded | cancelled
  deriving DecidableEq

inductive PaymentProvider
  | stripe | fpx | ipay88 | razer | duitnowQr | tng | manual
  deriving DecidableEq

inductive LedgerFund
  | maintenance | sinkingFund | deposit | general
  deriving DecidableEq

inductive LedgerEntryType
  | charge | payment | deposit | refund | prepayment | prepaymentApplied | adjustment
  deriving DecidableEq

inductive DepositStatus
  | held | partiallyRefunded | refunded | forfeited
  deriving DecidableEq

inductive ReceiptKind
  | payment | deposit | refund
  deriving DecidableEq

inductive FeeRateType
  | perSqft | flat
  deriving DecidableEq

inductive FeeScheduleLineRateType
  | flat | perSqft | perUnitType
  deriving DecidableEq

inductive BookingStatus
  | pending | confirmed | rejected | cancelled | completed
  deriving DecidableEq

inductive PeriodStrategy
  | currentMonth | nextMonth
  deriving DecidableEq

inductive DueStrategy
  | dayOfMonth | offsetDays
  deriving DecidableEq

structure RoleAssignment where
  roleId : RoleId
  condoId : Option Id
  unitId : Option Id
  deriving DecidableEq

structure AuthenticatedUser where
  id : Id
  roles : List RoleAssignment

structure BillingAutomationSettings where
  enabled : Bool
  generationDay : Nat
  periodStrategy : PeriodStrategy
  dueStrategy : DueStrategy
  dueDay : Nat
  dueOffsetDays : Nat
  generationDay_bounds : 1 ≤ generationDay ∧ generationDay ≤ 31
  dueDay_bounds : 1 ≤ dueDay ∧ dueDay ≤ 31
  dueOffsetDays_le : dueOffsetDays ≤ 90

structure Condo where
  id : Id
  billingAutomation : BillingAutomationSettings

structure ResidentialUnit where
  id : Id
  condoId : Id
  sqft : Option ℚ
  unitTypeId : Option Id

structure FeeRate where
  unitTypeId : Id
  maintenanceRateType : FeeRateType
  maintenanceAmount : ℚ
  sinkingFundRateType : FeeRateType
  sinkingFundAmount : ℚ

structure FeeScheduleExtraLine where
  id : Id
  condoId : Id
  code : String
  description : String
  fund : LedgerFund
  rateType : FeeScheduleLineRateType
  amount : ℚ
  unitTypeAmounts : List (Id × ℚ)
  recurring : Bool
  effectiveFrom : Option Instant
  effectiveTo : Option Instant
  enabled : Bool
  sortOrder : Int
  createdAt : Instant

abbrev Credentials := List (String × String)

inductive GatewayMode
  | test | live
  deriving DecidableEq

structure PaymentGatewayConnection where
  condoId : Id
  provider : PaymentProvider
  mode : GatewayMode
  enabled : Bool
  credentials : Option Credentials

structure InvoiceLine where
  code : String
  description : String
  amount : ℤ
  sortOrder : Nat
  deriving DecidableEq

structure Invoice where
  id : Id
  condoId : Id
  unitId : Id
  periodStart : Instant
  periodEnd : Instant
  dueDate : Instant
  status : InvoiceStatus
  issuedAt : Option Instant
  subtotal : ℤ
  total : ℤ
  amountPaid : ℤ
  paidAt : Option Instant
  voidedAt : Option Instant
  lines : List InvoiceLine
  dueSoonNotifiedAt : Option Instant
  deriving DecidableEq

structure PaymentMetadata where
  method : Option String
  reference : Option String
  note : Option String
  recordedByUserId : Option Id
  reviewReason : Option String
  reportedAmount : Option ℚ
  expectedAmount : Option ℚ
  flaggedAt : Option Instant
  gatewayStatus : Option String
  failedAt : Option Instant
  approvedByUserId : Option Id
  approvedAt : Option Instant
  dismissedByUserId : Option Id
  dismissedAt : Option Instant
  deriving DecidableEq

def PaymentMetadata.empty : PaymentMetadata :=
  ⟨none, none, none, none, none, none, none, none, none, none, none, none, none, none⟩

structure Payment where
  id : Id
  invoiceId : Id
  userId : Option Id
  amount : ℤ
  status : PaymentStatus
  provider : PaymentProvider
  providerRef : Option String
  metadata : PaymentMetadata
  paidAt : Option Instant
  createdAt : Instant
  deriving DecidableEq

structure AdvancePayment where
  id : Id
  condoId : Id
  unitId : Id
  userId : Option Id
  amount : ℤ
  status : PaymentStatus
  provider : PaymentProvider
  providerRef : Option String
  metadata : PaymentMetadata
  paidAt : Option Instant
  createdAt : Instant
  deriving DecidableEq

inductive LedgerSource
  | invoice (id : Id)
  | payment (id : Id)
  | prepayment (receiptId : Id)
  | advancePayment (id : Id)
  | deposit (id : Id)
  deriving DecidableEq

def LedgerSource.id : LedgerSource → Id
  | .invoice id | .payment id | .prepayment id | .advancePayment id | .deposit id => id

inductive IdempotencyKey
  | invoiceCharge (invoiceId : Id) (index : Nat)
  | invoiceVoid (invoiceId chargeId : Id)
  | payment (paymentId : Id) (fund : LedgerFund)
  | prepayment (receiptId : Id)
  | advancePaymentCredit (advancePaymentId : Id)
  | invoicePrepayment (invoiceId paymentId : Id)
  | depositHeld (depositId : Id)
  | depositRefund (depositId : Id) (refunded : ℚ)
  | depositForfeitLiability (depositId : Id) (forfeited : ℚ)
  | depositForfeitIncome (depositId : Id) (forfeited : ℚ)
  deriving DecidableEq

structure LedgerPosting where
  condoId : Id
  unitId : Option Id
  fund : LedgerFund
  type : LedgerEntryType
  amount : ℤ
  idempotencyKey : Option IdempotencyKey
  source : LedgerSource
  occurredAt : Instant
  createdByUserId : Option Id
  deriving DecidableEq

structure LedgerEntry extends LedgerPosting where
  id : Id
  deriving DecidableEq

structure UnitAccount where
  condoId : Id
  unitId : Id
  creditBalance : ℤ
  deriving DecidableEq

structure Receipt where
  id : Id
  condoId : Id
  kind : ReceiptKind
  amount : ℤ
  issuedToUserId : Option Id
  unitId : Option Id
  paymentId : Option Id
  depositId : Option Id
  deriving DecidableEq

structure Deposit where
  id : Id
  condoId : Id
  unitId : Id
  userId : Option Id
  amount : ℤ
  refundedAmount : ℤ
  forfeitedAmount : ℤ
  status : DepositStatus
  paidAt : Instant
  refundedAt : Option Instant
  recordedByUserId : Option Id
  deriving DecidableEq

structure Facility where
  id : Id
  condoId : Id
  name : String
  active : Bool
  requiresApproval : Bool
  bookingFee : Option ℤ
  depositAmount : Option ℤ
  openMinute : Nat
  closeMinute : Nat
  slotMinutes : Nat
  maxConcurrent : Nat

structure Booking where
  id : Id
  facilityId : Id
  condoId : Id
  unitId : Option Id
  userId : Id
  startAt : Instant
  endAt : Instant
  status : BookingStatus
  fee : ℤ
  depositHeld : ℤ
  invoiceId : Option Id
  depositId : Option Id
  deriving DecidableEq

structure Db where
  nextId : Id
  condos : List Condo
  units : List ResidentialUnit
  feeRates : List FeeRate
  extraLines : List FeeScheduleExtraLine
  gatewayConnections : List PaymentGatewayConnection
  invoices : List Invoice
  payments : List Payment
  advancePayments : List AdvancePayment
  ledgerEntries : List LedgerEntry
  unitAccounts : List UnitAccount
  receipts : List Receipt
  deposits : List Deposit
  facilities : List Facility
  bookings : List Booking

structure Env where
  uuid : Id → String
  stripeIntent : Id → Option String
  paynetIssues : Id → Bool
  stripeSecretKey : Option String
  stripeWebhookSecret : Option String
  nodeEnv : String
  localeString : Instant → String
  localMinute : Instant → Nat
  md5 : String → String
  sha256 : String → String
  hmacSha256 : String → String → String

inductive UniqueIndex
  | invoicesActivePeriod
  | paymentsProviderRef
  | advancePaymentsProviderRef
  | receiptsPayment
  | receiptsDeposit
  deriving DecidableEq

inductive ApiError
  | badRequest (message : String)
  | notFound (message : String)
  | forbidden (message : String)
  | conflict (message : String)
  | unauthorized (message : String)
  | failure (message : String)
  | uniqueViolation (index : UniqueIndex)
  deriving DecidableEq

abbrev Result (α : Type) := Except ApiError α

def throwIf (condition : Prop) [Decidable condition] (error : ApiError) : Result Unit :=
  if condition then .error error else .ok ()

def orThrow {α : Type} (row : Option α) (error : ApiError) : Result α :=
  match row with
  | some row => .ok row
  | none => .error error

section

variable {α β : Type}

variable {step : Result α} {rest : α → Result β} {result : β}

@[simp] theorem bind_eq_ok : (step >>= rest) = .ok result ↔ ∃ value, step = .ok value ∧ rest value = .ok result := by
  cases step <;> simp [bind, Except.bind]

variable {value : α}

@[simp] theorem pure_eq_ok {result : α} : (pure value : Result α) = .ok result ↔ value = result := by
  simp [pure, Except.pure]

theorem map_eq_ok {f : α → β} : step.map f = .ok result ↔ ∃ value, step = .ok value ∧ f value = result := by
  cases step <;> simp [Except.map]

variable {condition : Prop} {error : ApiError}

@[simp] theorem throwIf_eq_ok [Decidable condition] {done : Unit} :
    throwIf condition error = .ok done ↔ ¬ condition := by
  by_cases h : condition <;> simp [throwIf]

variable {row : Option α}

@[simp] theorem orThrow_eq_ok : orThrow row error = .ok value ↔ row = some value := by
  cases row <;> simp [orThrow]

variable {failure : ApiError}

theorem bind_eq_error : (step >>= rest) = .error failure ↔
      step = .error failure ∨ ∃ value, step = .ok value ∧ rest value = .error failure := by
  cases step <;> simp [bind, Except.bind]

theorem pure_ne_error : (pure value : Result α) ≠ .error failure := by
  simp [pure, Except.pure]

theorem throwIf_eq_error [Decidable condition] :
    throwIf condition error = .error failure ↔ condition ∧ error = failure := by
  by_cases h : condition <;> simp [throwIf, h]

theorem orThrow_eq_error : orThrow row error = .error failure ↔ row = none ∧ error = failure := by
  cases row <;> simp [orThrow]

end

namespace Db

variable (db : Db)

def condo? (id : Id) : Option Condo := findBy Condo.id id db.condos
def unit? (id : Id) : Option ResidentialUnit := findBy ResidentialUnit.id id db.units
def invoice? (id : Id) : Option Invoice := findBy Invoice.id id db.invoices
def payment? (id : Id) : Option Payment := findBy Payment.id id db.payments
def advancePayment? (id : Id) : Option AdvancePayment := findBy AdvancePayment.id id db.advancePayments
def unitAccount? (unitId : Id) : Option UnitAccount := findBy UnitAccount.unitId unitId db.unitAccounts
def deposit? (id : Id) : Option Deposit := findBy Deposit.id id db.deposits
def facility? (id : Id) : Option Facility := findBy Facility.id id db.facilities
def booking? (id : Id) : Option Booking := findBy Booking.id id db.bookings

def activePeriodTaken (unitId : Id) (periodStart : Instant) (except : Option Id) : Bool :=
  db.invoices.any fun invoice =>
    decide (invoice.unitId = unitId ∧ invoice.periodStart = periodStart ∧ invoice.status ≠ .void ∧
      some invoice.id ≠ except)

/-- Inserts an invoice unless `invoices_unitId_periodStart_active_key` refuses it. -/
def insertInvoice (row : Id → Invoice) : Result Db := do
  let invoice := row db.nextId
  throwIf (invoice.status ≠ .void ∧ db.activePeriodTaken invoice.unitId invoice.periodStart none)
    (.uniqueViolation .invoicesActivePeriod)
  return { db with invoices := db.invoices ++ [invoice], nextId := db.nextId + 1 }

def changeInvoice (id : Id) (change : Invoice → Invoice) : Db :=
  { db with invoices := updateBy Invoice.id id change db.invoices }

def updateInvoice (invoice : Invoice) (change : Invoice → Invoice) : Result Db := do
  let updated := change invoice
  throwIf (updated.status ≠ .void ∧
      db.activePeriodTaken updated.unitId updated.periodStart (some invoice.id))
    (.uniqueViolation .invoicesActivePeriod)
  return db.changeInvoice invoice.id change

def insertPayment (row : Id → Payment) : Db :=
  { db with payments := db.payments ++ [row db.nextId], nextId := db.nextId + 1 }

def updatePayments (chosen : Payment → Bool) (change : Payment → Payment) : Db :=
  { db with payments := updateWhere chosen change db.payments }

def insertAdvancePayment (row : Id → AdvancePayment) : Db :=
  { db with advancePayments := db.advancePayments ++ [row db.nextId], nextId := db.nextId + 1 }

def updateAdvancePayments (chosen : AdvancePayment → Bool) (change : AdvancePayment → AdvancePayment) :
    Db :=
  { db with advancePayments := updateWhere chosen change db.advancePayments }

end Db

end SmartResidence.Billing
