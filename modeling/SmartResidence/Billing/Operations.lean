import SmartResidence.Billing.Payments
import SmartResidence.Billing.Deposits
import SmartResidence.Billing.Recurring
import SmartResidence.Foundation.Runs

/-!
# Sequences of completed operations, and how to run them
-/

namespace SmartResidence.Billing

open Foundation

inductive Op
  | create (actor : AuthenticatedUser) (dto : CreateInvoiceDto)
  | createInvoiceInTx (opts : CreateInvoiceInTxOpts)
  | generateRecurring (actor : Option AuthenticatedUser) (condoId : Id) (dto : GenerateRecurringDto)
      (options : GenerateRecurringOptions)
  | createPayment (actor : AuthenticatedUser) (invoiceId : Id) (provider : PaymentProvider)
  | createAdvancePayment (actor : AuthenticatedUser) (dto : CreateAdvancePaymentDto)
  | recordManualPayment (actor : AuthenticatedUser) (invoiceId : Id) (dto : RecordManualPaymentDto)
  | recordPrepayment (actor : AuthenticatedUser) (dto : RecordPrepaymentDto)
  | markPaymentSucceeded (ref : String)
  | markPaymentFailed (ref gatewayStatus : String)
  | flagPaymentForReview (ref : String) (reported expected : ℚ)
  | markAdvancePaymentSucceeded (ref : String)
  | markAdvancePaymentFailed (ref gatewayStatus : String)
  | flagAdvancePaymentForReview (ref : String) (reported expected : ℚ)
  /-- `applyCreditToInvoice`, called with the invoice's own unit and condo. -/
  | applyCreditToInvoice (invoiceId : Id)
  | applyCreditToOutstanding (unitId : Id)
  | voidInvoice (actor : AuthenticatedUser) (invoiceId : Id)
  | voidUnpaidInvoiceInTx (invoiceId : Id) (actorUserId : Option Id)
  | runDueSweep (actor : AuthenticatedUser) (condoId : Id)
  | dismissPayment (actor : AuthenticatedUser) (paymentId : Id)
  | approveReviewedPayment (actor : AuthenticatedUser) (paymentId : Id)
  | depositRecord (actor : AuthenticatedUser) (dto : RecordDepositDto)
  | depositRecordInTx (input : RecordDepositInput)
  | refundHeldInTx (depositId : Id) (actorUserId : Option Id)
  | depositRefund (actor : AuthenticatedUser) (depositId : Id) (dto : RefundDepositDto)

structure Request where
  now : Instant
  op : Op

def Request.run (env : Env) (db : Db) (request : Request) : Result Db :=
  let now := request.now
  match request.op with
  | .create actor dto => return (← create now db actor dto).1
  | .createInvoiceInTx opts => return (← createInvoiceInTx now db opts).1
  | .generateRecurring actor condoId dto options =>
      return (← generateRecurring now db actor condoId dto options).1
  | .createPayment actor invoiceId provider => createPayment env now db actor invoiceId provider
  | .createAdvancePayment actor dto => createAdvancePayment env now db actor dto
  | .recordManualPayment actor invoiceId dto => recordManualPayment now db actor invoiceId dto
  | .recordPrepayment actor dto => recordPrepayment now db actor dto
  | .markPaymentSucceeded ref => markPaymentSucceeded env now db ref
  | .markPaymentFailed ref status => return markPaymentFailed env now db ref status
  | .flagPaymentForReview ref reported expected =>
      return flagPaymentForReview env now db ref reported expected
  | .markAdvancePaymentSucceeded ref => markAdvancePaymentSucceeded env now db ref
  | .markAdvancePaymentFailed ref status => return markAdvancePaymentFailed env now db ref status
  | .flagAdvancePaymentForReview ref reported expected =>
      return flagAdvancePaymentForReview env now db ref reported expected
  | .applyCreditToInvoice invoiceId => do
      let invoice ← getInvoice db invoiceId none
      applyCreditToInvoice now db invoice.id invoice.unitId invoice.condoId
  | .applyCreditToOutstanding unitId => do
      let unit ← orThrow (db.unit? unitId) (.notFound "Unit not found")
      applyCreditToOutstanding now db unit.id unit.condoId
  | .voidInvoice actor invoiceId => voidInvoice now db actor invoiceId
  | .voidUnpaidInvoiceInTx invoiceId actorUserId =>
      return (← voidUnpaidInvoiceInTx now db invoiceId actorUserId).1
  | .runDueSweep actor condoId => runDueSweep now db actor condoId
  | .dismissPayment actor paymentId => dismissPayment now db actor paymentId
  | .approveReviewedPayment actor paymentId => approveReviewedPayment env now db actor paymentId
  | .depositRecord actor dto => depositRecord now db actor dto
  | .depositRecordInTx input => depositRecordInTx now db input
  | .refundHeldInTx depositId actorUserId => return (← refundHeldInTx now db depositId actorUserId).1
  | .depositRefund actor depositId dto => depositRefund now db actor depositId dto

def Completes (env : Env) (before : Db) (request : Request) (after : Db) : Prop :=
  request.run env before = .ok after

structure Fresh (db : Db) : Prop where
  unitIds : (db.units.map ResidentialUnit.id).Nodup
  invoices : db.invoices = []
  payments : db.payments = []
  advancePayments : db.advancePayments = []
  ledgerEntries : db.ledgerEntries = []
  unitAccounts : db.unitAccounts = []
  receipts : db.receipts = []
  deposits : db.deposits = []

def Reachable (env : Env) (db : Db) : Prop :=
  ∃ start log, Fresh start ∧ Run (Completes env) start log db

def runAll (env : Env) (check : Db → Request → Bool) (db : Db) : List Request → Result Db
  | [] => .ok db
  | request :: rest => do
      throwIf (check db request = false) (.failure "The request does not pass the check")
      let next ← request.run env db
      runAll env check next rest

theorem run_of_runAll {env : Env} {check : Db → Request → Bool} {db after : Db} {log : List Request}
    {condition : Request → Prop} (all : ∀ request ∈ log, condition request)
    (ran : runAll env check db log = .ok after) :
    Run (Guarded (fun before request => condition request ∧ check before request = true)
      (Completes env)) db log after := by
  induction log generalizing db with
  | nil =>
    cases ran
    exact .done
  | cons request rest ih =>
    simp only [runAll, bind_eq_ok, throwIf_eq_ok, Bool.not_eq_false] at ran
    obtain ⟨_, checked, next, completes, later⟩ := ran
    exact (ih (fun other mem => all other (List.mem_cons_of_mem _ mem)) later).cons
      ⟨⟨all request (by simp), checked⟩, completes⟩

theorem completes_of_runAll {env : Env} {check : Db → Request → Bool} {db after : Db}
    {log : List Request} (ran : runAll env check db log = .ok after) : Run (Completes env) db log after := by
  have all : ∀ request ∈ log, True := fun _ _ => trivial
  exact (run_of_runAll all ran).guard_forgotten

namespace Sample

theorem first_day : 1 ≤ 1 ∧ 1 ≤ 31 := by decide

theorem fifteenth_day : 1 ≤ 15 ∧ 15 ≤ 31 := by decide

def settings : BillingAutomationSettings where
  enabled := true
  generationDay := 1
  periodStrategy := .currentMonth
  dueStrategy := .dayOfMonth
  dueDay := 15
  dueOffsetDays := 14
  generationDay_bounds := first_day
  dueDay_bounds := fifteenth_day
  dueOffsetDays_le := by decide

def env : Env where
  uuid id := if id = 1 then "11111111-1111-4111-8111-111111111111"
    else if id = 2 then "22222222-2222-4222-8222-222222222222"
    else "33333333-3333-4333-8333-333333333333"
  stripeIntent _ := none
  paynetIssues _ := true
  stripeSecretKey := none
  stripeWebhookSecret := none
  nodeEnv := "production"
  localeString _ := ""
  localMinute _ := 480
  md5 text := text
  sha256 text := text
  hmacSha256 key text := key ++ text

def db : Db where
  nextId := 0
  condos := [⟨5, settings⟩]
  units := [⟨7, 5, none, none⟩]
  feeRates := []
  extraLines := []
  gatewayConnections := [⟨5, .fpx, .live, true, some [("secret", "s5")]⟩]
  invoices := []
  payments := []
  advancePayments := []
  ledgerEntries := []
  unitAccounts := []
  receipts := []
  deposits := []
  facilities := []
  bookings := []

theorem db_fresh : Fresh db := ⟨by decide, rfl, rfl, rfl, rfl, rfl, rfl, rfl⟩

def admin : AuthenticatedUser := ⟨1, [⟨.superAdmin, none, none⟩]⟩

def maintenance : InvoiceLineDto :=
  ⟨"MAINT", "Monthly maintenance fee", 10000, none, by decide +kernel, by decide +kernel⟩

theorem maintenance_whole : Whole maintenance.amount :=
  ⟨10000, by norm_num [InvoiceLineDto.amount, maintenance]⟩

def invoice : CreateInvoiceDto := ⟨7, 0, 0, 0, [maintenance]⟩

def fpxRef : String := "fpx_11111111-1111-4111-8111-111111111111"

def manual (amount : Option ℚ) (nonneg : 0 ≤ amount.getD 0) : RecordManualPaymentDto :=
  ⟨amount, none, none, none, nonneg⟩

end Sample

end SmartResidence.Billing
