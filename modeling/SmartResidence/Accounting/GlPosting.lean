import SmartResidence.Accounting.GeneralLedger
import SmartResidence.Billing.Ledger

/-!
# Automatic postings in `gl-posting.service.ts`
-/

namespace SmartResidence.Accounting

open Foundation Billing

def bankCode : LedgerFund → String
  | .maintenance => "1000"
  | .sinkingFund => "1010"
  | .deposit => "1020"
  | .general => "1000"

def receivableCode : LedgerFund → String
  | .maintenance => "1100"
  | .sinkingFund => "1110"
  | .deposit => "1120"
  | .general => "1120"

def incomeCode : LedgerFund → String
  | .maintenance => "4000"
  | .sinkingFund => "4010"
  | .deposit => "4030"
  | .general => "4030"

def depositsHeldCode : String := "2000"

def payableCode : String := "2100"

def expenseCode : LedgerFund → String
  | .maintenance => "5030"
  | .sinkingFund => "5100"
  | .deposit => "5200"
  | .general => "5200"

/-- `fundOfCode` of `gl-posting.service.ts`, which also knows deposits. -/
def fundOfCode (code : String) : LedgerFund :=
  if includes (toUpperCase code) ['S', 'I', 'N', 'K'] then .sinkingFund
  else if includes (toUpperCase code) ['M', 'A', 'I', 'N', 'T'] then .maintenance
  else if includes (toUpperCase code) ['D', 'E', 'P', 'O', 'S', 'I', 'T'] then .deposit
  else .general

def accountCodes (condoId : Id) (db : GlDb) : List GlAccount :=
  db.accounts.filter fun account => decide (account.condoId = condoId ∧ account.active = true)

def accountOf (rows : List GlAccount) (code : String) : Option GlAccount :=
  rows.reverse.find? fun account => account.code = code

def journalPair (rows : List GlAccount) (debitCode creditCode : String) (fund : LedgerFund) (amount : ℤ) :
    List JournalLineInput :=
  match accountOf rows debitCode, accountOf rows creditCode with
  | some debit, some credit => [⟨debit.id, amount, 0, fund⟩, ⟨credit.id, 0, amount, fund⟩]
  | _, _ => []

def fundPairs (rows : List GlAccount) (debitCode creditCode : LedgerFund → String)
    (byFund : List (LedgerFund × ℚ)) : List JournalLineInput :=
  byFund.flatMap fun share =>
    if share.2 < 1 / 2 then []
    else journalPair rows (debitCode share.1) (creditCode share.1) share.1 (mathRound share.2)

def post (condoId : Id) (lines : List GlAccount → List JournalLineInput)
    (opts : List JournalLineInput → PostEntryOpts) : GlCall (Option GlJournalEntry) := do
  ensureSeeded condoId
  let rows ← Call.read (accountCodes condoId)
  if lines rows = [] then return none
  else
    let entry ← postEntry (opts (lines rows))
    return some entry

def logged (call : GlCall (Option GlJournalEntry)) : GlCall (Option GlJournalEntry) := do
  match ← Call.attempt call with
  | .ok entry => return entry
  | .error _ => return none

structure GlChargeLine where
  code : String
  amount : ℚ

structure PostInvoiceChargesOpts where
  now : Instant
  invoiceId : Id
  condoId : Id
  issuedAt : Option Instant
  lines : List GlChargeLine
  actorUserId : Option Id

def addToFund (byFund : List (LedgerFund × ℚ)) (fund : LedgerFund) (amount : ℚ) : List (LedgerFund × ℚ) :=
  match byFund with
  | [] => [(fund, amount)]
  | (other, total) :: rest =>
      if other = fund then (other, total + amount) :: rest else (other, total) :: addToFund rest fund amount

def chargesByFund (lines : List GlChargeLine) : List (LedgerFund × ℚ) :=
  lines.foldl (fun byFund line => addToFund byFund (fundOfCode line.code) line.amount) []

def invoiceKey (env : Env) (invoiceId : Id) : String := "gl:invoice:" ++ env.uuid invoiceId

def postInvoiceCharges (env : Env) (opts : PostInvoiceChargesOpts) : GlCall (Option GlJournalEntry) :=
  logged <| post opts.condoId (fun rows => fundPairs rows receivableCode incomeCode (chargesByFund opts.lines))
    fun lines => {
      condoId := opts.condoId
      entryDate := opts.issuedAt.getD opts.now
      sourceType := .invoice
      sourceId := some opts.invoiceId
      postedByUserId := opts.actorUserId
      idempotencyKey := some (invoiceKey env opts.invoiceId)
      lines := lines }

structure PostPaymentOpts where
  now : Instant
  paymentId : Id
  condoId : Id
  allocations : List (LedgerFund × ℚ)
  occurredAt : Option Instant
  actorUserId : Option Id

def paymentKey (env : Env) (paymentId : Id) : String := "gl:payment:" ++ env.uuid paymentId

def postPayment (env : Env) (opts : PostPaymentOpts) : GlCall (Option GlJournalEntry) :=
  logged <| post opts.condoId (fun rows => fundPairs rows bankCode receivableCode opts.allocations) fun lines => {
    condoId := opts.condoId
    entryDate := opts.occurredAt.getD opts.now
    sourceType := .payment
    sourceId := some opts.paymentId
    postedByUserId := opts.actorUserId
    idempotencyKey := some (paymentKey env opts.paymentId)
    lines := lines }

structure PostLedgerEntryOpts where
  now : Instant
  condoId : Id
  type : LedgerEntryType
  amount : ℚ
  sourceType : String
  sourceId : Option Id
  occurredAt : Option Instant
  createdByUserId : Option Id
  idempotencyKey : Option String

def depositKey (key : Option String) : Option String :=
  match key with
  | none => none
  | some text => if text = "" then none else some ("gl:" ++ text)

def postDeposit (entry : PostLedgerEntryOpts) : GlCall (Option GlJournalEntry) :=
  logged <| post entry.condoId
    (fun rows => journalPair rows (bankCode .deposit) depositsHeldCode .deposit (mathRound entry.amount)) fun lines => {
      condoId := entry.condoId
      entryDate := entry.occurredAt.getD entry.now
      sourceType := .payment
      sourceId := entry.sourceId
      postedByUserId := entry.createdByUserId
      idempotencyKey := depositKey entry.idempotencyKey
      lines := lines }

def postLedgerEntry (entry : PostLedgerEntryOpts) : GlCall (Option GlJournalEntry) :=
  if entry.type = .charge ∧ entry.sourceType = "Invoice" then return none
  else if entry.type = .payment ∧ entry.sourceType = "Payment" then return none
  else if entry.type = .deposit then postDeposit entry
  else return none

structure PostVendorBillOpts where
  vendorBillId : Id
  condoId : Id
  entryDate : Instant
  amount : ℚ
  fund : LedgerFund
  actorUserId : Option Id

def vendorBillKey (env : Env) (vendorBillId : Id) : String := "gl:vendor-bill:" ++ env.uuid vendorBillId

def vendorPaymentKey (env : Env) (vendorBillId : Id) : String := "gl:vendor-payment:" ++ env.uuid vendorBillId

def postVendorBillApproved (env : Env) (opts : PostVendorBillOpts) : GlCall (Option GlJournalEntry) :=
  logged <| post opts.condoId
    (fun rows => journalPair rows (expenseCode opts.fund) payableCode opts.fund (mathRound opts.amount)) fun lines => {
      condoId := opts.condoId
      entryDate := opts.entryDate
      sourceType := .vendorBill
      sourceId := some opts.vendorBillId
      postedByUserId := opts.actorUserId
      idempotencyKey := some (vendorBillKey env opts.vendorBillId)
      lines := lines }

def postVendorBillPaid (env : Env) (opts : PostVendorBillOpts) : GlCall (Option GlJournalEntry) :=
  logged <| post opts.condoId
    (fun rows => journalPair rows payableCode (bankCode opts.fund) opts.fund (mathRound opts.amount)) fun lines => {
      condoId := opts.condoId
      entryDate := opts.entryDate
      sourceType := .vendorPayment
      sourceId := some opts.vendorBillId
      postedByUserId := opts.actorUserId
      idempotencyKey := some (vendorPaymentKey env opts.vendorBillId)
      lines := lines }

inductive AccountingOp
  | postEntry (opts : PostEntryOpts)
  | postManual (user : AuthenticatedUser) (condoId : Id) (input : PostManualJournalDto)
  | createAccount (user : AuthenticatedUser) (condoId : Id) (input : CreateGlAccountDto)
  | updateAccount (user : AuthenticatedUser) (accountId : Id) (input : UpdateGlAccountDto)
  | postInvoiceCharges (opts : PostInvoiceChargesOpts)
  | postPayment (opts : PostPaymentOpts)
  | postLedgerEntry (entry : PostLedgerEntryOpts)
  | postVendorBillApproved (opts : PostVendorBillOpts)
  | postVendorBillPaid (opts : PostVendorBillOpts)

def AccountingOp.call (env : Env) : AccountingOp → GlCall (Option GlJournalEntry)
  | .postEntry opts => do
      let entry ← Accounting.postEntry opts
      return some entry
  | .postManual user condoId input => do
      Call.ofResult (assertCondoManagement user condoId)
      let entry ← Accounting.postManual user condoId input
      return some entry
  | .createAccount user condoId input => do
      Call.ofResult (assertCondoManagement user condoId)
      let _ ← Accounting.createAccount condoId input
      return none
  | .updateAccount user accountId input => do
      Accounting.updateAccount user accountId input
      return none
  | .postInvoiceCharges opts => Accounting.postInvoiceCharges env opts
  | .postPayment opts => Accounting.postPayment env opts
  | .postLedgerEntry entry => Accounting.postLedgerEntry entry
  | .postVendorBillApproved opts => Accounting.postVendorBillApproved env opts
  | .postVendorBillPaid opts => Accounting.postVendorBillPaid env opts

def AccountingOp.after (env : Env) (db : GlDb) (op : AccountingOp) : GlDb := (op.call env db).2

def afterAll (env : Env) (db : GlDb) (ops : List AccountingOp) : GlDb := ops.foldl (AccountingOp.after env) db

inductive ChartOp
  | listTree (user : AuthenticatedUser) (condoId : Id)
  | accounting (op : AccountingOp)

def ChartOp.after (env : Env) (db : GlDb) : ChartOp → GlDb
  | .listTree user condoId => ((do
      Call.ofResult (assertCondoManagement user condoId)
      Accounting.listTree condoId : GlCall (List GlAccountNode)) db).2
  | .accounting op => op.after env db

def GlDb.empty : GlDb := ⟨0, [], [], [], []⟩

end SmartResidence.Accounting
