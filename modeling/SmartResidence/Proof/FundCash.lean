import SmartResidence.Proof.Charges

/-!
# The funds of a condo hold the money it received
-/

namespace SmartResidence.Billing

open Foundation List

variable {env : Env} {db after : Db} {change : Change} {condoId : Id}

def cashOf (condoId : Id) (posting : LedgerPosting) : ℤ :=
  if posting.condoId = condoId ∧ posting.type ≠ .charge then posting.amount else 0

theorem fundBalances_total (db : Db) (condoId : Id) :
    sumBy Prod.snd (fundBalances db condoId) = ledgerSum (cashOf condoId) db.ledgerEntries := by
  simp only [fundBalances, ledgerFunds, mathRound_intCast, map_cons, map_nil, sumBy_cons, sumBy_nil, fundBalance,
    sumBy_filter, add_zero, ← sumBy_add]
  refine sumBy_congr fun entry _ => ?_
  by_cases counts : entry.condoId = condoId ∧ entry.type ≠ .charge
  · cases fund : entry.fund <;> simp [cashOf]
  · have never : ∀ fund, ¬ (entry.condoId = condoId ∧ entry.fund = fund ∧ entry.type ≠ .charge) :=
      fun fund all => counts ⟨all.1, all.2.2⟩
    simp only [cashOf, counts, never, decide_false, if_false, Bool.false_eq_true, add_zero]

def isCash (db : Db) (condoId : Id) (_ invoiceId : Id) (method : Option String) : Bool :=
  decide (method ≠ some "PREPAYMENT_APPLIED") &&
    (db.invoice? invoiceId).any fun invoice => decide (invoice.condoId = condoId)

def paymentsReceived (db : Db) (condoId : Id) : ℤ := succeededSum (isCash db condoId) db

def advancesReceived (db : Db) (condoId : Id) : ℤ :=
  sumBy AdvancePayment.amount (db.advancePayments.filter fun advance =>
    decide (advance.condoId = condoId ∧ advance.status = .succeeded))

def depositsOf (db : Db) (condoId : Id) : List Deposit :=
  db.deposits.filter fun deposit => decide (deposit.condoId = condoId)

def prepaidTo (condoId : Id) (prepayment : Id × ℚ) : ℤ :=
  if prepayment.1 = condoId then stored prepayment.2 else 0

def prepaymentsReceived (start : Db) (condoId : Id) (log : List Request) : ℤ :=
  sumBy (prepaidTo condoId) (log.filterMap (Request.prepayment? start))

def cashReceived (start : Db) (log : List Request) (db : Db) (condoId : Id) : ℤ :=
  paymentsReceived db condoId + prepaymentsReceived start condoId log + advancesReceived db condoId +
    sumBy Deposit.amount (depositsOf db condoId) - sumBy Deposit.refundedAmount (depositsOf db condoId)

/-! ## What a change does to the cash of a condo -/

def Change.KeepsCash : Change → Prop
  | .voided invoice _ => invoice.total = 0
  | .manual _ _ method => method ≠ some "PREPAYMENT_APPLIED"
  | .creditApplied invoice condoId _ => condoId = invoice.condoId
  | _ => True

namespace Change

def settles (db : Db) (condoId : Id) : Change → ℤ
  | .confirmed payment _ => if ∃ invoice ∈ db.invoices, invoice.id = payment.invoiceId ∧
      invoice.condoId = condoId then payment.amount else 0
  | .manual invoice amount _ => if invoice.condoId = condoId then stored amount else 0
  | _ => 0

def advances (condoId : Id) : Change → ℤ
  | .advanceConfirmed advance => if advance.condoId = condoId then advance.amount else 0
  | _ => 0

def prepays (condoId : Id) : Change → ℤ
  | .prepaid condo _ amount => if condo = condoId then stored amount else 0
  | _ => 0

def deposits (condoId : Id) : Change → ℤ
  | .depositHeld condo _ amount => if condo = condoId then stored amount else 0
  | .depositRefunded deposit amount => if deposit.condoId = condoId then - stored amount else 0
  | _ => 0

end Change

theorem cash_payments (invoice : Invoice) (paymentId : Id) (amount : ℤ) (occurredAt : Instant)
    (actorUserId : Option Id) :
    sumBy (cashOf condoId) (paymentPostings invoice paymentId amount occurredAt actorUserId) =
      if invoice.condoId = condoId then amount else 0 := by
  rw [sumBy_paymentPostings _ fun allocation => if invoice.condoId = condoId then allocation.2 else 0]
  · split
    · exact sumBy_allocationsOf _ _
    · exact sumBy_zero _ fun _ _ => rfl
  · simp [cashOf, paymentPosting]
  · simp

theorem Posts.cash {postings : List LedgerPosting} (posts : Posts db change postings)
    (wf : WellFormed db) (charged : Charged db) (whole : change.Whole) (keeps : change.KeepsCash)
    (condoId : Id) :
    sumBy (cashOf condoId) postings = change.settles db condoId + change.advances condoId + change.prepays condoId +
        change.deposits condoId := by
  cases posts with
  | issued =>
    refine sumBy_zero _ fun posting mem => ?_
    obtain ⟨index, line, _, rfl⟩ := mem_chargePostings mem
    simp [cashOf, chargePosting]
  | @confirmed _ payment invoice _ found owner =>
    have condo : (∃ other ∈ db.invoices, other.id = payment.invoiceId ∧ other.condoId = condoId) ↔
        invoice.condoId = condoId := by
      constructor
      · rintro ⟨other, inside, same, condo⟩
        rwa [wf.invoice_unique found inside (owner.trans same.symm)]
      · exact fun condo => ⟨invoice, found, owner, condo⟩
    simp [cash_payments, Change.settles, Change.advances, Change.prepays, Change.deposits, condo]
  | manual => simp [cash_payments, Change.settles, Change.advances, Change.prepays, Change.deposits]
  | @creditApplied _ invoice condo =>
    obtain rfl : condo = invoice.condoId := keeps
    by_cases own : invoice.condoId = condoId <;>
      simp [cash_payments, cashOf, prepaymentAppliedPosting, own, Change.settles, Change.advances,
        Change.prepays, Change.deposits]
  | advanceConfirmed =>
    simp [cashOf, advancePosting, succeedAdvance, Change.settles, Change.advances, Change.prepays, Change.deposits]
  | prepaid =>
    simp [cashOf, prepaymentPosting, Change.settles, Change.advances, Change.prepays, Change.deposits]
  | @voided now invoice actorUserId _ found =>
    by_cases own : invoice.condoId = condoId
    · have entire : sumBy (cashOf condoId) (voidPostings now db.ledgerEntries invoice actorUserId) =
          -1 * ledgerSum (chargedFor invoice.id) db.ledgerEntries :=
        sumBy_voidPostings _ (-1) fun charge => by simp [cashOf, voidPosting, own]
      rw [entire, charged invoice found, show invoice.total = 0 from keeps]
      rfl
    · refine sumBy_zero _ fun posting mem => ?_
      obtain ⟨charge, _, _, _, rfl⟩ := mem_voidPostings mem
      simp [cashOf, voidPosting, own]
  | depositHeld =>
    simp [cashOf, depositHeldPosting, Change.settles, Change.advances, Change.prepays, Change.deposits]
  | depositRefunded =>
    simp [cashOf, depositPosting, Change.settles, Change.advances, Change.prepays, Change.deposits, stored_neg]
  | @depositForfeited now deposit =>
    by_cases own : deposit.condoId = condoId <;>
      simp [cashOf, depositPosting, own, Change.settles, Change.advances, Change.prepays, Change.deposits, stored_neg]
  | _ => rfl

/-! ## What a change does to the tables -/

def GatewayMethods (db : Db) : Prop :=
  ∀ payment ∈ db.payments, payment.status = .pending → payment.metadata.method = none

namespace Commit

variable (commit : Commit db change after)
include commit

theorem gatewayMethods (methods : GatewayMethods db) : GatewayMethods after := by
  intro row mem pending
  rcases commit.pending_origin mem pending with ⟨old, found, kept⟩ | ⟨invoice, _, _, opened⟩
  · rw [← kept.method]
    exact methods old found kept.pending
  · exact opened.method

theorem condo_kept (wf : WellFormed db) {invoice : Invoice} (found : invoice ∈ db.invoices) :
    (after.invoice? invoice.id).any (fun row => decide (row.condoId = condoId)) =
      decide (invoice.condoId = condoId) := by
  obtain ⟨row, mem, same⟩ := commit.invoice_kept found
  rw [← same.id, (commit.wellFormed wf).invoice?_eq mem, Option.any_some, same.condoId]

theorem paymentsReceived_eq (wf : WellFormed db) (methods : GatewayMethods db)
    (keeps : change.KeepsCash) (condoId : Id) :
    paymentsReceived after condoId = paymentsReceived db condoId + change.settles db condoId := by
  have before : succeededSum (isCash after condoId) db = paymentsReceived db condoId := by
    refine sumBy_congr fun payment mem => ?_
    obtain ⟨invoice, found, owner⟩ := mem_map.mp (wf.paymentInvoice payment mem)
    rw [isCash, isCash, ← owner, commit.condo_kept wf found, wf.invoice?_eq found, Option.any_some]
  rw [paymentsReceived, commit.succeededSum_eq wf.paymentIds.distinct]
  congr 1
  have condo : ∀ {invoice : Invoice}, invoice ∈ db.invoices →
      (after.invoice? invoice.id).any (fun row => decide (row.condoId = condoId)) =
        decide (invoice.condoId = condoId) := fun found => commit.condo_kept wf found
  cases commit with
  | @confirmed now payment invoice _ _ mem pending found owner =>
    have settled := condo found
    have same : (∃ other ∈ db.invoices, other.id = payment.invoiceId ∧ other.condoId = condoId) ↔
        invoice.condoId = condoId := by
      constructor
      · rintro ⟨other, inside, same, condo⟩
        rwa [wf.invoice_unique found inside (owner.trans same.symm)]
      · exact fun condo => ⟨invoice, found, owner, condo⟩
    simp only [Change.settlement, Option.map_some, Settlement.amountIf, isCash, methods payment mem pending, ← owner,
      settled, Change.settles]
    simp [owner, same]
  | @manual _ _ invoice amount dto _ _ found =>
    have settled := condo found
    simp only [Change.settlement, Option.map_some, Settlement.amountIf, isCash, settled, Change.settles]
    have other : some (dto.method.getD "CASH") ≠ some "PREPAYMENT_APPLIED" := by
      cases given : dto.method with
      | none => decide
      | some name => exact fun same => keeps (given.trans same)
    simp [other]
  | creditApplied found => simp [Change.settlement, Settlement.amountIf, isCash, Change.settles]
  | _ => rfl

theorem advancesReceived_eq (wf : WellFormed db) (condoId : Id) :
    advancesReceived after condoId = advancesReceived db condoId + change.advances condoId := by
  simp only [advancesReceived, sumBy_filter]
  cases commit with
  | advancesMarked quiet =>
    refine (sumBy_updateWhere_kept fun row found pick => ?_).trans (add_zero _).symm
    have same := quiet row found pick
    simp only [same.condoId, same.amount, same.succeeded_iff]
  | advanceOpened => simp [Db.insertAdvancePayment, pendingAdvance, Change.advances]
  | @advanceConfirmed now advance _ _ mem pending =>
    have row : updateWhere (isPendingAdvance advance.id) (succeedAdvance now) db.advancePayments =
        updateBy AdvancePayment.id advance.id (succeedAdvance now) db.advancePayments :=
      updateWhere_eq_updateBy _ wf.advanceIds.distinct mem (by simp [isPendingAdvance, pending])
        fun other pick => (of_decide_eq_true pick).1
    simp only [Db.addCredit, Db.record, Db.updateAdvancePayments, row]
    rw [sumBy_updateBy _ wf.advanceIds.distinct mem]
    simp [succeedAdvance, pending, Change.advances]
  | _ => exact (add_zero _).symm

theorem depositsReceived_eq (wf : WellFormed db) (whole : change.Whole) (condoId : Id) :
    sumBy Deposit.amount (depositsOf after condoId) -
        sumBy Deposit.refundedAmount (depositsOf after condoId) =
      sumBy Deposit.amount (depositsOf db condoId) -
        sumBy Deposit.refundedAmount (depositsOf db condoId) + change.deposits condoId := by
  simp only [depositsOf, sumBy_filter]
  cases commit with
  | depositHeld =>
    simp [Db.record, RecordDepositInput.row, Change.deposits]
    ring
  | @depositRefunded _ deposit _ amount change _ _ mem _ _ got =>
    have cast : stored (deposit.refundedAmount + amount) = deposit.refundedAmount + stored amount := by
      obtain ⟨n, rfl⟩ := whole
      rw [← Int.cast_add, stored_intCast, stored_intCast]
    simp only [Db.record, Db.updateDeposit, sumBy_updateBy _ wf.depositIds.distinct mem,
      got.condoId, got.amount, got.refundedAmount, cast, Change.deposits]
    by_cases own : deposit.condoId = condoId
    · simp [own]
      ring
    · simp [own]
  | @depositForfeited _ deposit _ amount change mem _ _ got =>
    simp only [Db.record, Db.updateDeposit, sumBy_updateBy _ wf.depositIds.distinct mem,
      got.condoId, got.amount, got.refundedAmount, stored_intCast, Change.deposits]
    ring
  | _ => exact (add_zero _).symm

end Commit

/-! ## Runs -/

structure CashState (db : Db) (prepaid : Id → ℤ) : Prop where
  wellFormed : WellFormed db
  charged : Charged db
  methods : GatewayMethods db
  balance : ∀ condoId, ledgerSum (cashOf condoId) db.ledgerEntries =
    paymentsReceived db condoId + prepaid condoId + advancesReceived db condoId +
      (sumBy Deposit.amount (depositsOf db condoId) - sumBy Deposit.refundedAmount (depositsOf db condoId))

variable {prepaid : Id → ℤ}

theorem CashState.commit (state : CashState db prepaid) (commit : Commit db change after) (whole : change.Whole)
    (keeps : change.KeepsCash) :
    CashState after fun condoId => prepaid condoId + change.prepays condoId where
  wellFormed := commit.wellFormed state.wellFormed
  charged := commit.charged state.wellFormed whole state.charged
  methods := commit.gatewayMethods state.methods
  balance := by
    intro condoId
    obtain ⟨postings, posts, grown⟩ := commit.ledgerSum_eq state.wellFormed whole
    rw [grown, posts.cash state.wellFormed state.charged whole keeps, state.balance,
      commit.paymentsReceived_eq state.wellFormed state.methods keeps,
      commit.advancesReceived_eq state.wellFormed, commit.depositsReceived_eq state.wellFormed whole]
    ring

variable {changes : List Change}

theorem CashState.run (state : CashState db prepaid) (run : Run Commit db changes after)
    (all : ∀ change ∈ changes, change.Whole ∧ change.KeepsCash) :
    CashState after fun condoId => prepaid condoId + sumBy (Change.prepays condoId) changes := by
  induction run with
  | done => simpa using state
  | snoc run commit ih =>
    have before := ih fun other mem => all other (mem_append_left _ mem)
    obtain ⟨whole, keeps⟩ := all _ (mem_append_right _ (mem_singleton.mpr rfl))
    simpa [add_assoc] using before.commit commit whole keeps

theorem units_kept (run : Run Commit db changes after) : after.units = db.units := by
  induction run with
  | done => rfl
  | snoc _ commit ih => exact commit.units_eq.trans ih

theorem sumBy_prepays (condoId : Id) (changes : List Change) :
    sumBy (Change.prepays condoId) changes = sumBy (prepaidTo condoId) (changes.filterMap Change.prepayment?) := by
  induction changes with
  | nil => rfl
  | cons change changes ih =>
    rw [sumBy_cons, ih]
    cases change <;> simp [filterMap_cons, Change.prepays, Change.prepayment?, prepaidTo]

/-- A request on whole sen that voids no charge, hides no cash payment as credit, and applies credit only
to invoices of the unit's own condo. -/
structure KeepsCash (env : Env) (db : Db) (request : Request) : Prop where
  whole : request.op.Whole
  voids : ∀ invoice ∈ request.voids db, invoice.total = 0
  method : ∀ actor invoiceId dto, request.op = .recordManualPayment actor invoiceId dto →
    dto.method ≠ some "PREPAYMENT_APPLIED"
  credit : ∀ unitId condoId, request.appliesCredit env db = some (unitId, condoId) →
    ∀ invoice ∈ outstandingInvoices db unitId, invoice.condoId = condoId

variable {request : Request}

theorem Arises.keepsCash (arises : Arises env db request change) (keeps : KeepsCash env db request) :
    change.KeepsCash := by
  cases change with
  | voided => exact keeps.voids _ arises.1
  | manual invoice amount method =>
    obtain ⟨actor, dto, op, _, _, rfl⟩ := arises
    exact keeps.method actor invoice.id dto op
  | creditApplied invoice condoId amount =>
    rcases arises with own | ⟨unitId, applies, old, outstanding, same⟩
    · exact own
    · exact (keeps.credit unitId condoId applies old outstanding).symm.trans same.condoId.symm
  | _ => trivial

structure CashInvariant (start : Db) (log : List Request) (db : Db) : Prop where
  state : CashState db fun condoId => prepaymentsReceived start condoId log
  units : db.units = start.units

theorem CashInvariant.step {start : Db} {log : List Request} (holds : CashInvariant start log db)
    (keeps : KeepsCash env db request) (done : Completes env db request after) :
    CashInvariant start (log ++ [request]) after := by
  obtain ⟨changes, refines⟩ := Request.refines holds.state.wellFormed done
  have state := holds.state.run refines.run fun change mem =>
    ⟨(refines.arises change mem).whole keeps.whole, (refines.arises change mem).keepsCash keeps⟩
  have same : request.prepayment? db = request.prepayment? start := by
    simp only [Request.prepayment?, Db.unit?, holds.units]
  have grown : ∀ condoId, prepaymentsReceived start condoId (log ++ [request]) =
      prepaymentsReceived start condoId log + sumBy (Change.prepays condoId) changes := by
    intro condoId
    rw [sumBy_prepays, refines.prepayments, same]
    cases prepaid : request.prepayment? start <;> simp [prepaid, prepaymentsReceived]
  refine ⟨?_, (units_kept refines.run).trans holds.units⟩
  simpa only [grown] using state

/-- Where no charge is voided, the funds of a condo add up to the money it received. -/
theorem fundBalances_eq_cashReceived {start : Db} {log : List Request} (fresh : Fresh start)
    (run : Run (Guarded (KeepsCash env) (Completes env)) start log db) (condoId : Id) :
    sumBy Prod.snd (fundBalances db condoId) = cashReceived start log db condoId := by
  have empty : CashInvariant start [] start := by
    refine ⟨⟨.fresh fresh, .fresh fresh, by simp [GatewayMethods, fresh.payments], fun condoId => ?_⟩, rfl⟩
    simp [ledgerSum, fresh.ledgerEntries, paymentsReceived, succeededSum, fresh.payments,
      prepaymentsReceived, advancesReceived, fresh.advancePayments, depositsOf, fresh.deposits]
  have holds : CashInvariant start log db :=
    run.history_invariant (fun _ _ _ _ holds step => holds.step step.1 step.2) empty
  rw [fundBalances_total, holds.state.balance, cashReceived]
  ring

theorem fundBalances_eq_cashReceived_mixed : ∃ log db,
    Run (Guarded (KeepsCash Sample.env) (Completes Sample.env)) Sample.db log db ∧
      sumBy Prod.snd (fundBalances db 5) = cashReceived Sample.db log db 5 ∧
      sumBy Prod.snd (fundBalances db 5) = 15000 := by
  let log : List Request := [⟨0, .create Sample.admin Sample.invoice⟩,
    ⟨1, .recordManualPayment Sample.admin 0 (Sample.manual (some 4000) (by decide +kernel))⟩,
    ⟨2, .recordPrepayment Sample.admin ⟨7, none, 8000, by decide +kernel⟩⟩,
    ⟨3, .depositRecord Sample.admin ⟨7, none, 5000, none, by decide +kernel⟩⟩,
    ⟨4, .depositRefund Sample.admin 5 ⟨some 2000, false, by decide +kernel⟩⟩]
  let check : Db → Request → Bool := fun db request =>
    decide ((∀ invoice ∈ request.voids db, invoice.total = 0) ∧
      ∀ pair ∈ request.appliesCredit Sample.env db, ∀ invoice ∈ outstandingInvoices db pair.1,
        invoice.condoId = pair.2)
  have ends : (runAll Sample.env check Sample.db log).map
      (fun db => sumBy Prod.snd (fundBalances db 5)) = .ok 15000 := by
    decide +kernel
  have allowed : ∀ request ∈ log, request.op.Whole ∧ ∀ actor invoiceId dto,
      request.op = .recordManualPayment actor invoiceId dto → dto.method ≠ some "PREPAYMENT_APPLIED" := by
    simp [log, Op.Whole, Sample.invoice, Sample.manual, Sample.maintenance_whole]
    exact ⟨.ofNat 4000, .ofNat 8000, .ofNat 5000, .ofNat 2000⟩
  obtain ⟨db, ran, total⟩ := map_eq_ok.mp ends
  have run : Run (Guarded (KeepsCash Sample.env) (Completes Sample.env)) Sample.db log db := by
    refine (run_of_runAll allowed ran).mono ?_
    rintro before request after ⟨⟨⟨whole, method⟩, checked⟩, done⟩
    obtain ⟨voids, credit⟩ := of_decide_eq_true checked
    exact ⟨⟨whole, voids, method, fun unitId condoId applies => credit _ applies⟩, done⟩
  exact ⟨log, db, run, fundBalances_eq_cashReceived Sample.db_fresh run 5, total⟩

theorem fundBalances_overdrawn : ¬ ∀ (env : Env) (start db : Db) (log : List Request) (condoId : Id),
    Fresh start → Run (Guarded (fun _ request => request.op.Whole) (Completes env)) start log db →
    sumBy Prod.snd (fundBalances db condoId) = cashReceived start log db condoId := by
  intro conserved
  let log : List Request := [⟨0, .create Sample.admin Sample.invoice⟩, ⟨1, .voidInvoice Sample.admin 0⟩]
  have ends : (runAll Sample.env (fun _ _ => true) Sample.db log).map
      (fun db => (sumBy Prod.snd (fundBalances db 5), cashReceived Sample.db log db 5)) =
        .ok (-10000, 0) := by
    decide +kernel
  have whole : ∀ request ∈ log, request.op.Whole := by
    simpa [log, Op.Whole, Sample.invoice] using Sample.maintenance_whole
  obtain ⟨db, ran, figures⟩ := map_eq_ok.mp ends
  have run : Run (Guarded (fun _ request => request.op.Whole) (Completes Sample.env)) Sample.db log db :=
    (run_of_runAll whole ran).mono fun _ _ _ step => ⟨step.1.1, step.2⟩
  have same := conserved Sample.env Sample.db db log 5 Sample.db_fresh run
  simp only [Prod.mk.injEq] at figures
  omega

end SmartResidence.Billing
