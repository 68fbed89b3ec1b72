import SmartResidence.Proof.Charges

/-!
# What a unit statement adds up to
-/

namespace SmartResidence.Billing

open Foundation

variable {env : Env} {db after : Db} {change : Change} {unitId : Id}

def signed (posting : LedgerPosting) : ℤ :=
  if posting.type = .charge then posting.amount else - posting.amount

def statementAmount (unitId : Id) (posting : LedgerPosting) : ℤ :=
  if posting.unitId = some unitId ∧ posting.type ≠ .deposit then signed posting else 0

theorem applyLedgerEntry_balance (balance : ℤ) (entry : LedgerEntry) :
    (applyLedgerEntry balance entry).balance = balance + signed entry.toLedgerPosting := by
  have sum : (balance : ℚ) + (if entry.type = .charge then entry.amount else 0 : ℤ) -
      (if entry.type = .charge then 0 else entry.amount : ℤ) = ((balance + signed entry.toLedgerPosting : ℤ) : ℚ) := by
    rw [signed]
    split <;> push_cast <;> ring
  rw [applyLedgerEntry, sum, mathRound_intCast]

theorem statement_fold (start stop : Instant) (entries : List LedgerEntry) (cursor : StatementCursor) :
    (entries.foldl (statementStep start stop) cursor).balance = cursor.balance + ledgerSum signed entries := by
  induction entries generalizing cursor with
  | nil => simp [ledgerSum]
  | cons entry entries ih =>
    have step : (statementStep start stop cursor entry).balance = cursor.balance + signed entry.toLedgerPosting := by
      rw [← applyLedgerEntry_balance, statementStep]
      split
      · rfl
      · split <;> rfl
    rw [List.foldl_cons, ih, step]
    simp only [ledgerSum, sumBy_cons]
    ring

theorem totalOutstanding_eq (db : Db) (unitId : Id) :
    (unitStatement db unitId).totalOutstanding = ledgerSum (statementAmount unitId) db.ledgerEntries := by
  simp only [unitStatement, unitStatementInRange, statement_fold, zero_add, mathRound_intCast]
  rw [ledgerSum, sumBy_perm _ (List.perm_insertionSort _ _), unitLedger, sumBy_filter]
  refine sumBy_congr fun entry _ => ?_
  simp only [statementAmount, decide_eq_true_eq]

def owedFor (unitId : Id) (invoice : Invoice) : ℤ :=
  if invoice.unitId = unitId then invoice.total - invoice.amountPaid else 0

def netOwed (db : Db) (unitId : Id) : ℤ :=
  sumBy (fun invoice => invoice.total - invoice.amountPaid)
    (db.invoices.filter fun invoice => decide (invoice.unitId = unitId ∧ invoice.status ≠ .void)) -
    db.getCredit unitId

theorem getCredit_eq (nodup : (db.unitAccounts.map UnitAccount.unitId).Nodup) {account : UnitAccount}
    (found : account ∈ db.unitAccounts) : db.getCredit account.unitId = account.creditBalance := by
  rw [Db.getCredit, Db.unitAccount?, findBy_of_mem nodup found]

variable {unit : Id} {amount : ℤ}

theorem getCredit_increment (known : ∃ account ∈ db.unitAccounts, account.unitId = unit) :
    (db.incrementCredit unit amount).getCredit unitId = db.getCredit unitId + if unit = unitId then amount else 0 := by
  simp only [Db.getCredit, Db.unitAccount?, Db.incrementCredit, incrementAccount]
  rw [findBy_updateBy]
  swap
  · exact fun _ => rfl
  cases read : findBy UnitAccount.unitId unitId db.unitAccounts with
  | none =>
    have ne : unit ≠ unitId := by
      rintro rfl
      obtain ⟨account, found, same⟩ := known
      exact findBy_eq_none.mp read account found same
    simp [ne]
  | some account =>
    obtain ⟨_, rfl⟩ := mem_of_findBy read
    by_cases same : unit = account.unitId
    · simp [same]
    · simp [same, Ne.symm same]

theorem getCredit_add {condoId : Id} : (db.addCredit condoId unit amount).getCredit unitId =
      db.getCredit unitId + if unit = unitId then amount else 0 := by
  cases read : findBy UnitAccount.unitId unit db.unitAccounts with
  | some account =>
    have same : db.addCredit condoId unit amount = db.incrementCredit unit amount := by
      simp only [Db.addCredit, upsertAccount, read, Db.incrementCredit]
    rw [same]
    exact getCredit_increment ⟨account, mem_of_findBy read⟩
  | none =>
    simp only [Db.getCredit, Db.unitAccount?, Db.addCredit, upsertAccount, read, findBy_append]
    by_cases same : unit = unitId
    · subst same
      rw [read]
      simp [findBy]
    · cases other : findBy UnitAccount.unitId unitId db.unitAccounts <;> simp [findBy, same]

theorem account_of_credit (pos : 0 < db.getCredit unitId) : ∃ account ∈ db.unitAccounts, account.unitId = unitId := by
  rw [Db.getCredit] at pos
  split at pos
  · rename_i account read
    exact ⟨account, mem_of_findBy read⟩
  · exact absurd pos (lt_irrefl 0)

variable {now : Instant} {paid : ℤ} {invoice : Invoice}

theorem sumBy_owedFor_settled (wellFormed : WellFormed db) (found : invoice ∈ db.invoices) :
    sumBy (owedFor unitId) (updateBy Invoice.id invoice.id (settled now paid) db.invoices) =
      sumBy (owedFor unitId) db.invoices -
        if invoice.unitId = unitId then paid - invoice.amountPaid else 0 := by
  rw [sumBy_updateBy _ wellFormed.invoiceIds.distinct found]
  by_cases owner : invoice.unitId = unitId
  · simp only [owedFor, settled, owner, if_true]
    ring
  · simp [owedFor, settled, owner]

/-! ## The invariant -/

structure Conserved (db : Db) : Prop where
  payable : ∀ payment ∈ db.payments, ∀ invoice ∈ db.invoices, invoice.id = payment.invoiceId →
    0 < invoice.total
  voidEmpty : ∀ invoice ∈ db.invoices, invoice.status = .void → invoice.total = 0 ∧ invoice.amountPaid = 0
  balance : ∀ unitId, ledgerSum (statementAmount unitId) db.ledgerEntries =
    sumBy (owedFor unitId) db.invoices - db.getCredit unitId

theorem Conserved.fresh (empty : Fresh db) : Conserved db where
  payable := by simp [empty.payments]
  voidEmpty := by simp [empty.invoices]
  balance := by
    simp [empty.ledgerEntries, empty.invoices, ledgerSum, Db.getCredit, Db.unitAccount?, empty.unitAccounts, findBy]

theorem Conserved.netOwed_eq (conserved : Conserved db) (unitId : Id) :
    (unitStatement db unitId).totalOutstanding = netOwed db unitId := by
  rw [totalOutstanding_eq, conserved.balance, netOwed, sumBy_filter]
  congr 1
  refine sumBy_congr fun invoice found => ?_
  by_cases void : invoice.status = .void
  · obtain ⟨total, paid⟩ := conserved.voidEmpty invoice found void
    simp [owedFor, total, paid]
  · simp [owedFor, void]

theorem voidEmpty_settled {rows : List Invoice} {id : Id} (nonneg : 0 ≤ paid)
    (empty : ∀ row ∈ rows, row.status = .void → row.total = 0 ∧ row.amountPaid = 0) :
    ∀ row ∈ updateBy Invoice.id id (settled now paid) rows,
      row.status = .void → row.total = 0 ∧ row.amountPaid = 0 := by
  intro row mem void
  obtain ⟨old, found, rfl⟩ := mem_updateBy.mp mem
  split at void
  · obtain ⟨status, unpaid, _⟩ := settledStatus_void void
    have := (empty old found status).1
    omega
  · rename_i other
    rw [if_neg other]
    exact empty old found void

def Change.StatementKeeps : Change → Prop
  | .voided invoice _ => invoice.total = 0
  | .depositHeld _ _ _ => False
  | .depositRefunded _ _ => False
  | .depositForfeited _ _ => False
  | _ => True

namespace Commit

variable (commit : Commit db change after) (wellFormed : WellFormed db)
include commit wellFormed

theorem payable (whole : change.Whole) (payable : ∀ payment ∈ db.payments, ∀ invoice ∈ db.invoices,
      invoice.id = payment.invoiceId → 0 < invoice.total) :
    ∀ payment ∈ after.payments, ∀ invoice ∈ after.invoices, invoice.id = payment.invoiceId → 0 < invoice.total := by
  intro payment mem invoice inside owner
  have target : ∃ target ∈ db.invoices, target.id = payment.invoiceId ∧ 0 < target.total := by
    rcases commit.payment_origin mem with
      ⟨old, found, _, same, _⟩ | ⟨_, ⟨target, found, same, _, owed⟩, _⟩
    · obtain ⟨target, known, owner⟩ := List.mem_map.mp (wellFormed.paymentInvoice old found)
      exact ⟨target, known, owner.trans same.symm, payable old found target known owner⟩
    · have paid := wellFormed.paidSoFar_nonneg target.id
      rw [← wellFormed.amountPaid target found] at paid
      exact ⟨target, found, same.symm, lt_of_le_of_lt paid (owed whole)⟩
  obtain ⟨target, found, same, pos⟩ := target
  rw [(commit.sameInvoice wellFormed found inside (same.trans owner.symm)).total]
  exact pos

theorem voidEmpty (keeps : change.StatementKeeps)
    (empty : ∀ row ∈ db.invoices, row.status = .void → row.total = 0 ∧ row.amountPaid = 0) :
    ∀ row ∈ after.invoices, row.status = .void → row.total = 0 ∧ row.amountPaid = 0 := by
  have nonneg := (commit.wellFormed wellFormed).paidSoFar_nonneg
  cases commit with
  | issued =>
    intro row mem void
    rcases List.mem_append.mp mem with old | new
    · exact empty row old void
    · rw [List.mem_singleton] at new
      subst new
      cases void
  | confirmed | manual | creditApplied => exact voidEmpty_settled (nonneg _) empty
  | @voided now invoice _ found active unpaid =>
    intro row mem void
    obtain ⟨old, inside, rfl⟩ := mem_updateBy.mp mem
    by_cases same : old.id = invoice.id
    · obtain rfl := wellFormed.invoice_unique inside found same
      have paid := wellFormed.paidSoFar_nonneg old.id
      rw [← wellFormed.amountPaid old found] at paid
      rw [if_pos rfl]
      exact ⟨keeps, le_antisymm unpaid paid⟩
    · rw [if_neg same] at void ⊢
      exact empty old inside void
  | invoicesMarked quiet =>
    intro row mem void
    obtain ⟨old, found, rfl⟩ := mem_updateWhere.mp mem
    split at void
    · rename_i pick
      have same := quiet old found pick
      rw [if_pos pick, same.total, same.amountPaid]
      rcases same.status with status | ⟨_, status⟩
      · exact empty old found (status ▸ void)
      · rw [status] at void
        cases void
    · rename_i other
      rw [if_neg other]
      exact empty old found void
  | _ => exact empty

omit commit wellFormed in
theorem statement_payments (invoice : Invoice) (paymentId : Id) (amount : ℤ) (occurredAt : Instant)
    (actorUserId : Option Id) :
    sumBy (statementAmount unitId) (paymentPostings invoice paymentId amount occurredAt actorUserId) =
      if invoice.unitId = unitId then - amount else 0 := by
  rw [sumBy_paymentPostings _ fun allocation => if invoice.unitId = unitId then - allocation.2 else 0]
  · split
    · rw [sumBy_neg, sumBy_allocationsOf]
    · exact sumBy_zero _ fun _ _ => rfl
  · intro allocation
    simp [statementAmount, signed, paymentPosting]
  · simp

end Commit

/-! ## What a change does to a unit -/

namespace Change

def chargesUnit (unitId : Id) : Change → ℤ
  | .issued draft => if draft.unitId = unitId then stored draft.subtotal else 0
  | _ => 0

def settlesUnit (db : Db) (unitId : Id) : Change → ℤ
  | .confirmed payment _ => if ∃ invoice ∈ db.invoices, invoice.id = payment.invoiceId ∧
      invoice.unitId = unitId then payment.amount else 0
  | .manual invoice amount _ => if invoice.unitId = unitId then stored amount else 0
  | .creditApplied invoice _ amount => if invoice.unitId = unitId then amount else 0
  | _ => 0

def creditsUnit (unitId : Id) : Change → ℤ
  | .creditApplied invoice _ amount => if invoice.unitId = unitId then - amount else 0
  | .advanceConfirmed advance => if advance.unitId = unitId then advance.amount else 0
  | .prepaid _ unit amount => if unit = unitId then stored amount else 0
  | _ => 0

end Change

theorem owner_iff (wellFormed : WellFormed db) {payment : Payment} (found : invoice ∈ db.invoices)
    (owner : invoice.id = payment.invoiceId) :
    (∃ other ∈ db.invoices, other.id = payment.invoiceId ∧ other.unitId = unitId) ↔ invoice.unitId = unitId := by
  constructor
  · rintro ⟨other, mem, same, unit⟩
    rwa [wellFormed.invoice_unique found mem (owner.trans same.symm)]
  · exact fun unit => ⟨invoice, found, owner, unit⟩

theorem Commit.owed (commit : Commit db change after) (wellFormed : WellFormed db) (unitId : Id) :
    sumBy (owedFor unitId) after.invoices =
      sumBy (owedFor unitId) db.invoices + change.chargesUnit unitId - change.settlesUnit db unitId := by
  have paid := commit.paid wellFormed.paymentIds.distinct
  have before := wellFormed.amountPaid
  have settles : ∀ (now : Instant) (invoice : Invoice), invoice ∈ db.invoices → sumBy (owedFor unitId)
        (updateBy Invoice.id invoice.id (settled now (paidSoFar after invoice.id)) db.invoices) =
      sumBy (owedFor unitId) db.invoices -
        if invoice.unitId = unitId then change.paidFor invoice.id else 0 := by
    intro now invoice found
    rw [sumBy_owedFor_settled wellFormed found, paid, before invoice found, add_sub_cancel_left]
  cases commit with
  | issued =>
    simp [owedFor, InvoiceDraft.row, Change.chargesUnit, Change.settlesUnit]
  | confirmed _ _ found owner =>
    refine (settles _ _ found).trans ?_
    simp only [Change.chargesUnit, Change.settlesUnit, Change.paidFor, owner, if_true,
      owner_iff wellFormed found owner, add_zero]
  | manual found =>
    refine (settles _ _ found).trans ?_
    simp [Change.chargesUnit, Change.settlesUnit, Change.paidFor]
  | creditApplied found =>
    refine (settles _ _ found).trans ?_
    simp [Change.chargesUnit, Change.settlesUnit, Change.paidFor]
  | voided found =>
    simp only [Change.chargesUnit, Change.settlesUnit, add_zero, sub_zero]
    exact sumBy_updateWhere_kept fun _ _ _ => rfl
  | invoicesMarked quiet =>
    simp only [Change.chargesUnit, Change.settlesUnit, add_zero, sub_zero]
    refine sumBy_updateWhere_kept fun row found pick => ?_
    have same := quiet row found pick
    rw [owedFor, owedFor, same.unitId, same.total, same.amountPaid]
  | _ => exact ((sub_zero _).trans (add_zero _)).symm

theorem getCredit_congr {other : Db} (same : other.unitAccounts = db.unitAccounts) :
    other.getCredit unitId = db.getCredit unitId := by
  simp only [Db.getCredit, Db.unitAccount?, same]

theorem Commit.credit (commit : Commit db change after) (unitId : Id) :
    after.getCredit unitId = db.getCredit unitId + change.creditsUnit unitId := by
  cases commit with
  | @creditApplied now invoice condoId amount receipts nextId _ _ pos _ covered =>
    have known := account_of_credit (lt_of_lt_of_le pos covered)
    exact @getCredit_increment (settledBy now (db.insertPayment _) invoice _ none receipts nextId)
      unitId _ _ known
  | advanceConfirmed => exact getCredit_add
  | prepaid => exact getCredit_add
  | _ => exact (getCredit_congr rfl).trans (add_zero _).symm

theorem Posts.statement {postings : List LedgerPosting} (posts : Posts db change postings)
    (wellFormed : WellFormed db) (charged : Charged db) (whole : change.Whole)
    (keeps : change.StatementKeeps) (unitId : Id) : sumBy (statementAmount unitId) postings =
      change.chargesUnit unitId - change.settlesUnit db unitId - change.creditsUnit unitId := by
  cases posts with
  | @issued now draft actorUserId =>
    simp only [Change.chargesUnit, Change.settlesUnit, Change.creditsUnit, sub_zero]
    split
    · rename_i owner
      exact sumBy_chargePostings _ whole fun index line => by
        simp [statementAmount, signed, chargePosting, InvoiceDraft.row, owner]
    · rename_i other
      refine sumBy_zero _ fun posting mem => ?_
      obtain ⟨index, line, _, rfl⟩ := mem_chargePostings mem
      simp [statementAmount, chargePosting, InvoiceDraft.row, other]
  | confirmed found owner =>
    simp only [Commit.statement_payments, Change.chargesUnit, Change.settlesUnit, Change.creditsUnit,
      owner_iff wellFormed found owner]
    split <;> simp
  | manual =>
    simp only [Commit.statement_payments, Change.chargesUnit, Change.settlesUnit, Change.creditsUnit]
    split <;> simp
  | @creditApplied _ invoice =>
    simp only [sumBy_append, Commit.statement_payments, Change.chargesUnit, Change.settlesUnit, Change.creditsUnit]
    by_cases owner : invoice.unitId = unitId <;>
      simp [owner, statementAmount, signed, prepaymentAppliedPosting]
  | @advanceConfirmed now advance =>
    by_cases owner : advance.unitId = unitId <;>
      simp [owner, statementAmount, signed, advancePosting, succeedAdvance, Change.chargesUnit,
        Change.settlesUnit, Change.creditsUnit]
  | @prepaid now condoId unit =>
    by_cases owner : unit = unitId <;>
      simp [owner, statementAmount, signed, prepaymentPosting, Change.chargesUnit, Change.settlesUnit,
        Change.creditsUnit]
  | @voided now invoice actorUserId _ found =>
    by_cases owner : invoice.unitId = unitId
    · have entire : sumBy (statementAmount unitId) (voidPostings now db.ledgerEntries invoice actorUserId) =
          1 * ledgerSum (chargedFor invoice.id) db.ledgerEntries :=
        sumBy_voidPostings _ 1 fun charge => by simp [statementAmount, signed, voidPosting, owner]
      rw [entire, charged invoice found, one_mul]
      exact keeps
    · refine sumBy_zero _ fun posting mem => ?_
      obtain ⟨charge, _, _, _, rfl⟩ := mem_voidPostings mem
      simp [statementAmount, voidPosting, owner]
  | depositHeld | depositRefunded | depositForfeited => exact keeps.elim
  | _ => rfl

theorem Commit.conserved (commit : Commit db change after) (wellFormed : WellFormed db)
    (charged : Charged db) (whole : change.Whole) (keeps : change.StatementKeeps)
    (conserved : Conserved db) : Conserved after where
  payable := commit.payable wellFormed whole conserved.payable
  voidEmpty := commit.voidEmpty wellFormed keeps conserved.voidEmpty
  balance := by
    intro unitId
    obtain ⟨postings, posts, grown⟩ := commit.ledgerSum_eq wellFormed whole
    rw [grown, posts.statement wellFormed charged whole keeps, conserved.balance, commit.owed wellFormed, commit.credit]
    ring

/-! ## Runs -/

def Op.Bills : Op → Prop
  | .depositRecord _ _ => False
  | .depositRecordInTx _ => False
  | .refundHeldInTx _ _ => False
  | .depositRefund _ _ _ => False
  | _ => True

structure KeepsStatement (db : Db) (request : Request) : Prop where
  bills : request.op.Bills
  whole : request.op.Whole
  voids : ∀ invoice ∈ request.voids db, invoice.total = 0

variable {request : Request}

theorem Arises.keeps_statement (arises : Arises env db request change) (keeps : KeepsStatement db request) :
    change.StatementKeeps := by
  obtain ⟨now, op⟩ := request
  have bills := keeps.bills
  cases change with
  | voided => exact keeps.voids _ arises.1
  | depositHeld =>
    rcases arises with ⟨actor, dto, rfl, _⟩ | ⟨input, rfl, _⟩
    · exact bills
    · exact bills
  | depositRefunded =>
    rcases arises with ⟨actor, rfl, _⟩ | ⟨actor, dto, rfl, _⟩
    · exact bills
    · exact bills
  | depositForfeited =>
    obtain ⟨actor, dto, rfl, _⟩ := arises
    exact bills
  | _ => trivial

structure StatementInvariant (db : Db) : Prop where
  wellFormed : WellFormed db
  charged : Charged db
  conserved : Conserved db

theorem StatementInvariant.step (holds : StatementInvariant db) (keeps : KeepsStatement db request)
    (done : Completes env db request after) : StatementInvariant after := by
  obtain ⟨changes, refines⟩ := Request.refines holds.wellFormed done
  refine Run.invariant_on (fun change => change.Whole ∧ change.StatementKeeps) ?_ holds
    refines.run fun change mem => ?_
  · rintro before change next ⟨whole, keeps⟩ ⟨wellFormed, charged, conserved⟩ commit
    exact ⟨commit.wellFormed wellFormed, commit.charged wellFormed whole charged,
      commit.conserved wellFormed charged whole keeps conserved⟩
  · have arises := refines.arises change mem
    exact ⟨arises.whole keeps.whole, arises.keeps_statement keeps⟩

/-- In a run that voids no charge, a statement says what the unit owes less its credit. -/
theorem totalOutstanding_eq_netOwed {start : Db} {log : List Request} (fresh : Fresh start)
    (run : Run (Guarded KeepsStatement (Completes env)) start log db) (unitId : Id) :
    (unitStatement db unitId).totalOutstanding = netOwed db unitId := by
  have holds : StatementInvariant db :=
    run.invariant (fun _ _ _ holds step => holds.step step.1 step.2)
      ⟨.fresh fresh, .fresh fresh, .fresh fresh⟩
  exact holds.conserved.netOwed_eq unitId

theorem totalOutstanding_partly_paid : ∃ log db,
    Run (Guarded KeepsStatement (Completes Sample.env)) Sample.db log db ∧
      (unitStatement db 7).totalOutstanding = netOwed db 7 ∧ netOwed db 7 = 6000 := by
  let log : List Request := [⟨0, .create Sample.admin Sample.invoice⟩,
    ⟨1, .recordManualPayment Sample.admin 0 (Sample.manual (some 4000) (by decide +kernel))⟩]
  let check : Db → Request → Bool := fun db request =>
    decide (∀ invoice ∈ request.voids db, invoice.total = 0)
  have ends : (runAll Sample.env check Sample.db log).map (fun db => netOwed db 7) = .ok 6000 := by
    decide +kernel
  have allowed : ∀ request ∈ log, request.op.Bills ∧ request.op.Whole := by
    simpa [log, Op.Bills, Op.Whole, Sample.invoice, Sample.manual] using
      And.intro Sample.maintenance_whole (Whole.ofNat 4000)
  obtain ⟨db, ran, owed⟩ := map_eq_ok.mp ends
  have run : Run (Guarded KeepsStatement (Completes Sample.env)) Sample.db log db := by
    refine (run_of_runAll allowed ran).mono ?_
    rintro before request after ⟨⟨⟨bills, whole⟩, voids⟩, done⟩
    exact ⟨⟨bills, whole, of_decide_eq_true voids⟩, done⟩
  exact ⟨log, db, run, totalOutstanding_eq_netOwed Sample.db_fresh run 7, owed⟩

theorem totalOutstanding_doubled : ¬ ∀ (env : Env) (start db : Db) (log : List Request) (unitId : Id),
    Fresh start →
    Run (Guarded (fun _ request => request.op.Bills ∧ request.op.Whole) (Completes env)) start log db →
    (unitStatement db unitId).totalOutstanding = netOwed db unitId := by
  intro conserved
  let log : List Request := [⟨0, .create Sample.admin Sample.invoice⟩, ⟨1, .voidInvoice Sample.admin 0⟩]
  have ends : (runAll Sample.env (fun _ _ => true) Sample.db log).map
      (fun db => ((unitStatement db 7).totalOutstanding, netOwed db 7)) = .ok (20000, 0) := by
    decide +kernel
  have allowed : ∀ request ∈ log, request.op.Bills ∧ request.op.Whole := by
    simpa [log, Op.Bills, Op.Whole, Sample.invoice] using Sample.maintenance_whole
  obtain ⟨db, ran, figures⟩ := map_eq_ok.mp ends
  have run : Run (Guarded (fun _ request => request.op.Bills ∧ request.op.Whole)
      (Completes Sample.env)) Sample.db log db :=
    (run_of_runAll allowed ran).mono fun _ _ _ step => ⟨step.1.1, step.2⟩
  have same := conserved Sample.env Sample.db db log 7 Sample.db_fresh run
  simp only [Prod.mk.injEq] at figures
  omega

end SmartResidence.Billing
