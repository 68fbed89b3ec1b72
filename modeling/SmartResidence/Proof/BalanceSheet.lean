import SmartResidence.Billing.FinancialStatements
import SmartResidence.Proof.DepositNeutrality

/-!
# When the balance sheet balances

It has no line for the cash of the funds other than `DEPOSIT`, and takes unit credits as they are now.
-/

namespace SmartResidence.Billing

open Foundation List

variable {env : Env} {start db after : Db} {change : Change} {request : Request}

theorem lineIfOwed_total (label : String) (amount : ℤ) :
    sumBy FinancialStatementLineItem.amount (lineIfOwed label amount) = max 0 amount := by
  rw [lineIfOwed]
  split
  · rename_i owed
    simp [(half_lt_cast.mp owed).le]
  · rename_i settled
    rw [half_lt_cast, not_lt] at settled
    simp [settled]

theorem sectionOf_total (title : String) (lines : List FinancialStatementLineItem) :
    (sectionOf title lines).total = sumBy FinancialStatementLineItem.amount lines :=
  mathRound_intCast _

theorem shown_total (lines : List FinancialStatementLineItem) :
    sumBy FinancialStatementLineItem.amount (lines.filter fun line => line.amount ≠ 0) =
      sumBy FinancialStatementLineItem.amount lines := by
  rw [sumBy_filter]
  refine sumBy_congr fun line _ => ?_
  by_cases zero : line.amount = 0 <;> simp [zero]

theorem balanceSheet_totals (db : Db) (condoId : Id) (asOf : Instant) : (balanceSheet db condoId asOf).totalAssets =
        max 0 (receivablesAsOf db condoId asOf) + max 0 (fundBalanceAsOf db condoId asOf .deposit) ∧
      (balanceSheet db condoId asOf).totalLiabilitiesAndFunds =
        max 0 (fundBalanceAsOf db condoId asOf .deposit) + max 0 (creditLiability db condoId) +
          (fundBalanceAsOf db condoId asOf .maintenance + fundBalanceAsOf db condoId asOf .sinkingFund +
            fundBalanceAsOf db condoId asOf .general) := by
  simp only [balanceSheet, sectionOf_total, sumBy_append, lineIfOwed_total, shown_total, mathRound_intCast]
  constructor
  · simp [fundBalancesAsOf, ledgerFunds, findBy]
  · simp [fundBalancesAsOf, ledgerFunds, findBy]
    ring

variable {condoId : Id} {asOf : Instant}

theorem balanceSheet_congr
    (funds : ∀ fund, fundBalanceAsOf after condoId asOf fund = fundBalanceAsOf db condoId asOf fund)
    (receivables : receivablesAsOf after condoId asOf = receivablesAsOf db condoId asOf)
    (credits : creditLiability after condoId = creditLiability db condoId) :
    balanceSheet after condoId asOf = balanceSheet db condoId asOf := by
  have balances : fundBalancesAsOf after condoId asOf = fundBalancesAsOf db condoId asOf := by
    simp only [fundBalancesAsOf, funds]
  simp only [balanceSheet, balances, receivables, credits]

def countedAsOf (condoId : Id) (asOf : Instant) (fund : LedgerFund) (posting : LedgerPosting) : ℤ :=
  if posting.condoId = condoId ∧ posting.fund = fund ∧ posting.type ≠ .charge ∧ posting.occurredAt ≤ asOf
  then posting.amount else 0

theorem fundBalanceAsOf_eq (db : Db) (condoId : Id) (asOf : Instant) (fund : LedgerFund) :
    fundBalanceAsOf db condoId asOf fund = ledgerSum (countedAsOf condoId asOf fund) db.ledgerEntries := by
  rw [fundBalanceAsOf, sumBy_filter]
  refine sumBy_congr fun entry _ => ?_
  simp only [countedAsOf, decide_eq_true_eq]

def Moneyless (posting : LedgerPosting) : Prop :=
  posting.amount = 0 ∨ posting.fund = .deposit ∧ ∃ depositId, posting.source = .deposit depositId

structure OnlyDeposits (db : Db) : Prop where
  totals : ∀ invoice ∈ db.invoices, invoice.total = 0
  payments : ∀ payment ∈ db.payments, payment.amount = 0
  credits : ∀ account ∈ db.unitAccounts, account.creditBalance = 0
  entries : ∀ entry ∈ db.ledgerEntries, Moneyless entry.toLedgerPosting

namespace OnlyDeposits

theorem fresh (empty : Fresh db) : OnlyDeposits db where
  totals := by simp [empty.invoices]
  payments := by simp [empty.payments]
  credits := by simp [empty.unitAccounts]
  entries := by simp [empty.ledgerEntries]

variable (only : OnlyDeposits db)
include only

theorem receivables (condoId : Id) (asOf : Instant) : receivablesAsOf db condoId asOf = 0 := by
  have none : ∀ invoice ∈ receivableInvoices db condoId asOf, outstandingAsOf db asOf invoice = 0 := by
    intro invoice listed
    have total := only.totals invoice (mem_of_mem_filter listed)
    rw [outstandingAsOf, total, zero_sub, neg_eq_zero]
    exact sumBy_zero _ fun payment mem => only.payments payment (mem_of_mem_filter mem)
  rw [receivablesAsOf]
  simp only [mathRound_intCast]
  refine sumBy_zero _ fun invoice listed => ?_
  simp [none invoice listed]

theorem creditLiability (condoId : Id) : creditLiability db condoId = 0 :=
  sumBy_zero _ fun account mem => only.credits account (mem_of_mem_filter mem)

theorem fundBalance (condoId : Id) (asOf : Instant) {fund : LedgerFund} (other : fund ≠ .deposit) :
    fundBalanceAsOf db condoId asOf fund = 0 := by
  rw [fundBalanceAsOf_eq]
  refine sumBy_zero _ fun entry mem => ?_
  rw [countedAsOf]
  split
  · rename_i counted
    rcases only.entries entry mem with zero | ⟨own, _⟩
    · exact zero
    · exact absurd (counted.2.1.symm.trans own) other
  · rfl

theorem getCredit (unitId : Id) : db.getCredit unitId = 0 := by
  rw [Db.getCredit]
  split
  · rename_i account read
    exact only.credits account (mem_of_findBy read).1
  · rfl

theorem balances (condoId : Id) (asOf : Instant) : (balanceSheet db condoId asOf).totalAssets =
    (balanceSheet db condoId asOf).totalLiabilitiesAndFunds := by
  obtain ⟨assets, liabilities⟩ := balanceSheet_totals db condoId asOf
  have none := fun fund other => @fundBalance db only condoId asOf fund other
  rw [assets, liabilities, only.receivables, only.creditLiability, none .maintenance (by simp),
    none .sinkingFund (by simp), none .general (by simp)]
  simp

end OnlyDeposits

/-! ## What keeps it so -/

def Change.BringsNothing : Change → Prop
  | .issued draft => stored draft.subtotal = 0 ∧ ∀ line ∈ draft.lines, stored line.amount = 0
  | .manual _ amount _ => stored amount = 0
  | .prepaid _ _ amount => stored amount = 0
  | .advanceConfirmed advance => advance.amount = 0
  | .depositForfeited _ amount => stored amount = 0
  | _ => True

def Change.OnDeposit : Change → Prop
  | .depositHeld _ _ _ | .depositRefunded _ _ | .depositForfeited _ _ => True
  | _ => False

theorem shareOut_zero (total : ℤ) (funds : List (LedgerFund × ℤ)) :
    ∀ share ∈ shareOut 0 total 0 funds, share.2 = 0 := by
  induction funds with
  | nil => simp [shareOut]
  | cons pair rest ih =>
    obtain ⟨fund, fundTotal⟩ := pair
    cases rest with
    | nil => simp [shareOut]
    | cons next rest =>
      have none : mathRound (((0 : ℤ) : ℚ) * fundTotal / total) = 0 := by
        simpa using mathRound_intCast 0
      rw [shareOut, none]
      intro share mem
      rcases mem_cons.mp mem with rfl | later
      · rfl
      · exact ih share later

theorem paymentPostings_zero {invoice : Invoice} {paymentId : Id} {occurredAt : Instant}
    {actorUserId : Option Id} {posting : LedgerPosting}
    (mem : posting ∈ paymentPostings invoice paymentId 0 occurredAt actorUserId) : posting.amount = 0 := by
  obtain ⟨allocation, inside, rfl⟩ := mem_paymentPostings mem
  rw [allocationsOf] at inside
  split at inside
  · exact shareOut_zero _ _ allocation inside
  · rw [mem_singleton.mp inside]
    rfl

theorem upsertAccount_zero {accounts : List UnitAccount} {unitId : Id}
    (zero : ∀ account ∈ accounts, account.creditBalance = 0) {account : UnitAccount}
    (mem : account ∈ upsertAccount accounts condoId unitId 0) : account.creditBalance = 0 := by
  rw [upsertAccount] at mem
  split at mem
  · obtain ⟨old, found, rfl⟩ := mem_updateBy.mp mem
    split <;> simp [zero old found]
  · rcases mem_append.mp mem with old | new
    · exact zero account old
    · rw [mem_singleton.mp new]

section

variable (commit : Commit db change after) (wf : WellFormed db) (only : OnlyDeposits db)
  (brings : change.BringsNothing)
include commit wf only brings

theorem Commit.appended : ∃ postings, after.ledgerEntries = appendPostings db.ledgerEntries postings ∧
    (∀ posting ∈ postings, Moneyless posting) ∧
    (¬ change.OnDeposit → ∀ posting ∈ postings, posting.amount = 0) := by
  have zero : ∀ {postings : List LedgerPosting}, after.ledgerEntries = appendPostings db.ledgerEntries postings →
      (∀ posting ∈ postings, posting.amount = 0) →
      ∃ postings, after.ledgerEntries = appendPostings db.ledgerEntries postings ∧
        (∀ posting ∈ postings, Moneyless posting) ∧
        (¬ change.OnDeposit → ∀ posting ∈ postings, posting.amount = 0) :=
    fun same none => ⟨_, same, fun posting mem => .inl (none posting mem), fun _ => none⟩
  cases commit with
  | issued =>
    refine zero rfl fun posting mem => ?_
    obtain ⟨index, line, found, rfl⟩ := mem_chargePostings mem
    exact brings.2 line (mem_of_getElem? found)
  | confirmed mem pending =>
    have pos := wf.pendingAmounts _ mem pending
    exact absurd (only.payments _ mem) (ne_of_gt pos)
  | manual =>
    refine zero rfl fun posting mem => ?_
    rw [show (manualPayment _ _ _ _ _ _).amount = 0 from brings] at mem
    exact paymentPostings_zero mem
  | creditApplied _ _ pos _ covered =>
    rw [only.getCredit] at covered
    exact absurd covered (not_le.mpr pos)
  | @advanceConfirmed now advance =>
    have none : advance.amount = 0 := brings
    exact @zero [_] rfl (by simp [advancePosting, succeedAdvance, none])
  | @prepaid now condoId actorId dto =>
    have none : stored dto.amount = 0 := brings
    exact @zero [_] rfl (by simp [prepaymentPosting, none])
  | @voided now invoice actorUserId =>
    refine zero rfl fun posting mem => ?_
    obtain ⟨charge, listed, source, _, rfl⟩ := mem_voidPostings mem
    rcases only.entries charge listed with none | ⟨_, depositId, own⟩
    · simp [voidPosting, none]
    · rw [source] at own
      cases own
  | depositHeld =>
    exact ⟨[_], rfl, by simp [Moneyless, depositHeldPosting], fun other => absurd trivial other⟩
  | depositRefunded =>
    exact ⟨[_], rfl, by simp [Moneyless, depositPosting], fun other => absurd trivial other⟩
  | depositForfeited =>
    have none : stored _ = 0 := brings
    exact ⟨[_, _], rfl, by simp [Moneyless, depositPosting, none], fun other => absurd trivial other⟩
  | _ => exact @zero [] rfl (by simp)

theorem Commit.onlyDeposits : OnlyDeposits after where
  totals := by
    intro row mem
    rcases commit.invoice_origin mem with ⟨old, found, same⟩ | ⟨_, draft, now, rfl, rfl⟩
    · rw [same.total, only.totals old found]
    · exact brings.1
  payments := by
    intro row mem
    cases commit with
    | paymentsMarked quiet =>
      obtain ⟨old, found, rfl⟩ := mem_updateWhere.mp mem
      split
      · rename_i pick
        rw [(quiet old found pick).amount, only.payments old found]
      · exact only.payments old found
    | paymentOpened found _ owed =>
      have paid := wf.paidSoFar_nonneg
      rw [only.totals _ found, wf.amountPaid _ found] at owed
      exact absurd owed (by simpa using paid _)
    | confirmed found pending =>
      have pos := wf.pendingAmounts _ found pending
      exact absurd (only.payments _ found) (ne_of_gt pos)
    | manual =>
      rcases mem_append.mp mem with old | new
      · exact only.payments row old
      · rw [mem_singleton.mp new]
        exact brings
    | creditApplied _ _ pos _ covered =>
      rw [only.getCredit] at covered
      exact absurd covered (not_le.mpr pos)
    | _ => exact only.payments row mem
  credits := by
    intro account mem
    cases commit with
    | creditApplied _ _ pos _ covered =>
      rw [only.getCredit] at covered
      exact absurd covered (not_le.mpr pos)
    | @advanceConfirmed now advance => exact upsertAccount_zero only.credits (brings ▸ mem)
    | prepaid => exact upsertAccount_zero only.credits (brings ▸ mem)
    | _ => exact only.credits account mem
  entries := by
    intro entry mem
    obtain ⟨postings, same, moneyless, _⟩ := commit.appended wf only brings
    rw [same] at mem
    rcases mem_appendPostings mem with old | new
    · exact only.entries entry old
    · exact moneyless _ new

end

/-! ## Requests -/

def Op.BringsNothing (env : Env) (db : Db) : Op → Prop
  | .recordManualPayment _ invoiceId dto =>
      ∀ invoice ∈ db.invoice? invoiceId, stored (manualAmount invoice dto) = 0
  | .recordPrepayment _ dto => stored dto.amount = 0
  | .markAdvancePaymentSucceeded ref => ∀ advance ∈ findAdvancePaymentByProviderRef env db ref,
      advance.status = .pending → advance.amount = 0
  | .depositRefund _ depositId dto => dto.forfeit →
      ∀ deposit ∈ db.deposit? depositId, stored (refundFigures deposit dto).amount = 0
  | _ => True

structure BringsNothing (env : Env) (db : Db) (request : Request) : Prop where
  bills : ∀ draft ∈ request.drafts db, stored draft.subtotal = 0
  money : request.op.BringsNothing env db

theorem Arises.bringsNothing (arises : Arises env db request change)
    (brings : BringsNothing env db request) : change.BringsNothing := by
  cases change with
  | issued draft =>
    have nonneg := arises.lines_nonneg
    refine ⟨brings.bills draft arises, fun line mem => ?_⟩
    have part : line.amount ≤ draft.subtotal := by
      refine single_le_sum (fun amount inside => ?_) _ (mem_map_of_mem mem)
      obtain ⟨other, listed, rfl⟩ := mem_map.mp inside
      exact nonneg other listed
    have whole : 0 ≤ draft.subtotal := (nonneg line mem).trans part
    have small := (stored_le_iff whole).mp (brings.bills draft arises).le
    have less := (stored_le_iff (nonneg line mem)).mpr (lt_of_le_of_lt part small)
    exact le_antisymm less (roundHalfAway_nonneg (nonneg line mem))
  | manual invoice amount method =>
    obtain ⟨actor, dto, op, read, rfl, rfl⟩ := arises
    have money := brings.money
    rw [op] at money
    exact money invoice read
  | prepaid condoId unitId amount =>
    obtain ⟨actor, dto, op, rfl⟩ := arises
    have money := brings.money
    rw [op] at money
    exact money
  | advanceConfirmed advance =>
    obtain ⟨ref, op, found, pending⟩ := arises
    have money := brings.money
    rw [op] at money
    exact money advance found pending
  | depositForfeited deposit amount =>
    obtain ⟨actor, dto, op, rfl, forfeit, read⟩ := arises
    have money := brings.money
    rw [op] at money
    exact money forfeit deposit read
  | _ => trivial

theorem Arises.onDeposit (arises : Arises env db request change) (onDeposit : change.OnDeposit) :
    request.op.OnDeposit := by
  cases change with
  | depositHeld =>
    rcases arises with ⟨actor, dto, op, _⟩ | ⟨input, op, _⟩
    · exact op ▸ trivial
    · exact op ▸ trivial
  | depositRefunded =>
    rcases arises with ⟨actor, op, _⟩ | ⟨actor, dto, op, _⟩
    · exact op ▸ trivial
    · exact op ▸ trivial
  | depositForfeited =>
    obtain ⟨actor, dto, op, _⟩ := arises
    exact op ▸ trivial
  | _ => exact onDeposit.elim

variable {changes : List Change}

theorem OnlyDeposits.run (run : Run Commit db changes after) (sound : Sound OnlyDeposits db)
    (brings : ∀ change ∈ changes, change.BringsNothing) : Sound OnlyDeposits after := by
  refine run.invariant_on Change.BringsNothing ?_ sound brings
  intro before change after brings sound commit
  exact ⟨commit.wellFormed sound.wellFormed, commit.onlyDeposits sound.wellFormed sound.holds brings⟩

theorem ledgerSum_kept (run : Run Commit db changes after) (sound : Sound OnlyDeposits db)
    (brings : ∀ change ∈ changes, change.BringsNothing) (other : ∀ change ∈ changes, ¬ change.OnDeposit)
    {measure : LedgerPosting → ℤ} (vanishes : ∀ posting, posting.amount = 0 → measure posting = 0) :
    ledgerSum measure after.ledgerEntries = ledgerSum measure db.ledgerEntries := by
  induction run with
  | done => rfl
  | snoc earlier commit ih =>
    have before := ih (fun change mem => brings change (mem_append_left _ mem))
      fun change mem => other change (mem_append_left _ mem)
    have middle := OnlyDeposits.run earlier sound fun change mem => brings change (mem_append_left _ mem)
    obtain ⟨postings, same, _, zero⟩ := commit.appended middle.wellFormed middle.holds
      (brings _ (mem_append_right _ (mem_singleton.mpr rfl)))
    have none := zero (other _ (mem_append_right _ (mem_singleton.mpr rfl)))
    rw [same, ledgerSum_appendPostings_zero measure fun posting mem => vanishes posting (none posting mem), before]

theorem deposit_entries (onDeposit : request.op.OnDeposit) (done : Completes env db request after) :
    ∃ postings, after.ledgerEntries = appendPostings db.ledgerEntries postings ∧
      ∀ posting ∈ postings, LedgerPosting.occurredAt posting = request.now := by
  have recorded : ∀ {now : Instant} {input : RecordDepositInput}, depositRecordInTx now db input = .ok after →
      ∃ postings, after.ledgerEntries = appendPostings db.ledgerEntries postings ∧
        ∀ posting ∈ postings, LedgerPosting.occurredAt posting = now := by
    intro now input done
    simp only [depositRecordInTx, bind_eq_ok, pure_eq_ok] at done
    obtain ⟨receipted, issue, rfl⟩ := done
    obtain ⟨receipts, rfl, _⟩ := issueInTx_effect issue
    exact ⟨[_], rfl, by simp [depositHeldPosting]⟩
  obtain ⟨now, op⟩ := request
  cases op with
  | depositRecord actor dto =>
    simp only [Completes, Request.run, Billing.depositRecord, bind_eq_ok] at done
    obtain ⟨unit, _, _, _, _, _, record⟩ := done
    exact recorded record
  | depositRecordInTx input => exact recorded done
  | refundHeldInTx depositId actorUserId =>
    obtain ⟨⟨_, _⟩, op, same⟩ := bind_eq_ok.mp done
    cases same
    rw [Billing.refundHeldInTx] at op
    split at op
    · simp only [pure_eq_ok, Prod.mk.injEq] at op
      exact ⟨[], by rw [op.1]; rfl, by simp⟩
    · simp only [cast_le_half] at op
      split at op
      · simp only [pure_eq_ok, Prod.mk.injEq] at op
        exact ⟨[], by rw [op.1]; rfl, by simp⟩
      · simp only [bind_eq_ok] at op
        obtain ⟨receipted, issue, rfl, _⟩ := op
        obtain ⟨receipts, rfl, _⟩ := issueInTx_effect issue
        exact ⟨[_], rfl, by simp [depositPosting]⟩
  | depositRefund actor depositId dto =>
    simp only [Completes, Request.run, Billing.depositRefund, refundInTx, bind_eq_ok] at done
    obtain ⟨deposit, _, _, _, _, _, _, _, _, _, done⟩ := done
    split at done
    · cases done
      exact ⟨[_, _], rfl, by simp [depositPosting]⟩
    · simp only [bind_eq_ok, pure_eq_ok] at done
      obtain ⟨receipted, issue, rfl⟩ := done
      obtain ⟨receipts, rfl, _⟩ := issueInTx_effect issue
      exact ⟨[_], rfl, by simp [depositPosting]⟩
  | _ => exact onDeposit.elim

theorem OnlyDeposits.step (sound : Sound OnlyDeposits db) (brings : BringsNothing env db request)
    (done : Completes env db request after) : Sound OnlyDeposits after := by
  obtain ⟨changes, refines⟩ := request.refines sound.wellFormed done
  exact OnlyDeposits.run refines.run sound fun change mem => (refines.arises change mem).bringsNothing brings

theorem balanceSheet_later (sound : Sound OnlyDeposits db) (brings : BringsNothing env db request)
    (done : Completes env db request after) (condoId : Id) (later : asOf < request.now) :
    balanceSheet after condoId asOf = balanceSheet db condoId asOf := by
  have still := OnlyDeposits.step sound brings done
  refine balanceSheet_congr (fun fund => ?_) ?_ ?_
  · rw [fundBalanceAsOf_eq, fundBalanceAsOf_eq]
    by_cases onDeposit : request.op.OnDeposit
    · obtain ⟨postings, same, dated⟩ := deposit_entries onDeposit done
      rw [same]
      refine ledgerSum_appendPostings_zero _ fun posting mem => if_neg fun counted => ?_
      rw [dated posting mem] at counted
      exact absurd counted.2.2.2 (not_le.mpr later)
    · obtain ⟨changes, refines⟩ := request.refines sound.wellFormed done
      refine ledgerSum_kept refines.run sound
        (fun change mem => (refines.arises change mem).bringsNothing brings)
        (fun change mem money => onDeposit ((refines.arises change mem).onDeposit money))
        fun posting zero => ?_
      simp [countedAsOf, zero]
  · rw [still.holds.receivables, sound.holds.receivables]
  · rw [still.holds.creditLiability, sound.holds.creditLiability]

/-- Where nothing but deposits is taken and returned, the sheet balances as of every instant, and
later requests leave it as it is. -/
theorem balanceSheet_sound {log : List Request} (fresh : Fresh start)
    (run : Run (Guarded (BringsNothing env) (Completes env)) start log db) (condoId : Id) (asOf : Instant) :
    (balanceSheet db condoId asOf).totalAssets = (balanceSheet db condoId asOf).totalLiabilitiesAndFunds ∧
    ∀ later after, Run (Guarded (BringsNothing env) (Completes env)) db later after →
      (∀ request ∈ later, asOf < request.now) →
      balanceSheet after condoId asOf = balanceSheet db condoId asOf := by
  have sound : Sound OnlyDeposits db := run.invariant
    (fun _ _ _ sound move => OnlyDeposits.step sound move.1 move.2) ⟨.fresh fresh, .fresh fresh⟩
  refine ⟨sound.holds.balances condoId asOf, fun later after rest dated => ?_⟩
  induction rest with
  | done => rfl
  | snoc earlier move ih =>
      have middle : Sound OnlyDeposits _ := earlier.invariant
        (fun _ _ _ sound move => OnlyDeposits.step sound move.1 move.2) sound
      have before := ih fun request member => dated request (List.mem_append_left _ member)
      have last := dated _ (List.mem_append_right _ (List.mem_singleton.mpr rfl))
      rw [balanceSheet_later middle move.1 move.2 condoId last, before]

theorem balanceSheet_sound_deposit : ∃ db,
    (balanceSheet db 5 0).totalAssets = (balanceSheet db 5 0).totalLiabilitiesAndFunds ∧
      (balanceSheet db 5 0).totalAssets = 3000 := by
  let log : List Request := [⟨0, .depositRecord Sample.admin ⟨7, none, 5000, none, by decide +kernel⟩⟩,
    ⟨0, .depositRefund Sample.admin 0 ⟨some 2000, false, by decide +kernel⟩⟩]
  have ends : (runAll Sample.env (fun _ _ => true) Sample.db log).map
      (fun db => (balanceSheet db 5 0).totalAssets) = .ok 3000 := by
    decide +kernel
  have brings : ∀ request ∈ log, ∀ db, BringsNothing Sample.env db request := by
    intro request member db
    simp only [log, List.mem_cons, List.not_mem_nil, or_false] at member
    rcases member with rfl | rfl
    · exact ⟨by simp [Request.drafts], trivial⟩
    · exact ⟨by simp [Request.drafts], by simp [Op.BringsNothing]⟩
  obtain ⟨db, ran, total⟩ := map_eq_ok.mp ends
  have run : Run (Guarded (BringsNothing Sample.env) (Completes Sample.env)) Sample.db log db :=
    (run_of_runAll brings ran).mono fun _ _ _ step => ⟨step.1.1 _, step.2⟩
  exact ⟨db, (balanceSheet_sound Sample.db_fresh run 5 0).1, total⟩

theorem balanceSheet_unbalanced : ¬ ∀ (env : Env) (db : Db) (condoId : Id) (asOf : Instant),
    Reachable env db → (balanceSheet db condoId asOf).totalAssets =
      (balanceSheet db condoId asOf).totalLiabilitiesAndFunds := by
  intro balanced
  let create : Request := ⟨0, .create Sample.admin Sample.invoice⟩
  have ends : (create.run Sample.env Sample.db).map (fun db =>
      ((balanceSheet db 5 0).totalAssets, (balanceSheet db 5 0).totalLiabilitiesAndFunds)) =
        .ok (10000, 0) := by
    decide +kernel
  obtain ⟨db, created, figures⟩ := map_eq_ok.mp ends
  have same := balanced Sample.env db 5 0 ⟨_, _, Sample.db_fresh, .single created⟩
  simp only [Prod.mk.injEq] at figures
  omega

end SmartResidence.Billing
