import SmartResidence.Proof.Postings

/-!
# What was paid as a deposit is held, refunded or forfeited
-/

namespace SmartResidence.Billing

open Foundation List

variable {env : Env} {start db after : Db} {change : Change}

/-! ## The entries of a deposit -/

def heldFor (depositId : Id) (posting : LedgerPosting) : ℤ :=
  if posting.source = .deposit depositId ∧ posting.fund = .deposit then posting.amount else 0

def incomeFrom (depositId : Id) (posting : LedgerPosting) : ℤ :=
  if posting.source = .deposit depositId ∧ posting.fund = .general then posting.amount else 0

def Change.recordedAs (db : Db) (depositId : Id) : Change → ℤ
  | .depositHeld _ _ amount => if db.nextId = depositId then stored amount else 0
  | _ => 0

variable {postings : List LedgerPosting} {depositId : Id}

theorem silent_of_source (other : ∀ posting ∈ postings, posting.source ≠ .deposit depositId) :
    sumBy (heldFor depositId) postings = 0 ∧ sumBy (incomeFrom depositId) postings = 0 := by
  constructor
  · exact sumBy_zero _ fun posting mem => if_neg fun own => other posting mem own.1
  · exact sumBy_zero _ fun posting mem => if_neg fun own => other posting mem own.1

theorem Posts.deposit (posts : Posts db change postings) (depositId : Id) :
    sumBy (heldFor depositId) postings = change.recordedAs db depositId -
        change.refundedFrom depositId - change.forfeitedFrom depositId ∧
      sumBy (incomeFrom depositId) postings = change.forfeitedFrom depositId := by
  cases posts with
  | issued =>
    refine silent_of_source fun posting mem => ?_
    obtain ⟨index, line, _, rfl⟩ := mem_chargePostings mem
    simp [chargePosting]
  | confirmed | manual =>
    refine silent_of_source fun posting mem => ?_
    obtain ⟨allocation, _, rfl⟩ := mem_paymentPostings mem
    simp [paymentPosting]
  | creditApplied =>
    refine silent_of_source fun posting mem => ?_
    rcases mem_append.mp mem with share | applied
    · obtain ⟨allocation, _, rfl⟩ := mem_paymentPostings share
      simp [paymentPosting]
    · rw [mem_singleton.mp applied]
      simp [prepaymentAppliedPosting]
  | voided =>
    refine silent_of_source fun posting mem => ?_
    obtain ⟨charge, _, _, _, rfl⟩ := mem_voidPostings mem
    simp [voidPosting]
  | depositHeld =>
    simp [heldFor, incomeFrom, depositHeldPosting, Change.recordedAs, Change.refundedFrom, Change.forfeitedFrom]
  | @depositRefunded _ deposit =>
    by_cases own : deposit.id = depositId
    · simp [heldFor, incomeFrom, depositPosting, Change.recordedAs, Change.refundedFrom,
        Change.forfeitedFrom, own, stored_neg]
    · simp [heldFor, incomeFrom, depositPosting, Change.recordedAs, Change.refundedFrom, Change.forfeitedFrom, own]
  | @depositForfeited _ deposit =>
    by_cases own : deposit.id = depositId
    · simp [heldFor, incomeFrom, depositPosting, Change.recordedAs, Change.refundedFrom,
        Change.forfeitedFrom, own, stored_neg]
    · simp [heldFor, incomeFrom, depositPosting, Change.recordedAs, Change.refundedFrom, Change.forfeitedFrom, own]
  | _ => simp [heldFor, incomeFrom, Change.recordedAs, Change.refundedFrom, Change.forfeitedFrom,
      advancePosting, prepaymentPosting]

structure Booked (db : Db) (deposit : Deposit) : Prop where
  held : ledgerSum (heldFor deposit.id) db.ledgerEntries =
    deposit.amount - deposit.refundedAmount - deposit.forfeitedAmount
  income : ledgerSum (incomeFrom deposit.id) db.ledgerEntries = deposit.forfeitedAmount

theorem DepositOrigin.figures {row : Deposit} (origin : DepositOrigin db change row) (wf : WellFormed db) :
    (∃ old ∈ db.deposits, row.id = old.id ∧ row.amount = old.amount ∧
      row.refundedAmount = old.refundedAmount + change.refundedFrom row.id ∧
      row.forfeitedAmount = old.forfeitedAmount + change.forfeitedFrom row.id ∧
      change.recordedAs db row.id = 0) ∨
    (row.id = db.nextId ∧ row.refundedAmount = 0 ∧ row.forfeitedAmount = 0 ∧
      change.recordedAs db row.id = row.amount ∧ change.refundedFrom row.id = 0 ∧
      change.forfeitedFrom row.id = 0) := by
  have notNew : ∀ old ∈ db.deposits, change.recordedAs db old.id = 0 := by
    intro old found
    cases change with
    | depositHeld => exact if_neg (ne_of_gt (wf.deposit_id_lt found))
    | _ => rfl
  cases origin with
  | kept found refunded forfeited =>
    exact .inl ⟨row, found, rfl, rfl, by rw [refunded, add_zero], by rw [forfeited, add_zero], notNew row found⟩
  | refunded old amount found same positive _ got =>
    have grown : stored (old.refundedAmount + amount) = old.refundedAmount + stored amount :=
      roundHalfAway_intCast_add (wf.returned old found).1 positive.le
    refine .inl ⟨old, found, got.id, got.amount, ?_, ?_, got.id ▸ notNew old found⟩
    · rw [got.refundedAmount, grown, same, Change.refundedFrom, if_pos got.id.symm]
    · rw [got.forfeitedAmount]
      simp [same, Change.forfeitedFrom]
  | forfeited old amount found same positive _ got =>
    have grown : stored (old.forfeitedAmount + amount) = old.forfeitedAmount + stored amount :=
      roundHalfAway_intCast_add (wf.returned old found).2 positive.le
    refine .inl ⟨old, found, got.id, got.amount, ?_, ?_, got.id ▸ notNew old found⟩
    · rw [got.refundedAmount]
      simp [same, Change.refundedFrom]
    · rw [got.forfeitedAmount, grown, same, Change.forfeitedFrom, if_pos got.id.symm]
  | recorded now input same new =>
    subst same new
    simp [RecordDepositInput.row, Change.recordedAs, Change.refundedFrom, Change.forfeitedFrom]

theorem Commit.booked (commit : Commit db change after) (wf : WellFormed db)
    (booked : ∀ deposit ∈ db.deposits, Booked db deposit) : ∀ row ∈ after.deposits, Booked after row := by
  intro row mem
  obtain ⟨postings, posts, moved⟩ := commit.ledgerSum_moved wf
  have held := moved (heldFor row.id) fun posting zero => by simp [heldFor, zero]
  have income := moved (incomeFrom row.id) fun posting zero => by simp [incomeFrom, zero]
  rw [(posts.deposit row.id).1] at held
  rw [(posts.deposit row.id).2] at income
  have origin := commit.deposit_origin wf.depositIds.distinct mem
  rcases origin.figures wf with ⟨old, found, id, amount, refunded, forfeited, notNew⟩ |
    ⟨id, refunded, forfeited, recorded, notRefunded, notForfeited⟩
  · obtain ⟨oldHeld, oldIncome⟩ := booked old found
    rw [← id] at oldHeld oldIncome
    constructor
    · omega
    · omega
  · have unsourced : ∀ entry ∈ db.ledgerEntries, entry.source ≠ .deposit row.id := by
      intro entry listed own
      have below := (wf.keys entry listed).source
      rw [own, id] at below
      exact lt_irrefl _ below
    have noHeld : ledgerSum (heldFor row.id) db.ledgerEntries = 0 :=
      sumBy_zero _ fun entry listed => if_neg fun own => unsourced entry listed own.1
    have noIncome : ledgerSum (incomeFrom row.id) db.ledgerEntries = 0 :=
      sumBy_zero _ fun entry listed => if_neg fun own => unsourced entry listed own.1
    constructor
    · omega
    · omega

/-! ## The row of a deposit -/

structure Balanced (deposit : Deposit) : Prop where
  positive : 0 < deposit.amount
  bounded : deposit.refundedAmount + deposit.forfeitedAmount ≤ deposit.amount
  status : deposit.status =
    if deposit.refundedAmount = 0 ∧ deposit.forfeitedAmount = 0 then .held
    else if deposit.refundedAmount + deposit.forfeitedAmount < deposit.amount then .partiallyRefunded
    else if deposit.refundedAmount = 0 then .forfeited else .refunded

def Change.DepositsWhole : Change → Prop
  | .depositHeld _ _ amount => Foundation.Whole amount ∧ 0 < amount
  | .depositRefunded _ amount => Foundation.Whole amount
  | .depositForfeited _ amount => Foundation.Whole amount
  | _ => True

theorem returnStatus_intCast (deposit : Deposit) (refunded forfeited : ℤ) :
    returnStatus deposit refunded forfeited = if deposit.amount - refunded - forfeited ≤ 0 then
        if 0 < forfeited ∧ refunded ≤ 0 then .forfeited else .refunded
      else .partiallyRefunded := by
  have cast : (deposit.amount : ℚ) - refunded - forfeited =
      ((deposit.amount - refunded - forfeited : ℤ) : ℚ) := by push_cast; rfl
  simp only [returnStatus, refundStatus, cast, cast_le_half, Int.cast_pos]

variable {deposit : Deposit}

theorem held_of_bounded (bounded : deposit.refundedAmount + deposit.forfeitedAmount ≤ deposit.amount) :
    depositHeldAmount deposit = deposit.amount - deposit.refundedAmount - deposit.forfeitedAmount := by
  rw [depositHeldAmount]
  omega

theorem le_held {n : ℤ} (bounded : (n : ℚ) ≤ (depositHeldAmount deposit : ℚ) + 1 / 2) :
    n ≤ depositHeldAmount deposit := by
  have less : (n : ℚ) < ((depositHeldAmount deposit + 1 : ℤ) : ℚ) := by push_cast; linarith
  have := Int.cast_lt.mp less
  omega

theorem Commit.balanced (commit : Commit db change after) (wf : WellFormed db)
    (whole : change.DepositsWhole) (balanced : ∀ deposit ∈ db.deposits, Balanced deposit) :
    ∀ row ∈ after.deposits, Balanced row := by
  intro row mem
  cases commit.deposit_origin wf.depositIds.distinct mem with
  | kept found => exact balanced row found
  | refunded old amount found same positive bounded got =>
    subst same
    obtain ⟨n, rfl⟩ := whole
    have nonneg := wf.returned old found
    have before := balanced old found
    have held := held_of_bounded before.bounded
    have within := le_held bounded
    have some : 0 < n := by exact_mod_cast positive
    have refunded : row.refundedAmount = old.refundedAmount + n := by
      rw [got.refundedAmount, ← Int.cast_add, stored_intCast]
    have forfeited : row.forfeitedAmount = old.forfeitedAmount := by
      rw [got.forfeitedAmount, stored_intCast]
    refine ⟨got.amount ▸ before.positive, ?_, ?_⟩
    · rw [got.amount]
      omega
    · rw [got.amount]
      rcases got.status with status | ⟨status, all, _⟩
      · rw [status, ← Int.cast_add, returnStatus_intCast]
        split_ifs <;> first | rfl | omega
      · have everything : n = depositHeldAmount old := by exact_mod_cast add_left_cancel all
        split_ifs <;> first | rfl | omega
  | forfeited old amount found same positive bounded got =>
    subst same
    obtain ⟨n, rfl⟩ := whole
    have nonneg := wf.returned old found
    have before := balanced old found
    have held := held_of_bounded before.bounded
    have within := le_held bounded
    have some : 0 < n := by exact_mod_cast positive
    have refunded : row.refundedAmount = old.refundedAmount := by
      rw [got.refundedAmount, stored_intCast]
    have forfeited : row.forfeitedAmount = old.forfeitedAmount + n := by
      rw [got.forfeitedAmount, ← Int.cast_add, stored_intCast]
    refine ⟨got.amount ▸ before.positive, ?_, ?_⟩
    · rw [got.amount]
      omega
    · rw [got.amount]
      rcases got.status with status | ⟨_, _, none⟩
      · rw [status, ← Int.cast_add, returnStatus_intCast]
        split_ifs <;> first | rfl | omega
      · have nothing : (n : ℚ) = 0 := by linarith
        have := Int.cast_eq_zero.mp nothing
        omega
  | recorded now input same new =>
    subst same new
    obtain ⟨⟨n, amount⟩, positive⟩ := whole
    rw [amount] at positive
    have some : 0 < n := by exact_mod_cast positive
    constructor
    · simpa [RecordDepositInput.row, amount] using some
    · simpa [RecordDepositInput.row, amount] using some.le
    · simp [RecordDepositInput.row]

/-! ## Refund receipts -/

def refundedOf (db : Db) (depositId : Id) : ℤ :=
  sumBy (fun deposit => if deposit.id = depositId then deposit.refundedAmount else 0) db.deposits

theorem refundedOf_eq (wf : WellFormed db) (found : deposit ∈ db.deposits) :
    refundedOf db deposit.id = deposit.refundedAmount :=
  sumBy_own Deposit.refundedAmount wf.depositIds.distinct found

theorem Commit.refundedOf_eq (commit : Commit db change after) (wf : WellFormed db)
    (depositId : Id) : refundedOf after depositId = refundedOf db depositId + change.refundedFrom depositId := by
  have nodup := wf.depositIds.distinct
  cases commit with
  | depositHeld => simp [refundedOf, Db.record, RecordDepositInput.row, Change.refundedFrom]
  | @depositRefunded _ deposit _ amount change _ _ found positive _ got =>
    have grown : stored (deposit.refundedAmount + amount) = deposit.refundedAmount + stored amount :=
      roundHalfAway_intCast_add (wf.returned deposit found).1 positive.le
    simp only [refundedOf, Db.record, Db.updateDeposit, sumBy_updateBy _ nodup found, got.id,
      got.refundedAmount, grown, Change.refundedFrom]
    split <;> ring
  | @depositForfeited _ deposit _ _ change found _ _ got =>
    simp only [refundedOf, Db.record, Db.updateDeposit, sumBy_updateBy _ nodup found, got.id,
      got.refundedAmount, stored_intCast, Change.refundedFrom]
    ring
  | _ => exact (add_zero _).symm

variable {amount : ℚ}

theorem Commit.refundReceipts_eq (commit : Commit db (.depositRefunded deposit amount) after) :
    refundReceipts after.receipts = refundReceipts db.receipts + stored amount := by
  cases commit with
  | depositRefunded _ _ _ _ _ _ issued => exact issued

theorem Commit.forfeited_receipts (commit : Commit db (.depositForfeited deposit amount) after) :
    after.receipts = db.receipts := by
  cases commit with
  | depositForfeited => rfl

def Op.returns : Op → Option Id
  | .refundHeldInTx depositId _ => some depositId
  | .depositRefund _ depositId _ => some depositId
  | _ => none

def Op.DepositsWhole : Op → Prop
  | .depositRecord _ dto => Foundation.Whole dto.amount
  | .depositRecordInTx input => Foundation.Whole input.amount ∧ 0 < input.amount
  | .depositRefund _ _ dto => ∀ amount ∈ dto.amount, Foundation.Whole amount
  | _ => True

theorem Arises.depositsWhole {request : Request} (arises : Arises env db request change)
    (whole : request.op.DepositsWhole) : change.DepositsWhole := by
  obtain ⟨now, op⟩ := request
  cases change with
  | depositHeld =>
    rcases arises with ⟨actor, dto, rfl, rfl, positive⟩ | ⟨input, rfl, rfl⟩
    · exact ⟨whole, positive⟩
    · exact whole
  | depositRefunded deposit amount =>
    rcases arises with ⟨actor, rfl, rfl⟩ | ⟨actor, dto, rfl, rfl⟩
    · exact .intCast _
    · exact refundFigures_whole whole
  | depositForfeited deposit amount =>
    obtain ⟨actor, dto, rfl, rfl, _⟩ := arises
    exact refundFigures_whole whole
  | _ => trivial

theorem Arises.refundedFrom {request : Request} (arises : Arises env db request change)
    (other : request.op.returns ≠ some depositId) : change.refundedFrom depositId = 0 := by
  obtain ⟨now, op⟩ := request
  cases change with
  | depositRefunded deposit amount =>
    refine if_neg ?_
    rintro rfl
    rcases arises with ⟨actor, rfl, _⟩ | ⟨actor, dto, rfl, _⟩
    · exact other rfl
    · exact other rfl
  | _ => rfl

theorem refundReceipts_of_returns {request : Request} (wf : WellFormed db)
    (done : Completes env db request after) (returns : request.op.returns = some depositId) :
    refundReceipts after.receipts - refundReceipts db.receipts =
      refundedOf after depositId - refundedOf db depositId := by
  have refund : ∀ {deposit : Deposit} {amount : ℚ}, deposit.id = depositId →
      Commit db (.depositRefunded deposit amount) after →
      refundReceipts after.receipts - refundReceipts db.receipts =
        refundedOf after depositId - refundedOf db depositId := by
    rintro deposit amount rfl commit
    rw [commit.refundReceipts_eq, commit.refundedOf_eq wf, Change.refundedFrom, if_pos rfl]
    ring
  obtain ⟨now, op⟩ := request
  cases op with
  | refundHeldInTx id actorUserId =>
    cases returns
    obtain ⟨⟨_, _⟩, op, same⟩ := bind_eq_ok.mp done
    cases same
    rcases refundHeldInTx_commit op with ⟨rfl, _⟩ | ⟨deposit, read, commit⟩
    · ring
    · exact refund (mem_of_findBy read).2 commit
  | depositRefund actor id dto =>
    obtain rfl := Option.some.inj returns
    obtain ⟨deposit, read, _, commit⟩ := depositRefund_commit done
    rw [RefundDepositDto.change] at commit
    split at commit
    · have none : Change.refundedFrom id (.depositForfeited deposit (refundFigures deposit dto).amount) = 0 := rfl
      rw [commit.forfeited_receipts, commit.refundedOf_eq wf, none]
      ring
    · exact refund (mem_of_findBy read).2 commit
  | _ => cases returns

/-! ## Runs -/

structure Receipted where
  request : Request
  refunds : ℤ

def Receipts (env : Env) (before : Db) (event : Receipted) (after : Db) : Prop :=
  Completes env before event.request after ∧
    refundReceipts after.receipts = refundReceipts before.receipts + event.refunds

theorem receipted_of_run {condition : Request → Prop} {log : List Request}
    (run : Run (Guarded (fun _ request => condition request) (Completes env)) start log after) :
    ∃ events : List Receipted, events.map Receipted.request = log ∧
      Run (Guarded (fun _ event => condition event.request) (Receipts env)) start events after := by
  induction run with
  | done => exact ⟨[], rfl, .done⟩
  | @snoc log before after request _ move ih =>
    obtain ⟨events, same, earlier⟩ := ih
    let event : Receipted :=
      ⟨request, refundReceipts after.receipts - refundReceipts before.receipts⟩
    have issued : refundReceipts after.receipts = refundReceipts before.receipts + event.refunds := by
      simp [event]
    exact ⟨events ++ [event], by simp [same, event], earlier.snoc ⟨move.1, move.2, issued⟩⟩

def refundsFor (depositId : Id) (log : List Receipted) : ℤ :=
  sumBy Receipted.refunds (log.filter fun event => decide (event.request.op.returns = some depositId))

structure DepositsSound (db : Db) : Prop where
  wellFormed : WellFormed db
  booked : ∀ deposit ∈ db.deposits, Booked db deposit
  balanced : ∀ deposit ∈ db.deposits, Balanced deposit

variable {changes : List Change}

theorem DepositsSound.commits (sound : DepositsSound db) (run : Run Commit db changes after)
    (whole : ∀ change ∈ changes, change.DepositsWhole) : DepositsSound after := by
  refine run.invariant_on Change.DepositsWhole ?_ sound whole
  intro before change after whole sound commit
  exact ⟨commit.wellFormed sound.wellFormed, commit.booked sound.wellFormed sound.booked,
    commit.balanced sound.wellFormed whole sound.balanced⟩

theorem refundedOf_kept (run : Run Commit db changes after) (wf : WellFormed db)
    (none : ∀ change ∈ changes, change.refundedFrom depositId = 0) :
    refundedOf after depositId = refundedOf db depositId := by
  induction run with
  | done => rfl
  | snoc earlier commit ih =>
    have before := ih fun change mem => none change (mem_append_left _ mem)
    have last := none _ (mem_append_right _ (mem_singleton.mpr rfl))
    rw [commit.refundedOf_eq (wellFormed_of_commits earlier wf), last, add_zero, before]

structure DepositState (log : List Receipted) (db : Db) : Prop where
  sound : DepositsSound db
  refunds : ∀ depositId, refundsFor depositId log = refundedOf db depositId

variable {log : List Receipted}

theorem DepositState.step {event : Receipted} (state : DepositState log db) (whole : event.request.op.DepositsWhole)
    (move : Receipts env db event after) : DepositState (log ++ [event]) after := by
  have wf := state.sound.wellFormed
  obtain ⟨changes, refines⟩ := event.request.refines wf move.1
  have sound := state.sound.commits refines.run fun change mem => (refines.arises change mem).depositsWhole whole
  refine ⟨sound, fun depositId => ?_⟩
  have before := state.refunds depositId
  rw [refundsFor, filter_append, sumBy_append]
  by_cases own : event.request.op.returns = some depositId
  · have issued := refundReceipts_of_returns wf move.1 own
    have receipted := move.2
    simp only [refundsFor] at before
    simp only [filter_cons, own, decide_true, filter_nil, if_true, sumBy_cons, sumBy_nil]
    omega
  · have kept := refundedOf_kept refines.run wf fun change mem => (refines.arises change mem).refundedFrom own
    simp only [refundsFor] at before
    simp [own, before, kept]

structure DepositConserved (db : Db) (deposit : Deposit) (refunds : ℤ) : Prop where
  ledger : ledgerSum (heldFor deposit.id) db.ledgerEntries = depositHeldAmount deposit
  held : depositHeldAmount deposit = deposit.amount - deposit.refundedAmount - deposit.forfeitedAmount
  nonneg : 0 ≤ deposit.amount - deposit.refundedAmount - deposit.forfeitedAmount
  receipts : refunds = deposit.refundedAmount
  income : ledgerSum (incomeFrom deposit.id) db.ledgerEntries = deposit.forfeitedAmount
  isHeld : deposit.status = .held ↔ deposit.refundedAmount = 0 ∧ deposit.forfeitedAmount = 0
  isPartiallyRefunded : deposit.status = .partiallyRefunded ↔
    ¬ (deposit.refundedAmount = 0 ∧ deposit.forfeitedAmount = 0) ∧ 0 < depositHeldAmount deposit
  isForfeited : deposit.status = .forfeited ↔
    deposit.forfeitedAmount = deposit.amount ∧ deposit.refundedAmount = 0
  isRefunded : deposit.status = .refunded ↔ depositHeldAmount deposit = 0 ∧ 0 < deposit.refundedAmount

theorem DepositState.conserved (state : DepositState log db) (found : deposit ∈ db.deposits) :
    DepositConserved db deposit (refundsFor deposit.id log) := by
  have booked := state.sound.booked deposit found
  have balanced := state.sound.balanced deposit found
  have held := held_of_bounded balanced.bounded
  have positive := balanced.positive
  have bounded := balanced.bounded
  have nonneg := state.sound.wellFormed.returned deposit found
  refine ⟨booked.held.trans held.symm, held, by omega, ?_, booked.income, ?_, ?_, ?_, ?_⟩
  · rw [state.refunds, refundedOf_eq state.sound.wellFormed found]
  all_goals
    rw [balanced.status]
    split_ifs <;> simp <;> omega

theorem deposit_conserved {log : List Receipted} (fresh : Fresh start)
    (run : Run (Guarded (fun _ event => event.request.op.DepositsWhole) (Receipts env)) start log after) :
    ∀ deposit ∈ after.deposits, DepositConserved after deposit (refundsFor deposit.id log) := by
  have state : DepositState log after := by
    refine run.history_invariant (fun log before event after state move => state.step move.1 move.2) ?_
    refine ⟨⟨.fresh fresh, ?_, ?_⟩, ?_⟩
    · simp [fresh.deposits]
    · simp [fresh.deposits]
    · simp [refundsFor, refundedOf, fresh.deposits]
  exact fun deposit found => state.conserved found

theorem deposit_conserved_released : ∃ log after,
    Run (Guarded (fun _ event => event.request.op.DepositsWhole) (Receipts Sample.env)) Sample.db log after ∧
      (∀ deposit ∈ after.deposits, DepositConserved after deposit (refundsFor deposit.id log)) ∧
      after.deposits.map (fun deposit => (deposit.refundedAmount, deposit.forfeitedAmount, deposit.status)) =
        [(4000, 1000, .refunded)] := by
  let log : List Request := [⟨0, .depositRecord Sample.admin ⟨7, none, 5000, none, by decide +kernel⟩⟩,
    ⟨1, .depositRefund Sample.admin 0 ⟨some 2000, false, by decide +kernel⟩⟩,
    ⟨2, .depositRefund Sample.admin 0 ⟨some 1000, true, by decide +kernel⟩⟩,
    ⟨3, .refundHeldInTx 0 none⟩]
  have ends : (runAll Sample.env (fun _ _ => true) Sample.db log).map (fun db => db.deposits.map
      fun deposit => (deposit.refundedAmount, deposit.forfeitedAmount, deposit.status)) =
        .ok [(4000, 1000, .refunded)] := by
    decide +kernel
  have whole : ∀ request ∈ log, request.op.DepositsWhole := by
    simp only [log, List.forall_mem_cons, Op.DepositsWhole, Option.mem_some_iff, forall_eq']
    exact ⟨.ofNat 5000, .ofNat 2000, .ofNat 1000, trivial, by simp⟩
  obtain ⟨after, ran, figures⟩ := map_eq_ok.mp ends
  obtain ⟨events, _, run⟩ := receipted_of_run ((run_of_runAll whole ran).mono
    fun _ _ _ step => ⟨step.1.1, step.2⟩)
  exact ⟨events, after, run, deposit_conserved Sample.db_fresh run, figures⟩

end SmartResidence.Billing

/-! ## What the tolerance of a guard lets through -/

namespace SmartResidence.Billing

open Foundation

variable {env : Env} {db after : Db} {request : Request}

def Op.Bounded (after : Db) : Op → Prop
  | .recordManualPayment _ invoiceId _ => ∃ invoice, after.invoice? invoiceId = some invoice ∧
      invoice.amountPaid ≤ invoice.total
  | .depositRefund _ depositId _ => ∃ deposit, after.deposit? depositId = some deposit ∧
      deposit.refundedAmount + deposit.forfeitedAmount ≤ deposit.amount
  | _ => True

def Op.UnderTolerance (db : Db) : Op → Prop
  | .recordManualPayment _ invoiceId dto => ∀ invoice ∈ db.invoice? invoiceId,
      manualAmount invoice dto < ((invoice.total - invoice.amountPaid : ℤ) : ℚ) + 1 / 2
  | .depositRefund _ depositId dto => ∀ deposit ∈ db.deposit? depositId,
      (refundFigures deposit dto).amount < (depositHeldAmount deposit : ℚ) + 1 / 2
  | _ => True

theorem manual_bounded_iff (wf : WellFormed db) {invoice : Invoice} {amount : ℚ}
    {method : Option String} (read : db.invoice? invoice.id = some invoice) (positive : 0 < amount)
    (commit : Commit db (.manual invoice amount method) after) :
    (∃ row, after.invoice? invoice.id = some row ∧ row.amountPaid ≤ row.total) ↔
      amount < ((invoice.total - invoice.amountPaid : ℤ) : ℚ) + 1 / 2 := by
  have later := commit.wellFormed wf
  obtain ⟨found, _⟩ := mem_of_findBy read
  obtain ⟨row, mem, same⟩ := commit.invoice_kept found
  have isRow : after.invoice? invoice.id = some row := same.id ▸ later.invoice?_eq mem
  have paid : row.amountPaid = invoice.amountPaid + stored amount := by
    have grown := commit.paid wf.paymentIds.distinct invoice.id
    rw [later.amountPaid row mem, same.id, grown, wf.amountPaid invoice found, Change.paidFor, if_pos rfl]
  simp only [isRow, Option.some.injEq, exists_eq_left', same.total]
  rw [← stored_le_iff positive.le]
  omega

theorem returned_bounded_iff (wf : WellFormed db) {deposit : Deposit} {dto : RefundDepositDto}
    (read : db.deposit? deposit.id = some deposit) (held : 0 < depositHeldAmount deposit)
    (commit : Commit db (dto.change deposit) after) :
    (∃ row, after.deposit? deposit.id = some row ∧ row.refundedAmount + row.forfeitedAmount ≤ row.amount) ↔
      (refundFigures deposit dto).amount < (depositHeldAmount deposit : ℚ) + 1 / 2 := by
  have later := commit.wellFormed wf
  obtain ⟨found, _⟩ := mem_of_findBy read
  obtain ⟨row, mem, same, _, _⟩ := commit.deposit_stays wf.depositIds.distinct found
  have isRow : after.deposit? deposit.id = some row :=
    same ▸ findBy_of_mem later.depositIds.distinct mem
  have positive : 0 < (refundFigures deposit dto).amount := by
    rw [RefundDepositDto.change] at commit
    split at commit <;> cases commit <;> assumption
  have taken : (dto.change deposit).refundedFrom row.id + (dto.change deposit).forfeitedFrom row.id =
      stored (refundFigures deposit dto).amount := by
    rw [RefundDepositDto.change, same]
    split <;> simp [Change.refundedFrom, Change.forfeitedFrom]
  have all : depositHeldAmount deposit = deposit.amount - deposit.refundedAmount - deposit.forfeitedAmount := by
    rw [depositHeldAmount] at held ⊢
    omega
  have origin := commit.deposit_origin wf.depositIds.distinct mem
  rcases origin.figures wf with ⟨old, inside, id, amount, refunded, forfeited, _⟩ | ⟨new, _⟩
  · obtain rfl := eq_of_key_eq wf.depositIds.distinct inside found (id.symm.trans same)
    simp only [isRow, Option.some.injEq, exists_eq_left']
    rw [← stored_le_iff positive.le]
    omega
  · exact absurd (new.symm.trans same) (ne_of_gt (wf.deposit_id_lt found))

end SmartResidence.Billing
