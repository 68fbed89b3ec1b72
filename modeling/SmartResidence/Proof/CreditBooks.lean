import SmartResidence.Proof.Statement

/-!
# The credit of a unit is the sum of its entries
-/

namespace SmartResidence.Billing

open Foundation List

variable {env : Env} {db after : Db} {change : Change} {entries : List LedgerEntry}
  {advances : List AdvancePayment} {advance row : AdvancePayment} {posting : LedgerPosting}

def creditOf (unitId : Id) (posting : LedgerPosting) : ℤ :=
  if posting.unitId = some unitId ∧ (posting.type = .prepayment ∨ posting.type = .prepaymentApplied) then
    posting.amount
  else 0

def creditsAdvance (advanceId : Id) (posting : LedgerPosting) : Bool :=
  decide (posting.source = .advancePayment advanceId ∧ posting.type = .prepayment)

def creditsFrom (advanceId : Id) (entries : List LedgerEntry) : List (Option Id × ℤ) :=
  (entries.filter fun entry => creditsAdvance advanceId entry.toLedgerPosting).map fun entry =>
    (entry.unitId, entry.amount)

variable {advanceId : Id}

theorem creditsFrom_appendPosting (other : creditsAdvance advanceId posting = false) :
    creditsFrom advanceId (appendPosting entries posting) = creditsFrom advanceId entries := by
  rw [appendPosting]
  split
  · rfl
  · simp [creditsFrom, other]

theorem creditsFrom_new (unused : ∀ entry ∈ entries, entry.idempotencyKey ≠ posting.idempotencyKey)
    (own : creditsAdvance advanceId posting = true) : creditsFrom advanceId (appendPosting entries posting) =
      creditsFrom advanceId entries ++ [(posting.unitId, posting.amount)] := by
  rw [appendPosting_unused unused]
  simp [creditsFrom, own]

variable {postings : List LedgerPosting}

theorem creditsFrom_appendPostings (others : ∀ posting ∈ postings, creditsAdvance advanceId posting = false) :
    creditsFrom advanceId (appendPostings entries postings) = creditsFrom advanceId entries := by
  induction postings generalizing entries with
  | nil => rfl
  | cons posting postings ih =>
    have later : creditsFrom advanceId (appendPostings (appendPosting entries posting) postings) =
        creditsFrom advanceId (appendPosting entries posting) :=
      ih fun other mem => others other (mem_cons_of_mem _ mem)
    exact later.trans (creditsFrom_appendPosting (others posting mem_cons_self))

theorem creditsFrom_empty (unused : ∀ entry ∈ entries, entry.source ≠ .advancePayment advanceId) :
    creditsFrom advanceId entries = [] := by
  rw [creditsFrom, map_eq_nil_iff, filter_eq_nil_iff]
  intro entry mem credits
  exact unused entry mem (of_decide_eq_true credits).1

structure AccountBooks (db : Db) : Prop where
  units : (db.unitAccounts.map UnitAccount.unitId).Nodup
  credit : ∀ unitId, db.getCredit unitId = ledgerSum (creditOf unitId) db.ledgerEntries
  nonneg : ∀ unitId, 0 ≤ db.getCredit unitId

theorem Posts.credit (posts : Posts db change postings) (unitId : Id) :
    sumBy (creditOf unitId) postings = change.creditsUnit unitId := by
  have settles : ∀ (invoice : Invoice) paymentId amount occurredAt actorUserId,
      sumBy (creditOf unitId) (paymentPostings invoice paymentId amount occurredAt actorUserId) = 0 := by
    intro invoice paymentId amount occurredAt actorUserId
    refine sumBy_zero _ fun posting mem => ?_
    obtain ⟨allocation, _, rfl⟩ := mem_paymentPostings mem
    simp [creditOf, paymentPosting]
  cases posts with
  | issued =>
    refine sumBy_zero _ fun posting mem => ?_
    obtain ⟨index, line, _, rfl⟩ := mem_chargePostings mem
    simp [creditOf, chargePosting]
  | confirmed => exact settles _ _ _ _ _
  | manual => exact settles _ _ _ _ _
  | @creditApplied occurredAt invoice =>
    rw [sumBy_append, settles]
    by_cases owner : invoice.unitId = unitId <;>
      simp [creditOf, prepaymentAppliedPosting, Change.creditsUnit]
  | @advanceConfirmed now advance =>
    by_cases owner : advance.unitId = unitId <;>
      simp [creditOf, advancePosting, succeedAdvance, Change.creditsUnit]
  | @prepaid now condoId unit =>
    by_cases owner : unit = unitId <;>
      simp [creditOf, prepaymentPosting, Change.creditsUnit]
  | voided =>
    refine sumBy_zero _ fun posting mem => ?_
    obtain ⟨charge, _, _, _, rfl⟩ := mem_voidPostings mem
    simp [creditOf, voidPosting]
  | depositHeld => simp [creditOf, depositHeldPosting, Change.creditsUnit]
  | depositRefunded => simp [creditOf, depositPosting, Change.creditsUnit]
  | depositForfeited => simp [creditOf, depositPosting, Change.creditsUnit]
  | _ => rfl

theorem Commit.credit_nonneg (commit : Commit db change after)
    (amounts : ∀ advance ∈ db.advancePayments, 0 ≤ advance.amount) (nonneg : ∀ unitId, 0 ≤ db.getCredit unitId)
    (unitId : Id) : 0 ≤ after.getCredit unitId := by
  rw [commit.credit]
  have before := nonneg unitId
  cases commit with
  | creditApplied found active pos bounded covered =>
    rw [Change.creditsUnit]
    split
    · rename_i owner
      rw [owner] at covered
      omega
    · omega
  | advanceConfirmed mem =>
    have amount := amounts _ mem
    rw [Change.creditsUnit]
    split <;> omega
  | @prepaid _ _ _ dto _ pos =>
    have amount : 0 ≤ stored dto.amount := roundHalfAway_nonneg pos.le
    rw [Change.creditsUnit]
    split <;> omega
  | _ => exact add_nonneg before le_rfl

/-! ## The advance payments -/

theorem succeedAdvance_id {now : Instant} (advance : AdvancePayment) :
    (succeedAdvance now advance).id = advance.id := rfl

structure AdvanceBooks (advances : List AdvancePayment) (entries : List LedgerEntry) : Prop where
  ids : (advances.map AdvancePayment.id).Nodup
  amounts : ∀ advance ∈ advances, 0 ≤ advance.amount
  credited : ∀ advance ∈ advances, creditsFrom advance.id entries =
    if advance.status = .succeeded then [(some advance.unitId, advance.amount)] else []
  keys : ∀ entry ∈ entries, ∀ id, entry.idempotencyKey = some (.advancePaymentCredit id) →
    ∃ advance ∈ advances, advance.id = id ∧ advance.status = .succeeded

structure OffAdvances (posting : LedgerPosting) : Prop where
  source : ∀ id, posting.source ≠ .advancePayment id
  key : ∀ id, posting.idempotencyKey ≠ some (.advancePaymentCredit id)

theorem OffAdvances.credits (off : OffAdvances posting) (id : Id) : creditsAdvance id posting = false :=
  decide_eq_false fun credits => off.source id credits.1

namespace AdvanceBooks

variable (books : AdvanceBooks advances entries)
include books

theorem append {postings : List LedgerPosting} (off : ∀ posting ∈ postings, OffAdvances posting) :
    AdvanceBooks advances (appendPostings entries postings) where
  ids := books.ids
  amounts := books.amounts
  credited := by
    intro advance mem
    rw [creditsFrom_appendPostings fun posting listed => (off posting listed).credits advance.id]
    exact books.credited advance mem
  keys := by
    intro entry mem id key
    rcases mem_appendPostings mem with old | new
    · exact books.keys entry old id key
    · exact absurd key ((off _ new).key id)

theorem update {pick : AdvancePayment → Bool} {change : AdvancePayment → AdvancePayment}
    (quiet : ∀ advance ∈ advances, pick advance → QuietAdvance advance (change advance)) :
    AdvanceBooks (updateWhere pick change advances) entries where
  ids := by
    rw [map_updateWhere AdvancePayment.id fun advance mem pick => (quiet advance mem pick).id]
    exact books.ids
  amounts := by
    intro row mem
    obtain ⟨old, found, rfl⟩ := mem_updateWhere.mp mem
    split
    · rename_i pick
      rw [(quiet old found pick).amount]
      exact books.amounts old found
    · exact books.amounts old found
  credited := by
    intro row mem
    obtain ⟨old, found, rfl⟩ := mem_updateWhere.mp mem
    split
    · rename_i pick
      have same := quiet old found pick
      simp only [same.id, same.unitId, same.amount, same.succeeded_iff]
      exact books.credited old found
    · exact books.credited old found
  keys := by
    intro entry mem id key
    obtain ⟨old, found, named, succeeded⟩ := books.keys entry mem id key
    refine ⟨_, mem_updateWhere.mpr ⟨old, found, rfl⟩, ?_⟩
    split
    · rename_i pick
      have same := quiet old found pick
      exact ⟨same.id.trans named, same.succeeded_iff.mpr succeeded⟩
    · exact ⟨named, succeeded⟩

theorem opened (unused : ∀ entry ∈ entries, entry.source ≠ .advancePayment row.id)
    (new : row.id ∉ advances.map AdvancePayment.id) (nonneg : 0 ≤ row.amount)
    (pending : row.status = .pending) : AdvanceBooks (advances ++ [row]) entries where
  ids := by
    rw [map_append, map_singleton, nodup_append]
    refine ⟨books.ids, nodup_singleton _, fun id mem other single same => ?_⟩
    rw [mem_singleton] at single
    exact new (single ▸ same ▸ mem)
  amounts := by
    intro advance mem
    rcases mem_append.mp mem with old | last
    · exact books.amounts advance old
    · rw [mem_singleton.mp last]
      exact nonneg
  credited := by
    intro advance mem
    rcases mem_append.mp mem with old | last
    · exact books.credited advance old
    · rw [mem_singleton.mp last, creditsFrom_empty unused]
      simp [pending]
  keys := by
    intro entry mem id key
    obtain ⟨advance, found, credited⟩ := books.keys entry mem id key
    exact ⟨advance, mem_append_left _ found, credited⟩

theorem pending_key (mem : advance ∈ advances) (pending : advance.status = .pending) :
    ∀ entry ∈ entries, entry.idempotencyKey ≠ some (.advancePaymentCredit advance.id) := by
  intro entry listed key
  obtain ⟨other, found, same, succeeded⟩ := books.keys entry listed advance.id key
  rw [eq_of_key_eq books.ids found mem same, pending] at succeeded
  cases succeeded

theorem confirmed {now : Instant} (mem : advance ∈ advances) (pending : advance.status = .pending) :
    AdvanceBooks (updateBy AdvancePayment.id advance.id (succeedAdvance now) advances)
      (appendPosting entries (advancePosting now (succeedAdvance now advance))) where
  ids := by
    rw [map_key_updateBy succeedAdvance_id]
    exact books.ids
  amounts := by
    intro row found
    obtain ⟨old, known, rfl⟩ := mem_updateBy.mp found
    split
    · exact books.amounts old known
    · exact books.amounts old known
  credited := by
    intro row found
    obtain ⟨old, known, rfl⟩ := mem_updateBy.mp found
    have before := books.credited old known
    by_cases own : old.id = advance.id
    · obtain rfl := eq_of_key_eq books.ids known mem own
      rw [pending] at before
      rw [if_pos rfl, creditsFrom_new (books.pending_key mem pending) (by
        simp [creditsAdvance, advancePosting])]
      show creditsFrom old.id entries ++ _ = _
      rw [before]
      rfl
    · have other : creditsAdvance old.id (advancePosting now (succeedAdvance now advance)) = false := by
        simp [creditsAdvance, advancePosting, succeedAdvance, Ne.symm own]
      rw [if_neg own, creditsFrom_appendPosting other]
      exact before
  keys := by
    intro entry listed id key
    rcases mem_appendPosting listed with old | new
    · obtain ⟨other, found, named, succeeded⟩ := books.keys entry old id key
      refine ⟨_, mem_updateBy.mpr ⟨other, found, rfl⟩, ?_⟩
      split
      · exact ⟨named, rfl⟩
      · exact ⟨named, succeeded⟩
    · rw [new] at key
      obtain rfl : advance.id = id := by simpa [advancePosting, succeedAdvance] using key
      exact ⟨_, change_mem_updateBy mem, rfl, rfl⟩

end AdvanceBooks

/-! ## Every reachable database -/

theorem Posts.offAdvances (posts : Posts db change postings) (other : ∀ advance, change ≠ .advanceConfirmed advance) :
    ∀ posting ∈ postings, OffAdvances posting := by
  have shares : ∀ {invoice : Invoice} {paymentId amount occurredAt actorUserId},
      ∀ posting ∈ paymentPostings invoice paymentId amount occurredAt actorUserId, OffAdvances posting := by
    intro invoice paymentId amount occurredAt actorUserId posting mem
    obtain ⟨allocation, _, rfl⟩ := mem_paymentPostings mem
    exact ⟨nofun, nofun⟩
  cases posts with
  | issued =>
    intro posting mem
    obtain ⟨index, line, _, rfl⟩ := mem_chargePostings mem
    exact ⟨nofun, nofun⟩
  | confirmed | manual => exact shares
  | creditApplied =>
    intro posting mem
    rcases mem_append.mp mem with share | applied
    · exact shares posting share
    · rw [mem_singleton.mp applied]
      exact ⟨nofun, nofun⟩
  | voided =>
    intro posting mem
    obtain ⟨charge, _, _, _, rfl⟩ := mem_voidPostings mem
    exact ⟨nofun, nofun⟩
  | advanceConfirmed => exact absurd rfl (other _)
  | prepaid | depositHeld | depositRefunded =>
    intro posting mem
    rw [mem_singleton.mp mem]
    exact ⟨nofun, nofun⟩
  | depositForfeited =>
    intro posting mem
    rcases mem_cons.mp mem with rfl | income
    · exact ⟨nofun, nofun⟩
    · rw [mem_singleton.mp income]
      exact ⟨nofun, nofun⟩
  | _ => exact fun _ mem => nomatch mem

theorem Commit.advanceBooks (commit : Commit db change after) (wf : WellFormed db)
    (books : AdvanceBooks db.advancePayments db.ledgerEntries) :
    AdvanceBooks after.advancePayments after.ledgerEntries := by
  obtain ⟨postings, posts, appended⟩ := commit.appends
  cases commit with
  | @advanceConfirmed now advance receipts nextId mem pending =>
    have own : updateWhere (isPendingAdvance advance.id) (succeedAdvance now) db.advancePayments =
        updateBy AdvancePayment.id advance.id (succeedAdvance now) db.advancePayments :=
      updateWhere_eq_updateBy _ books.ids mem (by simp [isPendingAdvance, pending]) fun other pick =>
        (of_decide_eq_true pick).1
    show AdvanceBooks (updateWhere (isPendingAdvance advance.id) (succeedAdvance now) db.advancePayments)
      (appendPosting db.ledgerEntries (advancePosting now (succeedAdvance now advance)))
    rw [own]
    exact books.confirmed mem pending
  | advancesMarked quiet => exact books.update quiet
  | @advanceOpened now condoId userId dto =>
    refine books.opened (fun entry mem source => ?_) ?_ ?_ rfl
    · have below := (wf.keys entry mem).source
      rw [source] at below
      exact absurd below (lt_irrefl _)
    · exact wf.advanceIds.fresh
    · have nonneg : 0 ≤ dto.amount := le_trans (by norm_num) dto.amount_ge
      exact roundHalfAway_nonneg nonneg
  | _ =>
    rw [appended]
    exact books.append (posts.offAdvances fun _ => Change.noConfusion)

structure CreditBooks (db : Db) : Prop where
  accounts : AccountBooks db
  advances : AdvanceBooks db.advancePayments db.ledgerEntries

theorem Commit.creditBooks (commit : Commit db change after) (wf : WellFormed db)
    (books : CreditBooks db) : CreditBooks after where
  accounts := by
    refine ⟨(commit.wellFormed wf).accountUnits, fun unitId => ?_,
      commit.credit_nonneg books.advances.amounts books.accounts.nonneg⟩
    obtain ⟨postings, posts, moved⟩ := commit.ledgerSum_moved wf
    have vanishes : ∀ posting : LedgerPosting, posting.amount = 0 → creditOf unitId posting = 0 := by
      intro posting zero
      simp [creditOf, zero]
    rw [commit.credit, moved _ vanishes, posts.credit, books.accounts.credit]
  advances := commit.advanceBooks wf books.advances

theorem Reachable.creditBooks (reachable : Reachable env db) : CreditBooks db := by
  refine reachable.of_commits (fun start fresh => ?_) fun _ _ _ wf books commit => commit.creditBooks wf books
  constructor
  · constructor
    · simp [fresh.unitAccounts]
    · simp [Db.getCredit, Db.unitAccount?, findBy, fresh.unitAccounts, fresh.ledgerEntries, ledgerSum]
    · simp [Db.getCredit, Db.unitAccount?, findBy, fresh.unitAccounts]
  · rw [fresh.advancePayments, fresh.ledgerEntries]
    exact ⟨nodup_nil, by simp, by simp, by simp⟩

end SmartResidence.Billing
