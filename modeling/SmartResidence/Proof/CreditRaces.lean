import SmartResidence.Proof.CreditBooks
import SmartResidence.Proof.SessionRules

/-!
# Credit that several sessions give and use at once
-/

namespace SmartResidence.Billing

open Foundation Foundation.Discipline List

variable {db now after : Db} {advance row : AdvancePayment} {posting : LedgerPosting} {unitId : Id}
  {held : List Lock}

/-! ## What the locks keep -/

def Unkeyed (id : Id) (db : Db) : Prop :=
  ∀ entry ∈ db.ledgerEntries, entry.idempotencyKey ≠ some (.prepayment id) ∧
    ∀ invoiceId, entry.idempotencyKey ≠ some (.invoicePrepayment invoiceId id)

def CreditKept : Lock → Db → Db → Prop
  | .unitAccount unitId, before, after => after.getCredit unitId = before.getCredit unitId
  | .advancePayment id, before, after => after.advancePayment? id = before.advancePayment? id
  | .newId id, before, after => Unkeyed id before → Unkeyed id after
  | _, _, _ => True

def creditDiscipline : Discipline Db Lock where
  Inv := CreditBooks
  Grows _ _ := True
  Same := CreditKept
  grows_refl _ := trivial
  grows_trans _ _ := trivial
  same_refl lock db := by
    cases lock with
    | unitAccount unitId => exact rfl
    | advancePayment id => exact rfl
    | newId id => exact fun unkeyed => unkeyed
    | _ => exact trivial
  same_trans {lock first second third} one two := by
    cases lock with
    | unitAccount unitId => exact Eq.trans two one
    | advancePayment id => exact Eq.trans two one
    | newId id => exact fun unkeyed => two (one unkeyed)
    | _ => exact trivial

structure OffCredit (posting : LedgerPosting) : Prop where
  advances : OffAdvances posting
  credit : ∀ unitId, creditOf unitId posting = 0
  key : ∀ id, posting.idempotencyKey ≠ some (.prepayment id) ∧
    ∀ invoiceId, posting.idempotencyKey ≠ some (.invoicePrepayment invoiceId id)

theorem credit_guarantee (postings : List LedgerPosting) (books : CreditBooks db)
    (accounts : after.unitAccounts = db.unitAccounts) (advances : after.advancePayments = db.advancePayments)
    (entries : after.ledgerEntries = appendPostings db.ledgerEntries postings)
    (off : ∀ posting ∈ postings, OffCredit posting) : creditDiscipline.Guarantee [] db after where
  inv := by
    constructor
    · constructor
      · rw [accounts]
        exact books.accounts.units
      · intro unitId
        rw [getCredit_congr accounts, books.accounts.credit, entries, ledgerSum_appendPostings_zero]
        exact fun posting mem => (off posting mem).credit unitId
      · intro unitId
        rw [getCredit_congr accounts]
        exact books.accounts.nonneg unitId
    · rw [advances, entries]
      exact books.advances.append fun posting mem => (off posting mem).advances
  grows := trivial
  same lock _ := by
    cases lock with
    | unitAccount unitId => exact getCredit_congr accounts
    | advancePayment id =>
      show findBy AdvancePayment.id id after.advancePayments = _
      rw [advances]
      rfl
    | newId id =>
      intro unkeyed entry mem
      rw [entries] at mem
      rcases mem_appendPostings mem with old | new
      · exact unkeyed entry old
      · exact (off _ new).key id
    | _ => exact trivial

theorem credit_neutral {change : Db → Db} (accounts : ∀ db, (change db).unitAccounts = db.unitAccounts)
    (advances : ∀ db, (change db).advancePayments = db.advancePayments)
    (entries : ∀ db, (change db).ledgerEntries = db.ledgerEntries) : creditDiscipline.Neutral change :=
  fun db books => credit_guarantee [] books (accounts db) (advances db) (entries db)
    fun _ mem => absurd mem not_mem_nil

theorem neutral_receipt (receipt : Receipt) : creditDiscipline.Neutral fun db => db.addReceipt receipt :=
  credit_neutral (fun _ => rfl) (fun _ => rfl) fun _ => rfl

theorem neutral_payment (payment : Payment) : creditDiscipline.Neutral fun db => db.addPayment payment :=
  credit_neutral (fun _ => rfl) (fun _ => rfl) fun _ => rfl

theorem neutral_invoice (id : Id) (change : Invoice → Invoice) :
    creditDiscipline.Neutral fun db => db.changeInvoice id change :=
  credit_neutral (fun _ => rfl) (fun _ => rfl) fun _ => rfl

theorem neutral_shares (invoice : Invoice) (paymentId : Id) (occurredAt : Instant)
    (actorUserId : Option Id) (allocations : List (LedgerFund × ℤ)) : creditDiscipline.Neutral fun db =>
      db.recordMany (allocations.map (paymentPosting invoice paymentId occurredAt actorUserId)) := by
  intro db books
  refine credit_guarantee _ books rfl rfl rfl fun posting mem => ?_
  obtain ⟨allocation, _, rfl⟩ := mem_map.mp mem
  exact ⟨⟨nofun, nofun⟩, fun unitId => by simp [creditOf, paymentPosting], fun id => ⟨nofun, nofun⟩⟩

/-! ## What a session writes about credit -/

structure Moves (unitId : Id) (posting : LedgerPosting) (before after : Db) : Prop where
  unit : posting.unitId = some unitId
  type : posting.type = .prepayment ∨ posting.type = .prepaymentApplied
  units : (after.unitAccounts.map UnitAccount.unitId).Nodup
  credit : ∀ other, after.getCredit other = before.getCredit other + if unitId = other then posting.amount else 0
  entries : after.ledgerEntries = appendPosting before.ledgerEntries posting

theorem AccountBooks.moved (books : AccountBooks db) (moves : Moves unitId posting db after)
    (unused : ∀ entry ∈ db.ledgerEntries, entry.idempotencyKey ≠ posting.idempotencyKey)
    (covered : 0 ≤ db.getCredit unitId + posting.amount) : AccountBooks after where
  units := moves.units
  credit := by
    intro other
    rw [moves.credit, moves.entries, ledgerSum_appendPosting _ unused, ← books.credit]
    have counted : creditOf other posting = if unitId = other then posting.amount else 0 := by
      simp [creditOf, moves.unit, moves.type]
    rw [counted]
  nonneg := by
    intro other
    rw [moves.credit]
    have before := books.nonneg other
    split
    · rename_i own
      exact own ▸ covered
    · omega

theorem Moves.same (moves : Moves unitId posting db after) (locked : Lock.unitAccount unitId ∈ held)
    {other : Id} (free : Lock.unitAccount other ∉ held) : after.getCredit other = db.getCredit other := by
  have ne : unitId ≠ other := fun same => free (same ▸ locked)
  rw [moves.credit, if_neg ne, add_zero]

theorem Moves.guarantee {id : Id} (moves : Moves unitId posting db after) (books : CreditBooks db)
    (off : OffAdvances posting) (advances : after.advancePayments = db.advancePayments)
    (keyed : posting.idempotencyKey = some (.prepayment id) ∨
      ∃ invoiceId, posting.idempotencyKey = some (.invoicePrepayment invoiceId id))
    (unkeyed : Unkeyed id db) (covered : 0 ≤ db.getCredit unitId + posting.amount)
    (locked : Lock.unitAccount unitId ∈ held) (reserved : Lock.newId id ∈ held) :
    creditDiscipline.Guarantee held db after where
  inv := by
    constructor
    · refine books.accounts.moved moves (fun entry mem same => ?_) covered
      have free := unkeyed entry mem
      rcases keyed with key | ⟨invoiceId, key⟩
      · exact free.1 (same.trans key)
      · exact free.2 invoiceId (same.trans key)
    · rw [advances, moves.entries]
      have listed : ∀ other ∈ [posting], OffAdvances other := by simpa using off
      exact books.advances.append listed
  grows := trivial
  same lock free := by
    cases lock with
    | unitAccount other => exact moves.same locked free
    | advancePayment id =>
      show findBy AdvancePayment.id id after.advancePayments = _
      rw [advances]
      rfl
    | newId other =>
      intro before entry mem
      rw [moves.entries] at mem
      rcases mem_appendPosting mem with old | new
      · exact before entry old
      · have ne : id ≠ other := fun same => free (same ▸ reserved)
        rw [new]
        rcases keyed with key | ⟨invoiceId, key⟩ <;> simp [key, ne]
    | _ => exact trivial

theorem prepaid_guarantee {instant : Instant} {condoId receiptId actorId : Id} {amount : ℚ} {receipt : Receipt}
    (books : CreditBooks db) (pos : 0 ≤ amount) (unkeyed : Unkeyed receiptId db)
    (account : Lock.unitAccount unitId ∈ held) (reserved : Lock.newId receiptId ∈ held) :
    creditDiscipline.Guarantee held db
      (((db.addReceipt receipt).record
        (prepaymentPosting instant condoId unitId receiptId actorId amount)).addCredit
          condoId unitId (stored amount)) := by
  have moves : Moves unitId (prepaymentPosting instant condoId unitId receiptId actorId amount) db
      (((db.addReceipt receipt).record
        (prepaymentPosting instant condoId unitId receiptId actorId amount)).addCredit
          condoId unitId (stored amount)) :=
    ⟨rfl, .inl rfl, upsertAccount_nodup books.accounts.units _ _ _, fun _ => getCredit_add, rfl⟩
  have nonneg : 0 ≤ stored amount := roundHalfAway_nonneg pos
  exact moves.guarantee books ⟨nofun, nofun⟩ rfl (.inl rfl) unkeyed
    (add_nonneg (books.accounts.nonneg unitId) nonneg) account reserved

theorem applied_guarantee {instant : Instant} {condoId invoiceId paymentId : Id} {amount : ℤ}
    (books : CreditBooks db) (pos : 0 < amount) (covered : amount ≤ db.getCredit unitId)
    (unkeyed : Unkeyed paymentId db) (account : Lock.unitAccount unitId ∈ held)
    (reserved : Lock.newId paymentId ∈ held) : creditDiscipline.Guarantee held db
      ((db.incrementCredit unitId (- amount)).record
        (prepaymentAppliedPosting instant condoId unitId invoiceId paymentId amount)) := by
  have known := account_of_credit (lt_of_lt_of_le pos covered)
  have moves : Moves unitId (prepaymentAppliedPosting instant condoId unitId invoiceId paymentId amount) db
      ((db.incrementCredit unitId (- amount)).record
        (prepaymentAppliedPosting instant condoId unitId invoiceId paymentId amount)) :=
    ⟨rfl, .inr rfl, incrementAccount_nodup books.accounts.units _ _, fun _ => getCredit_increment known, rfl⟩
  exact moves.guarantee books ⟨nofun, nofun⟩ rfl (.inr ⟨invoiceId, rfl⟩) unkeyed
    (by simpa [prepaymentAppliedPosting] using covered) account reserved

theorem confirmed_guarantee {instant : Instant} {ids : List Id} {receipt : Receipt} (books : CreditBooks db)
    (found : db.advancePayment? row.id = some row) (pending : row.status = .pending)
    (own : ∀ id, id ∈ ids ↔ id = row.id) (locked : Lock.advancePayment row.id ∈ held)
    (account : Lock.unitAccount row.unitId ∈ held) : creditDiscipline.Guarantee held db
      (((((db.updateAdvancePayments (fun other => decide (other.id ∈ ids)) (succeedAdvance instant)).addReceipt
        receipt).record (advancePosting instant (succeedAdvance instant row))).addCredit row.condoId row.unitId
          row.amount)) := by
  obtain ⟨mem, _⟩ := mem_of_findBy found
  have same : updateWhere (fun other => decide (other.id ∈ ids)) (succeedAdvance instant) db.advancePayments =
      updateBy AdvancePayment.id row.id (succeedAdvance instant) db.advancePayments := by
    simp only [own]
    rfl
  have moves : Moves row.unitId (advancePosting instant (succeedAdvance instant row)) db
      (((((db.updateAdvancePayments (fun other => decide (other.id ∈ ids)) (succeedAdvance instant)).addReceipt
        receipt).record (advancePosting instant (succeedAdvance instant row))).addCredit row.condoId row.unitId
          row.amount)) :=
    ⟨rfl, .inl rfl, upsertAccount_nodup books.accounts.units _ _ _, fun _ => getCredit_add, rfl⟩
  have covered := add_nonneg (books.accounts.nonneg row.unitId) (books.advances.amounts row mem)
  have unused := books.advances.pending_key mem pending
  refine ⟨⟨books.accounts.moved moves unused covered, ?_⟩, trivial, ?_⟩
  · show AdvanceBooks (updateWhere _ _ db.advancePayments) (appendPosting db.ledgerEntries _)
    rw [same]
    exact books.advances.confirmed mem pending
  · intro lock free
    cases lock with
    | unitAccount other => exact moves.same account free
    | advancePayment id =>
      have other : id ≠ row.id := fun named => free (named ▸ locked)
      show findBy AdvancePayment.id id (updateWhere _ _ db.advancePayments) = db.advancePayment? id
      rw [same, findBy_updateBy succeedAdvance_id]
      cases lookup : findBy AdvancePayment.id id db.advancePayments with
      | none => simp [Db.advancePayment?, lookup]
      | some old =>
        have named := (mem_of_findBy lookup).2
        simp [Db.advancePayment?, lookup, named, other]
    | newId id =>
      intro before entry mem
      rcases mem_appendPosting mem with old | new
      · exact before entry old
      · rw [new]
        exact ⟨fun same => (by cases same), fun _ same => by cases same⟩
    | _ => exact trivial

/-! ## The scripts -/

namespace Crediting

variable {condition : Statement → Db → Db → Prop} {standing : Standing Db Lock} {instant : Instant}

structure Reserved (id : Id) (standing : Standing Db Lock) : Prop where
  locked : Lock.newId id ∈ standing.held
  unkeyed : Unkeyed id standing.seen

theorem unkeyed_of_unused {id : Id} (unused : db.usesId id = false) : Unkeyed id db := by
  have free : ∀ entry ∈ db.ledgerEntries, ∀ key, entry.idempotencyKey = some key → id ∉ key.ids := by
    intro entry mem key named inside
    have listed : key ∈ db.ledgerKeys := mem_filterMap.mpr ⟨entry, mem, named⟩
    have used : db.usesId id = true := by
      simp only [Db.usesId, mem_append, mem_flatMap, decide_eq_true_eq]
      exact .inr ⟨key, listed, inside⟩
    rw [used] at unused
    cases unused
  intro entry mem
  refine ⟨fun key => ?_, fun invoiceId key => ?_⟩
  · exact free entry mem _ key (by simp [IdempotencyKey.ids])
  · exact free entry mem _ key (by simp [IdempotencyKey.ids])

theorem Reserved.later {id : Id} (reserved : Reserved id standing)
    (rely : creditDiscipline.Rely standing.held standing.seen now) : Unkeyed id now :=
  rely.same _ reserved.locked reserved.unkeyed

theorem Reserved.extends {id : Id} {change : Db → Db} {final : Standing Db Lock} (reserved : Reserved id standing)
    (extended : creditDiscipline.Extends standing final change) : Reserved id final :=
  ⟨extended.held reserved.locked, reserved.later extended.rely⟩

theorem safe_recordPrepaymentInTx {actorId condoId : Id} {dto : RecordPrepaymentDto} (idle : standing.pending = id) :
    creditDiscipline.Safe condition (Upon fun _ after => creditDiscipline.Sound after)
      (Sql.recordPrepaymentInTx instant actorId condoId dto) standing := by
  apply safe_bind
  refine Sql.safe_issueInTx fun receiptId seen locks issued rely unused extended => ?_
  rw [idle] at unused
  have reserved : Reserved receiptId (standing.wrote seen (.newId receiptId :: locks) fun db => db) :=
    ⟨by simp [Standing.wrote], unkeyed_of_unused unused⟩
  apply safe_bind
  refine Sql.safe_record fun recorded first => ?_
  refine safe_write fun credited second => ?_
  refine Extends.sound ((extended.trans (.wrote first)).trans (.wrote second)) fun now rely => ?_
  show creditDiscipline.Guarantee _ now (Db.addCredit (Db.record (Db.addReceipt (standing.pending now) _) _) _ _ _)
  rw [idle]
  refine prepaid_guarantee rely.inv dto.amount_nonneg (reserved.later rely) ?_ ?_
  · exact mem_append_left _ (mem_singleton_self _)
  · exact mem_append_right _ (mem_append_right _ (extended.held reserved.locked))

theorem safe_confirmAdvanceInTx (idle : standing.pending = id) :
    creditDiscipline.Safe condition (Upon fun _ after => creditDiscipline.Sound after)
      (Sql.confirmAdvanceInTx instant advance) standing := by
  apply safe_bind
  refine Sql.safe_updateAdvancePayments fun one matching first pick => ?_
  rw [idle] at pick
  have books : CreditBooks one := first.inv
  split
  · rename_i zero
    rw [length_eq_zero_iff] at zero
    subst zero
    refine safe_pure (sound_idle ?_)
    funext db
    simp [Standing.wrote, idle, Db.updateAdvancePayments, updateWhere]
  · rename_i count
    obtain ⟨row, listed⟩ := exists_mem_of_length_pos (Nat.pos_of_ne_zero count)
    obtain ⟨mem, passes⟩ := (pick row).mp listed
    obtain ⟨named, pending⟩ := of_decide_eq_true passes
    have found : one.advancePayment? row.id = some row := findBy_of_mem books.advances.ids mem
    have own : ∀ id, id ∈ matching.map AdvancePayment.id ↔ id = row.id := by
      intro id
      constructor
      · intro inside
        obtain ⟨other, also, rfl⟩ := mem_map.mp inside
        rw [(of_decide_eq_true ((pick other).mp also).2).1, named]
      · rintro rfl
        exact mem_map_of_mem listed
    have locked : Lock.advancePayment row.id ∈ matching.map fun row => Lock.advancePayment row.id :=
      mem_map_of_mem (f := fun row : AdvancePayment => Lock.advancePayment row.id) listed
    apply safe_bind
    refine safe_read fun two second => ?_
    have later : two.advancePayment? row.id = some row :=
      (second.same _ (mem_append_left _ locked)).trans found
    have updated : ((standing.wrote one (matching.map fun row => Lock.advancePayment row.id) fun db =>
        db.updateAdvancePayments (fun row => decide (row.id ∈ matching.map AdvancePayment.id))
          (succeedAdvance instant)).pending two).advancePayment? advance.id = some (succeedAdvance instant row) := by
      show Db.advancePayment? (Db.updateAdvancePayments (standing.pending two) _ _) advance.id = _
      rw [idle, ← named]
      simp only [own]
      show findBy AdvancePayment.id row.id (updateBy AdvancePayment.id row.id (succeedAdvance instant)
        two.advancePayments) = _
      rw [findBy_updateBy succeedAdvance_id]
      simp only [Db.advancePayment?] at later
      simp [later]
    rw [updated]
    apply safe_bind
    refine Sql.safe_issueInTx fun receiptId seen locks issued rely unused extended => ?_
    apply safe_bind
    refine Sql.safe_record fun recorded third => ?_
    apply safe_bind
    refine safe_write fun credited fourth => ?_
    have receipted := ((Extends.wrote second).trans (.wrote rely)).trans extended
    refine safe_pure (Extends.sound (receipted.trans ((Extends.wrote third).trans (.wrote fourth)))
      fun now last => ?_)
    have still : now.advancePayment? row.id = some row :=
      (last.same _ (mem_append_left _ locked)).trans found
    show creditDiscipline.Guarantee _ now (Db.addCredit (Db.record (Db.addReceipt
      (Db.updateAdvancePayments (standing.pending now) _ _) _) _) _ _ _)
    rw [idle]
    refine confirmed_guarantee last.inv still pending own ?_ ?_
    · exact mem_append_right _ (mem_append_right _ (receipted.held (mem_append_left _ locked)))
    · exact mem_append_left _ (mem_singleton_self _)

theorem hasCredit_le {amount : ℤ} (enough : Sql.hasCredit unitId amount db = true) : amount ≤ db.getCredit unitId := by
  rw [Sql.hasCredit, Option.any_eq_true] at enough
  obtain ⟨account, found, least⟩ := enough
  rw [Db.getCredit, found]
  exact of_decide_eq_true least

theorem safe_applyCreditInTx {invoiceId condoId : Id} (idle : standing.pending = id) :
    creditDiscipline.Safe condition (Upon fun _ after => creditDiscipline.Sound after)
      (Sql.applyCreditInTx instant invoiceId unitId condoId) standing := by
  apply safe_bind
  refine safe_read fun one first => ?_
  split
  · exact safe_pure (sound_idle idle)
  · apply safe_bind
    refine safe_read fun two second => ?_
    split
    · exact safe_pure (sound_idle idle)
    · split
      · exact safe_pure (sound_idle idle)
      · dsimp only
        split
        · exact safe_pure (sound_idle idle)
        · rename_i pos
          rw [cast_le_half, not_le] at pos
          apply safe_bind
          refine Sql.safe_insertPayment fun paymentId seen inserted rely unused third => ?_
          have unkeyed : Unkeyed paymentId seen := by
            refine unkeyed_of_unused (?_ : (id seen).usesId paymentId = false)
            rw [← idle]
            exact unused
          apply safe_bind
          refine Sql.quiet_settleInvoice neutral_receipt neutral_shares neutral_invoice fun settled quiet => ?_
          obtain ⟨change, neutral, extended⟩ := quiet
          have reserved := Reserved.extends
            ⟨by simp [Standing.wrote], third.same (.newId paymentId) (by simp) unkeyed⟩ extended
          have early : creditDiscipline.Neutral settled.pending := by
            rw [extended.pending]
            refine neutral.comp ?_
            have unwritten : ((standing.wrote one [] id).wrote two [] id).pending = id := idle
            rw [Standing.wrote, unwritten]
            exact neutral_payment _
          apply safe_bind
          refine Sql.safe_consumeCredit fun consumed fourth enough => ?_
          refine Sql.safe_record fun recorded fifth => ?_
          refine Extends.sound (.wrote fifth) fun now final => ?_
          have before := early consumed fourth.inv
          have moved := early now final.inv
          have covered := hasCredit_le enough
          have same : (settled.pending now).getCredit unitId = (settled.pending consumed).getCredit unitId := by
            have kept : now.getCredit unitId = consumed.getCredit unitId :=
              final.same (.unitAccount unitId) (by simp [Standing.wrote])
            have first : (settled.pending now).getCredit unitId = now.getCredit unitId :=
              moved.same (.unitAccount unitId) (by simp)
            have last : (settled.pending consumed).getCredit unitId = consumed.getCredit unitId :=
              before.same (.unitAccount unitId) (by simp)
            rw [first, kept, last]
          have unkeyedNow := (reserved.extends (.wrote fourth)).later final
          refine (moved.mono (nil_subset _)).trans (applied_guarantee moved.inv pos
            (same ▸ covered) (moved.same (.newId paymentId) (by simp) unkeyedNow) ?_ ?_)
          · exact mem_append_right _ (mem_append_left _ (mem_singleton_self _))
          · exact mem_append_right _ (mem_append_right _ reserved.locked)

variable {condoId : Id}

theorem safe_applyCreditToInvoice {invoiceId : Id} (idle : standing.pending = id) :
    creditDiscipline.Safe condition (Upon fun _ after => after.pending = id)
      (Sql.applyCreditToInvoice instant invoiceId unitId condoId) standing := by
  apply safe_bind
  refine safe_read fun seen rely => ?_
  split
  · exact safe_pure idle
  · exact safe_committing (safe_applyCreditInTx idle) fun _ _ => rfl

theorem safe_applyCreditToEach {invoices : List Id} (idle : standing.pending = id) :
    creditDiscipline.Safe condition (Upon fun _ after => after.pending = id)
      (Sql.applyCreditToEach instant unitId condoId invoices) standing := by
  induction invoices generalizing standing with
  | nil => exact safe_pure idle
  | cons invoiceId rest ih =>
    apply safe_bind
    refine safe_read fun seen rely => ?_
    split
    · exact safe_pure idle
    · apply safe_bind
      have applied : creditDiscipline.Safe condition (Upon fun _ after => after.pending = id)
          (Sql.applyCreditToInvoice instant invoiceId unitId condoId) (standing.wrote seen [] id) :=
        safe_applyCreditToInvoice idle
      refine applied.mono fun result after fits => ?_
      cases result with
      | ok value => exact ih fits
      | error failure => exact trivial

theorem safe_applyCreditToOutstanding (idle : standing.pending = id) :
    creditDiscipline.Safe condition (Upon fun _ after => after.pending = id)
      (Sql.applyCreditToOutstanding instant unitId condoId) standing := by
  apply safe_bind
  exact safe_read fun seen rely => safe_applyCreditToEach idle

theorem safe_recordPrepayment {actor : AuthenticatedUser} {dto : RecordPrepaymentDto} (idle : standing.pending = id) :
    creditDiscipline.Safe condition (Upon fun _ after => after.pending = id)
      (Sql.recordPrepayment instant actor dto) standing := by
  apply safe_bind
  refine safe_read fun seen rely => ?_
  apply safe_bind
  refine Sql.safe_check fun unit _ => ?_
  apply safe_bind
  refine Sql.safe_check fun _ _ => ?_
  apply safe_bind
  refine Sql.safe_check fun _ _ => ?_
  apply safe_bind
  exact safe_committing (safe_recordPrepaymentInTx idle) fun _ _ => safe_applyCreditToOutstanding rfl

theorem safe_markAdvancePaymentSucceeded {env : Env} {ref : String} (idle : standing.pending = id) :
    creditDiscipline.Safe condition (Upon fun _ after => after.pending = id)
      (Sql.markAdvancePaymentSucceeded env instant ref) standing := by
  apply safe_bind
  refine safe_read fun seen rely => ?_
  split
  · exact safe_pure idle
  · split
    · exact safe_pure idle
    · apply safe_bind
      refine safe_committing (safe_confirmAdvanceInTx idle) fun result committed => ?_
      cases result with
      | none => exact safe_pure rfl
      | some updated => exact safe_applyCreditToOutstanding rfl

end Crediting

inductive CreditRequest
  | recordPrepayment (now : Instant) (actor : AuthenticatedUser) (dto : RecordPrepaymentDto)
  | markAdvancePaymentSucceeded (now : Instant) (ref : String)
  | applyCreditToInvoice (now : Instant) (invoiceId unitId condoId : Id)
  | applyCreditToOutstanding (now : Instant) (unitId condoId : Id)

def CreditRequest.script (env : Env) : CreditRequest → Sql Unit
  | .recordPrepayment now actor dto => Sql.recordPrepayment now actor dto
  | .markAdvancePaymentSucceeded now ref => Sql.markAdvancePaymentSucceeded env now ref
  | .applyCreditToInvoice now invoiceId unitId condoId =>
      Sql.applyCreditToInvoice now invoiceId unitId condoId
  | .applyCreditToOutstanding now unitId condoId => Sql.applyCreditToOutstanding now unitId condoId

theorem CreditRequest.safe {env : Env} {condition : Statement → Db → Db → Prop} (request : CreditRequest) (start : Db) :
    creditDiscipline.Safe condition (Upon fun _ after => after.pending = id) (request.script env) (.idle start) := by
  cases request with
  | recordPrepayment now actor dto => exact Crediting.safe_recordPrepayment rfl
  | markAdvancePaymentSucceeded now ref => exact Crediting.safe_markAdvancePaymentSucceeded rfl
  | applyCreditToInvoice now invoiceId unitId condoId => exact Crediting.safe_applyCreditToInvoice rfl
  | applyCreditToOutstanding now unitId condoId => exact Crediting.safe_applyCreditToOutstanding rfl

/-- Balances are what the entries add up to and not negative. An advance payment that has succeeded is
credited once, with its amount to its unit. -/
structure CreditExact (db : Db) : Prop where
  balance : ∀ account ∈ db.unitAccounts,
    account.creditBalance = ledgerSum (creditOf account.unitId) db.ledgerEntries
  without : ∀ unitId, db.unitAccount? unitId = none → ledgerSum (creditOf unitId) db.ledgerEntries = 0
  nonneg : ∀ account ∈ db.unitAccounts, 0 ≤ account.creditBalance
  once : ∀ advance ∈ db.advancePayments, creditsFrom advance.id db.ledgerEntries =
    if advance.status = .succeeded then [(some advance.unitId, advance.amount)] else []

theorem CreditBooks.exact (books : CreditBooks db) : CreditExact db where
  balance account mem := by
    rw [← books.accounts.credit, getCredit_eq books.accounts.units mem]
  without unitId none := by
    rw [← books.accounts.credit, Db.getCredit, none]
  nonneg account mem := by
    rw [← getCredit_eq books.accounts.units mem]
    exact books.accounts.nonneg account.unitId
  once := books.advances.credited

theorem credit_exact {Index : Type} [DecidableEq Index] {env : Env} {start : Db} (reachable : Reachable env start)
    {requests : Index → CreditRequest} {events : List (Event Index ApiError)}
    {finish : System Index Db Lock Statement ApiError Unit}
    (run : Run System.Step (System.start start fun who => (requests who).script env) events finish) :
    CreditExact finish.committed := by
  have safe : ∀ who, creditDiscipline.Safe (fun _ _ _ => True) (Upon fun _ _ => True)
      ((requests who).script env) (.idle start) := by
    intro who
    refine ((requests who).safe start).mono fun result after _ => ?_
    cases result with
    | ok value => exact trivial
    | error failure => exact trivial
  have met : Run (Guarded (fun before event => System.Meets before (fun _ _ _ => True) event) System.Step)
      (System.start start fun who => (requests who).script env) events finish :=
    run.mono fun before _ _ step => ⟨before.meets_true, step⟩
  have books : CreditBooks finish.committed :=
    (inv_of_run reachable.creditBooks safe met : creditDiscipline.Inv _)
  exact books.exact

namespace Sample

def advancing : CreateAdvancePaymentDto := ⟨7, 15000, .fpx, by decide +kernel⟩

def advanced : List Request := [⟨0, .create admin invoice⟩, ⟨1, .createAdvancePayment admin advancing⟩]

def callbacks (who : Fin 2) : CreditRequest := .markAdvancePaymentSucceeded (if who.val = 0 then 2 else 3) fpxRef

theorem callbacks_schedule : (schedule env advanced (fun who => (callbacks who).script env) (fun _ _ => true)
      (moves 0 10 1 ++ moves 1 20 1 ++ moves 0 11 9 ++ moves 1 21 2 ++ moves 0 12 5 ++ moves 0 13 11)).map
        (fun result => (result.2.committed.getCredit 7, creditsFrom 1 result.2.committed.ledgerEntries,
          decide (∀ who, (result.2.session who).done = true))) = .ok (5000, [(some 7, 15000)], true) := by
  decide +kernel

end Sample

theorem credit_exact_repeated : ∃ start events,
    ∃ finish : System (Fin 2) Db Lock Statement ApiError Unit,
      Run System.Step (System.start start fun who => (Sample.callbacks who).script Sample.env) events finish ∧
      CreditExact finish.committed ∧ (∀ who, (finish.session who).done = true) ∧
      finish.committed.getCredit 7 = 5000 ∧
      creditsFrom 1 finish.committed.ledgerEntries = [(some 7, 15000)] := by
  obtain ⟨⟨start, finish⟩, scheduled, figures⟩ := map_eq_ok.mp Sample.callbacks_schedule
  obtain ⟨reachable, run⟩ := run_of_schedule scheduled
  have run := run.guard_forgotten
  simp only [Prod.mk.injEq] at figures
  obtain ⟨credit, credits, done⟩ := figures
  exact ⟨start, _, finish, run, credit_exact reachable run, of_decide_eq_true done, credit, credits⟩

end SmartResidence.Billing
