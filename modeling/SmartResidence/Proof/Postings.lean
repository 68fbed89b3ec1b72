import SmartResidence.Proof.Requests

/-!
# What each commit writes to the ledger
-/

namespace SmartResidence.Billing

open Foundation List

/-! ## Whole amounts -/

def Op.Whole : Op → Prop
  | .create _ dto => ∀ line ∈ dto.lines, Foundation.Whole line.amount
  | .createInvoiceInTx opts => ∀ line ∈ opts.lines, Foundation.Whole line.amount
  | .generateRecurring _ _ dto _ => ∀ line ∈ dto.lines.getD [], Foundation.Whole line.amount
  | .createAdvancePayment _ dto => Foundation.Whole dto.amount
  | .recordManualPayment _ _ dto => ∀ amount ∈ dto.amount, Foundation.Whole amount
  | .recordPrepayment _ dto => Foundation.Whole dto.amount
  | .depositRecord _ dto => Foundation.Whole dto.amount
  | .depositRecordInTx input => Foundation.Whole input.amount
  | .depositRefund _ _ dto => ∀ amount ∈ dto.amount, Foundation.Whole amount
  | _ => True

variable {env : Env} {db after : Db} {request : Request} {change : Change}

variable {unit : ResidentialUnit}

theorem computedLine_amount {line : ComputedFeeLine} {extras : List FeeScheduleExtraLine}
    (computed : line ∈ computeLinesForUnit db unit ++ computeExtraLinesForUnit unit extras) :
    ∃ n : ℤ, 0 < n ∧ line.toCharge.amount = n := by
  have rate : ∀ code description fund amount, line ∈ rateLine code description fund amount →
      ∃ n : ℤ, 0 < n ∧ line.toCharge.amount = n := by
    intro code description fund amount mem
    rw [rateLine] at mem
    split at mem
    · rename_i pos
      rw [mem_singleton] at mem
      subst mem
      exact ⟨amount, pos, by simp [ComputedFeeLine.toCharge]⟩
    · cases mem
  rcases mem_append.mp computed with base | extra
  · rw [computeLinesForUnit] at base
    split at base
    · cases base
    · exact (mem_append.mp base).elim (rate _ _ _ _) (rate _ _ _ _)
  · obtain ⟨source, _, inside⟩ := mem_flatMap.mp extra
    exact rate _ _ _ _ inside

variable {lines : List InvoiceLineDto}

theorem toCharge_whole (whole : ∀ line ∈ lines, Whole line.amount) :
    ∀ line ∈ lines.map InvoiceLineDto.toCharge, Whole line.amount := by
  intro line mem
  obtain ⟨dto, inside, rfl⟩ := mem_map.mp mem
  exact whole dto inside

theorem linesForUnit_whole {condoId : Id} {dto : GenerateRecurringDto}
    (whole : ∀ line ∈ dto.lines.getD [], Whole line.amount) :
    ∀ line ∈ linesForUnit db condoId dto unit, Whole line.amount := by
  intro line mem
  rw [linesForUnit] at mem
  split at mem
  · obtain ⟨computed, inside, rfl⟩ := mem_map.mp mem
    obtain ⟨n, _, same⟩ := computedLine_amount inside
    exact ⟨n, same⟩
  · refine toCharge_whole (fun line inside => whole line ?_) line mem
    exact mem_of_mem_filter inside

theorem toCharge_nonneg : ∀ line ∈ lines.map InvoiceLineDto.toCharge, 0 ≤ line.amount := by
  intro line mem
  obtain ⟨dto, _, rfl⟩ := mem_map.mp mem
  exact mul_nonneg dto.unitPrice_nonneg dto.quantity_nonneg

theorem Arises.lines_nonneg {draft : InvoiceDraft} (arises : Arises env db request (.issued draft)) :
    ∀ line ∈ draft.lines, 0 ≤ line.amount := by
  obtain ⟨now, op⟩ := request
  cases op with
  | create actor dto =>
    obtain ⟨unit, _, rfl⟩ := mem_map.mp arises
    exact toCharge_nonneg
  | createInvoiceInTx opts =>
    rw [mem_singleton.mp arises]
    exact toCharge_nonneg
  | generateRecurring actor condoId dto options =>
    obtain ⟨plan, planned, rfl⟩ := mem_map.mp arises
    obtain ⟨unit, _, rfl⟩ := mem_map.mp planned
    intro line mem
    simp only [linesForUnit] at mem
    split at mem
    · obtain ⟨computed, inside, rfl⟩ := mem_map.mp mem
      obtain ⟨n, pos, same⟩ := computedLine_amount inside
      rw [same]
      exact_mod_cast le_of_lt pos
    · exact toCharge_nonneg line mem
  | _ => cases arises

theorem refundFigures_whole {deposit : Deposit} {dto : RefundDepositDto}
    (whole : ∀ amount ∈ dto.amount, Whole amount) : Whole (refundFigures deposit dto).amount := by
  cases given : dto.amount with
  | none =>
    simp only [refundFigures, given]
    exact .intCast _
  | some amount =>
    simp only [refundFigures, given]
    exact whole amount given

theorem Arises.whole (arises : Arises env db request change) (whole : request.op.Whole) : change.Whole := by
  obtain ⟨now, op⟩ := request
  cases change with
  | issued draft =>
    cases op with
    | create actor dto =>
      obtain ⟨unit, _, rfl⟩ := mem_map.mp arises
      exact toCharge_whole whole
    | createInvoiceInTx opts =>
      rw [mem_singleton.mp arises]
      exact toCharge_whole whole
    | generateRecurring actor condoId dto options =>
      obtain ⟨plan, planned, rfl⟩ := mem_map.mp arises
      obtain ⟨unit, _, rfl⟩ := mem_map.mp planned
      exact linesForUnit_whole whole
    | _ => cases arises
  | manual invoice amount method =>
    obtain ⟨actor, dto, rfl, _, rfl, _⟩ := arises
    cases given : dto.amount with
    | none =>
      simp only [manualAmount, given]
      exact .intCast _
    | some amount =>
      simp only [manualAmount, given]
      exact whole amount given
  | advanceOpened | prepaid =>
    obtain ⟨actor, dto, rfl, rfl, _⟩ := arises
    exact whole
  | depositHeld =>
    rcases arises with ⟨actor, dto, rfl, rfl, _⟩ | ⟨input, rfl, rfl⟩
    · exact whole
    · exact whole
  | depositRefunded deposit amount =>
    rcases arises with ⟨actor, rfl, rfl⟩ | ⟨actor, dto, rfl, rfl⟩
    · exact .intCast _
    · exact refundFigures_whole whole
  | depositForfeited deposit amount =>
    obtain ⟨actor, dto, rfl, rfl, _⟩ := arises
    exact refundFigures_whole whole
  | _ => trivial

/-! ## Postings -/

inductive Posts (db : Db) : Change → List LedgerPosting → Prop
  | issued {now : Instant} {draft : InvoiceDraft} {actorUserId : Option Id} :
      Posts db (.issued draft) (chargePostings now (draft.row now db.nextId) actorUserId draft.lines)
  | confirmed {occurredAt : Instant} {payment : Payment} {invoice : Invoice} {later : ℤ}
      (found : invoice ∈ db.invoices) (owner : invoice.id = payment.invoiceId) :
      Posts db (.confirmed payment later)
        (paymentPostings invoice payment.id payment.amount occurredAt payment.userId)
  | manual {occurredAt : Instant} {invoice : Invoice} {amount : ℚ} {method : Option String}
      {actorUserId : Option Id} :
      Posts db (.manual invoice amount method)
        (paymentPostings invoice db.nextId (stored amount) occurredAt actorUserId)
  | creditApplied {occurredAt : Instant} {invoice : Invoice} {condoId : Id} {amount : ℤ} :
      Posts db (.creditApplied invoice condoId amount)
        (paymentPostings invoice db.nextId amount occurredAt none ++
          [prepaymentAppliedPosting occurredAt condoId invoice.unitId invoice.id db.nextId amount])
  | advanceConfirmed {now : Instant} {advance : AdvancePayment} :
      Posts db (.advanceConfirmed advance) [advancePosting now (succeedAdvance now advance)]
  | prepaid {now : Instant} {condoId unitId actorId : Id} {amount : ℚ} :
      Posts db (.prepaid condoId unitId amount)
        [prepaymentPosting now condoId unitId db.nextId actorId amount]
  | voided {now : Instant} {invoice : Invoice} {actorUserId : Option Id} {pendingLeft : Bool}
      (found : invoice ∈ db.invoices) :
      Posts db (.voided invoice pendingLeft) (voidPostings now db.ledgerEntries invoice actorUserId)
  | depositHeld {now : Instant} {input : RecordDepositInput} :
      Posts db (.depositHeld input.condoId input.unitId input.amount)
        [depositHeldPosting now input db.nextId]
  | depositRefunded {now : Instant} {deposit : Deposit} {actorUserId : Option Id} {amount : ℚ} :
      Posts db (.depositRefunded deposit amount)
        [depositPosting now deposit actorUserId .deposit .refund (- amount)
          (.depositRefund deposit.id (deposit.refundedAmount + amount))]
  | depositForfeited {now : Instant} {deposit : Deposit} {actorUserId : Option Id} {amount : ℚ} :
      Posts db (.depositForfeited deposit amount)
        [depositPosting now deposit actorUserId .deposit .adjustment (- amount)
            (.depositForfeitLiability deposit.id (deposit.forfeitedAmount + amount)),
          depositPosting now deposit actorUserId .general .adjustment amount
            (.depositForfeitIncome deposit.id (deposit.forfeitedAmount + amount))]
  | paymentsMarked : Posts db .paymentsMarked []
  | paymentOpened {invoice : Invoice} : Posts db (.paymentOpened invoice) []
  | advancesMarked : Posts db .advancesMarked []
  | advanceOpened {amount : ℚ} : Posts db (.advanceOpened amount) []
  | invoicesMarked : Posts db .invoicesMarked []

theorem Commit.appends (commit : Commit db change after) : ∃ postings, Posts db change postings ∧
    after.ledgerEntries = appendPostings db.ledgerEntries postings := by
  cases commit with
  | issued => exact ⟨_, .issued, rfl⟩
  | confirmed mem pending found owner => exact ⟨_, .confirmed found owner, rfl⟩
  | manual => exact ⟨_, .manual, rfl⟩
  | @creditApplied now =>
    refine ⟨_, @Posts.creditApplied _ now _ _ _, ?_⟩
    rw [appendPostings, foldl_append]
    rfl
  | advanceConfirmed => exact ⟨_, .advanceConfirmed, rfl⟩
  | prepaid => exact ⟨_, .prepaid, rfl⟩
  | voided found => exact ⟨_, .voided found, rfl⟩
  | depositHeld => exact ⟨_, .depositHeld, rfl⟩
  | depositRefunded => exact ⟨_, .depositRefunded, rfl⟩
  | depositForfeited => exact ⟨_, .depositForfeited, rfl⟩
  | paymentsMarked => exact ⟨_, .paymentsMarked, rfl⟩
  | paymentOpened => exact ⟨_, .paymentOpened, rfl⟩
  | advancesMarked => exact ⟨_, .advancesMarked, rfl⟩
  | advanceOpened => exact ⟨_, .advanceOpened, rfl⟩
  | invoicesMarked => exact ⟨_, .invoicesMarked, rfl⟩

section

variable (wellFormed : WellFormed db)
include wellFormed

theorem freshKeys_of {postings : List LedgerPosting}
    (free : ∀ posting ∈ postings, ∀ key ∈ posting.idempotencyKey, ¬ KeyHolds db key)
    (nodup : (postings.map LedgerPosting.idempotencyKey).Nodup) : FreshKeys db.ledgerEntries postings := by
  refine ⟨fun posting mem entry found same => ?_, nodup⟩
  obtain ⟨key, isKey, holds⟩ := (wellFormed.keys entry found).key
  exact free posting mem key (same ▸ isKey) holds

theorem paymentPostings_fresh {invoice : Invoice} {paymentId : Id} {amount : ℤ} {occurredAt : Instant}
    {actorUserId : Option Id} (unpaid : ∀ payment ∈ db.payments, payment.id = paymentId → payment.status ≠ .succeeded) :
    FreshKeys db.ledgerEntries (paymentPostings invoice paymentId amount occurredAt actorUserId) := by
  refine freshKeys_of wellFormed (fun posting mem key isKey => ?_)
    (paymentPostings_keys_nodup _ _ _ _ _)
  obtain ⟨allocation, _, rfl⟩ := mem_paymentPostings mem
  cases isKey
  rintro ⟨payment, found, same, succeeded⟩
  exact unpaid payment found same succeeded

theorem nextId_unpaid : ∀ payment ∈ db.payments, payment.id = db.nextId → payment.status ≠ .succeeded :=
  fun _ found same => absurd same (ne_of_lt (wellFormed.payment_id_lt found))

omit wellFormed in
theorem freshKeys_append {first second : List LedgerPosting} (left : FreshKeys db.ledgerEntries first)
    (right : FreshKeys db.ledgerEntries second)
    (apart : ∀ posting ∈ first, ∀ other ∈ second, posting.idempotencyKey ≠ other.idempotencyKey) :
    FreshKeys db.ledgerEntries (first ++ second) := by
  refine ⟨fun posting mem => ?_, ?_⟩
  · exact (mem_append.mp mem).elim (left.unused posting) (right.unused posting)
  · rw [map_append, nodup_append]
    refine ⟨left.distinct, right.distinct, fun key mem other also => ?_⟩
    obtain ⟨posting, inside, rfl⟩ := mem_map.mp mem
    obtain ⟨later, listed, rfl⟩ := mem_map.mp also
    exact apart posting inside later listed

theorem freshKeys_one {posting : LedgerPosting} {key : IdempotencyKey}
    (isKey : posting.idempotencyKey = some key) (free : ¬ KeyHolds db key) : FreshKeys db.ledgerEntries [posting] := by
  refine freshKeys_of wellFormed (fun other mem found same => ?_) (by simp)
  rw [mem_singleton.mp mem, isKey, Option.mem_some_iff] at same
  exact same ▸ free

theorem deposit_key_free (got : Deposit → ℤ) {deposit : Deposit} (mem : deposit ∈ db.deposits)
    {amount : ℚ} (nonneg : 0 ≤ got deposit) (pos : 0 < amount) (grows : 0 < stored amount) :
    ¬ ∃ row ∈ db.deposits, row.id = deposit.id ∧ stored (got deposit + amount) ≤ got row := by
  rintro ⟨row, found, same, reached⟩
  obtain rfl := eq_of_key_eq wellFormed.depositIds.distinct found mem same
  have more : stored (got row + amount) = got row + stored amount :=
    roundHalfAway_intCast_add nonneg pos.le
  omega

end

def Change.Counts : Change → Prop
  | .depositRefunded _ amount => 0 < stored amount
  | .depositForfeited _ amount => 0 < stored amount
  | _ => True

section

variable (commit : Commit db change after)
include commit

theorem Commit.counts (whole : change.Whole) : change.Counts := by
  have atLeast : ∀ {amount : ℚ}, Whole amount → 0 < amount → 0 < stored amount := by
    rintro _ ⟨n, rfl⟩ pos
    rw [stored_intCast]
    exact_mod_cast pos
  cases commit with
  | depositRefunded _ pos => exact atLeast whole pos
  | depositForfeited _ pos => exact atLeast whole pos
  | _ => trivial

theorem Commit.posts (wellFormed : WellFormed db)
    (counts : change.Counts) : ∃ postings, Posts db change postings ∧ FreshKeys db.ledgerEntries postings ∧
      after.ledgerEntries = appendPostings db.ledgerEntries postings := by
  have none : FreshKeys db.ledgerEntries [] := ⟨by simp, by simp⟩
  cases commit with
  | issued =>
    refine ⟨_, .issued, freshKeys_of wellFormed (fun posting mem key isKey => ?_)
      (chargePostings_keys_nodup _ _ _ _), rfl⟩
    obtain ⟨index, line, _, rfl⟩ := mem_chargePostings mem
    cases isKey
    exact lt_irrefl db.nextId
  | confirmed mem pending found owner =>
    refine ⟨_, .confirmed found owner, paymentPostings_fresh wellFormed fun row inside same => ?_, rfl⟩
    rw [wellFormed.payment_unique inside mem same, pending]
    simp
  | manual => exact ⟨_, .manual, paymentPostings_fresh wellFormed (nextId_unpaid wellFormed), rfl⟩
  | @creditApplied now =>
    refine ⟨_, @Posts.creditApplied _ now _ _ _, freshKeys_append
      (paymentPostings_fresh wellFormed (nextId_unpaid wellFormed))
      (freshKeys_one wellFormed rfl (lt_irrefl db.nextId)) fun posting mem other listed => ?_, ?_⟩
    · obtain ⟨allocation, _, rfl⟩ := mem_paymentPostings mem
      rw [mem_singleton.mp listed]
      simp [paymentPosting, prepaymentAppliedPosting]
    · rw [appendPostings, foldl_append]
      rfl
  | advanceConfirmed mem pending =>
    refine ⟨_, .advanceConfirmed, freshKeys_one wellFormed rfl ?_, rfl⟩
    rintro ⟨row, found, same, succeeded⟩
    rw [eq_of_key_eq wellFormed.advanceIds.distinct found mem same, pending] at succeeded
    cases succeeded
  | prepaid => exact ⟨_, .prepaid, freshKeys_one wellFormed rfl (lt_irrefl db.nextId), rfl⟩
  | @voided now invoice actorUserId found active unpaid =>
    refine ⟨_, .voided found, freshKeys_of wellFormed (fun posting mem key isKey => ?_)
      (voidPostings_keys_nodup wellFormed.entryIds _ _), rfl⟩
    obtain ⟨charge, _, _, _, rfl⟩ := mem_voidPostings mem
    cases isKey
    rintro ⟨row, inside, same, closed⟩
    obtain rfl := wellFormed.invoice_unique inside found same
    exact closed.elim active (not_lt.mpr unpaid)
  | depositHeld =>
    exact ⟨_, .depositHeld, freshKeys_one wellFormed rfl (lt_irrefl db.nextId), rfl⟩
  | depositRefunded mem pos =>
    have nonneg := (wellFormed.returned _ mem).1
    exact ⟨_, .depositRefunded, freshKeys_one wellFormed rfl
      (deposit_key_free wellFormed Deposit.refundedAmount mem nonneg pos counts), rfl⟩
  | depositForfeited mem pos =>
    have nonneg := (wellFormed.returned _ mem).2
    have free := deposit_key_free wellFormed Deposit.forfeitedAmount mem nonneg pos counts
    refine ⟨[_] ++ [_], .depositForfeited, freshKeys_append (freshKeys_one wellFormed rfl ?_)
      (freshKeys_one wellFormed rfl ?_) ?_, rfl⟩
    · exact free
    · exact free
    · simp [depositPosting]
  | paymentsMarked => exact ⟨[], .paymentsMarked, none, rfl⟩
  | paymentOpened => exact ⟨[], .paymentOpened, none, rfl⟩
  | advancesMarked => exact ⟨[], .advancesMarked, none, rfl⟩
  | advanceOpened => exact ⟨[], .advanceOpened, none, rfl⟩
  | invoicesMarked => exact ⟨[], .invoicesMarked, none, rfl⟩

theorem Commit.ledgerSum_eq (wellFormed : WellFormed db)
    (whole : change.Whole) : ∃ postings, Posts db change postings ∧ ∀ measure,
      ledgerSum measure after.ledgerEntries = ledgerSum measure db.ledgerEntries + sumBy measure postings := by
  obtain ⟨postings, posts, fresh, same⟩ := commit.posts wellFormed (commit.counts whole)
  refine ⟨postings, posts, fun measure => ?_⟩
  rw [same, ledgerSum_appendPostings measure fresh]

theorem Commit.ledgerSum_moved (wellFormed : WellFormed db) :
    ∃ postings, Posts db change postings ∧ ∀ measure : LedgerPosting → ℤ,
      (∀ posting, posting.amount = 0 → measure posting = 0) →
      ledgerSum measure after.ledgerEntries = ledgerSum measure db.ledgerEntries + sumBy measure postings := by
  by_cases counts : change.Counts
  · obtain ⟨postings, posts, fresh, same⟩ := commit.posts wellFormed counts
    refine ⟨postings, posts, fun measure _ => ?_⟩
    rw [same, ledgerSum_appendPostings measure fresh]
  · have nothing : ∀ {amount : ℚ}, 0 < amount → ¬ 0 < stored amount → stored amount = 0 ∧ stored (- amount) = 0 := by
      intro amount pos small
      have zero : stored amount = 0 := le_antisymm (not_lt.mp small) (roundHalfAway_nonneg pos.le)
      exact ⟨zero, (stored_neg amount).trans (neg_eq_zero.mpr zero)⟩
    have silent : ∀ postings, (∀ posting ∈ postings, LedgerPosting.amount posting = 0) →
        ∀ measure : LedgerPosting → ℤ, (∀ posting, posting.amount = 0 → measure posting = 0) →
        ledgerSum measure (appendPostings db.ledgerEntries postings) =
          ledgerSum measure db.ledgerEntries + sumBy measure postings := by
      intro postings zero measure vanishes
      rw [ledgerSum_appendPostings_zero measure fun posting mem => vanishes _ (zero posting mem),
        sumBy_zero measure fun posting mem => vanishes _ (zero posting mem), add_zero]
    cases commit with
    | depositRefunded mem pos =>
      have zero := nothing pos counts
      exact ⟨_, .depositRefunded, silent [_] (by simp [depositPosting, zero])⟩
    | depositForfeited mem pos =>
      have zero := nothing pos counts
      exact ⟨_, .depositForfeited, silent [_, _] (by simp [depositPosting, zero])⟩
    | _ => exact absurd trivial counts

end

end SmartResidence.Billing
