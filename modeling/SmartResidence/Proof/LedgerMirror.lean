import SmartResidence.Proof.FundSettlement
import SmartResidence.Proof.GlPostings
import SmartResidence.Proof.NumberTexts
import SmartResidence.Proof.Voiding

/-!
# The general ledger beside the operational one
-/

namespace SmartResidence.Accounting

open Foundation Billing List

variable {env : Env} {books before after : Books} {change : Change} {condoId : Id}

def Books.posted (env : Env) (books : Books) (request : Request) (now : Instant) (actorUserId : Option Id)
    (change : Change) : GlDb :=
  match change with
  | .issued draft => (books.recordInvoiceCharges env now (draft.row now books.billing.nextId)
      (chargedLines request.op draft) actorUserId).gl
  | _ => match change.settlement books.billing with
    | none => books.gl
    | some settlement => (books.recordPaymentAllocation env settlement.invoiceId settlement.paymentId
        settlement.amount now actorUserId).gl

structure Books.Commits (env : Env) (request : Request) (before : Books) (change : Change) (after : Books) :
    Prop where
  commit : Commit before.billing change after.billing
  posted : ∃ now actorUserId, after.gl = before.posted env request now actorUserId change

structure Books.Completes (env : Env) (condition : Request → Books → Change → Prop) (before : Books)
    (request : Request) (after : Books) : Prop where
  completes : Billing.Completes env before.billing request after.billing
  commits : ∃ changes, Run (Guarded (condition request) (Commits env request)) before changes after ∧
    ∀ change ∈ changes, Arises env before.billing request change

structure Books.Opened (condoId : Id) (books : Books) : Prop where
  fresh : Fresh books.billing
  ids : AccountIds books.gl
  charted : Charted condoId books.gl
  unposted : books.gl.entries = []

def receivableIn (condoId : Id) (fund : LedgerFund) (posting : LedgerPosting) : ℤ :=
  if posting.condoId = condoId ∧ posting.fund = fund then
    match posting.type, posting.source with
    | .charge, _ => posting.amount
    | .adjustment, .invoice _ => posting.amount
    | .payment, _ => - posting.amount
    | _, _ => 0
  else 0

def receivable (db : Db) (condoId : Id) (fund : LedgerFund) : ℤ :=
  ledgerSum (receivableIn condoId fund) db.ledgerEntries

def IsAbout (invoiceId : Id) (entry : GlJournalEntry) : Prop :=
  entry.sourceType = .invoice ∧ entry.sourceId = some invoiceId

instance (invoiceId : Id) (entry : GlJournalEntry) : Decidable (IsAbout invoiceId entry) :=
  inferInstanceAs (Decidable (_ ∧ _))

def invoiceBalanceOn (gl : GlDb) (condoId : Id) (code : String) (invoiceId : Id) : ℤ :=
  sumBy (fun line => line.debit - line.credit)
    (((gl.entries.filter fun entry => IsAbout invoiceId entry).flatMap GlJournalEntry.lines).filter
      fun line => isAccount gl condoId code line.accountId)

/-- The receivables agree, fund by fund and account by account, and nothing is left of void invoices. -/
structure Mirrored (condoId : Id) (books : Books) : Prop where
  funds : ∀ fund, fundBalanceOn books.gl condoId (receivableCode fund) fund = receivable books.billing condoId fund
  accounts : ∀ fund, accountBalance books.gl condoId (receivableCode fund) =
    sumBy (receivable books.billing condoId)
      (ledgerFunds.filter fun other => receivableCode other = receivableCode fund)
  voided : ∀ invoice ∈ books.billing.invoices, invoice.condoId = condoId → invoice.status = .void → ∀ fund,
    invoiceBalanceOn books.gl condoId (receivableCode fund) invoice.id = 0 ∧
      invoiceBalanceOn books.gl condoId (incomeCode fund) invoice.id = 0

def glCharge (lines : List ChargeLine) (fund : LedgerFund) : ℤ :=
  postedAmount ((lines.filter fun line => fundOfCode line.code = fund).map ChargeLine.amount).sum

/-- Invoices are charged to the same funds by the same amounts, no share of a payment is negative, and no invoice
with an entry is voided. -/
def KeepsMirror (condoId : Id) (request : Request) (books : Books) (change : Change) : Prop :=
  match change with
  | .issued draft => draft.condoId = condoId → ∀ fund, glCharge (chargedLines request.op draft) fund =
      sumBy (inChargedFund fund) draft.lines
  | .voided invoice _ => invoice.condoId = condoId → ∀ entry ∈ books.gl.entries, ¬ IsAbout invoice.id entry
  | _ => ∀ settlement ∈ change.settlement books.billing, ∀ invoice ∈ books.billing.invoice? settlement.invoiceId,
      invoice.condoId = condoId → ∀ share ∈ allocationsOf invoice.lines settlement.amount, 0 ≤ share.2

/-! ## Shares by fund -/

def postedIn (fund : LedgerFund) (share : LedgerFund × ℚ) : ℤ :=
  if share.1 = fund then postedAmount share.2 else 0

def shareOf (byFund : List (LedgerFund × ℚ)) (fund : LedgerFund) : ℚ :=
  ((byFund.filter fun share => share.1 = fund).map Prod.snd).sum

theorem shareOf_cons (share : LedgerFund × ℚ) (rest : List (LedgerFund × ℚ)) (fund : LedgerFund) :
    shareOf (share :: rest) fund = (if share.1 = fund then share.2 else 0) + shareOf rest fund := by
  unfold shareOf
  by_cases own : share.1 = fund <;> simp [own]

theorem shareOf_addToFund (byFund : List (LedgerFund × ℚ)) (own fund : LedgerFund) (amount : ℚ) :
    shareOf (addToFund byFund own amount) fund = shareOf byFund fund + if own = fund then amount else 0 := by
  induction byFund with
  | nil => by_cases pick : own = fund <;> simp [addToFund, shareOf, pick]
  | cons share rest ih =>
    obtain ⟨head, total⟩ := share
    unfold addToFund
    split
    · rename_i same
      subst same
      rw [shareOf_cons, shareOf_cons]
      by_cases pick : head = fund
      · simp only [pick, if_true]
        ring
      · simp [pick]
    · rw [shareOf_cons, ih, shareOf_cons]
      ring

variable {byFund : List (LedgerFund × ℚ)}

theorem mem_addToFund {own fund : LedgerFund} {amount : ℚ} :
    fund ∈ (addToFund byFund own amount).map Prod.fst ↔ fund = own ∨ fund ∈ byFund.map Prod.fst := by
  induction byFund with
  | nil => simp [addToFund]
  | cons share rest ih =>
    unfold addToFund
    split
    · rename_i same
      subst same
      simp
    · rw [map_cons, mem_cons, map_cons, mem_cons]
      tauto

theorem addToFund_distinct (nodup : (byFund.map Prod.fst).Nodup) (own : LedgerFund) (amount : ℚ) :
    ((addToFund byFund own amount).map Prod.fst).Nodup := by
  induction byFund with
  | nil => simp [addToFund]
  | cons share rest ih =>
    rw [map_cons, nodup_cons] at nodup
    unfold addToFund
    split
    · simpa using nodup
    · rename_i ne
      rw [map_cons, nodup_cons]
      refine ⟨fun mem => ?_, ih nodup.2⟩
      rcases mem_addToFund.mp mem with same | old
      · exact ne same
      · exact nodup.1 old

theorem chargesByFund_concat (lines : List GlChargeLine) (line : GlChargeLine) :
    chargesByFund (lines ++ [line]) = addToFund (chargesByFund lines) (fundOfCode line.code) line.amount := by
  simp [chargesByFund]

theorem chargesByFund_distinct (lines : List GlChargeLine) : ((chargesByFund lines).map Prod.fst).Nodup := by
  induction lines using List.reverseRecOn with
  | nil => exact nodup_nil
  | append_singleton lines line ih =>
    rw [chargesByFund_concat]
    exact addToFund_distinct ih _ _

theorem shareOf_chargesByFund (lines : List GlChargeLine) (fund : LedgerFund) : shareOf (chargesByFund lines) fund =
    ((lines.filter fun line => fundOfCode line.code = fund).map GlChargeLine.amount).sum := by
  induction lines using List.reverseRecOn with
  | nil => rfl
  | append_singleton lines line ih =>
    rw [chargesByFund_concat, shareOf_addToFund, ih]
    by_cases own : fundOfCode line.code = fund <;> simp [own]

theorem postedAmount_zero : postedAmount 0 = 0 := by
  unfold postedAmount
  rw [if_pos (by norm_num)]

theorem postedAmount_intCast {n : ℤ} (nonneg : 0 ≤ n) : postedAmount n = n := by
  unfold postedAmount
  split
  · have less : (n : ℚ) < 1 := by linarith
    have below : n < 1 := by exact_mod_cast less
    omega
  · exact mathRound_intCast n

theorem sumBy_postedIn (nodup : (byFund.map Prod.fst).Nodup) (fund : LedgerFund) :
    sumBy (postedIn fund) byFund = postedAmount (shareOf byFund fund) := by
  induction byFund with
  | nil => exact postedAmount_zero.symm
  | cons share rest ih =>
    rw [map_cons, nodup_cons] at nodup
    rw [sumBy_cons, ih nodup.2, shareOf_cons]
    unfold postedIn
    by_cases own : share.1 = fund
    · have none : rest.filter (fun other => other.1 = fund) = [] := by
        rw [filter_eq_nil_iff]
        intro other mem same
        exact nodup.1 (own.trans (of_decide_eq_true same).symm ▸ mem_map_of_mem mem)
      have nothing : shareOf rest fund = 0 := by
        unfold shareOf
        rw [none]
        rfl
      rw [if_pos own, if_pos own, nothing, postedAmount_zero, add_zero, add_zero]
    · rw [if_neg own, if_neg own, zero_add, zero_add]

theorem glCharge_eq (lines : List ChargeLine) (fund : LedgerFund) :
    sumBy (postedIn fund) (chargesByFund (lines.map fun line => ⟨line.code, line.amount⟩)) = glCharge lines fund := by
  rw [sumBy_postedIn (chargesByFund_distinct _), shareOf_chargesByFund, filter_map, map_map]
  rfl

theorem sumBy_pairIn (debitCode creditCode : LedgerFund → String) (code : String) (fund : LedgerFund)
    (byFund : List (LedgerFund × ℚ)) : sumBy (pairIn debitCode creditCode code fund) byFund =
      (if debitCode fund = code then sumBy (postedIn fund) byFund else 0) -
        if creditCode fund = code then sumBy (postedIn fund) byFund else 0 := by
  induction byFund with
  | nil => simp
  | cons share rest ih =>
    rw [sumBy_cons, ih]
    unfold pairIn postedIn
    by_cases own : share.1 = fund
    · subst own
      split <;> split <;> simp_all
      all_goals ring
    · simp [own]

/-! ## One posting -/

theorem receivableCode_listed (fund : LedgerFund) : receivableCode fund ∈ malaysianJmbCoa.map CoaTemplateRow.code := by
  cases fund <;> decide

theorem incomeCode_listed (fund : LedgerFund) : incomeCode fund ∈ malaysianJmbCoa.map CoaTemplateRow.code := by
  cases fund <;> decide

theorem bankCode_listed (fund : LedgerFund) : bankCode fund ∈ malaysianJmbCoa.map CoaTemplateRow.code := by
  cases fund <;> decide

theorem incomeCode_ne (fund other : LedgerFund) : incomeCode fund ≠ receivableCode other := by
  cases fund <;> cases other <;> decide

theorem bankCode_ne (fund other : LedgerFund) : bankCode fund ≠ receivableCode other := by
  cases fund <;> cases other <;> decide

inductive PostedFor (env : Env) (db : Db) (entry : GlJournalEntry) : Prop
  | charges (invoiceId : Id) (key : entry.idempotencyKey = some (invoiceKey env invoiceId))
      (source : entry.sourceId = some invoiceId) (known : invoiceId < db.nextId)
  | payment (paymentId : Id) (key : entry.idempotencyKey = some (paymentKey env paymentId))
      (source : entry.sourceType = .payment)
      (known : ∃ payment ∈ db.payments, payment.id = paymentId ∧ payment.status = .succeeded)

theorem PostedFor.mono {db later : Db} {entry : GlJournalEntry} (posted : PostedFor env db entry)
    (commit : Commit db change later) : PostedFor env later entry := by
  cases posted with
  | charges invoiceId key source known => exact .charges invoiceId key source (known.trans_le commit.nextId_le)
  | payment paymentId key source known =>
    obtain ⟨payment, found, same, succeeded⟩ := known
    obtain ⟨row, mem, id, status⟩ := commit.succeeded_stays found succeeded
    exact .payment paymentId key source ⟨row, mem, id.trans same, status⟩

section

variable (uuids : Function.Injective env.uuid)
include uuids

theorem key_injective {stem : String} {first second : Id} (same : stem ++ env.uuid first = stem ++ env.uuid second) :
    first = second := by
  apply uuids
  have texts := congrArg String.toList same
  simp only [String.toList_append, append_cancel_left_eq] at texts
  exact String.toList_injective texts

theorem invoiceKey_injective {first second : Id} (same : invoiceKey env first = invoiceKey env second) :
    first = second :=
  key_injective uuids same

theorem paymentKey_injective {first second : Id} (same : paymentKey env first = paymentKey env second) :
    first = second :=
  key_injective uuids same

omit uuids in
theorem invoiceKey_ne_paymentKey (invoiceId paymentId : Id) : invoiceKey env invoiceId ≠ paymentKey env paymentId := by
  intro same
  have texts := congrArg String.toList same
  simp [invoiceKey, paymentKey] at texts

theorem keyFree_invoice {db : Db} {gl : GlDb} (posted : ∀ entry ∈ gl.entries, PostedFor env db entry) :
    KeyFree gl (some (invoiceKey env db.nextId)) := by
  rintro _ ⟨⟩ entry mem same
  cases posted entry mem with
  | charges invoiceId key source known =>
    have own := invoiceKey_injective uuids (Option.some.inj (key.symm.trans same))
    exact absurd own (ne_of_lt known)
  | payment paymentId key =>
    exact invoiceKey_ne_paymentKey _ _ (Option.some.inj (same.symm.trans key))

theorem keyFree_payment {db : Db} {gl : GlDb} (posted : ∀ entry ∈ gl.entries, PostedFor env db entry) {paymentId : Id}
    (unpaid : ∀ payment ∈ db.payments, payment.id = paymentId → payment.status ≠ .succeeded) :
    KeyFree gl (some (paymentKey env paymentId)) := by
  rintro _ ⟨⟩ entry mem same
  cases posted entry mem with
  | charges invoiceId key => exact invoiceKey_ne_paymentKey _ _ (Option.some.inj (key.symm.trans same))
  | payment other key source known =>
    obtain ⟨payment, found, id, succeeded⟩ := known
    have own := paymentKey_injective uuids (Option.some.inj (key.symm.trans same))
    exact unpaid payment found (id.trans own) succeeded

end

theorem Charted.extension {other : Id} {Own : GlJournalEntry → Prop} {gl later : GlDb} (charted : Charted condoId gl)
    (extension : Extension other Own gl later) : Charted condoId later := by
  obtain ⟨more, same, _⟩ := extension.accounts
  intro row mem
  obtain ⟨account, found, rest⟩ := charted row mem
  exact ⟨account, by simp [same, found], rest⟩

section

variable {gl : GlDb} {opts : PostInvoiceChargesOpts}

def ChargesOf (env : Env) (invoiceId : Id) (entry : GlJournalEntry) : Prop :=
  entry.idempotencyKey = some (invoiceKey env invoiceId) ∧ IsAbout invoiceId entry

theorem charges_extension (ids : AccountIds gl) :
    Extension opts.condoId (ChargesOf env opts.invoiceId) gl (postInvoiceCharges env opts gl).2 := by
  exact posted_extension chargeEntry_makes (fun _ => chargePairs_paired.accounts)
    (fun _ _ _ => ⟨rfl, rfl, rfl⟩) ids

variable (ids : AccountIds gl) (charted : Charted opts.condoId gl)
  (free : KeyFree gl (some (invoiceKey env opts.invoiceId)))
include ids charted free

theorem charges_balance (fund other : LedgerFund) :
    fundBalanceOn (postInvoiceCharges env opts gl).2 opts.condoId (receivableCode fund) other =
      fundBalanceOn gl opts.condoId (receivableCode fund) other +
        if receivableCode other = receivableCode fund then sumBy (postedIn other) (chargesByFund opts.lines) else 0 := by
  rw [postInvoiceCharges_eq, posted_balance chargeEntry_makes charted.seeded free chargePairs_paired,
    chargePairs, sumBy_fundPairs ids charted receivableCode_listed incomeCode_listed, sumBy_pairIn,
    if_neg (incomeCode_ne other fund), sub_zero]

theorem charges_silent (silent : ∀ entry ∈ (postInvoiceCharges env opts gl).2.entries, ¬ IsAbout opts.invoiceId entry)
    (fund : LedgerFund) : sumBy (postedIn fund) (chargesByFund opts.lines) = 0 := by
  have total := @sumBy_fundPairs gl opts.condoId (receivableCode fund) fund ids charted receivableCode incomeCode
    receivableCode_listed incomeCode_listed (chargesByFund opts.lines)
  rw [sumBy_pairIn, if_pos rfl, if_neg (incomeCode_ne fund fund), sub_zero] at total
  rw [← total]
  rw [postInvoiceCharges_eq, posted_paired chargeEntry_makes charted.seeded free chargePairs_paired]
    at silent
  split at silent
  · rename_i none
    rw [chargePairs] at none
    rw [none, sumBy_nil]
  · refine absurd ⟨rfl, rfl⟩ (silent _ (mem_append_right _ (mem_singleton.mpr rfl)))

end

section

variable {gl : GlDb} {opts : PostPaymentOpts}

def PaymentOf (env : Env) (paymentId : Id) (entry : GlJournalEntry) : Prop :=
  entry.idempotencyKey = some (paymentKey env paymentId) ∧ entry.sourceType = .payment

theorem payment_extension (ids : AccountIds gl) :
    Extension opts.condoId (PaymentOf env opts.paymentId) gl (postPayment env opts gl).2 := by
  exact posted_extension paymentEntry_makes (fun _ => paymentPairs_paired.accounts)
    (fun _ _ _ => ⟨rfl, rfl⟩) ids

theorem payment_balance (ids : AccountIds gl) (charted : Charted opts.condoId gl)
    (free : KeyFree gl (some (paymentKey env opts.paymentId))) (fund other : LedgerFund) :
    fundBalanceOn (postPayment env opts gl).2 opts.condoId (receivableCode fund) other =
      fundBalanceOn gl opts.condoId (receivableCode fund) other -
        if receivableCode other = receivableCode fund then sumBy (postedIn other) opts.allocations else 0 := by
  rw [postPayment_eq, posted_balance paymentEntry_makes charted.seeded free paymentPairs_paired,
    paymentPairs, sumBy_fundPairs ids charted bankCode_listed receivableCode_listed, sumBy_pairIn,
    if_neg (bankCode_ne other fund), zero_sub, ← sub_eq_add_neg]

theorem sumBy_allocations {invoice : Invoice} {paymentId : Id} {amount : ℤ} {occurredAt : Instant}
    {actorUserId : Option Id} (nonneg : ∀ share ∈ allocationsOf invoice.lines amount, 0 ≤ share.2) (fund : LedgerFund) :
    sumBy (postedIn fund) (allocationOpts invoice paymentId amount occurredAt actorUserId).allocations =
      fundShare invoice.lines fund amount := by
  unfold allocationOpts
  rw [sumBy_map, sumBy_filter]
  refine sumBy_congr fun share mem => ?_
  have posted := postedAmount_intCast (nonneg share mem)
  unfold postedIn inFund
  by_cases zero : share.2 = 0
  · simp [zero]
  · simp [zero, posted]

end

/-! ## One transaction of the operational ledger -/

theorem receivableIn_zero {fund : LedgerFund} {posting : LedgerPosting} (zero : posting.amount = 0) :
    receivableIn condoId fund posting = 0 := by
  unfold receivableIn
  split
  · split <;> simp [zero]
  · rfl

theorem sumBy_charges (now : Instant) (draft : InvoiceDraft) (id : Id) (actorUserId : Option Id) (fund : LedgerFund) :
    sumBy (receivableIn condoId fund) (chargePostings now (draft.row now id) actorUserId draft.lines) =
      if draft.condoId = condoId then sumBy (inChargedFund fund) draft.lines else 0 := by
  have each : ∀ index line, receivableIn condoId fund (chargePosting (draft.row now id) now actorUserId index line) =
      if draft.condoId = condoId then inChargedFund fund line else 0 := by
    intro index line
    show (if draft.condoId = condoId ∧ line.chargedFund = fund then stored line.amount else 0) = _
    unfold inChargedFund
    by_cases own : draft.condoId = condoId <;> simp [own]
  refine (sumBy_mapIdx _ _ _ each draft.lines).trans ?_
  split
  · rfl
  · exact sumBy_zero _ fun _ _ => rfl

theorem sumBy_payments (invoice : Invoice) (paymentId : Id) (amount : ℤ) (occurredAt : Instant)
    (actorUserId : Option Id) (fund : LedgerFund) :
    sumBy (receivableIn condoId fund) (paymentPostings invoice paymentId amount occurredAt actorUserId) =
      if invoice.condoId = condoId then - fundShare invoice.lines fund amount else 0 := by
  have each : ∀ allocation,
      receivableIn condoId fund (paymentPosting invoice paymentId occurredAt actorUserId allocation) =
        if invoice.condoId = condoId then - inFund fund allocation else 0 := by
    intro allocation
    show (if invoice.condoId = condoId ∧ allocation.1 = fund then - allocation.2 else 0) = _
    unfold inFund
    by_cases own : invoice.condoId = condoId <;> by_cases same : allocation.1 = fund <;> simp [same]
  refine (sumBy_paymentPostings _ _ each fun other => by simp [inFund]).trans ?_
  split
  · exact sumBy_neg _ _
  · exact sumBy_zero _ fun _ _ => rfl

theorem sumBy_voids (now : Instant) (entries : List LedgerEntry) (invoice : Invoice) (actorUserId : Option Id)
    (fund : LedgerFund) : sumBy (receivableIn condoId fund) (voidPostings now entries invoice actorUserId) =
      if invoice.condoId = condoId then - ledgerSum (chargedIn invoice.id fund) entries else 0 := by
  have each : ∀ charge : LedgerEntry, receivableIn condoId fund (voidPosting now invoice actorUserId charge) =
      if invoice.condoId = condoId ∧ charge.fund = fund then - charge.amount else 0 := fun _ => rfl
  unfold voidPostings
  rw [sumBy_map, sumBy_perm _ (perm_insertionSort _ _), sumBy_filter]
  simp only [each]
  by_cases own : invoice.condoId = condoId
  · rw [if_pos own, ledgerSum, ← sumBy_neg]
    refine sumBy_congr fun entry _ => ?_
    unfold chargedIn
    by_cases charge : entry.type = .charge <;> by_cases source : entry.source = .invoice invoice.id <;>
      by_cases same : entry.fund = fund <;> simp [own, charge, source, same]
  · simp only [own, false_and, if_false, ite_self]
    exact sumBy_zero _ fun _ _ => rfl

def receivableMoved (db : Db) (condoId : Id) (fund : LedgerFund) (change : Change) : ℤ :=
  match change with
  | .issued draft => if draft.condoId = condoId then sumBy (inChargedFund fund) draft.lines else 0
  | .voided invoice _ =>
      if invoice.condoId = condoId then - ledgerSum (chargedIn invoice.id fund) db.ledgerEntries else 0
  | _ => match change.settlement db with
    | none => 0
    | some settlement => match db.invoice? settlement.invoiceId with
      | none => 0
      | some invoice =>
          if invoice.condoId = condoId then - fundShare invoice.lines fund settlement.amount else 0

section

variable {db later : Db} (commit : Commit db change later) (wellFormed : WellFormed db)
include commit wellFormed

theorem receivable_moved (fund : LedgerFund) :
    receivable later condoId fund = receivable db condoId fund + receivableMoved db condoId fund change := by
  obtain ⟨postings, posts, moved⟩ := commit.ledgerSum_moved wellFormed
  have grown := moved (receivableIn condoId fund) fun posting zero => receivableIn_zero zero
  unfold receivable
  rw [grown]
  congr 1
  cases posts with
  | issued => exact sumBy_charges _ _ _ _ _
  | @confirmed _ payment invoice _ found owner =>
    have known : db.invoice? payment.invoiceId = some invoice := owner ▸ wellFormed.invoice?_eq found
    rw [sumBy_payments]
    simp only [receivableMoved, Change.settlement, known]
  | @manual _ invoice =>
    cases commit with
    | manual found =>
      rw [sumBy_payments]
      simp only [receivableMoved, Change.settlement, wellFormed.invoice?_eq found]
  | @creditApplied _ invoice =>
    cases commit with
    | creditApplied found =>
      rw [sumBy_append, sumBy_payments]
      simp [receivableMoved, Change.settlement, wellFormed.invoice?_eq found, receivableIn, prepaymentAppliedPosting]
  | voided => exact sumBy_voids _ _ _ _ _
  | depositForfeited => simp [receivableIn, depositPosting, receivableMoved, Change.settlement]
  | advanceConfirmed => simp [receivableIn, advancePosting, receivableMoved, Change.settlement]
  | prepaid => simp [receivableIn, prepaymentPosting, receivableMoved, Change.settlement]
  | depositHeld => simp [receivableIn, depositHeldPosting, receivableMoved, Change.settlement]
  | depositRefunded => simp [receivableIn, depositPosting, receivableMoved, Change.settlement]
  | _ => rfl

theorem charged_kept {invoice : Invoice} (found : invoice ∈ db.invoices) (fund : LedgerFund) :
    ledgerSum (chargedIn invoice.id fund) later.ledgerEntries =
      ledgerSum (chargedIn invoice.id fund) db.ledgerEntries := by
  obtain ⟨postings, posts, moved⟩ := commit.ledgerSum_moved wellFormed
  have grown := moved (chargedIn invoice.id fund) fun posting zero => by simp [chargedIn, zero]
  rw [grown, add_eq_left]
  have paid : ∀ target paymentId amount occurredAt actorUserId,
      sumBy (chargedIn invoice.id fund) (paymentPostings target paymentId amount occurredAt actorUserId) = 0 := by
    intro target paymentId amount occurredAt actorUserId
    refine sumBy_zero _ fun posting mem => ?_
    obtain ⟨allocation, _, rfl⟩ := mem_paymentPostings mem
    exact if_neg fun charge => by cases charge.1
  cases posts with
  | @issued now draft actorUserId =>
    refine sumBy_zero _ fun posting mem => if_neg ?_
    rintro ⟨_, source, _⟩
    obtain ⟨index, line, _, rfl⟩ := mem_chargePostings mem
    have own : db.nextId = invoice.id := LedgerSource.invoice.inj source
    exact ne_of_lt (wellFormed.invoice_id_lt found) own.symm
  | confirmed => exact paid _ _ _ _ _
  | manual => exact paid _ _ _ _ _
  | creditApplied =>
    rw [sumBy_append, paid]
    simp [chargedIn, prepaymentAppliedPosting]
  | voided =>
    refine sumBy_zero _ fun posting mem => if_neg ?_
    rintro ⟨charge, _⟩
    obtain ⟨entry, _, _, _, rfl⟩ := mem_voidPostings mem
    cases charge
  | depositForfeited => simp [chargedIn, depositPosting]
  | advanceConfirmed => simp [chargedIn, advancePosting]
  | prepaid => simp [chargedIn, prepaymentPosting]
  | depositHeld => simp [chargedIn, depositHeldPosting]
  | depositRefunded => simp [chargedIn, depositPosting]
  | _ => rfl

end

/-! ## Runs -/

structure MirrorState (env : Env) (condoId : Id) (books : Books) : Prop where
  wellFormed : WellFormed books.billing
  ids : AccountIds books.gl
  charted : Charted condoId books.gl
  postedFor : ∀ entry ∈ books.gl.entries, PostedFor env books.billing entry
  balances : ∀ fund other, fundBalanceOn books.gl condoId (receivableCode fund) other =
    if receivableCode other = receivableCode fund then receivable books.billing condoId other else 0
  uncharged : ∀ invoice ∈ books.billing.invoices, invoice.condoId = condoId →
    (∀ entry ∈ books.gl.entries, ¬ IsAbout invoice.id entry) → ∀ fund,
      ledgerSum (chargedIn invoice.id fund) books.billing.ledgerEntries = 0
  voided : ∀ invoice ∈ books.billing.invoices, invoice.condoId = condoId → invoice.status = .void →
    ∀ entry ∈ books.gl.entries, ¬ IsAbout invoice.id entry

theorem MirrorState.opened (opened : books.Opened condoId) : MirrorState env condoId books where
  wellFormed := .fresh opened.fresh
  ids := opened.ids
  charted := opened.charted
  postedFor := by simp [opened.unposted]
  balances fund other := by
    simp [fundBalanceOn, GlDb.journalLines, opened.unposted, receivable, ledgerSum, opened.fresh.ledgerEntries]
  uncharged := by simp [opened.fresh.invoices]
  voided := by simp [opened.fresh.invoices]

structure PostsAlong (env : Env) (condoId : Id) (before : Books) (change : Change) (after : Books)
    (Own : GlJournalEntry → Prop) : Prop where
  extension : ∃ other, Extension other Own before.gl after.gl
  postedFor : ∀ entry, Own entry → PostedFor env after.billing entry
  elsewhere : ∀ entry, Own entry → ∀ id, id < before.billing.nextId → ¬ IsAbout id entry
  balance : ∀ fund other, fundBalanceOn after.gl condoId (receivableCode fund) other =
    fundBalanceOn before.gl condoId (receivableCode fund) other +
      if receivableCode other = receivableCode fund then receivableMoved before.billing condoId other change else 0
  uncharged : ∀ draft, change = .issued draft → draft.condoId = condoId →
    (∀ entry ∈ after.gl.entries, ¬ IsAbout before.billing.nextId entry) → ∀ fund,
      ledgerSum (chargedIn before.billing.nextId fund) after.billing.ledgerEntries = 0

section

variable (state : MirrorState env condoId before) {Own : GlJournalEntry → Prop}
include state

theorem MirrorState.along (commit : Commit before.billing change after.billing)
    (keeps : ∀ invoice left, change = .voided invoice left → invoice.condoId = condoId →
      ∀ entry ∈ before.gl.entries, ¬ IsAbout invoice.id entry)
    (posts : PostsAlong env condoId before change after Own) : MirrorState env condoId after := by
  have wellFormed := state.wellFormed
  obtain ⟨other, extension⟩ := posts.extension
  obtain ⟨new, grown, owned⟩ := extension.entries
  have earlier : ∀ entry ∈ before.gl.entries, entry ∈ after.gl.entries := fun entry mem => by simp [grown, mem]
  have none : ∀ id, id < before.billing.nextId → (∀ entry ∈ before.gl.entries, ¬ IsAbout id entry) →
      ∀ entry ∈ after.gl.entries, ¬ IsAbout id entry := by
    intro id known silent entry mem
    rw [grown, mem_append] at mem
    rcases mem with old | last
    · exact silent entry old
    · exact posts.elsewhere entry (owned entry last).1 id known
  refine ⟨commit.wellFormed wellFormed, extension.ids, state.charted.extension extension, ?_, ?_, ?_, ?_⟩
  · intro entry mem
    rw [grown, mem_append] at mem
    rcases mem with old | last
    · exact (state.postedFor entry old).mono commit
    · exact posts.postedFor entry (owned entry last).1
  · intro fund other
    rw [posts.balance, state.balances, receivable_moved commit wellFormed]
    split <;> rfl
  · intro row mem owner silent fund
    rcases commit.invoice_origin mem with ⟨old, found, same⟩ | ⟨id, draft, now, issued, rfl⟩
    · rw [same.id, charged_kept commit wellFormed found]
      refine state.uncharged old found (same.condoId ▸ owner) (fun entry inside => ?_) fund
      rw [← same.id]
      exact silent entry (earlier entry inside)
    · exact posts.uncharged draft issued owner silent fund
  · intro row mem owner void
    rcases commit.invoice_origin mem with ⟨old, found, same⟩ | ⟨id, draft, now, issued, rfl⟩
    · rw [same.id]
      refine none old.id (wellFormed.invoice_id_lt found) ?_
      by_cases already : old.status = .void
      · exact state.voided old found (same.condoId ▸ owner) already
      · obtain ⟨_, _, voids⟩ := commit.newly_void wellFormed found mem same.id.symm already void
        exact keeps old _ voids (same.condoId ▸ owner)
    · cases void

theorem MirrorState.unposted (commit : Commit before.billing change after.billing) (same : after.gl = before.gl)
    (keeps : ∀ invoice left, change = .voided invoice left → invoice.condoId = condoId →
      ∀ entry ∈ before.gl.entries, ¬ IsAbout invoice.id entry)
    (silent : ∀ draft, change = .issued draft → draft.lines = [])
    (still : ∀ fund, receivableMoved before.billing condoId fund change = 0) : MirrorState env condoId after := by
  have posts : PostsAlong env condoId before change after fun _ => False := by
    refine ⟨⟨condoId, ?_⟩, nofun, nofun, fun fund other => ?_, ?_⟩
    · rw [same]
      exact .refl state.ids
    · rw [same, still, ite_self, add_zero]
    · rintro draft rfl _ _ fund
      rw [charged_issued commit state.wellFormed, silent draft rfl]
      rfl
  exact state.along commit keeps posts

omit state in
theorem issued_nextId_lt {db later : Db} {draft : InvoiceDraft} (commit : Commit db (.issued draft) later) :
    db.nextId < later.nextId := by
  cases commit with
  | issued => exact Nat.lt_succ_self _

omit state in
theorem voided_mem {db later : Db} {invoice : Invoice} {left : Bool} (commit : Commit db (.voided invoice left) later) :
    invoice ∈ db.invoices := by
  cases commit with
  | voided found => exact found

theorem MirrorState.charged (uuids : Function.Injective env.uuid) {draft : InvoiceDraft} {opts : PostInvoiceChargesOpts}
    (commit : Commit before.billing (.issued draft) after.billing)
    (posted : after.gl = (postInvoiceCharges env opts before.gl).2) (isId : opts.invoiceId = before.billing.nextId)
    (isCondo : opts.condoId = draft.condoId)
    (isLines : draft.condoId = condoId → ∀ fund, sumBy (postedIn fund) (chargesByFund opts.lines) =
      sumBy (inChargedFund fund) draft.lines) : MirrorState env condoId after := by
  have free : KeyFree before.gl (some (invoiceKey env opts.invoiceId)) := by
    rw [isId]
    exact keyFree_invoice uuids state.postedFor
  have extension : Extension opts.condoId (ChargesOf env opts.invoiceId) before.gl after.gl := by
    rw [posted]
    exact charges_extension state.ids
  refine state.along commit (fun _ _ same => by cases same) ⟨⟨_, extension⟩, ?_, ?_, fun fund other => ?_, ?_⟩
  · rintro entry ⟨key, about⟩
    refine .charges _ key about.2 ?_
    rw [isId]
    exact issued_nextId_lt commit
  · rintro entry ⟨_, about⟩ id known again
    have same : opts.invoiceId = id := Option.some.inj (about.2.symm.trans again.2)
    exact ne_of_lt known (same.symm.trans isId)
  · unfold receivableMoved
    by_cases own : opts.condoId = condoId
    · subst own
      rw [posted, charges_balance state.ids state.charted free, isLines isCondo.symm]
      simp only [isCondo, if_true]
    · rw [fundBalanceOn_extension extension own]
      rw [isCondo] at own
      simp [own]
  · rintro other ⟨⟩ own silent fund
    obtain rfl := own.symm.trans isCondo.symm
    rw [charged_issued commit state.wellFormed, ← isLines own]
    refine charges_silent state.ids state.charted free (fun entry mem => ?_) fund
    rw [isId]
    rw [← posted] at mem
    exact silent entry mem

variable {request : Request}

variable {actorUserId : Option Id}

variable {now : Instant}

theorem MirrorState.issued (uuids : Function.Injective env.uuid) {draft : InvoiceDraft}
    (commit : Commit before.billing (.issued draft) after.billing)
    (posted : after.gl = before.posted env request now actorUserId (.issued draft))
    (keeps : draft.condoId = condoId → ∀ fund, glCharge (chargedLines request.op draft) fund =
      sumBy (inChargedFund fund) draft.lines) : MirrorState env condoId after := by
  unfold Books.posted Books.recordInvoiceCharges at posted
  by_cases empty : draft.lines = []
  · simp only [chargedLines_eq_nil.mpr empty] at posted
    refine state.unposted commit posted (fun _ _ same => by cases same) (fun other same => ?_) fun fund => ?_
    · cases same
      exact empty
    · simp [receivableMoved, empty]
  · simp only [chargedLines_eq_nil, empty] at posted
    exact state.charged uuids commit posted rfl rfl fun own fund => (glCharge_eq _ fund).trans (keeps own fund)

omit state in
theorem posted_settles {settlement : Settlement} {invoice : Invoice}
    (settles : change.settlement before.billing = some settlement)
    (found : before.billing.invoice? settlement.invoiceId = some invoice) :
    before.posted env request now actorUserId change =
      (postPayment env (allocationOpts invoice settlement.paymentId settlement.amount now actorUserId) before.gl).2 := by
  cases change with
  | confirmed | manual | creditApplied =>
    obtain rfl := Option.some.inj settles
    simp only [Books.posted, Books.recordPaymentAllocation, Change.settlement, found]
  | _ => cases settles

omit state in
theorem receivableMoved_settles {db : Db} {settlement : Settlement} {invoice : Invoice}
    (settles : change.settlement db = some settlement) (found : db.invoice? settlement.invoiceId = some invoice)
    (fund : LedgerFund) : receivableMoved db condoId fund change =
      if invoice.condoId = condoId then - fundShare invoice.lines fund settlement.amount else 0 := by
  cases change with
  | confirmed | manual | creditApplied =>
    obtain rfl := Option.some.inj settles
    simp only [receivableMoved, Change.settlement, found]
  | _ => cases settles

theorem MirrorState.settled (uuids : Function.Injective env.uuid) {settlement : Settlement} {invoice : Invoice}
    {opts : PostPaymentOpts} (commit : Commit before.billing change after.billing)
    (settles : change.settlement before.billing = some settlement)
    (found : before.billing.invoice? settlement.invoiceId = some invoice)
    (unpaid : ∀ payment ∈ before.billing.payments, payment.id = settlement.paymentId → payment.status ≠ .succeeded)
    (paid : ∃ payment ∈ after.billing.payments, payment.id = settlement.paymentId ∧ payment.status = .succeeded)
    (posted : after.gl = (postPayment env opts before.gl).2) (isId : opts.paymentId = settlement.paymentId)
    (isCondo : opts.condoId = invoice.condoId)
    (shares : opts.condoId = condoId → ∀ fund, sumBy (postedIn fund) opts.allocations =
      fundShare invoice.lines fund settlement.amount) : MirrorState env condoId after := by
  have free : KeyFree before.gl (some (paymentKey env opts.paymentId)) := by
    rw [isId]
    exact keyFree_payment uuids state.postedFor unpaid
  have extension : Extension opts.condoId (PaymentOf env opts.paymentId) before.gl after.gl := by
    rw [posted]
    exact payment_extension state.ids
  refine state.along commit ?_ ⟨⟨_, extension⟩, ?_, ?_, fun fund other => ?_, ?_⟩
  · rintro target left rfl
    cases settles
  · rintro entry ⟨key, source⟩
    refine .payment _ key source ?_
    rw [isId]
    exact paid
  · rintro entry ⟨_, source⟩ id _ about
    rw [about.1] at source
    cases source
  · rw [receivableMoved_settles settles found, ← isCondo]
    by_cases own : opts.condoId = condoId
    · subst own
      rw [posted, payment_balance state.ids state.charted free, shares rfl, sub_eq_add_neg]
      split <;> simp
    · rw [fundBalanceOn_extension extension own, if_neg own, ite_self, add_zero]
  · rintro draft rfl
    cases settles

omit state in
theorem settlement_commit {db later : Db} (commit : Commit db change later) (wellFormed : WellFormed db)
    {settlement : Settlement} (settles : change.settlement db = some settlement) :
    ∃ invoice, db.invoice? settlement.invoiceId = some invoice ∧
      (∀ payment ∈ db.payments, payment.id = settlement.paymentId → payment.status ≠ .succeeded) ∧
      ∃ payment ∈ later.payments, payment.id = settlement.paymentId ∧ payment.status = .succeeded := by
  cases commit with
  | @confirmed now payment invoice _ _ mem pending found owner =>
    obtain rfl := Option.some.inj settles
    refine ⟨invoice, owner ▸ wellFormed.invoice?_eq found, fun row inside same => ?_, succeed now payment, ?_, rfl, rfl⟩
    · rw [wellFormed.payment_unique inside mem same, pending]
      nofun
    · refine mem_updateWhere.mpr ⟨succeed now payment, mem_updateWhere.mpr ⟨payment, mem, ?_⟩, ?_⟩
      · simp [isPending, pending]
      · simp [isPendingFor, succeed]
  | manual found =>
    obtain rfl := Option.some.inj settles
    exact ⟨_, wellFormed.invoice?_eq found, nextId_unpaid wellFormed, _,
      mem_append_right _ (mem_singleton.mpr rfl), rfl, rfl⟩
  | creditApplied found =>
    obtain rfl := Option.some.inj settles
    exact ⟨_, wellFormed.invoice?_eq found, nextId_unpaid wellFormed, _,
      mem_append_right _ (mem_singleton.mpr rfl), rfl, rfl⟩
  | _ => cases settles

theorem MirrorState.settles (uuids : Function.Injective env.uuid) {settlement : Settlement}
    (step : Books.Commits env request before change after)
    (settles : change.settlement before.billing = some settlement)
    (nonneg : ∀ invoice ∈ before.billing.invoice? settlement.invoiceId, invoice.condoId = condoId →
      ∀ share ∈ allocationsOf invoice.lines settlement.amount, 0 ≤ share.2) : MirrorState env condoId after := by
  obtain ⟨commit, now, actorUserId, posted⟩ := step
  obtain ⟨invoice, found, unpaid, paid⟩ := settlement_commit commit state.wellFormed settles
  rw [posted_settles settles found] at posted
  exact state.settled uuids commit settles found unpaid paid posted rfl rfl
    fun own fund => sumBy_allocations (nonneg invoice found own) fund

theorem MirrorState.step (uuids : Function.Injective env.uuid) (keeps : KeepsMirror condoId request before change)
    (step : Books.Commits env request before change after) : MirrorState env condoId after := by
  cases change with
  | issued draft =>
    obtain ⟨commit, now, actorUserId, posted⟩ := step
    exact state.issued uuids commit posted keeps
  | voided invoice left =>
    obtain ⟨commit, now, actorUserId, posted⟩ := step
    refine state.unposted commit posted (fun other _ same => ?_) (fun _ same => by cases same) fun fund => ?_
    · cases same
      exact keeps
    · show (if invoice.condoId = condoId then _ else _ : ℤ) = 0
      split
      · rename_i own
        rw [state.uncharged invoice (voided_mem commit) own (keeps own), neg_zero]
      · rfl
  | confirmed payment later => exact state.settles uuids step rfl (keeps _ rfl)
  | manual invoice amount method => exact state.settles uuids step rfl (keeps _ rfl)
  | creditApplied invoice owner amount => exact state.settles uuids step rfl (keeps _ rfl)
  | _ =>
    obtain ⟨commit, now, actorUserId, posted⟩ := step
    exact state.unposted commit posted (fun _ _ same => by cases same) (fun _ same => by cases same) fun _ => rfl

end

theorem MirrorState.mirrored (state : MirrorState env condoId books) : Mirrored condoId books where
  funds fund := (state.balances fund fund).trans (if_pos rfl)
  accounts fund := by
    rw [accountBalance_eq, sumBy_filter]
    refine sumBy_congr fun other _ => ?_
    rw [state.balances]
    simp
  voided invoice found own void fund := by
    have none : books.gl.entries.filter (fun entry => IsAbout invoice.id entry) = [] := by
      rw [filter_eq_nil_iff]
      intro entry mem about
      exact state.voided invoice found own void entry mem (of_decide_eq_true about)
    unfold invoiceBalanceOn
    rw [none]
    exact ⟨rfl, rfl⟩

theorem MirrorState.request {request : Request} (uuids : Function.Injective env.uuid)
    (state : MirrorState env condoId before)
    (completes : Books.Completes env (KeepsMirror condoId) before request after) : MirrorState env condoId after := by
  obtain ⟨changes, run, _⟩ := completes.commits
  exact run.invariant (fun _ _ _ held step => held.step uuids step.1 step.2) state

/-- From an opened condo, after requests whose transactions all charge, pay and void as the condition says, the two
ledgers agree on its receivables. -/
theorem receivables_mirrored {start : Books} {log : List Request} (uuids : Function.Injective env.uuid)
    (opened : start.Opened condoId) (run : Run (Books.Completes env (KeepsMirror condoId)) start log books) :
    Mirrored condoId books :=
  (run.invariant (fun _ _ _ state completes => state.request uuids completes)
    (MirrorState.opened opened)).mirrored

namespace Sample

def uuidText (stem : String) (id : Id) : String := stem ++ String.ofList (padStart 12 (Nat.toDigits 10 id))

theorem uuidText_injective (stem : String) : Function.Injective (uuidText stem) := by
  intro first second same
  have texts := congrArg String.toList same
  simp only [uuidText, String.toList_append, append_cancel_left_eq, String.toList_ofList] at texts
  have values := congrArg digitsValue texts
  rwa [digitsValue_padStart, digitsValue_padStart] at values

def uuidEnv : Env := { Billing.Sample.env with uuid := uuidText "00000000-0000-4000-8000-" }

theorem uuidEnv_uuids : Function.Injective uuidEnv.uuid := uuidText_injective _

def opened : Books := ⟨Billing.Sample.db, (ensureSeeded 5 .empty).2⟩

theorem opened_opened : opened.Opened 5 where
  fresh := Billing.Sample.db_fresh
  ids := ⟨by decide +kernel, by decide +kernel⟩
  charted := by
    unfold Charted
    decide +kernel
  unposted := by decide +kernel

def billed : CreateInvoiceInTxOpts := ⟨5, 7, 0, none, none, [Billing.Sample.maintenance], none⟩

def charged : GlDb := opened.posted uuidEnv ⟨0, .createInvoiceInTx billed⟩ 0 none (.issued (billed.draft 0))

end Sample

variable {now : Instant}

theorem issued_completes (books : Books) {condition : Request → Books → Change → Prop} {opts : CreateInvoiceInTxOpts}
    {done : Db} {invoice : Invoice} (issued : createInvoiceInTx now books.billing opts = .ok (done, invoice))
    (meets : condition ⟨now, .createInvoiceInTx opts⟩ books (.issued (opts.draft now))) :
    Books.Completes env condition books ⟨now, .createInvoiceInTx opts⟩
      ⟨done, books.posted env ⟨now, .createInvoiceInTx opts⟩ now none (.issued (opts.draft now))⟩ := by
  have completes : Billing.Completes env books.billing ⟨now, .createInvoiceInTx opts⟩ done := by
    simp [Billing.Completes, Request.run, issued]
  refine ⟨completes, [_], .single ⟨meets, (issueInvoice_commit issued).1, now, none, rfl⟩, fun change mem => ?_⟩
  rw [mem_singleton.mp mem]
  simp [Arises, Request.drafts]

theorem voided_completes {db done : Db} (gl : GlDb) {invoiceId : Id} {actorUserId : Option Id} {result : Bool}
    (void : voidUnpaidInvoiceInTx now db invoiceId actorUserId = .ok (done, result)) :
    Books.Completes env (fun _ _ _ => True) ⟨db, gl⟩ ⟨now, .voidUnpaidInvoiceInTx invoiceId actorUserId⟩ ⟨done, gl⟩ := by
  have completes : Billing.Completes env db ⟨now, .voidUnpaidInvoiceInTx invoiceId actorUserId⟩ done := by
    simp [Billing.Completes, Request.run, void]
  rcases voidUnpaidInvoiceInTx_commit void with same | ⟨invoice, found, voidable, commit⟩
  · subst same
    exact ⟨completes, [], .done, fun change mem => absurd mem not_mem_nil⟩
  · refine ⟨completes, [_], .single ⟨trivial, commit, now, none, rfl⟩, fun change mem => ?_⟩
    have isId : invoice.id = invoiceId := (mem_of_findBy found).2
    rw [mem_singleton.mp mem]
    refine ⟨?_, fun pending => ⟨actorUserId, by rw [isId], pending⟩⟩
    show (db.invoice? invoiceId).filter isVoidable = some invoice
    rw [found, Option.filter_some, if_pos voidable]

theorem receivables_mirrored_partlyPaid : ∃ log books,
    Run (Books.Completes Sample.uuidEnv (KeepsMirror 5)) Sample.opened log books ∧ Mirrored 5 books := by
  let cash : RecordManualPaymentDto := Billing.Sample.manual (some 4000) (by decide)
  have figures : (do
      let issued ← createInvoiceInTx 0 Billing.Sample.db Sample.billed
      let paid ← recordManualPayment 1 issued.1 Billing.Sample.admin 0 cash
      return (issued.1, paid) : Result (Db × Db)).map (fun dbs => (dbs.1.invoice? 0).map fun invoice =>
        allocationsOf invoice.lines 4000) = .ok (some [(.maintenance, 4000)]) := by
    decide +kernel
  obtain ⟨⟨_, _⟩, ran, shares⟩ := map_eq_ok.mp figures
  simp only [bind_eq_ok, pure_eq_ok, Prod.mk.injEq, Prod.exists] at ran
  obtain ⟨issued, invoice, issue, paid, pay, rfl, rfl⟩ := ran
  have first : Books.Completes Sample.uuidEnv (KeepsMirror 5) Sample.opened ⟨0, .createInvoiceInTx Sample.billed⟩
      ⟨issued, Sample.charged⟩ :=
    issued_completes Sample.opened issue fun _ fund => by cases fund <;> decide +kernel
  have wellFormed := (issueInvoice_commit issue).1.wellFormed (.fresh Billing.Sample.db_fresh)
  obtain ⟨row, found, _, commit⟩ := recordManualPayment_commit wellFormed pay
  have isZero : row.id = 0 := (mem_of_findBy found).2
  let change : Change := .manual row (manualAmount row cash) cash.method
  let middle : Books := ⟨issued, Sample.charged⟩
  let payment : Request := ⟨1, .recordManualPayment Billing.Sample.admin 0 cash⟩
  have keeps : KeepsMirror 5 payment middle change := by
    rintro settlement ⟨⟩ other known _
    have read : issued.invoice? row.id = some other := known
    have same : row = other := Option.some.inj (found.symm.trans (isZero ▸ read))
    have amount : stored (manualAmount row cash) = 4000 := stored_intCast 4000
    rw [found] at shares
    have split : allocationsOf row.lines 4000 = [(.maintenance, 4000)] := Option.some.inj shares
    show ∀ share ∈ allocationsOf other.lines (stored (manualAmount row cash)), 0 ≤ share.2
    rw [← same, amount, split]
    decide
  have second : Books.Completes Sample.uuidEnv (KeepsMirror 5) middle payment
      ⟨paid, middle.posted Sample.uuidEnv payment 1 none change⟩ := by
    refine ⟨pay, [change], .single ⟨keeps, commit, 1, none, rfl⟩, fun other member => ?_⟩
    rw [List.mem_singleton.mp member]
    refine ⟨Billing.Sample.admin, cash, ?_, ?_, rfl, rfl⟩
    · rw [isZero]
    · rw [isZero]
      exact found
  have run := (Run.single first).snoc second
  exact ⟨_, _, run, receivables_mirrored Sample.uuidEnv_uuids Sample.opened_opened run⟩

theorem run_voided {issued voided : Db} {invoice : Invoice} {result : Bool}
    (issue : createInvoiceInTx 0 Billing.Sample.db Sample.billed = .ok (issued, invoice))
    (void : voidUnpaidInvoiceInTx 1 issued 0 none = .ok (voided, result)) :
    Run (Books.Completes Sample.uuidEnv fun _ _ _ => True) Sample.opened
      [⟨0, .createInvoiceInTx Sample.billed⟩, ⟨1, .voidUnpaidInvoiceInTx 0 none⟩] ⟨voided, Sample.charged⟩ := by
  have first : Books.Completes Sample.uuidEnv (fun _ _ _ => True) Sample.opened ⟨0, .createInvoiceInTx Sample.billed⟩
      ⟨issued, Sample.charged⟩ := issued_completes Sample.opened issue trivial
  exact (Run.single first).snoc (voided_completes Sample.charged void)

theorem receivables_apart : ¬ ∀ (env : Env) (start books : Books) (log : List Request) (condoId : Id),
    Function.Injective env.uuid → start.Opened condoId →
    Run (Books.Completes env fun _ _ _ => True) start log books → Mirrored condoId books := by
  intro agree
  have figures : (do
      let issued ← createInvoiceInTx 0 Billing.Sample.db Sample.billed
      let voided ← voidUnpaidInvoiceInTx 1 issued.1 0 none
      return voided.1 : Result Db).map (fun db => receivable db 5 .maintenance) = .ok 0 := by
    decide +kernel
  obtain ⟨voided, ran, nothing⟩ := map_eq_ok.mp figures
  obtain ⟨⟨issued, invoice⟩, issue, rest⟩ := bind_eq_ok.mp ran
  obtain ⟨⟨after, result⟩, void, same⟩ := bind_eq_ok.mp rest
  obtain rfl := pure_eq_ok.mp same
  have mirrored := agree _ _ _ _ 5 Sample.uuidEnv_uuids Sample.opened_opened (run_voided issue void)
  have posted : fundBalanceOn Sample.charged 5 (receivableCode .maintenance) .maintenance = 10000 := by decide +kernel
  have equal := mirrored.funds .maintenance
  dsimp only at equal
  rw [posted, nothing] at equal
  omega

end SmartResidence.Accounting
