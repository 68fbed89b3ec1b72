import SmartResidence.Proof.Postings

/-!
# The charges of an invoice add up to its total
-/

open List

namespace SmartResidence.Billing

open Foundation

variable {db after : Db} {change : Change}

def Charged (db : Db) : Prop :=
  ∀ invoice ∈ db.invoices, ledgerSum (chargedFor invoice.id) db.ledgerEntries = invoice.total

theorem Charged.fresh (empty : Fresh db) : Charged db := by
  simp [Charged, empty.invoices]

variable {lines : List ChargeLine}

theorem stored_sum (whole : ∀ line ∈ lines, Whole line.amount) :
    sumBy (fun line => stored line.amount) lines = stored (lines.map ChargeLine.amount).sum := by
  have cast : ((sumBy (fun line => stored line.amount) lines : ℤ) : ℚ) = (lines.map ChargeLine.amount).sum := by
    induction lines with
    | nil => simp
    | cons line lines ih =>
      have head : (stored line.amount : ℚ) = line.amount :=
        (whole line (by simp)).cast_roundHalfAway
      have tail := ih fun other mem => whole other (mem_cons_of_mem _ mem)
      simp only [sumBy_cons, map_cons, sum_cons]
      push_cast
      rw [head, tail]
  rw [← cast, stored_intCast]

theorem sumBy_chargePostings (measure : LedgerPosting → ℤ) {now : Instant} {invoice : Invoice} {actorUserId : Option Id}
    (whole : ∀ line ∈ lines, Whole line.amount)
    (same : ∀ index line, measure (chargePosting invoice (invoice.issuedAt.getD now) actorUserId index
      line) = stored line.amount) :
    sumBy measure (chargePostings now invoice actorUserId lines) = stored (lines.map ChargeLine.amount).sum := by
  rw [← stored_sum whole]
  exact sumBy_mapIdx measure _ _ same lines

theorem Posts.charges {postings : List LedgerPosting} (posts : Posts db change postings) :
    (∃ draft now, change = .issued draft ∧ ∀ posting ∈ postings, posting.source = .invoice db.nextId ∧
      posting.occurredAt = now ∧ posting.condoId = draft.condoId) ∨
    ∀ posting ∈ postings, posting.type ≠ .charge := by
  have payments : ∀ invoice paymentId amount occurredAt actorUserId, ∀ posting ∈
      paymentPostings invoice paymentId amount occurredAt actorUserId, posting.type ≠ .charge := by
    intro invoice paymentId amount occurredAt actorUserId posting mem
    obtain ⟨allocation, _, rfl⟩ := mem_paymentPostings mem
    exact nofun
  cases posts with
  | @issued now draft actorUserId =>
    refine .inl ⟨draft, now, rfl, fun posting mem => ?_⟩
    obtain ⟨index, line, _, rfl⟩ := mem_chargePostings mem
    exact ⟨rfl, rfl, rfl⟩
  | confirmed | manual => exact .inr (payments _ _ _ _ _)
  | creditApplied =>
    refine .inr fun posting mem => ?_
    rcases mem_append.mp mem with paid | applied
    · exact payments _ _ _ _ _ posting paid
    · rw [mem_singleton.mp applied]
      exact nofun
  | voided =>
    refine .inr fun posting mem => ?_
    obtain ⟨charge, _, _, _, rfl⟩ := mem_voidPostings mem
    exact nofun
  | _ => simp [advancePosting, prepaymentPosting, depositHeldPosting, depositPosting]

structure CountsCharges (measure : LedgerPosting → ℤ) (invoiceId : Id) : Prop where
  only : ∀ posting, ¬ (posting.type = .charge ∧ posting.source = .invoice invoiceId) → measure posting = 0
  vanishes : ∀ posting, posting.amount = 0 → measure posting = 0

theorem chargedFor_counts (invoiceId : Id) : CountsCharges (chargedFor invoiceId) invoiceId where
  only posting other := if_neg fun found => other found.symm
  vanishes posting zero := by simp [chargedFor, zero]

theorem Commit.newCharges {draft : InvoiceDraft} {measure : LedgerPosting → ℤ}
    (commit : Commit db (.issued draft) after) (wf : WellFormed db)
    (counts : CountsCharges measure db.nextId) : ∃ now actorUserId, ledgerSum measure after.ledgerEntries =
      sumBy measure (chargePostings now (draft.row now db.nextId) actorUserId draft.lines) := by
  obtain ⟨postings, posts, moved⟩ := commit.ledgerSum_moved wf
  have before : ledgerSum measure db.ledgerEntries = 0 := by
    refine sumBy_zero _ fun entry mem => counts.only _ ?_
    rintro ⟨_, source⟩
    have below := (wf.keys entry mem).source
    rw [source] at below
    exact lt_irrefl _ below
  rw [moved measure counts.vanishes, before, zero_add]
  cases posts with
  | @issued now _ actorUserId => exact ⟨now, actorUserId, rfl⟩

variable {row : Invoice}

theorem Commit.chargeSum {measure : Id → LedgerPosting → ℤ} (commit : Commit db change after) (wf : WellFormed db)
    (counts : ∀ id, CountsCharges (measure id) id) (mem : row ∈ after.invoices) :
    (∃ old ∈ db.invoices, SameInvoice old row ∧ ledgerSum (measure row.id) after.ledgerEntries =
      ledgerSum (measure old.id) db.ledgerEntries) ∨
    ∃ draft now, change = .issued draft ∧ row = draft.row now db.nextId ∧
      ∃ dated actorUserId, ledgerSum (measure row.id) after.ledgerEntries =
        sumBy (measure row.id) (chargePostings dated (draft.row dated db.nextId) actorUserId draft.lines) := by
  rcases commit.invoice_origin mem with ⟨old, found, same⟩ | ⟨_, draft, now, rfl, rfl⟩
  · obtain ⟨postings, posts, moved⟩ := commit.ledgerSum_moved wf
    have quiet : sumBy (measure old.id) postings = 0 := by
      refine sumBy_zero _ fun posting posted => (counts old.id).only posting ?_
      rintro ⟨charge, own⟩
      rcases posts.charges with ⟨_, _, _, all⟩ | none
      · have new := (all posting posted).1.symm.trans own
        exact ne_of_gt (wf.invoice_id_lt found) (LedgerSource.invoice.inj new)
      · exact none posting posted charge
    refine .inl ⟨old, found, same, ?_⟩
    rw [same.id, moved _ (counts old.id).vanishes, quiet, add_zero]
  · exact .inr ⟨draft, now, rfl, rfl, commit.newCharges wf (counts db.nextId)⟩

theorem Commit.charges (commit : Commit db change after) (wf : WellFormed db) (mem : row ∈ after.invoices) :
    (∃ old ∈ db.invoices, SameInvoice old row ∧ ledgerSum (chargedFor row.id) after.ledgerEntries =
      ledgerSum (chargedFor old.id) db.ledgerEntries) ∨
    ∃ draft now, change = .issued draft ∧ row = draft.row now db.nextId ∧
      ledgerSum (chargedFor row.id) after.ledgerEntries = sumBy (fun line => stored line.amount) draft.lines := by
  rcases commit.chargeSum wf chargedFor_counts mem with
    kept | ⟨draft, now, issued, new, dated, actorUserId, sum⟩
  · exact .inl kept
  · refine .inr ⟨draft, now, issued, new, sum.trans ?_⟩
    subst new
    exact sumBy_mapIdx _ _ _ (fun index line => by simp [chargedFor, chargePosting, InvoiceDraft.row]) _

theorem Commit.charged (commit : Commit db change after) (wf : WellFormed db)
    (whole : change.Whole) (charged : Charged db) : Charged after := by
  intro row mem
  rcases commit.charges wf mem with ⟨old, found, same, kept⟩ | ⟨draft, now, rfl, rfl, new⟩
  · rw [kept, same.total]
    exact charged old found
  · rw [new, stored_sum whole]
    rfl

end SmartResidence.Billing

namespace SmartResidence.Billing

open Foundation

variable {env : Env} {db after : Db} {request : Request} {change : Change}

structure Agrees (db : Db) (invoice : Invoice) : Prop where
  lines : invoice.total = lineTotal invoice.lines
  charges : invoice.total = ledgerSum (chargedFor invoice.id) db.ledgerEntries

def InvoiceDraft.residue (draft : InvoiceDraft) : ℚ :=
  (draft.lines.map fun line => line.amount - (stored line.amount : ℚ)).sum

def IssuedFrom (draft : InvoiceDraft) (invoice : Invoice) : Prop :=
  ∃ now id, SameInvoice (draft.row now id) invoice

def LinesCharged (db : Db) : Prop :=
  ∀ invoice ∈ db.invoices, ledgerSum (chargedFor invoice.id) db.ledgerEntries = lineTotal invoice.lines

theorem lineTotal_row (draft : InvoiceDraft) (now : Instant) (id : Id) :
    lineTotal (draft.row now id).lines = sumBy (fun line => stored line.amount) draft.lines := by
  refine sumBy_mapIdx _ _ _ ?_ draft.lines
  exact fun _ _ => rfl

theorem Commit.linesCharged (commit : Commit db change after) (wf : WellFormed db)
    (charged : LinesCharged db) : LinesCharged after := by
  intro row mem
  rcases commit.charges wf mem with ⟨old, found, same, kept⟩ | ⟨draft, now, _, rfl, new⟩
  · rw [kept, same.lines, charged old found]
  · rw [new, lineTotal_row]

theorem Reachable.linesCharged (reachable : Reachable env db) : LinesCharged db := by
  refine reachable.of_commits (fun start fresh => ?_) fun _ _ _ wf charged commit => commit.linesCharged wf charged
  simp [LinesCharged, fresh.invoices]

theorem residue_eq (draft : InvoiceDraft) :
    draft.residue = draft.subtotal - (sumBy (fun line => stored line.amount) draft.lines : ℤ) := by
  rw [InvoiceDraft.residue, InvoiceDraft.subtotal]
  induction draft.lines with
  | nil => simp
  | cons line lines ih =>
    simp only [map_cons, sum_cons, sumBy_cons, ih]
    push_cast
    ring

variable {draft : InvoiceDraft}

theorem subtotal_nonneg (nonneg : ∀ line ∈ draft.lines, 0 ≤ line.amount) : 0 ≤ draft.subtotal := by
  refine sum_nonneg fun amount mem => ?_
  obtain ⟨line, inside, rfl⟩ := mem_map.mp mem
  exact nonneg line inside

theorem stored_subtotal_iff (nonneg : ∀ line ∈ draft.lines, 0 ≤ line.amount) :
    stored draft.subtotal = sumBy (fun line => stored line.amount) draft.lines ↔
      - 1 / 2 ≤ draft.residue ∧ draft.residue < 1 / 2 := by
  have rounded : stored draft.subtotal = roundHalfUp draft.subtotal :=
    roundHalfAway_of_nonneg (subtotal_nonneg nonneg)
  rw [residue_eq, rounded, le_antisymm_iff, roundHalfUp_le_iff, le_roundHalfUp_iff]
  constructor
  · rintro ⟨above, below⟩
    constructor <;> linarith
  · rintro ⟨below, above⟩
    constructor <;> linarith

theorem issued_of_new {changes : List Change} (run : Run Commit db changes after) {row : Invoice}
    (mem : row ∈ after.invoices) : (∃ old ∈ db.invoices, SameInvoice old row) ∨
      ∃ draft, Change.issued draft ∈ changes ∧ IssuedFrom draft row := by
  induction run generalizing row with
  | done => exact .inl ⟨row, mem, .rfl⟩
  | snoc _ commit ih =>
    rcases commit.invoice_origin mem with ⟨middle, found, same⟩ | ⟨_, draft, now, rfl, rfl⟩
    · rcases ih found with ⟨old, inside, earlier⟩ | ⟨draft, issued, now, id, earlier⟩
      · exact .inl ⟨old, inside, earlier.trans same⟩
      · exact .inr ⟨draft, mem_append_left _ issued, now, id, earlier.trans same⟩
    · exact .inr ⟨draft, mem_append_right _ (mem_singleton.mpr rfl), now, _, .rfl⟩

theorem Reachable.step (reachable : Reachable env db) (done : Completes env db request after) :
    Reachable env after := by
  obtain ⟨start, log, fresh, run⟩ := reachable
  exact ⟨start, log ++ [request], fresh, run.snoc done⟩

end SmartResidence.Billing
