import SmartResidence.Accounting.GlPosting
import SmartResidence.Proof.LedgerEntries

/-!
# The general ledger is in balance
-/

namespace SmartResidence.Accounting

open Foundation Billing List

variable {db : GlDb} {env : Env} {opts : PostEntryOpts} {lines : List JournalLineInput}

/-! ## What calls keep -/

section

variable {Inv : GlDb → Prop}

structure Seeds (condoId : Id) (row : Id → GlAccount) : Prop where
  id : ∀ id, (row id).id = id
  condoId : ∀ id, (row id).condoId = condoId
  parentId : ∀ id, (row id).parentId = none

variable {condoId : Id}

theorem keeps_seedRows (accounts : ∀ row, Seeds condoId row → Call.Keeps Inv (insertAccount row))
    {rows : List CoaTemplateRow} (top : ∀ row ∈ rows, row.parentCode = none) (idByCode : List (String × Id)) :
    Call.Keeps Inv (seedRows condoId rows idByCode) := by
  induction rows generalizing idByCode with
  | nil => exact Call.keeps_pure _
  | cons row rest ih =>
    have none := top row mem_cons_self
    refine Call.keeps_bind (accounts _ ⟨fun _ => rfl, fun _ => rfl, fun _ => ?_⟩) fun _ =>
      ih (fun other mem => top other (mem_cons_of_mem _ mem)) _
    simp [none]

theorem malaysianJmbCoa_top : ∀ row ∈ malaysianJmbCoa, row.parentCode = none := by decide

theorem keeps_ensureSeeded (accounts : ∀ row, Seeds condoId row → Call.Keeps Inv (insertAccount row)) :
    Call.Keeps Inv (ensureSeeded condoId) := by
  refine Call.keeps_bind (Call.keeps_read _) fun existing => ?_
  split
  · exact Call.keeps_pure _
  · exact keeps_seedRows accounts malaysianJmbCoa_top _

theorem keeps_postEntry (accounts : ∀ row, Seeds opts.condoId row → Call.Keeps Inv (insertAccount row))
    (entries : 2 ≤ (normalized opts.lines).length → journalBalanced (normalized opts.lines) = true →
      Call.Keeps Inv (insertEntry opts (normalized opts.lines))) : Call.Keeps Inv (postEntry opts) := by
  refine Call.keeps_bind (keeps_ensureSeeded accounts) fun _ => ?_
  refine Call.keeps_bind (Call.keeps_read _) fun existing => ?_
  cases existing with
  | some entry => exact Call.keeps_pure _
  | none =>
    dsimp only
    split
    · exact Call.keeps_throw _
    · rename_i enough
      split
      · exact Call.keeps_throw _
      · rename_i balanced
        exact entries (not_lt.mp enough) (Bool.not_eq_false _ ▸ balanced)

theorem keeps_logged {call : GlCall (Option GlJournalEntry)} (first : Call.Keeps Inv call) :
    Call.Keeps Inv (logged call) := by
  refine Call.keeps_bind (Call.keeps_attempt first) fun result => ?_
  cases result with
  | ok entry => exact Call.keeps_pure _
  | error failure => exact Call.keeps_pure _

theorem keeps_post {pairs : List GlAccount → List JournalLineInput} {make : List JournalLineInput → PostEntryOpts}
    (accounts : ∀ row, Seeds condoId row → Call.Keeps Inv (insertAccount row))
    (entries : ∀ db, Inv db → Inv (postEntry (make (pairs (accountCodes condoId db))) db).2) :
    Call.Keeps Inv (post condoId pairs make) := by
  refine Call.keeps_bind (keeps_ensureSeeded accounts) fun _ => ?_
  refine Call.keeps_read_bind fun db inv => ?_
  split
  · exact inv
  · rw [Call.bind_pure_state]
    exact entries db inv

theorem AccountingOp.keeps (op : AccountingOp)
    (accounts : ∀ row : Id → GlAccount, (∀ id, (row id).id = id) → Call.Keeps Inv (insertAccount row))
    (updates : ∀ user id input, op = .updateAccount user id input → Call.Keeps Inv (writeAccount id input))
    (entries : ∀ opts, Call.Keeps Inv (Accounting.postEntry opts)) : Call.Keeps Inv (op.call env) := by
  have posts : ∀ condoId pairs make, Call.Keeps Inv (logged (post condoId pairs make)) := fun _ _ _ =>
    keeps_logged (keeps_post (fun row seeds => accounts row seeds.id) fun db inv => entries _ db inv)
  cases op with
  | postEntry opts => exact Call.keeps_bind (entries _) fun _ => Call.keeps_pure _
  | postManual user condoId input =>
    refine Call.keeps_bind (Call.keeps_ofResult _) fun _ => ?_
    exact Call.keeps_bind (entries _) fun _ => Call.keeps_pure _
  | createAccount user condoId input =>
    refine Call.keeps_bind (Call.keeps_ofResult _) fun _ => ?_
    refine Call.keeps_bind ?_ fun _ => Call.keeps_pure _
    exact Call.keeps_bind (keeps_ensureSeeded fun row seeds => accounts row seeds.id) fun _ => accounts _ fun _ => rfl
  | updateAccount user accountId input =>
    refine Call.keeps_bind ?_ fun _ => Call.keeps_pure _
    refine Call.keeps_bind (Call.keeps_read _) fun existing => ?_
    cases existing with
    | none => exact Call.keeps_throw _
    | some account => exact Call.keeps_bind (Call.keeps_ofResult _) fun _ => updates user _ _ rfl
  | postInvoiceCharges opts => exact posts _ _ _
  | postPayment opts => exact posts _ _ _
  | postLedgerEntry entry =>
    show Call.Keeps Inv (Accounting.postLedgerEntry entry)
    unfold Accounting.postLedgerEntry
    split
    · exact Call.keeps_pure _
    · split
      · exact Call.keeps_pure _
      · split
        · exact posts _ _ _
        · exact Call.keeps_pure _
  | postVendorBillApproved opts => exact posts _ _ _
  | postVendorBillPaid opts => exact posts _ _ _

end

structure WholeLine (line : JournalLineInput) : Prop where
  debit : ((stored line.debit : ℤ) : ℚ) = line.debit
  credit : ((stored line.credit : ℤ) : ℚ) = line.credit

theorem wholeLine_of_normalized : ∀ line ∈ normalized lines, WholeLine line := by
  intro line mem
  obtain ⟨input, _, rfl⟩ := mem_map.mp mem
  exact ⟨by simp only [stored_intCast], by simp only [stored_intCast]⟩

theorem sum_whole (amount : JournalLineInput → ℚ) (whole : ∀ line ∈ lines, ((stored (amount line) : ℤ) : ℚ) = amount line) :
    (lines.map amount).sum = ((sumBy (fun line => stored (amount line)) lines : ℤ) : ℚ) := by
  induction lines with
  | nil => simp
  | cons line lines ih =>
    have rest := ih fun other mem => whole other (mem_cons_of_mem _ mem)
    rw [map_cons, sum_cons, rest, sumBy_cons, Int.cast_add, whole line mem_cons_self]

theorem stored_balanced (whole : ∀ line ∈ lines, WholeLine line) (balanced : journalBalanced lines = true) :
    sumBy (fun line => stored line.debit) lines = sumBy (fun line => stored line.credit) lines := by
  have near := of_decide_eq_true balanced
  rw [sum_whole JournalLineInput.debit fun line mem => (whole line mem).debit,
    sum_whole JournalLineInput.credit fun line mem => (whole line mem).credit, ← Int.cast_sub,
    mathRound_intCast] at near
  generalize sumBy (fun line => stored line.debit) lines = debit at near ⊢
  generalize sumBy (fun line => stored line.credit) lines = credit at near ⊢
  have below : |debit - credit| < 1 := by
    have cast : ((|debit - credit| : ℤ) : ℚ) < 1 := by
      push_cast at near ⊢
      linarith
    exact_mod_cast cast
  have zero : debit - credit = 0 := Int.abs_lt_one_iff.mp below
  omega

/-! ## Every entry -/

structure BalancedEntry (entry : GlJournalEntry) : Prop where
  lines : 2 ≤ entry.lines.length
  balanced : sumBy GlJournalLine.debit entry.lines = sumBy GlJournalLine.credit entry.lines

structure JournalBooks (db : GlDb) : Prop where
  balanced : ∀ entry ∈ db.entries, BalancedEntry entry
  keys : (db.entries.filterMap GlJournalEntry.idempotencyKey).Nodup

theorem balancedEntry_row (id : Id) (enough : 2 ≤ lines.length) (whole : ∀ line ∈ lines, WholeLine line)
    (balanced : journalBalanced lines = true) : BalancedEntry (opts.row lines id) where
  lines := by simpa [PostEntryOpts.row] using enough
  balanced := by
    have sums := stored_balanced whole balanced
    rw [PostEntryOpts.row]
    rw [sumBy_mapIdx GlJournalLine.debit _ (fun line => stored line.debit) (fun _ _ => rfl),
      sumBy_mapIdx GlJournalLine.credit _ (fun line => stored line.credit) (fun _ _ => rfl), sums]

theorem keeps_insertEntry {Inv : GlDb → Prop} (kept : ∀ db, Inv db → (opts.idempotencyKey.isSome →
        ∀ other ∈ db.entries, other.idempotencyKey ≠ opts.idempotencyKey) →
      (∀ line ∈ lines, db.hasAccount line.accountId = true) →
      Inv { db with entries := db.entries ++ [opts.row lines db.nextId], nextId := db.nextId + 1 + lines.length }) :
    Call.Keeps Inv (insertEntry opts lines) := by
  intro db inv
  unfold insertEntry
  split
  · exact inv
  · rename_i free
    split
    · exact inv
    · rename_i known
      refine kept db inv (fun keyed other mem same => free ⟨keyed, other, mem, same⟩) fun line mem => ?_
      by_contra missing
      exact known ⟨line, mem, Bool.not_eq_true _ ▸ missing⟩

theorem keeps_books_insertAccount (row : Id → GlAccount) : Call.Keeps JournalBooks (insertAccount row) := by
  intro db books
  unfold insertAccount
  dsimp only
  split
  · exact books
  · split
    · exact books
    · exact ⟨books.balanced, books.keys⟩

theorem keeps_books_writeAccount (id : Id) (input : UpdateGlAccountDto) :
    Call.Keeps JournalBooks (writeAccount id input) := by
  intro db books
  unfold writeAccount
  split
  · exact books
  · exact ⟨books.balanced, books.keys⟩

theorem keeps_books_postEntry (opts : PostEntryOpts) : Call.Keeps JournalBooks (postEntry opts) := by
  refine keeps_postEntry (fun row _ => keeps_books_insertAccount row) fun enough balanced => keeps_insertEntry fun db books free _ => ?_
  constructor
  · intro entry mem
    rcases mem_append.mp mem with old | new
    · exact books.balanced entry old
    · rw [mem_singleton.mp new]
      exact balancedEntry_row _ enough wholeLine_of_normalized balanced
  · rw [filterMap_append, nodup_append]
    refine ⟨books.keys, ?_, fun key old _ new same => ?_⟩
    · cases keyed : opts.idempotencyKey with
      | none => simp [PostEntryOpts.row, keyed]
      | some text => simp [PostEntryOpts.row, keyed]
    · obtain ⟨other, mem, named⟩ := mem_filterMap.mp old
      obtain ⟨entry, single, also⟩ := mem_filterMap.mp new
      rw [mem_singleton.mp single] at also
      have own : opts.idempotencyKey = some key := also.trans (congrArg some same.symm)
      exact free (by simp [own]) other mem (named.trans own.symm)

theorem afterAll_keeps {Inv : GlDb → Prop} (kept : ∀ op : AccountingOp, Call.Keeps Inv (op.call env))
    (ops : List AccountingOp) (inv : Inv db) : Inv (afterAll env db ops) := by
  induction ops generalizing db with
  | nil => exact inv
  | cons op rest ih => exact ih (kept op db inv)

theorem journalBooks_empty : JournalBooks .empty := ⟨nofun, nodup_nil⟩

theorem journalBooks_afterAll (ops : List AccountingOp) : JournalBooks (afterAll env .empty ops) :=
  afterAll_keeps (fun op => op.keeps (fun row _ => keeps_books_insertAccount row)
    (fun _ id input _ => keeps_books_writeAccount id input) keeps_books_postEntry) ops journalBooks_empty

def GlDb.linesOf (db : GlDb) (condoId : Id) : List GlJournalLine :=
  (db.entries.filter fun entry => entry.condoId = condoId).flatMap GlJournalEntry.lines

theorem JournalBooks.totals (books : JournalBooks db) (condoId : Id) :
    sumBy GlJournalLine.debit (db.linesOf condoId) = sumBy GlJournalLine.credit (db.linesOf condoId) := by
  rw [GlDb.linesOf, sumBy_flatMap, sumBy_flatMap]
  refine sumBy_congr fun entry mem => ?_
  exact (books.balanced entry (mem_filter.mp mem).1).balanced

end SmartResidence.Accounting
