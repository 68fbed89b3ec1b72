import SmartResidence.Proof.LedgerMirror

/-!
# Postings that abort the transaction of an invoice or a payment
-/

namespace SmartResidence.Accounting

open Foundation Billing List

variable {env : Env} {condoId : Id}

theorem alone_seedRows (rows : List CoaTemplateRow) (idByCode : List (String × Id)) :
    (OnClient.seedRows condoId rows idByCode).alone = seedRows condoId rows idByCode := by
  induction rows generalizing idByCode with
  | nil => rfl
  | cons row rest ih =>
    unfold OnClient.seedRows seedRows
    simp only [Program.alone_bind, Program.alone_statement, ih]

theorem alone_ensureSeeded : (OnClient.ensureSeeded condoId).alone = ensureSeeded condoId := by
  unfold OnClient.ensureSeeded
  rw [Program.alone_bind]
  congr 1
  funext existing
  split
  · rfl
  · exact alone_seedRows _ _

theorem alone_findPosted (key : Option String) : (OnClient.findPosted key).alone = Call.read (postedUnder key) := by
  unfold OnClient.findPosted
  split
  · rename_i missing
    cases key with
    | none => rfl
    | some text =>
      funext state
      simp only [Option.getD_some] at missing
      show ((.ok none, state) : Except GlError _ × GlDb) = (.ok (postedUnder (some text) state), state)
      rw [postedUnder, if_pos missing]
  · rfl

theorem alone_postEntry (opts : PostEntryOpts) : (OnClient.postEntry opts).alone = postEntry opts := by
  unfold OnClient.postEntry
  rw [Program.alone_bind, alone_ensureSeeded]
  congr 1
  funext _
  rw [Program.alone_bind, alone_findPosted]
  congr 1
  funext existing
  cases existing with
  | some entry => rfl
  | none =>
    dsimp only
    split
    · rfl
    · split <;> rfl

theorem alone_post (lines : List GlAccount → List JournalLineInput) (opts : List JournalLineInput → PostEntryOpts) :
    (OnClient.post condoId lines opts).alone = post condoId lines opts := by
  unfold OnClient.post
  rw [Program.alone_bind, alone_ensureSeeded]
  congr 1
  funext _
  rw [Program.alone_bind]
  congr 1
  funext rows
  split
  · rfl
  · rw [Program.alone_bind, alone_postEntry]
    rfl

theorem alone_logged (program : GlProgram (Option GlJournalEntry)) :
    (OnClient.logged program).alone = logged program.alone := by
  unfold OnClient.logged
  rw [Program.alone_bind, Program.alone_attempt]
  congr 1
  funext result
  cases result <;> rfl

theorem alone_posting (posting : Posting) : (posting.program env).alone = match posting with
    | .invoiceCharges opts => postInvoiceCharges env opts
    | .payment opts => postPayment env opts := by
  cases posting with
  | invoiceCharges opts =>
    show (OnClient.logged _).alone = _
    rw [alone_logged, alone_post]
    rfl
  | payment opts =>
    show (OnClient.logged _).alone = _
    rw [alone_logged, alone_post]
    rfl

/-! ## The same transactions as without postings -/

section

variable {now : Instant} {db : Db}

theorem unposted_recordInvoiceCharges (invoice : Invoice) (lines : List ChargeLine) (actorUserId : Option Id) :
    (InTx.recordInvoiceCharges now invoice lines actorUserId).unposted db =
      .ok (recordInvoiceCharges now db invoice lines actorUserId, ()) := by
  unfold InTx.recordInvoiceCharges
  split
  · rename_i none
    subst none
    rfl
  · rfl

theorem unposted_issueInvoice (draft : InvoiceDraft) (lines : List ChargeLine) (actorUserId : Option Id) :
    (InTx.issueInvoice now draft lines actorUserId).unposted db = (do
      let inserted ← db.insertInvoice (draft.row now)
      let invoice := draft.row now db.nextId
      return (recordInvoiceCharges now inserted invoice lines actorUserId, invoice)) := by
  unfold InTx.issueInvoice
  rw [Transaction.unposted_bind, Transaction.unposted_call]
  rcases db.insertInvoice (draft.row now) with failure | inserted
  · rfl
  · show (_ >>= _ : BillingTx Invoice).unposted inserted = _
    rw [Transaction.unposted_bind, unposted_recordInvoiceCharges]
    rfl

theorem recordInvoiceCharges_stored (draft : InvoiceDraft) (invoice : Invoice) (actorUserId : Option Id) :
    recordInvoiceCharges now db invoice (storedLines draft) actorUserId =
      recordInvoiceCharges now db invoice draft.lines actorUserId := by
  unfold recordInvoiceCharges storedLines
  congr 1
  refine ext_getElem ?_ fun index _ _ => ?_
  · simp
  · simp [chargePosting]

theorem unposted_createInvoice (draft : InvoiceDraft) (actorUserId : Option Id) :
    (InTx.issueInvoice now draft (storedLines draft) actorUserId).unposted db = issueInvoice now db draft actorUserId := by
  rw [unposted_issueInvoice, issueInvoice]
  simp only [recordInvoiceCharges_stored]

theorem unposted_issueChunk (dto : GenerateRecurringDto) (actorUserId : Option Id) (pending : List PlannedBill) :
    (InTx.issueChunk now condoId dto actorUserId pending).unposted db =
      issueChunk now condoId dto actorUserId db pending := by
  induction pending generalizing db with
  | nil => rfl
  | cons plan rest ih =>
    unfold InTx.issueChunk issueChunk
    rw [Transaction.unposted_bind, unposted_issueInvoice]
    show issueInvoice now db (plan.draft condoId dto) actorUserId >>= _ = _
    rcases issueInvoice now db (plan.draft condoId dto) actorUserId with failure | ⟨issued, invoice⟩
    · rfl
    · show (_ >>= _ : BillingTx (List CreatedInvoice)).unposted issued = _
      rw [Transaction.unposted_bind, ih]
      show _ = issueChunk now condoId dto actorUserId issued rest >>= _
      rcases issueChunk now condoId dto actorUserId issued rest with failure | done <;> rfl

theorem unposted_recordPaymentAllocation (invoiceId paymentId : Id) (amount : ℤ) (occurredAt : Instant)
    (actorUserId : Option Id) : (InTx.recordPaymentAllocation invoiceId paymentId amount occurredAt actorUserId).unposted
      db = .ok (recordPaymentAllocation db invoiceId paymentId amount occurredAt actorUserId, ()) := by
  unfold InTx.recordPaymentAllocation
  rw [Transaction.unposted_bind, Transaction.unposted_look]
  rcases found : db.invoice? invoiceId with _ | invoice
  · show Except.ok (db, ()) = _
    rw [recordPaymentAllocation, found]
  · rfl

theorem unposted_settleInvoice (invoiceId paymentId : Id) (actorUserId : Option Id) :
    (InTx.settleInvoice now invoiceId paymentId actorUserId).unposted db =
      settleInvoice now db invoiceId paymentId actorUserId := by
  unfold InTx.settleInvoice settleInvoice
  rw [Transaction.unposted_bind]
  show (_ >>= _ : BillingTx (Option Bool)).unposted db = _
  rw [Transaction.unposted_bind, Transaction.unposted_look]
  rcases db.invoice? invoiceId with _ | invoice
  · rfl
  · show (_ >>= _ : BillingTx (Option Bool)).unposted db = _
    rw [Transaction.unposted_bind, Transaction.unposted_change]
    dsimp only
    rcases db.updateInvoice invoice (settled now (paidSoFar db invoiceId)) with failure | updated
    · rfl
    · show (_ >>= _ : BillingTx (Option Bool)).unposted updated = _
      rw [Transaction.unposted_bind, Transaction.unposted_look]
      conv_rhs => dsimp only [bind, Except.bind]
      rcases updated.payment? paymentId with _ | payment
      · rfl
      · show (_ >>= _ : BillingTx (Option Bool)).unposted updated = _
        rw [Transaction.unposted_bind, unposted_recordPaymentAllocation]
        dsimp only
        generalize recordPaymentAllocation updated invoiceId paymentId payment.amount (payment.paidAt.getD now)
          actorUserId = allocated
        show (if payment.metadata.method = some "PREPAYMENT_APPLIED" then _ else _ : BillingTx (Option Bool)).unposted
          allocated = _
        split
        · rfl
        · rw [Transaction.unposted_bind, Transaction.unposted_change]
          rcases issueInTx allocated _ with failure | receipted <;> rfl

theorem unposted_confirmPaymentInTx (payment : Payment) : (InTx.confirmPaymentInTx now payment).unposted db =
      (confirmPaymentInTx now db payment).map fun confirmed => (confirmed, ()) := by
  unfold InTx.confirmPaymentInTx confirmPaymentInTx
  rw [Transaction.unposted_bind, Transaction.unposted_call]
  rcases pending : db.payments.any (isPending payment.id) with _ | _
  · have same : db.updatePayments (isPending payment.id) (succeed now) = db := by
      rw [Db.updatePayments, updateWhere_none]
      intro row mem
      exact Bool.eq_false_iff.mpr (any_eq_false.mp pending row mem)
    rw [same]
    rfl
  · show (_ >>= _ : BillingTx Unit).unposted _ = _
    rw [Transaction.unposted_bind]
    show (_ >>= _ : BillingTx Unit).unposted _ = _
    rw [Transaction.unposted_bind, unposted_settleInvoice]
    simp only [if_false]
    rcases settleInvoice now _ payment.invoiceId payment.id payment.userId with failure | done <;> rfl

theorem unposted_recordManualPaymentInTx (actorId invoiceId : Id) (amount : ℚ) (dto : RecordManualPaymentDto) :
    (InTx.recordManualPaymentInTx now actorId invoiceId amount dto).unposted db = (do
      let created := db.insertPayment (manualPayment now invoiceId actorId amount dto)
      let (settledDb, _) ← settleInvoice now created invoiceId db.nextId (some actorId)
      return (settledDb, ())) := by
  unfold InTx.recordManualPaymentInTx InTx.insertPayment
  rw [Transaction.unposted_bind]
  show (_ >>= _ : BillingTx Unit).unposted _ = _
  rw [Transaction.unposted_bind, unposted_settleInvoice]
  rfl

theorem unposted_applyCreditInTx (invoiceId unitId : Id) :
    (InTx.applyCreditInTx now invoiceId unitId condoId).unposted db =
      (applyCreditToInvoice now db invoiceId unitId condoId).map fun applied => (applied, ()) := by
  unfold InTx.applyCreditInTx applyCreditToInvoice
  rw [Transaction.unposted_bind]
  show (if (db.getCredit unitId : ℚ) ≤ 1 / 2 then _ else _ : BillingTx Unit).unposted db = _
  by_cases small : (db.getCredit unitId : ℚ) ≤ 1 / 2
  · rw [if_pos small, if_pos small]
    rfl
  · rw [if_neg small, if_neg small, Transaction.unposted_bind, Transaction.unposted_look]
    rcases db.invoice? invoiceId with _ | invoice
    · rfl
    · show (if invoice.status = .void ∨ invoice.status = .paid then _ else _ : BillingTx Unit).unposted db = _
      dsimp only
      by_cases closed : invoice.status = .void ∨ invoice.status = .paid
      · rw [if_pos closed, if_pos closed]
        rfl
      · rw [if_neg closed]
        split
        · rfl
        · unfold InTx.insertPayment applyCreditInTx
          rw [Transaction.unposted_bind]
          show (_ >>= _ : BillingTx Unit).unposted _ = _
          rw [Transaction.unposted_bind, unposted_settleInvoice]
          dsimp only
          rcases settleInvoice now _ invoiceId db.nextId none with failure | ⟨settledDb, result⟩
          · rfl
          · show (_ >>= _ : BillingTx Unit).unposted settledDb = _
            rw [Transaction.unposted_bind, Transaction.unposted_change]
            show _ = Except.map _ (settledDb.consumeCredit unitId _ >>= _)
            rcases settledDb.consumeCredit unitId _ with failure | consumed <;> rfl

end

/-! ## What others commit meanwhile -/

structure Arrivals where
  accounts : List GlAccount
  entries : List GlJournalEntry
  nextId : Id

def Arrivals.commit (arrivals : Arrivals) (gl : GlDb) : GlDb :=
  { gl with
    accounts := gl.accounts ++ arrivals.accounts
    entries := gl.entries ++ arrivals.entries
    nextId := max gl.nextId arrivals.nextId }

def Free (condoId : Id) (code : String) (accounts : List GlAccount) : Prop :=
  ∀ account ∈ accounts, account.condoId = condoId → account.code ≠ code

theorem malaysianJmbCoa_distinct : (malaysianJmbCoa.map CoaTemplateRow.code).Nodup := by decide

theorem free_append {code : String} {first second : List GlAccount} :
    Free condoId code (first ++ second) ↔ Free condoId code first ∧ Free condoId code second :=
  forall_mem_append

def Unrivalled (condoId : Id) (arrivals : ℕ → Arrivals) (rows : List CoaTemplateRow) (moment : ℕ) : Prop :=
  ∀ i row, rows[i]? = some row → ∀ j ≤ i, Free condoId row.code (arrivals (moment + j)).accounts

variable {row : CoaTemplateRow} {rest : List CoaTemplateRow}

theorem unrivalled_cons {arrivals : ℕ → Arrivals} {moment : ℕ} : Unrivalled condoId arrivals (row :: rest) moment ↔
      (∀ other ∈ row :: rest, Free condoId other.code (arrivals moment).accounts) ∧
        Unrivalled condoId arrivals rest (moment + 1) := by
  constructor
  · intro unrivalled
    refine ⟨fun other mem => ?_, fun i other listed j before => ?_⟩
    · obtain ⟨i, listed⟩ := List.getElem?_of_mem mem
      exact unrivalled i other listed 0 (Nat.zero_le i)
    · have free := unrivalled (i + 1) other listed (j + 1) (Nat.succ_le_succ before)
      rwa [show moment + (j + 1) = moment + 1 + j by omega] at free
  · rintro ⟨now, later⟩ i other listed j before
    cases j with
    | zero => exact now other (mem_of_getElem? listed)
    | succ j =>
      cases i with
      | zero => omega
      | succ i =>
        have free := later i other listed j (Nat.le_of_succ_le_succ before)
        rwa [show moment + 1 + j = moment + (j + 1) by omega] at free

def seedRow (condoId : Id) (row : CoaTemplateRow) (id : Id) : GlAccount :=
  ⟨id, condoId, row.code, row.type, row.fund, none, true⟩

def amidSeeding (condoId : Id) (arrivals : ℕ → Arrivals) : List CoaTemplateRow → ℕ → GlDb → GlDb
  | [], _, gl => gl
  | row :: rest, moment, gl => amidSeeding condoId arrivals rest (moment + 1)
      (insertAccount (seedRow condoId row) ((arrivals moment).commit gl)).2

def commits (arrivals : ℕ → Arrivals) (moment : ℕ) : GlDb → GlDb := (arrivals moment).commit

theorem insertAccount_seedRow {gl : GlDb} (free : Free condoId row.code gl.accounts) :
    insertAccount (seedRow condoId row) gl = (.ok (seedRow condoId row gl.nextId),
      { gl with accounts := gl.accounts ++ [seedRow condoId row gl.nextId], nextId := gl.nextId + 1 }) := by
  unfold insertAccount
  rw [if_neg, if_neg]
  · rintro ⟨parentId, has, _⟩
    cases has
  · rintro ⟨other, found, own, same⟩
    exact free other found own same

theorem insertAccount_taken {gl : GlDb} (taken : ¬ Free condoId row.code gl.accounts) :
    insertAccount (seedRow condoId row) gl = (.error (.uniqueViolation .accountCode), gl) := by
  unfold insertAccount
  rw [if_pos]
  unfold Free at taken
  push Not at taken
  exact taken

theorem seedRows_cons (top : row.parentCode = none) (rest : List CoaTemplateRow) (idByCode : List (String × Id)) :
    OnClient.seedRows condoId (row :: rest) idByCode =
      Program.statement (insertAccount (seedRow condoId row)) >>= fun created =>
        OnClient.seedRows condoId rest (idByCode ++ [(row.code, created.id)]) := by
  rw [OnClient.seedRows, top]
  rfl

theorem free_after_row {other : CoaTemplateRow} {accounts : List GlAccount} {id : Id}
    (nodup : row.code ∉ rest.map CoaTemplateRow.code) (mem : other ∈ rest) :
    Free condoId other.code (accounts ++ [seedRow condoId row id]) ↔ Free condoId other.code accounts := by
  rw [free_append]
  apply and_iff_left
  intro account inside _ same
  rw [mem_singleton] at inside
  subst inside
  apply nodup
  rw [show row.code = other.code from same]
  exact mem_map_of_mem mem

section

variable {arrivals : ℕ → Arrivals} {gl : GlDb} {goal : Except GlError Unit → ℕ → GlDb → Prop}

theorem clears_seedRows {rows : List CoaTemplateRow} (top : ∀ row ∈ rows, row.parentCode = none)
    (nodup : (rows.map CoaTemplateRow.code).Nodup) (idByCode : List (String × Id)) (moment : ℕ) :
    (OnClient.seedRows condoId rows idByCode).Clears (commits arrivals) moment gl goal ↔
      (∀ row ∈ rows, Free condoId row.code gl.accounts) ∧ Unrivalled condoId arrivals rows moment ∧
        goal (.ok ()) (moment + rows.length) (amidSeeding condoId arrivals rows moment gl) := by
  induction rows generalizing idByCode moment gl with
  | nil => simp [OnClient.seedRows, Unrivalled, amidSeeding, Program.Clears, pure]
  | cons row rest ih =>
    rw [map_cons, nodup_cons] at nodup
    have below := fun other mem => top other (mem_cons_of_mem row mem)
    rw [seedRows_cons (top row mem_cons_self), Program.clears_bind, unrivalled_cons]
    by_cases free : Free condoId row.code (commits arrivals moment gl).accounts
    · have inserted := insertAccount_seedRow free
      rw [Program.clears_statement_of_ok inserted]
      dsimp only
      rw [ih below nodup.2, amidSeeding, Nat.add_right_comm]
      unfold commits at inserted free ⊢
      rw [inserted]
      have later : (∀ other ∈ rest, Free condoId other.code (((arrivals moment).commit gl).accounts ++
          [seedRow condoId row ((arrivals moment).commit gl).nextId])) ↔
            ∀ other ∈ rest, Free condoId other.code gl.accounts ∧ Free condoId other.code (arrivals moment).accounts :=
        forall₂_congr fun other mem => (free_after_row nodup.1 mem).trans free_append
      obtain ⟨before, now⟩ := free_append.mp free
      rw [later]
      constructor
      · rintro ⟨frees, unrivalled, reached⟩
        refine ⟨forall_mem_cons.mpr ⟨before, fun other mem => (frees other mem).1⟩,
          ⟨forall_mem_cons.mpr ⟨now, fun other mem => (frees other mem).2⟩, unrivalled⟩, reached⟩
      · rintro ⟨frees, ⟨arrived, unrivalled⟩, reached⟩
        refine ⟨fun other mem => ⟨?_, ?_⟩, unrivalled, reached⟩
        · exact frees other (mem_cons_of_mem row mem)
        · exact arrived other (mem_cons_of_mem row mem)
    · rw [Program.clears_statement_of_error (insertAccount_taken free)]
      refine iff_of_false id ?_
      rintro ⟨before, ⟨now, _⟩, _⟩
      exact free (free_append.mpr ⟨before row mem_cons_self, now row mem_cons_self⟩)

variable {moment : ℕ}

theorem clears_ensureSeeded_seeded
    (seeded : ∃ account ∈ (commits arrivals moment gl).accounts, account.condoId = condoId) :
    (OnClient.ensureSeeded condoId).Clears (commits arrivals) moment gl goal ↔
      goal (.ok ()) (moment + 1) (commits arrivals moment gl) := by
  unfold OnClient.ensureSeeded
  rw [Program.clears_bind, Program.clears_query]
  dsimp only
  rw [if_pos]
  · rfl
  · simpa using seeded

theorem clears_ensureSeeded_unseeded
    (unseeded : ∀ account ∈ (commits arrivals moment gl).accounts, account.condoId ≠ condoId) :
    (OnClient.ensureSeeded condoId).Clears (commits arrivals) moment gl goal ↔
      Unrivalled condoId arrivals malaysianJmbCoa (moment + 1) ∧ goal (.ok ()) (moment + 1 + malaysianJmbCoa.length)
        (amidSeeding condoId arrivals malaysianJmbCoa (moment + 1) (commits arrivals moment gl)) := by
  unfold OnClient.ensureSeeded
  rw [Program.clears_bind, Program.clears_query]
  dsimp only
  rw [if_neg, clears_seedRows malaysianJmbCoa_top malaysianJmbCoa_distinct]
  · exact and_iff_right fun row _ account found own => absurd own (unseeded account found)
  · rw [gt_iff_lt, countP_pos_iff]
    rintro ⟨account, found, own⟩
    exact unseeded account found (of_decide_eq_true own)

def seedingDone (condoId : Id) (arrivals : ℕ → Arrivals) (gl : GlDb) : ℕ × GlDb :=
  let counted := commits arrivals 0 gl
  if ∃ account ∈ counted.accounts, account.condoId = condoId then (1, counted)
  else (1 + malaysianJmbCoa.length, amidSeeding condoId arrivals malaysianJmbCoa 1 counted)

theorem clears_ensureSeeded : (OnClient.ensureSeeded condoId).Clears (commits arrivals) 0 gl goal ↔
    ((∀ account ∈ (commits arrivals 0 gl).accounts, account.condoId ≠ condoId) →
        Unrivalled condoId arrivals malaysianJmbCoa 1) ∧
      goal (.ok ()) (seedingDone condoId arrivals gl).1 (seedingDone condoId arrivals gl).2 := by
  unfold seedingDone
  by_cases seeded : ∃ account ∈ (commits arrivals 0 gl).accounts, account.condoId = condoId
  · rw [clears_ensureSeeded_seeded seeded, if_pos seeded]
    obtain ⟨account, found, own⟩ := seeded
    exact (and_iff_right fun unseeded => absurd own (unseeded account found)).symm
  · have unseeded : ∀ account ∈ (commits arrivals 0 gl).accounts, account.condoId ≠ condoId :=
      fun account found own => seeded ⟨account, found, own⟩
    rw [clears_ensureSeeded_unseeded unseeded, if_neg seeded]
    dsimp only
    constructor
    · rintro ⟨free, reached⟩
      exact ⟨fun _ => free, reached⟩
    · rintro ⟨free, reached⟩
      exact ⟨free unseeded, reached⟩

end

section

variable {arrivals : ℕ → Arrivals} {gl : GlDb}

theorem hasAccount_commits {accountId : Id} (known : gl.hasAccount accountId = true) (moment : ℕ) :
    (commits arrivals moment gl).hasAccount accountId = true := by
  rw [GlDb.hasAccount, GlDb.account?, findBy_isSome] at known ⊢
  obtain ⟨account, found, same⟩ := known
  exact ⟨account, mem_append_left _ found, same⟩

variable {opts : PostEntryOpts}

theorem insertEntry_taken {lines : List JournalLineInput} (taken :
    opts.idempotencyKey.isSome ∧ ∃ entry ∈ gl.entries, entry.idempotencyKey = opts.idempotencyKey) :
    insertEntry opts lines gl = (.error (.uniqueViolation .idempotencyKey), gl) := by
  unfold insertEntry
  rw [if_pos taken]

variable {key : String}

theorem clears_postEntry {moment : ℕ} (seeded : ∃ account ∈ gl.accounts, account.condoId = opts.condoId)
    (paired : PairedLines gl opts.condoId opts.lines) (lined : opts.lines ≠ []) (isKey : opts.idempotencyKey = some key)
    (named : key ≠ "") : (OnClient.postEntry opts).Clears (commits arrivals) moment gl (fun _ _ _ => True) ↔
      ((∀ entry ∈ (commits arrivals (moment + 1) (commits arrivals moment gl)).entries,
          entry.idempotencyKey ≠ some key) →
        ∀ entry ∈ (arrivals (moment + 2)).entries, entry.idempotencyKey ≠ some key) := by
  have enough : ¬ opts.lines.length < 2 := not_lt.mpr (paired.enough.resolve_left lined)
  obtain ⟨account, found, own⟩ := seeded
  have still : ∃ account ∈ (commits arrivals moment gl).accounts, account.condoId = opts.condoId :=
    ⟨account, mem_append_left _ found, own⟩
  unfold OnClient.postEntry OnClient.findPosted
  rw [Program.clears_bind, clears_ensureSeeded_seeded still]
  rw [Program.clears_bind, isKey, Option.getD_some, if_neg named, Program.clears_query]
  dsimp only
  rw [paired.normal, if_neg enough, paired.balanced_true, if_neg Bool.true_eq_false.mp]
  have known : ∀ line ∈ opts.lines, (commits arrivals (moment + 1) (commits arrivals moment gl)).hasAccount
      line.accountId = true :=
    fun line mem => hasAccount_commits (hasAccount_commits (paired.known line mem) _) _
  generalize commits arrivals (moment + 1) (commits arrivals moment gl) = read at known ⊢
  rcases posted : postedUnder (some key) read with _ | existing
  · have free : ∀ entry ∈ read.entries, entry.idempotencyKey ≠ some key := by
      rw [postedUnder, if_neg named, List.find?_eq_none] at posted
      intro entry found same
      exact posted entry found (decide_eq_true same)
    rw [forall_prop_of_true free]
    by_cases late : ∀ entry ∈ (arrivals (moment + 2)).entries, entry.idempotencyKey ≠ some key
    · rw [Program.clears_statement_of_ok (insertEntry_free ?_ ?_)]
      · exact iff_of_true trivial late
      · rw [isKey]
        rintro text ⟨⟩ entry found
        exact (mem_append.mp found).elim (free entry) (late entry)
      · exact fun line mem => hasAccount_commits (known line mem) _
    · rw [Program.clears_statement_of_error (insertEntry_taken ?_)]
      · exact iff_of_false id late
      · push Not at late
        obtain ⟨entry, found, same⟩ := late
        exact ⟨isKey ▸ rfl, entry, mem_append_right _ found, same.trans isKey.symm⟩
  · refine iff_of_true trivial fun free => ?_
    rw [postedUnder, if_neg named] at posted
    have same := List.find?_some posted
    exact absurd (of_decide_eq_true same) (free existing (mem_of_find?_eq_some posted))

def chartRead (condoId : Id) (arrivals : ℕ → Arrivals) (gl : GlDb) : GlDb :=
  commits arrivals (seedingDone condoId arrivals gl).1 (seedingDone condoId arrivals gl).2

def keyRead (condoId : Id) (arrivals : ℕ → Arrivals) (gl : GlDb) : GlDb :=
  let moment := (seedingDone condoId arrivals gl).1
  commits arrivals (moment + 2) (commits arrivals (moment + 1) (chartRead condoId arrivals gl))

/-- No other transaction adds an account of the chart while it is seeded, or an entry under the key between its
lookup and the insert. -/
structure Undisturbed (condoId : Id) (pairs : List GlAccount → List JournalLineInput) (key : String)
    (arrivals : ℕ → Arrivals) (gl : GlDb) : Prop where
  seeding : (∀ account ∈ (commits arrivals 0 gl).accounts, account.condoId ≠ condoId) →
    Unrivalled condoId arrivals malaysianJmbCoa 1
  entry : pairs (accountCodes condoId (chartRead condoId arrivals gl)) ≠ [] →
    (∀ entry ∈ (keyRead condoId arrivals gl).entries, entry.idempotencyKey ≠ some key) →
    ∀ entry ∈ (arrivals ((seedingDone condoId arrivals gl).1 + 3)).entries, entry.idempotencyKey ≠ some key

theorem clears_post {pairs : List GlAccount → List JournalLineInput} {make : List JournalLineInput → PostEntryOpts}
    (paired : ∀ gl, PairedLines gl condoId (pairs (accountCodes condoId gl))) (makes : Makes condoId make)
    (isKey : ∀ lines, (make lines).idempotencyKey = some key) (named : key ≠ "") :
    (OnClient.logged (OnClient.post condoId pairs make)).Clears (commits arrivals) 0 gl (fun _ _ _ => True) ↔
      Undisturbed condoId pairs key arrivals gl := by
  unfold OnClient.logged
  rw [Program.clears_bind_silent, Program.clears_attempt]
  · unfold OnClient.post
    rw [Program.clears_bind, clears_ensureSeeded]
    have posts : Program.Clears (commits arrivals)
        (if pairs (accountCodes condoId (chartRead condoId arrivals gl)) = [] then pure none
          else do
            let entry ← OnClient.postEntry (make (pairs (accountCodes condoId (chartRead condoId arrivals gl))))
            pure (some entry)) ((seedingDone condoId arrivals gl).1 + 1) (chartRead condoId arrivals gl)
        (fun _ _ _ => True) ↔ (pairs (accountCodes condoId (chartRead condoId arrivals gl)) ≠ [] →
          (∀ entry ∈ (keyRead condoId arrivals gl).entries, entry.idempotencyKey ≠ some key) →
          ∀ entry ∈ (arrivals ((seedingDone condoId arrivals gl).1 + 3)).entries, entry.idempotencyKey ≠ some key) := by
      split
      · rename_i none
        exact iff_of_true trivial fun lined => absurd none lined
      · rename_i lined
        rw [Program.clears_bind_silent, clears_postEntry ?_ ?_ ?_ (isKey _) named]
        · exact ⟨fun quiet _ => quiet, fun quiet => quiet lined⟩
        · obtain ⟨line, mem⟩ := exists_mem_of_ne_nil _ lined
          obtain ⟨account, found, _, own⟩ := (paired (chartRead condoId arrivals gl)).accounts line mem
          exact ⟨account, found, own.trans (makes.condoId _).symm⟩
        · rw [makes.condoId, makes.lines]
          exact paired (chartRead condoId arrivals gl)
        · rwa [makes.lines]
        · exact fun _ _ _ => trivial
    exact ⟨fun ⟨seeding, clear⟩ => ⟨seeding, posts.mp clear⟩, fun quiet => ⟨quiet.seeding, posts.mpr quiet.entry⟩⟩
  · intro result later after
    cases result <;> trivial

end

def Posting.pairs : Posting → List GlAccount → List JournalLineInput
  | .invoiceCharges opts => chargePairs opts
  | .payment opts => paymentPairs opts

theorem clears_posting {posting : Posting} {arrivals : ℕ → Arrivals} {gl : GlDb} :
    (posting.program env).Clears (commits arrivals) 0 gl (fun _ _ _ => True) ↔
      Undisturbed posting.condoId posting.pairs (posting.key env) arrivals gl := by
  cases posting with
  | invoiceCharges opts =>
    refine clears_post (fun _ => chargePairs_paired) chargeEntry_makes (fun _ => rfl) fun empty => ?_
    simp [Posting.key, invoiceKey] at empty
  | payment opts =>
    refine clears_post (fun _ => paymentPairs_paired) paymentEntry_makes (fun _ => rfl) fun empty => ?_
    simp [Posting.key, paymentKey] at empty

namespace PostingTx

variable (env) (now : Instant) (others : ℕ → Db → Db) (arrivals : ℕ → ℕ → Arrivals) (refusal : GlError) (books : Books)

def CommitsUnposted (tx : PostingTx) : Prop := ((tx.body now).alone others 0 books.billing).isOk = true

def start : Transaction.Progress Db GlDb := ⟨books.billing, 0, books.gl, 0, false⟩

def Commits (tx : PostingTx) : Prop :=
  ((tx.body now).exec (Posting.program env) others (fun posting => commits (arrivals posting)) refusal
    (start books)).isOk = true

def PostingsUndisturbed (tx : PostingTx) : Prop :=
  (tx.body now).Along (Posting.program env) others (fun posting => commits (arrivals posting)) refusal
    (fun index posting gl => Undisturbed posting.condoId posting.pairs (posting.key env) (arrivals index) gl)
    (start books)

variable {env now others arrivals refusal books}

/-- A transaction that commits without its postings commits with them if and only if they are undisturbed. -/
theorem commits_iff_undisturbed {tx : PostingTx} (unposted : tx.CommitsUnposted now others books) :
    tx.Commits env now others arrivals refusal books ↔
      tx.PostingsUndisturbed env now others arrivals refusal books := by
  unfold Commits PostingsUndisturbed
  have split := Transaction.commits_iff (Posting.program env) others (fun posting => commits (arrivals posting)) refusal
    (tx.body now) (rfl : (start books).aborted = false)
  rw [split]
  refine (and_iff_right unposted).trans ?_
  exact Transaction.along_congr _ _ _ _ (fun _ _ _ => clears_posting) _ _

end PostingTx

namespace Sample

def unseeded : Books := ⟨Billing.Sample.db, .empty⟩

def firstInvoice : PostingTx := .create 1 5 Billing.Sample.invoice

def rivalSeeding (_ moment : ℕ) : Arrivals :=
  if moment = 1 then ⟨(ensureSeeded 5 { GlDb.empty with nextId := 100 }).2.accounts, [], 126⟩ else ⟨[], [], 0⟩

end Sample

theorem undisturbed_first_invoice : Sample.firstInvoice.PostingsUndisturbed Sample.uuidEnv 0 (fun _ db => db)
    (fun _ _ => ⟨[], [], 0⟩) .foreignKeyViolation Sample.unseeded := by
  refine (PostingTx.commits_iff_undisturbed ?_).mp ?_
  · unfold PostingTx.CommitsUnposted
    decide +kernel
  · unfold PostingTx.Commits
    decide +kernel

theorem first_invoice_blocked : ¬ ∀ (env : Env) (tx : PostingTx) (now : Instant) (others : ℕ → Db → Db)
    (arrivals : ℕ → ℕ → Arrivals) (refusal : GlError) (books : Books),
    tx.CommitsUnposted now others books → tx.Commits env now others arrivals refusal books := by
  intro all
  have blocked := all Sample.uuidEnv Sample.firstInvoice 0 (fun _ db => db) Sample.rivalSeeding .foreignKeyViolation
    Sample.unseeded
  revert blocked
  unfold PostingTx.CommitsUnposted PostingTx.Commits
  decide +kernel

end SmartResidence.Accounting
