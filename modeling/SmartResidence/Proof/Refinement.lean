import SmartResidence.Proof.Consistency

/-!
# Every completed operation is a run of commits
-/

namespace SmartResidence.Billing

open Foundation List

variable {db after : Db} {now : Instant}

variable {n : ℤ}

@[simp] theorem cast_le_half : (n : ℚ) ≤ 1 / 2 ↔ n ≤ 0 := by
  constructor
  · intro small
    by_contra pos
    have : (1 : ℚ) ≤ n := by exact_mod_cast not_le.mp pos
    linarith
  · intro nonpos
    have : (n : ℚ) ≤ 0 := by exact_mod_cast nonpos
    linarith

@[simp] theorem half_lt_cast : (n : ℚ) > 1 / 2 ↔ 0 < n := by
  rw [gt_iff_lt, ← not_le, cast_le_half, not_le]

/-! ## Transactions -/

theorem issueInTx_effect {input : IssueReceiptInput} (issued : issueInTx db input = .ok after) :
    ∃ receipts, after = { db with receipts := receipts, nextId := db.nextId + 1 } ∧ refundReceipts receipts =
        refundReceipts db.receipts + if input.kind = .refund then stored input.amount else 0 := by
  simp only [issueInTx, bind_eq_ok, pure_eq_ok] at issued
  obtain ⟨_, _, _, _, _, _, rfl⟩ := issued
  refine ⟨_, rfl, ?_⟩
  by_cases kind : input.kind = .refund
  · simp [refundReceipts, kind]
  · simp [refundReceipts, kind]

theorem insertInvoice_effect {row : Id → Invoice} (inserted : db.insertInvoice row = .ok after)
    (active : (row db.nextId).status ≠ .void) :
    db.activePeriodTaken (row db.nextId).unitId (row db.nextId).periodStart none = false ∧
      after = { db with invoices := db.invoices ++ [row db.nextId], nextId := db.nextId + 1 } := by
  simp only [Db.insertInvoice, bind_eq_ok, pure_eq_ok] at inserted
  obtain ⟨_, free, rfl⟩ := inserted
  exact ⟨by simpa [active] using free, rfl⟩

variable {invoice : Invoice}

theorem updateInvoice_effect {change : Invoice → Invoice} (updated : db.updateInvoice invoice change = .ok after) :
    after = db.changeInvoice invoice.id change := by
  simp only [Db.updateInvoice, bind_eq_ok, pure_eq_ok] at updated
  obtain ⟨_, _, rfl⟩ := updated
  rfl

variable {actorUserId : Option Id}

theorem issueInvoice_commit {draft : InvoiceDraft}
    (issued : issueInvoice now db draft actorUserId = .ok (after, invoice)) :
    Commit db (.issued draft) after ∧ invoice = draft.row now db.nextId ∧ invoice ∈ after.invoices := by
  simp only [issueInvoice, bind_eq_ok] at issued
  obtain ⟨inserted, insert, rfl, rfl⟩ := issued
  obtain ⟨free, rfl⟩ := insertInvoice_effect insert (by simp [InvoiceDraft.row])
  exact ⟨.issued free, rfl, mem_append_right _ (mem_singleton.mpr rfl)⟩

theorem settleInvoice_effect (db : Db) {payment : Payment} {flag : Option Bool}
    (wf : (db.invoices.map Invoice.id).Nodup) (nodup : (db.payments.map Payment.id).Nodup)
    (found : invoice ∈ db.invoices) (mem : payment ∈ db.payments)
    (done : settleInvoice now db invoice.id payment.id actorUserId = .ok (after, flag)) :
    ∃ receipts nextId, db.nextId ≤ nextId ∧ after = settledBy now db invoice payment actorUserId receipts nextId := by
  have isInvoice : db.invoice? invoice.id = some invoice := findBy_of_mem wf found
  simp only [settleInvoice, isInvoice, bind_eq_ok] at done
  obtain ⟨updated, update, done⟩ := done
  obtain rfl := updateInvoice_effect update
  have isPayment : (db.changeInvoice invoice.id (settled now (paidSoFar db invoice.id))).payment?
      payment.id = some payment := findBy_of_mem nodup mem
  have isSettled : (db.changeInvoice invoice.id (settled now (paidSoFar db invoice.id))).invoice?
      invoice.id = some (settled now (paidSoFar db invoice.id) invoice) := by
    simp only [Db.invoice?, Db.changeInvoice]
    rw [findBy_updateBy, findBy_of_mem wf found]
    · simp
    · exact fun _ => rfl
  simp only [isPayment, recordPaymentAllocation, isSettled] at done
  split at done
  · obtain ⟨rfl, _⟩ := done
    exact ⟨db.receipts, db.nextId, le_rfl, rfl⟩
  · simp only [bind_eq_ok] at done
    obtain ⟨receipted, issue, rfl, _⟩ := done
    obtain ⟨receipts, rfl, _⟩ := issueInTx_effect issue
    exact ⟨receipts, db.nextId + 1, Nat.le_succ _, rfl⟩

theorem consumeCredit_effect {unitId : Id} {amount : ℤ} (consumed : db.consumeCredit unitId amount = .ok after) :
    after = db.incrementCredit unitId (- amount) := by
  simp only [Db.consumeCredit, bind_eq_ok, pure_eq_ok] at consumed
  obtain ⟨_, _, rfl⟩ := consumed
  rfl

section

variable (wf : WellFormed db)
include wf

variable {row : Id → Payment}

theorem inserted_payments_nodup (assigned : (row db.nextId).id = db.nextId) :
    ((db.insertPayment row).payments.map Payment.id).Nodup :=
  (wf.paymentIds.insert assigned (Nat.lt_succ_self _)).distinct

variable {invoice : Invoice}

theorem settle_inserted {actorUserId : Option Id} {flag : Option Bool} (assigned : (row db.nextId).id = db.nextId)
    (found : invoice ∈ db.invoices) (done : settleInvoice now (db.insertPayment row) invoice.id db.nextId actorUserId =
      .ok (after, flag)) : ∃ receipts nextId, db.nextId < nextId ∧
      after = settledBy now (db.insertPayment row) invoice (row db.nextId) actorUserId receipts nextId := by
  have mem : row db.nextId ∈ (db.insertPayment row).payments :=
    mem_append_right _ (mem_singleton.mpr rfl)
  rw [← assigned] at done
  exact settleInvoice_effect (db.insertPayment row) wf.invoiceIds.distinct
    (inserted_payments_nodup wf assigned) found mem done

theorem applyCreditInTx_commit {condoId : Id} {amount : ℤ} (found : invoice ∈ db.invoices)
    (active : invoice.status ≠ .void) (pos : 0 < amount) (bounded : amount ≤ invoice.total - invoice.amountPaid)
    (covered : amount ≤ db.getCredit invoice.unitId)
    (done : applyCreditInTx now db invoice.id invoice.unitId condoId amount = .ok after) :
    Commit db (.creditApplied invoice condoId amount) after := by
  simp only [applyCreditInTx, bind_eq_ok, pure_eq_ok, Prod.exists] at done
  obtain ⟨settledDb, _, settle, consumed, consume, rfl⟩ := done
  obtain ⟨receipts, nextId, grows, rfl⟩ := settle_inserted wf rfl found settle
  obtain rfl := consumeCredit_effect consume
  exact .creditApplied found active pos bounded covered grows

theorem confirmPaymentInTx_commit {payment : Payment} (mem : payment ∈ db.payments)
    (done : confirmPaymentInTx now db payment = .ok after) :
    (after = db ∧ payment.status ≠ .pending) ∨ (payment.status = .pending ∧
      Commit db (.confirmed payment (succeededAfter db payment)) after) := by
  simp only [confirmPaymentInTx] at done
  split at done
  · rename_i none
    refine .inl ⟨(pure_eq_ok.mp done).symm, fun pending => none ?_⟩
    exact any_eq_true.mpr ⟨payment, mem, by simp [isPending, pending]⟩
  · rename_i transitioned
    simp only [not_not, any_eq_true] at transitioned
    obtain ⟨row, inside, pick⟩ := transitioned
    simp only [isPending, decide_eq_true_eq] at pick
    obtain rfl := wf.payment_unique inside mem pick.1
    simp only [bind_eq_ok, pure_eq_ok, Prod.exists] at done
    obtain ⟨settledDb, flag, settle, rfl⟩ := done
    obtain ⟨invoice, found, owner⟩ := mem_map.mp (wf.paymentInvoice row inside)
    have nodup : ((confirming now db row).payments.map Payment.id).Nodup := by
      refine (Allocated.updateWhere (Allocated.updateWhere wf.paymentIds le_rfl ?_) le_rfl ?_).distinct
      · exact fun _ _ _ => rfl
      · exact fun _ _ _ => rfl
    have confirmed : succeed now row ∈ (confirming now db row).payments := by
      refine mem_updateWhere.mpr ⟨succeed now row, mem_updateWhere.mpr ⟨row, inside, ?_⟩, ?_⟩
      · simp [isPending, pick.2]
      · simp [succeed]
    have settle : settleInvoice now (confirming now db row) invoice.id row.id row.userId = .ok (settledDb, flag) := by
      rw [owner]
      exact settle
    obtain ⟨receipts, nextId, grows, rfl⟩ := settleInvoice_effect (confirming now db row)
      wf.invoiceIds.distinct nodup found confirmed settle
    exact .inr ⟨pick.2, .confirmed inside pick.2 found owner grows⟩

/-! ## Credit -/

def CreditsOf (owned : Invoice → Prop) (condoId : Id) (changes : List Change) : Prop :=
  ∀ change ∈ changes, ∃ invoice amount, owned invoice ∧ change = .creditApplied invoice condoId amount

variable {invoiceId unitId : Id}

theorem applyCreditToInvoice_commit {condoId : Id}
    (owner : ∀ invoice ∈ db.invoices, invoice.id = invoiceId → invoice.unitId = unitId)
    (done : applyCreditToInvoice now db invoiceId unitId condoId = .ok after) :
    after = db ∨ ∃ invoice amount, db.invoice? invoiceId = some invoice ∧
      Commit db (.creditApplied invoice condoId amount) after := by
  simp only [applyCreditToInvoice, cast_le_half] at done
  split at done
  · exact .inl (pure_eq_ok.mp done).symm
  · split at done
    · exact .inl (pure_eq_ok.mp done).symm
    · rename_i invoice isInvoice
      obtain ⟨found, rfl⟩ := mem_of_findBy isInvoice
      obtain rfl := owner invoice found rfl
      split at done
      · exact .inl (pure_eq_ok.mp done).symm
      · rename_i active
        split at done
        · exact .inl (pure_eq_ok.mp done).symm
        · rename_i pos
          exact .inr ⟨invoice, _, isInvoice, applyCreditInTx_commit wf found
            (fun void => active (.inl void)) (not_le.mp pos) (min_le_right _ _) (min_le_left _ _)
            done⟩

theorem applyCreditToInvoice_commits {condoId : Id} {owned : Invoice → Prop}
    (owner : ∀ invoice ∈ db.invoices, invoice.id = invoiceId → invoice.unitId = unitId ∧ owned invoice)
    (done : applyCreditToInvoice now db invoiceId unitId condoId = .ok after) :
    ∃ changes, Run Commit db changes after ∧ CreditsOf owned condoId changes := by
  rcases applyCreditToInvoice_commit wf (fun invoice found same => (owner invoice found same).1)
    done with rfl | ⟨invoice, amount, read, commit⟩
  · exact ⟨[], .done, by simp [CreditsOf]⟩
  · obtain ⟨found, same⟩ := mem_of_findBy read
    refine ⟨_, .single commit, fun change mem => ?_⟩
    rw [mem_singleton] at mem
    exact ⟨invoice, amount, (owner invoice found same).2, mem⟩

end

theorem invoices_known {changes : List Change} (run : Run Commit db changes after)
    (noIssue : ∀ change ∈ changes, ∀ draft, change ≠ .issued draft) {row : Invoice}
    (mem : row ∈ after.invoices) : ∃ old ∈ db.invoices, SameInvoice old row := by
  induction run generalizing row with
  | done => exact ⟨row, mem, .rfl⟩
  | snoc _ commit ih =>
    have last := noIssue _ (mem_append_right _ (mem_singleton.mpr rfl))
    rcases commit.invoice_origin mem with ⟨middle, found, same⟩ | ⟨_, draft, _, issued, _⟩
    · obtain ⟨old, inside, earlier⟩ :=
        ih (fun change inside => noIssue change (mem_append_left _ inside)) found
      exact ⟨old, inside, earlier.trans same⟩
    · exact absurd issued (last draft)

section

variable {owned : Invoice → Prop} {condoId : Id}

theorem CreditsOf.noIssue {changes : List Change} (credits : CreditsOf owned condoId changes) :
    ∀ change ∈ changes, ∀ draft, change ≠ .issued draft := by
  intro change mem draft issued
  obtain ⟨invoice, amount, _, same⟩ := credits change mem
  rw [issued] at same
  cases same

theorem CreditsOf.append {first second : List Change} (left : CreditsOf owned condoId first)
    (right : CreditsOf owned condoId second) : CreditsOf owned condoId (first ++ second) := by
  intro change mem
  exact (mem_append.mp mem).elim (left change) (right change)

variable {unitId : Id}

theorem applyCreditToEach_commits (wf : WellFormed db) {ids : List Id}
    (kept : ∀ old new, SameInvoice old new → owned old → owned new)
    (owner : ∀ invoice ∈ db.invoices, invoice.id ∈ ids → invoice.unitId = unitId ∧ owned invoice)
    (done : applyCreditToEach now db unitId condoId ids = .ok after) :
    ∃ changes, Run Commit db changes after ∧ CreditsOf owned condoId changes := by
  induction ids generalizing db with
  | nil =>
    cases done
    exact ⟨[], .done, by simp [CreditsOf]⟩
  | cons invoiceId rest ih =>
    rw [applyCreditToEach] at done
    split at done
    · cases done
      exact ⟨[], .done, by simp [CreditsOf]⟩
    · obtain ⟨applied, apply, more⟩ := bind_eq_ok.mp done
      obtain ⟨first, run, credits⟩ := applyCreditToInvoice_commits wf
        (fun invoice found same => owner invoice found (by simp [same])) apply
      have still : ∀ invoice ∈ applied.invoices, invoice.id ∈ rest → invoice.unitId = unitId ∧ owned invoice := by
        intro invoice mem listed
        obtain ⟨old, found, same⟩ := invoices_known run credits.noIssue mem
        obtain ⟨unit, holds⟩ := owner old found (mem_cons_of_mem _ (same.id ▸ listed))
        exact ⟨same.unitId.trans unit, kept old invoice same holds⟩
      obtain ⟨second, later, others⟩ := ih (wellFormed_of_commits run wf) still more
      exact ⟨first ++ second, run.trans later, credits.append others⟩

theorem applyCreditToOutstanding_commits (wf : WellFormed db)
    (done : applyCreditToOutstanding now db unitId condoId = .ok after) : ∃ changes, Run Commit db changes after ∧
      CreditsOf (fun invoice => ∃ old ∈ outstandingInvoices db unitId, SameInvoice old invoice) condoId
        changes := by
  refine applyCreditToEach_commits wf ?_ (fun invoice found mem => ?_) done
  · rintro old new same ⟨oldest, inside, before⟩
    exact ⟨oldest, inside, before.trans same⟩
  · obtain ⟨other, inside, same⟩ := mem_map.mp mem
    have outstanding := inside
    simp only [outstandingInvoices, mem_insertionSort, mem_filter, decide_eq_true_eq] at inside
    obtain rfl := wf.invoice_unique inside.1 found same
    exact ⟨inside.2.1, other, outstanding, .rfl⟩

theorem creditCreated_commits (wf : WellFormed db) {rows : List CreatedInvoice}
    (owner : ∀ row ∈ rows, ∀ invoice ∈ db.invoices, invoice.id = row.invoiceId →
      invoice.unitId = row.unitId ∧ invoice.condoId = condoId) :
    ∃ changes, Run Commit db changes (creditCreated now condoId db rows).db ∧
      CreditsOf (fun invoice => invoice.condoId = condoId) condoId changes := by
  induction rows generalizing db with
  | nil => exact ⟨[], .done, by simp [CreditsOf]⟩
  | cons row rest ih =>
    rw [creditCreated]
    split
    · exact ⟨[], .done, by simp [CreditsOf]⟩
    · rename_i applied apply
      obtain ⟨first, run, credits⟩ := applyCreditToInvoice_commits wf (owner row (by simp)) apply
      have still : ∀ other ∈ rest, ∀ invoice ∈ applied.invoices, invoice.id = other.invoiceId →
          invoice.unitId = other.unitId ∧ invoice.condoId = condoId := by
        intro other later invoice mem same
        obtain ⟨old, found, kept⟩ := invoices_known run credits.noIssue mem
        rw [kept.unitId, kept.condoId]
        exact owner other (mem_cons_of_mem _ later) old found (kept.id ▸ same)
      obtain ⟨second, later, others⟩ := ih (wellFormed_of_commits run wf) still
      exact ⟨first ++ second, run.trans later, credits.append others⟩

end

end SmartResidence.Billing
