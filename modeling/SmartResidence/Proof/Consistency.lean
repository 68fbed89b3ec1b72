import SmartResidence.Proof.Commits

/-!
# Invariants of every reachable database
-/

open List

namespace SmartResidence.Billing

open Foundation

def KeyHolds (db : Db) : IdempotencyKey → Prop
  | .invoiceCharge invoiceId _ => invoiceId < db.nextId
  | .invoiceVoid invoiceId _ => ∃ invoice ∈ db.invoices, invoice.id = invoiceId ∧
      (invoice.status = .void ∨ 0 < invoice.amountPaid)
  | .payment paymentId _ => ∃ payment ∈ db.payments, payment.id = paymentId ∧
      payment.status = .succeeded
  | .prepayment receiptId => receiptId < db.nextId
  | .advancePaymentCredit advanceId => ∃ advance ∈ db.advancePayments, advance.id = advanceId ∧
      advance.status = .succeeded
  | .invoicePrepayment _ paymentId => paymentId < db.nextId
  | .depositHeld depositId => depositId < db.nextId
  | .depositRefund depositId refunded => ∃ deposit ∈ db.deposits, deposit.id = depositId ∧
      stored refunded ≤ deposit.refundedAmount
  | .depositForfeitLiability depositId forfeited => ∃ deposit ∈ db.deposits,
      deposit.id = depositId ∧ stored forfeited ≤ deposit.forfeitedAmount
  | .depositForfeitIncome depositId forfeited => ∃ deposit ∈ db.deposits,
      deposit.id = depositId ∧ stored forfeited ≤ deposit.forfeitedAmount

structure Keyed (db : Db) (posting : LedgerPosting) : Prop where
  key : ∃ key ∈ posting.idempotencyKey, KeyHolds db key
  source : posting.source.id < db.nextId

structure WellFormed (db : Db) : Prop where
  invoiceIds : Allocated (db.invoices.map Invoice.id) db.nextId
  paymentIds : Allocated (db.payments.map Payment.id) db.nextId
  advanceIds : Allocated (db.advancePayments.map AdvancePayment.id) db.nextId
  depositIds : Allocated (db.deposits.map Deposit.id) db.nextId
  accountUnits : (db.unitAccounts.map UnitAccount.unitId).Nodup
  entryIds : Numbered db.ledgerEntries
  paymentInvoice : ∀ payment ∈ db.payments, payment.invoiceId ∈ db.invoices.map Invoice.id
  amounts : ∀ payment ∈ db.payments, 0 ≤ payment.amount
  pendingAmounts : ∀ payment ∈ db.payments, payment.status = .pending → 0 < payment.amount
  amountPaid : ∀ invoice ∈ db.invoices, invoice.amountPaid = paidSoFar db invoice.id
  returned : ∀ deposit ∈ db.deposits, 0 ≤ deposit.refundedAmount ∧ 0 ≤ deposit.forfeitedAmount
  keys : ∀ entry ∈ db.ledgerEntries, Keyed db entry.toLedgerPosting

variable {db after : Db} {change : Change}

namespace WellFormed

theorem fresh (empty : Fresh db) : WellFormed db where
  invoiceIds := by rw [empty.invoices]; exact .nil
  paymentIds := by rw [empty.payments]; exact .nil
  advanceIds := by rw [empty.advancePayments]; exact .nil
  depositIds := by rw [empty.deposits]; exact .nil
  accountUnits := by simp [empty.unitAccounts]
  entryIds := by simp [Numbered, empty.ledgerEntries]
  paymentInvoice := by simp [empty.payments]
  amounts := by simp [empty.payments]
  pendingAmounts := by simp [empty.payments]
  amountPaid := by simp [empty.invoices]
  returned := by simp [empty.deposits]
  keys := by simp [empty.ledgerEntries]

variable (wf : WellFormed db)
include wf

variable {invoice : Invoice}

theorem invoice?_eq (found : invoice ∈ db.invoices) : db.invoice? invoice.id = some invoice :=
  findBy_of_mem wf.invoiceIds.distinct found

theorem invoice_unique {first second : Invoice} (found : first ∈ db.invoices)
    (also : second ∈ db.invoices) (same : first.id = second.id) : first = second :=
  eq_of_key_eq wf.invoiceIds.distinct found also same

theorem payment_unique {first second : Payment} (found : first ∈ db.payments)
    (also : second ∈ db.payments) (same : first.id = second.id) : first = second :=
  eq_of_key_eq wf.paymentIds.distinct found also same

theorem invoice_id_lt (found : invoice ∈ db.invoices) : invoice.id < db.nextId :=
  wf.invoiceIds.below _ (mem_map_of_mem found)

theorem payment_id_lt {payment : Payment} (found : payment ∈ db.payments) : payment.id < db.nextId :=
  wf.paymentIds.below _ (mem_map_of_mem found)

theorem advance_id_lt {advance : AdvancePayment} (found : advance ∈ db.advancePayments) : advance.id < db.nextId :=
  wf.advanceIds.below _ (mem_map_of_mem found)

theorem deposit_id_lt {deposit : Deposit} (found : deposit ∈ db.deposits) : deposit.id < db.nextId :=
  wf.depositIds.below _ (mem_map_of_mem found)

theorem paidSoFar_nonneg (invoiceId : Id) : 0 ≤ paidSoFar db invoiceId :=
  sumBy_nonneg _ fun payment mem => wf.amounts payment (mem_of_mem_filter mem)

end WellFormed

/-! ## Ids -/

variable {accounts : List UnitAccount}

theorem incrementAccount_nodup (nodup : (accounts.map UnitAccount.unitId).Nodup) (unitId : Id) (amount : ℤ) :
    ((incrementAccount accounts unitId amount).map UnitAccount.unitId).Nodup := by
  rw [incrementAccount, map_key_updateBy]
  · exact nodup
  · exact fun _ => rfl

theorem upsertAccount_nodup (nodup : (accounts.map UnitAccount.unitId).Nodup) (condoId unitId : Id) (amount : ℤ) :
    ((upsertAccount accounts condoId unitId amount).map UnitAccount.unitId).Nodup := by
  rw [upsertAccount]
  split
  · exact incrementAccount_nodup nodup unitId amount
  · rename_i missing
    rw [map_append, nodup_append]
    refine ⟨nodup, by simp, fun id mem other same => ?_⟩
    obtain ⟨account, found, rfl⟩ := mem_map.mp mem
    rw [map_singleton, mem_singleton] at same
    subst same
    exact findBy_eq_none.mp missing account found

namespace Commit

section

variable (commit : Commit db change after)
include commit

theorem nextId_le : db.nextId ≤ after.nextId := by
  cases commit with
  | issued | paymentOpened | advanceOpened | prepaid => exact Nat.le_succ _
  | confirmed _ _ _ _ grows | advanceConfirmed _ _ grows | depositRefunded _ _ _ _ _ grows =>
    exact grows
  | manual _ _ _ _ grows | creditApplied _ _ _ _ _ grows | depositHeld grows =>
    exact le_of_lt grows
  | _ => exact le_rfl

theorem invoiceIds (allocated : Allocated (db.invoices.map Invoice.id) db.nextId) :
    Allocated (after.invoices.map Invoice.id) after.nextId := by
  have grows := commit.nextId_le
  cases commit with
  | issued => exact allocated.insert rfl (Nat.lt_succ_self _)
  | confirmed | manual | creditApplied | voided => exact allocated.updateBy grows fun _ => rfl
  | invoicesMarked quiet =>
    exact allocated.updateWhere grows fun invoice mem pick => (quiet invoice mem pick).id
  | _ => exact allocated.mono grows

theorem paymentIds (allocated : Allocated (db.payments.map Payment.id) db.nextId) :
    Allocated (after.payments.map Payment.id) after.nextId := by
  have grows := commit.nextId_le
  cases commit with
  | paymentOpened => exact allocated.insert rfl (Nat.lt_succ_self _)
  | manual _ _ _ _ later | creditApplied _ _ _ _ _ later => exact allocated.insert rfl later
  | confirmed =>
    refine Allocated.updateWhere (Allocated.updateWhere allocated le_rfl ?_) grows ?_
    · exact fun _ _ _ => rfl
    · exact fun _ _ _ => rfl
  | paymentsMarked quiet =>
    exact allocated.updateWhere grows fun payment mem pick => (quiet payment mem pick).id
  | _ => exact allocated.mono grows

theorem advanceIds (allocated : Allocated (db.advancePayments.map AdvancePayment.id) db.nextId) :
    Allocated (after.advancePayments.map AdvancePayment.id) after.nextId := by
  have grows := commit.nextId_le
  cases commit with
  | advanceOpened => exact allocated.insert rfl (Nat.lt_succ_self _)
  | advanceConfirmed => exact allocated.updateWhere grows fun _ _ _ => rfl
  | advancesMarked quiet =>
    exact allocated.updateWhere grows fun advance mem pick => (quiet advance mem pick).id
  | _ => exact allocated.mono grows

theorem depositIds (allocated : Allocated (db.deposits.map Deposit.id) db.nextId) :
    Allocated (after.deposits.map Deposit.id) after.nextId := by
  have grows := commit.nextId_le
  cases commit with
  | depositHeld later => exact allocated.insert rfl later
  | depositRefunded _ _ _ _ keeps | depositForfeited _ _ _ _ keeps =>
    exact allocated.updateBy grows keeps
  | _ => exact allocated.mono grows

theorem entryIds (numbered : Numbered db.ledgerEntries) : Numbered after.ledgerEntries := by
  cases commit with
  | issued | confirmed | manual | voided => exact numbered.appendPostings _
  | creditApplied => exact (numbered.appendPostings _).append _
  | advanceConfirmed | prepaid | depositHeld | depositRefunded => exact numbered.append _
  | depositForfeited => exact (numbered.append _).append _
  | _ => exact numbered

theorem accountUnits (nodup : (db.unitAccounts.map UnitAccount.unitId).Nodup) :
    (after.unitAccounts.map UnitAccount.unitId).Nodup := by
  cases commit with
  | creditApplied => exact incrementAccount_nodup nodup _ _
  | advanceConfirmed | prepaid => exact upsertAccount_nodup nodup _ _ _
  | _ => exact nodup

end

end Commit

/-! ## Payment rows -/

variable {now : Instant} {payment : Payment}

theorem mem_confirming {row : Payment} (mem : row ∈ (confirming now db payment).payments) : ∃ old ∈ db.payments,
      row.id = old.id ∧ row.invoiceId = old.invoiceId ∧ row.amount = old.amount ∧
      (row.status = .pending → old.status = .pending) := by
  obtain ⟨middle, inside, rfl⟩ := mem_updateWhere.mp mem
  obtain ⟨old, found, rfl⟩ := mem_updateWhere.mp inside
  refine ⟨old, found, ?_⟩
  by_cases pick : isPending payment.id old
  · simp only [pick, if_true]
    split <;> simp [succeed]
  · simp only [pick, Bool.false_eq_true, if_false]
    split <;> simp

variable {amount : ℚ} {invoice : Invoice}

theorem owed_of_whole (whole : Whole amount) (pos : 0 < amount)
    (bounded : amount ≤ ((invoice.total - invoice.amountPaid : ℤ) : ℚ) + 1 / 2) :
    invoice.amountPaid < invoice.total := by
  obtain ⟨n, rfl⟩ := whole
  have least : (1 : ℚ) ≤ n := by exact_mod_cast Int.cast_pos.mp pos
  have owed : (0 : ℚ) < ((invoice.total - invoice.amountPaid : ℤ) : ℚ) := by linarith
  exact sub_pos.mp (by exact_mod_cast owed)

namespace Commit

section

variable (commit : Commit db change after)
include commit

theorem payment_origin {row : Payment} (mem : row ∈ after.payments) :
    (∃ old ∈ db.payments, row.id = old.id ∧ row.invoiceId = old.invoiceId ∧ row.amount = old.amount ∧
      (row.status = .pending → old.status = .pending)) ∨
    (row.id = db.nextId ∧ (∃ invoice ∈ db.invoices, row.invoiceId = invoice.id ∧
        invoice.status ≠ .void ∧ (change.Whole → invoice.amountPaid < invoice.total)) ∧
      0 ≤ row.amount ∧ (row.status = .pending → 0 < row.amount)) := by
  cases commit with
  | paymentsMarked quiet =>
    obtain ⟨old, found, rfl⟩ := mem_updateWhere.mp mem
    refine .inl ⟨old, found, ?_⟩
    split
    · rename_i pick
      have same := quiet old found pick
      refine ⟨same.id, same.invoiceId, same.amount, fun pending => ?_⟩
      rcases same.status with status | ⟨_, status | status⟩
      · rw [← status, pending]
      all_goals simp [status] at pending
    · simp
  | @paymentOpened _ _ invoice _ found active owed =>
    rcases mem_append.mp mem with old | new
    · exact .inl ⟨row, old, rfl, rfl, rfl, id⟩
    · rw [mem_singleton] at new
      subst new
      exact .inr ⟨rfl, ⟨invoice, found, rfl, active, fun _ => sub_pos.mp owed⟩, le_of_lt owed, fun _ => owed⟩
  | confirmed => exact .inl (mem_confirming mem)
  | @manual _ _ invoice _ _ _ _ found active pos bounded =>
    rcases mem_append.mp mem with old | new
    · exact .inl ⟨row, old, rfl, rfl, rfl, id⟩
    · rw [mem_singleton] at new
      subst new
      exact .inr ⟨rfl, ⟨invoice, found, rfl, active, fun whole => owed_of_whole whole pos bounded⟩,
        roundHalfAway_nonneg (le_of_lt pos), by simp [manualPayment]⟩
  | @creditApplied _ invoice _ _ _ _ found active pos bounded =>
    rcases mem_append.mp mem with old | new
    · exact .inl ⟨row, old, rfl, rfl, rfl, id⟩
    · rw [mem_singleton] at new
      subst new
      exact .inr ⟨rfl, ⟨invoice, found, rfl, active,
        fun _ => sub_pos.mp (lt_of_lt_of_le pos bounded)⟩, le_of_lt pos, by simp [creditPayment]⟩
  | _ => exact .inl ⟨row, mem, rfl, rfl, rfl, id⟩

theorem invoice_stays {id : Id} (mem : id ∈ db.invoices.map Invoice.id) : id ∈ after.invoices.map Invoice.id := by
  cases commit with
  | issued =>
    rw [map_append]
    exact mem_append_left _ mem
  | confirmed | manual | creditApplied | voided => exact key_mem_updateBy mem fun _ => rfl
  | invoicesMarked quiet =>
    rw [map_updateWhere Invoice.id fun invoice found pick => (quiet invoice found pick).id]
    exact mem
  | _ => exact mem

theorem paymentInvoice (known : ∀ payment ∈ db.payments, payment.invoiceId ∈ db.invoices.map Invoice.id) :
    ∀ payment ∈ after.payments, payment.invoiceId ∈ after.invoices.map Invoice.id := by
  intro row mem
  refine commit.invoice_stays ?_
  rcases commit.payment_origin mem with ⟨old, found, _, invoice, _⟩ | ⟨_, ⟨invoice, found, same, _⟩, _⟩
  · exact invoice ▸ known old found
  · exact same ▸ mem_map_of_mem found

theorem amounts (nonneg : ∀ payment ∈ db.payments, 0 ≤ payment.amount) :
    ∀ payment ∈ after.payments, 0 ≤ payment.amount := by
  intro row mem
  rcases commit.payment_origin mem with ⟨old, found, _, _, amount, _⟩ | ⟨_, _, amount, _⟩
  · exact amount ▸ nonneg old found
  · exact amount

theorem pendingAmounts (pos : ∀ payment ∈ db.payments, payment.status = .pending → 0 < payment.amount) :
    ∀ payment ∈ after.payments, payment.status = .pending → 0 < payment.amount := by
  intro row mem pending
  rcases commit.payment_origin mem with ⟨old, found, _, _, amount, status⟩ | ⟨_, _, _, amount⟩
  · exact amount ▸ pos old found (status pending)
  · exact amount pending

end

end Commit

structure SameInvoice (old new : Invoice) : Prop where
  id : new.id = old.id
  condoId : new.condoId = old.condoId
  unitId : new.unitId = old.unitId
  periodStart : new.periodStart = old.periodStart
  total : new.total = old.total
  lines : new.lines = old.lines

theorem SameInvoice.rfl :
    SameInvoice invoice invoice := ⟨Eq.refl _, Eq.refl _, Eq.refl _, Eq.refl _, Eq.refl _, Eq.refl _⟩

theorem SameInvoice.trans {first second third : Invoice} (left : SameInvoice first second)
    (right : SameInvoice second third) : SameInvoice first third where
  id := right.id.trans left.id
  condoId := right.condoId.trans left.condoId
  unitId := right.unitId.trans left.unitId
  periodStart := right.periodStart.trans left.periodStart
  total := right.total.trans left.total
  lines := right.lines.trans left.lines

namespace Commit

theorem units_eq (commit : Commit db change after) : after.units = db.units := by
  cases commit <;> rfl

theorem invoice_origin (commit : Commit db change after) {row : Invoice} (mem : row ∈ after.invoices) :
    (∃ old ∈ db.invoices, SameInvoice old row) ∨
    (row.id = db.nextId ∧ ∃ draft now, change = .issued draft ∧ row = draft.row now db.nextId) := by
  cases commit with
  | @issued now draft =>
    rcases mem_append.mp mem with old | new
    · exact .inl ⟨row, old, .rfl⟩
    · rw [mem_singleton] at new
      subst new
      exact .inr ⟨rfl, draft, now, rfl, rfl⟩
  | confirmed | manual | creditApplied | voided =>
    obtain ⟨old, found, rfl⟩ := mem_updateBy.mp mem
    refine .inl ⟨old, found, ?_⟩
    split
    · exact ⟨rfl, rfl, rfl, rfl, rfl, rfl⟩
    · exact .rfl
  | invoicesMarked quiet =>
    obtain ⟨old, found, rfl⟩ := mem_updateWhere.mp mem
    refine .inl ⟨old, found, ?_⟩
    split
    · rename_i pick
      have same := quiet old found pick
      exact ⟨same.id, same.condoId, same.unitId, same.periodStart, same.total, same.lines⟩
    · exact .rfl
  | _ => exact .inl ⟨row, mem, .rfl⟩

theorem invoice_kept (commit : Commit db change after) {invoice : Invoice}
    (found : invoice ∈ db.invoices) : ∃ row ∈ after.invoices, SameInvoice invoice row := by
  cases commit with
  | issued => exact ⟨invoice, mem_append_left _ found, .rfl⟩
  | confirmed | manual | creditApplied | voided =>
    refine ⟨_, mem_updateBy.mpr ⟨invoice, found, rfl⟩, ?_⟩
    split
    · exact ⟨rfl, rfl, rfl, rfl, rfl, rfl⟩
    · exact .rfl
  | invoicesMarked quiet =>
    refine ⟨_, mem_updateWhere.mpr ⟨invoice, found, rfl⟩, ?_⟩
    split
    · rename_i pick
      have same := quiet invoice found pick
      exact ⟨same.id, same.condoId, same.unitId, same.periodStart, same.total, same.lines⟩
    · exact .rfl
  | _ => exact ⟨invoice, found, .rfl⟩

end Commit

theorem Commit.sameInvoice (commit : Commit db change after) (wf : WellFormed db)
    {old row : Invoice} (found : old ∈ db.invoices) (mem : row ∈ after.invoices)
    (same : old.id = row.id) : SameInvoice old row := by
  rcases commit.invoice_origin mem with ⟨other, inside, kept⟩ | ⟨new, _⟩
  · rw [wf.invoice_unique found inside (same.trans kept.id)]
    exact kept
  · exact absurd (same.trans new) (ne_of_lt (wf.invoice_id_lt found))

/-! ## What has been paid -/

def succeededSum (chosen : Id → Id → Option String → Bool) (db : Db) : ℤ :=
  sumBy (fun payment => if chosen payment.id payment.invoiceId payment.metadata.method = true ∧
    payment.status = .succeeded then payment.amount else 0) db.payments

structure Settlement where
  paymentId : Id
  invoiceId : Id
  method : Option String
  amount : ℤ

def Change.settlement (db : Db) : Change → Option Settlement
  | .confirmed payment _ => some ⟨payment.id, payment.invoiceId, payment.metadata.method, payment.amount⟩
  | .manual invoice amount method =>
      some ⟨db.nextId, invoice.id, some (method.getD "CASH"), stored amount⟩
  | .creditApplied invoice _ amount => some ⟨db.nextId, invoice.id, some "PREPAYMENT_APPLIED", amount⟩
  | _ => none

def Settlement.amountIf (chosen : Id → Id → Option String → Bool) (settlement : Settlement) : ℤ :=
  if chosen settlement.paymentId settlement.invoiceId settlement.method then settlement.amount else 0

def Change.paidFor (invoiceId : Id) : Change → ℤ
  | .confirmed payment _ => if payment.invoiceId = invoiceId then payment.amount else 0
  | .manual invoice amount _ => if invoice.id = invoiceId then stored amount else 0
  | .creditApplied invoice _ amount => if invoice.id = invoiceId then amount else 0
  | _ => 0

theorem paidSoFar_eq (db : Db) (invoiceId : Id) :
    paidSoFar db invoiceId = succeededSum (fun _ invoice _ => decide (invoice = invoiceId)) db := by
  simp [paidSoFar, sumBy_filter, succeededSum]

theorem QuietPayment.succeeded_iff {old new : Payment} (quiet : QuietPayment old new) :
    new.status = .succeeded ↔ old.status = .succeeded := by
  rcases quiet.status with same | ⟨open_, closed⟩
  · rw [same]
  · rcases open_ with status | status <;> rcases closed with result | result <;> simp [status, result]

theorem QuietAdvance.succeeded_iff {old new : AdvancePayment} (quiet : QuietAdvance old new) :
    new.status = .succeeded ↔ old.status = .succeeded := by
  rcases quiet.status with same | ⟨pending, closed | closed⟩
  · rw [same]
  all_goals simp [pending, closed]

theorem updatePending_eq {payments : List Payment} (nodup : (payments.map Payment.id).Nodup)
    (mem : payment ∈ payments) (pending : payment.status = .pending) (change : Payment → Payment) :
    updateWhere (isPending payment.id) change payments = updateBy Payment.id payment.id change payments := by
  exact updateWhere_eq_updateBy change nodup mem (by simp [isPending, pending])
    fun other pick => (of_decide_eq_true pick).1

theorem sumBy_confirming (now : Instant) (measure : Payment → ℤ) (cancelled : ∀ row : Payment, row.status = .pending →
      measure { row with status := .cancelled } = measure row) (nodup : (db.payments.map Payment.id).Nodup)
    (mem : payment ∈ db.payments) (pending : payment.status = .pending) :
    sumBy measure (confirming now db payment).payments =
      sumBy measure db.payments - measure payment + measure (succeed now payment) := by
  simp only [confirming, Db.updatePayments]
  rw [sumBy_updateWhere_kept, updatePending_eq nodup mem pending, sumBy_updateBy measure nodup mem]
  intro row _ pick
  simp only [isPendingFor, Bool.and_eq_true, decide_eq_true_eq] at pick
  exact cancelled row pick.1.2

namespace Commit

theorem succeededSum_eq (commit : Commit db change after)
    (nodup : (db.payments.map Payment.id).Nodup) (pick : Id → Id → Option String → Bool) :
    succeededSum pick after = succeededSum pick db +
      ((change.settlement db).map (Settlement.amountIf pick)).getD 0 := by
  cases commit with
  | paymentsMarked quiet =>
    refine (sumBy_updateWhere_kept fun payment mem marked => ?_).trans (add_zero _).symm
    have same := quiet payment mem marked
    simp only [same.id, same.invoiceId, same.method, same.amount, same.succeeded_iff]
  | paymentOpened => simp [succeededSum, Db.insertPayment, pendingPayment, Change.settlement]
  | @confirmed now payment invoice receipts nextId mem pending =>
    refine (sumBy_confirming now _ (fun row status => by simp [status]) nodup mem pending).trans ?_
    simp [succeededSum, succeed, pending, Change.settlement, Settlement.amountIf]
  | manual =>
    simp [succeededSum, settledBy, Db.insertPayment, manualPayment, Change.settlement, Settlement.amountIf]
  | creditApplied =>
    simp [succeededSum, settledBy, Db.insertPayment, Db.incrementCredit, Db.record, creditPayment,
      Change.settlement, Settlement.amountIf]
  | _ => exact (add_zero _).symm

theorem paid (commit : Commit db change after) (nodup : (db.payments.map Payment.id).Nodup)
    (invoiceId : Id) : paidSoFar after invoiceId = paidSoFar db invoiceId + change.paidFor invoiceId := by
  rw [paidSoFar_eq, paidSoFar_eq, commit.succeededSum_eq nodup]
  cases change <;> simp [Change.settlement, Settlement.amountIf, Change.paidFor]

end Commit

theorem amountPaid_settled {paid : Db} {rows : List Invoice}
    (others : ∀ row ∈ rows, row.id ≠ invoice.id → row.amountPaid = paidSoFar paid row.id) :
    ∀ row ∈ updateBy Invoice.id invoice.id (settled now (paidSoFar paid invoice.id)) rows,
      row.amountPaid = paidSoFar paid row.id := by
  intro row mem
  obtain ⟨old, found, rfl⟩ := mem_updateBy.mp mem
  by_cases same : old.id = invoice.id
  · simp [same, settled]
  · simpa [same] using others old found same

theorem Commit.amountPaid (commit : Commit db change after) (wf : WellFormed db) :
    ∀ invoice ∈ after.invoices, invoice.amountPaid = paidSoFar after invoice.id := by
  have paid := commit.paid wf.paymentIds.distinct
  have kept : ∀ row ∈ db.invoices, change.paidFor row.id = 0 → row.amountPaid = paidSoFar after row.id :=
    fun row found none => by rw [paid, none, add_zero]; exact wf.amountPaid row found
  cases commit with
  | issued =>
    intro row mem
    rcases mem_append.mp mem with old | new
    · exact kept row old rfl
    · rw [mem_singleton] at new
      subst new
      simp only [InvoiceDraft.row, paidSoFar_eq]
      refine (sumBy_zero _ fun payment found => if_neg ?_).symm
      rintro ⟨same, _⟩
      rw [decide_eq_true_eq] at same
      exact wf.invoiceIds.fresh (same ▸ wf.paymentInvoice payment found)
  | @confirmed now payment invoice receipts nextId mem pending found owner =>
    exact amountPaid_settled fun row inside ne => kept row inside (if_neg fun same => ne (same.symm.trans owner.symm))
  | manual | creditApplied =>
    exact amountPaid_settled fun row inside ne => kept row inside (if_neg fun same => ne same.symm)
  | voided =>
    intro row mem
    obtain ⟨old, found, rfl⟩ := mem_updateBy.mp mem
    have same := kept old found rfl
    split <;> simpa [Billing.voided] using same
  | invoicesMarked quiet =>
    intro row mem
    obtain ⟨old, found, rfl⟩ := mem_updateWhere.mp mem
    have same := kept old found rfl
    split
    · rename_i pick
      have quiet := quiet old found pick
      rw [quiet.amountPaid, quiet.id]
      exact same
    · exact same
  | _ => exact fun row mem => kept row mem rfl

/-! ## Idempotency keys -/

theorem le_stored_add {before : ℤ} (nonneg : 0 ≤ amount) : before ≤ stored (before + amount) := by
  have half : (before : ℚ) - 1 / 2 ≤ before + amount := by linarith
  simp only [stored, roundHalfAway]
  split
  · exact le_roundHalfUp_iff.mpr half
  · rw [le_neg, roundHalfUp_le_iff]
    push_cast
    linarith

variable {paid : ℤ}

theorem settledStatus_void (void : settledStatus invoice paid = .void) :
    invoice.status = .void ∧ paid < invoice.total ∧ paid ≤ 0 := by
  rw [settledStatus] at void
  split at void
  · cases void
  · rename_i unpaid
    split at void
    · cases void
    · rename_i none
      exact ⟨void, not_le.mp unpaid, not_lt.mp none⟩

def Closed (invoice : Invoice) : Prop := invoice.status = .void ∨ 0 < invoice.amountPaid

theorem closed_settled (pos : 0 < paid) : Closed (settled now paid invoice) := .inr pos

namespace Commit

section

variable (commit : Commit db change after)
include commit

theorem paidFor_nonneg (wf : WellFormed db) (invoiceId : Id) : 0 ≤ change.paidFor invoiceId := by
  cases commit with
  | confirmed mem =>
    rw [Change.paidFor]
    split
    · exact wf.amounts _ mem
    · exact le_rfl
  | manual _ _ pos =>
    rw [Change.paidFor]
    split
    · exact roundHalfAway_nonneg (le_of_lt pos)
    · exact le_rfl
  | creditApplied _ _ pos =>
    rw [Change.paidFor]
    split
    · exact le_of_lt pos
    · exact le_rfl
  | _ => exact le_rfl

theorem closed_stays (wf : WellFormed db) {invoice : Invoice}
    (found : invoice ∈ db.invoices) (closed : Closed invoice) :
    ∃ row ∈ after.invoices, row.id = invoice.id ∧ Closed row := by
  have paid := commit.paid wf.paymentIds.distinct invoice.id
  have more := commit.paidFor_nonneg wf invoice.id
  have before := wf.amountPaid invoice found
  cases commit with
  | issued => exact ⟨invoice, mem_append_left _ found, rfl, closed⟩
  | @confirmed now payment target _ _ mem pending targetFound owner =>
    refine ⟨_, mem_updateBy.mpr ⟨invoice, found, rfl⟩, ?_⟩
    by_cases same : invoice.id = target.id
    · obtain rfl := wf.invoice_unique found targetFound same
      have amount := wf.pendingAmounts payment mem pending
      have rest := wf.paidSoFar_nonneg invoice.id
      have total : 0 < paidSoFar (confirming now db payment) invoice.id := by
        refine lt_of_lt_of_eq ?_ paid.symm
        simp only [Change.paidFor, ← owner, if_true]
        omega
      rw [if_pos rfl]
      exact ⟨rfl, closed_settled total⟩
    · rw [if_neg same]
      exact ⟨rfl, closed⟩
  | @manual now actorId target amount dto _ _ targetFound active =>
    refine ⟨_, mem_updateBy.mpr ⟨invoice, found, rfl⟩, ?_⟩
    by_cases same : invoice.id = target.id
    · obtain rfl := wf.invoice_unique found targetFound same
      have pos := closed.resolve_left active
      rw [if_pos rfl]
      refine ⟨rfl, closed_settled (lt_of_lt_of_le pos ?_)⟩
      refine le_of_le_of_eq ?_ paid.symm
      omega
    · rw [if_neg same]
      exact ⟨rfl, closed⟩
  | @creditApplied now target condoId amount _ _ targetFound active =>
    refine ⟨_, mem_updateBy.mpr ⟨invoice, found, rfl⟩, ?_⟩
    by_cases same : invoice.id = target.id
    · obtain rfl := wf.invoice_unique found targetFound same
      have pos := closed.resolve_left active
      rw [if_pos rfl]
      refine ⟨rfl, closed_settled (lt_of_lt_of_le pos ?_)⟩
      refine le_of_le_of_eq ?_ paid.symm
      omega
    · rw [if_neg same]
      exact ⟨rfl, closed⟩
  | voided =>
    refine ⟨_, mem_updateBy.mpr ⟨invoice, found, rfl⟩, ?_⟩
    split
    · exact ⟨rfl, .inl rfl⟩
    · exact ⟨rfl, closed⟩
  | invoicesMarked quiet =>
    refine ⟨_, mem_updateWhere.mpr ⟨invoice, found, rfl⟩, ?_⟩
    split
    · rename_i pick
      have same := quiet invoice found pick
      refine ⟨same.id, closed.imp (fun void => ?_) (fun pos => same.amountPaid ▸ pos)⟩
      rcases same.status with status | ⟨status | status, _⟩
      · rw [status, void]
      all_goals simp [void] at status
    · exact ⟨rfl, closed⟩
  | _ => exact ⟨invoice, found, rfl, closed⟩

theorem succeeded_stays {payment : Payment} (found : payment ∈ db.payments) (succeeded : payment.status = .succeeded) :
    ∃ row ∈ after.payments, row.id = payment.id ∧ row.status = .succeeded := by
  cases commit with
  | paymentsMarked quiet =>
    refine ⟨_, mem_updateWhere.mpr ⟨payment, found, rfl⟩, ?_⟩
    split
    · rename_i pick
      have same := quiet payment found pick
      exact ⟨same.id, same.succeeded_iff.mpr succeeded⟩
    · exact ⟨rfl, succeeded⟩
  | paymentOpened | manual | creditApplied =>
    exact ⟨payment, mem_append_left _ found, rfl, succeeded⟩
  | confirmed =>
    refine ⟨payment, ?_, rfl, succeeded⟩
    refine mem_updateWhere.mpr ⟨payment, mem_updateWhere.mpr ⟨payment, found, ?_⟩, ?_⟩
    · simp [isPending, succeeded]
    · simp [isPendingFor, succeeded]
  | _ => exact ⟨payment, found, rfl, succeeded⟩

theorem advance_stays {advance : AdvancePayment}
    (found : advance ∈ db.advancePayments) (succeeded : advance.status = .succeeded) :
    ∃ row ∈ after.advancePayments, row.id = advance.id ∧ row.status = .succeeded := by
  cases commit with
  | advancesMarked quiet =>
    refine ⟨_, mem_updateWhere.mpr ⟨advance, found, rfl⟩, ?_⟩
    split
    · rename_i pick
      have same := quiet advance found pick
      exact ⟨same.id, same.succeeded_iff.mpr succeeded⟩
    · exact ⟨rfl, succeeded⟩
  | advanceOpened => exact ⟨advance, mem_append_left _ found, rfl, succeeded⟩
  | advanceConfirmed =>
    refine ⟨advance, mem_updateWhere.mpr ⟨advance, found, ?_⟩, rfl, succeeded⟩
    simp [isPendingAdvance, succeeded]
  | _ => exact ⟨advance, found, rfl, succeeded⟩

theorem deposit_stays (nodup : (db.deposits.map Deposit.id).Nodup) {deposit : Deposit}
    (found : deposit ∈ db.deposits) : ∃ row ∈ after.deposits, row.id = deposit.id ∧
      deposit.refundedAmount ≤ row.refundedAmount ∧ deposit.forfeitedAmount ≤ row.forfeitedAmount := by
  cases commit with
  | depositHeld => exact ⟨deposit, mem_append_left _ found, rfl, le_rfl, le_rfl⟩
  | @depositRefunded _ target _ _ change _ _ mem pos _ returned keeps =>
    refine ⟨_, mem_updateBy.mpr ⟨deposit, found, rfl⟩, ?_⟩
    by_cases same : deposit.id = target.id
    · obtain rfl := eq_of_key_eq nodup found mem same
      rw [if_pos rfl, returned.refundedAmount, returned.forfeitedAmount]
      exact ⟨keeps _, le_stored_add (le_of_lt pos), (stored_intCast _).ge⟩
    · rw [if_neg same]
      exact ⟨rfl, le_rfl, le_rfl⟩
  | @depositForfeited _ target _ _ change mem pos _ returned keeps =>
    refine ⟨_, mem_updateBy.mpr ⟨deposit, found, rfl⟩, ?_⟩
    by_cases same : deposit.id = target.id
    · obtain rfl := eq_of_key_eq nodup found mem same
      rw [if_pos rfl, returned.refundedAmount, returned.forfeitedAmount]
      exact ⟨keeps _, (stored_intCast _).ge, le_stored_add (le_of_lt pos)⟩
    · rw [if_neg same]
      exact ⟨rfl, le_rfl, le_rfl⟩
  | _ => exact ⟨deposit, found, rfl, le_rfl, le_rfl⟩

theorem deposit_origin (nodup : (db.deposits.map Deposit.id).Nodup) {row : Deposit} (mem : row ∈ after.deposits) :
    DepositOrigin db change row := by
  cases commit with
  | depositHeld =>
    rcases mem_append.mp mem with old | new
    · exact .kept old rfl rfl
    · exact .recorded _ _ rfl (mem_singleton.mp new)
  | @depositRefunded _ target _ amount _ _ _ found pos bounded returned =>
    obtain ⟨old, inside, rfl⟩ := mem_updateBy.mp mem
    by_cases same : old.id = target.id
    · obtain rfl := eq_of_key_eq nodup inside found same
      rw [if_pos rfl]
      exact .refunded old amount found rfl pos bounded returned
    · rw [if_neg same]
      exact .kept inside (if_neg (Ne.symm same)) rfl
  | @depositForfeited _ target _ amount _ found pos bounded returned =>
    obtain ⟨old, inside, rfl⟩ := mem_updateBy.mp mem
    by_cases same : old.id = target.id
    · obtain rfl := eq_of_key_eq nodup inside found same
      rw [if_pos rfl]
      exact .forfeited old amount found rfl pos bounded returned
    · rw [if_neg same]
      exact .kept inside rfl (if_neg (Ne.symm same))
  | _ => exact .kept mem rfl rfl

theorem returned (wf : WellFormed db) :
    ∀ row ∈ after.deposits, 0 ≤ row.refundedAmount ∧ 0 ≤ row.forfeitedAmount := by
  intro row mem
  cases commit.deposit_origin wf.depositIds.distinct mem with
  | kept found => exact wf.returned row found
  | refunded old amount found _ pos _ returned =>
    obtain ⟨refunded, forfeited⟩ := wf.returned old found
    rw [returned.refundedAmount, returned.forfeitedAmount, stored_intCast]
    exact ⟨refunded.trans (le_stored_add pos.le), forfeited⟩
  | forfeited old amount found _ pos _ returned =>
    obtain ⟨refunded, forfeited⟩ := wf.returned old found
    rw [returned.refundedAmount, returned.forfeitedAmount, stored_intCast]
    exact ⟨refunded, forfeited.trans (le_stored_add pos.le)⟩
  | recorded _ _ _ new =>
    rw [new]
    exact ⟨le_rfl, le_rfl⟩

theorem key_stays (wf : WellFormed db) {key : IdempotencyKey}
    (holds : KeyHolds db key) : KeyHolds after key := by
  have grows := commit.nextId_le
  cases key with
  | invoiceCharge | prepayment | invoicePrepayment | depositHeld => exact lt_of_lt_of_le holds grows
  | invoiceVoid =>
    obtain ⟨invoice, found, same, closed⟩ := holds
    obtain ⟨row, mem, kept, still⟩ := commit.closed_stays wf found closed
    exact ⟨row, mem, kept.trans same, still⟩
  | payment =>
    obtain ⟨payment, found, same, succeeded⟩ := holds
    obtain ⟨row, mem, kept, still⟩ := commit.succeeded_stays found succeeded
    exact ⟨row, mem, kept.trans same, still⟩
  | advancePaymentCredit =>
    obtain ⟨advance, found, same, succeeded⟩ := holds
    obtain ⟨row, mem, kept, still⟩ := commit.advance_stays found succeeded
    exact ⟨row, mem, kept.trans same, still⟩
  | depositRefund =>
    obtain ⟨deposit, found, same, below⟩ := holds
    obtain ⟨row, mem, kept, more, _⟩ :=
      commit.deposit_stays wf.depositIds.distinct found
    exact ⟨row, mem, kept.trans same, below.trans more⟩
  | depositForfeitLiability | depositForfeitIncome =>
    obtain ⟨deposit, found, same, below⟩ := holds
    obtain ⟨row, mem, kept, _, more⟩ :=
      commit.deposit_stays wf.depositIds.distinct found
    exact ⟨row, mem, kept.trans same, below.trans more⟩

end

end Commit

variable {entries : List LedgerEntry}

theorem keyed_appendPosting {posting : LedgerPosting} (old : ∀ entry ∈ entries, Keyed db entry.toLedgerPosting)
    (new : Keyed db posting) : ∀ entry ∈ appendPosting entries posting, Keyed db entry.toLedgerPosting := by
  intro entry mem
  rcases mem_appendPosting mem with before | same
  · exact old entry before
  · exact same ▸ new

theorem keyed_appendPostings {postings : List LedgerPosting} (old : ∀ entry ∈ entries, Keyed db entry.toLedgerPosting)
    (new : ∀ posting ∈ postings, Keyed db posting) :
    ∀ entry ∈ appendPostings entries postings, Keyed db entry.toLedgerPosting := by
  intro entry mem
  rcases mem_appendPostings mem with before | added
  · exact old entry before
  · exact new _ added

theorem Commit.keys (commit : Commit db change after) (wf : WellFormed db) :
    ∀ entry ∈ after.ledgerEntries, Keyed after entry.toLedgerPosting := by
  have old : ∀ entry ∈ db.ledgerEntries, Keyed after entry.toLedgerPosting := by
    intro entry mem
    obtain ⟨⟨key, some, holds⟩, source⟩ := wf.keys entry mem
    exact ⟨⟨key, some, commit.key_stays wf holds⟩, lt_of_lt_of_le source commit.nextId_le⟩
  cases commit with
  | issued =>
    refine keyed_appendPostings old fun posting mem => ?_
    obtain ⟨index, line, _, rfl⟩ := mem_chargePostings mem
    exact ⟨⟨_, rfl, Nat.lt_succ_self _⟩, Nat.lt_succ_self _⟩
  | @confirmed now payment invoice _ _ mem pending _ _ grows =>
    refine keyed_appendPostings old fun posting added => ?_
    obtain ⟨allocation, _, rfl⟩ := mem_paymentPostings added
    have source := lt_of_lt_of_le (wf.payment_id_lt mem) grows
    refine ⟨⟨_, rfl, succeed now payment, ?_, rfl, rfl⟩, source⟩
    refine mem_updateWhere.mpr ⟨succeed now payment, mem_updateWhere.mpr ⟨payment, mem, ?_⟩, ?_⟩
    · simp [isPending, pending]
    · simp [succeed]
  | manual _ _ _ _ grows =>
    refine keyed_appendPostings old fun posting added => ?_
    obtain ⟨allocation, _, rfl⟩ := mem_paymentPostings added
    exact ⟨⟨_, rfl, _, mem_append_right _ (mem_singleton.mpr rfl), rfl, rfl⟩, grows⟩
  | creditApplied found _ _ _ _ grows =>
    refine keyed_appendPosting (keyed_appendPostings old fun posting added => ?_) ?_
    · obtain ⟨allocation, _, rfl⟩ := mem_paymentPostings added
      exact ⟨⟨_, rfl, _, mem_append_right _ (mem_singleton.mpr rfl), rfl, rfl⟩, grows⟩
    · exact ⟨⟨_, rfl, grows⟩, lt_trans (wf.invoice_id_lt found) grows⟩
  | @advanceConfirmed now advance _ _ mem pending grows =>
    have source := lt_of_lt_of_le (wf.advance_id_lt mem) grows
    refine keyed_appendPosting old ⟨⟨_, rfl, succeedAdvance now advance, ?_, rfl, rfl⟩, source⟩
    refine mem_updateWhere.mpr ⟨advance, mem, ?_⟩
    simp [isPendingAdvance, pending]
  | prepaid =>
    exact keyed_appendPosting old ⟨⟨_, rfl, Nat.lt_succ_self _⟩, Nat.lt_succ_self _⟩
  | @voided now invoice _ found =>
    refine keyed_appendPostings old fun posting added => ?_
    obtain ⟨charge, _, _, _, rfl⟩ := mem_voidPostings added
    exact ⟨⟨_, rfl, Billing.voided now invoice, change_mem_updateBy found, rfl, .inl rfl⟩,
      wf.invoice_id_lt found⟩
  | depositHeld grows => exact keyed_appendPosting old ⟨⟨_, rfl, grows⟩, grows⟩
  | @depositRefunded now deposit _ amount change _ _ mem _ _ returned _ grows =>
    refine keyed_appendPosting old
      ⟨⟨_, rfl, change deposit, change_mem_updateBy mem, returned.id, ?_⟩,
        lt_of_lt_of_le (wf.deposit_id_lt mem) grows⟩
    exact returned.refundedAmount.ge
  | @depositForfeited now deposit _ amount change mem _ _ returned =>
    have row : change deposit ∈ (db.updateDeposit deposit.id change).deposits :=
      change_mem_updateBy mem
    have below := returned.forfeitedAmount.ge
    have source := wf.deposit_id_lt mem
    exact keyed_appendPosting
      (keyed_appendPosting old ⟨⟨_, rfl, change deposit, row, returned.id, below⟩, source⟩)
      ⟨⟨_, rfl, change deposit, row, returned.id, below⟩, source⟩
  | _ => exact old

theorem Commit.wellFormed (commit : Commit db change after) (wf : WellFormed db) : WellFormed after where
  invoiceIds := commit.invoiceIds wf.invoiceIds
  paymentIds := commit.paymentIds wf.paymentIds
  advanceIds := commit.advanceIds wf.advanceIds
  depositIds := commit.depositIds wf.depositIds
  accountUnits := commit.accountUnits wf.accountUnits
  entryIds := commit.entryIds wf.entryIds
  paymentInvoice := commit.paymentInvoice wf.paymentInvoice
  amounts := commit.amounts wf.amounts
  pendingAmounts := commit.pendingAmounts wf.pendingAmounts
  amountPaid := commit.amountPaid wf
  returned := commit.returned wf
  keys := commit.keys wf

theorem wellFormed_of_commits {changes : List Change} (run : Run Commit db changes after)
    (wf : WellFormed db) : WellFormed after :=
  run.invariant (fun _ _ _ holds commit => commit.wellFormed holds) wf

end SmartResidence.Billing

/-! ## Where pending and succeeded payments come from -/

namespace SmartResidence.Billing

open Foundation

variable {db after : Db} {change : Change}

structure KeptPending (change : Change) (old row : Payment) : Prop where
  pending : old.status = .pending
  id : old.id = row.id
  invoiceId : old.invoiceId = row.invoiceId
  amount : old.amount = row.amount
  method : old.metadata.method = row.metadata.method
  unsettled : ∀ confirmed later, change = .confirmed confirmed later →
    confirmed.invoiceId ≠ row.invoiceId

structure OpenedPending (db : Db) (invoice : Invoice) (row : Payment) : Prop where
  active : invoice.status ≠ .void
  id : row.id = db.nextId
  invoiceId : row.invoiceId = invoice.id
  amount : row.amount = invoice.total - invoice.amountPaid
  method : row.metadata.method = none
  alone : ∀ payment ∈ db.payments, isPendingFor invoice.id payment = false

variable {row : Payment}

theorem OpenedPending.apart {invoice : Invoice} {old : Payment} (opened : OpenedPending db invoice row)
    (found : old ∈ db.payments) (pending : old.status = .pending) : old.invoiceId ≠ invoice.id := by
  intro owner
  have none := opened.alone old found
  simp [isPendingFor, owner, pending] at none

variable {now : Instant} {payment : Payment}

theorem pending_confirming (mem : row ∈ (confirming now db payment).payments) (status : row.status = .pending) :
    row ∈ db.payments ∧ row.invoiceId ≠ payment.invoiceId := by
  obtain ⟨middle, inside, rfl⟩ := mem_updateWhere.mp mem
  obtain ⟨old, found, rfl⟩ := mem_updateWhere.mp inside
  by_cases own : isPending payment.id old
  · simp only [own, if_true] at status
    split at status <;> cases status
  · simp only [own, Bool.false_eq_true, if_false] at status ⊢
    split at status
    · cases status
    · rename_i kept
      rw [if_neg kept]
      simp only [isPending, status, and_true, decide_eq_true_eq] at own
      simp only [isPendingFor, status, and_true, Bool.and_eq_true, decide_eq_true_eq, not_and, not_not] at kept
      exact ⟨found, fun same => own (kept same)⟩

theorem succeeded_confirming (mem : row ∈ (confirming now db payment).payments) (status : row.status = .succeeded) :
    row ∈ db.payments ∨ row.id = payment.id := by
  obtain ⟨middle, inside, rfl⟩ := mem_updateWhere.mp mem
  obtain ⟨old, found, rfl⟩ := mem_updateWhere.mp inside
  by_cases own : isPending payment.id old
  · have same : old.id = payment.id := (of_decide_eq_true own).1
    simp only [own, if_true]
    split <;> exact .inr same
  · simp only [own, Bool.false_eq_true, if_false] at status ⊢
    split at status
    · cases status
    · rename_i kept
      rw [if_neg kept]
      exact .inl found

namespace Commit

theorem pending_origin (commit : Commit db change after) {row : Payment} (mem : row ∈ after.payments)
    (status : row.status = .pending) : (∃ old ∈ db.payments, KeptPending change old row) ∨
    (∃ invoice ∈ db.invoices, change = .paymentOpened invoice ∧ OpenedPending db invoice row) := by
  cases commit with
  | paymentsMarked quiet =>
    obtain ⟨old, found, rfl⟩ := mem_updateWhere.mp mem
    refine .inl ⟨old, found, ?_⟩
    split at status
    · rename_i pick
      have same := quiet old found pick
      rw [if_pos pick]
      refine ⟨?_, same.id.symm, same.invoiceId.symm, same.amount.symm, same.method.symm, by simp⟩
      rcases same.status with kept | ⟨_, closed | closed⟩
      · rw [← kept, status]
      all_goals simp [closed] at status
    · rename_i other
      rw [if_neg other]
      exact ⟨status, rfl, rfl, rfl, rfl, by simp⟩
  | paymentOpened found active owed alone =>
    rcases mem_append.mp mem with old | new
    · exact .inl ⟨row, old, status, rfl, rfl, rfl, rfl, by simp⟩
    · rw [mem_singleton] at new
      subst new
      exact .inr ⟨_, found, rfl, active, rfl, rfl, rfl, rfl, alone⟩
  | confirmed =>
    obtain ⟨found, apart⟩ := pending_confirming mem status
    refine .inl ⟨row, found, status, rfl, rfl, rfl, rfl, ?_⟩
    rintro _ _ ⟨rfl, rfl⟩
    exact apart.symm
  | manual | creditApplied =>
    rcases mem_append.mp mem with old | new
    · exact .inl ⟨row, old, status, rfl, rfl, rfl, rfl, by simp⟩
    · rw [mem_singleton] at new
      subst new
      cases status
  | _ => exact .inl ⟨row, mem, status, rfl, rfl, rfl, rfl, by simp⟩

end Commit

end SmartResidence.Billing
