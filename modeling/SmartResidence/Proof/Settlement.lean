import SmartResidence.Proof.Postings

/-!
# No invoice is paid beyond its total
-/

namespace SmartResidence.Billing

open Foundation

variable {env : Env} {db after : Db} {change : Change}

def succeededBefore (db : Db) (invoiceId id : Id) : ℤ :=
  succeededSum (fun paymentId invoice _ => decide (invoice = invoiceId ∧ paymentId < id)) db

structure PaysExactly (db : Db) : Prop where
  bounded : ∀ invoice ∈ db.invoices, paidSoFar db invoice.id ≤ invoice.total
  frozen : ∀ payment ∈ db.payments, payment.status = .pending → ∀ invoice ∈ db.invoices,
    invoice.id = payment.invoiceId →
      payment.amount + succeededBefore db invoice.id payment.id = invoice.total
  single : ∀ payment ∈ db.payments, ∀ other ∈ db.payments, payment.status = .pending →
    other.status = .pending → payment.invoiceId = other.invoiceId → payment.id = other.id

theorem PaysExactly.fresh (empty : Fresh db) : PaysExactly db where
  bounded := by simp [empty.invoices]
  frozen := by simp [empty.payments]
  single := by simp [empty.payments]

theorem succeededBefore_nextId (wellFormed : WellFormed db) (invoiceId : Id) :
    succeededBefore db invoiceId db.nextId = paidSoFar db invoiceId := by
  rw [paidSoFar_eq]
  refine sumBy_congr fun payment found => ?_
  have older := wellFormed.payment_id_lt found
  simp [older]

theorem paidSoFar_split (wellFormed : WellFormed db) {payment : Payment} (mem : payment ∈ db.payments)
    (pending : payment.status = .pending) : paidSoFar db payment.invoiceId =
      succeededBefore db payment.invoiceId payment.id + succeededAfter db payment := by
  rw [paidSoFar_eq, succeededBefore, succeededSum, succeededSum, succeededAfter, sumBy_filter, ← sumBy_add]
  refine sumBy_congr fun row found => ?_
  by_cases succeeded : row.status = .succeeded ∧ row.invoiceId = payment.invoiceId
  · have ne : row.id ≠ payment.id := by
      intro same
      rw [wellFormed.payment_unique found mem same, pending] at succeeded
      cases succeeded.1
    rcases lt_or_gt_of_ne ne with older | newer
    · simp [older, not_lt.mpr (le_of_lt older)]
    · simp [newer, not_lt.mpr (le_of_lt newer)]
  · have unpaid : ¬ (row.invoiceId = payment.invoiceId ∧ row.status = .succeeded) :=
      fun both => succeeded both.symm
    have notOlder : ¬ (row.invoiceId = payment.invoiceId ∧ row.id < payment.id ∧
        row.status = .succeeded) := fun all => unpaid ⟨all.1, all.2.2⟩
    have notNewer : ¬ (row.invoiceId = payment.invoiceId ∧ row.status = .succeeded ∧
        payment.id < row.id) := fun all => unpaid ⟨all.1, all.2.1⟩
    simp [unpaid, and_assoc, notOlder, notNewer]

theorem stored_le {amount : ℚ} {n : ℤ} (pos : 0 < amount) (below : amount < (n : ℚ) + 1 / 2) : stored amount ≤ n := by
  rw [stored, roundHalfAway_of_nonneg (le_of_lt pos)]
  exact roundHalfUp_le_iff.mpr below

def Change.KeepsTotal : Change → Prop
  | .issued draft => 0 ≤ draft.subtotal
  | .confirmed _ later => later = 0
  | .manual invoice amount _ => amount < ((invoice.total - invoice.amountPaid : ℤ) : ℚ) + 1 / 2
  | _ => True

namespace Commit

variable (commit : Commit db change after) (wellFormed : WellFormed db)
include commit wellFormed

theorem bounded (keeps : change.KeepsTotal) (pays : PaysExactly db) :
    ∀ invoice ∈ after.invoices, paidSoFar after invoice.id ≤ invoice.total := by
  have known : ∀ old ∈ db.invoices, paidSoFar db old.id + change.paidFor old.id ≤ old.total := by
    intro old found
    have before := pays.bounded old found
    have paid := wellFormed.amountPaid old found
    cases commit with
    | @confirmed now payment invoice _ _ mem pending =>
      rw [Change.paidFor]
      split
      · rename_i owner
        have asked := pays.frozen payment mem pending old found owner.symm
        have none : succeededAfter db payment = 0 := keeps
        have split_ := paidSoFar_split wellFormed mem pending
        rw [owner] at split_
        omega
      · omega
    | @manual now actorId invoice amount dto _ _ target _ pos =>
      rw [Change.paidFor]
      split
      · rename_i same
        obtain rfl := wellFormed.invoice_unique target found same
        have below : stored amount ≤ invoice.total - invoice.amountPaid := stored_le pos keeps
        omega
      · omega
    | @creditApplied now invoice _ amount _ _ target _ _ below =>
      rw [Change.paidFor]
      split
      · rename_i same
        obtain rfl := wellFormed.invoice_unique target found same
        omega
      · omega
    | _ => exact le_of_eq_of_le (add_zero _) before
  intro row mem
  rcases commit.invoice_origin mem with ⟨old, found, same⟩ | ⟨new, draft, now, rfl, rfl⟩
  · rw [same.id, same.total, commit.paid wellFormed.paymentIds.distinct]
    exact known old found
  · rw [← (commit.wellFormed wellFormed).amountPaid _ mem]
    exact roundHalfAway_nonneg keeps

theorem succeededBefore_kept {payment : Payment} (found : payment ∈ db.payments)
    (apart : ∀ confirmed later, change = .confirmed confirmed later → confirmed.invoiceId ≠ payment.invoiceId) :
    succeededBefore after payment.invoiceId payment.id = succeededBefore db payment.invoiceId payment.id := by
  have older := wellFormed.payment_id_lt found
  rw [succeededBefore, commit.succeededSum_eq wellFormed.paymentIds.distinct]
  cases change with
  | confirmed other later =>
    simp [Change.settlement, Settlement.amountIf, apart other later rfl, succeededBefore]
  | manual | creditApplied =>
    simp [Change.settlement, Settlement.amountIf, not_lt.mpr (le_of_lt older), succeededBefore]
  | _ => simp [Change.settlement, succeededBefore]

theorem frozen (pays : PaysExactly db) : ∀ payment ∈ after.payments, payment.status = .pending →
    ∀ invoice ∈ after.invoices, invoice.id = payment.invoiceId →
      payment.amount + succeededBefore after invoice.id payment.id = invoice.total := by
  intro row mem status invoice inside owner
  rcases commit.pending_origin mem status with ⟨old, found, kept⟩ | ⟨target, found, rfl, opened⟩
  · obtain ⟨known, listed, same⟩ := List.mem_map.mp (wellFormed.paymentInvoice old found)
    have asked := pays.frozen old found kept.pending known listed same
    have older := commit.succeededBefore_kept wellFormed found fun other later confirmed =>
      kept.invoiceId.symm ▸ kept.unsettled other later confirmed
    have total := (commit.sameInvoice wellFormed listed inside
      (same.trans (kept.invoiceId.trans owner.symm))).total
    rw [total, ← asked, owner, ← kept.invoiceId, ← kept.id, older, same, kept.amount]
  · have paid := wellFormed.amountPaid target found
    have none : succeededBefore after target.id db.nextId = succeededBefore db target.id db.nextId := by
      rw [succeededBefore, commit.succeededSum_eq wellFormed.paymentIds.distinct]
      simp [Change.settlement, succeededBefore]
    have total := (commit.sameInvoice wellFormed found inside
      (opened.invoiceId.symm.trans owner.symm)).total
    rw [owner, opened.invoiceId, opened.id, none, succeededBefore_nextId wellFormed, opened.amount]
    omega

omit wellFormed in
theorem single (pays : PaysExactly db) : ∀ payment ∈ after.payments, ∀ other ∈ after.payments,
    payment.status = .pending → other.status = .pending → payment.invoiceId = other.invoiceId →
      payment.id = other.id := by
  intro row mem other also pending otherPending same
  rcases commit.pending_origin mem pending with ⟨first, found, kept⟩ | ⟨invoice, _, _, opened⟩ <;>
  rcases commit.pending_origin also otherPending with ⟨second, inside, stays⟩ | ⟨target, _, _, started⟩
  · rw [← kept.id, ← stays.id]
    exact pays.single first found second inside kept.pending stays.pending
      (kept.invoiceId.trans (same.trans stays.invoiceId.symm))
  · exact absurd (kept.invoiceId.trans (same.trans started.invoiceId)) (started.apart found kept.pending)
  · exact absurd (stays.invoiceId.trans (same.symm.trans opened.invoiceId))
      (opened.apart inside stays.pending)
  · rw [opened.id, started.id]

theorem paysExactly (keeps : change.KeepsTotal) (pays : PaysExactly db) : PaysExactly after where
  bounded := commit.bounded wellFormed keeps pays
  frozen := commit.frozen wellFormed pays
  single := commit.single pays

end Commit

/-- Nothing has been paid since the payment it confirms was opened, and it takes no half sen too much. -/
structure KeepsTotal (env : Env) (db : Db) (request : Request) : Prop where
  confirms : ∀ payment ∈ request.confirms env db, payment.status = .pending →
    succeededAfter db payment = 0
  manual : ∀ actor invoiceId dto, request.op = .recordManualPayment actor invoiceId dto →
    ∀ invoice ∈ db.invoice? invoiceId,
      manualAmount invoice dto < ((invoice.total - invoice.amountPaid : ℤ) : ℚ) + 1 / 2

theorem Arises.keepsTotal {request : Request} (arises : Arises env db request change)
    (keeps : KeepsTotal env db request) : change.KeepsTotal := by
  cases change with
  | issued draft =>
    refine List.sum_nonneg fun amount mem => ?_
    obtain ⟨line, inside, rfl⟩ := List.mem_map.mp mem
    exact arises.lines_nonneg line inside
  | confirmed payment later =>
    obtain ⟨row, confirms, pending, _, _, _, rfl⟩ := arises
    exact keeps.confirms row confirms pending
  | manual invoice amount method =>
    obtain ⟨actor, dto, op, read, rfl, _⟩ := arises
    exact keeps.manual actor invoice.id dto op invoice read
  | _ => trivial

structure SettlementInvariant (db : Db) : Prop where
  wellFormed : WellFormed db
  pays : PaysExactly db

theorem SettlementInvariant.step {request : Request} (holds : SettlementInvariant db)
    (keeps : KeepsTotal env db request) (done : Completes env db request after) : SettlementInvariant after := by
  obtain ⟨changes, refines⟩ := Request.refines holds.wellFormed done
  refine Run.invariant_on Change.KeepsTotal ?_ holds refines.run fun change mem =>
    (refines.arises change mem).keepsTotal keeps
  rintro before change next keeps ⟨wellFormed, pays⟩ commit
  exact ⟨commit.wellFormed wellFormed, commit.paysExactly wellFormed keeps pays⟩

/-- Where no payment is confirmed after others have been made, no invoice is overpaid. -/
theorem amountPaid_le_total {start : Db} {log : List Request} (fresh : Fresh start)
    (run : Run (Guarded (KeepsTotal env) (Completes env)) start log db) {invoice : Invoice}
    (found : invoice ∈ db.invoices) :
    invoice.amountPaid = paidSoFar db invoice.id ∧ invoice.amountPaid ≤ invoice.total := by
  have holds : SettlementInvariant db :=
    run.invariant (fun _ _ _ holds step => holds.step step.1 step.2) ⟨.fresh fresh, .fresh fresh⟩
  have paid := holds.wellFormed.amountPaid invoice found
  exact ⟨paid, paid ▸ holds.pays.bounded invoice found⟩

theorem amountPaid_le_total_gateway : ∃ log db,
    Run (Guarded (KeepsTotal Sample.env) (Completes Sample.env)) Sample.db log db ∧
      ∃ invoice ∈ db.invoices, (invoice.amountPaid = paidSoFar db invoice.id ∧
        invoice.amountPaid ≤ invoice.total) ∧ invoice.amountPaid = 10000 := by
  let log : List Request := [⟨0, .create Sample.admin Sample.invoice⟩,
    ⟨1, .createPayment Sample.admin 0 .fpx⟩, ⟨2, .markPaymentSucceeded Sample.fpxRef⟩]
  let check : Db → Request → Bool := fun db request =>
    decide (∀ payment ∈ request.confirms Sample.env db, payment.status = .pending →
      succeededAfter db payment = 0)
  have ends : (runAll Sample.env check Sample.db log).map (fun db => db.invoices.map Invoice.amountPaid) =
      .ok [10000] := by
    decide +kernel
  have noManual : ∀ request ∈ log, ∀ actor invoiceId dto,
      request.op ≠ .recordManualPayment actor invoiceId dto := by
    simp [log]
  obtain ⟨db, ran, paid⟩ := map_eq_ok.mp ends
  have run : Run (Guarded (KeepsTotal Sample.env) (Completes Sample.env)) Sample.db log db := by
    refine (run_of_runAll noManual ran).mono ?_
    rintro before request after ⟨⟨manual, confirms⟩, done⟩
    exact ⟨⟨of_decide_eq_true confirms, fun actor id dto op => absurd op (manual actor id dto)⟩, done⟩
  obtain ⟨invoice, found, amount⟩ := List.mem_map.mp (paid ▸ List.mem_singleton.mpr rfl)
  exact ⟨log, db, run, invoice, found, amountPaid_le_total Sample.db_fresh run found, amount⟩

theorem amountPaid_twice : ¬ ∀ (env : Env) (start db : Db) (log : List Request), Fresh start →
    Run (Completes env) start log db → ∀ invoice ∈ db.invoices,
      invoice.amountPaid = paidSoFar db invoice.id ∧ invoice.amountPaid ≤ invoice.total := by
  intro never
  let log : List Request := [⟨0, .create Sample.admin Sample.invoice⟩,
    ⟨1, .createPayment Sample.admin 0 .fpx⟩,
    ⟨2, .recordManualPayment Sample.admin 0 (Sample.manual none (by decide +kernel))⟩,
    ⟨3, .markPaymentSucceeded Sample.fpxRef⟩]
  have ends : (runAll Sample.env (fun _ _ => true) Sample.db log).map
      (fun db => db.invoices.map fun invoice => (invoice.total, invoice.amountPaid)) =
        .ok [(10000, 20000)] := by
    decide +kernel
  obtain ⟨db, ran, paid⟩ := map_eq_ok.mp ends
  have run : Run (Completes Sample.env) Sample.db log db := completes_of_runAll ran
  obtain ⟨invoice, found, figures⟩ := List.mem_map.mp (paid ▸ List.mem_singleton.mpr rfl)
  have bounded := (never Sample.env Sample.db db log Sample.db_fresh run invoice found).2
  simp only [Prod.mk.injEq] at figures
  omega

end SmartResidence.Billing
