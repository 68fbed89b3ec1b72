import SmartResidence.Proof.Requests

/-!
# Void invoices stay void
-/

namespace SmartResidence.Billing

open Foundation List

variable {env : Env} {db after : Db} {change : Change}

def VoidsClosed (db : Db) : Prop :=
  ∀ invoice ∈ db.invoices, invoice.status = .void → invoice.amountPaid = 0 ∧
    ∀ payment ∈ db.payments, isPendingFor invoice.id payment = false

def Change.KeepsVoid : Change → Prop
  | .voided _ pendingLeft => pendingLeft = false
  | _ => True

structure StaysVoid (db : Db) (invoice : Invoice) (after : Db) (row : Invoice) : Prop where
  member : row ∈ after.invoices
  id : row.id = invoice.id
  status : row.status = .void
  unpaid : row.amountPaid = 0
  succeeded : ∀ payment ∈ after.payments, payment.invoiceId = invoice.id → payment.status = .succeeded →
    ∃ old ∈ db.payments, old.id = payment.id ∧ old.invoiceId = payment.invoiceId ∧
      old.status = .succeeded

variable {invoice : Invoice}

theorem StaysVoid.start (closed : VoidsClosed db) (found : invoice ∈ db.invoices) (void : invoice.status = .void) :
    StaysVoid db invoice db invoice :=
  ⟨found, rfl, void, (closed invoice found void).1, fun payment member _ succeeded =>
    ⟨payment, member, rfl, rfl, succeeded⟩⟩

theorem StaysVoid.trans {middle : Db} {row last : Invoice} (first : StaysVoid db invoice middle row)
    (second : StaysVoid middle row after last) : StaysVoid db invoice after last where
  member := second.member
  id := second.id.trans first.id
  status := second.status
  unpaid := second.unpaid
  succeeded := by
    intro payment member owner succeeded
    obtain ⟨old, found, id, target, earlier⟩ :=
      second.succeeded payment member (owner.trans first.id.symm) succeeded
    obtain ⟨oldest, known, oldId, oldTarget, earliest⟩ :=
      first.succeeded old found (target.trans owner) earlier
    exact ⟨oldest, known, oldId.trans id, oldTarget.trans target, earliest⟩

namespace Commit

variable (commit : Commit db change after) (wellFormed : WellFormed db)
include commit wellFormed

theorem succeeded_origin (closed : VoidsClosed db) {row : Payment} (member : row ∈ after.payments)
    (succeeded : row.status = .succeeded) :
    (∃ old ∈ db.payments, old.id = row.id ∧ old.invoiceId = row.invoiceId ∧ old.status = .succeeded) ∨
      ∃ invoice ∈ db.invoices, invoice.id = row.invoiceId ∧ invoice.status ≠ .void := by
  cases commit with
  | paymentsMarked quiet =>
    obtain ⟨old, found, rfl⟩ := mem_updateWhere.mp member
    refine .inl ⟨old, found, ?_⟩
    split at succeeded
    · rename_i pick
      have same := quiet old found pick
      rw [if_pos pick]
      exact ⟨same.id.symm, same.invoiceId.symm, same.succeeded_iff.mp succeeded⟩
    · rename_i other
      rw [if_neg other]
      exact ⟨rfl, rfl, succeeded⟩
  | paymentOpened =>
    rcases mem_append.mp member with old | new
    · exact .inl ⟨row, old, rfl, rfl, succeeded⟩
    · rw [mem_singleton] at new
      subst new
      cases succeeded
  | @confirmed now payment invoice _ _ inside pending found owner =>
    have active : invoice.status ≠ .void := fun void => by
      have none := (closed invoice found void).2 payment inside
      simp [isPendingFor, owner, pending] at none
    obtain ⟨middle, mem, rfl⟩ := mem_updateWhere.mp member
    obtain ⟨old, known, rfl⟩ := mem_updateWhere.mp mem
    by_cases own : isPending payment.id old
    · have same : old.id = payment.id := (of_decide_eq_true own).1
      obtain rfl := wellFormed.payment_unique known inside same
      refine .inr ⟨invoice, found, ?_, active⟩
      simp only [own, if_true]
      split <;> exact owner
    · simp only [own, Bool.false_eq_true, if_false] at succeeded ⊢
      split at succeeded
      · cases succeeded
      · rename_i kept
        rw [if_neg kept]
        exact .inl ⟨old, known, rfl, rfl, succeeded⟩
  | manual found active | creditApplied found active =>
    rcases mem_append.mp member with old | new
    · exact .inl ⟨row, old, rfl, rfl, succeeded⟩
    · rw [mem_singleton] at new
      subst new
      exact .inr ⟨_, found, rfl, active⟩
  | _ => exact .inl ⟨row, member, rfl, rfl, succeeded⟩

variable {invoice : Invoice}

theorem void_kept (closed : VoidsClosed db) (found : invoice ∈ db.invoices) (void : invoice.status = .void) :
    ∃ row ∈ after.invoices, row.id = invoice.id ∧ row.status = .void ∧ row.amountPaid = 0 := by
  have unpaid := (closed invoice found void).1
  have other : ∀ target ∈ db.invoices, target.status ≠ .void → ∀ update : Invoice → Invoice,
      invoice ∈ updateBy Invoice.id target.id update db.invoices := by
    intro target mem active update
    refine mem_updateBy.mpr ⟨invoice, found, (if_neg fun same => ?_).symm⟩
    exact active (wellFormed.invoice_unique found mem same ▸ void)
  cases commit with
  | issued => exact ⟨invoice, mem_append_left _ found, rfl, void, unpaid⟩
  | @confirmed now payment target _ _ member pending mem owner =>
    have active : target.status ≠ .void := fun isVoid => by
      have none := (closed target mem isVoid).2 payment member
      simp [isPendingFor, owner, pending] at none
    exact ⟨invoice, other target mem active _, rfl, void, unpaid⟩
  | manual mem active | creditApplied mem active | voided mem active =>
    exact ⟨invoice, other _ mem active _, rfl, void, unpaid⟩
  | invoicesMarked quiet =>
    refine ⟨_, mem_updateWhere.mpr ⟨invoice, found, rfl⟩, ?_⟩
    split
    · rename_i pick
      have same := quiet invoice found pick
      refine ⟨same.id, ?_, same.amountPaid.trans unpaid⟩
      rcases same.status with status | ⟨status | status, _⟩
      · exact status.trans void
      all_goals simp [void] at status
    · exact ⟨rfl, void, unpaid⟩
  | _ => exact ⟨invoice, found, rfl, void, unpaid⟩

theorem stays_void (closed : VoidsClosed db) (found : invoice ∈ db.invoices) (void : invoice.status = .void) :
    ∃ row, StaysVoid db invoice after row := by
  obtain ⟨row, member, same, status, unpaid⟩ := commit.void_kept wellFormed closed found void
  refine ⟨row, member, same, status, unpaid, fun payment inside owner succeeded => ?_⟩
  rcases commit.succeeded_origin wellFormed closed inside succeeded with old | ⟨other, mem, id, active⟩
  · exact old
  · exact absurd (wellFormed.invoice_unique mem found (id.trans owner) ▸ void) active

theorem newly_void {old row : Invoice} (found : old ∈ db.invoices) (member : row ∈ after.invoices)
    (same : old.id = row.id) (active : old.status ≠ .void) (void : row.status = .void) :
    row.amountPaid = 0 ∧ after.payments = db.payments ∧
      change = .voided old (db.payments.any (isPendingFor old.id)) := by
  have still : ∀ now paid, (settled now paid old).status ≠ .void := fun now paid status =>
    active (settledStatus_void status).1
  have kept : ∀ rows, row ∈ rows → rows = db.invoices → row = old := by
    rintro rows mem rfl
    exact wellFormed.invoice_unique mem found same.symm
  cases commit with
  | issued =>
    rcases mem_append.mp member with before | new
    · exact absurd (kept _ before rfl ▸ void) active
    · rw [mem_singleton] at new
      subst new
      cases void
  | confirmed | manual | creditApplied =>
    obtain ⟨other, mem, rfl⟩ := mem_updateBy.mp member
    split at same
    · rename_i target
      obtain rfl := wellFormed.invoice_unique found mem same
      rw [if_pos target] at void
      exact absurd void (still _ _)
    · rename_i apart
      rw [if_neg apart] at void
      obtain rfl := wellFormed.invoice_unique found mem same
      exact absurd void active
  | @voided now invoice _ target _ unpaid =>
    obtain ⟨other, mem, rfl⟩ := mem_updateBy.mp member
    split at same
    · rename_i pick
      obtain rfl := wellFormed.invoice_unique found mem same
      obtain rfl := wellFormed.invoice_unique found target pick
      have paid := wellFormed.paidSoFar_nonneg old.id
      rw [← wellFormed.amountPaid old found] at paid
      rw [if_pos rfl]
      exact ⟨le_antisymm unpaid paid, rfl, rfl⟩
    · rename_i apart
      rw [if_neg apart] at void
      obtain rfl := wellFormed.invoice_unique found mem same
      exact absurd void active
  | invoicesMarked quiet =>
    obtain ⟨other, mem, rfl⟩ := mem_updateWhere.mp member
    split at void
    · rename_i pick
      have marked := quiet other mem pick
      rw [if_pos pick, marked.id] at same
      obtain rfl := wellFormed.invoice_unique found mem same
      rcases marked.status with status | ⟨_, status⟩
      · exact absurd (status ▸ void) active
      · rw [status] at void
        cases void
    · rename_i apart
      rw [if_neg apart] at same
      obtain rfl := wellFormed.invoice_unique found mem same
      exact absurd void active
  | _ => exact absurd (kept _ member rfl ▸ void) active

theorem voidsClosed (keeps : change.KeepsVoid) (closed : VoidsClosed db) : VoidsClosed after := by
  intro row member void
  rcases commit.invoice_origin member with ⟨old, found, same⟩ | ⟨_, draft, now, _, rfl⟩
  · by_cases active : old.status = .void
    · obtain ⟨kept, inside, id, _, unpaid⟩ := commit.void_kept wellFormed closed found active
      rw [(commit.wellFormed wellFormed).invoice_unique member inside (same.id.trans id.symm)]
      refine ⟨unpaid, fun payment mem => ?_⟩
      rw [isPendingFor, decide_eq_false_iff_not, id]
      rintro ⟨owner, pending⟩
      rcases commit.pending_origin mem pending with ⟨before, known, still⟩ | ⟨invoice, known, _, opened⟩
      · have none := (closed old found active).2 before known
        simp [isPendingFor, still.pending, still.invoiceId, owner] at none
      · exact opened.active (wellFormed.invoice_unique known found
          (opened.invoiceId.symm.trans owner) ▸ active)
    · obtain ⟨unpaid, payments, rfl⟩ := commit.newly_void wellFormed found member same.id.symm active void
      refine ⟨unpaid, fun payment mem => ?_⟩
      rw [payments] at mem
      rw [same.id]
      exact Bool.eq_false_iff.mpr (any_eq_false.mp keeps payment mem)
  · cases void

end Commit

def KeepsVoid (db : Db) (request : Request) : Prop :=
  ∀ invoice ∈ request.voids db, ∀ actorUserId, request.op = .voidUnpaidInvoiceInTx invoice.id actorUserId →
    db.payments.any (isPendingFor invoice.id) = false

variable {request : Request}

theorem Arises.keepsVoid (arises : Arises env db request change) (keeps : KeepsVoid db request) : change.KeepsVoid := by
  cases change with
  | voided invoice pendingLeft =>
    obtain ⟨voids, left⟩ := arises
    cases pendingLeft with
    | false => rfl
    | true =>
      obtain ⟨actorUserId, op, pending⟩ := left rfl
      rw [keeps invoice voids actorUserId op] at pending
      cases pending
  | _ => trivial

structure VoidInvariant (db : Db) : Prop where
  wellFormed : WellFormed db
  closed : VoidsClosed db

theorem VoidInvariant.commit (holds : VoidInvariant db) (commit : Commit db change after)
    (keeps : change.KeepsVoid) : VoidInvariant after :=
  ⟨commit.wellFormed holds.wellFormed, commit.voidsClosed holds.wellFormed keeps holds.closed⟩

structure VoidSince (start : Db) (invoice : Invoice) (db : Db) : Prop where
  holds : VoidInvariant db
  stays : ∃ row, StaysVoid start invoice db row

variable {start : Db}

theorem VoidSince.commit (since : VoidSince start invoice db) (commit : Commit db change after)
    (keeps : change.KeepsVoid) : VoidSince start invoice after := by
  obtain ⟨row, stays⟩ := since.stays
  obtain ⟨last, still⟩ :=
    commit.stays_void since.holds.wellFormed since.holds.closed stays.member stays.status
  exact ⟨since.holds.commit commit keeps, last, stays.trans still⟩

theorem VoidInvariant.step (holds : VoidInvariant db) (keeps : KeepsVoid db request)
    (done : Completes env db request after) : VoidInvariant after := by
  obtain ⟨changes, refines⟩ := Request.refines holds.wellFormed done
  exact Run.invariant_on Change.KeepsVoid (fun _ _ _ keeps holds commit => holds.commit commit keeps) holds
    refines.run fun change member => (refines.arises change member).keepsVoid keeps

theorem VoidSince.step (since : VoidSince start invoice db) (keeps : KeepsVoid db request)
    (done : Completes env db request after) : VoidSince start invoice after := by
  obtain ⟨changes, refines⟩ := Request.refines since.holds.wellFormed done
  exact Run.invariant_on Change.KeepsVoid (fun _ _ _ keeps since commit => since.commit commit keeps) since
    refines.run fun change member => (refines.arises change member).keepsVoid keeps

/-- Where the second void path leaves no payment pending, a void invoice stays void and unpaid. -/
theorem void_is_terminal {start : Db} {log more : List Request} (fresh : Fresh start)
    (run : Run (Guarded KeepsVoid (Completes env)) start log db)
    (later : Run (Guarded KeepsVoid (Completes env)) db more after) {invoice : Invoice}
    (found : invoice ∈ db.invoices) (void : invoice.status = .void) :
    ∃ row, StaysVoid db invoice after row := by
  have closed : VoidsClosed start := by simp [VoidsClosed, fresh.invoices]
  have holds : VoidInvariant db :=
    run.invariant (fun _ _ _ holds step => holds.step step.1 step.2) ⟨.fresh fresh, closed⟩
  have since : VoidSince db invoice after :=
    later.invariant (fun _ _ _ since step => since.step step.1 step.2)
      ⟨holds, invoice, .start holds.closed found void⟩
  exact since.stays

theorem void_is_terminal_after_report : ∃ log more db after,
    Run (Guarded KeepsVoid (Completes Sample.env)) Sample.db log db ∧
    Run (Guarded KeepsVoid (Completes Sample.env)) db more after ∧
      ∃ invoice ∈ db.invoices, ∃ row, StaysVoid db invoice after row := by
  let log : List Request := [⟨0, .create Sample.admin Sample.invoice⟩,
    ⟨1, .createPayment Sample.admin 0 .fpx⟩, ⟨2, .voidInvoice Sample.admin 0⟩]
  let more : List Request := [⟨3, .markPaymentSucceeded Sample.fpxRef⟩]
  have first : (runAll Sample.env (fun _ _ => true) Sample.db log).map
      (fun db => (db.invoices.map Invoice.status,
        (runAll Sample.env (fun _ _ => true) db more).map fun _ => ())) = .ok ([.void], .ok ()) := by
    decide +kernel
  obtain ⟨db, ran, ends⟩ := map_eq_ok.mp first
  simp only [Prod.mk.injEq] at ends
  obtain ⟨after, again, _⟩ := map_eq_ok.mp ends.2
  have keeps : ∀ request ∈ log ++ more, ∀ id actorUserId, request.op ≠ .voidUnpaidInvoiceInTx id actorUserId := by
    simp [log, more]
  have allowed : ∀ db request, (∀ id actorUserId, request.op ≠ .voidUnpaidInvoiceInTx id actorUserId) →
      KeepsVoid db request := fun _ _ other invoice _ actorUserId op => absurd op (other invoice.id actorUserId)
  have run : Run (Guarded KeepsVoid (Completes Sample.env)) Sample.db log db :=
    (run_of_runAll (fun request member => keeps request (List.mem_append_left _ member)) ran).mono
      fun _ _ _ step => ⟨allowed _ _ step.1.1, step.2⟩
  have later : Run (Guarded KeepsVoid (Completes Sample.env)) db more after :=
    (run_of_runAll (fun request member => keeps request (List.mem_append_right _ member)) again).mono
      fun _ _ _ step => ⟨allowed _ _ step.1.1, step.2⟩
  obtain ⟨invoice, found, void⟩ := List.mem_map.mp (ends.1 ▸ List.mem_singleton.mpr rfl)
  exact ⟨log, more, db, after, run, later, invoice, found,
    void_is_terminal Sample.db_fresh run later found void⟩

theorem void_revived : ¬ ∀ (env : Env) (start db after : Db) (log more : List Request), Fresh start →
    Run (Completes env) start log db → Run (Completes env) db more after →
    ∀ invoice ∈ db.invoices, invoice.status = .void → ∃ row, StaysVoid db invoice after row := by
  intro terminal
  let log : List Request := [⟨0, .create Sample.admin Sample.invoice⟩,
    ⟨1, .createPayment Sample.admin 0 .fpx⟩, ⟨2, .voidUnpaidInvoiceInTx 0 none⟩]
  let more : List Request := [⟨3, .markPaymentSucceeded Sample.fpxRef⟩]
  have first : (runAll Sample.env (fun _ _ => true) Sample.db log).map
      (fun db => (db.invoices.map Invoice.status,
        (runAll Sample.env (fun _ _ => true) db more).map fun after => after.invoices.map Invoice.status)) =
        .ok ([.void], .ok [.paid]) := by
    decide +kernel
  obtain ⟨db, ran, ends⟩ := map_eq_ok.mp first
  simp only [Prod.mk.injEq] at ends
  obtain ⟨after, again, paid⟩ := map_eq_ok.mp ends.2
  obtain ⟨invoice, found, void⟩ := List.mem_map.mp (ends.1 ▸ List.mem_singleton.mpr rfl)
  obtain ⟨row, stays⟩ := terminal Sample.env Sample.db db after log more Sample.db_fresh
    (completes_of_runAll ran) (completes_of_runAll again) invoice found void
  have status : row.status ∈ after.invoices.map Invoice.status := List.mem_map_of_mem stays.member
  rw [paid, List.mem_singleton, stays.status] at status
  cases status

end SmartResidence.Billing
