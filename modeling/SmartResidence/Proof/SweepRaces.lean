import SmartResidence.Billing.DueSweeps
import SmartResidence.Proof.SessionRules
import SmartResidence.Proof.Requests

/-!
# Due sweeps among payments, credit and voiding
-/

namespace SmartResidence.Billing

open Foundation Foundation.Discipline List

variable {db now after : Db} {held : List Lock} {instant : Instant}

/-! ## Open invoices owe something -/

structure OpenRow (invoice : Invoice) : Prop where
  owed : invoice.status ≠ .paid → invoice.status ≠ .void → 0 < invoice.total →
    invoice.amountPaid < invoice.total
  overdue : invoice.status = .overdue → 0 < invoice.total

theorem OpenRow.outstanding {invoice : Invoice} (row : OpenRow invoice) (overdue : invoice.status = .overdue) :
    invoice.amountPaid < invoice.total :=
  row.owed (by simp [overdue]) (by simp [overdue]) (row.overdue overdue)

def OpenRows (db : Db) : Prop := ∀ invoice ∈ db.invoices, OpenRow invoice

structure OpenBooks (db : Db) : Prop where
  ids : (db.invoices.map Invoice.id).Nodup
  rows : OpenRows db

def SameTotals (before after : Db) : Prop :=
  after.invoices.map (fun invoice => (invoice.id, invoice.total)) =
    before.invoices.map fun invoice => (invoice.id, invoice.total)

def InvoiceKept : Lock → Db → Db → Prop
  | .invoice id, before, after => after.invoice? id = before.invoice? id
  | _, _, _ => True

def openDiscipline : Discipline Db Lock where
  Inv := OpenBooks
  Grows := SameTotals
  Same := InvoiceKept
  grows_refl _ := rfl
  grows_trans first second := Eq.trans second first
  same_refl lock db := by
    cases lock with
    | invoice id => exact rfl
    | _ => exact trivial
  same_trans {lock first second third} one two := by
    cases lock with
    | invoice id => exact Eq.trans two one
    | _ => exact trivial

theorem SameTotals.total (same : SameTotals db after) (ids : (after.invoices.map Invoice.id).Nodup)
    {old new : Invoice} (before : old ∈ db.invoices) (later : new ∈ after.invoices) (id : new.id = old.id) :
    new.total = old.total := by
  have pair : (old.id, old.total) ∈ after.invoices.map fun row => (row.id, row.total) := by
    rw [same]
    exact mem_map_of_mem (f := fun row : Invoice => (row.id, row.total)) before
  obtain ⟨row, found, equal⟩ := mem_map.mp pair
  obtain ⟨rowId, total⟩ := Prod.mk.inj equal
  rw [eq_of_key_eq ids later found (id.trans rowId.symm), total]

theorem neutral_of_invoices {change : Db → Db} (invoices : ∀ db, (change db).invoices = db.invoices) :
    openDiscipline.Neutral change := by
  intro db books
  refine ⟨⟨?_, ?_⟩, ?_, fun lock _ => ?_⟩
  · rw [invoices]
    exact books.ids
  · intro invoice mem
    rw [invoices] at mem
    exact books.rows invoice mem
  · show SameTotals db (change db)
    rw [SameTotals, invoices]
  · cases lock with
    | invoice id =>
      show findBy Invoice.id id (change db).invoices = _
      rw [invoices]
      rfl
    | _ => exact trivial

theorem changed_guarantee {pick : Invoice → Bool} {change : Invoice → Invoice} (books : OpenBooks db)
    (keeps : ∀ row, (change row).id = row.id) (totals : ∀ row, (change row).total = row.total)
    (fits : ∀ row ∈ db.invoices, pick row → OpenRow (change row))
    (locked : ∀ row ∈ db.invoices, pick row → Lock.invoice row.id ∈ held) :
    openDiscipline.Guarantee held db { db with invoices := updateWhere pick change db.invoices } := by
  refine ⟨⟨?_, ?_⟩, ?_, fun lock free => ?_⟩
  · rw [map_updateWhere]
    · exact books.ids
    · exact fun row _ _ => keeps row
  · intro row mem
    obtain ⟨old, found, rfl⟩ := mem_updateWhere.mp mem
    split
    · rename_i picked
      exact fits old found picked
    · exact books.rows old found
  · refine map_updateWhere _ fun row _ _ => ?_
    rw [keeps, totals]
  · cases lock with
    | invoice id =>
      refine findBy_updateWhere_other keeps fun row mem picked same => free ?_
      exact same ▸ locked row mem picked
    | _ => exact trivial

/-! ## The scripts -/

abbrev KeepsOpen {Value : Type} (script : Sql Value) : Prop := openDiscipline.Steady (fun _ _ _ => True) script

section

theorem keepsOpen_recordMany (postings : List LedgerPosting) : KeepsOpen (Sql.recordMany postings) :=
  steady_write _ (neutral_of_invoices fun _ => rfl)

theorem keepsOpen_record (posting : LedgerPosting) : KeepsOpen (Sql.record posting) :=
  steady_write _ (neutral_of_invoices fun _ => rfl)

theorem keepsOpen_issueInTx (input : IssueReceiptInput) : KeepsOpen (Sql.issueInTx input) := by
  refine steady_bind (steady_read _) fun _ => ?_
  refine steady_bind (steady_stop _) fun _ => ?_
  refine steady_bind (steady_write _ neutral_id) fun _ => ?_
  refine steady_bind (steady_newId _ _) fun _ => ?_
  refine steady_bind (steady_statement fun _ => neutral_of_invoices fun _ => rfl) fun _ => ?_
  exact steady_pure _

theorem keepsOpen_insertPayment (row : Id → Payment) : KeepsOpen (Sql.insertPayment row) := by
  refine steady_bind (steady_newId _ _) fun _ => ?_
  refine steady_bind (steady_write _ (neutral_of_invoices fun _ => rfl)) fun _ => ?_
  exact steady_pure _

theorem keepsOpen_updatePayments (pick : Payment → Bool) (change : Payment → Payment) :
    KeepsOpen (Sql.updatePayments pick change) :=
  steady_statement fun _ => neutral_of_invoices fun _ => rfl

theorem keepsOpen_bookPayment (invoice : Invoice) (paymentId : Id) (actorUserId : Option Id) :
    KeepsOpen (Sql.bookPayment instant invoice paymentId actorUserId) := by
  refine steady_bind (steady_read _) fun found => ?_
  cases found with
  | none => exact steady_pure _
  | some payment =>
    refine steady_bind (steady_bind (steady_read _) fun row => ?_) fun _ => ?_
    · cases row with
      | none => exact steady_pure _
      | some invoice => exact keepsOpen_recordMany _
    · split
      · exact steady_pure _
      · exact steady_bind (keepsOpen_issueInTx _) fun _ => steady_pure _

theorem openRow_settled {invoice row : Invoice} {paid : ℤ} (read : OpenRow invoice) (total : row.total = invoice.total) :
    OpenRow (Sql.settledRow instant paid invoice row) := by
  have status : (Sql.settledRow instant paid invoice row).status = settledStatus invoice paid := rfl
  refine ⟨fun unpaid _ _ => ?_, fun overdue => ?_⟩
  · show paid < row.total
    rw [total]
    by_contra reached
    exact unpaid (if_pos (not_lt.mp reached))
  · rw [status, settledStatus] at overdue
    show 0 < row.total
    rw [total]
    split at overdue
    · cases overdue
    · split at overdue
      · cases overdue
      · exact read.overdue overdue

theorem keepsOpen_settleInvoice (invoiceId paymentId : Id) (actorUserId : Option Id) :
    KeepsOpen (Sql.settleInvoice instant invoiceId paymentId actorUserId) := by
  refine steady_bind (steady_read _) fun paid standing sound => ?_
  apply safe_bind
  refine safe_statement fun looked reading _ result found => ?_
  have there := sound looked reading
  have after : openDiscipline.Sound (standing.wrote looked [] id) := sound.neutral reading neutral_id
  cases result with
  | none => exact safe_pure after
  | some invoice =>
    obtain ⟨mem, named⟩ := mem_of_findBy (Except.ok.inj found)
    have books : OpenBooks (standing.pending looked) := there.inv
    apply safe_bind
    refine safe_statement fun written writing _ _ _ => ?_
    refine keepsOpen_bookPayment _ _ _ _ (after.wrote writing fun later rely kept => ?_)
    have laterBooks : OpenBooks (standing.pending later) := kept.inv
    have totals : SameTotals (standing.pending looked) (standing.pending later) := by
      have first : SameTotals looked written := writing.grows
      have second : SameTotals written later := rely.grows
      have third : SameTotals later (standing.pending later) := kept.grows
      have zeroth : SameTotals looked (standing.pending looked) := there.grows
      exact third.trans (second.trans (first.trans (Eq.symm zeroth)))
    refine changed_guarantee laterBooks (fun _ => rfl) (fun _ => rfl) (fun row listed own => ?_) fun row _ own => ?_
    · have same : row.id = invoice.id := (of_decide_eq_true own).trans named.symm
      exact openRow_settled (books.rows invoice mem) (totals.total laterBooks.ids mem listed same)
    · rw [of_decide_eq_true own, ← named]
      exact mem_append_left _ mem_cons_self

theorem keepsOpen_recordManualPayment (actor : AuthenticatedUser) (invoiceId : Id) (dto : RecordManualPaymentDto) :
    KeepsOpen (Sql.recordManualPayment instant actor invoiceId dto) := by
  refine steady_bind (steady_read _) fun _ => ?_
  refine steady_bind (steady_stop _) fun invoice => ?_
  refine steady_bind (steady_stop _) fun _ => ?_
  refine steady_bind (steady_stop _) fun _ => ?_
  refine steady_bind (steady_stop _) fun _ => ?_
  refine steady_bind (steady_stop _) fun _ => ?_
  refine steady_bind (steady_stop _) fun _ => ?_
  apply steady_transaction
  exact steady_bind (keepsOpen_insertPayment _) fun paymentId => keepsOpen_settleInvoice _ _ _

theorem keepsOpen_markPaymentSucceeded (env : Env) (ref : String) :
    KeepsOpen (Sql.markPaymentSucceeded env instant ref) := by
  refine steady_bind (steady_read _) fun found => ?_
  cases found with
  | none => exact steady_pure _
  | some payment =>
    dsimp only
    split
    · exact steady_pure _
    · apply steady_transaction
      refine steady_bind (keepsOpen_updatePayments _ _) fun transitioned => ?_
      split
      · exact steady_pure _
      · refine steady_bind (keepsOpen_updatePayments _ _) fun _ => ?_
        exact steady_bind (steady_read _) fun _ => keepsOpen_settleInvoice _ _ _

theorem keepsOpen_applyCreditToInvoice (invoiceId unitId condoId : Id) :
    KeepsOpen (Sql.applyCreditToInvoice instant invoiceId unitId condoId) := by
  refine steady_bind (steady_read _) fun credit => ?_
  split
  · exact steady_pure _
  · apply steady_transaction
    refine steady_bind (steady_read _) fun current => ?_
    split
    · exact steady_pure _
    · refine steady_bind (steady_read _) fun found => ?_
      cases found with
      | none => exact steady_pure _
      | some invoice =>
        dsimp only
        split
        · exact steady_pure _
        · split
          · exact steady_pure _
          · refine steady_bind (keepsOpen_insertPayment _) fun paymentId => ?_
            refine steady_bind (keepsOpen_settleInvoice _ _ _) fun _ => ?_
            refine steady_bind (steady_statement fun _ => neutral_of_invoices fun _ => rfl) fun _ => ?_
            exact keepsOpen_record _

theorem keepsOpen_applyCreditToOutstanding (unitId condoId : Id) :
    KeepsOpen (Sql.applyCreditToOutstanding instant unitId condoId) := by
  refine steady_bind (steady_read _) fun invoices => ?_
  generalize invoices.map Invoice.id = ids
  induction ids with
  | nil => exact steady_pure _
  | cons invoiceId rest ih =>
    refine steady_bind (steady_read _) fun credit => ?_
    split
    · exact steady_pure _
    · exact steady_bind (keepsOpen_applyCreditToInvoice _ _ _) fun _ => ih

theorem keepsOpen_addCredit (condoId unitId : Id) (amount : ℤ) : KeepsOpen (Sql.addCredit condoId unitId amount) :=
  steady_write _ (neutral_of_invoices fun _ => rfl)

theorem keepsOpen_recordPrepayment (actor : AuthenticatedUser) (dto : RecordPrepaymentDto) :
    KeepsOpen (Sql.recordPrepayment instant actor dto) := by
  refine steady_bind (steady_read _) fun _ => ?_
  refine steady_bind (steady_stop _) fun unit => ?_
  refine steady_bind (steady_stop _) fun _ => ?_
  refine steady_bind (steady_stop _) fun _ => ?_
  refine steady_bind (steady_transaction ?_) fun _ => keepsOpen_applyCreditToOutstanding _ _
  refine steady_bind (keepsOpen_issueInTx _) fun _ => ?_
  exact steady_bind (keepsOpen_record _) fun _ => keepsOpen_addCredit _ _ _

theorem keepsOpen_markAdvancePaymentSucceeded (env : Env) (ref : String) :
    KeepsOpen (Sql.markAdvancePaymentSucceeded env instant ref) := by
  refine steady_bind (steady_read _) fun found => ?_
  cases found with
  | none => exact steady_pure _
  | some advance =>
    dsimp only
    split
    · exact steady_pure _
    · refine steady_bind (steady_transaction ?_) fun updated => ?_
      · refine steady_bind (steady_statement fun _ => neutral_of_invoices fun _ => rfl) fun transitioned => ?_
        split
        · exact steady_pure _
        · refine steady_bind (steady_read _) fun row => ?_
          cases row with
          | none => exact steady_pure _
          | some updated =>
            refine steady_bind (keepsOpen_issueInTx _) fun _ => ?_
            refine steady_bind (keepsOpen_record _) fun _ => ?_
            exact steady_bind (keepsOpen_addCredit _ _ _) fun _ => steady_pure _
      · cases updated with
        | none => exact steady_pure _
        | some updated => exact keepsOpen_applyCreditToOutstanding _ _

theorem keepsOpen_reverseInvoiceCharges (invoice : Invoice) (actorUserId : Option Id) :
    KeepsOpen (Sql.reverseInvoiceCharges instant invoice actorUserId) := by
  refine steady_bind (steady_read _) fun charges => ?_
  generalize charges.map (voidPosting instant invoice actorUserId) = postings
  induction postings with
  | nil => exact steady_pure _
  | cons posting rest ih => exact steady_bind (keepsOpen_record _) fun _ => ih

theorem openRow_void {row : Invoice} (void : row.status = .void) : OpenRow row :=
  ⟨fun _ open_ => absurd void open_, fun overdue => by rw [void] at overdue; cases overdue⟩

theorem keepsOpen_writeVoid (id : Id) {change : Invoice → Invoice} (keeps : ∀ row, (change row).id = row.id)
    (totals : ∀ row, (change row).total = row.total) (void : ∀ row, (change row).status = .void) :
    KeepsOpen (Script.write [.invoice id] fun db => db.changeInvoice id change) := by
  intro standing sound
  refine safe_write fun now writing => sound.wrote writing fun later _ kept => ?_
  refine changed_guarantee kept.inv keeps totals (fun row _ _ => openRow_void (void row)) fun row _ own => ?_
  rw [of_decide_eq_true own]
  exact mem_cons_self

theorem keepsOpen_voidInvoice (actor : AuthenticatedUser) (invoiceId : Id) :
    KeepsOpen (Sql.voidInvoice instant actor invoiceId) := by
  refine steady_bind (steady_read _) fun _ => ?_
  refine steady_bind (steady_stop _) fun invoice => ?_
  refine steady_bind (steady_stop _) fun _ => ?_
  refine steady_bind (steady_stop _) fun _ => ?_
  refine steady_bind (steady_stop _) fun _ => ?_
  split
  · exact steady_pure _
  · apply steady_transaction
    refine steady_bind (keepsOpen_updatePayments _ _) fun _ => ?_
    refine steady_bind (keepsOpen_reverseInvoiceCharges _ _) fun _ => ?_
    exact keepsOpen_writeVoid _ (fun _ => rfl) (fun _ => rfl) fun _ => rfl

theorem keepsOpen_voidUnpaidInvoiceInTx (invoiceId : Id) (actorUserId : Option Id) :
    KeepsOpen (Sql.voidUnpaidInvoiceInTx instant invoiceId actorUserId) := by
  refine steady_bind (steady_read _) fun found => ?_
  cases found with
  | none => exact steady_pure _
  | some invoice =>
    dsimp only
    split
    · exact steady_pure _
    · split
      · exact steady_pure _
      · refine steady_bind (keepsOpen_reverseInvoiceCharges _ _) fun _ => ?_
        refine steady_bind (keepsOpen_writeVoid _ ?_ ?_ ?_) fun _ => steady_pure _
        · exact fun _ => rfl
        · exact fun _ => rfl
        · exact fun _ => rfl

end

/-! ## The sweep itself -/

def StillOwed : SweepStatement → SweptDb → SweptDb → Prop
  | .marksOverdue ids, _, now => ∀ invoice ∈ now.1.invoices, invoice.id ∈ ids →
      invoice.status ≠ .paid ∧ invoice.status ≠ .void ∧ 0 < invoice.total

def MarkedOpen (log : List Marked) : Prop := ∀ marked ∈ log, marked.status ≠ .paid ∧ marked.status ≠ .void

def sweepDiscipline : Discipline SweptDb Lock := openDiscipline.beside MarkedOpen

theorem safe_updateOverdue {standing : Standing SweptDb Lock} {ids : List Id} (idle : standing.pending = id) :
    sweepDiscipline.Safe StillOwed (Upon fun _ after => sweepDiscipline.Sound after)
      (SweepSql.updateOverdue ids) standing := by
  refine safe_statement fun now marking current _ _ later rely => ?_
  have owed := current _ rfl
  have books : OpenBooks later.1 := rely.inv.1
  have same : ∀ invoice ∈ later.1.invoices, invoice.id ∈ ids → invoice ∈ now.1.invoices := by
    intro invoice mem listed
    have locked : Lock.invoice invoice.id ∈ ids.map Lock.invoice ++ standing.held :=
      mem_append_left _ (mem_map_of_mem listed)
    have kept : later.1.invoice? invoice.id = now.1.invoice? invoice.id := rely.same _ locked
    rw [Db.invoice?, findBy_of_mem books.ids mem] at kept
    exact (mem_of_findBy kept.symm).1
  show sweepDiscipline.Guarantee _ later ((standing.pending later).1.markOverdue ids,
    (standing.pending later).2 ++ (standing.pending later).1.markedBy ids)
  rw [idle]
  have guarantee : openDiscipline.Guarantee (ids.map Lock.invoice ++ standing.held) later.1 (later.1.markOverdue ids) := by
    refine changed_guarantee books (fun _ => rfl) (fun _ => rfl) (fun row mem listed => ?_)
      fun row _ listed => mem_append_left _ (mem_map_of_mem (of_decide_eq_true listed))
    have listed := of_decide_eq_true listed
    obtain ⟨unpaid, active, pos⟩ := owed row (same row mem listed) listed
    exact ⟨fun _ _ => (books.rows row mem).owed unpaid active, fun _ => pos⟩
  refine ⟨⟨guarantee.inv, fun marked mem => ?_⟩, guarantee.grows, guarantee.same⟩
  rcases mem_append.mp mem with before | new
  · exact rely.inv.2 marked before
  · obtain ⟨row, pick, rfl⟩ := mem_map.mp new
    obtain ⟨found, listed⟩ := mem_filter.mp pick
    have listed := of_decide_eq_true listed
    obtain ⟨unpaid, active, _⟩ := owed row (same row found listed) listed
    exact ⟨unpaid, active⟩

theorem steady_notifyEach (ids : List Id) : sweepDiscipline.Steady StillOwed (SweepSql.notifyEach instant ids) := by
  induction ids with
  | nil => exact steady_pure _
  | cons id rest ih =>
    refine steady_bind (steady_transaction fun standing sound => ?_) fun _ => ih
    refine safe_write fun now writing => sound.wrote writing fun later _ kept => ?_
    refine .beside kept.inv.2 (changed_guarantee kept.inv.1 (fun _ => rfl) (fun _ => rfl) (fun row mem _ => ?_)
      fun row _ own => ?_)
    · have before := kept.inv.1.rows row mem
      exact ⟨before.owed, before.overdue⟩
    · rw [of_decide_eq_true own]
      exact mem_cons_self

theorem safe_runDueSweep {standing : Standing SweptDb Lock} {actor : AuthenticatedUser} {condoId : Id}
    (idle : standing.pending = id) :
    sweepDiscipline.Safe StillOwed (Upon fun _ _ => True) (SweepSql.runDueSweep instant actor condoId) standing := by
  have rest : ∀ after : Standing SweptDb Lock, sweepDiscipline.Sound after →
      sweepDiscipline.Safe StillOwed (Upon fun _ _ => True)
        (do
          let dueSoon ← Script.read fun both => (both.1.invoices.filter (isDueSoon instant condoId)).map Invoice.id
          SweepSql.notifyEach instant dueSoon) after := by
    intro after sound
    refine (steady_bind (steady_read _) fun dueSoon => steady_notifyEach dueSoon) after sound |>.mono ?_
    rintro (_ | _) _ _
    · exact trivial
    · exact trivial
  apply safe_bind
  cases assertCondoManagement actor condoId true with
  | error failure => exact trivial
  | ok done =>
    apply safe_bind
    refine safe_read fun found reading => ?_
    have still : (standing.wrote found [] id).pending = id := idle
    split
    · apply safe_bind
      exact safe_committing (safe_updateOverdue still) fun _ _ => rest _ (sound_idle rfl)
    · exact rest _ (sound_idle still)

theorem SweepRequest.safe {env : Env} (request : SweepRequest) {start : SweptDb} :
    sweepDiscipline.Safe StillOwed (Upon fun _ _ => True) (request.script env) (.idle start) := by
  have idle : (Standing.idle start.1 : Standing Db Lock).pending = id := rfl
  have one : ∀ script : Sql Unit, KeepsOpen script →
      sweepDiscipline.Safe StillOwed (Upon fun _ _ => True) script.beside (.idle start) :=
    fun script steady => safe_beside ⟨fun _ => rfl, rfl, rfl⟩ (steady.safe idle)
  cases request with
  | runDueSweep now actor condoId => exact safe_runDueSweep rfl
  | recordManualPayment now actor invoiceId dto => exact one _ (keepsOpen_recordManualPayment _ _ _)
  | markPaymentSucceeded now ref => exact one _ (keepsOpen_markPaymentSucceeded _ _)
  | recordPrepayment now actor dto => exact one _ (keepsOpen_recordPrepayment _ _)
  | markAdvancePaymentSucceeded now ref => exact one _ (keepsOpen_markAdvancePaymentSucceeded _ _)
  | applyCreditToInvoice now invoiceId unitId condoId => exact one _ (keepsOpen_applyCreditToInvoice _ _ _)
  | applyCreditToOutstanding now unitId condoId => exact one _ (keepsOpen_applyCreditToOutstanding _ _)
  | voidInvoice now actor invoiceId => exact one _ (keepsOpen_voidInvoice _ _)
  | voidUnpaidInvoiceInTx now invoiceId actorUserId =>
    refine one _ (steady_transaction (steady_bind (keepsOpen_voidUnpaidInvoiceInTx _ _) fun _ => ?_))
    exact steady_pure _

theorem openRow_reset {row : Invoice} (read : OpenRow row) {paid : ℤ} : OpenRow (settled instant paid row) :=
  openRow_settled read rfl

theorem openRows_settled {paid : ℤ} {id : Id} {rows : List Invoice} (books : ∀ invoice ∈ rows, OpenRow invoice) :
    ∀ invoice ∈ updateBy Invoice.id id (settled instant paid) rows, OpenRow invoice := by
  intro row mem
  obtain ⟨old, found, rfl⟩ := mem_updateBy.mp mem
  split
  · exact openRow_reset (books old found)
  · exact books old found

theorem Commit.openRows {change : Change} (commit : Commit db change after) (unmarked : change ≠ .invoicesMarked)
    (books : OpenRows db) : OpenRows after := by
  cases commit with
  | issued =>
    intro row mem
    rcases mem_append.mp mem with old | new
    · exact books row old
    · rw [mem_singleton.mp new]
      exact ⟨fun _ _ pos => pos, fun overdue => by cases overdue⟩
  | confirmed | manual | creditApplied => exact openRows_settled books
  | voided =>
    intro row mem
    obtain ⟨old, found, rfl⟩ := mem_updateBy.mp mem
    split
    · exact openRow_void rfl
    · exact books old found
  | invoicesMarked => exact absurd rfl unmarked
  | _ => exact books

def SweepsOwed (db : Db) (request : Request) : Prop :=
  match request.op with
  | .runDueSweep _ condoId => ∀ invoice ∈ db.invoices, isOverdue request.now condoId invoice → 0 < invoice.total
  | _ => True

theorem markOverdue_openRows {condoId : Id} (ids : (db.invoices.map Invoice.id).Nodup)
    (owed : ∀ invoice ∈ db.invoices, isOverdue instant condoId invoice → 0 < invoice.total)
    (books : OpenRows db) : OpenRows (markOverdue instant condoId db) := by
  intro row mem
  obtain ⟨old, found, rfl⟩ := mem_updateWhere.mp mem
  split
  · rename_i listed
    obtain ⟨other, pick, same⟩ := mem_map.mp (of_decide_eq_true listed)
    obtain ⟨inside, overdue⟩ := mem_filter.mp pick
    obtain rfl := eq_of_key_eq ids inside found same
    have status : other.status = .issued ∨ other.status = .partlyPaid := (of_decide_eq_true overdue).2.1
    refine ⟨fun _ _ => (books other found).owed ?_ ?_, fun _ => owed other inside overdue⟩
    · rcases status with issued | partlyPaid <;> simp [*]
    · rcases status with issued | partlyPaid <;> simp [*]
  · exact books old found

theorem notifyDueSoon_openRows {condoId : Id} (books : OpenRows db) : OpenRows (notifyDueSoon instant condoId db) := by
  intro row mem
  obtain ⟨old, found, rfl⟩ := mem_updateWhere.mp mem
  split
  · exact ⟨(books old found).owed, (books old found).overdue⟩
  · exact books old found

theorem Completes.openRows {env : Env} {request : Request} (done : Completes env db request after)
    (wf : WellFormed db) (owed : SweepsOwed db request) (books : OpenRows db) : OpenRows after := by
  obtain ⟨changes, refines⟩ := Request.refines wf done
  by_cases sweep : ∃ actor condoId, request.op = .runDueSweep actor condoId
  · obtain ⟨actor, condoId, op⟩ := sweep
    obtain ⟨now, _⟩ := request
    obtain rfl := op
    obtain ⟨_, _, same⟩ := bind_eq_ok.mp done
    cases same
    exact notifyDueSoon_openRows (markOverdue_openRows wf.invoiceIds.distinct owed books)
  · refine refines.run.invariant_on (fun change => change ≠ .invoicesMarked) ?_ books ?_
    · exact fun _ _ _ unmarked rows commit => commit.openRows unmarked rows
    · rintro change mem rfl
      exact sweep (refines.arises _ mem)

/-- Some completed operations lead here from a fresh database, sweeps finding invoices of positive totals. -/
def SweptReachable (env : Env) (db : Db) : Prop :=
  ∃ start log, Fresh start ∧ Run (Guarded SweepsOwed (Completes env)) start log db

theorem SweptReachable.openBooks {env : Env} (reachable : SweptReachable env db) : OpenBooks db := by
  obtain ⟨start, log, fresh, run⟩ := reachable
  have initial : Sound OpenRows start := ⟨.fresh fresh, by simp [OpenRows, fresh.invoices]⟩
  have kept : ∀ before request after, Sound OpenRows before →
      Guarded SweepsOwed (Completes env) before request after → Sound OpenRows after :=
    fun _ _ _ sound step => ⟨step.2.wellFormed sound.wellFormed, step.2.openRows sound.wellFormed step.1 sound.holds⟩
  have sound := run.invariant kept initial
  exact ⟨sound.wellFormed.invoiceIds.distinct, sound.holds⟩

structure SweptWell (swept : SweptDb) : Prop where
  outstanding : ∀ invoice ∈ swept.1.invoices, invoice.status = .overdue → invoice.amountPaid < invoice.total
  marked : ∀ marked ∈ swept.2, marked.status ≠ .paid ∧ marked.status ≠ .void

theorem sweeps_respect {Index : Type} [DecidableEq Index] {env : Env} {start : Db} (reachable : SweptReachable env start)
    {requests : Index → SweepRequest} {events : List (Event Index ApiError)}
    {finish : System Index SweptDb Lock SweepStatement ApiError Unit}
    (run : Run (Guarded (fun before event => System.Meets before StillOwed event) System.Step)
      (System.start (start, []) fun who => (requests who).script env) events finish) :
    SweptWell finish.committed := by
  have initial : sweepDiscipline.Inv (start, []) := ⟨reachable.openBooks, fun _ member => absurd member List.not_mem_nil⟩
  obtain ⟨books, marked⟩ := (inv_of_run initial (fun who => (requests who).safe) run : sweepDiscipline.Inv _)
  exact ⟨fun invoice member overdue => (books.rows invoice member).outstanding overdue, marked⟩

/-! ### A sweep and a payment -/

instance (label : SweepStatement) (seen now : SweptDb) : Decidable (StillOwed label seen now) :=
  match label with
  | .marksOverdue ids => inferInstanceAs (Decidable (∀ invoice ∈ now.1.invoices, invoice.id ∈ ids → _))

namespace Sample

def sweptWhilePaid (amount : ℚ) (nonneg : 0 ≤ amount) (who : Fin 2) : SweepRequest :=
  if who.val = 0 then .runDueSweep 1 admin 5
  else .recordManualPayment 2 admin 0 (manual (some amount) nonneg)

def invoiceIssued : Request := ⟨0, .create admin invoice⟩

def sweepSchedule (requests : Fin 2 → SweepRequest)
    (check : System (Fin 2) SweptDb Lock SweepStatement ApiError Unit → Event (Fin 2) ApiError → Bool)
    (events : List (Event (Fin 2) ApiError)) :
    Result (Db × System (Fin 2) SweptDb Lock SweepStatement ApiError Unit) := do
  let start ← runAll env (fun _ _ => true) Sample.db [invoiceIssued]
  let finish ← orThrow ((System.start (start, []) fun who => (requests who).script env).play check events)
    (.failure "Not a schedule")
  return (start, finish)

theorem run_of_sweepSchedule {requests : Fin 2 → SweepRequest}
    {check : System (Fin 2) SweptDb Lock SweepStatement ApiError Unit → Event (Fin 2) ApiError → Bool}
    {events : List (Event (Fin 2) ApiError)} {start : Db}
    {finish : System (Fin 2) SweptDb Lock SweepStatement ApiError Unit}
    (scheduled : sweepSchedule requests check events = .ok (start, finish)) :
    SweptReachable env start ∧ Run (Guarded (fun before event => check before event = true) System.Step)
      (System.start (start, []) fun who => (requests who).script env) events finish := by
  simp only [sweepSchedule, bind_eq_ok, orThrow_eq_ok] at scheduled
  obtain ⟨_, ran, _, played, rfl, rfl⟩ := scheduled
  have unswept : ∀ request ∈ [invoiceIssued], ∀ before, SweepsOwed before request := by
    intro request mem before
    rw [mem_singleton.mp mem]
    exact trivial
  have run : Run (Guarded SweepsOwed (Completes env)) Sample.db [invoiceIssued] _ :=
    (run_of_runAll unswept ran).mono fun before _ _ step => ⟨step.1.1 before, step.2⟩
  exact ⟨⟨Sample.db, _, db_fresh, run⟩, System.run_of_play played⟩

structure SweptFigures where
  invoices : List (Id × ℤ × ℤ × InvoiceStatus)
  marked : List Marked
  done : Bool
  deriving DecidableEq

def sweptFigures (result : Db × System (Fin 2) SweptDb Lock SweepStatement ApiError Unit) : SweptFigures where
  invoices := result.2.committed.1.invoices.map fun row => (row.id, row.total, row.amountPaid, row.status)
  marked := result.2.committed.2
  done := decide (∀ who, (result.2.session who).done = true)

theorem bill_nonneg : (0 : ℚ) ≤ 10000 := by decide +kernel

theorem sweptAfterPaid_schedule : (sweepSchedule (sweptWhilePaid 10000 bill_nonneg) (fun _ _ => true)
      (moves 0 0 1 ++ moves 1 10 4 ++ moves 1 11 10 ++ moves 0 0 3)).map sweptFigures =
        .ok ⟨[(0, 10000, 10000, .overdue)], [⟨0, .paid⟩], true⟩ := by
  decide +kernel

theorem sweptWhilePartlyPaid_schedule : (sweepSchedule (sweptWhilePaid 6000 (by decide +kernel))
      (fun system event => decide (system.Meets StillOwed event))
      (moves 0 0 1 ++ moves 1 10 4 ++ moves 1 11 10 ++ moves 0 0 3)).map sweptFigures =
        .ok ⟨[(0, 10000, 6000, .overdue)], [⟨0, .partlyPaid⟩], true⟩ := by
  decide +kernel

end Sample

theorem sweep_overwrites : ∃ start events, ∃ finish : System (Fin 2) SweptDb Lock SweepStatement ApiError Unit,
    SweptReachable Sample.env start ∧
    Run System.Step (System.start (start, []) fun who =>
      (Sample.sweptWhilePaid 10000 Sample.bill_nonneg who).script Sample.env) events finish ∧
    (∀ who, (finish.session who).done = true) ∧ ⟨0, .paid⟩ ∈ finish.committed.2 ∧
    ∃ invoice ∈ finish.committed.1.invoices, invoice.status = .overdue ∧ invoice.amountPaid = invoice.total := by
  obtain ⟨⟨start, finish⟩, scheduled, figures⟩ := map_eq_ok.mp Sample.sweptAfterPaid_schedule
  obtain ⟨reachable, run⟩ := Sample.run_of_sweepSchedule scheduled
  simp only [Sample.sweptFigures, Sample.SweptFigures.mk.injEq, List.map_eq_singleton_iff, Prod.mk.injEq] at figures
  obtain ⟨⟨invoice, invoices, _, total, amountPaid, status⟩, marked, done⟩ := figures
  refine ⟨start, _, finish, reachable, run.guard_forgotten, of_decide_eq_true done, by simp [marked], invoice,
    by simp [invoices], status, amountPaid.trans total.symm⟩

theorem sweeps_respect_partlyPaid : ∃ start events,
    ∃ finish : System (Fin 2) SweptDb Lock SweepStatement ApiError Unit,
      Run (Guarded (fun before event => System.Meets before StillOwed event) System.Step)
        (System.start (start, []) fun who =>
          (Sample.sweptWhilePaid 6000 (by decide +kernel) who).script Sample.env) events finish ∧
      SweptWell finish.committed ∧ finish.committed.2 = [⟨0, .partlyPaid⟩] := by
  obtain ⟨⟨start, finish⟩, scheduled, figures⟩ := map_eq_ok.mp Sample.sweptWhilePartlyPaid_schedule
  obtain ⟨reachable, run⟩ := Sample.run_of_sweepSchedule scheduled
  have met := run.mono fun _ _ _ step => And.imp_left of_decide_eq_true step
  simp only [Sample.sweptFigures, Sample.SweptFigures.mk.injEq] at figures
  exact ⟨start, _, finish, met, sweeps_respect reachable met, figures.2.1⟩

end SmartResidence.Billing
