import Mathlib.Data.List.Sort
import SmartResidence.Proof.Refinement

/-!
# The commits of each operation
-/

open List

namespace SmartResidence.Billing

open Foundation

variable {env : Env} {db : Db} {ref : String}

variable {Row : Type}

variable {createdAt : Row → Instant}

theorem mem_newestFirst {rows : List Row} {row : Row} : row ∈ newestFirst createdAt rows ↔ row ∈ rows := by
  simp [newestFirst]

theorem findPaymentByProviderRef_mem {payment : Payment}
    (found : findPaymentByProviderRef env db ref = some payment) : payment ∈ db.payments := by
  simp only [findPaymentByProviderRef, Option.or_eq_some_iff] at found
  rcases found with direct | ⟨_, byBillRef | ⟨_, byUuid⟩⟩
  · exact mem_of_find?_eq_some direct
  · split at byBillRef
    · have mem := mem_of_mem_take (mem_of_find?_eq_some byBillRef)
      exact mem_of_mem_filter (mem_newestFirst.mp mem)
    · cases byBillRef
  · split at byUuid
    · exact mem_of_find?_eq_some byUuid
    · cases byUuid

theorem findAdvancePaymentByProviderRef_mem {advance : AdvancePayment}
    (found : findAdvancePaymentByProviderRef env db ref = some advance) : advance ∈ db.advancePayments := by
  simp only [findAdvancePaymentByProviderRef, Option.or_eq_some_iff] at found
  rcases found with direct | ⟨_, byBillRef | ⟨_, byUuid⟩⟩
  · exact mem_of_find?_eq_some direct
  · split at byBillRef
    · have mem := mem_of_mem_take (mem_of_find?_eq_some byBillRef)
      exact mem_of_mem_filter (mem_newestFirst.mp mem)
    · cases byBillRef
  · split at byUuid
    · exact mem_of_find?_eq_some byUuid
    · cases byUuid

structure SameReference (old new : Payment) : Prop where
  id : new.id = old.id
  provider : new.provider = old.provider
  providerRef : new.providerRef = old.providerRef
  status : new.status = old.status
  createdAt : new.createdAt = old.createdAt

theorem newestFirst_map {change : Row → Row} (kept : ∀ row, createdAt (change row) = createdAt row) (rows : List Row) :
    newestFirst createdAt (rows.map change) = (newestFirst createdAt rows).map change := by
  simp only [newestFirst, ← map_reverse]
  refine (map_insertionSort _ _ change _ fun first _ second _ => ?_).symm
  simp only [kept]

theorem findPaymentByProviderRef_map {change : Payment → Payment} (same : ∀ row, SameReference row (change row)) :
    findPaymentByProviderRef env { db with payments := db.payments.map change } ref =
      (findPaymentByProviderRef env db ref).map change := by
  have direct : (db.payments.map change).find? (fun row => decide (row.providerRef = some ref)) =
      (db.payments.find? fun row => decide (row.providerRef = some ref)).map change := by
    rw [List.find?_map]
    simp only [Function.comp_def, (same _).providerRef]
  have pending : (db.payments.map change).filter (fun row =>
        decide (row.provider = .duitnowQr ∧ row.status = .pending)) =
      (db.payments.filter fun row => decide (row.provider = .duitnowQr ∧ row.status = .pending)).map change := by
    rw [filter_map]
    simp only [Function.comp_def, (same _).provider, (same _).status]
  have byUuid : (db.payments.map change).find? (fun row =>
        decide (row.providerRef = some (hyphenated ref) ∨ env.uuid row.id = hyphenated ref)) =
      (db.payments.find? fun row =>
        decide (row.providerRef = some (hyphenated ref) ∨ env.uuid row.id = hyphenated ref)).map change := by
    rw [List.find?_map]
    simp only [Function.comp_def, (same _).providerRef, (same _).id]
  simp only [findPaymentByProviderRef, direct, pending, byUuid,
    newestFirst_map fun row => (same row).createdAt, ← map_take, List.find?_map, Function.comp_def,
    (same _).id]
  by_cases billRef : isHex 30 ref <;> by_cases uuid : isHex 32 ref <;>
    simp only [billRef, uuid, if_true, if_false, Bool.false_eq_true, Option.map_or, Option.map_none]

end SmartResidence.Billing

namespace SmartResidence.Billing

open Foundation

/-! ## Which changes a request can make -/

def Request.drafts (db : Db) (request : Request) : List InvoiceDraft :=
  match request.op with
  | .create _ dto => (db.unit? dto.unitId).toList.map fun unit => dto.draft unit.condoId
  | .createInvoiceInTx opts => [opts.draft request.now]
  | .generateRecurring _ condoId dto _ =>
      (plannedBills db condoId dto).map fun plan => plan.draft condoId dto
  | _ => []

def Request.confirms (env : Env) (db : Db) (request : Request) : Option Payment :=
  match request.op with
  | .markPaymentSucceeded ref => findPaymentByProviderRef env db ref
  | .approveReviewedPayment _ paymentId => (db.payment? paymentId).bind fun payment =>
      findPaymentByProviderRef env db (payment.providerRef.getD "")
  | _ => none

def isVoidable (invoice : Invoice) : Bool :=
  decide (invoice.status ≠ .void ∧ invoice.status ≠ .paid ∧ invoice.amountPaid ≤ 0)

def Request.voids (db : Db) (request : Request) : Option Invoice :=
  match request.op with
  | .voidInvoice _ invoiceId => (db.invoice? invoiceId).filter isVoidable
  | .voidUnpaidInvoiceInTx invoiceId _ => (db.invoice? invoiceId).filter isVoidable
  | _ => none

def Request.prepayment? (db : Db) (request : Request) : Option (Id × ℚ) :=
  match request.op with
  | .recordPrepayment _ dto => (db.unit? dto.unitId).map fun unit => (unit.condoId, dto.amount)
  | _ => none

def Request.appliesCredit (env : Env) (db : Db) (request : Request) : Option (Id × Id) :=
  match request.op with
  | .recordPrepayment _ dto => (db.unit? dto.unitId).map fun unit => (unit.id, unit.condoId)
  | .markAdvancePaymentSucceeded ref => (findAdvancePaymentByProviderRef env db ref).map fun advance =>
      (advance.unitId, advance.condoId)
  | .applyCreditToOutstanding unitId => (db.unit? unitId).map fun unit => (unit.id, unit.condoId)
  | _ => none

def Change.prepayment? : Change → Option (Id × ℚ)
  | .prepaid condoId _ amount => some (condoId, amount)
  | _ => none

def Arises (env : Env) (db : Db) (request : Request) : Change → Prop
  | .issued draft => draft ∈ request.drafts db
  | .confirmed payment later => ∃ row, request.confirms env db = some row ∧
      row.status = .pending ∧ payment.id = row.id ∧ payment.invoiceId = row.invoiceId ∧
      payment.amount = row.amount ∧ later = succeededAfter db row
  | .manual invoice amount method => ∃ actor dto, request.op = .recordManualPayment actor invoice.id dto ∧
      db.invoice? invoice.id = some invoice ∧ amount = manualAmount invoice dto ∧ method = dto.method
  | .creditApplied invoice condoId _ => condoId = invoice.condoId ∨
      ∃ unitId, request.appliesCredit env db = some (unitId, condoId) ∧
        ∃ old ∈ outstandingInvoices db unitId, SameInvoice old invoice
  | .advanceOpened amount => ∃ actor dto, request.op = .createAdvancePayment actor dto ∧
      amount = dto.amount
  | .advanceConfirmed advance => ∃ ref, request.op = .markAdvancePaymentSucceeded ref ∧
      findAdvancePaymentByProviderRef env db ref = some advance ∧ advance.status = .pending
  | .prepaid _ _ amount => ∃ actor dto, request.op = .recordPrepayment actor dto ∧ amount = dto.amount
  | .voided invoice pendingLeft => request.voids db = some invoice ∧
      (pendingLeft → ∃ actorUserId, request.op = .voidUnpaidInvoiceInTx invoice.id actorUserId ∧
        db.payments.any (isPendingFor invoice.id))
  | .depositHeld _ _ amount =>
      (∃ actor dto, request.op = .depositRecord actor dto ∧ amount = dto.amount ∧ 0 < amount) ∨
      ∃ input, request.op = .depositRecordInTx input ∧ amount = input.amount
  | .depositRefunded deposit amount =>
      (∃ actorUserId, request.op = .refundHeldInTx deposit.id actorUserId ∧
        amount = depositHeldAmount deposit) ∨
      ∃ actor dto, request.op = .depositRefund actor deposit.id dto ∧
        amount = (refundFigures deposit dto).amount
  | .depositForfeited deposit amount => ∃ actor dto, request.op = .depositRefund actor deposit.id dto ∧
      amount = (refundFigures deposit dto).amount ∧ dto.forfeit ∧ db.deposit? deposit.id = some deposit
  | .invoicesMarked => ∃ actor condoId, request.op = .runDueSweep actor condoId
  | _ => True

structure Refines (env : Env) (db : Db) (request : Request) (changes : List Change) (after : Db) :
    Prop where
  run : Run Commit db changes after
  arises : ∀ change ∈ changes, Arises env db request change
  prepayments : changes.filterMap Change.prepayment? = (request.prepayment? db).toList

variable {env : Env} {db after : Db} {request : Request} {now : Instant}

namespace Refines

theorem nothing (silent : request.prepayment? db = none) : Refines env db request [] db :=
  ⟨.done, by simp, by simp [silent]⟩

theorem one {change : Change} (commit : Commit db change after) (arises : Arises env db request change)
    (counted : change.prepayment? = request.prepayment? db) : Refines env db request [change] after := by
  refine ⟨.single commit, by simpa using arises, ?_⟩
  rw [← counted]
  cases h : change.prepayment? <;> simp [h]

variable {middle : Db} {changes : List Change} {condoId : Id}

theorem then_credit {credits : List Change} {owned : Invoice → Prop} (first : Refines env db request changes middle)
    (run : Run Commit middle credits after) (of : CreditsOf owned condoId credits)
    (arises : ∀ invoice amount, owned invoice → Arises env db request (.creditApplied invoice condoId amount)) :
    Refines env db request (changes ++ credits) after := by
  refine ⟨first.run.trans run, fun change mem => ?_, ?_⟩
  · rcases mem_append.mp mem with own | credit
    · exact first.arises change own
    · obtain ⟨invoice, amount, owner, rfl⟩ := of change credit
      exact arises invoice amount owner
  · have none : credits.filterMap Change.prepayment? = [] := by
      rw [filterMap_eq_nil_iff]
      intro change mem
      obtain ⟨invoice, amount, _, rfl⟩ := of change mem
      rfl
    rw [filterMap_append, none, append_nil]
    exact first.prepayments

theorem then_outstanding {unitId : Id} (first : Refines env db request changes middle) (wellFormed : WellFormed middle)
    (same : middle.invoices = db.invoices) (applies : request.appliesCredit env db = some (unitId, condoId))
    (done : applyCreditToOutstanding now middle unitId condoId = .ok after) :
    ∃ changes, Refines env db request changes after := by
  obtain ⟨credits, run, of⟩ := applyCreditToOutstanding_commits wellFormed done
  refine ⟨_, first.then_credit run of fun invoice amount owned => .inr ⟨unitId, applies, ?_⟩⟩
  simpa only [outstandingInvoices, same] using owned

end Refines

variable {id : Id} {invoice : Invoice}

theorem getInvoice_found {actor : Option AuthenticatedUser} (read : getInvoice db id actor = .ok invoice) :
    db.invoice? id = some invoice := by
  simp only [getInvoice, bind_eq_ok, orThrow_eq_ok, pure_eq_ok] at read
  obtain ⟨_, found, _, _, rfl⟩ := read
  exact found

theorem invoice_kept {changes : List Change} (run : Run Commit db changes after) (found : invoice ∈ db.invoices) :
    ∃ row ∈ after.invoices, SameInvoice invoice row := by
  induction run with
  | done => exact ⟨invoice, found, .rfl⟩
  | snoc _ commit ih =>
    obtain ⟨middle, inside, same⟩ := ih
    obtain ⟨row, mem, kept⟩ := commit.invoice_kept inside
    exact ⟨row, mem, same.trans kept⟩

/-! ## Issuing -/

variable {actor : AuthenticatedUser}

theorem create_refines (wellFormed : WellFormed db) {dto : CreateInvoiceDto}
    (done : create now db actor dto = .ok (after, invoice)) :
    ∃ changes, Refines env db ⟨now, .create actor dto⟩ changes after := by
  simp only [create, bind_eq_ok, orThrow_eq_ok, Prod.exists] at done
  obtain ⟨unit, read, _, _, issued, _, issue, applied, apply, rfl, rfl⟩ := done
  obtain ⟨commit, rfl, mem⟩ := issueInvoice_commit issue
  have first : Refines env db ⟨now, .create actor dto⟩ [.issued (dto.draft unit.condoId)] issued :=
    .one commit (by simp [Arises, Request.drafts, read]) rfl
  have middle := commit.wellFormed wellFormed
  have own : ∀ other ∈ issued.invoices, other.id = db.nextId → other.unitId = dto.unitId ∧
      other.condoId = unit.condoId := by
    intro other inside same
    obtain rfl := middle.invoice_unique inside mem same
    exact ⟨rfl, rfl⟩
  obtain ⟨credits, run, of⟩ := applyCreditToInvoice_commits middle own apply
  exact ⟨_, first.then_credit run of fun invoice amount owned => .inl owned.symm⟩

theorem createInvoiceInTx_refines {opts : CreateInvoiceInTxOpts}
    (done : createInvoiceInTx now db opts = .ok (after, invoice)) :
    ∃ changes, Refines env db ⟨now, .createInvoiceInTx opts⟩ changes after := by
  obtain ⟨commit, _⟩ := issueInvoice_commit done
  exact ⟨_, .one commit (by simp [Arises, Request.drafts]) rfl⟩

variable {dto : GenerateRecurringDto} {condoId : Id} {actorUserId : Option Id} {plans : List PlannedBill}

theorem issueChunk_commits (wellFormed : WellFormed db) {rows : List CreatedInvoice}
    (done : issueChunk now condoId dto actorUserId db plans = .ok (after, rows)) :
    ∃ changes, Run Commit db changes after ∧
      (∀ change ∈ changes, ∃ plan ∈ plans, change = .issued (plan.draft condoId dto)) ∧
      ∀ row ∈ rows, (∃ plan ∈ plans, plan.unitId = row.unitId) ∧
        ∃ invoice ∈ after.invoices, invoice.id = row.invoiceId ∧ invoice.unitId = row.unitId ∧
          invoice.condoId = condoId := by
  induction plans generalizing db rows with
  | nil =>
    obtain ⟨rfl, rfl⟩ := done
    exact ⟨[], .done, by simp, by simp⟩
  | cons plan rest ih =>
    simp only [issueChunk, bind_eq_ok, Prod.exists] at done
    obtain ⟨issued, invoice, issue, finished, more, others, rfl, rfl⟩ := done
    obtain ⟨commit, rfl, mem⟩ := issueInvoice_commit issue
    obtain ⟨changes, run, drafts, owners⟩ := ih (commit.wellFormed wellFormed) others
    refine ⟨_, run.cons commit, fun change inside => ?_, fun row inside => ?_⟩
    · rcases mem_cons.mp inside with rfl | later
      · exact ⟨plan, by simp, rfl⟩
      · obtain ⟨other, listed, same⟩ := drafts change later
        exact ⟨other, mem_cons_of_mem _ listed, same⟩
    · rcases mem_cons.mp inside with rfl | later
      · refine ⟨⟨plan, by simp, rfl⟩, ?_⟩
        obtain ⟨row, found, same⟩ := invoice_kept run mem
        exact ⟨row, found, same.id, same.unitId, same.condoId⟩
      · obtain ⟨⟨other, listed, same⟩, invoice⟩ := owners row later
        exact ⟨⟨other, mem_cons_of_mem _ listed, same⟩, invoice⟩

def RecurringChanges (db : Db) (condoId : Id) (dto : GenerateRecurringDto) (changes : List Change) : Prop :=
  ∀ change ∈ changes, (∃ plan ∈ plannedBills db condoId dto, change = .issued (plan.draft condoId dto)) ∨
    ∃ invoice amount, invoice.condoId = condoId ∧ change = .creditApplied invoice condoId amount

variable {start : Db} {existing : List Id} {chunk : List PlannedBill}

theorem recurringChunk_commits (wellFormed : WellFormed db) {tally counted : RecurringTally}
    (planned : ∀ plan ∈ chunk, plan ∈ plannedBills start condoId dto)
    (done : recurringChunk now condoId dto actorUserId existing (db, tally) chunk = .ok (after, counted)) :
    ∃ changes, Run Commit db changes after ∧ RecurringChanges start condoId dto changes := by
  have nothing : ∃ changes, Run Commit db changes db ∧ RecurringChanges start condoId dto changes :=
    ⟨[], .done, by simp [RecurringChanges]⟩
  have inChunk : ∀ plan ∈ pendingBills existing chunk, plan ∈ plannedBills start condoId dto :=
    fun plan mem => planned plan (mem_of_mem_filter mem)
  simp only [recurringChunk] at done
  split at done
  · split at done
    · obtain ⟨rfl, _⟩ := done
      exact nothing
    · cases done
  · rename_i issued rows issue
    obtain ⟨drafts, run, fromPlans, owners⟩ := issueChunk_commits wellFormed issue
    have middle := wellFormed_of_commits run wellFormed
    have owned : ∀ row ∈ rows, ∀ invoice ∈ issued.invoices, invoice.id = row.invoiceId →
        invoice.unitId = row.unitId ∧ invoice.condoId = condoId := fun row mem other inside same => by
      obtain ⟨invoice, found, id, unit, condo⟩ := (owners row mem).2
      rw [middle.invoice_unique inside found (same.trans id.symm)]
      exact ⟨unit, condo⟩
    obtain ⟨credits, later, of⟩ := @creditCreated_commits _ now _ middle _ owned
    have both : ∃ changes, Run Commit db changes (creditCreated now condoId issued rows).db ∧
        RecurringChanges start condoId dto changes := by
      refine ⟨_, run.trans later, fun change mem => ?_⟩
      rcases mem_append.mp mem with draft | credit
      · obtain ⟨plan, listed, same⟩ := fromPlans change draft
        exact .inl ⟨plan, inChunk plan listed, same⟩
      · exact .inr (of change credit)
    split at done
    · obtain ⟨rfl, _⟩ := done
      exact both
    · split at done
      · obtain ⟨rfl, _⟩ := done
        exact both
      · cases done

theorem mem_chunks (listed : chunk ∈ chunks plans) {plan : PlannedBill} (mem : plan ∈ chunk) : plan ∈ plans := by
  obtain ⟨i, _, rfl⟩ := mem_map.mp listed
  exact mem_of_mem_drop (mem_of_mem_take mem)

theorem recurringChunks_commits {remaining : List (List PlannedBill)}
    (planned : ∀ chunk ∈ remaining, ∀ plan ∈ chunk, plan ∈ plannedBills start condoId dto)
    {progress finish : Db × RecurringTally} (wellFormed : WellFormed progress.1)
    (done : remaining.foldlM (recurringChunk now condoId dto actorUserId existing) progress = .ok finish) :
    ∃ changes, Run Commit progress.1 changes finish.1 ∧ RecurringChanges start condoId dto changes := by
  induction remaining generalizing progress with
  | nil =>
    cases done
    exact ⟨[], .done, by simp [RecurringChanges]⟩
  | cons chunk rest ih =>
    rw [foldlM_cons, bind_eq_ok] at done
    obtain ⟨⟨middle, counted⟩, first, others⟩ := done
    obtain ⟨changes, run, sound⟩ :=
      recurringChunk_commits wellFormed (planned chunk (by simp)) first
    obtain ⟨more, later, alsoSound⟩ :=
      ih (fun other mem => planned other (mem_cons_of_mem _ mem))
        (wellFormed_of_commits run wellFormed) others
    exact ⟨changes ++ more, run.trans later, fun change mem =>
      (mem_append.mp mem).elim (sound change) (alsoSound change)⟩

theorem generateRecurring_refines (wellFormed : WellFormed db) {actor : Option AuthenticatedUser}
    {options : GenerateRecurringOptions} {result : RecurringResult}
    (done : generateRecurring now db actor condoId dto options = .ok (after, result)) :
    ∃ changes, Refines env db ⟨now, .generateRecurring actor condoId dto options⟩ changes after := by
  simp only [generateRecurring, bind_eq_ok, Prod.exists] at done
  obtain ⟨_, _, _, _, finished, tally, folded, rfl, _⟩ := done
  obtain ⟨changes, run, sound⟩ := recurringChunks_commits (fun chunk listed _ => mem_chunks listed)
    wellFormed folded
  refine ⟨changes, run, fun change mem => ?_, ?_⟩
  · rcases sound change mem with ⟨plan, planned, rfl⟩ | ⟨invoice, amount, owned, rfl⟩
    · exact mem_map_of_mem planned
    · exact .inl owned.symm
  · simp only [Request.prepayment?, Option.toList_none, filterMap_eq_nil_iff]
    intro change mem
    rcases sound change mem with ⟨plan, _, rfl⟩ | ⟨invoice, amount, _, rfl⟩ <;> rfl

/-! ## Payments -/

theorem quiet_cancelled {payment : Payment} (pending : payment.status = .pending) :
    QuietPayment payment { payment with status := .cancelled } :=
  ⟨rfl, rfl, rfl, rfl, rfl, .inr ⟨.inl pending, .inr rfl⟩⟩

theorem cancelStale_commit (db : Db) (invoiceId : Id) :
    Commit db .paymentsMarked (cancelStalePendingPayments db invoiceId) := by
  refine .paymentsMarked fun payment _ pick => ?_
  simp only [isPendingFor, decide_eq_true_eq] at pick
  exact quiet_cancelled pick.2

theorem cancelStale_alone (db : Db) (invoiceId : Id) :
    ∀ payment ∈ (cancelStalePendingPayments db invoiceId).payments, isPendingFor invoiceId payment = false := by
  intro payment mem
  obtain ⟨old, _, rfl⟩ := mem_updateWhere.mp mem
  by_cases pick : isPendingFor invoiceId old
  · rw [if_pos pick]
    simp [isPendingFor]
  · rw [if_neg pick]
    simpa using pick

variable {provider : PaymentProvider} {providerRef : String}

theorem setProviderRef_commit {paymentId : Id} (done : setProviderRef db paymentId provider providerRef = .ok after) :
    Commit db .paymentsMarked after := by
  simp only [setProviderRef, bind_eq_ok, pure_eq_ok] at done
  obtain ⟨_, _, rfl⟩ := done
  exact .paymentsMarked fun payment _ _ => ⟨rfl, rfl, rfl, rfl, rfl, .inl rfl⟩

variable {invoiceId : Id}

theorem createPayment_refines (done : createPayment env now db actor invoiceId provider = .ok after) :
    ∃ changes, Refines env db ⟨now, .createPayment actor invoiceId provider⟩ changes after := by
  simp only [createPayment, checkPayable, bind_eq_ok, pure_eq_ok, throwIf_eq_ok, Prod.exists, Prod.mk.injEq,
    cast_le_half] at done
  obtain ⟨_, _, ⟨invoice, read, _, _, _, active, _, _, _, _, resolved, _, _, owed, rfl, rfl⟩, providerRef,
    _, stored⟩ := done
  obtain ⟨found, _⟩ := mem_of_findBy (getInvoice_found read)
  have opened := @Commit.paymentOpened (cancelStalePendingPayments db invoice.id) now actor.id invoice
    provider found active (not_le.mp owed) (cancelStale_alone db invoice.id)
  refine ⟨_, ((Run.single (setProviderRef_commit stored)).cons opened).cons
    (cancelStale_commit db invoice.id), ?_, rfl⟩
  simp [Arises]

theorem cancelPendingAdvances_commit (db : Db) (unitId userId : Id) :
    Commit db .advancesMarked (cancelPendingAdvances db unitId userId) := by
  refine .advancesMarked fun advance _ pick => ?_
  simp only [decide_eq_true_eq] at pick
  exact ⟨rfl, rfl, rfl, rfl, .inr ⟨pick.2.2, .inr rfl⟩⟩

theorem setAdvanceProviderRef_commit (done : setAdvanceProviderRef db id provider providerRef = .ok after) :
    Commit db .advancesMarked after := by
  simp only [setAdvanceProviderRef, bind_eq_ok, pure_eq_ok] at done
  obtain ⟨_, _, rfl⟩ := done
  exact .advancesMarked fun advance _ _ => ⟨rfl, rfl, rfl, rfl, .inl rfl⟩

theorem createAdvancePayment_refines {dto : CreateAdvancePaymentDto}
    (done : createAdvancePayment env now db actor dto = .ok after) :
    ∃ changes, Refines env db ⟨now, .createAdvancePayment actor dto⟩ changes after := by
  simp only [createAdvancePayment, bind_eq_ok] at done
  obtain ⟨unit, _, _, _, _, _, _, _, resolved, _, providerRef, _, stored⟩ := done
  have opened := @Commit.advanceOpened (cancelPendingAdvances db unit.id actor.id) now unit.condoId
    actor.id dto
  refine ⟨_, ((Run.single (setAdvanceProviderRef_commit stored)).cons opened).cons
    (cancelPendingAdvances_commit db unit.id actor.id), ?_, rfl⟩
  simp [Arises]

theorem recordManualPayment_commit (wellFormed : WellFormed db) {dto : RecordManualPaymentDto}
    (done : recordManualPayment now db actor invoiceId dto = .ok after) :
    ∃ invoice, db.invoice? invoiceId = some invoice ∧ 0 < manualAmount invoice dto ∧
      Commit db (.manual invoice (manualAmount invoice dto) dto.method) after := by
  simp only [recordManualPayment, bind_eq_ok, pure_eq_ok, throwIf_eq_ok, Prod.exists] at done
  obtain ⟨invoice, read, _, _, _, active, _, _, _, pos, _, bounded, _, _, settle, rfl⟩ := done
  have isInvoice := getInvoice_found read
  obtain ⟨found, rfl⟩ := mem_of_findBy isInvoice
  obtain ⟨receipts, nextId, grows, rfl⟩ := settle_inserted wellFormed rfl found settle
  exact ⟨invoice, isInvoice, not_le.mp pos, .manual found active (not_le.mp pos) (not_lt.mp bounded) grows⟩

theorem recordManualPayment_refines (wellFormed : WellFormed db) {dto : RecordManualPaymentDto}
    (done : recordManualPayment now db actor invoiceId dto = .ok after) :
    ∃ changes, Refines env db ⟨now, .recordManualPayment actor invoiceId dto⟩ changes after := by
  obtain ⟨invoice, read, _, commit⟩ := recordManualPayment_commit wellFormed done
  obtain rfl := (mem_of_findBy read).2
  exact ⟨_, .one commit ⟨actor, dto, rfl, read, rfl, rfl⟩ rfl⟩

theorem recordPrepaymentInTx_commit {actorId : Id} {dto : RecordPrepaymentDto} (pos : 0 < dto.amount)
    (done : recordPrepaymentInTx now db actorId condoId dto = .ok after) :
    Commit db (.prepaid condoId dto.unitId dto.amount) after := by
  simp only [recordPrepaymentInTx, bind_eq_ok, pure_eq_ok] at done
  obtain ⟨receipted, issue, rfl⟩ := done
  obtain ⟨receipts, rfl, _⟩ := issueInTx_effect issue
  exact .prepaid pos

theorem prepaid_invoices {unitId : Id} {amount : ℚ} (commit : Commit db (.prepaid condoId unitId amount) after) :
    after.invoices = db.invoices := by
  cases commit
  rfl

theorem recordPrepayment_refines (wellFormed : WellFormed db) {dto : RecordPrepaymentDto}
    (done : recordPrepayment now db actor dto = .ok after) :
    ∃ changes, Refines env db ⟨now, .recordPrepayment actor dto⟩ changes after := by
  simp only [recordPrepayment, bind_eq_ok, orThrow_eq_ok, throwIf_eq_ok] at done
  obtain ⟨unit, read, _, _, _, pos, prepaid, record, apply⟩ := done
  have commit := recordPrepaymentInTx_commit (not_le.mp pos) record
  have first : Refines env db ⟨now, .recordPrepayment actor dto⟩ _ prepaid :=
    .one commit ⟨actor, dto, rfl, rfl⟩ (by simp [Change.prepayment?, Request.prepayment?, read])
  have applies : Request.appliesCredit env db ⟨now, .recordPrepayment actor dto⟩ = some (unit.id, unit.condoId) := by
    simp [Request.appliesCredit, read]
  exact first.then_outstanding (commit.wellFormed wellFormed) (prepaid_invoices commit) applies apply

/-! ## Outcomes -/

section

variable (wellFormed : WellFormed db)
include wellFormed

variable {change : Payment → Payment}

theorem mark_commit {payment : Payment} {pick : Payment → Bool} (mem : payment ∈ db.payments)
    (own : ∀ row, pick row → row.id = payment.id) (quiet : pick payment → QuietPayment payment (change payment)) :
    Commit db .paymentsMarked (db.updatePayments pick change) := by
  refine .paymentsMarked fun row inside marked => ?_
  obtain rfl := wellFormed.payment_unique inside mem (own row marked)
  exact quiet marked

variable {advance : AdvancePayment}

theorem markAdvance_commit {pick : AdvancePayment → Bool} {change : AdvancePayment → AdvancePayment}
    (mem : advance ∈ db.advancePayments) (own : ∀ row, pick row → row.id = advance.id)
    (quiet : pick advance → QuietAdvance advance (change advance)) :
    Commit db .advancesMarked (db.updateAdvancePayments pick change) := by
  refine .advancesMarked fun row inside marked => ?_
  obtain rfl := eq_of_key_eq wellFormed.advanceIds.distinct inside mem (own row marked)
  exact quiet marked

variable {status : String}

theorem markPaymentFailed_refines {ref : String} :
    ∃ changes, Refines env db ⟨now, .markPaymentFailed ref status⟩ changes
      (markPaymentFailed env now db ref status) := by
  rw [markPaymentFailed]
  split
  · exact ⟨_, .nothing rfl⟩
  · rename_i payment found
    refine ⟨_, .one (mark_commit wellFormed (findPaymentByProviderRef_mem found)
      (fun row pick => ?_) fun pick => ?_) trivial rfl⟩
    · exact (of_decide_eq_true pick).1
    · exact ⟨rfl, rfl, rfl, rfl, rfl, .inr ⟨.inl (of_decide_eq_true pick).2, .inl rfl⟩⟩

variable {reported expected : ℚ}

theorem flagPaymentForReview_refines {ref : String} :
    ∃ changes, Refines env db ⟨now, .flagPaymentForReview ref reported expected⟩ changes
      (flagPaymentForReview env now db ref reported expected) := by
  rw [flagPaymentForReview]
  split
  · exact ⟨_, .nothing rfl⟩
  · rename_i payment found
    split
    · exact ⟨_, .nothing rfl⟩
    · refine ⟨_, .one (mark_commit wellFormed (findPaymentByProviderRef_mem found)
        (fun row pick => ?_) fun _ => ?_) trivial rfl⟩
      · exact of_decide_eq_true pick
      · exact ⟨rfl, rfl, rfl, rfl, rfl, .inl rfl⟩

theorem markAdvancePaymentFailed_refines {ref : String} :
    ∃ changes, Refines env db ⟨now, .markAdvancePaymentFailed ref status⟩ changes
      (markAdvancePaymentFailed env now db ref status) := by
  rw [markAdvancePaymentFailed]
  split
  · exact ⟨_, .nothing rfl⟩
  · rename_i advance found
    refine ⟨_, .one (markAdvance_commit wellFormed (findAdvancePaymentByProviderRef_mem found)
      (fun row pick => ?_) fun pick => ?_) trivial rfl⟩
    · exact (of_decide_eq_true pick).1
    · exact ⟨rfl, rfl, rfl, rfl, .inr ⟨(of_decide_eq_true pick).2, .inl rfl⟩⟩

theorem flagAdvancePaymentForReview_refines {ref : String} :
    ∃ changes, Refines env db ⟨now, .flagAdvancePaymentForReview ref reported expected⟩ changes
      (flagAdvancePaymentForReview env now db ref reported expected) := by
  rw [flagAdvancePaymentForReview]
  split
  · exact ⟨_, .nothing rfl⟩
  · rename_i advance found
    split
    · exact ⟨_, .nothing rfl⟩
    · refine ⟨_, .one (markAdvance_commit wellFormed (findAdvancePaymentByProviderRef_mem found)
        (fun row pick => ?_) fun _ => ?_) trivial rfl⟩
      · exact of_decide_eq_true pick
      · exact ⟨rfl, rfl, rfl, rfl, .inl rfl⟩

variable {actor : AuthenticatedUser} {paymentId : Id}

theorem dismissPayment_refines (done : dismissPayment now db actor paymentId = .ok after) :
    ∃ changes, Refines env db ⟨now, .dismissPayment actor paymentId⟩ changes after := by
  simp only [dismissPayment, bind_eq_ok, orThrow_eq_ok, throwIf_eq_ok, pure_eq_ok] at done
  obtain ⟨payment, read, _, _, _, _, _, dismissible, rfl⟩ := done
  obtain ⟨mem, rfl⟩ := mem_of_findBy read
  refine ⟨_, .one (mark_commit wellFormed mem (fun row pick => ?_) fun _ => ?_) trivial rfl⟩
  · exact of_decide_eq_true pick
  · refine ⟨rfl, rfl, rfl, rfl, rfl, .inr ⟨?_, .inr rfl⟩⟩
    by_contra other
    rw [not_or] at other
    exact dismissible other

theorem markPaymentSucceeded_refines {ref : String} (done : markPaymentSucceeded env now db ref = .ok after) :
    ∃ changes, Refines env db ⟨now, .markPaymentSucceeded ref⟩ changes after := by
  rw [markPaymentSucceeded] at done
  split at done
  · cases done
    exact ⟨_, .nothing rfl⟩
  · rename_i payment found
    split at done
    · cases done
      exact ⟨_, .nothing rfl⟩
    · rcases confirmPaymentInTx_commit wellFormed (findPaymentByProviderRef_mem found) done with
        ⟨rfl, _⟩ | ⟨pending, commit⟩
      · exact ⟨_, .nothing rfl⟩
      · exact ⟨_, .one commit ⟨payment, found, pending, rfl, rfl, rfl, rfl⟩ rfl⟩

theorem confirmAdvanceInTx_commit {result : Option AdvancePayment} (mem : advance ∈ db.advancePayments)
    (done : confirmAdvanceInTx now db advance = .ok (after, result)) :
    (after = db ∧ result = none ∧ advance.status ≠ .pending) ∨ ∃ updated, result = some updated ∧
      advance.status = .pending ∧ updated.unitId = advance.unitId ∧ updated.condoId = advance.condoId ∧
      Commit db (.advanceConfirmed advance) after := by
  simp only [confirmAdvanceInTx] at done
  split at done
  · rename_i none
    simp only [pure_eq_ok, Prod.mk.injEq] at done
    refine .inl ⟨done.1.symm, done.2.symm, fun pending => none ?_⟩
    exact any_eq_true.mpr ⟨advance, mem, by simp [isPendingAdvance, pending]⟩
  · rename_i transitioned
    simp only [not_not, any_eq_true] at transitioned
    obtain ⟨row, inside, pick⟩ := transitioned
    simp only [isPendingAdvance, decide_eq_true_eq] at pick
    obtain rfl := eq_of_key_eq wellFormed.advanceIds.distinct inside mem pick.1
    have confirmed : succeedAdvance now row ∈ (db.updateAdvancePayments (isPendingAdvance row.id)
        (succeedAdvance now)).advancePayments :=
      mem_updateWhere.mpr ⟨row, inside, by simp [isPendingAdvance, pick.2]⟩
    have nodup : ((db.updateAdvancePayments (isPendingAdvance row.id)
        (succeedAdvance now)).advancePayments.map AdvancePayment.id).Nodup := by
      refine (Allocated.updateWhere wellFormed.advanceIds le_rfl ?_).distinct
      exact fun _ _ _ => rfl
    have isAdvance : (db.updateAdvancePayments (isPendingAdvance row.id)
        (succeedAdvance now)).advancePayment? row.id = some (succeedAdvance now row) :=
      findBy_of_mem nodup confirmed
    simp only [isAdvance, bind_eq_ok] at done
    obtain ⟨receipted, issue, rfl, rfl⟩ := done
    obtain ⟨receipts, rfl, _⟩ := issueInTx_effect issue
    exact .inr ⟨_, rfl, pick.2, rfl, rfl, .advanceConfirmed inside pick.2 (Nat.le_succ _)⟩

theorem markAdvancePaymentSucceeded_refines {ref : String}
    (done : markAdvancePaymentSucceeded env now db ref = .ok after) :
    ∃ changes, Refines env db ⟨now, .markAdvancePaymentSucceeded ref⟩ changes after := by
  rw [markAdvancePaymentSucceeded] at done
  split at done
  · cases done
    exact ⟨_, .nothing rfl⟩
  · rename_i advance found
    have mem := findAdvancePaymentByProviderRef_mem found
    split at done
    · cases done
      exact ⟨_, .nothing rfl⟩
    · simp only [bind_eq_ok, Prod.exists] at done
      obtain ⟨confirmed, result, confirm, rest⟩ := done
      rcases confirmAdvanceInTx_commit wellFormed mem confirm with
        ⟨rfl, rfl, _⟩ | ⟨updated, rfl, pending, unit, condo, commit⟩
      · cases rest
        exact ⟨_, .nothing rfl⟩
      · have first : Refines env db ⟨now, .markAdvancePaymentSucceeded ref⟩ _ confirmed :=
          .one commit ⟨ref, rfl, found, pending⟩ rfl
        have applies : Request.appliesCredit env db ⟨now, .markAdvancePaymentSucceeded ref⟩ =
            some (updated.unitId, updated.condoId) := by
          simp [Request.appliesCredit, found, unit, condo]
        exact first.then_outstanding (commit.wellFormed wellFormed) (by cases commit; rfl) applies rest

omit wellFormed in
theorem succeededAfter_map (same : ∀ row, SameReference row (change row))
    (money : ∀ row, (change row).amount = row.amount ∧ (change row).invoiceId = row.invoiceId) (payment : Payment) :
    succeededAfter { db with payments := db.payments.map change } (change payment) = succeededAfter db payment := by
  simp only [succeededAfter, filter_map, Function.comp_def, sumBy_map, (same _).id,
    (same _).status, (money _).1, (money _).2]

theorem approveReviewedPayment_refines (done : approveReviewedPayment env now db actor paymentId = .ok after) :
    ∃ changes, Refines env db ⟨now, .approveReviewedPayment actor paymentId⟩ changes after := by
  simp only [approveReviewedPayment, bind_eq_ok, orThrow_eq_ok] at done
  obtain ⟨payment, read, _, _, _, _, _, _, _, _, _, _, mark⟩ := done
  obtain ⟨mem, rfl⟩ := mem_of_findBy read
  let approved : Payment → Payment := fun row => { row with
    metadata := { payment.metadata with
      approvedByUserId := some actor.id
      approvedAt := some now } }
  let change : Payment → Payment := fun row => if decide (row.id = payment.id) then approved row else row
  have marked : Commit db .paymentsMarked { db with payments := db.payments.map change } :=
    mark_commit wellFormed mem (fun row pick => of_decide_eq_true pick)
      fun _ => ⟨rfl, rfl, rfl, rfl, rfl, .inl rfl⟩
  have same : ∀ row, SameReference row (change row) := by
    intro row
    simp only [change]
    split <;> exact ⟨rfl, rfl, rfl, rfl, rfl⟩
  have start : Run Commit db [.paymentsMarked] { db with payments := db.payments.map change } :=
    .single marked
  have only : Refines env db ⟨now, .approveReviewedPayment actor payment.id⟩ [.paymentsMarked]
      { db with payments := db.payments.map change } := .one marked trivial rfl
  have lookup : findPaymentByProviderRef env { db with payments := db.payments.map change }
      (payment.providerRef.getD "") = (findPaymentByProviderRef env db (payment.providerRef.getD "")).map change :=
    findPaymentByProviderRef_map same
  have mark : markPaymentSucceeded env now { db with payments := db.payments.map change }
      (payment.providerRef.getD "") = .ok after := mark
  rw [markPaymentSucceeded, lookup] at mark
  cases found : findPaymentByProviderRef env db (payment.providerRef.getD "") with
  | none =>
    rw [found] at mark
    cases mark
    exact ⟨_, only⟩
  | some row =>
    rw [found] at mark
    simp only [Option.map_some] at mark
    split at mark
    · cases mark
      exact ⟨_, only⟩
    · have inside : change row ∈ db.payments.map change :=
        mem_map_of_mem (findPaymentByProviderRef_mem found)
      rcases confirmPaymentInTx_commit (marked.wellFormed wellFormed) inside mark with
        ⟨rfl, _⟩ | ⟨pending, commit⟩
      · exact ⟨_, only⟩
      · refine ⟨_, start.snoc commit, ?_, rfl⟩
        have sameMoney : ∀ row, (change row).amount = row.amount ∧ (change row).invoiceId = row.invoiceId := by
          intro row
          simp only [change]
          split <;> exact ⟨rfl, rfl⟩
        have confirms : Request.confirms env db ⟨now, .approveReviewedPayment actor payment.id⟩ = some row := by
          simp [Request.confirms, read, found]
        simp only [singleton_append, forall_mem_cons, not_mem_nil, false_implies, implies_true, and_true]
        refine ⟨trivial, row, confirms, (same row).status ▸ pending, (same row).id,
          (sameMoney row).2, (sameMoney row).1, ?_⟩
        exact succeededAfter_map same sameMoney row

theorem applyCreditToInvoice_refines {invoiceId : Id}
    (done : Request.run env db ⟨now, .applyCreditToInvoice invoiceId⟩ = .ok after) :
    ∃ changes, Refines env db ⟨now, .applyCreditToInvoice invoiceId⟩ changes after := by
  simp only [Request.run, bind_eq_ok] at done
  obtain ⟨invoice, read, apply⟩ := done
  obtain ⟨found, _⟩ := mem_of_findBy (getInvoice_found read)
  rcases applyCreditToInvoice_commit wellFormed
    (fun other mem same => congrArg Invoice.unitId (wellFormed.invoice_unique mem found same))
    apply with rfl | ⟨row, amount, isRow, commit⟩
  · exact ⟨_, .nothing rfl⟩
  · obtain ⟨mem, same⟩ := mem_of_findBy isRow
    exact ⟨_, .one commit (.inl (congrArg Invoice.condoId (wellFormed.invoice_unique found mem same.symm))) rfl⟩

theorem applyCreditToOutstanding_refines {unitId : Id}
    (done : Request.run env db ⟨now, .applyCreditToOutstanding unitId⟩ = .ok after) :
    ∃ changes, Refines env db ⟨now, .applyCreditToOutstanding unitId⟩ changes after := by
  simp only [Request.run, bind_eq_ok, orThrow_eq_ok] at done
  obtain ⟨unit, read, apply⟩ := done
  have applies : Request.appliesCredit env db ⟨now, .applyCreditToOutstanding unitId⟩ =
      some (unit.id, unit.condoId) := by
    simp [Request.appliesCredit, read]
  exact (Refines.nothing rfl).then_outstanding wellFormed rfl applies apply

end

theorem voided_commit (found : invoice ∈ db.invoices) (active : invoice.status ≠ .void)
    (unpaid : invoice.amountPaid ≤ 0)
    (update : (reverseInvoiceCharges now db invoice actorUserId).updateInvoice invoice (voided now) =
      .ok after) : Commit db (.voided invoice (db.payments.any (isPendingFor invoice.id))) after := by
  obtain rfl := updateInvoice_effect update
  exact .voided found active unpaid

theorem voidInvoice_refines (done : voidInvoice now db actor invoiceId = .ok after) :
    ∃ changes, Refines env db ⟨now, .voidInvoice actor invoiceId⟩ changes after := by
  simp only [voidInvoice, bind_eq_ok, throwIf_eq_ok, half_lt_cast, not_lt] at done
  obtain ⟨invoice, read, _, _, _, unpaid, _, noMoney, done⟩ := done
  have isInvoice := getInvoice_found read
  obtain ⟨found, rfl⟩ := mem_of_findBy isInvoice
  split at done
  · cases done
    exact ⟨_, .nothing rfl⟩
  · rename_i active
    have none : (cancelStalePendingPayments db invoice.id).payments.any (isPendingFor invoice.id) = false := by
      rw [any_eq_false]
      intro payment mem
      simp [cancelStale_alone db invoice.id payment mem]
    have commit : Commit (cancelStalePendingPayments db invoice.id) (.voided invoice _) after :=
      voided_commit found active noMoney done
    rw [none] at commit
    refine ⟨_, (Run.single (cancelStale_commit db invoice.id)).snoc commit, ?_, rfl⟩
    simp [Arises, Request.voids, isInvoice, isVoidable, active, unpaid, noMoney]

variable {result : Bool}

theorem voidUnpaidInvoiceInTx_commit (done : voidUnpaidInvoiceInTx now db invoiceId actorUserId = .ok (after, result)) :
    after = db ∨ ∃ invoice, db.invoice? invoiceId = some invoice ∧ isVoidable invoice ∧
      Commit db (.voided invoice (db.payments.any (isPendingFor invoice.id))) after := by
  have stopped : ∀ flag : Bool, pure (db, flag) = (.ok (after, result) : Result (Db × Bool)) → after = db := by
    intro flag same
    simp only [pure_eq_ok, Prod.mk.injEq] at same
    exact same.1.symm
  rw [voidUnpaidInvoiceInTx] at done
  split at done
  · exact .inl (stopped _ done)
  · rename_i invoice isInvoice
    obtain ⟨found, rfl⟩ := mem_of_findBy isInvoice
    split at done
    · exact .inl (stopped _ done)
    · rename_i active
      split at done
      · exact .inl (stopped _ done)
      · rename_i unpaid
        simp only [half_lt_cast, not_or, not_lt] at unpaid
        simp only [bind_eq_ok] at done
        obtain ⟨updated, update, rfl, _⟩ := done
        have voidable : isVoidable invoice = true := by simp [isVoidable, active, unpaid]
        exact .inr ⟨invoice, isInvoice, voidable, voided_commit found active unpaid.1 update⟩

theorem voidUnpaidInvoiceInTx_refines (done : voidUnpaidInvoiceInTx now db invoiceId actorUserId = .ok (after, result)) :
    ∃ changes, Refines env db ⟨now, .voidUnpaidInvoiceInTx invoiceId actorUserId⟩ changes after := by
  rcases voidUnpaidInvoiceInTx_commit done with rfl | ⟨invoice, isInvoice, voidable, commit⟩
  · exact ⟨_, .nothing rfl⟩
  · obtain ⟨_, rfl⟩ := mem_of_findBy isInvoice
    refine ⟨_, .one commit ⟨?_, fun left => ⟨actorUserId, rfl, left⟩⟩ rfl⟩
    simp [Request.voids, isInvoice, voidable]

theorem runDueSweep_refines (wellFormed : WellFormed db) (done : runDueSweep now db actor condoId = .ok after) :
    ∃ changes, Refines env db ⟨now, .runDueSweep actor condoId⟩ changes after := by
  simp only [runDueSweep, bind_eq_ok, pure_eq_ok] at done
  obtain ⟨_, _, rfl⟩ := done
  have overdue : Commit db .invoicesMarked (markOverdue now condoId db) := by
    refine .invoicesMarked fun invoice mem pick => ?_
    obtain ⟨row, inside, same⟩ := mem_map.mp (of_decide_eq_true pick)
    obtain ⟨found, isOverdue⟩ := mem_filter.mp inside
    obtain rfl := wellFormed.invoice_unique found mem same
    simp only [Billing.isOverdue, decide_eq_true_eq] at isOverdue
    exact ⟨rfl, rfl, rfl, rfl, rfl, rfl, rfl, .inr ⟨isOverdue.2.1, rfl⟩⟩
  have notified : Commit (markOverdue now condoId db) .invoicesMarked
      (notifyDueSoon now condoId (markOverdue now condoId db)) :=
    .invoicesMarked fun _ _ _ => ⟨rfl, rfl, rfl, rfl, rfl, rfl, rfl, .inl rfl⟩
  refine ⟨_, (Run.single overdue).snoc notified, ?_, rfl⟩
  simp [Arises]

/-! ## Deposits -/

variable {input : RecordDepositInput}

theorem depositRecordInTx_commit (done : depositRecordInTx now db input = .ok after) :
    Commit db (.depositHeld input.condoId input.unitId input.amount) after := by
  simp only [depositRecordInTx, bind_eq_ok, pure_eq_ok] at done
  obtain ⟨receipted, issue, rfl⟩ := done
  obtain ⟨receipts, rfl, _⟩ := issueInTx_effect issue
  exact .depositHeld (Nat.lt_succ_of_lt (Nat.lt_succ_self _))

theorem depositRecordInTx_refines (done : depositRecordInTx now db input = .ok after) :
    ∃ changes, Refines env db ⟨now, .depositRecordInTx input⟩ changes after :=
  ⟨_, .one (depositRecordInTx_commit done) (.inr ⟨input, rfl, rfl⟩) rfl⟩

theorem depositRecord_refines {dto : RecordDepositDto} (done : depositRecord now db actor dto = .ok after) :
    ∃ changes, Refines env db ⟨now, .depositRecord actor dto⟩ changes after := by
  simp only [depositRecord, bind_eq_ok] at done
  obtain ⟨unit, _, _, _, _, pos, record⟩ := done
  rw [throwIf_eq_ok, not_le] at pos
  exact ⟨_, .one (depositRecordInTx_commit record) (.inl ⟨actor, dto, rfl, rfl, pos⟩) rfl⟩

variable {depositId : Id} {held : ℤ}

theorem refundHeldInTx_commit (done : refundHeldInTx now db depositId actorUserId = .ok (after, held)) :
    (after = db ∧ ∀ deposit ∈ db.deposit? depositId, depositHeldAmount deposit ≤ 0) ∨
      ∃ deposit, db.deposit? depositId = some deposit ∧
        Commit db (.depositRefunded deposit (depositHeldAmount deposit)) after := by
  rw [refundHeldInTx] at done
  split at done
  · rename_i missing
    simp only [pure_eq_ok, Prod.mk.injEq] at done
    exact .inl ⟨done.1.symm, by simp [missing]⟩
  · rename_i deposit read
    obtain ⟨mem, rfl⟩ := mem_of_findBy read
    simp only [cast_le_half] at done
    split at done
    · rename_i nothing
      simp only [pure_eq_ok, Prod.mk.injEq] at done
      exact .inl ⟨done.1.symm, by simpa [read] using nothing⟩
    · rename_i pos
      simp only [bind_eq_ok] at done
      obtain ⟨receipted, issue, rfl, _⟩ := done
      obtain ⟨receipts, rfl, issued⟩ := issueInTx_effect issue
      have got : ReturnedDeposit deposit { deposit with
            refundedAmount := deposit.refundedAmount + depositHeldAmount deposit
            status := .refunded
            refundedAt := some now }
          (deposit.refundedAmount + (depositHeldAmount deposit : ℚ)) deposit.forfeitedAmount :=
        ⟨rfl, rfl, rfl, rfl, by rw [← Int.cast_add, stored_intCast], (stored_intCast _).symm, .inr ⟨rfl, rfl, rfl⟩⟩
      have commit := @Commit.depositRefunded db now deposit actorUserId (depositHeldAmount deposit)
        (fun row => { row with
          refundedAmount := deposit.refundedAmount + depositHeldAmount deposit
          status := .refunded
          refundedAt := some now })
        receipts (db.nextId + 1) mem (by exact_mod_cast not_le.mp pos) (by linarith)
        got (fun _ => rfl) (Nat.le_succ _) issued
      rw [← Int.cast_add] at commit
      exact .inr ⟨deposit, read, commit⟩

theorem refundHeldInTx_refines (done : refundHeldInTx now db depositId actorUserId = .ok (after, held)) :
    ∃ changes, Refines env db ⟨now, .refundHeldInTx depositId actorUserId⟩ changes after := by
  rcases refundHeldInTx_commit done with ⟨rfl, _⟩ | ⟨deposit, read, commit⟩
  · exact ⟨_, .nothing rfl⟩
  · obtain rfl := (mem_of_findBy read).2
    exact ⟨_, .one commit (.inl ⟨actorUserId, rfl, rfl⟩) rfl⟩

def RefundDepositDto.change (dto : RefundDepositDto) (deposit : Deposit) : Change :=
  if dto.forfeit then .depositForfeited deposit (refundFigures deposit dto).amount
  else .depositRefunded deposit (refundFigures deposit dto).amount

theorem depositRefund_commit {dto : RefundDepositDto} (done : depositRefund now db actor depositId dto = .ok after) :
    ∃ deposit, db.deposit? depositId = some deposit ∧ 0 < depositHeldAmount deposit ∧
      Commit db (dto.change deposit) after := by
  simp only [depositRefund, refundInTx, bind_eq_ok, orThrow_eq_ok, throwIf_eq_ok] at done
  obtain ⟨deposit, read, _, _, _, held, _, pos, _, bounded, done⟩ := done
  obtain ⟨mem, rfl⟩ := mem_of_findBy read
  rw [not_le] at pos
  rw [not_lt] at bounded
  refine ⟨deposit, read, not_le.mp held, ?_⟩
  have keeps : ∀ row, (refundedRow now (refundFigures deposit dto) row).id = row.id := fun _ => rfl
  split at done
  · rename_i forfeit
    cases done
    have got : ReturnedDeposit deposit (refundedRow now (refundFigures deposit dto) deposit)
        deposit.refundedAmount (deposit.forfeitedAmount + (refundFigures deposit dto).amount) :=
      ⟨rfl, rfl, rfl, rfl, by simp [refundedRow, refundFigures, forfeit], by simp [refundedRow, refundFigures, forfeit],
        .inl (by simp [refundedRow, returnStatus, refundStatus, refundFigures, forfeit])⟩
    have figures : (refundFigures deposit dto).newForfeited =
        deposit.forfeitedAmount + (refundFigures deposit dto).amount := by
      simp [refundFigures, forfeit]
    have commit := @Commit.depositForfeited db now deposit (some actor.id) _ _ mem pos bounded
      got keeps
    rw [← figures] at commit
    rw [RefundDepositDto.change, if_pos forfeit]
    exact commit
  · rename_i refund
    simp only [bind_eq_ok, pure_eq_ok] at done
    obtain ⟨receipted, issue, rfl⟩ := done
    obtain ⟨receipts, rfl, issued⟩ := issueInTx_effect issue
    have got : ReturnedDeposit deposit (refundedRow now (refundFigures deposit dto) deposit)
        (deposit.refundedAmount + (refundFigures deposit dto).amount) deposit.forfeitedAmount :=
      ⟨rfl, rfl, rfl, rfl, by simp [refundedRow, refundFigures, refund], by simp [refundedRow, refundFigures, refund],
        .inl (by simp [refundedRow, returnStatus, refundStatus, refundFigures, refund])⟩
    have figures : (refundFigures deposit dto).newRefunded =
        deposit.refundedAmount + (refundFigures deposit dto).amount := by
      simp [refundFigures, refund]
    have commit := @Commit.depositRefunded db now deposit (some actor.id) _ _ receipts (db.nextId + 1)
      mem pos bounded got keeps (Nat.le_succ _) issued
    rw [← figures] at commit
    rw [RefundDepositDto.change, if_neg refund]
    exact commit

theorem depositRefund_refines {dto : RefundDepositDto} (done : depositRefund now db actor depositId dto = .ok after) :
    ∃ changes, Refines env db ⟨now, .depositRefund actor depositId dto⟩ changes after := by
  obtain ⟨deposit, read, _, commit⟩ := depositRefund_commit done
  obtain rfl := (mem_of_findBy read).2
  rw [RefundDepositDto.change] at commit
  split at commit
  · rename_i forfeit
    exact ⟨_, .one commit ⟨actor, dto, rfl, rfl, forfeit, read⟩ rfl⟩
  · exact ⟨_, .one commit (.inr ⟨actor, dto, rfl, rfl⟩) rfl⟩

theorem Request.refines (wellFormed : WellFormed db) (done : Completes env db request after) :
    ∃ changes, Refines env db request changes after := by
  obtain ⟨now, op⟩ := request
  cases op with
  | create =>
    obtain ⟨⟨_, _⟩, op, same⟩ := bind_eq_ok.mp done
    cases same
    exact create_refines wellFormed op
  | createInvoiceInTx =>
    obtain ⟨⟨_, _⟩, op, same⟩ := bind_eq_ok.mp done
    cases same
    exact createInvoiceInTx_refines op
  | generateRecurring =>
    obtain ⟨⟨_, _⟩, op, same⟩ := bind_eq_ok.mp done
    cases same
    exact generateRecurring_refines wellFormed op
  | createPayment => exact createPayment_refines done
  | createAdvancePayment => exact createAdvancePayment_refines done
  | recordManualPayment => exact recordManualPayment_refines wellFormed done
  | recordPrepayment => exact recordPrepayment_refines wellFormed done
  | markPaymentSucceeded => exact markPaymentSucceeded_refines wellFormed done
  | markPaymentFailed => exact pure_eq_ok.mp done ▸ markPaymentFailed_refines wellFormed
  | flagPaymentForReview => exact pure_eq_ok.mp done ▸ flagPaymentForReview_refines wellFormed
  | markAdvancePaymentSucceeded => exact markAdvancePaymentSucceeded_refines wellFormed done
  | markAdvancePaymentFailed => exact pure_eq_ok.mp done ▸ markAdvancePaymentFailed_refines wellFormed
  | flagAdvancePaymentForReview =>
    exact pure_eq_ok.mp done ▸ flagAdvancePaymentForReview_refines wellFormed
  | applyCreditToInvoice => exact applyCreditToInvoice_refines wellFormed done
  | applyCreditToOutstanding => exact applyCreditToOutstanding_refines wellFormed done
  | voidInvoice => exact voidInvoice_refines done
  | voidUnpaidInvoiceInTx =>
    obtain ⟨⟨_, _⟩, op, same⟩ := bind_eq_ok.mp done
    cases same
    exact voidUnpaidInvoiceInTx_refines op
  | runDueSweep => exact runDueSweep_refines wellFormed done
  | dismissPayment => exact dismissPayment_refines wellFormed done
  | approveReviewedPayment => exact approveReviewedPayment_refines wellFormed done
  | depositRecord => exact depositRecord_refines done
  | depositRecordInTx => exact depositRecordInTx_refines done
  | refundHeldInTx =>
    obtain ⟨⟨_, _⟩, op, same⟩ := bind_eq_ok.mp done
    cases same
    exact refundHeldInTx_refines op
  | depositRefund => exact depositRefund_refines done

theorem Completes.wellFormed (done : Completes env db request after) (wellFormed : WellFormed db) :
    WellFormed after := by
  obtain ⟨changes, refines⟩ := Request.refines wellFormed done
  exact wellFormed_of_commits refines.run wellFormed

theorem Reachable.wellFormed (reachable : Reachable env db) : WellFormed db := by
  obtain ⟨start, log, fresh, run⟩ := reachable
  exact run.invariant (fun _ _ _ holds done => done.wellFormed holds) (.fresh fresh)

structure Sound (Inv : Db → Prop) (db : Db) : Prop where
  wellFormed : WellFormed db
  holds : Inv db

theorem Reachable.of_commits {Inv : Db → Prop} (initial : ∀ start, Fresh start → Inv start)
    (kept : ∀ before change after, WellFormed before → Inv before → Commit before change after → Inv after)
    (reachable : Reachable env db) : Inv db := by
  have commits : ∀ before change after, Sound Inv before → Commit before change after → Sound Inv after :=
    fun _ _ _ sound commit => ⟨commit.wellFormed sound.wellFormed, kept _ _ _ sound.wellFormed sound.holds commit⟩
  obtain ⟨start, log, fresh, run⟩ := reachable
  have sound : Sound Inv db := by
    refine run.invariant (fun before request after sound done => ?_) ⟨.fresh fresh, initial start fresh⟩
    obtain ⟨changes, refines⟩ := Request.refines sound.wellFormed done
    exact refines.run.invariant commits sound
  exact sound.holds

end SmartResidence.Billing
