import SmartResidence.Proof.Requests

/-!
# The bills of one `generateRecurring` call

In a consistent database the call does not fail half-way, and each pending unit gets its invoice.
-/

namespace SmartResidence.Billing

open Foundation List

variable {db after : Db} {now : Instant} {condoId : Id} {dto : GenerateRecurringDto}
  {actorUserId : Option Id}

structure InvoiceSlot where
  id : Id
  condoId : Id
  unitId : Id
  periodStart : Instant
  active : Bool
  lines : List InvoiceLine

def Invoice.slot (invoice : Invoice) : InvoiceSlot where
  id := invoice.id
  condoId := invoice.condoId
  unitId := invoice.unitId
  periodStart := invoice.periodStart
  active := decide (invoice.status ≠ .void)
  lines := invoice.lines

def Db.slots (db : Db) : List InvoiceSlot := db.invoices.map Invoice.slot

def takenIn (slots : List InvoiceSlot) (unitId : Id) (periodStart : Instant) (except : Option Id) : Bool :=
  slots.any fun slot => decide (slot.unitId = unitId ∧ slot.periodStart = periodStart ∧
    slot.active = true ∧ some slot.id ≠ except)

theorem activePeriodTaken_eq {unitId : Id} {periodStart : Instant} {except : Option Id} :
    db.activePeriodTaken unitId periodStart except = takenIn db.slots unitId periodStart except := by
  simp only [Db.activePeriodTaken, takenIn, Db.slots, any_map, Function.comp_def, Invoice.slot, decide_eq_true_eq]

theorem takenIn_eq_false {slots : List InvoiceSlot} {unitId : Id} {periodStart : Instant}
    {except : Option Id} : takenIn slots unitId periodStart except = false ↔
      ∀ slot ∈ slots, slot.unitId = unitId → slot.periodStart = periodStart → slot.active = true →
        some slot.id = except := by
  simp only [takenIn, any_eq_false, decide_eq_true_eq, not_and, not_not]

/-! ## Applying credit -/

theorem slot_settled {invoice : Invoice} {paid : ℤ} (active : invoice.status ≠ .void) :
    (settled now paid invoice).slot = invoice.slot := by
  have still : settledStatus invoice paid ≠ .void := by
    unfold settledStatus
    split
    · simp
    · split
      · simp
      · exact active
  simp only [Invoice.slot, settled, ne_eq, still, active]

theorem Commit.credit_slots (wf : WellFormed db) {invoice : Invoice} {amount : ℤ}
    (commit : Commit db (.creditApplied invoice condoId amount) after) : after.slots = db.slots := by
  cases commit with
  | creditApplied found active =>
    apply map_updateWhere
    intro row mem pick
    obtain rfl := wf.invoice_unique mem found (by simpa using pick)
    exact slot_settled active

theorem updateInvoice_ok {invoice : Invoice} {change : Invoice → Invoice}
    (unit : (change invoice).unitId = invoice.unitId) (period : (change invoice).periodStart = invoice.periodStart)
    (sole : takenIn db.slots invoice.unitId invoice.periodStart (some invoice.id) = false) :
    db.updateInvoice invoice change = .ok (db.changeInvoice invoice.id change) := by
  simp only [Db.updateInvoice, unit, period, activePeriodTaken_eq, sole, bind_eq_ok]
  simp

theorem settleInvoice_ok {invoice : Invoice} {payment : Payment}
    (isInvoice : db.invoice? invoice.id = some invoice) (isPayment : db.payment? payment.id = some payment)
    (fromCredit : payment.metadata.method = some "PREPAYMENT_APPLIED")
    (sole : takenIn db.slots invoice.unitId invoice.periodStart (some invoice.id) = false) :
    ∃ settledDb flag, settleInvoice now db invoice.id payment.id actorUserId = .ok (settledDb, flag) := by
  have update := @updateInvoice_ok db invoice (settled now (paidSoFar db invoice.id)) rfl rfl sole
  have still : (db.changeInvoice invoice.id (settled now (paidSoFar db invoice.id))).payment? payment.id =
      some payment := isPayment
  simp only [settleInvoice, isInvoice, update, bind, Except.bind, still, fromCredit]
  exact ⟨_, _, rfl⟩

theorem consumeCredit_ok {unitId : Id} {amount : ℤ} (pos : 0 < amount) (covered : amount ≤ db.getCredit unitId) :
    db.consumeCredit unitId amount = .ok (db.incrementCredit unitId (- amount)) := by
  unfold Db.getCredit at covered
  cases account : db.unitAccount? unitId with
  | none => simp only [account] at covered; omega
  | some row =>
    simp only [account] at covered
    simp only [Db.consumeCredit, account, bind_eq_ok]
    simpa using covered

theorem applyCreditInTx_ok (wf : WellFormed db) {invoice : Invoice} {amount : ℤ} (found : invoice ∈ db.invoices)
    (sole : takenIn db.slots invoice.unitId invoice.periodStart (some invoice.id) = false)
    (pos : 0 < amount) (covered : amount ≤ db.getCredit invoice.unitId) :
    ∃ applied, applyCreditInTx now db invoice.id invoice.unitId condoId amount = .ok applied := by
  have isPayment : (db.insertPayment (creditPayment now invoice.id amount)).payment? db.nextId =
      some (creditPayment now invoice.id amount db.nextId) :=
    @findBy_of_mem _ _ _ Payment.id _ (creditPayment now invoice.id amount db.nextId)
      (inserted_payments_nodup wf rfl)
      (mem_append_right _ (mem_singleton.mpr rfl))
  obtain ⟨settledDb, flag, settle⟩ := @settleInvoice_ok
    (db.insertPayment (creditPayment now invoice.id amount)) now none invoice
    (creditPayment now invoice.id amount db.nextId) (wf.invoice?_eq found) isPayment rfl sole
  obtain ⟨receipts, nextId, _, same⟩ := settle_inserted wf rfl found settle
  have covered : amount ≤ settledDb.getCredit invoice.unitId := by
    rw [same]
    exact covered
  simp only [applyCreditInTx, bind_eq_ok, Prod.exists]
  exact ⟨_, settledDb, flag, settle, _, consumeCredit_ok pos covered, rfl⟩

def SoleInvoice (db : Db) (invoiceId unitId : Id) : Prop :=
  ∃ slot ∈ db.slots, slot.id = invoiceId ∧ slot.unitId = unitId ∧
    takenIn db.slots slot.unitId slot.periodStart (some slot.id) = false

theorem applyCreditToInvoice_ok (wf : WellFormed db) {invoiceId unitId : Id} (sole : SoleInvoice db invoiceId unitId) :
    ∃ applied, applyCreditToInvoice now db invoiceId unitId condoId = .ok applied ∧
      applied.slots = db.slots ∧ WellFormed applied := by
  obtain ⟨slot, listed, rfl, rfl, sole⟩ := sole
  obtain ⟨invoice, found, rfl⟩ := mem_map.mp listed
  have isInvoice : db.invoice? invoice.slot.id = some invoice := wf.invoice?_eq found
  have owner : ∀ other ∈ db.invoices, other.id = invoice.slot.id → other.unitId = invoice.slot.unitId := by
    intro other mem same
    rw [wf.invoice_unique mem found same]
    rfl
  have done : ∃ applied, applyCreditToInvoice now db invoice.slot.id invoice.slot.unitId condoId = .ok applied := by
    simp only [applyCreditToInvoice, cast_le_half, isInvoice]
    split
    · exact ⟨db, rfl⟩
    · split
      · exact ⟨db, rfl⟩
      · split
        · exact ⟨db, rfl⟩
        · rename_i pos
          exact applyCreditInTx_ok wf found sole (not_le.mp pos) (min_le_left _ _)
  obtain ⟨applied, done⟩ := done
  refine ⟨applied, done, ?_⟩
  rcases applyCreditToInvoice_commit wf owner done with rfl | ⟨_, _, _, commit⟩
  · exact ⟨rfl, wf⟩
  · exact ⟨commit.credit_slots wf, commit.wellFormed wf⟩

theorem creditCreated_ok (wf : WellFormed db) {rows : List CreatedInvoice}
    (sole : ∀ row ∈ rows, SoleInvoice db row.invoiceId row.unitId) :
    (creditCreated now condoId db rows).failure = none ∧ (creditCreated now condoId db rows).created = rows.length ∧
      (creditCreated now condoId db rows).db.slots = db.slots ∧
      WellFormed (creditCreated now condoId db rows).db := by
  induction rows generalizing db with
  | nil => exact ⟨rfl, rfl, rfl, wf⟩
  | cons row rest ih =>
    obtain ⟨applied, done, slots, stillWellFormed⟩ :=
      @applyCreditToInvoice_ok db now condoId wf _ _ (sole row (by simp))
    have others : ∀ other ∈ rest, SoleInvoice applied other.invoiceId other.unitId := by
      intro other mem
      unfold SoleInvoice
      rw [slots]
      exact sole other (mem_cons_of_mem _ mem)
    obtain ⟨failure, created, same, well⟩ := ih stillWellFormed others
    simp only [creditCreated, done]
    exact ⟨failure, by rw [created, length_cons], same.trans slots, well⟩

/-! ## Issuing a chunk -/

def Billed (condoId : Id) (dto : GenerateRecurringDto) (plan : PlannedBill) (slot : InvoiceSlot) : Prop :=
  slot = ((plan.draft condoId dto).row 0 slot.id).slot

theorem row_slot {draft : InvoiceDraft} {id : Id} : (draft.row now id).slot = (draft.row 0 id).slot := rfl

def InvoiceSlot.created (slot : InvoiceSlot) : CreatedInvoice := ⟨slot.id, slot.unitId⟩

theorem billed_units {plans : List PlannedBill} {added : List InvoiceSlot}
    (billed : List.Forall₂ (Billed condoId dto) plans added) :
    added.map InvoiceSlot.unitId = plans.map PlannedBill.unitId := by
  induction billed with
  | nil => rfl
  | cons one _ ih =>
    rw [map_cons, ih, one]
    rfl

theorem plan_of_billed {plans : List PlannedBill} {added : List InvoiceSlot}
    (billed : List.Forall₂ (Billed condoId dto) plans added) {slot : InvoiceSlot} (mem : slot ∈ added) :
    ∃ plan ∈ plans, Billed condoId dto plan slot := by
  induction billed with
  | nil => cases mem
  | @cons plan _ _ _ one _ ih =>
    rcases mem_cons.mp mem with rfl | later
    · exact ⟨plan, by simp, one⟩
    · obtain ⟨other, inside, same⟩ := ih later
      exact ⟨other, mem_cons_of_mem _ inside, same⟩

theorem slot_of_billed {plans : List PlannedBill} {added : List InvoiceSlot}
    (billed : List.Forall₂ (Billed condoId dto) plans added) {plan : PlannedBill} (mem : plan ∈ plans) :
    ∃ slot ∈ added, Billed condoId dto plan slot := by
  induction billed with
  | nil => cases mem
  | @cons _ slot _ _ one _ ih =>
    rcases mem_cons.mp mem with rfl | later
    · exact ⟨slot, by simp, one⟩
    · obtain ⟨other, inside, same⟩ := ih later
      exact ⟨other, mem_cons_of_mem _ inside, same⟩

theorem issueInvoice_ok {draft : InvoiceDraft} (free : takenIn db.slots draft.unitId draft.periodStart none = false) :
    ∃ issued, issueInvoice now db draft actorUserId = .ok (issued, draft.row now db.nextId) ∧
      issued.slots = db.slots ++ [(draft.row now db.nextId).slot] := by
  have unused : db.activePeriodTaken (draft.row now db.nextId).unitId (draft.row now db.nextId).periodStart
      none = false := activePeriodTaken_eq.trans free
  simp only [issueInvoice, Db.insertInvoice, unused]
  exact ⟨_, rfl, map_append⟩

theorem issueChunk_ok (wf : WellFormed db) {plans : List PlannedBill} (nodup : (plans.map PlannedBill.unitId).Nodup)
    (free : ∀ plan ∈ plans, takenIn db.slots plan.unitId dto.periodStart none = false) :
    ∃ issued added, issueChunk now condoId dto actorUserId db plans = .ok (issued, added.map InvoiceSlot.created) ∧
      WellFormed issued ∧ issued.slots = db.slots ++ added ∧
      List.Forall₂ (Billed condoId dto) plans added := by
  induction plans generalizing db with
  | nil => exact ⟨db, [], rfl, wf, (append_nil _).symm, .nil⟩
  | cons plan rest ih =>
    rw [map_cons, nodup_cons] at nodup
    obtain ⟨issued, issue, slots⟩ := @issueInvoice_ok db now actorUserId (plan.draft condoId dto)
      (free plan (by simp))
    have others : ∀ other ∈ rest, takenIn issued.slots other.unitId dto.periodStart none = false := by
      intro other mem
      have ne : plan.unitId ≠ other.unitId := fun same => nodup.1 (same ▸ mem_map_of_mem mem)
      have before := free other (mem_cons_of_mem _ mem)
      rw [slots, takenIn, any_append, Bool.or_eq_false_iff]
      refine ⟨before, ?_⟩
      simp [Invoice.slot, InvoiceDraft.row, PlannedBill.draft, ne]
    obtain ⟨commit, _⟩ := issueInvoice_commit issue
    obtain ⟨finished, added, done, well, grown, billed⟩ := ih (commit.wellFormed wf) nodup.2 others
    refine ⟨finished, ((plan.draft condoId dto).row now db.nextId).slot :: added, ?_, well, ?_, ?_⟩
    · simp only [issueChunk, issue, done, bind, Except.bind]
      rfl
    · rw [grown, slots, append_assoc, singleton_append]
    · exact .cons row_slot billed

theorem sole_created {issued : Db} {plans : List PlannedBill} {added : List InvoiceSlot}
    (nodup : (plans.map PlannedBill.unitId).Nodup)
    (free : ∀ plan ∈ plans, takenIn db.slots plan.unitId dto.periodStart none = false)
    (slots : issued.slots = db.slots ++ added) (billed : List.Forall₂ (Billed condoId dto) plans added) :
    ∀ row ∈ added.map InvoiceSlot.created, SoleInvoice issued row.invoiceId row.unitId := by
  intro row listed
  obtain ⟨slot, mem, rfl⟩ := mem_map.mp listed
  obtain ⟨plan, planned, bill⟩ := plan_of_billed billed mem
  have owner : slot.unitId = plan.unitId := congrArg InvoiceSlot.unitId bill
  have period : slot.periodStart = dto.periodStart := congrArg InvoiceSlot.periodStart bill
  refine ⟨slot, slots ▸ mem_append_right _ mem, rfl, rfl, ?_⟩
  rw [takenIn_eq_false, slots]
  intro other inside sameUnit samePeriod active
  rcases mem_append.mp inside with before | new
  · have unused := takenIn_eq_false.mp (free plan planned) other before (sameUnit.trans owner)
      (samePeriod.trans period) active
    cases unused
  · have distinctAdded : (added.map InvoiceSlot.unitId).Nodup := (billed_units billed).symm ▸ nodup
    rw [eq_of_key_eq distinctAdded new mem sameUnit]

/-! ## The chunks in turn -/

def RecurringTally.count (tally : RecurringTally) (existing : List Id) (plans : List PlannedBill) :
    RecurringTally :=
  { tally.preCheck existing plans with created := tally.created + (pendingBills existing plans).length }

theorem RecurringTally.count_append (tally : RecurringTally) (existing : List Id) (first second : List PlannedBill) :
    (tally.count existing first).count existing second = tally.count existing (first ++ second) := by
  simp only [RecurringTally.count, RecurringTally.preCheck, pendingBills, filter_append,
    length_append, countP_append, Nat.add_assoc]

theorem recurringChunk_ok (wf : WellFormed db) {existing : List Id} {chunk : List PlannedBill}
    {tally : RecurringTally} (nodup : ((pendingBills existing chunk).map PlannedBill.unitId).Nodup)
    (free : ∀ plan ∈ pendingBills existing chunk, takenIn db.slots plan.unitId dto.periodStart none = false) :
    ∃ done added, recurringChunk now condoId dto actorUserId existing (db, tally) chunk =
        .ok (done, tally.count existing chunk) ∧
      WellFormed done ∧ done.slots = db.slots ++ added ∧
      List.Forall₂ (Billed condoId dto) (pendingBills existing chunk) added := by
  obtain ⟨issued, added, issue, well, slots, billed⟩ := @issueChunk_ok db now condoId dto actorUserId
    wf _ nodup free
  obtain ⟨failure, created, same, stillWell⟩ := @creditCreated_ok issued now condoId well _
    (sole_created nodup free slots billed)
  refine ⟨_, added, ?_, stillWell, same.trans slots, billed⟩
  simp only [recurringChunk, issue, failure, created, length_map, ← billed.length_eq]
  rfl

theorem recurringChunks_ok {existing : List Id} {remaining : List (List PlannedBill)}
    {tally : RecurringTally} (wf : WellFormed db)
    (nodup : ((pendingBills existing remaining.flatten).map PlannedBill.unitId).Nodup)
    (free : ∀ plan ∈ pendingBills existing remaining.flatten,
      takenIn db.slots plan.unitId dto.periodStart none = false) :
    ∃ done added, remaining.foldlM (recurringChunk now condoId dto actorUserId existing) (db, tally) =
        .ok (done, tally.count existing remaining.flatten) ∧
      WellFormed done ∧ done.slots = db.slots ++ added ∧
      List.Forall₂ (Billed condoId dto) (pendingBills existing remaining.flatten) added := by
  induction remaining generalizing db tally with
  | nil => exact ⟨db, [], rfl, wf, (append_nil _).symm, .nil⟩
  | cons chunk rest ih =>
    have split : pendingBills existing (chunk :: rest).flatten =
        pendingBills existing chunk ++ pendingBills existing rest.flatten := filter_append _ _
    rw [split, map_append, nodup_append] at nodup
    rw [split] at free ⊢
    obtain ⟨middle, first, done, well, slots, billed⟩ := @recurringChunk_ok db now condoId dto actorUserId
      wf existing chunk tally nodup.1 fun plan mem => free plan (mem_append_left _ mem)
    have still : ∀ plan ∈ pendingBills existing rest.flatten,
        takenIn middle.slots plan.unitId dto.periodStart none = false := by
      intro plan mem
      rw [slots, takenIn, any_append, Bool.or_eq_false_iff]
      refine ⟨free plan (mem_append_right _ mem), ?_⟩
      refine takenIn_eq_false.mpr fun slot inside sameUnit _ _ => ?_
      obtain ⟨other, planned, bill⟩ := plan_of_billed billed inside
      have owner : slot.unitId = other.unitId := congrArg InvoiceSlot.unitId bill
      exact absurd (owner.symm.trans sameUnit) (nodup.2.2 _ (mem_map_of_mem planned) _
        (mem_map_of_mem mem))
    obtain ⟨finished, second, others, stillWell, grown, alsoBilled⟩ := ih well nodup.2.1 still
    refine ⟨finished, first ++ second, ?_, stillWell, ?_, ?_⟩
    · rw [foldlM_cons, done, flatten_cons, ← RecurringTally.count_append]
      exact others
    · rw [grown, slots, append_assoc]
    · exact rel_append billed alsoBilled

theorem flatten_slices {Row : Type} (rows : List Row) (size count : Nat) :
    ((List.range count).map fun i => (rows.drop (size * i)).take size).flatten = rows.take (size * count) := by
  induction count with
  | zero => simp
  | succ count ih =>
    rw [range_succ, map_append, flatten_append, ih, Nat.mul_succ, take_add]
    simp

theorem chunks_flatten (plans : List PlannedBill) : (chunks plans).flatten = plans := by
  rw [chunks, flatten_slices, take_of_length_le]
  unfold chunkSize
  omega

theorem mem_existingForPeriod {plans : List PlannedBill} {periodStart : Instant} {unitId : Id}
    (planned : unitId ∈ plans.map PlannedBill.unitId) :
    unitId ∈ existingForPeriod db plans periodStart ↔ takenIn db.slots unitId periodStart none = true := by
  rw [← activePeriodTaken_eq]
  simp only [existingForPeriod, Db.activePeriodTaken, mem_map, mem_filter, any_eq_true, decide_eq_true_eq]
  constructor
  · rintro ⟨invoice, ⟨found, _, period, active⟩, rfl⟩
    exact ⟨invoice, found, rfl, period, active, by simp⟩
  · rintro ⟨invoice, found, rfl, period, active, _⟩
    exact ⟨invoice, ⟨found, mem_map.mp planned, period, active⟩, rfl⟩

theorem plannedBills_distinct (unitIds : (db.units.map ResidentialUnit.id).Nodup) :
    ((plannedBills db condoId dto).map PlannedBill.unitId).Nodup := by
  rw [plannedBills, map_map]
  exact unitIds.sublist (filter_sublist.map _)

theorem generateRecurring_ok (wf : WellFormed db) (unitIds : (db.units.map ResidentialUnit.id).Nodup)
    {condo : Condo} (found : db.condo? condoId = some condo) {actor : Option AuthenticatedUser}
    {options : GenerateRecurringOptions} (authorized : authorizeRecurring actor condoId options = .ok ()) :
    let plans := plannedBills db condoId dto
    let existing := existingForPeriod db plans dto.periodStart
    let tally := (RecurringTally.mk 0 0 0).count existing plans
    ∃ final added, generateRecurring now db actor condoId dto options =
        .ok (final, ⟨tally.created, tally.skipped, tally.skippedNoRate, plans.length⟩) ∧
      WellFormed final ∧ final.slots = db.slots ++ added ∧
      List.Forall₂ (Billed condoId dto) (pendingBills existing plans) added := by
  intro plans existing tally
  have nodup : ((pendingBills existing (chunks plans).flatten).map PlannedBill.unitId).Nodup := by
    rw [chunks_flatten]
    exact (plannedBills_distinct unitIds).sublist (filter_sublist.map _)
  have free : ∀ plan ∈ pendingBills existing (chunks plans).flatten,
      takenIn db.slots plan.unitId dto.periodStart none = false := by
    rw [chunks_flatten]
    intro plan mem
    simp only [pendingBills, mem_filter, decide_eq_true_eq] at mem
    have open_ := mem.2.2
    rwa [mem_existingForPeriod (mem_map_of_mem mem.1), Bool.not_eq_true] at open_
  obtain ⟨final, added, done, well, slots, billed⟩ := @recurringChunks_ok db now condoId dto
    (options.triggeredByUserId.or (actor.map AuthenticatedUser.id)) existing (chunks plans) ⟨0, 0, 0⟩
    wf nodup free
  rw [chunks_flatten] at done billed
  refine ⟨final, added, ?_, well, slots, billed⟩
  simp only [generateRecurring, found, authorized]
  rw [done]
  rfl

end SmartResidence.Billing
