import SmartResidence.Proof.VendorPostings

/-!
# Accounts payable and approved vendor bills
-/

namespace SmartResidence.Procurement

open Foundation Billing Accounting List

variable {env : Env} {condoId : Id} {gl : GlDb} {db : ProcurementDb} {calls : List InFlight} {due : Id → ℤ}

def approvedTotal (bills : List VendorBill) (condoId : Id) : ℤ :=
  sumBy VendorBill.amount (bills.filter fun bill => decide (bill.condoId = condoId ∧ bill.status = .approved))

def InFlight.Halfway : InFlight → Prop
  | .accruing .. | .settling .. => True
  | .editing .. | .approving .. | .paying .. | .voiding .. => False

def InFlight.posts : InFlight → Option VendorBill
  | .accruing _ bill => some bill
  | .paying _ existing => some existing
  | .editing .. | .approving .. | .settling .. | .voiding .. => none

def InFlight.moves : InFlight → Option Id
  | .accruing _ bill => some bill.id
  | .paying _ existing => some existing.id
  | .settling id _ _ => some id
  | .editing .. | .approving .. | .voiding .. => none

/-- No step changes an approved amount, approves a bill that is paid or void, or voids one that is approved or paid. -/
def KeepsPayable (condoId : Id) (state : BillState) : BillEvent → Prop
  | .advance _ (.editing id dto) => ∀ bill ∈ state.db.bill? id, bill.condoId = condoId → bill.status = .approved →
      state.db.numberTaken (dto.edited bill).condoId (dto.edited bill).billNumber (some id) = false →
      (dto.edited bill).amount = bill.amount
  | .advance _ (.approving _ id) => ∀ bill ∈ state.db.bill? id, bill.condoId = condoId →
      bill.status = .draft ∨ bill.status = .approved
  | .advance _ (.voiding id) => ∀ bill ∈ state.db.bill? id, bill.condoId = condoId →
      bill.status = .draft ∨ bill.status = .void
  | _ => True

structure BillState.Opened (env : Env) (condoId : Id) (state : BillState) : Prop where
  bills : state.db.bills = []
  calls : state.calls = []
  ids : AccountIds state.db.gl
  charted : Charted condoId state.db.gl
  unposted : ∀ entry ∈ state.db.gl.entries, isVendorEntry entry = false
  keys : ∀ id, KeyFree state.db.gl (some (vendorBillKey env id)) ∧ KeyFree state.db.gl (some (vendorPaymentKey env id))

theorem bind_ok {α β : Type} {step : Outcome α} {rest : α → Outcome β} {result : β} :
    step >>= rest = .ok result ↔ ∃ value, step = .ok value ∧ rest value = .ok result := by
  cases step with
  | error failure => exact ⟨nofun, nofun⟩
  | ok value => exact ⟨fun done => ⟨value, rfl, done⟩, fun ⟨_, same, done⟩ => by cases same; exact done⟩

theorem refuseIf_ok {condition : Bool} {failure : ProcurementError} {value : Unit} :
    refuseIf condition failure = .ok value ↔ condition = false := by
  cases condition
  · exact ⟨fun _ => rfl, fun _ => rfl⟩
  · exact ⟨nofun, nofun⟩

theorem requireBill_ok {id : Id} {bill : VendorBill} (read : requireBill db id = .ok bill) : bill ∈ db.bills := by
  unfold requireBill at read
  split at read
  · cases read
  · rename_i found
    cases read
    exact (mem_of_findBy found).1

theorem create_ok {user : AuthenticatedUser} {dto : CreateVendorBillDto} {after : ProcurementDb}
    (created : create db user dto = .ok after) :
    after = { db with bills := db.bills ++ [dto.row db.nextId], nextId := db.nextId + 1 } := by
  unfold create at created
  simp only [bind_ok] at created
  obtain ⟨_, _, _, _, _, _, _, _, done⟩ := created
  exact (Except.ok.inj done).symm

theorem stored_pos {amount : ℚ} (large : 1 ≤ amount) : 0 < stored amount := by
  by_contra small
  have below := (stored_le_iff (by linarith)).mp (not_lt.mp small)
  linarith

theorem read_ok {call : BillCall} {inFlight : InFlight} (read : call.read db = .ok inFlight) :
    inFlight.moves = none ∨ ∃ userId, ∃ existing ∈ db.bills,
      existing.status = .approved ∧ inFlight = .paying userId existing := by
  cases call with
  | update user id dto =>
    left
    unfold BillCall.read at read
    simp only [bind_ok] at read
    obtain ⟨_, _, _, _, _, _, read⟩ := read
    have done : pure (.editing id dto) = (.ok inFlight : Outcome InFlight) := by
      split at read
      · split at read
        · exact read
        · obtain ⟨_, _, done⟩ := bind_ok.mp read
          exact done
      · obtain ⟨_, _, read⟩ := bind_ok.mp read
        split at read
        · exact read
        · obtain ⟨_, _, done⟩ := bind_ok.mp read
          exact done
    cases done
    rfl
  | approve user id =>
    left
    unfold BillCall.read at read
    simp only [bind_ok] at read
    obtain ⟨_, _, _, _, _, _, _, _, done⟩ := read
    cases done
    rfl
  | markPaid user id =>
    right
    unfold BillCall.read at read
    simp only [bind_ok, refuseIf_ok] at read
    obtain ⟨existing, found, _, _, _, _, _, approved, done⟩ := read
    cases done
    exact ⟨user.id, existing, requireBill_ok found, by simpa using approved, rfl⟩
  | voidBill user id =>
    left
    unfold BillCall.read at read
    simp only [bind_ok] at read
    obtain ⟨_, _, _, _, _, _, _, _, _, _, done⟩ := read
    cases done
    rfl

/-! ## What is posted of a bill -/

def Accrued (env : Env) (gl : GlDb) (id : Id) : Prop := ¬ KeyFree gl (some (vendorBillKey env id))

def Disbursed (env : Env) (gl : GlDb) (id : Id) : Prop := ¬ KeyFree gl (some (vendorPaymentKey env id))

open Classical in
noncomputable def owed (env : Env) (gl : GlDb) (due : Id → ℤ) (id : Id) : ℤ :=
  (if Accrued env gl id then due id else 0) - if Disbursed env gl id then due id else 0

section

variable {after : GlDb} {own : Id} (uuids : Function.Injective env.uuid)
include uuids

theorem accrual_keys (posted : PostedUnder condoId (vendorBillKey env own) gl after) :
    (∀ id, id ≠ own → (Accrued env after id ↔ Accrued env gl id)) ∧
      ∀ id, Disbursed env after id ↔ Disbursed env gl id := by
  constructor
  · intro id ne
    exact not_congr (posted.keys _ fun same => ne (key_injective uuids same))
  · intro id
    exact not_congr (posted.keys _ (vendorBillKey_ne_vendorPaymentKey own id).symm)

theorem payment_keys (posted : PostedUnder condoId (vendorPaymentKey env own) gl after) :
    (∀ id, Accrued env after id ↔ Accrued env gl id) ∧
      ∀ id, id ≠ own → (Disbursed env after id ↔ Disbursed env gl id) := by
  constructor
  · intro id
    exact not_congr (posted.keys _ (vendorBillKey_ne_vendorPaymentKey id own))
  · intro id ne
    exact not_congr (posted.keys _ fun same => ne (key_injective uuids same))

end

theorem owed_congr {after : GlDb} {id : Id} (accrued : Accrued env after id ↔ Accrued env gl id)
    (disbursed : Disbursed env after id ↔ Disbursed env gl id) : owed env after due id = owed env gl due id := by
  classical
  unfold owed
  congr 1
  · exact if_congr accrued rfl rfl
  · exact if_congr disbursed rfl rfl

theorem owed_accrued {after : GlDb} {id : Id} (before : ¬ Accrued env gl id) (accrued : Accrued env after id)
    (disbursed : Disbursed env after id ↔ Disbursed env gl id) :
    owed env after due id = owed env gl due id + due id := by
  classical
  unfold owed
  rw [if_pos accrued, if_neg before, if_congr disbursed rfl rfl]
  ring

theorem owed_disbursed {after : GlDb} {id : Id} (before : ¬ Disbursed env gl id) (disbursed : Disbursed env after id)
    (accrued : Accrued env after id ↔ Accrued env gl id) : owed env after due id = owed env gl due id - due id := by
  classical
  unfold owed
  rw [if_pos disbursed, if_neg before, if_congr accrued rfl rfl]
  ring

def moving (calls : List InFlight) (id : Id) : List InFlight :=
  calls.filter fun call => decide (call.moves = some id)

theorem mem_moving {call : InFlight} {id : Id} : call ∈ moving calls id ↔ call ∈ calls ∧ call.moves = some id := by
  simp [moving]

section

variable {front back : List InFlight} {call : InFlight} {next : Option InFlight} {id : Id}

variable {other : InFlight}

theorem mem_advanced (mem : other ∈ front ++ next.toList ++ back) :
    other ∈ front ++ call :: back ∨ next = some other := by
  simp only [mem_append, Option.mem_toList] at mem ⊢
  tauto

theorem moving_advanced_other (own : call.moves ≠ some id) (later : ∀ other ∈ next, other.moves ≠ some id) :
    moving (front ++ next.toList ++ back) id = moving (front ++ call :: back) id := by
  unfold moving
  rw [filter_append, filter_append, filter_append, filter_cons_of_neg (by simpa using own)]
  cases next with
  | none => simp
  | some other => simp [later other rfl]

theorem mem_moving_later (mem : other ∈ moving (front ++ next.toList ++ back) id) :
    other ∈ moving (front ++ call :: back) id ∨ next = some other := by
  rw [mem_moving] at mem
  have advanced : other ∈ front ++ call :: back ∨ next = some other := mem_advanced mem.1
  rcases advanced with old | new
  · exact .inl (mem_moving.mpr ⟨old, mem.2⟩)
  · exact .inr new

theorem mem_moving_advanced (mem : other ∈ moving (front ++ call :: back) id) (ne : other ≠ call) :
    other ∈ moving (front ++ next.toList ++ back) id := by
  rw [mem_moving] at mem ⊢
  have listed := mem.1
  simp only [mem_append, mem_cons] at listed ⊢
  tauto

end

/-! ## The invariant -/

structure Standing (env : Env) (gl : GlDb) (due : ℤ) (moving : List InFlight) (bill : VendorBill) : Prop where
  idle : bill.status = .draft ∨ bill.status = .void →
    ¬ Accrued env gl bill.id ∧ ¬ Disbursed env gl bill.id ∧ moving = []
  agreed : bill.status = .approved → due = bill.amount
  rows : ∀ call ∈ moving, ∀ row ∈ call.posts, row.amount = due
  accrual : bill.status = .approved ∨ bill.status = .paid →
    Accrued env gl bill.id ∨ ∃ userId row, .accruing userId row ∈ moving
  pending : bill.status = .approved → Disbursed env gl bill.id →
    ∃ paidAt entryId, .settling bill.id paidAt entryId ∈ moving
  settling : ∀ call ∈ moving, call.posts = none → Disbursed env gl bill.id
  paid : bill.status = .paid → Disbursed env gl bill.id

theorem Standing.untouched {bill : VendorBill} {amount : ℤ} {moving : List InFlight}
    (status : bill.status = .draft ∨ bill.status = .void) (unaccrued : ¬ Accrued env gl bill.id)
    (undisbursed : ¬ Disbursed env gl bill.id) (unmoved : moving = []) : Standing env gl amount moving bill where
  idle _ := ⟨unaccrued, undisbursed, unmoved⟩
  agreed := by rcases status with same | same <;> simp [same]
  rows := by simp [unmoved]
  accrual := by rcases status with same | same <;> simp [same]
  pending := by rcases status with same | same <;> simp [same]
  settling := by simp [unmoved]
  paid := by rcases status with same | same <;> simp [same]

theorem Standing.approvable {bill : VendorBill} {moving : List InFlight}
    (standing : Standing env gl (due bill.id) moving bill) (status : bill.status = .draft ∨ bill.status = .approved) :
    (∀ call ∈ moving, ∀ row ∈ call.posts, row.amount = bill.amount) ∧
      (Disbursed env gl bill.id → ∃ paidAt entryId, .settling bill.id paidAt entryId ∈ moving) ∧
      owed env gl (Function.update due bill.id bill.amount) bill.id = owed env gl due bill.id := by
  rcases status with draft | approved
  · obtain ⟨unaccrued, undisbursed, unmoved⟩ := standing.idle (.inl draft)
    refine ⟨by simp [unmoved], fun disbursed => absurd disbursed undisbursed, ?_⟩
    simp [owed, unaccrued, undisbursed]
  · have agreed := standing.agreed approved
    refine ⟨fun call mem row posts => (standing.rows call mem row posts).trans agreed, standing.pending approved, ?_⟩
    rw [← agreed, Function.update_eq_self]

def InFlight.Known (bills : List VendorBill) (call : InFlight) : Prop :=
  ∀ id ∈ call.moves, ∃ bill ∈ bills, bill.id = id ∧ ∀ row ∈ call.posts, row.condoId = bill.condoId ∧ 0 < row.amount

structure Payables (env : Env) (condoId : Id) (due : Id → ℤ) (state : BillState) : Prop where
  ids : AccountIds state.db.gl
  charted : Charted condoId state.db.gl
  bills : Allocated (state.db.bills.map VendorBill.id) state.db.nextId
  amounts : ∀ bill ∈ state.db.bills, 0 < bill.amount
  fresh : ∀ id, state.db.nextId ≤ id → ¬ Accrued env state.db.gl id ∧ ¬ Disbursed env state.db.gl id
  known : ∀ call ∈ state.calls, call.Known state.db.bills
  standing : ∀ bill ∈ state.db.bills, bill.condoId = condoId →
    Standing env state.db.gl (due bill.id) (moving state.calls bill.id) bill
  balance : vendorPayable state.db.gl condoId =
    sumBy (fun bill => owed env state.db.gl due bill.id)
      (state.db.bills.filter fun bill => decide (bill.condoId = condoId))

theorem InFlight.Known.mono {bills later : List VendorBill} {call : InFlight} (known : call.Known bills)
    (kept : ∀ bill ∈ bills, ∃ row ∈ later, row.id = bill.id ∧ row.condoId = bill.condoId) : call.Known later := by
  intro id moves
  obtain ⟨bill, found, isId, rows⟩ := known id moves
  obtain ⟨row, mem, sameId, sameCondo⟩ := kept bill found
  exact ⟨row, mem, sameId.trans isId, sameCondo ▸ rows⟩

namespace Payables

theorem opened {start : BillState} (opened : start.Opened env condoId) : Payables env condoId due start where
  ids := opened.ids
  charted := opened.charted
  bills := by
    rw [opened.bills]
    exact .nil
  amounts := by simp [opened.bills]
  fresh id _ := ⟨not_not.mpr (opened.keys id).1, not_not.mpr (opened.keys id).2⟩
  known := by simp [opened.calls]
  standing := by simp [opened.bills]
  balance := by
    have none : start.db.gl.entries.filter isVendorEntry = [] := by
      rw [filter_eq_nil_iff]
      intro entry mem
      simp [opened.unposted entry mem]
    rw [vendorPayable, none, opened.bills]
    rfl

theorem settled {state : BillState} (payables : Payables env condoId due state)
    (settled : ∀ call ∈ state.calls, ¬ call.Halfway) :
    vendorPayable state.db.gl condoId = approvedTotal state.db.bills condoId := by
  rw [payables.balance, approvedTotal, sumBy_filter, sumBy_filter]
  refine sumBy_congr fun bill mem => ?_
  by_cases own : bill.condoId = condoId
  · have standing := payables.standing bill mem own
    have accrued : bill.status = .approved ∨ bill.status = .paid → Accrued env state.db.gl bill.id := by
      intro approved
      refine (standing.accrual approved).resolve_right ?_
      rintro ⟨userId, row, accruing⟩
      exact settled _ (mem_moving.mp accruing).1 trivial
    cases status : bill.status
    · obtain ⟨accrued, disbursed, _⟩ := standing.idle (.inl status)
      simp [owed, accrued, disbursed]
    · have undisbursed : ¬ Disbursed env state.db.gl bill.id := by
        intro disbursed
        obtain ⟨paidAt, entryId, settling⟩ := standing.pending status disbursed
        exact settled _ (mem_moving.mp settling).1 trivial
      simp [owed, accrued (.inl status), undisbursed, standing.agreed status]
    · simp [owed, accrued (.inr status), standing.paid status]
    · obtain ⟨accrued, disbursed, _⟩ := standing.idle (.inr status)
      simp [owed, accrued, disbursed]
  · simp [own]

/-! ### What a step changes -/

theorem turned {later : List InFlight} (payables : Payables env condoId due ⟨db, calls⟩)
    (known : ∀ call ∈ later, call.Known db.bills) (same : ∀ id, moving later id = moving calls id) :
    Payables env condoId due ⟨db, later⟩ where
  ids := payables.ids
  charted := payables.charted
  bills := payables.bills
  amounts := payables.amounts
  fresh := payables.fresh
  known := known
  standing bill mem own := by
    rw [show moving (BillState.mk db later).calls bill.id = moving calls bill.id from same _]
    exact payables.standing bill mem own
  balance := payables.balance

section

variable {change : VendorBill → VendorBill} {target : Id}

theorem mem_updateBill (keptId : ∀ bill, (change bill).id = bill.id)
    (keptCondo : ∀ bill, (change bill).condoId = bill.condoId) {bill : VendorBill} (mem : bill ∈ db.bills) :
    ∃ row ∈ (db.updateBill target change).bills, row.id = bill.id ∧ row.condoId = bill.condoId := by
  refine ⟨_, mem_updateBy.mpr ⟨bill, mem, rfl⟩, ?_, ?_⟩
  · split
    · exact keptId bill
    · rfl
  · split
    · exact keptCondo bill
    · rfl

variable {later : List InFlight}

theorem updated {due' : Id → ℤ} (payables : Payables env condoId due ⟨db, calls⟩)
    (keptId : ∀ bill, (change bill).id = bill.id) (keptCondo : ∀ bill, (change bill).condoId = bill.condoId)
    (amounts : ∀ bill, 0 < bill.amount → 0 < (change bill).amount) (known : ∀ call ∈ later, call.Known db.bills)
    (others : ∀ id, id ≠ target → moving later id = moving calls id ∧ due' id = due id)
    (own : ∀ bill ∈ db.bills, bill.id = target → bill.condoId = condoId →
      Standing env db.gl (due bill.id) (moving calls bill.id) bill →
      Standing env db.gl (due' bill.id) (moving later bill.id) (change bill) ∧
        owed env db.gl due' bill.id = owed env db.gl due bill.id) :
    Payables env condoId due' ⟨db.updateBill target change, later⟩ where
  ids := payables.ids
  charted := payables.charted
  bills := payables.bills.updateBy le_rfl keptId
  amounts := by
    intro row mem
    obtain ⟨bill, found, rfl⟩ := mem_updateBy.mp mem
    split
    · exact amounts bill (payables.amounts bill found)
    · exact payables.amounts bill found
  fresh := payables.fresh
  known call mem := (known call mem).mono fun bill found => mem_updateBill keptId keptCondo found
  standing := by
    intro row mem mine
    obtain ⟨bill, found, rfl⟩ := mem_updateBy.mp mem
    by_cases same : bill.id = target
    · rw [if_pos same] at mine ⊢
      rw [keptId]
      rw [keptCondo] at mine
      exact (own bill found same mine (payables.standing bill found mine)).1
    · rw [if_neg same] at mine ⊢
      obtain ⟨movingSame, dueSame⟩ := others bill.id same
      rw [dueSame]
      rw [movingSame]
      exact payables.standing bill found mine
  balance := by
    show vendorPayable db.gl condoId = _
    rw [payables.balance, sumBy_filter, sumBy_filter]
    unfold ProcurementDb.updateBill updateBy
    rw [sumBy_updateWhere]
    refine sumBy_congr fun bill found => ?_
    by_cases same : bill.id = target
    · simp only [keptId, keptCondo]
      by_cases mine : bill.condoId = condoId
      · rw [← same]
        simp only [mine]
        exact (own bill found same mine (payables.standing bill found mine)).2.symm
      · simp [mine]
    · simp only [same, decide_false, Bool.false_eq_true, if_false, owed, (others bill.id same).2]

theorem posted {after : GlDb} (payables : Payables env condoId due ⟨db, calls⟩) (ids : AccountIds after)
    (charted : Charted condoId after) (known : ∀ call ∈ later, call.Known db.bills) {bill : VendorBill}
    (found : bill ∈ db.bills) (keys : ∀ id, id ≠ bill.id → (Accrued env after id ↔ Accrued env db.gl id) ∧
      (Disbursed env after id ↔ Disbursed env db.gl id))
    (others : ∀ id, id ≠ bill.id → moving later id = moving calls id)
    (own : bill.condoId = condoId → Standing env after (due bill.id) (moving later bill.id) bill)
    (payable : vendorPayable after condoId = vendorPayable db.gl condoId +
      if bill.condoId = condoId then owed env after due bill.id - owed env db.gl due bill.id else 0) :
    Payables env condoId due ⟨{ db with gl := after }, later⟩ where
  ids := ids
  charted := charted
  bills := payables.bills
  amounts := payables.amounts
  fresh id large := by
    have ne : id ≠ bill.id := by
      rintro rfl
      exact absurd (payables.bills.below _ (mem_map_of_mem found)) (not_lt.mpr large)
    rw [(keys id ne).1, (keys id ne).2]
    exact payables.fresh id large
  known := known
  standing row mem mine := by
    by_cases same : row.id = bill.id
    · obtain rfl := eq_of_key_eq payables.bills.distinct mem found same
      exact own mine
    · have standing := payables.standing row mem mine
      obtain ⟨accrued, disbursed⟩ := keys row.id same
      rw [others row.id same]
      exact ⟨by rw [accrued, disbursed]; exact standing.idle, standing.agreed, standing.rows,
        by rw [accrued]; exact standing.accrual, by rw [disbursed]; exact standing.pending,
        by rw [disbursed]; exact standing.settling, by rw [disbursed]; exact standing.paid⟩
  balance := by
    have part : ∀ row : VendorBill, owed env after due row.id = owed env db.gl due row.id +
        if row.id = bill.id then owed env after due bill.id - owed env db.gl due bill.id else 0 := by
      intro row
      by_cases same : row.id = bill.id
      · rw [if_pos same, same]
        ring
      · rw [if_neg same, add_zero]
        exact owed_congr (keys row.id same).1 (keys row.id same).2
    rw [payable, payables.balance, sumBy_congr fun row _ => part row, sumBy_add]
    congr 1
    by_cases mine : bill.condoId = condoId
    · rw [if_pos mine]
      refine (sumBy_own (fun _ : VendorBill => owed env after due bill.id - owed env db.gl due bill.id) ?_ ?_).symm
      · exact payables.bills.distinct.sublist (filter_sublist.map _)
      · simp [found, mine]
    · rw [if_neg mine]
      refine (sumBy_zero _ fun (row : VendorBill) mem => if_neg ?_).symm
      intro same
      obtain ⟨listed, theirs⟩ := mem_filter.mp mem
      obtain rfl := eq_of_key_eq payables.bills.distinct listed found same
      exact mine (of_decide_eq_true theirs)

end

/-! ### Steps -/

section

variable (payables : Payables env condoId due ⟨db, calls⟩)
include payables

theorem unmoved {id : Id} (large : db.nextId ≤ id) : moving calls id = [] := by
  unfold moving
  rw [filter_eq_nil_iff]
  intro call mem about
  obtain ⟨bill, found, rfl, _⟩ := payables.known call mem id (of_decide_eq_true about)
  exact absurd (payables.bills.below _ (mem_map_of_mem found)) (not_lt.mpr large)

theorem created {user : AuthenticatedUser} {dto : CreateVendorBillDto} {after : ProcurementDb} (created : create db user dto = .ok after) :
    Payables env condoId due ⟨after, calls⟩ := by
  obtain rfl := create_ok created
  obtain ⟨unaccrued, undisbursed⟩ := payables.fresh db.nextId le_rfl
  have unmoved := payables.unmoved le_rfl
  exact {
    ids := payables.ids
    charted := payables.charted
    bills := payables.bills.insert rfl (Nat.lt_succ_self _)
    amounts := by
      intro bill mem
      rcases mem_append.mp mem with old | new
      · exact payables.amounts bill old
      · rw [mem_singleton.mp new]
        exact stored_pos dto.amount_ge
    fresh := fun id large => payables.fresh id ((Nat.le_succ _).trans large)
    known := fun call mem => (payables.known call mem).mono fun bill found => ⟨bill, mem_append_left _ found, rfl, rfl⟩
    standing := by
      intro bill mem own
      rcases mem_append.mp mem with old | new
      · exact payables.standing bill old own
      · rw [mem_singleton] at new
        subst new
        exact .untouched (.inl rfl) unaccrued undisbursed unmoved
    balance := by
      have none : owed env db.gl due (dto.row db.nextId).id = 0 := by
        show owed env db.gl due db.nextId = 0
        simp [owed, unaccrued, undisbursed]
      rw [filter_append, sumBy_append, payables.balance, left_eq_add, sumBy_filter, sumBy_cons, none, ite_self]
      rfl }

theorem reads {call : BillCall} {inFlight : InFlight}
    (read : call.read db = .ok inFlight) : Payables env condoId due ⟨db, calls ++ [inFlight]⟩ := by
  rcases read_ok read with silent | ⟨userId, existing, found, approved, rfl⟩
  · refine payables.turned (fun other mem => ?_) fun id => ?_
    · rcases mem_append.mp mem with old | new
      · exact payables.known other old
      · rw [mem_singleton.mp new]
        intro id moves
        rw [silent] at moves
        cases moves
    · simp [moving, silent]
  · have known : ∀ other ∈ calls ++ [.paying userId existing], other.Known db.bills := by
      intro other mem
      rcases mem_append.mp mem with old | new
      · exact payables.known other old
      · rw [mem_singleton.mp new]
        rintro _ ⟨⟩
        refine ⟨existing, found, rfl, ?_⟩
        rintro _ ⟨⟩
        exact ⟨rfl, payables.amounts existing found⟩
    refine payables.posted payables.ids payables.charted known found (fun _ _ => ⟨Iff.rfl, Iff.rfl⟩) ?_ ?_ ?_
    · intro id ne
      simp [moving, InFlight.moves, ne.symm]
    · intro own
      have standing := payables.standing existing found own
      have more : moving (calls ++ [.paying userId existing]) existing.id =
          moving calls existing.id ++ [.paying userId existing] := by simp [moving, InFlight.moves]
      rw [more]
      exact {
        idle := by simp [approved]
        agreed := standing.agreed
        rows := by
          intro other mem row posts
          rcases mem_append.mp mem with old | new
          · exact standing.rows other old row posts
          · rw [mem_singleton.mp new] at posts
            cases posts
            exact (standing.agreed approved).symm
        accrual := fun status => (standing.accrual status).imp_right fun ⟨userId, row, accruing⟩ =>
          ⟨userId, row, mem_append_left _ accruing⟩
        pending := fun status disbursed => let ⟨paidAt, entryId, settling⟩ := standing.pending status disbursed
          ⟨paidAt, entryId, mem_append_left _ settling⟩
        settling := by
          intro other mem silent
          rcases mem_append.mp mem with old | new
          · exact standing.settling other old silent
          · rw [mem_singleton.mp new] at silent
            cases silent
        paid := standing.paid }
    · simp

end

section

variable {front back : List InFlight} {call : InFlight} {now : Instant}

theorem known_advanced {next : Option InFlight} (payables : Payables env condoId due ⟨db, front ++ call :: back⟩)
    (known : ∀ other ∈ next, other.Known db.bills) : ∀ other ∈ front ++ next.toList ++ back, other.Known db.bills := by
  intro other mem
  rcases mem_advanced mem with old | new
  · exact payables.known other old
  · exact known other new

theorem ended (payables : Payables env condoId due ⟨db, front ++ call :: back⟩) (silent : call.moves = none) :
    Payables env condoId due ⟨db, front ++ (none : Option InFlight).toList ++ back⟩ := by
  refine payables.turned (payables.known_advanced (by simp)) fun id => ?_
  exact moving_advanced_other (by simp [silent]) (by simp)

theorem edits {id : Id} {dto : UpdateVendorBillDto}
    (payables : Payables env condoId due ⟨db, front ++ .editing id dto :: back⟩)
    (keeps : KeepsPayable condoId ⟨db, front ++ .editing id dto :: back⟩ (.advance now (.editing id dto))) :
    Payables env condoId due ⟨((InFlight.editing id dto).advance env now db).1,
      front ++ ((InFlight.editing id dto).advance env now db).2.toList ++ back⟩ := by
  unfold InFlight.advance
  dsimp only
  cases looked : db.bill? id with
  | none => exact payables.ended rfl
  | some bill =>
    dsimp only
    split
    · exact payables.ended rfl
    · rename_i free
      have same : ∀ other, moving (front ++ (none : Option InFlight).toList ++ back) other =
          moving (front ++ .editing id dto :: back) other :=
        fun other => moving_advanced_other (by simp [InFlight.moves]) (by simp)
      refine payables.updated (fun _ => rfl) (fun _ => rfl) ?_ (payables.known_advanced (by simp))
        (fun other _ => ⟨same other, rfl⟩) ?_
      · intro row pos
        unfold UpdateVendorBillDto.edited
        cases amount : dto.amount with
        | none => exact pos
        | some value => exact stored_pos (dto.amount_ge value amount)
      · rintro row found rfl own standing
        have read : db.bill? row.id = some row := findBy_of_mem payables.bills.distinct found
        obtain rfl := Option.some.inj (looked.symm.trans read)
        rw [same]
        refine ⟨⟨standing.idle, ?_, standing.rows, standing.accrual, standing.pending, standing.settling,
          standing.paid⟩, rfl⟩
        intro approved
        rw [keeps bill looked own approved (Bool.eq_false_iff.mpr free)]
        exact standing.agreed approved

theorem voids {id : Id} (payables : Payables env condoId due ⟨db, front ++ .voiding id :: back⟩)
    (keeps : KeepsPayable condoId ⟨db, front ++ .voiding id :: back⟩ (.advance now (.voiding id))) :
    Payables env condoId due ⟨((InFlight.voiding id).advance env now db).1,
      front ++ ((InFlight.voiding id).advance env now db).2.toList ++ back⟩ := by
  unfold InFlight.advance
  have same : ∀ other, moving (front ++ (none : Option InFlight).toList ++ back) other =
      moving (front ++ .voiding id :: back) other :=
    fun other => moving_advanced_other (by simp [InFlight.moves]) (by simp)
  refine payables.updated (fun _ => rfl) (fun _ => rfl) (fun _ pos => pos)
    (payables.known_advanced (by simp)) (fun other _ => ⟨same other, rfl⟩) ?_
  rintro row found rfl own standing
  have looked : db.bill? row.id = some row := findBy_of_mem payables.bills.distinct found
  obtain ⟨unaccrued, undisbursed, unmoved⟩ := standing.idle (keeps row looked own)
  exact ⟨.untouched (.inr rfl) unaccrued undisbursed ((same row.id).trans unmoved), rfl⟩

theorem approves {userId id : Id} (payables : Payables env condoId due ⟨db, front ++ .approving userId id :: back⟩)
    (keeps : KeepsPayable condoId ⟨db, front ++ .approving userId id :: back⟩ (.advance now (.approving userId id))) :
    ∃ due', Payables env condoId due' ⟨((InFlight.approving userId id).advance env now db).1,
      front ++ ((InFlight.approving userId id).advance env now db).2.toList ++ back⟩ := by
  unfold InFlight.advance
  dsimp only
  cases looked : db.bill? id with
  | none => exact ⟨due, payables.ended rfl⟩
  | some bill =>
    obtain ⟨listed, rfl⟩ := mem_of_findBy looked
    let approved : VendorBill :=
      { bill with status := .approved, approvedByUserId := some userId, approvedAt := some now }
    have known : ∀ other ∈ some (InFlight.accruing userId approved), other.Known db.bills := by
      rintro _ ⟨⟩ _ ⟨⟩
      refine ⟨bill, listed, rfl, ?_⟩
      rintro _ ⟨⟩
      exact ⟨rfl, payables.amounts bill listed⟩
    refine ⟨Function.update due bill.id bill.amount, payables.updated (fun _ => rfl) (fun _ => rfl)
      (fun _ pos => pos) (payables.known_advanced known) (fun other ne => ⟨?_, ?_⟩) ?_⟩
    · refine moving_advanced_other (by simp [InFlight.moves]) ?_
      rintro _ ⟨⟩ same
      exact ne (Option.some.inj same).symm
    · exact Function.update_of_ne ne _ _
    · intro row found same own standing
      obtain rfl := eq_of_key_eq payables.bills.distinct found listed same
      obtain ⟨rows, pending, same⟩ := standing.approvable (keeps row looked own)
      have kept : ∀ other ∈ moving (front ++ .approving userId row.id :: back) row.id,
          other ∈ moving (front ++ (some (InFlight.accruing userId approved)).toList ++ back) row.id := by
        intro other mem
        refine mem_moving_advanced mem ?_
        rintro rfl
        simp [mem_moving, InFlight.moves] at mem
      refine ⟨{
        idle := by simp
        agreed := fun _ => Function.update_self _ _ _
        rows := ?_
        accrual := fun _ => .inr ⟨userId, approved, by simp [mem_moving, InFlight.moves, approved]⟩
        pending := fun _ disbursed => let ⟨paidAt, entryId, settling⟩ := pending disbursed
          ⟨paidAt, entryId, kept _ settling⟩
        settling := ?_
        paid := by simp }, same⟩
      · intro other mem posted posts
        rw [Function.update_self]
        rcases mem_moving_later mem with old | new
        · exact rows other old posted posts
        · cases new
          cases posts
          rfl
      · intro other mem silent
        rcases mem_moving_later mem with old | new
        · exact standing.settling other old silent
        · cases new
          cases silent

theorem settles {id : Id} {paidAt : Instant} {entryId : Option Id}
    (payables : Payables env condoId due ⟨db, front ++ .settling id paidAt entryId :: back⟩) :
    Payables env condoId due ⟨((InFlight.settling id paidAt entryId).advance env now db).1,
      front ++ ((InFlight.settling id paidAt entryId).advance env now db).2.toList ++ back⟩ := by
  unfold InFlight.advance
  refine payables.updated (fun _ => rfl) (fun _ => rfl) (fun _ pos => pos)
    (payables.known_advanced (by simp)) (fun other ne => ⟨?_, rfl⟩) ?_
  · refine moving_advanced_other ?_ (by simp)
    intro same
    exact ne (Option.some.inj same).symm
  · rintro row found rfl own standing
    have about : .settling row.id paidAt entryId ∈ moving (front ++ .settling row.id paidAt entryId :: back) row.id := by
      simp [mem_moving, InFlight.moves]
    have disbursed := standing.settling _ about rfl
    refine ⟨{
      idle := by simp
      agreed := by simp
      rows := fun other mem => standing.rows other ((mem_moving_later mem).resolve_right (by simp))
      accrual := ?_
      pending := by simp
      settling := fun _ _ _ => disbursed
      paid := fun _ => disbursed }, rfl⟩
    intro _
    have before : row.status = .approved ∨ row.status = .paid := by
      cases status : row.status
      · exact absurd disbursed (standing.idle (.inl status)).2.1
      · exact .inl rfl
      · exact .inr rfl
      · exact absurd disbursed (standing.idle (.inr status)).2.1
    refine (standing.accrual before).imp_right ?_
    rintro ⟨userId, posted, accruing⟩
    exact ⟨userId, posted, mem_moving_advanced accruing (by simp)⟩

section

variable (uuids : Function.Injective env.uuid) {userId : Id} {row : VendorBill}
include uuids

theorem accrues (payables : Payables env condoId due ⟨db, front ++ .accruing userId row :: back⟩) :
    Payables env condoId due ⟨((InFlight.accruing userId row).advance env now db).1,
      front ++ ((InFlight.accruing userId row).advance env now db).2.toList ++ back⟩ := by
  unfold InFlight.advance
  obtain ⟨bill, found, isId, posts⟩ := payables.known (.accruing userId row) (by simp) row.id rfl
  obtain ⟨sameCondo, pos⟩ := posts row rfl
  have others : ∀ id, id ≠ bill.id → moving (front ++ (none : Option InFlight).toList ++ back) id =
      moving (front ++ .accruing userId row :: back) id := by
    intro id ne
    refine moving_advanced_other ?_ (by simp)
    intro same
    exact ne ((Option.some.inj same).symm.trans isId.symm)
  by_cases own : row.condoId = condoId
  · subst own
    have posted : PostedOwn row.condoId (vendorBillKey env bill.id) row.amount db.gl
        (postVendorBillApproved env (accrualOpts userId row) db.gl).2 := by
      rw [isId]
      exact accrued_own env (accrualOpts userId row) rfl payables.ids pos payables.charted
    obtain ⟨accrued, disbursed⟩ := accrual_keys uuids posted.toPostedUnder
    have standing := payables.standing bill found sameCondo.symm
    have about : .accruing userId row ∈ moving (front ++ .accruing userId row :: back) bill.id := by
      simp [mem_moving, InFlight.moves, isId]
    refine payables.posted posted.ids posted.charted (payables.known_advanced (by simp)) found
      (fun id ne => ⟨accrued id ne, disbursed id⟩) others (fun _ => ?_) ?_
    · exact {
        idle := fun status => absurd (standing.idle status).2.2 (ne_nil_of_mem about)
        agreed := standing.agreed
        rows := fun other mem => standing.rows other ((mem_moving_later mem).resolve_right (by simp))
        accrual := fun _ => .inl posted.taken
        pending := fun status paid => let ⟨paidAt, entryId, settling⟩ := standing.pending status ((disbursed _).mp paid)
          ⟨paidAt, entryId, mem_moving_advanced settling (by simp)⟩
        settling := fun other mem silent =>
          (disbursed _).mpr (standing.settling other ((mem_moving_later mem).resolve_right (by simp)) silent)
        paid := fun status => (disbursed _).mpr (standing.paid status) }
    · rw [if_pos sameCondo.symm]
      by_cases before : Accrued env db.gl bill.id
      · rw [posted.kept before, owed_congr (iff_of_true posted.taken before) (disbursed _), sub_self, add_zero]
      · rw [posted.added (not_not.mp before), owed_accrued before posted.taken (disbursed _), add_sub_cancel_left,
          standing.rows _ about row rfl]
  · obtain ⟨posted, same⟩ :=
      accrued_elsewhere env (accrualOpts userId row) rfl payables.ids pos payables.charted own
    rw [show (accrualOpts userId row).vendorBillId = bill.id from isId.symm] at posted
    obtain ⟨accrued, disbursed⟩ := accrual_keys uuids posted
    have theirs : bill.condoId ≠ condoId := sameCondo ▸ own
    refine payables.posted posted.ids posted.charted (payables.known_advanced (by simp)) found
      (fun id ne => ⟨accrued id ne, disbursed id⟩) others (fun mine => absurd mine theirs) ?_
    rw [if_neg theirs, add_zero]
    exact same

theorem pays (payables : Payables env condoId due ⟨db, front ++ .paying userId row :: back⟩) :
    Payables env condoId due ⟨((InFlight.paying userId row).advance env now db).1,
      front ++ ((InFlight.paying userId row).advance env now db).2.toList ++ back⟩ := by
  have step : ∃ entryId, (InFlight.paying userId row).advance env now db =
      ({ db with gl := (postVendorBillPaid env (paymentOpts now userId row) db.gl).2 },
        some (.settling row.id now entryId)) := ⟨_, rfl⟩
  obtain ⟨entryId, step⟩ := step
  rw [step]
  obtain ⟨bill, found, isId, posts⟩ := payables.known (.paying userId row) (by simp) row.id rfl
  obtain ⟨sameCondo, pos⟩ := posts row rfl
  have others : ∀ id, id ≠ bill.id → moving (front ++ (some (InFlight.settling row.id now entryId)).toList ++ back) id =
      moving (front ++ .paying userId row :: back) id := by
    intro id ne
    refine moving_advanced_other ?_ ?_
    · intro same
      exact ne ((Option.some.inj same).symm.trans isId.symm)
    · rintro _ ⟨⟩ same
      exact ne ((Option.some.inj same).symm.trans isId.symm)
  have known : ∀ other ∈ some (InFlight.settling row.id now entryId), other.Known db.bills := by
    rintro _ ⟨⟩ _ ⟨⟩
    exact ⟨bill, found, isId, by simp [InFlight.posts]⟩
  by_cases own : row.condoId = condoId
  · subst own
    have posted : PostedOwn row.condoId (vendorPaymentKey env bill.id) (-row.amount) db.gl
        (postVendorBillPaid env (paymentOpts now userId row) db.gl).2 := by
      rw [isId]
      exact disbursed_own env (paymentOpts now userId row) rfl payables.ids pos payables.charted
    obtain ⟨accrued, disbursed⟩ := payment_keys uuids posted.toPostedUnder
    have standing := payables.standing bill found sameCondo.symm
    have about : .paying userId row ∈ moving (front ++ .paying userId row :: back) bill.id := by
      simp [mem_moving, InFlight.moves, isId]
    have settling : .settling bill.id now entryId ∈
        moving (front ++ (some (InFlight.settling row.id now entryId)).toList ++ back) bill.id := by
      simp [mem_moving, InFlight.moves, isId]
    refine payables.posted posted.ids posted.charted (payables.known_advanced known) found
      (fun id ne => ⟨accrued id, disbursed id ne⟩) others (fun _ => ?_) ?_
    · exact {
        idle := fun status => absurd (standing.idle status).2.2 (ne_nil_of_mem about)
        agreed := standing.agreed
        rows := by
          intro other mem carried carries
          rcases mem_moving_later mem with old | new
          · exact standing.rows other old carried carries
          · cases new
            cases carries
        accrual := fun status => (standing.accrual status).imp (accrued _).mpr fun ⟨userId, posted, accruing⟩ =>
          ⟨userId, posted, mem_moving_advanced accruing (by simp)⟩
        pending := fun _ _ => ⟨now, entryId, settling⟩
        settling := fun _ _ _ => posted.taken
        paid := fun _ => posted.taken }
    · rw [if_pos sameCondo.symm]
      by_cases before : Disbursed env db.gl bill.id
      · rw [posted.kept before, owed_congr (accrued _) (iff_of_true posted.taken before), sub_self, add_zero]
      · rw [posted.added (not_not.mp before), owed_disbursed before posted.taken (accrued _), sub_sub_cancel_left,
          standing.rows _ about row rfl]
  · obtain ⟨posted, same⟩ :=
      disbursed_elsewhere env (paymentOpts now userId row) rfl payables.ids pos payables.charted own
    rw [show (paymentOpts now userId row).vendorBillId = bill.id from isId.symm] at posted
    obtain ⟨accrued, disbursed⟩ := payment_keys uuids posted
    have theirs : bill.condoId ≠ condoId := sameCondo ▸ own
    refine payables.posted posted.ids posted.charted (payables.known_advanced known) found
      (fun id ne => ⟨accrued id, disbursed id ne⟩) others (fun mine => absurd mine theirs) ?_
    rw [if_neg theirs, add_zero]
    exact same

end

end

variable {event : BillEvent}

theorem step (uuids : Function.Injective env.uuid) {before after : BillState}
    (payables : Payables env condoId due before)
    (move : Guarded (KeepsPayable condoId) (BillStep env) before event after) :
    ∃ due', Payables env condoId due' after := by
  obtain ⟨keeps, move⟩ := move
  cases move with
  | create created => exact ⟨due, payables.created created⟩
  | read read => exact ⟨due, payables.reads read⟩
  | advance now call =>
    cases call with
    | editing id dto => exact ⟨due, payables.edits keeps⟩
    | approving userId id => exact payables.approves keeps
    | accruing userId row => exact ⟨due, payables.accrues uuids⟩
    | paying userId row => exact ⟨due, payables.pays uuids⟩
    | settling id paidAt entryId => exact ⟨due, payables.settles⟩
    | voiding id => exact ⟨due, payables.voids keeps⟩

variable {log : List BillEvent}

theorem reached (uuids : Function.Injective env.uuid) {start state : BillState} (opened : start.Opened env condoId)
    (run : Run (Guarded (KeepsPayable condoId) (BillStep env)) start log state) :
    ∃ due, Payables env condoId due state := by
  induction run with
  | done => exact ⟨fun _ => 0, Payables.opened opened⟩
  | snoc _ move ih =>
    obtain ⟨due, payables⟩ := ih
    exact payables.step uuids move

/-! ### Paid and void bills -/

def Stays (bill : VendorBill) (after : ProcurementDb) : Prop :=
  ∃ row ∈ after.bills, row.id = bill.id ∧ row.condoId = bill.condoId ∧ row.status = bill.status

theorem stays_updateBill {target : Id} {change : VendorBill → VendorBill} {bill : VendorBill} (found : bill ∈ db.bills)
    (kept : bill.id = target → (change bill).id = bill.id ∧ (change bill).condoId = bill.condoId ∧
      (change bill).status = bill.status) : Stays bill (db.updateBill target change) := by
  refine ⟨_, mem_updateBy.mpr ⟨bill, found, rfl⟩, ?_⟩
  split
  · rename_i same
    exact kept same
  · exact ⟨rfl, rfl, rfl⟩

theorem advance_stays {front back : List InFlight} {call : InFlight} {now : Instant} {bill : VendorBill}
    (payables : Payables env condoId due ⟨db, front ++ call :: back⟩)
    (keeps : KeepsPayable condoId ⟨db, front ++ call :: back⟩ (.advance now call)) (found : bill ∈ db.bills)
    (own : bill.condoId = condoId) (ended : bill.status = .paid ∨ bill.status = .void) :
    Stays bill (call.advance env now db).1 := by
  have mem : ∀ id, bill.id = id → db.bill? id = some bill := by
    rintro id rfl
    exact findBy_of_mem payables.bills.distinct found
  have here : Stays bill db := ⟨bill, found, rfl, rfl, rfl⟩
  cases call with
  | editing id dto =>
    unfold InFlight.advance
    dsimp only
    split
    · exact here
    · split
      · exact here
      · exact stays_updateBill found fun _ => ⟨rfl, rfl, rfl⟩
  | approving userId id =>
    unfold InFlight.advance
    dsimp only
    split
    · exact here
    · refine stays_updateBill found fun same => ?_
      rcases keeps bill (mem id same) own with status | status <;> simp [status] at ended
  | accruing userId row => exact here
  | paying userId row => exact here
  | settling id paidAt entryId =>
    refine stays_updateBill found fun same => ⟨rfl, rfl, ?_⟩
    subst same
    rcases ended with paid | void
    · exact paid.symm
    · have unmoved := ((payables.standing bill found own).idle (.inr void)).2.2
      simp [moving, InFlight.moves] at unmoved
  | voiding id =>
    refine stays_updateBill found fun same => ⟨rfl, rfl, ?_⟩
    rcases keeps bill (mem id same) own with status | status
    · simp [status] at ended
    · exact status.symm

theorem stays {before after : BillState} (payables : Payables env condoId due before)
    (move : Guarded (KeepsPayable condoId) (BillStep env) before event after) {bill : VendorBill}
    (found : bill ∈ before.db.bills) (own : bill.condoId = condoId) (ended : bill.status = .paid ∨ bill.status = .void) :
    Stays bill after.db := by
  obtain ⟨keeps, move⟩ := move
  cases move with
  | create created =>
    obtain rfl := create_ok created
    exact ⟨bill, mem_append_left _ found, rfl, rfl, rfl⟩
  | read read => exact ⟨bill, found, rfl, rfl, rfl⟩
  | advance now call => exact payables.advance_stays keeps found own ended

theorem stays_run (uuids : Function.Injective env.uuid) {before after : BillState}
    (payables : Payables env condoId due before)
    (run : Run (Guarded (KeepsPayable condoId) (BillStep env)) before log after) {bill : VendorBill}
    (found : bill ∈ before.db.bills) (own : bill.condoId = condoId) (ended : bill.status = .paid ∨ bill.status = .void) :
    (∃ due', Payables env condoId due' after) ∧ Stays bill after.db := by
  induction run with
  | done => exact ⟨⟨due, payables⟩, bill, found, rfl, rfl, rfl⟩
  | snoc _ move ih =>
    obtain ⟨⟨due', earlier⟩, row, mem, sameId, sameCondo, status⟩ := ih
    refine ⟨earlier.step uuids move, ?_⟩
    obtain ⟨last, found, id, condo, kept⟩ := earlier.stays move mem (sameCondo.trans own) (by rwa [status])
    exact ⟨last, found, id.trans sameId, condo.trans sameCondo, kept.trans status⟩

end Payables

/-- When no call has done half of its work, accounts payable is what is approved; paid and void bills stay so. -/
theorem payable_approved (uuids : Function.Injective env.uuid) {start state : BillState} {log : List BillEvent}
    (opened : start.Opened env condoId)
    (run : Run (Guarded (KeepsPayable condoId) (BillStep env)) start log state) :
    ((∀ call ∈ state.calls, ¬ call.Halfway) →
        vendorPayable state.db.gl condoId = approvedTotal state.db.bills condoId) ∧
      ∀ (later : BillState) (events : List BillEvent),
        Run (Guarded (KeepsPayable condoId) (BillStep env)) state events later →
        ∀ bill ∈ state.db.bills, bill.condoId = condoId → bill.status = .paid ∨ bill.status = .void →
        ∃ row ∈ later.db.bills, row.id = bill.id ∧ row.condoId = bill.condoId ∧ row.status = bill.status := by
  obtain ⟨due, payables⟩ := Payables.reached uuids opened run
  refine ⟨payables.settled, ?_⟩
  intro later events rest bill found own ended
  exact (payables.stays_run uuids rest found own ended).2

namespace Sample
open Accounting.Sample

section

variable (gl : GlDb)

def started : ProcurementDb := ⟨1, [⟨0, 5⟩], [], gl⟩

theorem started_opened {gl : GlDb} (ids : AccountIds gl) (charted : Charted 5 gl) (unposted : gl.entries = []) :
    (BillState.mk (started gl) []).Opened uuidEnv 5 where
  bills := rfl
  calls := rfl
  ids := ids
  charted := charted
  unposted := by simp [started, unposted]
  keys id := by simp [KeyFree, started, unposted]

def admin : AuthenticatedUser := ⟨3, [⟨.managementAdmin, some 5, none⟩]⟩

theorem bill_amount : (1 : ℚ) ≤ 10000 := by norm_num

def bill : CreateVendorBillDto := ⟨5, 0, "B-1", 0, 0, 10000, .maintenance, bill_amount⟩

def billed : ProcurementDb := { started gl with bills := [bill.row 1], nextId := 2 }

def approvedRow : VendorBill :=
  { bill.row 1 with status := .approved, approvedByUserId := some 3, approvedAt := some 0 }

def approved : ProcurementDb :=
  { billed gl with bills := [approvedRow], gl := (postVendorBillApproved uuidEnv (accrualOpts 3 approvedRow) gl).2 }

def voided : ProcurementDb := { approved gl with bills := [{ approvedRow with status := .void }] }

def settledDb : ProcurementDb :=
  { approved gl with gl := (postVendorBillPaid uuidEnv (paymentOpts 0 3 approvedRow) (approved gl).gl).2 }

theorem run_approved : ∃ log, Run (Guarded (KeepsPayable 5) (BillStep uuidEnv)) ⟨started gl, []⟩ log ⟨approved gl, []⟩ := by
  have created : create (started gl) admin bill = .ok (billed gl) := rfl
  have reads : (BillCall.approve admin 1).read (billed gl) = .ok (.approving 3 1) := rfl
  have first : Guarded (KeepsPayable 5) (BillStep uuidEnv) ⟨started gl, []⟩ (.create admin bill) ⟨billed gl, []⟩ :=
    ⟨trivial, .create created⟩
  have second : Guarded (KeepsPayable 5) (BillStep uuidEnv) ⟨billed gl, []⟩ (.read (.approve admin 1))
      ⟨billed gl, [.approving 3 1]⟩ := ⟨trivial, .read reads⟩
  have third : Guarded (KeepsPayable 5) (BillStep uuidEnv) ⟨billed gl, [.approving 3 1]⟩
      (.advance 0 (.approving 3 1)) ⟨{ billed gl with bills := [approvedRow] }, [.accruing 3 approvedRow]⟩ := by
    refine ⟨?_, @BillStep.advance uuidEnv (billed gl) [] [] 0 (.approving 3 1)⟩
    rintro row read own
    cases read
    exact .inl rfl
  have fourth : Guarded (KeepsPayable 5) (BillStep uuidEnv)
      ⟨{ billed gl with bills := [approvedRow] }, [.accruing 3 approvedRow]⟩ (.advance 0 (.accruing 3 approvedRow))
      ⟨approved gl, []⟩ :=
    ⟨trivial, @BillStep.advance uuidEnv { billed gl with bills := [approvedRow] } [] [] 0 (.accruing 3 approvedRow)⟩
  exact ⟨_, (((Run.single first).snoc second).snoc third).snoc fourth⟩

theorem run_voided : ∃ log, Run (BillStep uuidEnv) ⟨approved gl, []⟩ log ⟨voided gl, []⟩ := by
  have reads : (BillCall.voidBill admin 1).read (approved gl) = .ok (.voiding 1) := rfl
  have first : BillStep uuidEnv ⟨approved gl, []⟩ (.read (.voidBill admin 1)) ⟨approved gl, [.voiding 1]⟩ :=
    .read reads
  have second : BillStep uuidEnv ⟨approved gl, [.voiding 1]⟩ (.advance 0 (.voiding 1)) ⟨voided gl, []⟩ :=
    @BillStep.advance uuidEnv (approved gl) [] [] 0 (.voiding 1)
  exact ⟨_, (Run.single first).snoc second⟩

theorem run_paid : ∃ log paid, Run (Guarded (KeepsPayable 5) (BillStep uuidEnv)) ⟨approved gl, []⟩ log ⟨paid, []⟩ ∧
    ∃ row, paid.bills = [row] ∧ row.status = .paid := by
  have reads : (BillCall.markPaid admin 1).read (approved gl) = .ok (.paying 3 approvedRow) := rfl
  have first : Guarded (KeepsPayable 5) (BillStep uuidEnv) ⟨approved gl, []⟩ (.read (.markPaid admin 1))
      ⟨approved gl, [.paying 3 approvedRow]⟩ := ⟨trivial, .read reads⟩
  obtain ⟨entryId, posts⟩ : ∃ entryId, (InFlight.paying 3 approvedRow).advance uuidEnv 0 (approved gl) =
      (settledDb gl, some (.settling 1 0 entryId)) := ⟨_, rfl⟩
  have second : Guarded (KeepsPayable 5) (BillStep uuidEnv) ⟨approved gl, [.paying 3 approvedRow]⟩
      (.advance 0 (.paying 3 approvedRow)) ⟨settledDb gl, [.settling 1 0 entryId]⟩ := by
    have move := @BillStep.advance uuidEnv (approved gl) [] [] 0 (.paying 3 approvedRow)
    rw [posts] at move
    exact ⟨trivial, move⟩
  have third : Guarded (KeepsPayable 5) (BillStep uuidEnv) ⟨settledDb gl, [.settling 1 0 entryId]⟩
      (.advance 0 (.settling 1 0 entryId))
      ⟨((InFlight.settling 1 0 entryId).advance uuidEnv 0 (settledDb gl)).1, []⟩ :=
    ⟨trivial, @BillStep.advance uuidEnv (settledDb gl) [] [] 0 (.settling 1 0 entryId)⟩
  exact ⟨_, _, ((Run.single first).snoc second).snoc third, _, rfl, rfl⟩

theorem approvedTotal_approved : approvedTotal [approvedRow] 5 = 10000 := by decide +kernel

theorem chart_exists : ∃ gl, AccountIds gl ∧ Charted 5 gl ∧ gl.entries = [] :=
  ⟨Accounting.Sample.opened.gl, opened_opened.ids, opened_opened.charted, by decide +kernel⟩

end

end Sample

theorem payable_approved_paid : ∃ approved paid : BillState,
    vendorPayable approved.db.gl 5 = 10000 ∧ vendorPayable paid.db.gl 5 = 0 ∧
      ∃ row ∈ paid.db.bills, row.status = .paid := by
  obtain ⟨gl, ids, charted, unposted⟩ := Sample.chart_exists
  have opened := Sample.started_opened ids charted unposted
  obtain ⟨log, run⟩ := Sample.run_approved gl
  obtain ⟨more, paid, rest, row, only, isPaid⟩ := Sample.run_paid gl
  have first := (payable_approved Accounting.Sample.uuidEnv_uuids opened run).1 (by simp)
  have second := (payable_approved Accounting.Sample.uuidEnv_uuids opened (run.trans rest)).1 (by simp)
  refine ⟨⟨Sample.approved gl, []⟩, ⟨paid, []⟩, first.trans Sample.approvedTotal_approved, second.trans ?_, row, by simp [only], isPaid⟩
  simp [approvedTotal, only, isPaid]

theorem payable_apart : ¬ ∀ (env : Env) (condoId : Id) (start state : BillState) (log : List BillEvent),
    Function.Injective env.uuid → start.Opened env condoId → Run (BillStep env) start log state → state.calls = [] →
    vendorPayable state.db.gl condoId = approvedTotal state.db.bills condoId := by
  intro agrees
  obtain ⟨gl, ids, charted, unposted⟩ := Sample.chart_exists
  have opened := Sample.started_opened ids charted unposted
  obtain ⟨log, run⟩ := Sample.run_approved gl
  obtain ⟨more, rest⟩ := Sample.run_voided gl
  obtain ⟨due, payables⟩ := Payables.reached Accounting.Sample.uuidEnv_uuids opened run
  have accrued : vendorPayable (Sample.approved gl).gl 5 = 10000 :=
    (payables.settled (by simp)).trans Sample.approvedTotal_approved
  have agreed := agrees _ 5 _ _ _ Accounting.Sample.uuidEnv_uuids opened (run.guard_forgotten.trans rest) rfl
  have unowed : vendorPayable (Sample.approved gl).gl 5 = 0 := agreed
  rw [accrued] at unowed
  cases unowed

end SmartResidence.Procurement
