import SmartResidence.Proof.AccessDecisions
import SmartResidence.Proof.ArrearsViews

/-!
# The engine run twice

A run of the engine settles each unit whose row it reads. It does not read the row that a unit has in another condo,
and writes it all the same.
-/

namespace SmartResidence.Access

open Foundation Billing Settings List

/-! ## One unit -/

def activates (above : Bool) (row : Option UnitAccessRestriction) : Bool :=
  above && !row.any UnitAccessRestriction.manualExempt && !row.any UnitAccessRestriction.active

def clears (above : Bool) (row : Option UnitAccessRestriction) : Bool := !above && row.any UnitAccessRestriction.active

def Settled (above : Bool) (row : Option UnitAccessRestriction) : Prop :=
  if above then row.any (fun row => row.active || row.manualExempt) = true
  else row.all (fun row => !row.active && !row.manualExempt) = true

def UnitAccessRestriction.flags (row : UnitAccessRestriction) : Bool × AccessRestrictionSource × Bool :=
  (row.active, row.source, row.manualExempt)

section

variable {now : Instant} {settings : StoredAccessRestrictionSettings} {condoId : Id} {actorUserId : Option Id}
  {snap : UnitArrearsSnapshot} {row old : Option UnitAccessRestriction} {state : Recompute} {unitId : Id}

theorem recomputeUnit_counts : (recomputeUnit now settings condoId actorUserId snap row state unitId).counts.activated =
        state.counts.activated + (if activates (qualifies settings snap) row then 1 else 0) ∧
      (recomputeUnit now settings condoId actorUserId snap row state unitId).counts.cleared =
        state.counts.cleared + if clears (qualifies settings snap) row then 1 else 0 := by
  unfold recomputeUnit activates clears
  cases above : qualifies settings snap with
  | false =>
    cases row with
    | none => simp
    | some row => cases active : row.active <;> cases exempt : row.manualExempt <;> simp [active, exempt]
  | true =>
    cases row with
    | none => simp
    | some row =>
      cases active : row.active <;> cases exempt : row.manualExempt <;> cases source : row.source <;>
        simp [active, exempt, source]

theorem recomputeUnit_frame :
    (recomputeUnit now settings condoId actorUserId snap row state unitId).db.condos = state.db.condos ∧
      (recomputeUnit now settings condoId actorUserId snap row state unitId).db.invoices = state.db.invoices := by
  unfold recomputeUnit
  repeat' split
  all_goals exact ⟨rfl, rfl⟩

theorem turn_settled (own : ∀ row, old = some row → row.condoId = condoId) :
    Settled (qualifies settings snap) (turn now settings condoId actorUserId snap unitId old old) ∧
      ∀ row, turn now settings condoId actorUserId snap unitId old old = some row → row.condoId = condoId := by
  unfold Settled turn
  cases above : qualifies settings snap with
  | false =>
    cases old with
    | none => simp
    | some row =>
      cases active : row.active <;> cases exempt : row.manualExempt <;>
        simp [active, exempt, own, deactivation, UnitArrearsSnapshot.amounts]
  | true =>
    cases old with
    | none => simp [inserted]
    | some row =>
      cases active : row.active <;> cases exempt : row.manualExempt <;> cases source : row.source <;>
        simp [active, exempt, source, own, activation, UnitArrearsSnapshot.amounts]

theorem turn_kept (settled : Settled (qualifies settings snap) row) :
    (turn now settings condoId actorUserId snap unitId row row).map UnitAccessRestriction.flags =
      row.map UnitAccessRestriction.flags := by
  unfold Settled at settled
  unfold turn
  cases above : qualifies settings snap with
  | false =>
    rw [above] at settled
    cases row with
    | none => simp
    | some row =>
      cases active : row.active <;> cases exempt : row.manualExempt <;> simp [active, exempt] at settled
      simp [active, exempt, UnitAccessRestriction.flags, UnitArrearsSnapshot.amounts]
  | true =>
    rw [above] at settled
    cases row with
    | none => simp at settled
    | some row =>
      cases active : row.active <;> cases exempt : row.manualExempt <;> simp [active, exempt] at settled <;>
        cases source : row.source <;>
        simp [active, exempt, source, UnitAccessRestriction.flags, UnitArrearsSnapshot.amounts]

variable {above : Bool}

theorem Settled.active_iff (settled : Settled above row) (kept : row.any UnitAccessRestriction.manualExempt = false) :
    row.any UnitAccessRestriction.active = true ↔
      above = true ∨ row.any (fun row => row.active && decide (row.source = .manual)) = true := by
  unfold Settled at settled
  cases row with
  | none => cases above <;> simp_all
  | some row => cases above <;> cases active : row.active <;> simp_all

theorem settled_quiet (settled : Settled above row) : activates above row = false ∧ clears above row = false := by
  unfold Settled at settled
  unfold activates clears
  cases above <;> cases row <;> simp_all
  rename_i row
  cases active : row.active <;> simp_all

end

/-! ## A run -/

def ownRow (db : AccessDb) (condoId unitId : Id) : Option UnitAccessRestriction :=
  (db.restriction? unitId).filter fun row => decide (row.condoId = condoId)

section

variable {env : AccessEnv} {now : Instant} {db : AccessDb} {condoId unitId : Id} {actorUserId : Option Id} {done : Recompute}

theorem foldl_recomputeUnit (now : Instant) (settings : StoredAccessRestrictionSettings) (condoId : Id)
    (actorUserId : Option Id) (snap : Id → UnitArrearsSnapshot) (row : Id → Option UnitAccessRestriction)
    (unitIds : List Id) (state : Recompute) : let last := unitIds.foldl (fun state unitId =>
      recomputeUnit now settings condoId actorUserId (snap unitId) (row unitId) state unitId) state
    last.counts.activated = state.counts.activated +
        unitIds.countP (fun unitId => activates (qualifies settings (snap unitId)) (row unitId)) ∧
      last.counts.cleared = state.counts.cleared +
        unitIds.countP (fun unitId => clears (qualifies settings (snap unitId)) (row unitId)) ∧
      last.db.condos = state.db.condos ∧ last.db.invoices = state.db.invoices := by
  induction unitIds generalizing state with
  | nil => exact ⟨rfl, rfl, rfl, rfl⟩
  | cons unitId unitIds ih =>
    obtain ⟨activated, cleared, condos, invoices⟩ :=
      ih (recomputeUnit now settings condoId actorUserId (snap unitId) (row unitId) state unitId)
    refine ⟨activated.trans ?_, cleared.trans ?_, condos.trans recomputeUnit_frame.1, invoices.trans recomputeUnit_frame.2⟩
    · rw [recomputeUnit_counts.1, countP_cons]
      omega
    · rw [recomputeUnit_counts.2, countP_cons]
      omega

theorem recompute_counts (enabled : engineEnabled env db condoId = true)
    (recomputed : recomputeCondo env now db condoId actorUserId = .ok done) :
    done.counts.activated = (touchedUnitIds (condoArrears now db condoId) (existingOf db condoId)).countP
        (fun unitId => activates (overThreshold env now db condoId unitId) (ownRow db condoId unitId)) ∧
      done.counts.cleared = (touchedUnitIds (condoArrears now db condoId) (existingOf db condoId)).countP
        (fun unitId => clears (overThreshold env now db condoId unitId) (ownRow db condoId unitId)) ∧
      done.db.condos = db.condos ∧ done.db.invoices = db.invoices := by
  simp only [recomputeCondo, bind_eq_ok] at recomputed
  obtain ⟨condo, found, recomputed⟩ := recomputed
  unfold engineEnabled at enabled
  unfold overThreshold
  rw [requireCondo_ok found] at enabled ⊢
  rw [if_neg (not_not.mpr enabled)] at recomputed
  cases recomputed
  have run := foldl_recomputeUnit now (parseAccessRestrictionSettings env condo.settings) condoId actorUserId
    (snapshotOf (condoArrears now db condoId))
    (fun unitId => findBy UnitAccessRestriction.unitId unitId (existingOf db condoId))
    (touchedUnitIds (condoArrears now db condoId) (existingOf db condoId)) ⟨db, ⟨0, 0, 0⟩⟩
  simpa only [zero_add, find_existing, ownRow] using run

variable {other : AccessDb}

theorem requireCondo_congr (condos : other.condos = db.condos) :
    requireCondo other condoId = requireCondo db condoId := by
  unfold requireCondo AccessDb.condo?
  rw [condos]

theorem recompute_completes (otherActor : Option Id) (condos : other.condos = db.condos)
    (recomputed : recomputeCondo env now db condoId actorUserId = .ok done) :
    ∃ again, recomputeCondo env now other condoId otherActor = .ok again := by
  simp only [recomputeCondo, bind_eq_ok] at recomputed
  obtain ⟨condo, found, -⟩ := recomputed
  unfold recomputeCondo
  rw [requireCondo_congr condos, found]
  show ∃ again, (if ¬ (parseAccessRestrictionSettings env condo.settings).enabled then (pure _ : Result Recompute) else pure _) =
    Except.ok again
  split
  · exact ⟨_, rfl⟩
  · exact ⟨_, rfl⟩

theorem overThreshold_congr (condos : other.condos = db.condos) (invoices : other.invoices = db.invoices) :
    overThreshold env now other condoId unitId = overThreshold env now db condoId unitId := by
  unfold overThreshold AccessDb.settingsOf AccessDb.condo? condoArrears
  rw [condos, invoices]

theorem ownRow_own (own : ∀ row, db.restriction? unitId = some row → row.condoId = condoId) :
    ownRow db condoId unitId = db.restriction? unitId := by
  unfold ownRow
  cases found : db.restriction? unitId with
  | none => rfl
  | some row => simp [own row found]

theorem ownRow_foreign {row : UnitAccessRestriction} (found : db.restriction? unitId = some row)
    (foreign : row.condoId ≠ condoId) : ownRow db condoId unitId = none := by
  simp [ownRow, found, foreign]

theorem engineRow_foreign {row : UnitAccessRestriction} (found : db.restriction? unitId = some row)
    (foreign : row.condoId ≠ condoId) : engineRow env now db condoId actorUserId unitId =
      if overThreshold env now db condoId unitId then some (activation now (parseAccessRestrictionSettings env (db.settingsOf condoId))
        actorUserId (snapshotOf (condoArrears now db condoId) unitId) row)
      else some row := by
  have unread := ownRow_foreign found foreign
  unfold ownRow at unread
  unfold engineRow overThreshold turn
  rw [unread, found]
  cases qualifies (parseAccessRestrictionSettings env (db.settingsOf condoId)) (snapshotOf (condoArrears now db condoId) unitId) <;> rfl

theorem ownRow_settled (enabled : engineEnabled env db condoId = true)
    (recomputed : recomputeCondo env now db condoId actorUserId = .ok done)
    (own : overThreshold env now db condoId unitId = true → ∀ row, db.restriction? unitId = some row → row.condoId = condoId) :
    Settled (overThreshold env now db condoId unitId) (ownRow done.db condoId unitId) ∧
      (overThreshold env now db condoId unitId = true → ∀ row, done.db.restriction? unitId = some row → row.condoId = condoId) := by
  have row : done.db.restriction? unitId = _ := recompute_row recomputed
  rw [if_pos enabled] at row
  by_cases foreign : ∃ row, db.restriction? unitId = some row ∧ row.condoId ≠ condoId
  · obtain ⟨old, found, foreign⟩ := foreign
    have under : overThreshold env now db condoId unitId = false := by
      rw [← Bool.not_eq_true]
      exact fun above => foreign (own above old found)
    rw [engineRow_foreign found foreign, under] at row
    rw [under, ownRow_foreign row foreign]
    exact ⟨rfl, fun above => nomatch above⟩
  · have mem : ∀ row, db.restriction? unitId = some row → row.condoId = condoId := by
      intro row found
      by_contra outside
      exact foreign ⟨row, found, outside⟩
    have read : engineRow env now db condoId actorUserId unitId = turn now (parseAccessRestrictionSettings env (db.settingsOf condoId)) condoId
        actorUserId (snapshotOf (condoArrears now db condoId) unitId) unitId (db.restriction? unitId) (db.restriction? unitId) := by
      have same := ownRow_own mem
      unfold ownRow at same
      unfold engineRow
      rw [same]
    have settled : Settled (overThreshold env now db condoId unitId) (done.db.restriction? unitId) ∧
        ∀ row, done.db.restriction? unitId = some row → row.condoId = condoId := by
      rw [row, read]
      exact turn_settled mem
    rw [ownRow_own settled.2]
    exact ⟨settled.1, fun _ => settled.2⟩

end

/-! ## Two runs -/

def OwesTooMuch (env : AccessEnv) (now : Instant) (db : AccessDb) (condoId unitId : Id) : Prop :=
  let settings := parseAccessRestrictionSettings env (db.settingsOf condoId)
  let unpaid := (unpaidOf db condoId).filter fun invoice => decide (invoice.unitId = unitId)
  settings.minOutstanding * 100 ≤ sumBy ArrearsInvoice.outstanding unpaid ∧
    ∃ invoice ∈ unpaid, settings.graceDays < invoice.daysPastDue now

/-- The engine, run again at the same instant, changes nothing, and its decisions are those that the invoices ask for. -/
structure RecomputeStable (env : AccessEnv) (now : Instant) (condoId : Id) (db : AccessDb) : Prop where
  again : ∀ actorUserId, ∃ again, recomputeCondo env now db condoId actorUserId = .ok again ∧
    again.counts.activated = 0 ∧ again.counts.cleared = 0 ∧
    ∀ unitId, (again.db.restriction? unitId).map UnitAccessRestriction.flags = (db.restriction? unitId).map UnitAccessRestriction.flags
  restricted : ∀ unitId, (ownRow db condoId unitId).any UnitAccessRestriction.manualExempt = false →
    ((ownRow db condoId unitId).any UnitAccessRestriction.active = true ↔ OwesTooMuch env now db condoId unitId ∨
      (ownRow db condoId unitId).any (fun row => row.active && decide (row.source = .manual)) = true)
  eligible : ∀ user page, listUnits env now db user condoId = .ok page →
    page.eligibleArrearsCount =
      page.items.countP (fun row => overThreshold env now db condoId row.unitId && (row.active && !row.manualExempt)) +
      page.items.countP fun row => overThreshold env now db condoId row.unitId && row.manualExempt

section

variable {env : AccessEnv} {now : Instant} {db : AccessDb} {condoId unitId : Id} {actorUserId : Option Id} {done : Recompute}

theorem overThreshold_iff : overThreshold env now db condoId unitId = true ↔ OwesTooMuch env now db condoId unitId := by
  unfold overThreshold OwesTooMuch qualifies
  rw [snapshotOf_eq, decide_eq_true_eq]
  generalize (unpaidOf db condoId).filter (fun invoice => decide (invoice.unitId = unitId)) = unpaid
  apply and_congr_right
  intro _
  have grace : 0 ≤ (parseAccessRestrictionSettings env (db.settingsOf condoId)).graceDays := graceDays_nonneg _
  by_cases none : unpaid = []
  · subst none
    simpa [UnitArrearsSnapshot.of] using grace
  · obtain ⟨-, -, -, ⟨invoice, mem, same⟩, greatest⟩ := @of_oldest now unitId unpaid none
    constructor
    · intro late
      exact ⟨invoice, mem, same ▸ late⟩
    · rintro ⟨other, listed, late⟩
      have most : other.daysPastDue now ≤ (UnitArrearsSnapshot.of now unitId unpaid).daysPastDue := greatest ⟨other, listed, rfl⟩
      exact late.trans_le (by exact_mod_cast most)

theorem touched_of_over (above : overThreshold env now db condoId unitId = true) :
    unitId ∈ touchedUnitIds (condoArrears now db condoId) (existingOf db condoId) := by
  obtain ⟨-, invoice, mem, -⟩ := overThreshold_iff.mp above
  obtain ⟨unpaid, own⟩ := mem_filter.mp mem
  unfold touchedUnitIds
  rw [mem_membersOf, mem_append, condoArrears_eq, mem_keys_gathered]
  exact .inl (mem_map.mpr ⟨invoice, unpaid, of_decide_eq_true own⟩)

def ThresholdRowsOwn (env : AccessEnv) (now : Instant) (db : AccessDb) (condoId : Id) : Prop :=
  ∀ unitId row, OwesTooMuch env now db condoId unitId → db.restriction? unitId = some row → row.condoId = condoId

theorem engineEnabled_congr {other : AccessDb} (condos : other.condos = db.condos) :
    engineEnabled env other condoId = engineEnabled env db condoId := by
  unfold engineEnabled AccessDb.settingsOf AccessDb.condo?
  rw [condos]

theorem recompute_settled (enabled : engineEnabled env db condoId = true)
    (recomputed : recomputeCondo env now db condoId actorUserId = .ok done)
    (settled : ∀ unitId, Settled (overThreshold env now db condoId unitId) (ownRow db condoId unitId))
    (own : ∀ unitId row, overThreshold env now db condoId unitId = true → db.restriction? unitId = some row → row.condoId = condoId) :
    done.counts.activated = 0 ∧ done.counts.cleared = 0 ∧
      ∀ unitId, (done.db.restriction? unitId).map UnitAccessRestriction.flags =
        (db.restriction? unitId).map UnitAccessRestriction.flags := by
  obtain ⟨activated, cleared, -⟩ := recompute_counts enabled recomputed
  refine ⟨?_, ?_, ?_⟩
  · rw [activated, countP_eq_zero]
    intro unitId _
    simp [settled_quiet (settled unitId)]
  · rw [cleared, countP_eq_zero]
    intro unitId _
    simp [settled_quiet (settled unitId)]
  · intro unitId
    rw [recompute_row recomputed, if_pos enabled]
    by_cases foreign : ∃ row, db.restriction? unitId = some row ∧ row.condoId ≠ condoId
    · obtain ⟨row, found, foreign⟩ := foreign
      have under : overThreshold env now db condoId unitId = false := by
        rw [← Bool.not_eq_true]
        exact fun above => foreign (own unitId row above found)
      rw [engineRow_foreign found foreign, under, found]
      rfl
    · have mem : ∀ row, db.restriction? unitId = some row → row.condoId = condoId := by
        intro row found
        by_contra outside
        exact foreign ⟨row, found, outside⟩
      have same := ownRow_own mem
      have settled := settled unitId
      rw [same] at settled
      unfold ownRow at same
      unfold engineRow
      rw [same]
      exact turn_kept settled

theorem countP_split {Row : Type*} {pick first second : Row → Bool} {rows : List Row}
    (one : ∀ row ∈ rows, pick row = true → first row = true ∨ second row = true) :
    rows.countP pick = rows.countP (fun row => pick row && (first row && !second row)) +
      rows.countP fun row => pick row && second row := by
  induction rows with
  | nil => rfl
  | cons row rows ih =>
    cases pick : pick row <;> cases first : first row <;> cases second : second row <;> simp_all <;> omega

theorem exists_row (above : overThreshold env now db condoId unitId = true)
    (settled : Settled (overThreshold env now db condoId unitId) (ownRow db condoId unitId)) :
    ∃ row ∈ existingOf db condoId, row.unitId = unitId := by
  rw [above] at settled
  cases found : ownRow db condoId unitId with
  | none =>
    rw [found] at settled
    cases settled
  | some row => exact ⟨row, mem_of_findBy (find_existing.trans found)⟩

theorem eligible_length (settled : ∀ unitId, Settled (overThreshold env now db condoId unitId) (ownRow db condoId unitId)) :
    ((computeCondoArrears now db condoId).filter (qualifies (parseAccessRestrictionSettings env (db.settingsOf condoId)))).length =
      (existingOf db condoId).countP fun row => overThreshold env now db condoId row.unitId := by
  have entries : (((computeCondoArrears now db condoId).filter
      (qualifies (parseAccessRestrictionSettings env (db.settingsOf condoId)))).map UnitArrearsSnapshot.unitId).Nodup :=
    nodup_computeCondoArrears.sublist (filter_sublist.map _)
  have rows : (((existingOf db condoId).filter fun row => overThreshold env now db condoId row.unitId).map
      UnitAccessRestriction.unitId).Nodup :=
    db.restrictions_unique.sublist ((filter_sublist.trans filter_sublist).map _)
  have same := (perm_ext_iff_of_nodup entries rows).mpr fun unitId => by
    rw [mem_map, mem_map]
    constructor
    · rintro ⟨snap, listed, rfl⟩
      obtain ⟨mem, exceeds⟩ := mem_filter.mp listed
      have above : overThreshold env now db condoId snap.unitId = true := by
        unfold overThreshold
        rw [snapshotOf_eq, ← (mem_computeCondoArrears.mp mem).2]
        exact exceeds
      obtain ⟨row, stored, own⟩ := exists_row above (settled snap.unitId)
      exact ⟨row, mem_filter.mpr ⟨stored, own ▸ above⟩, own⟩
    · rintro ⟨row, listed, rfl⟩
      have above := (mem_filter.mp listed).2
      obtain ⟨-, invoice, mem, -⟩ := overThreshold_iff.mp above
      obtain ⟨unpaid, own⟩ := mem_filter.mp mem
      unfold overThreshold at above
      rw [snapshotOf_eq] at above
      exact ⟨_, mem_filter.mpr ⟨mem_computeCondoArrears.mpr ⟨⟨invoice, unpaid, of_decide_eq_true own⟩, rfl⟩, above⟩, rfl⟩
  rw [countP_eq_length_filter, ← length_map, same.length_eq, length_map]

theorem eligible_eq (settled : ∀ unitId, Settled (overThreshold env now db condoId unitId) (ownRow db condoId unitId))
    {user : AuthenticatedUser} {page : RestrictedUnits} (mem : listUnits env now db user condoId = .ok page) :
    page.eligibleArrearsCount =
      page.items.countP (fun row => overThreshold env now db condoId row.unitId && (row.active && !row.manualExempt)) +
      page.items.countP fun row => overThreshold env now db condoId row.unitId && row.manualExempt := by
  simp only [listUnits, bind_eq_ok, pure_eq_ok] at mem
  obtain ⟨_, -, condo, found, rfl⟩ := mem
  have items := mergeSort_perm (existingOf db condoId) listedBefore
  have length := eligible_length settled
  rw [requireCondo_ok found] at length
  refine length.trans ?_
  rw [items.countP_eq, items.countP_eq]
  apply countP_split
  intro row stored exceeds
  have own : ownRow db condoId row.unitId = some row := by
    unfold ownRow
    rw [← find_existing]
    exact findBy_of_mem (db.restrictions_unique.sublist (filter_sublist.map _)) stored
  have settled := settled row.unitId
  rw [exceeds, own] at settled
  unfold Settled at settled
  simpa using settled

end

namespace Sample

def abroad : AccessDb :=
  { indebted with
    restrictions := [⟨2, 1, false, .auto, false, [], none, 0, none, none, none, none⟩]
    restrictions_unique := List.nodup_singleton 1 }

def ran (db : AccessDb) : Recompute :=
  match recomputeCondo noUrls now db 1 none with
  | .ok done => done
  | .error _ => ⟨db, ⟨0, 0, 0⟩⟩

theorem ran_ok {db : AccessDb} (runs : (recomputeCondo noUrls now db 1 none).isOk = true) :
    recomputeCondo noUrls now db 1 none = .ok (ran db) := by
  unfold ran
  cases done : recomputeCondo noUrls now db 1 none with
  | ok done => rfl
  | error failure =>
    rw [done] at runs
    cases runs

end Sample

end SmartResidence.Access
