import SmartResidence.Access.AccessRestriction
import SmartResidence.Foundation.Runs

/-!
# Decisions of management and the engine

What the engine does to a row is a function of that row alone. A manual decision stands as long as the engine finds
the unit over the threshold.
-/

namespace SmartResidence.Access

open Foundation Billing Settings List

section

variable {db after : AccessDb} {unitId other : Id} {change : UnitAccessRestriction → UnitAccessRestriction}
  {create : UnitAccessRestriction}

theorem updated_own (rows : after.restrictions = updateBy UnitAccessRestriction.unitId unitId change db.restrictions)
    (kept : ∀ row, (change row).unitId = row.unitId) :
    after.restriction? unitId = (db.restriction? unitId).map change := by
  unfold AccessDb.restriction?
  rw [rows, findBy_updateBy kept]
  cases found : findBy UnitAccessRestriction.unitId unitId db.restrictions with
  | none => rfl
  | some row => simp [(mem_of_findBy found).2]

theorem updated_other (rows : after.restrictions = updateBy UnitAccessRestriction.unitId unitId change db.restrictions)
    (kept : ∀ row, (change row).unitId = row.unitId) (ne : other ≠ unitId) :
    after.restriction? other = db.restriction? other := by
  unfold AccessDb.restriction?
  rw [rows, findBy_updateBy kept]
  cases found : findBy UnitAccessRestriction.unitId other db.restrictions with
  | none => rfl
  | some row =>
    have apart : row.unitId ≠ unitId := (mem_of_findBy found).2 ▸ ne
    simp [apart]

variable (kept : ∀ row, (change row).unitId = row.unitId)

theorem upserted_own : (db.upsertRestriction create change kept).restriction? create.unitId =
    some ((db.restriction? create.unitId).elim create change) :=
  findBy_upsertBy_self rfl kept

theorem upserted_other (ne : other ≠ create.unitId) :
    (db.upsertRestriction create change kept).restriction? other = db.restriction? other :=
  findBy_upsertBy_other rfl kept ne

end

/-! ## The engine, row by row -/

section

variable {now : Instant} {settings : StoredAccessRestrictionSettings} {condoId : Id} {actorUserId : Option Id}
  {snap : UnitArrearsSnapshot} {row old : Option UnitAccessRestriction} {state : Recompute} {unitId other : Id}

def inserted (now : Instant) (settings : StoredAccessRestrictionSettings) (condoId : Id) (actorUserId : Option Id)
    (snap : UnitArrearsSnapshot) (unitId : Id) : UnitAccessRestriction where
  condoId := condoId
  unitId := unitId
  active := true
  source := .auto
  manualExempt := false
  zones := settings.zones
  reason := some (autoReason snap)
  outstandingAmount := snap.outstanding
  oldestDueDate := snap.oldestDueDate
  activatedAt := some now
  clearedAt := none
  updatedByUserId := actorUserId

def turn (now : Instant) (settings : StoredAccessRestrictionSettings) (condoId : Id) (actorUserId : Option Id)
    (snap : UnitArrearsSnapshot) (unitId : Id) (row old : Option UnitAccessRestriction) : Option UnitAccessRestriction :=
  if ¬ qualifies settings snap then
    match row with
    | some row =>
        if row.active || row.manualExempt then old.map (deactivation now actorUserId snap row) else old.map snap.amounts
    | none => old
  else if row.any UnitAccessRestriction.manualExempt then old.map snap.amounts
  else if row.any fun row => row.active && decide (row.source = .manual) then
    old.map fun row => { snap.amounts row with zones := settings.zones }
  else if row.any UnitAccessRestriction.active then
    old.map fun row => { snap.amounts row with zones := settings.zones, reason := some (autoReason snap) }
  else some (old.elim (inserted now settings condoId actorUserId snap unitId) (activation now settings actorUserId snap))

theorem recomputeUnit_own :
    (recomputeUnit now settings condoId actorUserId snap row state unitId).db.restriction? unitId =
      turn now settings condoId actorUserId snap unitId row (state.db.restriction? unitId) := by
  unfold recomputeUnit turn
  split
  · cases row with
    | none => rfl
    | some row =>
      simp only
      split
      all_goals
        apply updated_own
        · rfl
        · exact fun _ => rfl
  split
  · apply updated_own rfl
    exact fun _ => rfl
  split
  · apply updated_own rfl
    exact fun _ => rfl
  split
  · apply updated_own rfl
    exact fun _ => rfl
  · apply upserted_own
    exact fun _ => rfl

theorem recomputeUnit_other (ne : other ≠ unitId) :
    (recomputeUnit now settings condoId actorUserId snap row state unitId).db.restriction? other =
      state.db.restriction? other := by
  unfold recomputeUnit
  split
  · cases row with
    | none => rfl
    | some row =>
      simp only
      split
      all_goals
        refine updated_other rfl ?_ ne
        exact fun _ => rfl
  split
  · refine updated_other rfl ?_ ne
    exact fun _ => rfl
  split
  · refine updated_other rfl ?_ ne
    exact fun _ => rfl
  split
  · refine updated_other rfl ?_ ne
    exact fun _ => rfl
  · refine upserted_other ?_ ne
    exact fun _ => rfl

theorem find_existing {db : AccessDb} : findBy UnitAccessRestriction.unitId unitId (existingOf db condoId) =
    (db.restriction? unitId).filter fun row => decide (row.condoId = condoId) := by
  unfold AccessDb.restriction?
  cases found : findBy UnitAccessRestriction.unitId unitId db.restrictions with
  | none =>
    rw [Option.filter_none, findBy_eq_none]
    intro row mem
    exact findBy_eq_none.mp found row (mem_filter.mp mem).1
  | some row =>
    obtain ⟨mem, rfl⟩ := mem_of_findBy found
    by_cases own : row.condoId = condoId
    · have nodup : ((existingOf db condoId).map UnitAccessRestriction.unitId).Nodup :=
        db.restrictions_unique.sublist (filter_sublist.map _)
      have listed : row ∈ existingOf db condoId := mem_filter.mpr ⟨mem, decide_eq_true own⟩
      have kept : (some row).filter (fun row => decide (row.condoId = condoId)) = some row := by simp [own]
      rw [kept]
      exact findBy_of_mem nodup listed
    · have dropped : (some row).filter (fun row => decide (row.condoId = condoId)) = none := by simp [own]
      rw [dropped, findBy_eq_none]
      intro other listed same
      obtain ⟨inside, theirs⟩ := mem_filter.mp listed
      obtain rfl := eq_of_key_eq db.restrictions_unique inside mem same
      exact own (of_decide_eq_true theirs)

theorem graceDays_nonneg (value : Json) : 0 ≤ parseGraceDays value defaultSettings.graceDays := by
  have fallback : (0 : ℚ) ≤ defaultSettings.graceDays := by simp [defaultSettings]
  unfold parseGraceDays
  split
  · split
    · rename_i within
      exact within.2.1
    · exact fallback
  · exact fallback

theorem not_qualifies_none {env : AccessEnv} {raw : Json} :
    qualifies (parseAccessRestrictionSettings env raw) (.none unitId) = false := by
  have grace := graceDays_nonneg ((raw.get "accessRestriction").get "graceDays")
  have none : ¬ (parseAccessRestrictionSettings env raw).graceDays < ((0 : ℤ) : ℚ) := by
    simpa [parseAccessRestrictionSettings] using grace
  exact decide_eq_false fun both => none both.2

end

section

variable {env : AccessEnv} {now : Instant} {db : AccessDb} {condoId unitId : Id} {actorUserId : Option Id}
  {done : Recompute}

def engineEnabled (env : AccessEnv) (db : AccessDb) (condoId : Id) : Bool :=
  (parseAccessRestrictionSettings env (db.settingsOf condoId)).enabled

def overThreshold (env : AccessEnv) (now : Instant) (db : AccessDb) (condoId unitId : Id) : Bool :=
  qualifies (parseAccessRestrictionSettings env (db.settingsOf condoId)) (snapshotOf (condoArrears now db condoId) unitId)

def engineRow (env : AccessEnv) (now : Instant) (db : AccessDb) (condoId : Id) (actorUserId : Option Id) (unitId : Id) :
    Option UnitAccessRestriction :=
  turn now (parseAccessRestrictionSettings env (db.settingsOf condoId)) condoId actorUserId
    (snapshotOf (condoArrears now db condoId) unitId) unitId
    ((db.restriction? unitId).filter fun row => decide (row.condoId = condoId)) (db.restriction? unitId)

theorem requireCondo_ok {condo : AccessCondo} (found : requireCondo db condoId = .ok condo) :
    db.settingsOf condoId = condo.settings := by
  simp only [requireCondo, bind_eq_ok, pure_eq_ok, orThrow_eq_ok] at found
  obtain ⟨_, found, _, -, rfl⟩ := found
  simp [AccessDb.settingsOf, found]

theorem recompute_row (recomputed : recomputeCondo env now db condoId actorUserId = .ok done) :
    done.db.restriction? unitId = if engineEnabled env db condoId then engineRow env now db condoId actorUserId unitId
      else db.restriction? unitId := by
  simp only [recomputeCondo, bind_eq_ok] at recomputed
  obtain ⟨condo, found, recomputed⟩ := recomputed
  have settings := requireCondo_ok found
  unfold engineEnabled engineRow
  rw [settings]
  split at recomputed
  · rename_i disabled
    cases recomputed
    rw [if_neg disabled]
  · rename_i enabled
    rw [not_not] at enabled
    rw [if_pos enabled]
    cases recomputed
    rw [← find_existing]
    by_cases touched : unitId ∈ touchedUnitIds (condoArrears now db condoId) (existingOf db condoId)
    · exact look_foldl_own (fun state : Recompute => state.db.restriction?) (fun unitId old new => new = turn now _ condoId
          actorUserId (snapshotOf (condoArrears now db condoId) unitId) unitId
          (findBy UnitAccessRestriction.unitId unitId (existingOf db condoId)) old)
        (fun _ _ => recomputeUnit_own) (fun _ _ _ => recomputeUnit_other) (nodup_membersOf _) touched _
    · refine (look_foldl_other (fun state : Recompute => state.db.restriction?)
        (fun _ _ _ => recomputeUnit_other) touched _).trans ?_
      simp only [touchedUnitIds, mem_membersOf, mem_append, not_or] at touched
      have snap : snapshotOf (condoArrears now db condoId) unitId = .none unitId := by
        have absent : (condoArrears now db condoId).lookup unitId = none := by
          rw [lookup_eq_none_iff]
          intro entry mem
          rw [bne_iff_ne]
          exact fun same => touched.1 (mem_map.mpr ⟨entry, mem, same.symm⟩)
        unfold snapshotOf
        rw [absent, Option.getD_none]
      have row : findBy UnitAccessRestriction.unitId unitId (existingOf db condoId) = none :=
        findBy_eq_none.mpr fun row mem same => touched.2 (same ▸ mem_map_of_mem mem)
      rw [snap, row]
      unfold turn
      rw [if_pos (by rw [not_qualifies_none]; decide)]

theorem engineRow_active {row : UnitAccessRestriction} (found : db.restriction? unitId = some row)
    (active : row.active = true) (above : row.condoId = condoId → overThreshold env now db condoId unitId = true) :
    ∃ new, engineRow env now db condoId actorUserId unitId = some new ∧ new.active = true := by
  unfold engineRow turn
  rw [found]
  by_cases own : row.condoId = condoId
  · unfold overThreshold at above
    simp only [above, own, Option.filter, decide_true, if_true, not_true, if_false, Option.any_some]
    split
    · exact ⟨_, rfl, active⟩
    split
    · exact ⟨_, rfl, active⟩
    · exact ⟨_, rfl, active⟩
  · have unseen : (some row).filter (fun row => decide (row.condoId = condoId)) = none := by simp [own]
    rw [unseen]
    split
    · exact ⟨row, rfl, active⟩
    · exact ⟨_, rfl, rfl⟩

theorem engineRow_exempt {row : UnitAccessRestriction} (found : db.restriction? unitId = some row)
    (inactive : row.active = false) (exempt : row.manualExempt = true)
    (above : row.condoId = condoId ↔ overThreshold env now db condoId unitId = true) :
    ∃ new, engineRow env now db condoId actorUserId unitId = some new ∧
      new.active = false ∧ new.manualExempt = true := by
  unfold engineRow turn
  rw [found]
  unfold overThreshold at above
  by_cases own : row.condoId = condoId
  · have above := above.mp own
    simp only [above, own, exempt, Option.filter, decide_true, if_true, Option.any_some]
    exact ⟨_, rfl, inactive, exempt⟩
  · have unseen : (some row).filter (fun row => decide (row.condoId = condoId)) = none := by simp [own]
    rw [unseen, if_pos fun above' => own (above.mpr above')]
    exact ⟨row, rfl, inactive, exempt⟩

end

/-! ## Events -/

def outstandingOf (db : AccessDb) (unitId : Id) : ℤ :=
  sumBy ArrearsInvoice.outstanding (db.invoices.filter fun invoice =>
    decide (invoice.unitId = unitId ∧ invoice.status ∈ arrearsStatuses) && invoice.owed)

def AccessEvent.Restricts (unitId : Id) (event : AccessEvent) : Prop :=
  ∃ now user condoId reason, event = .forceRestrict now user condoId unitId reason

def AccessEvent.Clears (unitId : Id) (event : AccessEvent) : Prop :=
  ∃ now user condoId, event = .forceClear now user condoId unitId

def Restricted (unitId : Id) (db : AccessDb) : Prop :=
  ∃ row, db.restriction? unitId = some row ∧ row.active = true

def Exempt (unitId : Id) (db : AccessDb) : Prop :=
  ∃ row, db.restriction? unitId = some row ∧ row.active = false ∧ row.manualExempt = true

section

variable {env : AccessEnv} {now : Instant} {before after : AccessDb} {condoId unitId : Id} {user : AuthenticatedUser}
  {reason : Option String} {event : AccessEvent}

theorem forceRestrict_rows (done : forceRestrict env now before user condoId unitId reason = .ok after) :
    Restricted unitId after ∧ ∀ other ≠ unitId, after.restriction? other = before.restriction? other := by
  simp only [forceRestrict, bind_eq_ok, pure_eq_ok] at done
  obtain ⟨_, -, _, -, _, -, rfl⟩ := done
  constructor
  · refine ⟨_, upserted_own _, ?_⟩
    cases before.restriction? unitId <;> rfl
  · intro other ne
    exact upserted_other _ ne

theorem forceClear_rows (done : forceClear env now before user condoId unitId = .ok after) :
    Exempt unitId after ∧ ∀ other ≠ unitId, after.restriction? other = before.restriction? other := by
  simp only [forceClear, bind_eq_ok, pure_eq_ok] at done
  obtain ⟨_, -, _, -, _, -, rfl⟩ := done
  constructor
  · refine ⟨_, upserted_own _, ?_⟩
    cases before.restriction? unitId <;> exact ⟨rfl, rfl⟩
  · intro other ne
    exact upserted_other _ ne

theorem storeSettings_tables {dto : UpdateSettingsDto} {next : StoredAccessRestrictionSettings}
    (written : storeSettings env before user condoId dto = .ok (after, next)) :
    after.restrictions = before.restrictions ∧ after.invoices = before.invoices := by
  simp only [storeSettings, bind_eq_ok] at written
  obtain ⟨_, -, _, -, same⟩ := written
  cases same
  exact ⟨rfl, rfl⟩

def Rewritten (env : AccessEnv) (before : AccessDb) (event : AccessEvent) (after : AccessDb) (unitId : Id) : Prop :=
  ∃ stored condoId now actorUserId, EngineOn env before event stored condoId now ∧
    engineEnabled env stored condoId = true ∧ stored.invoices = before.invoices ∧
    stored.restriction? unitId = before.restriction? unitId ∧
    after.restriction? unitId = engineRow env now stored condoId actorUserId unitId

theorem engine_step {stored : AccessDb} {actorUserId : Option Id} {done : Recompute}
    (runs : EngineOn env before event stored condoId now) (invoices : stored.invoices = before.invoices)
    (rows : stored.restrictions = before.restrictions)
    (recomputed : recomputeCondo env now stored condoId actorUserId = .ok done) (unitId : Id) :
    done.db.restriction? unitId = before.restriction? unitId ∨ Rewritten env before event done.db unitId := by
  have row : done.db.restriction? unitId = if engineEnabled env stored condoId
      then engineRow env now stored condoId actorUserId unitId else stored.restriction? unitId :=
    recompute_row recomputed
  have same : stored.restriction? unitId = before.restriction? unitId := by
    unfold AccessDb.restriction?
    rw [rows]
  by_cases enabled : engineEnabled env stored condoId = true
  · rw [if_pos enabled] at row
    exact .inr ⟨stored, condoId, now, actorUserId, runs, enabled, invoices, same, row⟩
  · rw [if_neg enabled, same] at row
    exact .inl row

theorem step_row (step : AccessStep env before event after) (unitId : Id) :
    event.Restricts unitId ∧ Restricted unitId after ∨ event.Clears unitId ∧ Exempt unitId after ∨
      after.restriction? unitId = before.restriction? unitId ∨ Rewritten env before event after unitId := by
  unfold AccessStep at step
  cases event with
  | forceRestrict now user condoId own reason =>
    obtain ⟨restricted, others⟩ := forceRestrict_rows step
    by_cases same : unitId = own
    · subst same
      exact .inl ⟨⟨now, user, condoId, reason, rfl⟩, restricted⟩
    · exact .inr (.inr (.inl (others unitId same)))
  | forceClear now user condoId own =>
    obtain ⟨exempt, others⟩ := forceClear_rows step
    by_cases same : unitId = own
    · subst same
      exact .inr (.inl ⟨⟨now, user, condoId, rfl⟩, exempt⟩)
    · exact .inr (.inr (.inl (others unitId same)))
  | recompute now condoId actorUserId =>
    obtain ⟨done, recomputed, rfl⟩ := map_eq_ok.mp step
    exact .inr (.inr (engine_step (.recompute now condoId actorUserId) rfl rfl recomputed unitId))
  | updateSettings now user condoId dto =>
    simp only [perform, updateSettings, bind_eq_ok] at step
    obtain ⟨⟨stored, next⟩, written, step⟩ := step
    obtain ⟨rows, invoices⟩ := storeSettings_tables written
    split at step
    · simp only [bind_eq_ok, pure_eq_ok] at step
      obtain ⟨done, recomputed, rfl⟩ := step
      exact .inr (.inr (engine_step (.settings written) invoices rows recomputed unitId))
    · cases step
      refine .inr (.inr (.inl ?_))
      unfold AccessDb.restriction?
      rw [rows]
  | invoicePaid now invoiceId =>
    cases step
    unfold onInvoicePaid
    cases found : before.invoice? invoiceId with
    | none => exact .inr (.inr (.inl rfl))
    | some invoice =>
      simp only
      cases recomputed : recomputeCondo env now before invoice.condoId none with
      | error failure => exact .inr (.inr (.inl rfl))
      | ok done => exact .inr (.inr (engine_step (.paid found) rfl rfl recomputed unitId))
  | billing invoices =>
    cases step
    exact .inr (.inr (.inl rfl))

end

/-! ## Histories -/

def RestrictionStands (env : AccessEnv) (unitId : Id) (before : AccessDb) (event : AccessEvent) : Prop :=
  ∀ stored condoId now row, EngineOn env before event stored condoId now → engineEnabled env stored condoId = true →
    stored.restriction? unitId = some row → row.condoId = condoId →
    overThreshold env now stored condoId unitId = true

/-- Each engine that runs on the condo of the unit's row finds the unit over the threshold, or with nothing
outstanding. No other condo's engine finds it over the threshold. -/
def ClearanceStands (env : AccessEnv) (unitId : Id) (before : AccessDb) (event : AccessEvent) : Prop :=
  ∀ stored condoId now row, EngineOn env before event stored condoId now → engineEnabled env stored condoId = true →
    stored.restriction? unitId = some row →
    (row.condoId = condoId → overThreshold env now stored condoId unitId = true ∨ outstandingOf stored unitId = 0) ∧
      (overThreshold env now stored condoId unitId = true → row.condoId = condoId)

def StillOwing (unitId : Id) (before : AccessDb) (event : AccessEvent) : Prop :=
  outstandingOf before unitId ≠ 0 ∧ ¬ event.Restricts unitId

def NotCleared (unitId : Id) (_ : AccessDb) (event : AccessEvent) : Prop := ¬ event.Clears unitId

section

variable {env : AccessEnv} {before after : AccessDb} {event : AccessEvent} {unitId : Id}

theorem restricted_kept (restricted : Restricted unitId before) (stands : RestrictionStands env unitId before event)
    (uncleared : ¬ event.Clears unitId) (step : AccessStep env before event after) : Restricted unitId after := by
  obtain ⟨row, found, active⟩ := restricted
  rcases step_row step unitId with ⟨-, restricted⟩ | ⟨cleared, -⟩ | same |
    ⟨stored, condoId, now, actorUserId, runs, enabled, -, same, rewritten⟩
  · exact restricted
  · exact absurd cleared uncleared
  · exact ⟨row, same.trans found, active⟩
  · have found := same.trans found
    unfold Restricted
    rw [rewritten]
    exact engineRow_active found active fun own => stands stored condoId now row runs enabled found own

theorem exempt_kept (exempt : Exempt unitId before) (stands : ClearanceStands env unitId before event)
    (owing : StillOwing unitId before event) (step : AccessStep env before event after) : Exempt unitId after := by
  obtain ⟨row, found, inactive, exempt⟩ := exempt
  rcases step_row step unitId with ⟨restricts, -⟩ | ⟨-, cleared⟩ | same |
    ⟨stored, condoId, now, actorUserId, runs, enabled, invoices, same, rewritten⟩
  · exact absurd restricts owing.2
  · exact cleared
  · exact ⟨row, same.trans found, inactive, exempt⟩
  · have found := same.trans found
    obtain ⟨above, only⟩ := stands stored condoId now row runs enabled found
    have owes : outstandingOf stored unitId ≠ 0 := by
      unfold outstandingOf
      rw [invoices]
      exact owing.1
    unfold Exempt
    rw [rewritten]
    exact engineRow_exempt found inactive exempt ⟨fun own => (above own).resolve_right owes, only⟩

end

namespace Sample

def noUrls : AccessEnv := ⟨fun _ => none⟩

def fromHundred : Json :=
  .object [("accessRestriction", .object [("enabled", .bool true), ("minOutstanding", .number 100)])]

def now : Instant := 20 * msPerDay

def arrears (amountPaid : ℤ) : ArrearsInvoice := ⟨1, 1, 1, .partlyPaid, 15000, amountPaid, 0⟩

def indebted : AccessDb := ⟨[⟨1, none, fromHundred⟩], [⟨1, 1⟩], [], [], [arrears 0], [], List.nodup_nil⟩

def manager : AuthenticatedUser := ⟨9, [⟨.managementAdmin, some 1, none⟩]⟩

def after (db : AccessDb) (event : AccessEvent) : AccessDb :=
  match perform noUrls db event with
  | .ok next => next
  | .error _ => db

theorem step_after {db : AccessDb} {event : AccessEvent} (done : (perform noUrls db event).isOk = true) :
    AccessStep noUrls db event (after db event) := by
  unfold AccessStep after
  cases performed : perform noUrls db event with
  | ok next => rfl
  | error failure =>
    rw [performed] at done
    cases done

def recompute : AccessEvent := .recompute now 1 none

def cleared : AccessDb := after indebted (.forceClear now manager 1 1)

def paying : AccessEvent := .billing [arrears 10000]

def paid : AccessDb := after cleared paying

def recomputed : AccessDb := after paid recompute

def charging : AccessEvent := .billing [arrears 10000, ⟨2, 1, 1, .issued, 20000, 0, now⟩]

def relapsed : AccessDb := after recomputed charging

def restricts : AccessEvent := .forceRestrict now manager 1 1 none

theorem recompute_other : ¬ recompute.Restricts 1 ∧ ¬ recompute.Clears 1 := by
  constructor
  · intro ⟨_, _, _, _, same⟩
    cases same
  · intro ⟨_, _, _, same⟩
    cases same

theorem billing_other (invoices : List ArrearsInvoice) : ¬ (AccessEvent.billing invoices).Restricts 1 := by
  intro ⟨_, _, _, _, same⟩
  cases same

theorem owing_step {db : AccessDb} {event : AccessEvent} (owes : outstandingOf db 1 ≠ 0) (other : ¬ event.Restricts 1)
    (done : (perform noUrls db event).isOk = true) :
    Guarded (StillOwing 1) (AccessStep noUrls) db event (after db event) :=
  ⟨⟨owes, other⟩, step_after done⟩

end Sample

theorem restricted_iff {db : AccessDb} {unitId : Id} : Restricted unitId db ↔
    (db.restriction? unitId).any UnitAccessRestriction.active = true := by
  rw [Option.any_eq_true]
  rfl

end SmartResidence.Access
