import SmartResidence.Visitors.VisitorCalls

/-!
# What the visitor operations check
-/

namespace SmartResidence.Visitors

open Foundation Billing

section

variable {env : VisitorEnv} {now : Instant} {user : AuthenticatedUser} {guard : GateUser} {condoId : Id}
  {visitor : Visitor} {ending : Ending}

variable {result : Unit}

theorem assertGateOperator_eq_ok : assertGateOperator user = .ok result ↔ isGateOperator user = true := by
  simp [assertGateOperator]

variable {done : String}

theorem awaitingOwner_eq_ok {verb : String} :
    awaitingOwner user visitor verb done = .ok result ↔ visitor.visitType = .walkinUnit ∧
      visitor.unitId.any (userCanApproveUnit user) = true ∧ visitor.status = .pendingOwnerApproval := by
  simp [awaitingOwner]

theorem approveChecks_eq_ok : approveChecks now user visitor = .ok ending ↔
    (visitor.visitType = .walkinUnit ∧ visitor.unitId.any (userCanApproveUnit user) = true ∧
      visitor.status = .pendingOwnerApproval) ∧
    (if passed visitor.approvalDeadline now then
        .expire "Approval window expired — ask the guard to re-register the visitor"
      else .update (.approve user.id now (addMinutes now walkInCheckInWindowMins))) = ending := by
  simp only [approveChecks, bind_eq_ok, awaitingOwner_eq_ok, exists_const]
  split <;> simp only [pure_eq_ok]

theorem rejectChecks_eq_ok : rejectChecks user visitor = .ok ending ↔
    (visitor.visitType = .walkinUnit ∧ visitor.unitId.any (userCanApproveUnit user) = true ∧
      visitor.status = .pendingOwnerApproval) ∧ .update .reject = ending := by
  simp only [rejectChecks, bind_eq_ok, awaitingOwner_eq_ok, exists_const, pure_eq_ok]

theorem cancelChecks_eq_ok : cancelChecks now user visitor = .ok ending ↔
    visitor.unitId.any (userCanManageUnit user) = true ∧ visitor.status.upcoming = true ∧
      .update (.cancel now) = ending := by
  simp only [cancelChecks, bind_eq_ok, throwIf_eq_ok, pure_eq_ok, exists_const, not_not]

theorem approveOvernightChecks_eq_ok {settings : CondoVisitorSettings} {accessCode : String} :
    approveOvernightChecks now user settings accessCode visitor = .ok ending ↔
      userIsManagement user visitor.condoId = true ∧ ¬ (visitor.visitType ≠ .preReg ∨ visitor.overnight = false) ∧
      visitor.status = .pendingManagementApproval ∧
      .update (.approveOvernight user.id now (computePreRegExpiresAt visitor.expectedAt
        (visitor.expectedDurationMins.getD defaultVisitDurationMins) settings) accessCode) = ending := by
  simp only [approveOvernightChecks, bind_eq_ok, throwIf_eq_ok, pure_eq_ok, not_not, exists_const]

theorem walkInOfCondo_eq_ok : walkInOfCondo condoId visitor done = .ok result ↔
    visitor.condoId = condoId ∧ visitor.visitType = .walkinUnit := by
  simp [walkInOfCondo]

theorem approveWalkInChecks_eq_ok : approveWalkInChecks now guard condoId visitor = .ok ending ↔
    (visitor.condoId = condoId ∧ visitor.visitType = .walkinUnit) ∧ visitor.status = .pendingOwnerApproval ∧
      .letIn guard.id now true = ending := by
  simp only [approveWalkInChecks, bind_eq_ok, walkInOfCondo_eq_ok, exists_const, pure_eq_ok, throwIf_eq_ok, not_not]

theorem acknowledgeChecks_eq_ok : acknowledgeChecks now guard condoId visitor = .ok ending ↔
    (visitor.condoId = condoId ∧ visitor.visitType = .walkinUnit) ∧ visitor.status = .approved ∧
      (if passed visitor.expiresAt now then
          .expire "Owner approval window expired — ask the resident to re-register the visitor"
        else .letIn guard.id now false) = ending := by
  simp only [acknowledgeChecks, bind_eq_ok, walkInOfCondo_eq_ok, throwIf_eq_ok, exists_const, not_not]
  split <;> simp only [pure_eq_ok]

theorem checkInChecks_eq_ok : checkInChecks now guard condoId visitor = .ok ending ↔
    visitor.condoId = condoId ∧ visitor.status = .approved ∧
      (if passed visitor.expiresAt now then .expire "Visitor pass has expired"
        else .letIn guard.id now false) = ending := by
  simp only [checkInChecks, bind_eq_ok, throwIf_eq_ok, exists_const, not_not]
  constructor
  · rintro ⟨condo, _, _, approved, rest⟩
    refine ⟨condo, approved, ?_⟩
    split at rest
    · rename_i lapsed
      rw [if_pos lapsed, pure_eq_ok.mp rest]
    · rename_i current
      rw [if_neg current, pure_eq_ok.mp rest]
  · rintro ⟨condo, approved, rfl⟩
    refine ⟨condo, by simp [approved], by simp [approved], approved, ?_⟩
    split <;> rfl

def Visitor.early (now : Instant) (visitor : Visitor) : Prop :=
  visitor.overnight = true ∧ visitor.visitType = .preReg ∧ visitor.status = .approved ∧ now < visitor.expectedAt

theorem enrichVerifyResult_eq_ok {result : Visitor} : enrichVerifyResult env now visitor = .ok result ↔
    visitor.status ≠ .cancelled ∧ visitor.status ≠ .expired ∧ ¬ visitor.early now ∧ visitor = result := by
  simp only [enrichVerifyResult, bind_eq_ok, throwIf_eq_ok, pure_eq_ok, exists_const, Visitor.early]

end

section

variable {env : VisitorEnv} {now : Instant} {db : VisitorDb} {user : AuthenticatedUser} {guard : GateUser}
  {draft : Visitor}

theorem overnightOutcome_eq_ok {settings : CondoVisitorSettings} {visitors : List Visitor} {condoId : Id}
    {expectedAt : Instant} {outcome : OvernightOutcome}
    (resolved : overnightOutcome env.calendar now settings visitors condoId expectedAt = .ok outcome) :
    outcome.status = .pendingManagementApproval ∧ isHolidayAuto env.calendar settings expectedAt = false ∨
      outcome.status = .approved ∧ isHolidayAuto env.calendar settings expectedAt = true ∧
        countOvernightSlots env.calendar visitors condoId expectedAt < settings.overnightSlotsPerNight := by
  unfold overnightOutcome resolveOvernightOutcome at resolved
  by_cases auto : isHolidayAuto env.calendar settings expectedAt = true
  · simp only [auto, if_true] at resolved
    by_cases full : settings.overnightSlotsPerNight ≤ countOvernightSlots env.calendar visitors condoId expectedAt
    · simp [full] at resolved
    · simp only [full, if_false, Except.ok.injEq] at resolved
      exact .inr ⟨resolved ▸ rfl, auto, Nat.lt_of_not_le full⟩
  · simp only [if_neg auto, Except.ok.injEq] at resolved
    exact .inl ⟨resolved ▸ rfl, by simpa using auto⟩

structure Drafted (env : VisitorEnv) (now : Instant) (db : VisitorDb) (user : AuthenticatedUser) (dto : CreateVisitorDto)
    (draft : Visitor) : Prop where
  overnight : draft.overnight = dto.overnight
  expectedAt : draft.expectedAt = dto.expectedAt
  unit : ∃ unit, db.unit? dto.unitId = some unit ∧ draft.condoId = unit.condoId ∧ draft.unitId = some unit.id ∧
    userCanManageUnit user unit.id = true
  day : dto.overnight = false → draft.status = .approved
  night : dto.overnight = true →
    draft.status = .pendingManagementApproval ∧
        isHolidayAuto env.calendar (settingsOf env db draft.condoId) dto.expectedAt = false ∨
      draft.status = .approved ∧
        isHolidayAuto env.calendar (settingsOf env db draft.condoId) dto.expectedAt = true ∧
        countOvernightSlots env.calendar db.visitors draft.condoId dto.expectedAt <
          (settingsOf env db draft.condoId).overnightSlotsPerNight
  eligible : dto.overnight = true → ∀ unitId ∈ draft.unitId,
    (checkUnitOvernightEligibility env db unitId (settingsOf env db draft.condoId) now).allowed = true

variable {dto : CreateVisitorDto}

theorem createDraft_ok (drafted : createDraft env now db user dto = .ok draft) : Drafted env now db user dto draft := by
  simp only [createDraft, bind_eq_ok, orThrow_eq_ok, pure_eq_ok] at drafted
  obtain ⟨unit, found, _, manages, _, _, _, valid, ⟨status, duration⟩, resolved, phone, _, rfl⟩ := drafted
  have manages : userCanManageUnit user unit.id = true := by simpa using manages
  refine ⟨rfl, rfl, ⟨unit, found, rfl, rfl, manages⟩, fun day => ?_, fun night => ?_, fun night => ?_⟩
  · unfold statusAndDuration at resolved
    rw [if_neg (by simp [day]), pure_eq_ok] at resolved
    exact (congrArg Prod.fst resolved).symm
  · unfold statusAndDuration at resolved
    rw [if_pos night] at resolved
    simp only [bind_eq_ok] at resolved
    obtain ⟨outcome, outcomes, rfl, rfl⟩ := resolved
    exact overnightOutcome_eq_ok outcomes
  · intro unitId same
    cases same
    simp only [validatePreRegDto, bind_eq_ok, throwIf_eq_ok, night, if_true] at valid
    obtain ⟨_, _, _, _, _, _, _, _, _, eligible, _⟩ := valid
    exact not_not.mp eligible

theorem Drafted.upcoming (drafted : Drafted env now db user dto draft) : draft.status.upcoming = true := by
  cases overnight : dto.overnight with
  | false =>
    rw [drafted.day overnight]
    rfl
  | true =>
    rcases drafted.night overnight with ⟨status, -⟩ | ⟨status, -⟩
    · rw [status]
      rfl
    · rw [status]
      rfl

theorem deliveryDraft_ok {dto : CreateDeliveryPassDto} (drafted : deliveryDraft env now db user dto = .ok draft) :
    draft.status = .approved ∧ draft.overnight = false := by
  simp only [deliveryDraft, bind_eq_ok, pure_eq_ok] at drafted
  obtain ⟨_, _, _, _, _, _, rfl⟩ := drafted
  exact ⟨rfl, rfl⟩

def WalkIn.Sound : WalkIn → Prop
  | .waits draft => draft.status = .pendingOwnerApproval ∧ draft.overnight = false
  | .enters draft => draft.status = .checkedIn ∧ draft.overnight = false

variable {walkIn : WalkIn}

theorem walkInUnit_ok {dto : CreateWalkInUnitDto} (drafted : walkInUnit env now db guard dto = .ok walkIn) :
    walkIn.Sound := by
  simp only [walkInUnit, bind_eq_ok] at drafted
  obtain ⟨_, _, _, _, _, _, _, _, _, _, rest⟩ := drafted
  split at rest
  · cases rest
    exact ⟨rfl, rfl⟩
  · split at rest
    · cases rest
      exact ⟨rfl, rfl⟩
    · cases rest
      exact ⟨rfl, rfl⟩

theorem walkInOffice_ok {dto : CreateWalkInOfficeDto} (drafted : walkInOffice now guard dto = .ok walkIn) :
    walkIn.Sound := by
  simp only [walkInOffice, bind_eq_ok, pure_eq_ok] at drafted
  obtain ⟨_, _, _, _, _, _, _, _, _, _, rfl⟩ := drafted
  exact ⟨rfl, rfl⟩

theorem recurringDraft_ok {pass : String} (drafted : recurringDraft env now db pass guard = .ok draft) :
    draft.status = .checkedIn ∧ draft.overnight = false := by
  simp only [recurringDraft, bind_eq_ok, pure_eq_ok] at drafted
  obtain ⟨_, _, _, _, row, _, _, _, _, _, _, _, _, _, _, _, rfl⟩ := drafted
  exact ⟨rfl, rfl⟩

end

section

variable {env : VisitorEnv} {now : Instant} {db after : VisitorDb} {draft : Visitor} {accessCode : String}

structure RowOf (draft : Visitor) (id : Id) (now : Instant) (row : Visitor) : Prop where
  id : row.id = id
  createdAt : row.createdAt = now
  condoId : row.condoId = draft.condoId
  unitId : row.unitId = draft.unitId
  status : row.status = draft.status
  overnight : row.overnight = draft.overnight
  expectedAt : row.expectedAt = draft.expectedAt

def VisitorDb.withVisitor (db : VisitorDb) (row : Visitor) : VisitorDb :=
  { db with visitors := db.visitors ++ [row], nextId := db.nextId + 1 }

variable {code : Option String}

theorem rowOf_inserted {id : Id} : RowOf draft id now (draft.inserted env id now code) :=
  ⟨rfl, rfl, rfl, rfl, rfl, rfl, rfl⟩

theorem insertVisitor_ok (inserts : insertVisitor env now db draft code = .ok after) :
    after = db.withVisitor (draft.inserted env db.nextId now code) := by
  simp only [insertVisitor, bind_eq_ok, pure_eq_ok] at inserts
  obtain ⟨_, _, rfl⟩ := inserts
  rfl

theorem updateVisitor_withVisitor {row : Visitor} {change : Visitor → Visitor}
    (ids : Allocated (db.visitors.map Visitor.id) db.nextId) (id : row.id = db.nextId) :
    (db.withVisitor row).updateVisitor db.nextId change = db.withVisitor (change row) := by
  have old : updateBy Visitor.id db.nextId change db.visitors = db.visitors := by
    refine updateWhere_none fun other mem => ?_
    have ne : other.id ≠ db.nextId := fun same => ids.fresh (same ▸ List.mem_map_of_mem mem)
    simpa using ne
  unfold VisitorDb.updateVisitor VisitorDb.withVisitor
  simp only [updateBy, updateWhere, List.map_append, List.map_singleton, id, decide_true, if_true] at old ⊢
  rw [old]

theorem insertPass_ok (ids : Allocated (db.visitors.map Visitor.id) db.nextId)
    (inserts : insertPass env now db draft accessCode = .ok after) :
    ∃ row, RowOf draft db.nextId now row ∧ after = db.withVisitor row := by
  simp only [insertPass, bind_eq_ok] at inserts
  obtain ⟨_, _, inserted, insert, rest⟩ := inserts
  obtain rfl := insertVisitor_ok insert
  split at rest
  · simp only [Ending.commit, bind_eq_ok, pure_eq_ok] at rest
    obtain ⟨_, _, _, _, rfl⟩ := rest
    refine ⟨(draft.inserted env db.nextId now (codeFor draft accessCode)).withPass env accessCode, ?_, ?_⟩
    · exact ⟨rfl, rfl, rfl, rfl, rfl, rfl, rfl⟩
    · exact updateVisitor_withVisitor ids rfl
  · cases rest
    exact ⟨_, rowOf_inserted, rfl⟩

end

end SmartResidence.Visitors
