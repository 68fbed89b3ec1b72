import SmartResidence.Auth.UserCache

/-!
# What an owner may revoke, and what an owner is shown

The revocation asks only whose unit the assignment is on.
-/

namespace SmartResidence.Auth

open Foundation Billing List

section

variable (grantedAt : Id → Instant) (now : Instant) (actor : AuthenticatedUser) (assignmentId : Id) (db : AuthDb)

def Listed : Prop := ∃ grant ∈ listDelegatedAccess grantedAt actor db, grant.id = assignmentId

structure RevokesListed : Prop where
  listed : (∃ after, revokeDelegatedRole now actor assignmentId db = .ok after) ↔ Listed grantedAt actor assignmentId db
  gone : ∀ after, revokeDelegatedRole now actor assignmentId db = .ok after → ¬ Listed grantedAt actor assignmentId after

def OwnsUnitOf (assignment : AssignedRole) : Prop := ∃ unitId ∈ ownedUnitIds actor, assignment.unitId = some unitId

def Administers (assignment : AssignedRole) : Prop :=
  ∃ r ∈ actor.roles, r.roleId = .superAdmin ∨ (r.roleId = .managementAdmin ∧ r.condoId = assignment.condoId)

def AssignedRole.Delegated (assignment : AssignedRole) : Prop :=
  assignment.revokedAt = none ∧ assignment.roleId ∈ delegatedRoles

def DelegatedIfOwned : Prop :=
  ∀ assignment ∈ db.assignments, assignment.id = assignmentId → OwnsUnitOf actor assignment → assignment.Delegated

end

section

variable {grantedAt : Id → Instant} {now : Instant} {actor : AuthenticatedUser} {assignmentId : Id} {db after : AuthDb}
  {assignment : AssignedRole}

theorem mem_ownedUnitIds {unitId : Id} :
    unitId ∈ ownedUnitIds actor ↔ ∃ r ∈ actor.roles, r.roleId = .unitOwner ∧ r.unitId = some unitId := by
  unfold ownedUnitIds
  simp [and_assoc]

theorem ownsUnitOf_iff : OwnsUnitOf actor assignment ↔
    assignment.unitId.isSome ∧ ∃ r ∈ actor.roles, r.roleId = .unitOwner ∧ r.unitId = assignment.unitId := by
  constructor
  · intro ⟨unitId, owned, on⟩
    rw [on]
    exact ⟨rfl, mem_ownedUnitIds.mp owned⟩
  · intro ⟨on, owned⟩
    obtain ⟨unitId, on⟩ := Option.isSome_iff_exists.mp on
    rw [on] at owned
    exact ⟨unitId, mem_ownedUnitIds.mpr owned, on⟩

theorem listed_iff : Listed grantedAt actor assignmentId db ↔
    ∃ assignment ∈ db.assignments, assignment.id = assignmentId ∧ OwnsUnitOf actor assignment ∧ assignment.Delegated := by
  unfold Listed listDelegatedAccess
  split
  · rename_i none
    simp [OwnsUnitOf, none]
  · constructor
    · intro ⟨grant, mem, own⟩
      obtain ⟨row, shown, rfl⟩ := mem_map.mp mem
      obtain ⟨stored, shown⟩ := mem_filter.mp (mem_mergeSort.mp shown)
      rw [Bool.and_eq_true, Option.any_eq_true, decide_eq_true_eq] at shown
      obtain ⟨⟨unitId, on, owned⟩, delegated⟩ := shown
      exact ⟨row, stored, own, ⟨unitId, of_decide_eq_true owned, on⟩, delegated⟩
    · intro ⟨row, stored, own, ⟨unitId, owned, on⟩, delegated⟩
      refine ⟨_, mem_map_of_mem (mem_mergeSort.mpr (mem_filter.mpr ⟨stored, ?_⟩)), own⟩
      rw [Bool.and_eq_true, Option.any_eq_true, decide_eq_true_eq]
      exact ⟨⟨unitId, on, decide_eq_true owned⟩, delegated⟩

theorem readDelegatedRole_ok : readDelegatedRole actor assignmentId db = .ok assignment ↔
    findBy AssignedRole.id assignmentId db.assignments = some assignment ∧
      (OwnsUnitOf actor assignment ∨ Administers actor assignment) := by
  simp only [readDelegatedRole, bind_eq_ok, orThrow_eq_ok, throwIf_eq_ok, pure_eq_ok, exists_const]
  constructor
  · rintro ⟨row, found, allowed, rfl⟩
    refine ⟨found, ?_⟩
    rw [ownsUnitOf_iff, ← Option.ne_none_iff_isSome]
    simpa [Administers, imp_iff_not_or] using allowed
  · rintro ⟨found, allowed⟩
    refine ⟨assignment, found, ?_, rfl⟩
    rw [ownsUnitOf_iff, ← Option.ne_none_iff_isSome] at allowed
    simpa [Administers, imp_iff_not_or] using allowed

theorem revokeDelegatedRole_succeeds : (∃ after, revokeDelegatedRole now actor assignmentId db = .ok after) ↔
    ∃ assignment, readDelegatedRole actor assignmentId db = .ok assignment := by
  constructor
  · intro ⟨after, revoked⟩
    unfold revokeDelegatedRole at revoked
    rw [bind_eq_ok] at revoked
    obtain ⟨assignment, read, -⟩ := revoked
    exact ⟨assignment, read⟩
  · intro ⟨assignment, read⟩
    obtain ⟨found, -⟩ := readDelegatedRole_ok.mp read
    obtain ⟨-, own⟩ := mem_of_findBy found
    simp only [revokeDelegatedRole, revokeRole, bind_eq_ok, orThrow_eq_ok]
    rw [← own] at found
    exact ⟨_, assignment, read, _, ⟨assignment, found, rfl⟩, rfl⟩

theorem withdrawn_of_revoked (revoked : revokeDelegatedRole now actor assignmentId db = .ok after) :
    Withdrawn assignmentId after := by
  simp only [revokeDelegatedRole, bind_eq_ok, pure_eq_ok] at revoked
  obtain ⟨assignment, read, written, done, rfl⟩ := revoked
  obtain ⟨-, rfl⟩ := mem_of_findBy (readDelegatedRole_ok.mp read).1
  show Withdrawn assignment.id written
  exact withdrawn_revoked done

theorem not_listed_of_revoked (revoked : revokeDelegatedRole now actor assignmentId db = .ok after) :
    ¬ Listed grantedAt actor assignmentId after := by
  rw [listed_iff]
  intro ⟨assignment, stored, own, _, unrevoked, _⟩
  exact (withdrawn_of_revoked revoked).2 assignment stored own unrevoked

/-- The revocation and the list agree for whoever does not administer the condo, if on owned units the id names what was
delegated. -/
theorem owner_revokes_listed (distinct : (db.assignments.map AssignedRole.id).Nodup)
    (owner : ∀ assignment ∈ db.assignments, assignment.id = assignmentId → ¬ Administers actor assignment) :
    RevokesListed grantedAt now actor assignmentId db ↔ DelegatedIfOwned actor assignmentId db := by
  constructor
  · intro law assignment stored own owned
    have found : findBy AssignedRole.id assignmentId db.assignments = some assignment := by
      rw [← own]
      exact findBy_of_mem distinct stored
    have revokes : ∃ after, revokeDelegatedRole now actor assignmentId db = .ok after :=
      revokeDelegatedRole_succeeds.mpr ⟨assignment, readDelegatedRole_ok.mpr ⟨found, .inl owned⟩⟩
    obtain ⟨shown, listed, same, -, delegated⟩ := listed_iff.mp (law.listed.mp revokes)
    obtain rfl := eq_of_key_eq distinct listed stored (same.trans own.symm)
    exact delegated
  · intro delegated
    refine ⟨?_, fun after revoked => not_listed_of_revoked revoked⟩
    rw [revokeDelegatedRole_succeeds, listed_iff]
    constructor
    · intro ⟨assignment, read⟩
      obtain ⟨found, allowed⟩ := readDelegatedRole_ok.mp read
      obtain ⟨stored, own⟩ := mem_of_findBy found
      have owned := allowed.resolve_right (owner assignment stored own)
      exact ⟨assignment, stored, own, owned, delegated assignment stored own owned⟩
    · intro ⟨assignment, stored, own, owned, _⟩
      have found : findBy AssignedRole.id assignmentId db.assignments = some assignment := by
        rw [← own]
        exact findBy_of_mem distinct stored
      exact ⟨assignment, readDelegatedRole_ok.mpr ⟨found, .inl owned⟩⟩

end

namespace Sample

def unitOne (roleId : RoleId) : RoleAssignment := ⟨roleId, some 1, some 1⟩

def coOwned : AuthDb :=
  { signedIn with assignments := [⟨unitOne .unitOwner, 4, 1, none, none⟩, ⟨unitOne .unitOwner, 5, 2, none, none⟩,
      ⟨unitOne .tenant, 6, 3, none, none⟩] }

def coOwner : AuthenticatedUser := ⟨1, [unitOne .unitOwner]⟩

theorem coOwner_administers_none (assignment : AssignedRole) : ¬ Administers coOwner assignment := by
  simp [Administers, coOwner, unitOne]

end Sample

theorem coOwner_revoked : (∀ assignment, ¬ Administers Sample.coOwner assignment) ∧
    ¬ RevokesListed (fun _ => 0) 7 Sample.coOwner 5 Sample.coOwned := by
  refine ⟨Sample.coOwner_administers_none, fun law => ?_⟩
  have read : readDelegatedRole Sample.coOwner 5 Sample.coOwned = .ok ⟨Sample.unitOne .unitOwner, 5, 2, none, none⟩ := by
    rfl
  obtain ⟨grant, member, own⟩ := law.listed.mp (revokeDelegatedRole_succeeds.mpr ⟨_, read⟩)
  have shown : ∀ grant ∈ listDelegatedAccess (fun _ => 0) Sample.coOwner Sample.coOwned, grant.id = 6 := by
    decide +kernel
  cases (shown grant member).symm.trans own

theorem owner_revokes_listed_tenant : RevokesListed (fun _ => 0) 7 Sample.coOwner 6 Sample.coOwned := by
  refine (owner_revokes_listed (by decide) fun assignment _ _ => Sample.coOwner_administers_none assignment).mpr ?_
  intro assignment stored own _
  simp only [Sample.coOwned, List.mem_cons, List.not_mem_nil, or_false] at stored
  rcases stored with rfl | rfl | rfl
  · cases own
  · cases own
  · exact ⟨rfl, by decide⟩

end SmartResidence.Auth
