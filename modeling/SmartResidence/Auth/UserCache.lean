import SmartResidence.Auth.AuthService
import SmartResidence.Cache.CacheService

/-!
# `loadUser` over the cache

The users that requests carry are computed from the tables and cached by namespace.
-/

namespace SmartResidence.Auth

open Foundation Billing Cache

def authUserTtl : Int := 90

def Withdrawn (id : Id) (db : AuthDb) : Prop :=
  (∃ row ∈ db.assignments, row.id = id) ∧ ∀ row ∈ db.assignments, row.id = id → row.revokedAt ≠ none

structure OtherWrite where
  write : AuthDb → AuthDb
  granted : ∀ db, ∃ rows, (write db).assignments = db.assignments ++ rows ∧ ∀ row ∈ rows, ∀ old ∈ db.assignments, old.id ≠ row.id

inductive UserRequest
  | loadUser (userId : Id) (condoIdHint : Option Id)
  | revokeDelegatedRole (assignment : AssignedRole)
  | deleteAccount (userId : Id)
  | elsewhere (other : OtherWrite)

variable (env : AuthEnv) (ids : Id ↪ Uuid)

def hintText (condoIdHint : Option Id) : String := (condoIdHint.map fun condoId => (ids condoId).text).getD "none"

def computeUser (userId : Id) (condoIdHint : Option Id) : Compute AuthDb LoadedUser :=
  fun now db => (loadUserFromDb now userId condoIdHint db).map some

def UserRequest.toCache : UserRequest → CacheRequest AuthDb LoadedUser
  | .loadUser userId condoIdHint =>
      .wrapNamespaced (.authUser (ids userId)) (hintText ids condoIdHint) authUserTtl (computeUser userId condoIdHint)
  | .revokeDelegatedRole assignment => .change (.authUser (ids assignment.userId)) fun now => revokeRole now assignment
  | .deleteAccount userId => .change (.authUser (ids userId)) fun now => buryAccount env now userId
  | .elsewhere other => .write fun _ => other.write

def userCache : Service Instant (CacheDb AuthDb LoadedUser) UserRequest (CacheFlight AuthDb LoadedUser)
    (CacheNote AuthDb LoadedUser) :=
  ⟨fun now request => beginCache now (request.toCache env ids), proceedCache⟩

section

variable {id : Id} {now : Instant} {db after : AuthDb}

theorem Withdrawn.elsewhere (withdrawn : Withdrawn id db) (other : OtherWrite) : Withdrawn id (other.write db) := by
  obtain ⟨⟨row, listed, own⟩, all⟩ := withdrawn
  obtain ⟨rows, written, new⟩ := other.granted db
  unfold Withdrawn
  rw [written]
  refine ⟨⟨row, List.mem_append_left _ listed, own⟩, fun other mem same => ?_⟩
  rcases List.mem_append.mp mem with old | late
  · exact all other old same
  · exact absurd (own.trans same.symm) (new other late row listed)

theorem Withdrawn.updateWhere {pick : AssignedRole → Bool} (withdrawn : Withdrawn id db)
    (rows : after.assignments = Foundation.updateWhere pick (AssignedRole.revoke now) db.assignments) : Withdrawn id after := by
  obtain ⟨⟨row, listed, own⟩, all⟩ := withdrawn
  have same (row : AssignedRole) : (if pick row then row.revoke now else row).id = row.id := by
    split <;> rfl
  unfold Withdrawn
  rw [rows]
  refine ⟨⟨_, List.mem_map_of_mem listed, (same row).trans own⟩, fun other mem named => ?_⟩
  obtain ⟨old, early, rfl⟩ := List.mem_map.mp mem
  have revoked := all old early ((same old).symm.trans named)
  split
  · exact fun none => nomatch none
  · exact revoked

variable {assignment : AssignedRole}

theorem revokeRole_assignments (revoked : revokeRole now assignment db = .ok after) :
    (∃ row ∈ db.assignments, row.id = assignment.id) ∧
      after.assignments = updateBy AssignedRole.id assignment.id (AssignedRole.revoke now) db.assignments := by
  unfold revokeRole at revoked
  simp only [bind_eq_ok, orThrow_eq_ok, pure_eq_ok] at revoked
  obtain ⟨row, found, rfl⟩ := revoked
  obtain ⟨mem, own⟩ := mem_of_findBy found
  exact ⟨⟨row, mem, own⟩, rfl⟩

variable {userId : Id}

theorem buryAccount_assignments (buried : buryAccount env now userId db = .ok after) : after.assignments =
      updateWhere (fun row => decide (row.userId = userId ∧ row.revokedAt = none)) (AssignedRole.revoke now) db.assignments := by
  unfold buryAccount at buried
  simp only [bind_eq_ok, pure_eq_ok] at buried
  obtain ⟨written, -, rfl⟩ := buried
  rfl

theorem Withdrawn.revokeRole (withdrawn : Withdrawn id db) (revoked : Auth.revokeRole now assignment db = .ok after) :
    Withdrawn id after :=
  withdrawn.updateWhere (revokeRole_assignments revoked).2

theorem Withdrawn.buryAccount (withdrawn : Withdrawn id db) (buried : Auth.buryAccount env now userId db = .ok after) :
    Withdrawn id after :=
  withdrawn.updateWhere (buryAccount_assignments env buried)

theorem withdrawn_revoked (revoked : revokeRole now assignment db = .ok after) : Withdrawn assignment.id after := by
  obtain ⟨⟨row, listed, own⟩, rows⟩ := revokeRole_assignments revoked
  unfold Withdrawn
  rw [rows]
  refine ⟨⟨_, mem_updateBy.mpr ⟨row, listed, rfl⟩, ?_⟩, fun other mem same => ?_⟩
  · rw [if_pos own]
    exact own
  · obtain ⟨old, -, rfl⟩ := mem_updateBy.mp mem
    by_cases pick : old.id = assignment.id
    · rw [if_pos pick]
      exact fun none => nomatch none
    · rw [if_neg pick] at same
      exact absurd same pick

end

end SmartResidence.Auth
