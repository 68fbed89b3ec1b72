import SmartResidence.Access.AccessRestriction

/-!
# The soft block shown and the soft block enforced

The status is shown by condo, the gate opens for an operator of any condo.
-/

namespace SmartResidence.Access

open Foundation Billing Settings

def OperatesIn (condoId : Id) (actor : AuthenticatedUser) : Prop :=
  ∃ r ∈ actor.roles, isOps r = true ∧ (r.condoId = some condoId ∨ r.roleId = .superAdmin)

def ResidesIn (db : AccessDb) (unitId : Id) (actor : AuthenticatedUser) : Prop :=
  (∃ r ∈ actor.roles, r.unitId = some unitId) ∨ ⟨actor.id, unitId⟩ ∈ db.ownerships ∨ ⟨actor.id, unitId⟩ ∈ db.tenancies

def SoftBlocked (env : AccessEnv) (db : AccessDb) (unit : AccessUnit) (capability : AccessRestrictionCapability) : Prop :=
  let settings := parseAccessRestrictionSettings env (db.settingsOf unit.condoId)
  settings.enabled = true ∧ capabilityEnabled settings capability = true ∧
    ∃ row, db.restriction? unit.id = some row ∧ row.active = true

section

variable {env : AccessEnv} {db : AccessDb} {actor : AuthenticatedUser} {unit : AccessUnit}
  {capability : AccessRestrictionCapability}

theorem assertResidentOrManagement_resident (resident : ResidesIn db unit.id actor) (condoId : Id) :
    assertResidentOrManagement db actor unit.id condoId = .ok () := by
  unfold assertResidentOrManagement
  split
  · rfl
  · split
    · rfl
    · rename_i roleless
      rw [throwIf_eq_ok]
      intro ⟨owner, tenant⟩
      rcases resident with ⟨r, mem, own⟩ | owned | rented
      · exact roleless (List.any_eq_true.mpr ⟨r, mem, by simpa using own⟩)
      · exact owner owned
      · exact tenant rented

theorem not_enabled_null : (parseAccessRestrictionSettings env .null).enabled = false := rfl

theorem status_shown (found : db.unit? unit.id = some unit) (resident : ResidesIn db unit.id actor) :
    getResidentUnitStatus env db actor unit.id = .ok (residentStatus env db unit) := by
  simp only [getResidentUnitStatus, bind_eq_ok, orThrow_eq_ok]
  exact ⟨unit, found, (), assertResidentOrManagement_resident resident _, rfl⟩

theorem blocked_iff : (residentStatus env db unit).blocked.of capability = true ↔
    SoftBlocked env db unit capability := by
  have shown : (residentStatus env db unit).blocked.of capability =
      (((parseAccessRestrictionSettings env (db.settingsOf unit.condoId)).enabled &&
        (db.restriction? unit.id).any UnitAccessRestriction.active) &&
          capabilityEnabled (parseAccessRestrictionSettings env (db.settingsOf unit.condoId)) capability) := by
    cases capability <;> rfl
  rw [shown]
  simp only [Bool.and_eq_true, Option.any_eq_true, and_assoc]
  constructor
  · intro ⟨enabled, restricted, soft⟩
    exact ⟨enabled, soft, restricted⟩
  · intro ⟨enabled, soft, restricted⟩
    exact ⟨enabled, restricted, soft⟩

theorem gate_throws (found : db.unit? unit.id = some unit) :
    (∃ failure, assertUnitNotAccessRestricted env db actor unit.id capability = .error failure) ↔
      isOpsBypass actor = false ∧ SoftBlocked env db unit capability := by
  unfold assertUnitNotAccessRestricted
  cases bypass : isOpsBypass actor with
  | true => simp
  | false =>
    simp only [found]
    cases owner : db.condo? unit.condoId with
    | none =>
      have settings : db.settingsOf unit.condoId = .null := by simp [AccessDb.settingsOf, owner]
      simp [SoftBlocked, settings, not_enabled_null]
    | some condo =>
      have settings : db.settingsOf unit.condoId = condo.settings := by simp [AccessDb.settingsOf, owner]
      unfold SoftBlocked
      rw [settings]
      by_cases enabled : (parseAccessRestrictionSettings env condo.settings).enabled = true
      · by_cases soft : capabilityEnabled (parseAccessRestrictionSettings env condo.settings) capability = true
        · simp [enabled, soft, throwIf_eq_error, Option.any_eq_true]
        · simp [soft]
      · simp [enabled]

end

def EnforcedAsShown (env : AccessEnv) (db : AccessDb) (actor : AuthenticatedUser) (unit : AccessUnit)
    (capability : AccessRestrictionCapability) : Prop :=
  ¬ OperatesIn unit.condoId actor →
    ∃ status, getResidentUnitStatus env db actor unit.id = .ok status ∧
      ((∃ failure, assertUnitNotAccessRestricted env db actor unit.id capability = .error failure) ↔
        status.blocked.of capability = true)

/-- The exception are the operators of other condos, on units that are blocked. -/
theorem soft_block_enforced (env : AccessEnv) {db : AccessDb} {actor : AuthenticatedUser} {unit : AccessUnit}
    (capability : AccessRestrictionCapability) (found : db.unit? unit.id = some unit)
    (resident : ResidesIn db unit.id actor) :
    EnforcedAsShown env db actor unit capability ↔
      OperatesIn unit.condoId actor ∨ (∀ r ∈ actor.roles, isOps r = false) ∨
        ¬ SoftBlocked env db unit capability := by
  have bypass : isOpsBypass actor = false ↔ ∀ r ∈ actor.roles, isOps r = false := by
    simp [isOpsBypass, List.any_eq_false]
  unfold EnforcedAsShown
  rw [status_shown found resident, gate_throws found, ← bypass]
  constructor
  · intro agree
    by_contra exception
    obtain ⟨outside, operator, blocked⟩ := by simpa only [not_or, not_not] using exception
    obtain ⟨status, same, throws⟩ := agree outside
    cases same
    exact operator (throws.mpr (blocked_iff.mpr blocked)).1
  · intro condition outside
    refine ⟨_, rfl, ?_⟩
    rw [blocked_iff]
    constructor
    · exact And.right
    · intro blocked
      rcases condition with operates | plain | free
      · exact absurd operates outside
      · exact ⟨plain, blocked⟩
      · exact absurd blocked free

namespace Sample

def env : AccessEnv := ⟨fun _ => none⟩

def enforcing : Json := .object [("accessRestriction", .object [("enabled", .bool true)])]

def unit : AccessUnit := ⟨1, 1⟩

def restriction : UnitAccessRestriction :=
  ⟨1, 1, true, .auto, false, defaultZones, some "Auto: 20 days past due", 10000, some 0, some 0, none, none⟩

def restricted : AccessDb := ⟨[⟨1, none, enforcing⟩], [unit], [], [], [], [restriction], by decide⟩

def owner : AuthenticatedUser := ⟨1, [⟨.unitOwner, some 1, some 1⟩]⟩

def guardElsewhere : AuthenticatedUser := ⟨1, [⟨.unitOwner, some 1, some 1⟩, ⟨.securityGuard, some 2, none⟩]⟩

theorem restricted_blocked : SoftBlocked env restricted unit .visitors := ⟨rfl, rfl, restriction, rfl, rfl⟩

end Sample

theorem soft_block_lifted : ¬ EnforcedAsShown Sample.env Sample.restricted Sample.guardElsewhere Sample.unit .visitors := by
  intro enforced
  have outside : ¬ OperatesIn Sample.unit.condoId Sample.guardElsewhere := by
    unfold OperatesIn
    decide
  obtain ⟨status, shown, throws⟩ := enforced outside
  rw [status_shown rfl (.inl ⟨_, List.mem_cons_self, rfl⟩)] at shown
  cases shown
  obtain ⟨failure, thrown⟩ := throws.mpr (blocked_iff.mpr Sample.restricted_blocked)
  cases thrown

theorem soft_block_enforced_owner : EnforcedAsShown Sample.env Sample.restricted Sample.owner Sample.unit .visitors :=
  (soft_block_enforced Sample.env .visitors rfl (.inl ⟨_, List.mem_cons_self, rfl⟩)).mpr (.inr (.inl (by decide)))

end SmartResidence.Access
