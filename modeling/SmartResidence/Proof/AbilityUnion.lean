import SmartResidence.Auth.AbilityFactory

/-!
# When the abilities of a user are the union of those of his roles

Two roles take abilities away, and with them what an earlier role has granted.
-/

namespace SmartResidence.Auth

open Foundation Billing List

structure UnionOfRoles (userId : Id) (roles : List RoleAssignment) : Prop where
  order : ∀ other, other.Perm roles → ∀ query, permitted ⟨userId, other⟩ query = permitted ⟨userId, roles⟩ query
  more : ∀ fewer extra, roles.Perm (fewer ++ [extra]) → ∀ query, permitted ⟨userId, fewer⟩ query = true →
    permitted ⟨userId, roles⟩ query = true

def clashes : RoleId → List RoleId
  | .managementAdmin => [.superAdmin, .securityGuard, .unitOwner, .tenant, .householdMember]
  | .managementStaff => [.superAdmin, .managementAdmin, .securityGuard, .unitOwner, .tenant]
  | _ => []

def Compatible (roles : List RoleAssignment) : Prop :=
  ∀ one ∈ roles, ∀ other ∈ roles, other.roleId ∉ clashes one.roleId

/-! ## What the roles take away -/

def denied : RoleId → List (Action × Subject)
  | .managementAdmin => [(.approve, .visitor), (.reject, .visitor), (.checkIn, .visitor), (.checkOut, .visitor),
      (.createWalkIn, .visitor), (.resolve, .thread)]
  | .managementStaff => [(.approve, .visitor), (.reject, .visitor), (.approveOvernight, .visitor),
      (.manageOvernightPolicy, .visitor), (.checkIn, .visitor), (.checkOut, .visitor), (.createWalkIn, .visitor)]
  | _ => []

def AbilityRule.outline (rule : AbilityRule) : Bool × Action × Subject := (rule.inverted, rule.action, rule.subject)

def outlines (role : RoleId) : List (Bool × Action × Subject) := (applyRole role ⟨0, none, none⟩).map AbilityRule.outline

def Covers (outline : Bool × Action × Subject) (pair : Action × Subject) : Prop :=
  (outline.2.1 = pair.1 ∨ outline.2.1 = .manage) ∧ (outline.2.2 = pair.2 ∨ outline.2.2 = .all)

instance (outline : Bool × Action × Subject) (pair : Action × Subject) : Decidable (Covers outline pair) :=
  inferInstanceAs (Decidable (_ ∧ _))

section

variable {role other : RoleId} {scope : Scope} {rule : AbilityRule} {query : AbilityQuery}

theorem outline_mem (mem : rule ∈ applyRole role scope) : rule.outline ∈ outlines role := by
  have same : (applyRole role scope).map AbilityRule.outline = outlines role := by
    cases role <;> rfl
  exact same ▸ mem_map_of_mem mem

theorem covers_of_applies (applies : rule.applies query = true) : Covers rule.outline (query.action, query.subject) := by
  unfold AbilityRule.applies at applies
  simp only [Bool.and_eq_true, Bool.or_eq_true, decide_eq_true_eq] at applies
  exact applies.1

theorem denied_of_outline (role : RoleId) : ∀ outline ∈ outlines role, outline.1 = true →
    outline.2.1 ≠ .manage ∧ outline.2.2 ≠ .all ∧ outline.2 ∈ denied role := by
  cases role <;> decide +kernel

theorem denied_of_verdict (forbidden : verdict AbilityRule.applies AbilityRule.permits (applyRole role scope) query = some false) :
    (query.action, query.subject) ∈ denied role := by
  obtain ⟨rule, mem, applies, inverted⟩ := rule_of_verdict _ _ forbidden
  have inverted : rule.inverted = true := by simpa [AbilityRule.permits] using inverted
  obtain ⟨plain, single, listed⟩ := denied_of_outline role _ (outline_mem mem) inverted
  obtain ⟨action, subject⟩ := covers_of_applies applies
  have same : rule.outline.2 = (query.action, query.subject) := Prod.ext (action.resolve_right plain) (subject.resolve_right single)
  exact same ▸ listed

theorem verdict_of_denied (scope : Scope) (resource : Option Resource) : ∀ pair ∈ denied role,
    verdict AbilityRule.applies AbilityRule.permits (applyRole role scope) ⟨pair.1, pair.2, resource⟩ = some false := by
  intro pair mem
  cases role with
  | managementAdmin =>
    simp only [denied, mem_cons, not_mem_nil, or_false] at mem
    rcases mem with rfl | rfl | rfl | rfl | rfl | rfl <;> rfl
  | managementStaff =>
    simp only [denied, mem_cons, not_mem_nil, or_false] at mem
    rcases mem with rfl | rfl | rfl | rfl | rfl | rfl | rfl <;> rfl
  | _ => nomatch mem

theorem clash_of_outline (role other : RoleId) : ∀ pair ∈ denied other, ∀ outline ∈ outlines role, outline.1 = false →
    Covers outline pair → role ∈ clashes other ∨ pair ∈ denied role := by
  cases other <;> cases role <;> decide +kernel

theorem clash_of_verdicts {scope' : Scope}
    (granted : verdict AbilityRule.applies AbilityRule.permits (applyRole role scope) query = some true)
    (forbidden : verdict AbilityRule.applies AbilityRule.permits (applyRole other scope') query = some false) :
    role ∈ clashes other := by
  have listed := denied_of_verdict forbidden
  obtain ⟨rule, mem, applies, permits⟩ := rule_of_verdict _ _ granted
  have straight : rule.inverted = false := by simpa [AbilityRule.permits] using permits
  rcases clash_of_outline role other _ listed _ (outline_mem mem) straight (covers_of_applies applies) with clash | also
  · exact clash
  · have no : verdict AbilityRule.applies AbilityRule.permits (applyRole role scope) query = some false :=
      verdict_of_denied scope query.resource _ also
    rw [granted] at no
    cases no

def contested : RoleId → Action × Subject
  | .securityGuard => (.checkIn, .visitor)
  | .householdMember => (.resolve, .thread)
  | .managementAdmin => (.approveOvernight, .visitor)
  | _ => (.approve, .visitor)

theorem contested_clash (scope : Scope) (clash : role ∈ clashes other) :
    verdict AbilityRule.applies AbilityRule.permits (applyRole role scope) ⟨(contested role).1, (contested role).2, none⟩ = some true ∧
      contested role ∈ denied other := by
  constructor
  · cases role with
    | managementStaff => cases other <;> nomatch clash
    | contractor => cases other <;> nomatch clash
    | _ => rfl
  · revert clash
    cases other <;> cases role <;> decide

end

/-! ## The union -/

section

variable {userId : Id} {roles : List RoleAssignment} {query : AbilityQuery}

def blocksOf (userId : Id) (roles : List RoleAssignment) : List (List AbilityRule) :=
  roles.map fun r => applyRole r.roleId (scopeOf userId r)

theorem permitted_iff : permitted ⟨userId, roles⟩ query = true ↔
    verdict AbilityRule.applies AbilityRule.permits (blocksOf userId roles).flatten query = some true :=
  decide_eq_true_iff

theorem agree_of_compatible (compatible : Compatible roles) :
    Agree AbilityRule.applies AbilityRule.permits (blocksOf userId roles) := by
  intro one mem other also query granted forbidden
  obtain ⟨first, listed, rfl⟩ := mem_map.mp mem
  obtain ⟨second, listed', rfl⟩ := mem_map.mp also
  exact compatible second listed' first listed (clash_of_verdicts granted forbidden)

theorem union_of_compatible (compatible : Compatible roles) : UnionOfRoles userId roles := by
  have agree : Agree AbilityRule.applies AbilityRule.permits (blocksOf userId roles) := agree_of_compatible compatible
  constructor
  · intro other same query
    have agree' : Agree AbilityRule.applies AbilityRule.permits (blocksOf userId other) := agree.subset (same.map _).subset
    rw [Bool.eq_iff_iff, permitted_iff, permitted_iff, agree.permitted_iff, agree'.permitted_iff]
    refine exists_congr fun block => and_congr_left fun _ => ?_
    exact (same.map _).mem_iff
  · intro fewer extra parts query granted
    have sub : blocksOf userId fewer ⊆ blocksOf userId roles :=
      map_subset _ fun r mem => parts.symm.subset (mem_append_left _ mem)
    rw [permitted_iff, (agree.subset sub).permitted_iff] at granted
    obtain ⟨block, mem, own⟩ := granted
    rw [permitted_iff, agree.permitted_iff]
    exact ⟨block, sub mem, own⟩

theorem verdict_last (union : UnionOfRoles userId roles) {r : RoleAssignment} (mem : r ∈ roles) {outcome : Bool}
    (decided : verdict AbilityRule.applies AbilityRule.permits (applyRole r.roleId (scopeOf userId r)) query = some outcome) :
    permitted ⟨userId, roles⟩ query = outcome := by
  have same : (roles.erase r ++ [r]).Perm roles := (perm_append_singleton _ _).trans (perm_cons_erase mem).symm
  rw [← union.order _ same query]
  have last : verdict AbilityRule.applies AbilityRule.permits (blocksOf userId (roles.erase r ++ [r])).flatten query = some outcome := by
    unfold blocksOf
    rw [map_append]
    exact verdict_concat decided
  cases outcome with
  | true => exact permitted_iff.mpr last
  | false =>
    rw [← Bool.not_eq_true, permitted_iff, last]
    exact fun no => nomatch no

theorem compatible_of_union (union : UnionOfRoles userId roles) : Compatible roles := by
  intro one mem other also clash
  have listed := (contested_clash (scopeOf userId other) clash).2
  have yes := verdict_last union also (contested_clash (scopeOf userId other) clash).1
  have no := verdict_last union mem (verdict_of_denied (scopeOf userId one) none _ listed)
  rw [yes] at no
  cases no

/-- The abilities are the union of the roles exactly when no role takes away what another one grants. -/
theorem abilities_union (userId : Id) (roles : List RoleAssignment) : UnionOfRoles userId roles ↔ Compatible roles :=
  ⟨compatible_of_union, union_of_compatible⟩

theorem guard_order (compatible : Compatible roles) {other : List RoleAssignment} (same : other.Perm roles)
    (required : List RequiredAbility) :
    canActivate required (some ⟨userId, other⟩) = canActivate required (some ⟨userId, roles⟩) := by
  have union : UnionOfRoles userId roles := union_of_compatible compatible
  have checks : ∀ rules, checkRequired ⟨userId, other⟩ rules = checkRequired ⟨userId, roles⟩ rules := by
    intro rules
    induction rules with
    | nil => rfl
    | cons rule rest ih =>
      unfold checkRequired
      rw [ih, union.order other same]
  cases required with
  | nil => rfl
  | cons rule rest => exact checks (rule :: rest)

end

theorem staff_takes_away : ∃ userId roles, ¬ UnionOfRoles userId roles := by
  refine ⟨1, [⟨.securityGuard, some 1, none⟩, ⟨.managementStaff, some 1, none⟩], fun union => ?_⟩
  have same : permitted ⟨1, [⟨.managementStaff, some 1, none⟩, ⟨.securityGuard, some 1, none⟩]⟩ ⟨.checkIn, .visitor, none⟩ =
      permitted ⟨1, [⟨.securityGuard, some 1, none⟩, ⟨.managementStaff, some 1, none⟩]⟩ ⟨.checkIn, .visitor, none⟩ :=
    union.order _ (List.Perm.swap _ _ _) _
  have first : permitted ⟨1, [⟨.managementStaff, some 1, none⟩, ⟨.securityGuard, some 1, none⟩]⟩ ⟨.checkIn, .visitor, none⟩ = true := by
    decide +kernel
  have second : permitted ⟨1, [⟨.securityGuard, some 1, none⟩, ⟨.managementStaff, some 1, none⟩]⟩ ⟨.checkIn, .visitor, none⟩ = false := by
    decide +kernel
  rw [first, second] at same
  cases same

end SmartResidence.Auth
