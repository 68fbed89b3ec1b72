import SmartResidence.Proof.LazyExpiry
import SmartResidence.Proof.PassTexts

/-!
# The blacklist at the gate

Only the check-in of a recurring pass asks the list. The other paths to CHECKED_IN let a listed visitor in.
-/

namespace SmartResidence.Visitors

open Foundation Billing

inductive Admission
  | checkIn (pass : String) (guard : GateUser)
  | createWalkInUnit (guard : GateUser) (dto : CreateWalkInUnitDto)
  | createWalkInOffice (guard : GateUser) (dto : CreateWalkInOfficeDto)
  | approveWalkInByGuard (visitorId : Id) (guard : GateUser)
  | acknowledgeWalkIn (visitorId : Id) (guard : GateUser)
  | recurringCheckIn (pass : String) (guard : GateUser)

def committing (change : VisitorDb → Result VisitorDb) : VisitorCall Unit := fun db =>
  match change db with
  | .ok after => (.ok (), after)
  | .error failure => (.error failure, db)

def Admission.run (env : VisitorEnv) (now : Instant) : Admission → VisitorCall Unit
  | checkIn pass guard => Visitors.checkIn env now pass guard
  | createWalkInUnit guard dto => committing fun db => Visitors.createWalkInUnit env now db guard dto
  | createWalkInOffice guard dto => committing fun db => Visitors.createWalkInOffice env now db guard dto
  | approveWalkInByGuard visitorId guard => Visitors.approveWalkInByGuard env now visitorId guard
  | acknowledgeWalkIn visitorId guard => Visitors.acknowledgeWalkIn env now visitorId guard
  | recurringCheckIn pass guard => committing fun db => Visitors.recurringCheckIn env now db pass guard

structure Person where
  condoId : Id
  known : BlacklistInput

def Visitor.person (visitor : Visitor) : Person where
  condoId := visitor.condoId
  known := ⟨some visitor.name, visitor.phone, visitor.vehiclePlate, visitor.identification⟩

def RecurringPass.person (row : RecurringPass) : Person := ⟨row.condoId, row.blacklistInput⟩

def Admission.Concerns (env : VisitorEnv) (db : VisitorDb) (person : Person) : Admission → Prop
  | checkIn pass guard => ∃ visitor,
      lookupVisitor env db guard.activeCondoId (normalizePassInput pass) = .ok (some visitor) ∧ visitor.person = person
  | createWalkInUnit guard dto =>
      guard.activeCondoId = some person.condoId ∧ person.known = ⟨some dto.name, some dto.phone, dto.vehiclePlate, none⟩
  | createWalkInOffice guard dto =>
      guard.activeCondoId = some person.condoId ∧ person.known = ⟨some dto.name, some dto.phone, dto.vehiclePlate, none⟩
  | approveWalkInByGuard visitorId _ | acknowledgeWalkIn visitorId _ =>
      ∃ visitor, db.visitor? visitorId = some visitor ∧ visitor.person = person
  | recurringCheckIn pass guard => ∃ row, resolvePass env db pass guard.activeCondoId = .ok row ∧ row.person = person

def Admission.AtOnce (env : VisitorEnv) (db : VisitorDb) : Admission → Prop
  | createWalkInUnit guard dto => dto.admitNow = true ∨
      ∀ condoId ∈ guard.activeCondoId, (settingsOf env db condoId).walkInRequireOwnerApproval = false
  | _ => True

structure SameIdentifier (env : VisitorEnv) (known : BlacklistInput) (entry : VisitorBlacklist) : Prop where
  some_same : (∃ phone ∈ known.phone, normalizeMalaysiaPhone phone ≠ "" ∧ entry.phone = some (normalizeMalaysiaPhone phone)) ∨
    (∃ plate ∈ normalizePlate env known.vehiclePlate, entry.vehiclePlate = some plate) ∨
    (∃ idNumber ∈ trimmedOrNull known.idNumber, entry.idNumber = some idNumber) ∨
    ∃ name ∈ trimmedOrNull known.name, ∃ listed ∈ entry.name, env.insensitiveEquals listed name = true

def Listed (env : VisitorEnv) (now : Instant) (db : VisitorDb) (person : Person) : Prop :=
  ∃ entry ∈ db.blacklist, entry.condoId = person.condoId ∧ entry.active = true ∧
    (∀ stop ∈ entry.expiresAt, now < stop) ∧ SameIdentifier env person.known entry

structure Shut (db after : VisitorDb) : Prop where
  checkIns : after.checkIns = db.checkIns
  visitors : ∀ visitor ∈ after.visitors, visitor.status = .checkedIn → visitor ∈ db.visitors

def Refused (call : VisitorCall Unit) (db : VisitorDb) : Prop :=
  ∃ failure after, call db = (.error failure, after) ∧ Shut db after

def Admission.Enforced (env : VisitorEnv) (now : Instant) (db : VisitorDb) (request : Admission) : Prop :=
  request.AtOnce env db → ∀ person, request.Concerns env db person → Listed env now db person →
    Refused (request.run env now) db

def acceptedPhone (phone : String) : Prop :=
  trimText phone ≠ "" ∧ isValidMalaysiaPhone (normalizeMalaysiaPhone phone) = true

def Admission.opensUnasked (env : VisitorEnv) (now : Instant) (db : VisitorDb) (request : Admission) : Prop :=
  request.AtOnce env db ∧
  match request with
  | checkIn pass guard => isGateOperator guard.toAuthenticatedUser = true ∧ ∃ visitor,
      lookupVisitor env db guard.activeCondoId (normalizePassInput pass) = .ok (some visitor) ∧
        guard.activeCondoId = some visitor.condoId ∧ visitor.admissible now
  | createWalkInUnit guard dto => isGateOperator guard.toAuthenticatedUser = true ∧ dto.overnight = false ∧
      (∃ unit ∈ db.units, unit.id = dto.unitId ∧ guard.activeCondoId = some unit.condoId) ∧ acceptedPhone dto.phone
  | createWalkInOffice guard dto => isGateOperator guard.toAuthenticatedUser = true ∧ dto.overnight = false ∧
      guard.activeCondoId.isSome = true ∧ trimText dto.purpose ≠ "" ∧ acceptedPhone dto.phone
  | approveWalkInByGuard visitorId guard => isGateOperator guard.toAuthenticatedUser = true ∧
      ∃ visitor, db.visitor? visitorId = some visitor ∧ guard.activeCondoId = some visitor.condoId ∧
        visitor.visitType = .walkinUnit ∧ visitor.status = .pendingOwnerApproval
  | acknowledgeWalkIn visitorId guard => isGateOperator guard.toAuthenticatedUser = true ∧
      ∃ visitor, db.visitor? visitorId = some visitor ∧ guard.activeCondoId = some visitor.condoId ∧
        visitor.visitType = .walkinUnit ∧ visitor.status = .approved ∧ passed visitor.expiresAt now = false
  | recurringCheckIn _ _ => False

section

variable {env : VisitorEnv} {now : Instant} {db : VisitorDb} {condoId : Id} {known : BlacklistInput}
  {entry : VisitorBlacklist}

/-- The database compares names without their case, so it does not matter that the visitor's is lowered first. -/
structure IgnoresCase (env : VisitorEnv) : Prop where
  lowered : ∀ listed name, env.insensitiveEquals listed (env.toLowerCase name) = env.insensitiveEquals listed name

theorem names_iff (ignores : IgnoresCase env) : known.names env entry = true ↔ SameIdentifier env known entry := by
  have phones : ((known.phone.bind orNull).bind fun phone => orNull (normalizeMalaysiaPhone phone)).any
        (fun phone => decide (entry.phone = some phone)) = true ↔
      ∃ phone ∈ known.phone, normalizeMalaysiaPhone phone ≠ "" ∧ entry.phone = some (normalizeMalaysiaPhone phone) := by
    have blank : normalizeMalaysiaPhone "" = "" := by decide +kernel
    cases known.phone with
    | none => simp
    | some phone =>
      by_cases empty : phone = ""
      · simp [empty, orNull, blank]
      · by_cases unnumbered : normalizeMalaysiaPhone phone = ""
        · simp [orNull, empty, unnumbered]
        · simp [orNull, empty, unnumbered]
  have namesSame : (normalizeName env known.name).any
        (fun name => entry.name.any fun mem => env.insensitiveEquals mem name) = true ↔
      ∃ name ∈ trimmedOrNull known.name, ∃ mem ∈ entry.name, env.insensitiveEquals mem name = true := by
    unfold normalizeName trimmedOrNull
    cases known.name with
    | none => simp
    | some name => simp [Option.any_eq_true, ignores.lowered]
  unfold BlacklistInput.names
  simp only [Bool.or_eq_true, phones, namesSame, Option.any_eq_true, decide_eq_true_eq]
  constructor
  · rintro (((phone | plate) | name) | idNumber)
    · exact ⟨.inl phone⟩
    · exact ⟨.inr (.inl plate)⟩
    · exact ⟨.inr (.inr (.inr name))⟩
    · exact ⟨.inr (.inr (.inl idNumber))⟩
  · rintro ⟨phone | plate | idNumber | name⟩
    · exact .inl (.inl (.inl phone))
    · exact .inl (.inl (.inr plate))
    · exact .inr idNumber
    · exact .inl (.inr name)

theorem assertNotBlacklisted_eq_ok (ignores : IgnoresCase env) {result : Unit} :
    assertNotBlacklisted env now db condoId known = .ok result ↔ ¬ Listed env now db ⟨condoId, known⟩ := by
  have none_iff : findMatch env now db condoId known = none ↔ ¬ Listed env now db ⟨condoId, known⟩ := by
    unfold findMatch Listed
    rw [latestBy_eq_none, List.filter_eq_nil_iff]
    simp only [Bool.and_eq_true, decide_eq_true_eq, names_iff ignores, VisitorBlacklist.inForce, Option.all_eq_true,
      not_exists, not_and]
    exact ⟨fun none entry mem condo active current same => none entry mem ⟨condo, active, current⟩ same,
      fun none entry mem kept same => none entry mem kept.1 kept.2.1 kept.2.2 same⟩
  rw [← none_iff]
  unfold assertNotBlacklisted
  cases findMatch env now db condoId known <;> simp

end

/-! ## What a refused request writes -/

section

variable {env : VisitorEnv} {now : Instant} {db middle after : VisitorDb} {call : VisitorCall Unit} {visitorId : Id}
  {guard : GateUser}

theorem Shut.rfl : Shut db db := ⟨Eq.refl _, fun _ mem _ => mem⟩

theorem Shut.trans (first : Shut db middle) (second : Shut middle after) : Shut db after where
  checkIns := second.checkIns.trans first.checkIns
  visitors visitor mem inside := first.visitors visitor (second.visitors visitor mem inside) inside

theorem shut_expire {pick : Visitor → Bool} :
    Shut db { db with visitors := updateWhere pick Visitor.expire db.visitors } := by
  refine ⟨Eq.refl _, fun visitor mem inside => ?_⟩
  obtain ⟨old, here, rfl⟩ := mem_updateWhere.mp mem
  split at inside
  · cases inside
  · rename_i kept
    rwa [if_neg kept]

def Closed {Value : Type} (call : VisitorCall Value) : Prop := ∀ db, Shut db (call db).2

variable {Value : Type}

theorem closed_ofResult {result : Result Value} : Closed (Call.ofResult result : VisitorCall Value) :=
  fun _ => .rfl

theorem closed_readVisitor {message : String} : Closed (readVisitor visitorId message) := fun _ => .rfl

theorem closed_verifyByPass {pass : String} {condoId : Option Id} : Closed (verifyByPass env now pass condoId) := by
  intro db
  rw [verify_writes]
  exact shut_expire.trans shut_expire

def Orderly (call : VisitorCall Unit) : Prop := ∀ db failure after, call db = (.error failure, after) → Shut db after

theorem orderly_bind {first : VisitorCall Value} {rest : Value → VisitorCall Unit} (closed : Closed first)
    (others : ∀ value, Orderly (rest value)) : Orderly (first >>= rest) := by
  intro db failure after fails
  have shut := closed db
  rcases Call.bind_eq_error fails with early | ⟨value, middle, done, late⟩
  · rwa [early] at shut
  · rw [done] at shut
    exact shut.trans (others value middle failure after late)

theorem orderly_run {ending : Ending} : Orderly (ending.run env visitorId) := by
  intro db failure after fails
  unfold Ending.run at fails
  cases commits : ending.commit env db visitorId with
  | error refusal =>
    rw [commits] at fails
    cases fails
    exact .rfl
  | ok written =>
    rw [commits] at fails
    obtain ⟨answer, rfl⟩ := Prod.mk.inj fails
    cases ending with
    | update decision => cases answer
    | letIn guardId now approves => cases answer
    | expire message =>
      simp only [Ending.commit, bind_eq_ok, pure_eq_ok] at commits
      obtain ⟨_, _, rfl⟩ := commits
      exact shut_expire

theorem orderly_committing {change : VisitorDb → Result VisitorDb} : Orderly (committing change) := by
  intro db failure after fails
  unfold committing at fails
  split at fails
  · cases (Prod.mk.inj fails).1
  · cases fails
    exact .rfl

theorem Admission.orderly {request : Admission} : Orderly (request.run env now) := by
  cases request with
  | checkIn pass guard =>
    refine orderly_bind closed_ofResult fun _ => orderly_bind closed_ofResult fun _ => ?_
    exact orderly_bind closed_verifyByPass fun _ => orderly_bind closed_ofResult fun _ => orderly_run
  | approveWalkInByGuard visitorId guard =>
    refine orderly_bind closed_ofResult fun _ => orderly_bind closed_ofResult fun _ => ?_
    exact orderly_bind closed_readVisitor fun _ => orderly_bind closed_ofResult fun _ => orderly_run
  | acknowledgeWalkIn visitorId guard =>
    refine orderly_bind closed_ofResult fun _ => orderly_bind closed_ofResult fun _ => ?_
    exact orderly_bind closed_readVisitor fun _ => orderly_bind closed_ofResult fun _ => orderly_run
  | createWalkInUnit guard dto => exact orderly_committing
  | createWalkInOffice guard dto => exact orderly_committing
  | recurringCheckIn pass guard => exact orderly_committing

theorem refused_iff (orderly : Orderly call) : Refused call db ↔ ¬ Succeeds call db := by
  constructor
  · rintro ⟨failure, after, refused, -⟩ ⟨last, done⟩
    cases refused.symm.trans done
  · intro fails
    rcases result : call db with ⟨failure | value, after⟩
    · exact ⟨failure, after, result, orderly db failure after result⟩
    · exact absurd ⟨after, result⟩ fails

end

/-! ## When a request succeeds -/

section

variable {env : VisitorEnv} {now : Instant} {db : VisitorDb} {guard : GateUser} {request : Admission}

theorem committing_succeeds {change : VisitorDb → Result VisitorDb} :
    Succeeds (committing change) db ↔ ∃ after, change db = .ok after := by
  unfold Succeeds committing
  cases change db <;> simp

theorem requiredPhone_isOk {phone : String} : (∃ normalized, requiredPhone phone = .ok normalized) ↔ acceptedPhone phone := by
  simp only [requiredPhone, bind_eq_ok, throwIf_eq_ok, pure_eq_ok, not_not, exists_const, exists_and_left,
    exists_eq', and_true]
  exact Iff.rfl

theorem walkIn_succeeds (drafted : VisitorDb → Result WalkIn) :
    Succeeds (committing fun db => drafted db >>= fun walkIn => walkIn.insert env now db guard.id) db ↔
      ∃ walkIn, drafted db = .ok walkIn := by
  simp only [committing_succeeds, bind_eq_ok]
  constructor
  · rintro ⟨after, walkIn, checked, -⟩
    exact ⟨walkIn, checked⟩
  · rintro ⟨walkIn, checked⟩
    cases walkIn with
    | waits draft => exact ⟨_, _, checked, rfl⟩
    | enters draft => exact ⟨_, _, checked, rfl⟩

theorem office_succeeds {dto : CreateWalkInOfficeDto} :
    Succeeds ((Admission.createWalkInOffice guard dto).run env now) db ↔
      isGateOperator guard.toAuthenticatedUser = true ∧ dto.overnight = false ∧ guard.activeCondoId.isSome = true ∧
        trimText dto.purpose ≠ "" ∧ acceptedPhone dto.phone := by
  refine (walkIn_succeeds fun _ => walkInOffice now guard dto).trans ?_
  simp only [walkInOffice, assertGateOperator_eq_ok, rejectWalkInOvernight, guardCondoId, bind_eq_ok, throwIf_eq_ok,
    orThrow_eq_ok, Bool.not_eq_true, exists_const]
  rw [← requiredPhone_isOk, Option.isSome_iff_exists]
  constructor
  · rintro ⟨walkIn, operator, day, condoId, active, purpose, phone, accepted, -⟩
    exact ⟨operator, day, ⟨condoId, active⟩, purpose, phone, accepted⟩
  · rintro ⟨operator, day, ⟨condoId, active⟩, purpose, phone, accepted⟩
    exact ⟨_, operator, day, condoId, active, purpose, phone, accepted, rfl⟩

theorem unit_succeeds {dto : CreateWalkInUnitDto} : Succeeds ((Admission.createWalkInUnit guard dto).run env now) db ↔
      isGateOperator guard.toAuthenticatedUser = true ∧ dto.overnight = false ∧
        (∃ unit ∈ db.units, unit.id = dto.unitId ∧ guard.activeCondoId = some unit.condoId) ∧
        acceptedPhone dto.phone := by
  refine (walkIn_succeeds fun db => walkInUnit env now db guard dto).trans ?_
  simp only [walkInUnit, assertGateOperator_eq_ok, rejectWalkInOvernight, guardCondoId, bind_eq_ok, throwIf_eq_ok,
    orThrow_eq_ok, Bool.not_eq_true, exists_const]
  rw [← requiredPhone_isOk]
  constructor
  · rintro ⟨walkIn, operator, day, condoId, active, unit, found, phone, accepted, -⟩
    have here := List.find?_some found
    obtain ⟨own, condo⟩ := of_decide_eq_true here
    exact ⟨operator, day, ⟨unit, List.mem_of_find?_eq_some found, own, condo ▸ active⟩, phone, accepted⟩
  · rintro ⟨operator, day, ⟨unit, mem, own, active⟩, phone, accepted⟩
    have some_unit : (db.units.find? fun other => decide (other.id = dto.unitId ∧ other.condoId = unit.condoId)).isSome :=
      List.find?_isSome.mpr ⟨unit, mem, decide_eq_true ⟨own, rfl⟩⟩
    obtain ⟨found, here⟩ := Option.isSome_iff_exists.mp some_unit
    refine Exists.imp (fun walkIn last => ⟨operator, day, unit.condoId, active, found, here, phone, accepted, last⟩) ?_
    split
    · exact ⟨_, rfl⟩
    · split <;> exact ⟨_, rfl⟩

theorem swept_admissible {scope : Option Id} {visitor : Visitor} :
    (swept scope now visitor).admissible now ↔ visitor.admissible now := by
  have early : ∀ {row : Visitor}, row.admissible now ↔
      (row.status = .approved ∧ passed row.expiresAt now = false) ∧ ¬ row.early now := and_assoc.symm
  constructor
  · intro opens
    obtain ⟨approved, current⟩ := swept_approved.mp (early.mp opens).1
    have kept : swept scope now visitor = visitor := by
      simp [swept, Visitor.lapsed, Visitor.approvalLapsed, Visitor.passLapsed, approved, current]
    exact kept ▸ opens
  · rintro ⟨approved, current, ready⟩
    have kept : swept scope now visitor = visitor := by
      simp [swept, Visitor.lapsed, Visitor.approvalLapsed, Visitor.passLapsed, approved, current]
    rw [kept]
    exact ⟨approved, current, ready⟩

variable {pass : String}

theorem checkIn_opens : Succeeds (checkIn env now pass guard) db ↔
    isGateOperator guard.toAuthenticatedUser = true ∧ ∃ visitor,
      lookupVisitor env db guard.activeCondoId (normalizePassInput pass) = .ok (some visitor) ∧
        guard.activeCondoId = some visitor.condoId ∧ visitor.admissible now := by
  simp only [checkIn_succeeds, swept_admissible]
  constructor
  · rintro ⟨operator, condoId, active, visitor, found, rfl, opens⟩
    exact ⟨operator, visitor, active ▸ found, active, opens⟩
  · rintro ⟨operator, visitor, found, active, opens⟩
    exact ⟨operator, visitor.condoId, active, visitor, active ▸ found, rfl, opens⟩

variable {person : Person}

theorem recurring_asks (ignores : IgnoresCase env)
    (succeeds : Succeeds ((Admission.recurringCheckIn pass guard).run env now) db)
    (concerns : (Admission.recurringCheckIn pass guard).Concerns env db person) : ¬ Listed env now db person := by
  obtain ⟨after, done⟩ := committing_succeeds.mp succeeds
  obtain ⟨row, resolved, rfl⟩ := concerns
  simp only [recurringCheckIn, recurringDraft, bind_eq_ok, guardCondoId, orThrow_eq_ok] at done
  obtain ⟨_, ⟨_, _, condoId, active, same, here, _, _, _, _, _, _, _, _, _, clear, _⟩, _⟩ := done
  rw [active] at resolved
  obtain rfl := Except.ok.inj (resolved.symm.trans here)
  exact (assertNotBlacklisted_eq_ok ignores).mp clear

theorem succeeds_of_opens (opens : request.opensUnasked env now db) : Succeeds (request.run env now) db := by
  cases request with
  | checkIn pass guard => exact checkIn_opens.mpr opens.2
  | createWalkInUnit guard dto => exact unit_succeeds.mpr opens.2
  | createWalkInOffice guard dto => exact office_succeeds.mpr opens.2
  | approveWalkInByGuard visitorId guard => exact approveWalkIn_succeeds.mpr opens.2
  | acknowledgeWalkIn visitorId guard => exact acknowledge_succeeds.mpr opens.2
  | recurringCheckIn pass guard => exact opens.2.elim

theorem opens_of_succeeds (ignores : IgnoresCase env) (atOnce : request.AtOnce env db)
    (succeeds : Succeeds (request.run env now) db) (concerns : request.Concerns env db person)
    (mem : Listed env now db person) : request.opensUnasked env now db := by
  cases request with
  | checkIn pass guard => exact ⟨atOnce, checkIn_opens.mp succeeds⟩
  | createWalkInUnit guard dto => exact ⟨atOnce, unit_succeeds.mp succeeds⟩
  | createWalkInOffice guard dto => exact ⟨atOnce, office_succeeds.mp succeeds⟩
  | approveWalkInByGuard visitorId guard => exact ⟨atOnce, approveWalkIn_succeeds.mp succeeds⟩
  | acknowledgeWalkIn visitorId guard => exact ⟨atOnce, acknowledge_succeeds.mp succeeds⟩
  | recurringCheckIn pass guard => exact absurd mem (recurring_asks ignores succeeds concerns)

end

/-- The list is enforced on a request unless its path does not ask the list, would let anyone else in, and the visitor
is listed. -/
theorem blacklist_enforced {env : VisitorEnv} {now : Instant} {db : VisitorDb} {request : Admission}
    (ignores : IgnoresCase env) : request.Enforced env now db ↔
      ¬ (request.opensUnasked env now db ∧ ∃ person, request.Concerns env db person ∧ Listed env now db person) := by
  constructor
  · rintro enforced ⟨opens, person, concerns, listed⟩
    have refused := enforced opens.1 person concerns listed
    exact (refused_iff Admission.orderly).mp refused (succeeds_of_opens opens)
  · intro asked atOnce person concerns listed
    refine (refused_iff Admission.orderly).mpr fun succeeds => asked ?_
    exact ⟨opens_of_succeeds ignores atOnce succeeds concerns listed, person, concerns, listed⟩

namespace Sample

def banned : CreateVisitorBlacklistDto := ⟨none, some "+60123456789", none, none, "Theft", none⟩

theorem ignoresCase : IgnoresCase env := by
  refine ⟨fun mem name => ?_⟩
  simp [env, Function.comp_def, toLower_toLower]

end Sample

theorem blacklist_enforced_office : ∃ db,
    createEntry Sample.env 0 Sample.start.db 1 Sample.manager Sample.banned = .ok db ∧
      ¬ (Admission.createWalkInOffice Sample.guard Sample.office).Enforced Sample.env 86400000 db := by
  have entry : (createEntry Sample.env 0 Sample.start.db 1 Sample.manager Sample.banned).map VisitorDb.blacklist =
      .ok [⟨10, 1, none, some "+60123456789", none, none, "Theft", none, true, 0⟩] := by
    decide +kernel
  obtain ⟨db, created, rows⟩ := map_eq_ok.mp entry
  have listed : Listed Sample.env 86400000 db ⟨1, ⟨some "Lim", some "012-345 6789", none, none⟩⟩ := by
    have same : normalizeMalaysiaPhone "012-345 6789" ≠ "" ∧
        some "+60123456789" = some (normalizeMalaysiaPhone "012-345 6789") := by
      decide +kernel
    have member := List.mem_singleton_self (VisitorBlacklist.mk 10 1 none (some "+60123456789") none none "Theft" none true 0)
    rw [← rows] at member
    exact ⟨_, member, rfl, rfl, by simp, ⟨.inl ⟨_, rfl, same⟩⟩⟩
  have accepted : acceptedPhone "012-345 6789" := by
    unfold acceptedPhone
    decide +kernel
  have opens : Succeeds ((Admission.createWalkInOffice Sample.guard Sample.office).run Sample.env 86400000) db :=
    office_succeeds.mpr ⟨rfl, rfl, rfl, by decide +kernel, accepted⟩
  exact ⟨db, created, fun enforced => (refused_iff Admission.orderly).mp (enforced trivial _ ⟨rfl, rfl⟩ listed) opens⟩

theorem blacklist_enforced_recurring :
    (Admission.recurringCheckIn "ABCDEF" Sample.guard).Enforced Sample.env 0 Sample.start.db :=
  (blacklist_enforced Sample.ignoresCase).mpr fun unasked => unasked.1.2

end SmartResidence.Visitors
