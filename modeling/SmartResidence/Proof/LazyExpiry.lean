import SmartResidence.Proof.VisitorLifecycle

/-!
# Whether the lazy expiry has run

An operation that runs `expireStale` itself does the same after another one; the others look at their own deadlines.
-/

namespace SmartResidence.Visitors

open Foundation Billing List

inductive Operation
  | approve (visitorId : Id) (user : AuthenticatedUser)
  | approveOvernight (visitorId : Id) (user : AuthenticatedUser) (accessCode : String)
  | approveWalkInByGuard (visitorId : Id) (guard : GateUser)
  | acknowledgeWalkIn (visitorId : Id) (guard : GateUser)
  | checkIn (pass : String) (guard : GateUser)

def Operation.run (env : VisitorEnv) (now : Instant) : Operation → VisitorCall Unit
  | approve visitorId user => Visitors.approve env now visitorId user
  | approveOvernight visitorId user accessCode => Visitors.approveOvernight env now accessCode visitorId user
  | approveWalkInByGuard visitorId guard => Visitors.approveWalkInByGuard env now visitorId guard
  | acknowledgeWalkIn visitorId guard => Visitors.acknowledgeWalkIn env now visitorId guard
  | checkIn pass guard => Visitors.checkIn env now pass guard

def Succeeds (call : VisitorCall Unit) (db : VisitorDb) : Prop := ∃ after, call db = (.ok (), after)

def Operation.clearsLapsed (scope : Option Id) (now : Instant) (db : VisitorDb) : Operation → Prop
  | approveWalkInByGuard visitorId guard => isGateOperator guard.toAuthenticatedUser = true ∧
      ∃ visitor, db.visitor? visitorId = some visitor ∧ guard.activeCondoId = some visitor.condoId ∧
        visitor.visitType = .walkinUnit ∧ visitor.approvalLapsed now = true ∧ inScope scope visitor = true
  | _ => False

/-! ## The sweep, row by row -/

def Visitor.lapsed (now : Instant) (visitor : Visitor) : Bool := visitor.approvalLapsed now || visitor.passLapsed now

def swept (scope : Option Id) (now : Instant) (visitor : Visitor) : Visitor :=
  if inScope scope visitor && visitor.lapsed now then visitor.expire else visitor

section

variable {env : VisitorEnv} {scope other : Option Id} {now : Instant} {db : VisitorDb} {visitor : Visitor}

theorem expire_not_lapsed : visitor.expire.lapsed now = false := rfl

theorem expireStale_eq : expireStale scope now db = { db with visitors := db.visitors.map (swept scope now) } := by
  unfold expireStale expirePasses expireApprovals
  simp only [updateWhere, map_map]
  congr 1
  refine map_congr_left fun visitor _ => ?_
  unfold swept Visitor.lapsed
  by_cases within : inScope scope visitor = true
  · by_cases approval : visitor.approvalLapsed now = true
    · simp [within, approval, Visitor.expire]
    · simp [approval]
  · simp [within]

theorem swept_id : (swept scope now visitor).id = visitor.id := by
  unfold swept
  split <;> rfl

theorem swept_condoId : (swept scope now visitor).condoId = visitor.condoId := by
  unfold swept
  split <;> rfl

theorem swept_cases (scope : Option Id) (now : Instant) (visitor : Visitor) : swept scope now visitor = visitor ∨
    swept scope now visitor = visitor.expire ∧ inScope scope visitor = true ∧
      (visitor.approvalLapsed now = true ∨ visitor.passLapsed now = true) := by
  by_cases pick : (inScope scope visitor && visitor.lapsed now) = true
  · obtain ⟨within, lapsed⟩ := Bool.and_eq_true_iff.mp pick
    exact .inr ⟨if_pos pick, within, Bool.or_eq_true_iff.mp lapsed⟩
  · exact .inl (if_neg pick)

theorem swept_swept (covers : inScope other visitor = true) :
    swept other now (swept scope now visitor) = swept other now visitor := by
  rcases swept_cases scope now visitor with kept | ⟨gone, -, lapsed⟩
  · rw [kept]
  · have all : (inScope other visitor && visitor.lapsed now) = true := by
      simpa [covers, Visitor.lapsed] using lapsed
    have still : swept other now visitor.expire = visitor.expire := by
      simp [swept, expire_not_lapsed]
    rw [gone, still, swept, if_pos all]

theorem expireStale_expireStale : expireStale none now (expireStale scope now db) = expireStale none now db := by
  simp only [expireStale_eq, map_map]
  congr 1
  exact map_congr_left fun visitor _ => swept_swept rfl

theorem find_swept {pick : Visitor → Bool} (kept : ∀ visitor, pick (swept scope now visitor) = pick visitor)
    (rows : List Visitor) : (rows.map (swept scope now)).find? pick = (rows.find? pick).map (swept scope now) := by
  rw [List.find?_map]
  congr 2
  funext visitor
  exact kept visitor

theorem visitor_swept {id : Id} : (expireStale scope now db).visitor? id = (db.visitor? id).map (swept scope now) := by
  rw [expireStale_eq]
  exact find_swept (fun visitor => by rw [swept_id]) db.visitors

theorem lookup_swept {condoId : Option Id} {normalized : String} :
    lookupVisitor env (expireStale scope now db) condoId normalized =
      (lookupVisitor env db condoId normalized).map (Option.map (swept scope now)) := by
  have keeps : ∀ visitor, (swept scope now visitor).qrPayload = visitor.qrPayload ∧
      (swept scope now visitor).qrCode = visitor.qrCode ∧ (swept scope now visitor).accessCode = visitor.accessCode := by
    intro visitor
    unfold swept
    split <;> exact ⟨rfl, rfl, rfl⟩
  have byId : findById env Visitor.id (expireStale scope now db).visitors normalized =
      (findById env Visitor.id db.visitors normalized).map (Option.map (swept scope now)) := by
    unfold findById
    split
    · cases requireUuid env normalized with
      | error failure => rfl
      | ok wanted => exact congrArg Except.ok visitor_swept
    · rfl
  have byPayload : findByPayload env Visitor.id Visitor.condoId (expireStale scope now db).visitors normalized =
      (findByPayload env Visitor.id Visitor.condoId db.visitors normalized).map (Option.map (swept scope now)) := by
    unfold findByPayload
    cases parseQrPayload env normalized with
    | none => rfl
    | some payload =>
      dsimp only
      cases requireUuid env payload.visitorId with
      | error failure => rfl
      | ok wanted =>
        cases requireUuid env payload.condoId with
        | error failure => rfl
        | ok condo =>
          refine congrArg Except.ok ?_
          rw [expireStale_eq]
          exact find_swept (fun visitor => by rw [swept_id, swept_condoId]) db.visitors
  have stored : visitorByStored (expireStale scope now db) condoId normalized =
      (visitorByStored db condoId normalized).map (swept scope now) := by
    unfold visitorByStored
    simp only [expireStale_eq, Option.map_or]
    rw [find_swept fun visitor => by rw [(keeps visitor).1], find_swept fun visitor => by rw [(keeps visitor).2.1],
      find_swept fun visitor => by rw [(keeps visitor).2.2, swept_condoId]]
  unfold lookupVisitor
  rw [byId]
  cases findById env Visitor.id db.visitors normalized with
  | error failure => rfl
  | ok first =>
    cases first with
    | some visitor => rfl
    | none =>
      rw [byPayload]
      cases findByPayload env Visitor.id Visitor.condoId db.visitors normalized with
      | error failure => rfl
      | ok second =>
        cases second with
        | some visitor => rfl
        | none => exact congrArg Except.ok stored

end

/-! ## When an operation succeeds -/

section

variable {env : VisitorEnv} {scope : Option Id} {now : Instant} {db after : VisitorDb} {visitorId : Id}
  {visitor : Visitor} {guard : GateUser}

variable {message : String} {rest : Visitor → VisitorCall Unit}

theorem readVisitor_bind : (readVisitor visitorId message >>= rest) db = (.ok (), after) ↔
      ∃ visitor, db.visitor? visitorId = some visitor ∧ rest visitor db = (.ok (), after) := by
  rw [Call.bind_eq_ok]
  simp only [readVisitor, Prod.mk.injEq, orThrow_eq_ok]
  constructor
  · rintro ⟨visitor, _, ⟨found, rfl⟩, rest⟩
    exact ⟨visitor, found, rest⟩
  · rintro ⟨visitor, found, rest⟩
    exact ⟨visitor, db, ⟨found, rfl⟩, rest⟩

theorem ofResult_bind_ok {Value : Type} {result : Result Value} {rest : Value → VisitorCall Unit} :
    (Call.ofResult result >>= rest) db = (.ok (), after) ↔
      ∃ value, result = .ok value ∧ rest value db = (.ok (), after) := by
  rw [Call.ofResult_bind]
  cases result <;> simp

theorem run_admission (env : VisitorEnv) (now : Instant) {lapsed : Bool} (message : String) (guardId : Id)
    (approves : Bool) (found : ∃ visitor ∈ db.visitors, visitor.id = visitorId) :
    Succeeds (Ending.run env visitorId (if lapsed then .expire message else .letIn guardId now approves)) db ↔
      lapsed = false := by
  obtain ⟨visitor, same⟩ := Option.isSome_iff_exists.mp (findBy_isSome.mpr found)
  have required : requireVisitor db visitorId = .ok visitor := orThrow_eq_ok.mpr same
  cases lapsed with
  | true =>
    refine ⟨?_, fun never => by cases never⟩
    rintro ⟨after, done⟩
    simp only [Ending.run, Ending.commit, required] at done
    cases (Prod.mk.inj done).1
  | false =>
    refine ⟨fun _ => rfl, fun _ => ?_⟩
    have commits : Ending.commit env db visitorId (.letIn guardId now approves) = .ok
        ((db.updateVisitor visitorId (Visitor.enter guardId now approves)).recordCheckIn visitorId guardId now) := by
      simp only [Ending.commit, required]
      rfl
    refine ⟨(db.updateVisitor visitorId (Visitor.enter guardId now approves)).recordCheckIn visitorId guardId now, ?_⟩
    simp only [Ending.run, Bool.false_eq_true, if_false, commits]
    rfl

theorem mem_of_visitor {visitor : Visitor} (found : db.visitor? visitorId = some visitor) :
    ∃ visitor ∈ db.visitors, visitor.id = visitorId := ⟨visitor, mem_of_findBy found⟩

theorem atTheGate {checks : Id → Visitor → Result Ending} :
    (Call.ofResult (assertGateOperator guard.toAuthenticatedUser) >>= fun _ => do
      let condoId ← Call.ofResult (guardCondoId guard)
      let visitor ← readVisitor visitorId message
      let ending ← Call.ofResult (checks condoId visitor)
      ending.run env visitorId) db = (.ok (), after) ↔
      isGateOperator guard.toAuthenticatedUser = true ∧ ∃ condoId, guard.activeCondoId = some condoId ∧
        ∃ visitor, db.visitor? visitorId = some visitor ∧ ∃ ending, checks condoId visitor = .ok ending ∧
          ending.run env visitorId db = (.ok (), after) := by
  simp only [ofResult_bind_ok, readVisitor_bind, assertGateOperator, guardCondoId, throwIf_eq_ok, orThrow_eq_ok,
    not_not, exists_const]

theorem approveWalkIn_succeeds : Succeeds (approveWalkInByGuard env now visitorId guard) db ↔
    isGateOperator guard.toAuthenticatedUser = true ∧ ∃ visitor, db.visitor? visitorId = some visitor ∧
      guard.activeCondoId = some visitor.condoId ∧ visitor.visitType = .walkinUnit ∧
        visitor.status = .pendingOwnerApproval := by
  unfold Succeeds approveWalkInByGuard
  simp only [atTheGate, approveWalkInChecks_eq_ok]
  constructor
  · rintro ⟨after, operator, condoId, active, visitor, found, ending, ⟨⟨rfl, walkIn⟩, pending, rfl⟩, done⟩
    exact ⟨operator, visitor, found, active, walkIn, pending⟩
  · rintro ⟨operator, visitor, found, active, walkIn, pending⟩
    obtain ⟨after, done⟩ := (run_admission env now "" guard.id true (mem_of_visitor found)).mpr rfl
    exact ⟨after, operator, _, active, visitor, found, _, ⟨⟨rfl, walkIn⟩, pending, rfl⟩, done⟩

theorem acknowledge_succeeds : Succeeds (acknowledgeWalkIn env now visitorId guard) db ↔
    isGateOperator guard.toAuthenticatedUser = true ∧ ∃ visitor, db.visitor? visitorId = some visitor ∧
      guard.activeCondoId = some visitor.condoId ∧ visitor.visitType = .walkinUnit ∧
        visitor.status = .approved ∧ passed visitor.expiresAt now = false := by
  unfold Succeeds acknowledgeWalkIn
  simp only [atTheGate, acknowledgeChecks_eq_ok]
  constructor
  · rintro ⟨after, operator, condoId, active, visitor, found, ending, ⟨⟨rfl, walkIn⟩, approved, rfl⟩, done⟩
    exact ⟨operator, visitor, found, active, walkIn, approved, (run_admission _ _ _ _ _ (mem_of_visitor found)).mp ⟨after, done⟩⟩
  · rintro ⟨operator, visitor, found, active, walkIn, approved, current⟩
    obtain ⟨after, done⟩ := (run_admission env now
      "Owner approval window expired — ask the resident to re-register the visitor" guard.id false
      (mem_of_visitor found)).mpr current
    exact ⟨after, operator, _, active, visitor, found, _, ⟨⟨rfl, walkIn⟩, approved, rfl⟩, done⟩

variable {condoId : Option Id} {normalized : String}

theorem visitor_of_stored (found : visitorByStored db condoId normalized = some visitor) : visitor ∈ db.visitors := by
  rcases Option.or_eq_some_iff.mp found with first | ⟨-, code⟩
  · rcases Option.or_eq_some_iff.mp first with payload | ⟨-, qr⟩
    · exact mem_of_find?_eq_some payload
    · exact mem_of_find?_eq_some qr
  · exact mem_of_find?_eq_some code

theorem mem_of_lookup (found : lookupVisitor env db condoId normalized = .ok (some visitor)) :
    visitor ∈ db.visitors := by
  obtain ⟨first, byId, found⟩ := bind_eq_ok.mp found
  cases first with
  | some row =>
    cases found
    unfold findById at byId
    split at byId
    · simp only [bind_eq_ok, pure_eq_ok] at byId
      obtain ⟨id, -, here⟩ := byId
      exact (mem_of_findBy here).1
    · cases byId
  | none =>
    obtain ⟨second, byPayload, found⟩ := bind_eq_ok.mp found
    cases second with
    | some row =>
      cases found
      unfold findByPayload at byPayload
      split at byPayload
      · cases byPayload
      · simp only [bind_eq_ok, pure_eq_ok] at byPayload
        obtain ⟨id, -, condo, -, here⟩ := byPayload
        exact mem_of_find?_eq_some here
    | none => exact visitor_of_stored (pure_eq_ok.mp found)

variable {pass : String}

theorem verify_ok : verifyByPass env now pass condoId db = (.ok visitor, after) ↔ after = expireStale condoId now db ∧
      lookupVisitor env after condoId (normalizePassInput pass) = .ok (some visitor) ∧
      visitor.status ≠ .cancelled ∧ visitor.status ≠ .expired ∧ ¬ visitor.early now := by
  unfold verifyByPass
  rw [Call.bind_of_ok (show Call.write (expireStale condoId now) db = (.ok (), expireStale condoId now db) from rfl),
    Call.read_bind]
  cases looked : lookupVisitor env (expireStale condoId now db) condoId (normalizePassInput pass) with
  | error failure =>
    refine ⟨fun got => ?_, fun ⟨same, found, _⟩ => ?_⟩
    · cases (Prod.mk.inj got).1
    · subst same
      cases looked.symm.trans found
  | ok found =>
    cases found with
    | none =>
      refine ⟨fun got => ?_, fun ⟨same, found, _⟩ => ?_⟩
      · cases (Prod.mk.inj got).1
      · subst same
        cases looked.symm.trans found
    | some row =>
      show (enrichVerifyResult env now row, expireStale condoId now db) = (.ok visitor, after) ↔ _
      rw [Prod.mk.injEq, enrichVerifyResult_eq_ok]
      constructor
      · rintro ⟨⟨live, fresh, ready, rfl⟩, rfl⟩
        exact ⟨rfl, looked, live, fresh, ready⟩
      · rintro ⟨rfl, found, live, fresh, ready⟩
        obtain rfl := Option.some.inj (Except.ok.inj (looked.symm.trans found))
        exact ⟨⟨live, fresh, ready, rfl⟩, rfl⟩

theorem verify_writes : (verifyByPass env now pass condoId db).2 = expireStale condoId now db := by
  unfold verifyByPass
  rw [Call.bind_of_ok (show Call.write (expireStale condoId now) db = (.ok (), expireStale condoId now db) from rfl),
    Call.read_bind, Call.ofResult_bind]
  split <;> rfl

theorem verify_bind_ok : (verifyByPass env now pass condoId >>= rest) db = (.ok (), after) ↔
      ∃ visitor, lookupVisitor env (expireStale condoId now db) condoId (normalizePassInput pass) = .ok (some visitor) ∧
        visitor.status ≠ .cancelled ∧ visitor.status ≠ .expired ∧ ¬ visitor.early now ∧
        rest visitor (expireStale condoId now db) = (.ok (), after) := by
  rw [Call.bind_eq_ok]
  constructor
  · rintro ⟨visitor, middle, verified, rest⟩
    obtain ⟨rfl, found, live, fresh, ready⟩ := verify_ok.mp verified
    exact ⟨visitor, found, live, fresh, ready, rest⟩
  · rintro ⟨visitor, found, live, fresh, ready, rest⟩
    exact ⟨visitor, _, verify_ok.mpr ⟨rfl, found, live, fresh, ready⟩, rest⟩

def Visitor.admissible (now : Instant) (visitor : Visitor) : Prop :=
  visitor.status = .approved ∧ passed visitor.expiresAt now = false ∧ ¬ visitor.early now

theorem checkIn_succeeds : Succeeds (checkIn env now pass guard) db ↔
    isGateOperator guard.toAuthenticatedUser = true ∧ ∃ condoId, guard.activeCondoId = some condoId ∧
      ∃ visitor, lookupVisitor env db (some condoId) (normalizePassInput pass) = .ok (some visitor) ∧
        visitor.condoId = condoId ∧ (swept (some condoId) now visitor).admissible now := by
  have here : ∀ {condoId visitor}, lookupVisitor env db (some condoId) (normalizePassInput pass) = .ok (some visitor) →
      ∃ other ∈ (expireStale (some condoId) now db).visitors, other.id = (swept (some condoId) now visitor).id := by
    intro condoId visitor found
    rw [expireStale_eq]
    exact ⟨_, mem_map_of_mem (mem_of_lookup found), rfl⟩
  unfold Succeeds checkIn
  simp only [ofResult_bind_ok, verify_bind_ok, assertGateOperator, guardCondoId, throwIf_eq_ok, orThrow_eq_ok,
    checkInChecks_eq_ok, lookup_swept, not_not, exists_const]
  constructor
  · rintro ⟨after, operator, condoId, active, row, looked, -, -, ready, ending, ⟨own, approved, rfl⟩, done⟩
    obtain ⟨result, found, same⟩ := map_eq_ok.mp looked
    obtain ⟨visitor, rfl, rfl⟩ := Option.map_eq_some_iff.mp same
    exact ⟨operator, condoId, active, visitor, found, swept_condoId.symm.trans own, approved,
      (run_admission _ _ _ _ _ (here found)).mp ⟨after, done⟩, ready⟩
  · rintro ⟨operator, condoId, active, visitor, found, own, approved, current, ready⟩
    obtain ⟨after, done⟩ := (run_admission env now "Visitor pass has expired" guard.id false (here found)).mpr current
    refine ⟨after, operator, condoId, active, swept (some condoId) now visitor, ?_, ?_, ?_, ready, _,
      ⟨swept_condoId.trans own, approved, rfl⟩, done⟩
    · rw [found]
      rfl
    · simp [approved]
    · simp [approved]

/-! ## After a sweep -/

variable {user : AuthenticatedUser}

theorem approve_after_sweep :
    approve env now visitorId user (expireStale scope now db) = approve env now visitorId user db := by
  unfold approve
  rw [Call.bind_of_ok (show Call.write (expireStale none now) (expireStale scope now db) = (.ok (), _) from rfl),
    Call.bind_of_ok (show Call.write (expireStale none now) db = (.ok (), _) from rfl), expireStale_expireStale]

theorem approveOvernight_after_sweep {accessCode : String} :
    approveOvernight env now accessCode visitorId user (expireStale scope now db) =
      approveOvernight env now accessCode visitorId user db := by
  unfold approveOvernight
  rw [Call.bind_of_ok (show Call.write (expireStale none now) (expireStale scope now db) = (.ok (), _) from rfl),
    Call.bind_of_ok (show Call.write (expireStale none now) db = (.ok (), _) from rfl), expireStale_expireStale]

theorem swept_approved : (swept scope now visitor).status = .approved ∧
      passed (swept scope now visitor).expiresAt now = false ↔
    visitor.status = .approved ∧ passed visitor.expiresAt now = false := by
  rcases swept_cases scope now visitor with kept | ⟨gone, -, lapsed⟩
  · rw [kept]
  · rw [gone]
    refine ⟨fun never => ?_, fun ⟨approved, current⟩ => ?_⟩
    · cases never.1
    · rcases lapsed with approval | pass
      · simp [Visitor.approvalLapsed, approved] at approval
      · simp [Visitor.passLapsed, current] at pass

theorem swept_pending : (swept scope now visitor).status = .pendingOwnerApproval ↔
    visitor.status = .pendingOwnerApproval ∧ ¬ (visitor.approvalLapsed now = true ∧ inScope scope visitor = true) := by
  rcases swept_cases scope now visitor with kept | ⟨gone, within, lapsed⟩
  · rw [kept]
    refine ⟨fun pending => ⟨pending, fun ⟨approval, within⟩ => ?_⟩, And.left⟩
    have gone : swept scope now visitor = visitor.expire := by simp [swept, Visitor.lapsed, within, approval]
    rw [← kept, gone] at pending
    cases pending
  · rw [gone]
    refine ⟨fun never => ?_, fun ⟨pending, open?⟩ => ?_⟩
    · cases never
    · rcases lapsed with approval | pass
      · exact absurd ⟨approval, within⟩ open?
      · simp [Visitor.passLapsed, pending] at pass

theorem swept_visitType : (swept scope now visitor).visitType = visitor.visitType := by
  unfold swept
  split <;> rfl

theorem approveWalkIn_after_sweep : Succeeds (approveWalkInByGuard env now visitorId guard) (expireStale scope now db) ↔
    Succeeds (approveWalkInByGuard env now visitorId guard) db ∧
      ¬ (Operation.approveWalkInByGuard visitorId guard).clearsLapsed scope now db := by
  simp only [approveWalkIn_succeeds, visitor_swept, Operation.clearsLapsed]
  cases db.visitor? visitorId with
  | none => simp
  | some visitor =>
    simp only [Option.map_some, Option.some.injEq, exists_eq_left', swept_condoId, swept_visitType, swept_pending]
    tauto

theorem acknowledge_after_sweep : Succeeds (acknowledgeWalkIn env now visitorId guard) (expireStale scope now db) ↔
    Succeeds (acknowledgeWalkIn env now visitorId guard) db := by
  simp only [acknowledge_succeeds, visitor_swept]
  cases db.visitor? visitorId with
  | none => simp
  | some visitor =>
    simp only [Option.map_some, Option.some.injEq, exists_eq_left', swept_condoId, swept_visitType, swept_approved]

theorem checkIn_after_sweep : Succeeds (checkIn env now pass guard) (expireStale scope now db) ↔
    Succeeds (checkIn env now pass guard) db := by
  simp only [checkIn_succeeds, lookup_swept]
  refine and_congr_right fun _ => exists_congr fun condoId => and_congr_right fun _ => ?_
  cases lookupVisitor env db (some condoId) (normalizePassInput pass) with
  | error failure => simp [Except.map]
  | ok found =>
    cases found with
    | none => simp [Except.map]
    | some visitor =>
      simp only [Except.map, Option.map_some, Except.ok.injEq, Option.some.injEq, exists_eq_left', swept_condoId]
      refine and_congr_right fun own => ?_
      rw [swept_swept (by simp [inScope, own])]

end

/-- A sweep changes what the operation does in one case only: a guard clears a walk-in after the approval deadline. -/
theorem lazy_expiry {env : VisitorEnv} {scope : Option Id} {now : Instant} {db : VisitorDb} {op : Operation} :
    (Succeeds (op.run env now) (expireStale scope now db) ↔ Succeeds (op.run env now) db) ↔
      ¬ op.clearsLapsed scope now db := by
  cases op with
  | approve visitorId user => simp [Succeeds, Operation.run, approve_after_sweep, Operation.clearsLapsed]
  | approveOvernight visitorId user accessCode =>
      simp [Succeeds, Operation.run, approveOvernight_after_sweep, Operation.clearsLapsed]
  | approveWalkInByGuard visitorId guard =>
      rw [Operation.run, approveWalkIn_after_sweep, approveWalkIn_succeeds]
      constructor
      · rintro same ⟨operator, visitor, found, active, walkIn, lapsed, within⟩
        have pending : visitor.status = .pendingOwnerApproval := by
          simp only [Visitor.approvalLapsed, Bool.and_eq_true, decide_eq_true_eq] at lapsed
          exact lapsed.1
        have cleared := same.mpr ⟨operator, visitor, found, active, walkIn, pending⟩
        exact cleared.2 ⟨operator, visitor, found, active, walkIn, lapsed, within⟩
      · exact fun never => ⟨And.left, fun cleared => ⟨cleared, never⟩⟩
  | acknowledgeWalkIn visitorId guard => simp [Operation.run, acknowledge_after_sweep, Operation.clearsLapsed]
  | checkIn pass guard => simp [Operation.run, checkIn_after_sweep, Operation.clearsLapsed]

namespace Sample

def walkIn : CreateWalkInUnitDto := ⟨1, "Lim", "012-345 6789", none, false, false⟩

end Sample

theorem lazy_expiry_cleared : ∃ db, createWalkInUnit Sample.env 0 Sample.start.db Sample.guard Sample.walkIn = .ok db ∧
    ¬ (Succeeds ((Operation.approveWalkInByGuard 10 Sample.guard).run Sample.env 900001)
        (expireStale (some 1) 900001 db) ↔
      Succeeds ((Operation.approveWalkInByGuard 10 Sample.guard).run Sample.env 900001) db) := by
  have waiting : (createWalkInUnit Sample.env 0 Sample.start.db Sample.guard Sample.walkIn).map (fun db =>
      (db.visitor? 10).map fun v => (v.condoId, v.visitType, v.status, v.approvalLapsed 900001)) =
      .ok (some (1, .walkinUnit, .pendingOwnerApproval, true)) := by
    decide +kernel
  obtain ⟨db, recorded, row⟩ := map_eq_ok.mp waiting
  obtain ⟨visitor, found, same⟩ := Option.map_eq_some_iff.mp row
  simp only [Prod.mk.injEq] at same
  obtain ⟨condo, walkIn, pending, lapsed⟩ := same
  have operator : isGateOperator Sample.guard.toAuthenticatedUser = true := rfl
  have active : Sample.guard.activeCondoId = some visitor.condoId := condo ▸ rfl
  have within : inScope (some 1) visitor = true := decide_eq_true condo
  refine ⟨db, recorded, fun unchanged => ?_⟩
  have cleared : Succeeds (approveWalkInByGuard Sample.env 900001 10 Sample.guard) db :=
    approveWalkIn_succeeds.mpr ⟨operator, visitor, found, active, walkIn, pending⟩
  have still := approveWalkIn_after_sweep.mp (unchanged.mpr cleared)
  exact still.2 ⟨operator, visitor, found, active, walkIn, lapsed, within⟩

end SmartResidence.Visitors
