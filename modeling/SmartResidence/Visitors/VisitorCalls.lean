import SmartResidence.Visitors.RecurringPasses
import SmartResidence.Foundation.Runs

/-!
# Concurrent calls of `visitor.service.ts`

A call reads and checks in one step and writes in later ones. An `expireStale` of its own is a step before that.
-/

namespace SmartResidence.Visitors

open Foundation Billing

inductive InFlight
  | ending (visitorId : Id) (ending : Ending)
  | registering (draft : Visitor) (accessCode : String)
  | staying (draft : Visitor) (accessCode : String) (checkedAt : Instant) (settings : CondoVisitorSettings)
  | counting (draft : Visitor) (accessCode : String) (checkedAt : Instant) (settings : CondoVisitorSettings)
      (snapshot : List Visitor) (since : Nat)
  | walkingIn (guardId : Id) (walkIn : WalkIn)
  | leaving (visitorId guardId : Id)
  | closing (closing : Closing) (rest : List Closing)
  | closed (closing : Closing) (rest : List Closing)

def nextClosing : List Closing → List InFlight
  | [] => []
  | closing :: rest => [.closing closing rest]

/-- An operation and its input. The lookups of a pass may read at different times: `found` is the row they lead to. -/
inductive VisitorRequest
  | create (user : AuthenticatedUser) (dto : CreateVisitorDto) (accessCode : String)
  | createDeliveryPass (user : AuthenticatedUser) (dto : CreateDeliveryPassDto) (accessCode : String)
  | createWalkInUnit (guard : GateUser) (dto : CreateWalkInUnitDto)
  | createWalkInOffice (guard : GateUser) (dto : CreateWalkInOfficeDto)
  | recurringCheckIn (guard : GateUser) (pass : String)
  | approve (visitorId : Id) (user : AuthenticatedUser)
  | approveOvernight (visitorId : Id) (user : AuthenticatedUser) (accessCode : String)
  | reject (visitorId : Id) (user : AuthenticatedUser)
  | cancel (visitorId : Id) (user : AuthenticatedUser)
  | approveWalkInByGuard (visitorId : Id) (guard : GateUser)
  | acknowledgeWalkIn (visitorId : Id) (guard : GateUser)
  | checkIn (found : Id) (guard : GateUser)
  | checkOut (found : Id) (guard : GateUser)
  | autoClose (condoId : Id)

def checked (db : VisitorDb) (visitorId : Id) (checks : Visitor → Result Ending) : Result (List InFlight) := do
  let visitor ← orThrow (db.visitor? visitorId) (.notFound "Visitor not found")
  return [.ending visitorId (← checks visitor)]

def atGate (guard : GateUser) (checks : Id → Visitor → Result Ending) (visitor : Visitor) : Result Ending := do
  assertGateOperator guard.toAuthenticatedUser
  checks (← guardCondoId guard) visitor

def VisitorRequest.begin (env : VisitorEnv) (now : Instant) (db : VisitorDb) :
    VisitorRequest → Result (List InFlight)
  | create user dto accessCode => do
      let draft ← createDraft env now db user dto
      if draft.overnight then return [.staying draft accessCode now (settingsOf env db draft.condoId)]
      return [.registering draft accessCode]
  | createDeliveryPass user dto accessCode => do return [.registering (← deliveryDraft env now db user dto) accessCode]
  | createWalkInUnit guard dto => do return [.walkingIn guard.id (← walkInUnit env now db guard dto)]
  | createWalkInOffice guard dto => do return [.walkingIn guard.id (← walkInOffice now guard dto)]
  | recurringCheckIn guard pass => do return [.walkingIn guard.id (.enters (← recurringDraft env now db pass guard))]
  | approve visitorId user => checked db visitorId (approveChecks now user)
  | approveOvernight visitorId user accessCode =>
      checked db visitorId fun visitor =>
        approveOvernightChecks now user (settingsOf env db visitor.condoId) accessCode visitor
  | reject visitorId user => checked db visitorId (rejectChecks user)
  | cancel visitorId user => checked db visitorId (cancelChecks now user)
  | approveWalkInByGuard visitorId guard => checked db visitorId (atGate guard (approveWalkInChecks now guard))
  | acknowledgeWalkIn visitorId guard => checked db visitorId (atGate guard (acknowledgeChecks now guard))
  | checkIn found guard =>
      checked db found (atGate guard fun condoId visitor => do
        checkInChecks now guard condoId (← enrichVerifyResult env now visitor))
  | checkOut found guard => do
      assertGateOperator guard.toAuthenticatedUser
      let _ ← guardCondoId guard
      let visitor ← orThrow (db.visitor? found) (.notFound "Unknown pass — check the QR or access code")
      let visitor ← enrichVerifyResult env now visitor
      refuseWalkIn visitor
      return [.leaving visitor.id guard.id]
  | autoClose condoId => return nextClosing (autoClosings env db condoId now)

def outdated (env : VisitorEnv) (db : VisitorDb) (draft : Visitor) (since : Nat) : Bool :=
  let night := nightRangeForArrival env.calendar draft.expectedAt
  db.visitors.any fun visitor => decide (since ≤ visitor.id ∧ visitor.overnight = true ∧
    visitor.condoId = draft.condoId ∧ night.1 ≤ visitor.expectedAt ∧ visitor.expectedAt < night.2)

def InFlight.proceed (env : VisitorEnv) (now : Instant) (db : VisitorDb) :
    InFlight → Result (VisitorDb × List InFlight)
  | .ending visitorId write => do return (← write.commit env db visitorId, [])
  | .registering draft accessCode => do
      assertAccessCodeFree db draft.condoId accessCode
      return (← insertVisitor env now db draft (some accessCode),
        [.ending db.nextId (.update (.passFields accessCode))])
  | .staying draft accessCode checkedAt settings =>
      return (db, [.counting draft accessCode checkedAt settings db.visitors db.nextId])
  | .counting draft accessCode checkedAt settings snapshot since => do
      -- Of two serializable transactions that count and insert for one night, the later is run again.
      if outdated env db draft since then return (db, [.staying draft accessCode checkedAt settings])
      return (← insertOvernight env now db snapshot checkedAt settings draft accessCode, [])
  | .walkingIn guardId walkIn => do return (← walkIn.insert env now db guardId, [])
  | .leaving visitorId guardId => do
      let record ← orThrow (lastCheckIn db visitorId) (.badRequest "No active check-in for this visitor")
      return (db, [.closing ⟨visitorId, record.id, now, some guardId⟩ []])
  | .closing visit rest => do return (← visit.closeRecord db, [.closed visit rest])
  | .closed visit rest => do return (← (Ending.update .checkOut).commit env db visit.visitorId, nextClosing rest)

structure VisitorState where
  db : VisitorDb
  calls : List InFlight

inductive VisitorEvent
  | expireApprovals (scope : Option Id) (now : Instant)
  | expirePasses (scope : Option Id) (now : Instant)
  | policies (rows : List UnitVisitorPolicy)
  | begin (now : Instant) (request : VisitorRequest)
  | proceed (now : Instant) (call : InFlight)

inductive VisitorStep (env : VisitorEnv) : VisitorState → VisitorEvent → VisitorState → Prop
  | expireApprovals {db : VisitorDb} {calls : List InFlight} {scope : Option Id} {now : Instant} :
      VisitorStep env ⟨db, calls⟩ (.expireApprovals scope now) ⟨Visitors.expireApprovals scope now db, calls⟩
  | expirePasses {db : VisitorDb} {calls : List InFlight} {scope : Option Id} {now : Instant} :
      VisitorStep env ⟨db, calls⟩ (.expirePasses scope now) ⟨Visitors.expirePasses scope now db, calls⟩
  | policies {db : VisitorDb} {calls : List InFlight} {rows : List UnitVisitorPolicy} :
      VisitorStep env ⟨db, calls⟩ (.policies rows) ⟨{ db with policies := rows }, calls⟩
  | begin {db : VisitorDb} {calls more : List InFlight} {now : Instant} {request : VisitorRequest}
      (begins : request.begin env now db = .ok more) :
      VisitorStep env ⟨db, calls⟩ (.begin now request) ⟨db, calls ++ more⟩
  | proceed {db after : VisitorDb} {front back rest : List InFlight} {now : Instant} {call : InFlight}
      (proceeds : call.proceed env now db = .ok (after, rest)) :
      VisitorStep env ⟨db, front ++ call :: back⟩ (.proceed now call) ⟨after, front ++ rest ++ back⟩
  | abort {db : VisitorDb} {front back : List InFlight} {now : Instant} {call : InFlight} {failure : ApiError}
      (aborts : call.proceed env now db = .error failure) :
      VisitorStep env ⟨db, front ++ call :: back⟩ (.proceed now call) ⟨db, front ++ back⟩

inductive Choice
  | expire (scope : Option Id) (now : Instant)
  | begin (now : Instant) (request : VisitorRequest)
  | proceed (now : Instant) (place : Nat)

def VisitorState.choose (env : VisitorEnv) (state : VisitorState) : Choice → Option VisitorState
  | .expire scope now => some ⟨expireStale scope now state.db, state.calls⟩
  | .begin now request =>
      match request.begin env now state.db with
      | .ok more => some ⟨state.db, state.calls ++ more⟩
      | .error _ => none
  | .proceed now place =>
      match state.calls[place]? with
      | none => none
      | some call =>
          match call.proceed env now state.db with
          | .ok (after, rest) => some ⟨after, state.calls.take place ++ rest ++ state.calls.drop (place + 1)⟩
          | .error _ => none

def VisitorState.schedule (env : VisitorEnv) (state : VisitorState) (choices : List Choice) : Option VisitorState :=
  choices.foldlM (VisitorState.choose env) state

theorem choose_run {env : VisitorEnv} {state next : VisitorState} {choice : Choice}
    (pick : state.choose env choice = some next) : ∃ events, Run (VisitorStep env) state events next := by
  cases choice with
  | expire scope now =>
    cases pick
    exact ⟨_, (Run.single .expireApprovals).snoc .expirePasses⟩
  | begin now request =>
    simp only [VisitorState.choose] at pick
    split at pick
    · rename_i more begins
      cases pick
      exact ⟨_, .single (.begin begins)⟩
    · cases pick
  | proceed now place =>
    simp only [VisitorState.choose] at pick
    split at pick
    · cases pick
    · rename_i call here
      split at pick
      · rename_i after rest proceeds
        cases pick
        obtain ⟨mem, rfl⟩ := List.getElem?_eq_some_iff.mp here
        have parts : state = ⟨state.db, state.calls.take place ++ state.calls[place] :: state.calls.drop (place + 1)⟩ := by
          rw [List.cons_getElem_drop_succ, List.take_append_drop]
        have step : VisitorStep env ⟨state.db, state.calls.take place ++ state.calls[place] ::
            state.calls.drop (place + 1)⟩ (.proceed now state.calls[place])
            ⟨after, state.calls.take place ++ rest ++ state.calls.drop (place + 1)⟩ := .proceed proceeds
        rw [← parts] at step
        exact ⟨_, .single step⟩
      · cases pick

theorem schedule_run {env : VisitorEnv} {choices : List Choice} {state finish : VisitorState}
    (scheduled : state.schedule env choices = some finish) : ∃ events, Run (VisitorStep env) state events finish := by
  induction choices generalizing state with
  | nil =>
    cases scheduled
    exact ⟨[], .done⟩
  | cons choice choices ih =>
    simp only [VisitorState.schedule, List.foldlM_cons, Option.bind_eq_bind, Option.bind_eq_some_iff] at scheduled
    obtain ⟨next, pick, rest⟩ := scheduled
    obtain ⟨first, moves⟩ := choose_run pick
    obtain ⟨last, others⟩ := ih rest
    exact ⟨first ++ last, moves.trans others⟩

end SmartResidence.Visitors
