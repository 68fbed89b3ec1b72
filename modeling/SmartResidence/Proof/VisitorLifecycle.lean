import SmartResidence.Proof.VisitorChecks

/-!
# The life of a visit
-/

namespace SmartResidence.Visitors

open Foundation Billing List

/-! ## The visit, as it should go -/

inductive Stage
  | expected
  | turnedAway (final : VisitorStatus)
  | inside (checkInId : Id)
  | leaving (checkInId : Id)
  | gone (checkInId : Id)

def Stage.Holds (status : VisitorStatus) (records : List VisitorCheckIn) : Stage → Prop
  | expected => status.upcoming = true ∧ records = []
  | turnedAway final => status = final ∧ final ∈ [VisitorStatus.rejected, .expired, .cancelled] ∧ records = []
  | inside id => status = .checkedIn ∧ ∃ row, records = [row] ∧ row.id = id ∧ row.checkOutAt = none
  | leaving id => status = .checkedIn ∧ ∃ row, records = [row] ∧ row.id = id ∧ row.checkOutAt ≠ none
  | gone id => status = .checkedOut ∧ ∃ row, records = [row] ∧ row.id = id ∧ row.checkOutAt ≠ none

inductive Moves (closes : Id → Prop) : Stage → Stage → Prop
  | stays (stage : Stage) : Moves closes stage stage
  | turnsAway (final : VisitorStatus) : Moves closes .expected (.turnedAway final)
  | enters (checkInId : Id) : Moves closes .expected (.inside checkInId)
  | leaves {checkInId : Id} : closes checkInId → Moves closes (.inside checkInId) (.leaving checkInId)
  | goes (checkInId : Id) : Moves closes (.leaving checkInId) (.gone checkInId)

def VisitorStatus.final (status : VisitorStatus) : Bool := status ∈ [rejected, cancelled, expired, checkedOut]

section

variable {status : VisitorStatus} {records : List VisitorCheckIn} {stage other : Stage} {closes : Id → Prop} {id : Id}

theorem Stage.Holds.unique (first : stage.Holds status records) (second : other.Holds status records) :
    stage = other := by
  cases stage <;> cases other <;> simp only [Stage.Holds] at first second <;> grind [VisitorStatus.upcoming]

theorem upcoming_not_final (upcoming : status.upcoming = true) : status.final = false := by
  cases status <;> first | rfl | cases upcoming

theorem Moves.final {next : VisitorStatus} {later : List VisitorCheckIn} (moves : Moves closes stage other)
    (before : stage.Holds status records) (after : other.Holds next later) (final : status.final = true) :
    next = status := by
  have expected : ∀ {records}, ¬ Stage.expected.Holds status records :=
    fun holds => absurd final (by simp [upcoming_not_final holds.1])
  have entered : status ≠ .checkedIn := by
    rintro rfl
    cases final
  cases moves with
  | stays stage =>
    cases stage with
    | expected => exact absurd before expected
    | turnedAway other => exact after.1.trans before.1.symm
    | inside id => exact after.1.trans before.1.symm
    | leaving id => exact after.1.trans before.1.symm
    | gone id => exact after.1.trans before.1.symm
  | turnsAway other => exact absurd before expected
  | enters id => exact absurd before expected
  | leaves closes => exact absurd before.1 entered
  | goes id => exact absurd before.1 entered

theorem Moves.entered (moves : Moves closes stage other) (entered : stage = .inside id ∨ stage = .leaving id ∨ stage = .gone id) :
    other = .inside id ∨ other = .leaving id ∨ other = .gone id := by
  cases moves <;> simp_all

theorem Moves.left (moves : Moves closes stage other) (left : stage = .leaving id ∨ stage = .gone id) :
    other = .leaving id ∨ other = .gone id := by
  cases moves <;> simp_all

end

def Lawful (db : VisitorDb) (visitor : Visitor) : Prop :=
  (db.checkInsOf visitor.id).length ≤ 1 ∧
    (visitor.status = .checkedIn ↔ ((db.checkInsOf visitor.id).filter fun row => row.checkOutAt.isNone).length = 1)

theorem Stage.Holds.lawful {db : VisitorDb} {visitor : Visitor} {stage : Stage}
    (holds : stage.Holds visitor.status (db.checkInsOf visitor.id)) (stays : ∀ id, stage ≠ .leaving id) :
    Lawful db visitor := by
  unfold Lawful
  cases stage with
  | expected =>
    obtain ⟨upcoming, none⟩ := holds
    rw [none]
    refine ⟨Nat.zero_le _, fun entered => ?_, fun open? => absurd open? (by simp)⟩
    rw [entered] at upcoming
    exact absurd upcoming (by decide)
  | turnedAway final =>
    obtain ⟨rfl, listed, none⟩ := holds
    rw [none]
    refine ⟨Nat.zero_le _, fun entered => ?_, fun open? => absurd open? (by simp)⟩
    rw [entered] at listed
    exact absurd listed (by decide)
  | inside id =>
    obtain ⟨entered, row, records, _, opened⟩ := holds
    simp [records, entered, opened]
  | leaving id => exact absurd rfl (stays id)
  | gone id =>
    obtain ⟨status, row, records, _, closed⟩ := holds
    simp [records, status, closed]

def Decision.status : Decision → Option VisitorStatus
  | approve _ _ _ | approveOvernight _ _ _ _ => some .approved
  | reject => some .rejected
  | cancel _ => some .cancelled
  | expire => some .expired
  | checkOut => some .checkedOut
  | passFields _ => none

def Ending.status : Ending → Option VisitorStatus
  | update decision => decision.status
  | expire _ => some .expired
  | letIn _ _ _ => some .checkedIn

def Ending.admits : Ending → Bool
  | letIn _ _ _ => true
  | _ => false

def Ending.change (env : VisitorEnv) : Ending → Visitor → Visitor
  | update decision => decision.apply env
  | expire _ => Visitor.expire
  | letIn guardId now approves => Visitor.enter guardId now approves

section

variable {env : VisitorEnv} {db after : VisitorDb} {ending : Ending} {visitor : Visitor} {visitorId : Id}

@[simp] theorem Ending.change_id : (ending.change env visitor).id = visitor.id := by
  cases ending with
  | update decision => cases decision <;> rfl
  | expire message => rfl
  | letIn guardId now approves => rfl

theorem Ending.change_status : (ending.change env visitor).status = ending.status.getD visitor.status := by
  cases ending with
  | update decision => cases decision <;> rfl
  | expire message => rfl
  | letIn guardId now approves => rfl

theorem mem_of_require {found : Visitor} (required : requireVisitor db visitorId = .ok found) :
    found ∈ db.visitors ∧ found.id = visitorId :=
  mem_of_findBy (orThrow_eq_ok.mp required)

theorem Ending.commit_ok (commits : ending.commit env db visitorId = .ok after) :
    (∃ visitor ∈ db.visitors, visitor.id = visitorId) ∧
      (ending.admits = false ∧ after = db.updateVisitor visitorId (ending.change env) ∨
        ∃ guardId now approves, ending = .letIn guardId now approves ∧
          after = (db.updateVisitor visitorId (ending.change env)).recordCheckIn visitorId guardId now) := by
  cases ending with
  | update decision =>
    simp only [Ending.commit, bind_eq_ok, pure_eq_ok] at commits
    obtain ⟨visitor, found, _, _, rfl⟩ := commits
    exact ⟨⟨visitor, mem_of_require found⟩, .inl ⟨rfl, rfl⟩⟩
  | expire message =>
    simp only [Ending.commit, bind_eq_ok, pure_eq_ok] at commits
    obtain ⟨visitor, found, rfl⟩ := commits
    exact ⟨⟨visitor, mem_of_require found⟩, .inl ⟨rfl, rfl⟩⟩
  | letIn guardId now approves =>
    simp only [Ending.commit, bind_eq_ok, pure_eq_ok] at commits
    obtain ⟨visitor, found, rfl⟩ := commits
    exact ⟨⟨visitor, mem_of_require found⟩, .inr ⟨guardId, now, approves, rfl, rfl⟩⟩

end

/-! ## Progress of all visits -/

def Stands (db : VisitorDb) (visitor : Visitor) (stage : Stage) : Prop :=
  stage.Holds visitor.status (db.checkInsOf visitor.id)

structure Progress (closes : Id → Prop) (db after : VisitorDb) : Prop where
  follows : ∀ visitor ∈ db.visitors, ∃ later ∈ after.visitors, later.id = visitor.id ∧
    ∀ stage, Stands db visitor stage → ∃ next, Stands after later next ∧ Moves closes stage next
  fresh : ∀ later ∈ after.visitors, (∃ visitor ∈ db.visitors, visitor.id = later.id) ∨
    ∃ stage, Stands after later stage ∧ ∀ id, stage ≠ .leaving id

section

variable {db after : VisitorDb} {closes : Id → Prop} {found new : Visitor} {change : Visitor → Visitor}
  {guardId : Id} {now : Instant}

theorem Stands.kept {visitor : Visitor} {stage : Stage} (stands : Stands db visitor stage)
    (records : after.checkInsOf visitor.id = db.checkInsOf visitor.id) : Stands after visitor stage := by
  unfold Stands
  rw [records]
  exact stands

theorem progress_update (distinct : (db.visitors.map Visitor.id).Nodup) (mem : found ∈ db.visitors)
    (kept : ∀ visitor, (change visitor).id = visitor.id)
    (visitors : after.visitors = updateBy Visitor.id found.id change db.visitors)
    (others : ∀ visitor ∈ db.visitors, visitor.id ≠ found.id → after.checkInsOf visitor.id = db.checkInsOf visitor.id)
    (moves : ∀ stage, Stands db found stage → ∃ next, Stands after (change found) next ∧ Moves closes stage next) :
    Progress closes db after where
  follows visitor listed := by
    refine ⟨_, visitors ▸ mem_updateBy.mpr ⟨visitor, listed, rfl⟩, ?_⟩
    by_cases same : visitor.id = found.id
    · obtain rfl := eq_of_key_eq distinct listed mem same
      rw [if_pos rfl]
      exact ⟨kept _, moves⟩
    · rw [if_neg same]
      exact ⟨rfl, fun stage stands => ⟨stage, stands.kept (others visitor listed same), .stays stage⟩⟩
  fresh later listed := by
    rw [visitors] at listed
    obtain ⟨visitor, here, rfl⟩ := mem_updateBy.mp listed
    refine .inl ⟨visitor, here, ?_⟩
    split
    · exact (kept visitor).symm
    · rfl

theorem progress_expire {chosen : Visitor → Bool}
    (upcoming : ∀ visitor ∈ db.visitors, chosen visitor = true → visitor.status.upcoming = true)
    (visitors : after.visitors = updateWhere chosen Visitor.expire db.visitors) (checkIns : after.checkIns = db.checkIns) :
    Progress closes db after where
  follows visitor listed := by
    have records : ∀ id, after.checkInsOf id = db.checkInsOf id := fun id => by unfold VisitorDb.checkInsOf; rw [checkIns]
    refine ⟨_, visitors ▸ mem_updateWhere.mpr ⟨visitor, listed, rfl⟩, ?_⟩
    by_cases picked : chosen visitor = true
    · rw [if_pos picked]
      refine ⟨rfl, fun stage stands => ?_⟩
      have expected : stage = .expected := by
        cases stage <;> unfold Stands Stage.Holds at stands <;> grind [VisitorStatus.upcoming]
      subst expected
      exact ⟨.turnedAway .expired, ⟨rfl, by decide, (records _).trans stands.2⟩, .turnsAway _⟩
    · rw [if_neg picked]
      exact ⟨rfl, fun stage stands => ⟨stage, stands.kept (records _), .stays stage⟩⟩
  fresh later listed := by
    rw [visitors] at listed
    obtain ⟨visitor, here, rfl⟩ := mem_updateWhere.mp listed
    refine .inl ⟨visitor, here, ?_⟩
    split <;> rfl

theorem progress_insert (visitors : after.visitors = db.visitors ++ [new])
    (others : ∀ visitor ∈ db.visitors, after.checkInsOf visitor.id = db.checkInsOf visitor.id)
    (begins : ∃ stage, Stands after new stage ∧ ∀ id, stage ≠ .leaving id) : Progress closes db after where
  follows visitor listed := by
    refine ⟨visitor, visitors ▸ mem_append_left _ listed, rfl, fun stage stands => ?_⟩
    exact ⟨stage, stands.kept (others visitor listed), .stays stage⟩
  fresh later listed := by
    rw [visitors] at listed
    rcases mem_append.mp listed with old | added
    · exact .inl ⟨later, old, rfl⟩
    · obtain rfl := mem_singleton.mp added
      exact .inr begins

theorem progress_rfl : Progress closes db db where
  follows visitor listed := ⟨visitor, listed, rfl, fun stage stands => ⟨stage, stands, .stays stage⟩⟩
  fresh later listed := .inl ⟨later, listed, rfl⟩

theorem checkInsOf_record {visitorId id : Id} : (db.recordCheckIn visitorId guardId now).checkInsOf id =
    db.checkInsOf id ++ if visitorId = id then [⟨db.nextId, visitorId, now, guardId, none, none⟩] else [] := by
  unfold VisitorDb.checkInsOf VisitorDb.recordCheckIn
  by_cases same : visitorId = id
  · simp [same]
  · simp [same]

end

/-! ## Calls in flight -/

def Entered (db : VisitorDb) (visit : Closing) : Prop :=
  ∃ visitor ∈ db.visitors, visitor.id = visit.visitorId ∧ ∃ stage, Stands db visitor stage ∧
    (stage = .inside visit.checkInId ∨ stage = .leaving visit.checkInId ∨ stage = .gone visit.checkInId)

def Left (db : VisitorDb) (visit : Closing) : Prop :=
  ∃ visitor ∈ db.visitors, visitor.id = visit.visitorId ∧ ∃ stage, Stands db visitor stage ∧
    (stage = .leaving visit.checkInId ∨ stage = .gone visit.checkInId)

def Fits (db : VisitorDb) : InFlight → Prop
  | .ending _ ending => ending.status ≠ some .checkedOut
  | .registering draft _ | .staying draft _ _ _ | .counting draft _ _ _ _ _ | .walkingIn _ (.waits draft) =>
      draft.status.upcoming = true
  | .walkingIn _ (.enters draft) => draft.status = .checkedIn
  | .leaving visitorId _ => ∃ visitor ∈ db.visitors, visitor.id = visitorId
  | .closing visit rest => ∀ next ∈ visit :: rest, Entered db next
  | .closed visit rest => Left db visit ∧ ∀ next ∈ rest, Entered db next

section

variable {db after : VisitorDb} {closes : Id → Prop} {visit : Closing} {call : InFlight}

theorem Entered.mono (entered : Entered db visit) (progress : Progress closes db after) : Entered after visit := by
  obtain ⟨visitor, mem, same, stage, stands, inside⟩ := entered
  obtain ⟨later, listed, id, follows⟩ := progress.follows visitor mem
  obtain ⟨next, holds, moves⟩ := follows stage stands
  exact ⟨later, listed, id.trans same, next, holds, moves.entered inside⟩

theorem Left.mono (left : Left db visit) (progress : Progress closes db after) : Left after visit := by
  obtain ⟨visitor, mem, same, stage, stands, gone⟩ := left
  obtain ⟨later, listed, id, follows⟩ := progress.follows visitor mem
  obtain ⟨next, holds, moves⟩ := follows stage stands
  exact ⟨later, listed, id.trans same, next, holds, moves.left gone⟩

theorem Fits.mono (fits : Fits db call) (progress : Progress closes db after) : Fits after call := by
  cases call with
  | ending visitorId ending => exact fits
  | registering draft accessCode => exact fits
  | staying draft accessCode checkedAt settings => exact fits
  | counting draft accessCode checkedAt settings snapshot since => exact fits
  | walkingIn guardId walkIn => cases walkIn <;> exact fits
  | leaving visitorId guardId =>
    obtain ⟨visitor, mem, same⟩ := fits
    obtain ⟨later, listed, id, -⟩ := progress.follows visitor mem
    exact ⟨later, listed, id.trans same⟩
  | closing visit rest => exact fun visit mem => (fits visit mem).mono progress
  | closed visit rest => exact ⟨fits.1.mono progress, fun visit mem => (fits.2 visit mem).mono progress⟩

end

def CheckingOut (calls : List InFlight) (visitorId : Id) : Prop :=
  ∃ visit rest, .closed visit rest ∈ calls ∧ visit.visitorId = visitorId

structure Ids (db : VisitorDb) : Prop where
  visitors : Allocated (db.visitors.map Visitor.id) db.nextId
  checkIns : Allocated (db.checkIns.map VisitorCheckIn.id) db.nextId
  known : ∀ row ∈ db.checkIns, row.visitorId < db.nextId

structure Sound (state : VisitorState) : Prop where
  ids : Ids state.db
  staged : ∀ visitor ∈ state.db.visitors, ∃ stage, Stands state.db visitor stage ∧
    ∀ id, stage = .leaving id → CheckingOut state.calls visitor.id
  fits : ∀ call ∈ state.calls, Fits state.db call

def OnTime (before : VisitorState) : VisitorEvent → Prop
  | .proceed _ (.ending visitorId ending) => ∀ visitor ∈ before.db.visitors, visitor.id = visitorId →
      visitor.status.upcoming = true ∨ ending.status = none ∨
        ending.admits = false ∧ ending.status = some visitor.status
  | _ => True

section

variable {db after : VisitorDb} {calls rest : List InFlight} {closes : Id → Prop}

theorem Sound.of_progress (sound : Sound ⟨db, calls⟩) (ids : Ids after) (progress : Progress closes db after)
    (checkingOut : ∀ visitor ∈ after.visitors, ∀ id, Stands after visitor (.leaving id) →
      closes id ∨ CheckingOut calls visitor.id → CheckingOut rest visitor.id)
    (fits : ∀ call ∈ rest, call ∈ calls ∨ Fits after call) : Sound ⟨after, rest⟩ where
  ids := ids
  staged later listed := by
    rcases progress.fresh later listed with ⟨visitor, mem, same⟩ | ⟨stage, stands, stays⟩
    · obtain ⟨other, found, id, follows⟩ := progress.follows visitor mem
      obtain rfl := eq_of_key_eq ids.visitors.distinct listed found (same.symm.trans id.symm)
      obtain ⟨stage, stands, out⟩ := sound.staged visitor mem
      obtain ⟨next, holds, moves⟩ := follows stage stands
      refine ⟨next, holds, ?_⟩
      rintro checkInId rfl
      refine checkingOut later listed checkInId holds ?_
      cases moves with
      | stays => exact .inr (same ▸ out checkInId rfl)
      | leaves closing => exact .inl closing
    · exact ⟨stage, stands, fun id leaving => absurd leaving (stays id)⟩
  fits call mem := by
    rcases fits call mem with earlier | new
    · exact (sound.fits call earlier).mono progress
    · exact new

end

/-! ## What a call has checked when it begins -/

section

variable {env : VisitorEnv} {now : Instant} {db : VisitorDb} {visitorId : Id} {more : List InFlight}

theorem checked_fits {checks : Visitor → Result Ending}
    (safe : ∀ visitor ending, checks visitor = .ok ending → ending.status ≠ some .checkedOut)
    (begins : checked db visitorId checks = .ok more) : ∀ call ∈ more, Fits db call := by
  simp only [checked, bind_eq_ok, pure_eq_ok] at begins
  obtain ⟨visitor, _, ending, checks, rfl⟩ := begins
  intro call mem
  obtain rfl := mem_singleton.mp mem
  exact safe visitor ending checks

theorem atGate_eq_ok {guard : GateUser} {checks : Id → Visitor → Result Ending} {visitor : Visitor} {ending : Ending}
    (passes : atGate guard checks visitor = .ok ending) : ∃ condoId, guard.activeCondoId = some condoId ∧
      isGateOperator guard.toAuthenticatedUser = true ∧ checks condoId visitor = .ok ending := by
  simp only [atGate, assertGateOperator, guardCondoId, bind_eq_ok, throwIf_eq_ok, orThrow_eq_ok, not_not] at passes
  obtain ⟨_, operator, condoId, active, passes⟩ := passes
  exact ⟨condoId, active, operator, passes⟩

theorem entered_of_open {visitor : Visitor} {stage : Stage} {record : VisitorCheckIn} (mem : visitor ∈ db.visitors)
    (stands : Stands db visitor stage) (last : lastCheckIn db visitor.id = some record) (closing : Closing)
    (same : closing.visitorId = visitor.id) (its : closing.checkInId = record.id) : Entered db closing := by
  have here : record ∈ db.checkInsOf visitor.id := (mem_filter.mp (latestBy_mem _ last)).1
  refine ⟨visitor, mem, same.symm, stage, stands, ?_⟩
  cases stage with
  | expected => exact absurd here (by simp [stands.2])
  | turnedAway final => exact absurd here (by simp [stands.2.2])
  | inside id =>
    obtain ⟨_, row, records, rfl, _⟩ := stands
    obtain rfl : record = row := by simpa [records] using here
    exact .inl (its ▸ rfl)
  | leaving id =>
    obtain ⟨_, row, records, rfl, _⟩ := stands
    obtain rfl : record = row := by simpa [records] using here
    exact .inr (.inl (its ▸ rfl))
  | gone id =>
    obtain ⟨_, row, records, rfl, _⟩ := stands
    obtain rfl : record = row := by simpa [records] using here
    exact .inr (.inr (its ▸ rfl))

theorem WalkIn.Sound.fits {walkIn : WalkIn} {guardId : Id} (sound : walkIn.Sound) : Fits db (.walkingIn guardId walkIn) := by
  cases walkIn with
  | waits draft =>
    show draft.status.upcoming = true
    rw [sound.1]
    rfl
  | enters draft => exact sound.1

theorem nextClosing_fits {visits : List Closing} (entered : ∀ visit ∈ visits, Entered db visit) :
    ∀ call ∈ nextClosing visits, Fits db call := by
  cases visits with
  | nil => exact fun _ mem => nomatch mem
  | cons visit rest =>
    intro call mem
    obtain rfl := mem_singleton.mp mem
    exact entered

theorem begin_fits {request : VisitorRequest} (staged : ∀ visitor ∈ db.visitors, ∃ stage, Stands db visitor stage)
    (begins : request.begin env now db = .ok more) : ∀ call ∈ more, Fits db call := by
  have one : ∀ {call}, Fits db call → ∀ other ∈ [call], Fits db other := by
    intro call fits other mem
    exact mem_singleton.mp mem ▸ fits
  cases request with
  | create user dto accessCode =>
    simp only [VisitorRequest.begin, bind_eq_ok] at begins
    obtain ⟨draft, drafted, begins⟩ := begins
    have upcoming := (createDraft_ok drafted).upcoming
    split at begins
    · exact pure_eq_ok.mp begins ▸ one upcoming
    · exact pure_eq_ok.mp begins ▸ one upcoming
  | createDeliveryPass user dto accessCode =>
    simp only [VisitorRequest.begin, bind_eq_ok, pure_eq_ok] at begins
    obtain ⟨draft, drafted, rfl⟩ := begins
    refine one (show draft.status.upcoming = true from ?_)
    rw [(deliveryDraft_ok drafted).1]
    rfl
  | createWalkInUnit guard dto =>
    simp only [VisitorRequest.begin, bind_eq_ok, pure_eq_ok] at begins
    obtain ⟨walkIn, drafted, rfl⟩ := begins
    exact one (walkInUnit_ok drafted).fits
  | createWalkInOffice guard dto =>
    simp only [VisitorRequest.begin, bind_eq_ok, pure_eq_ok] at begins
    obtain ⟨walkIn, drafted, rfl⟩ := begins
    exact one (walkInOffice_ok drafted).fits
  | recurringCheckIn guard pass =>
    simp only [VisitorRequest.begin, bind_eq_ok, pure_eq_ok] at begins
    obtain ⟨draft, drafted, rfl⟩ := begins
    exact one (recurringDraft_ok drafted).1
  | approve visitorId user =>
    refine checked_fits (fun visitor ending checks => ?_) begins
    obtain ⟨-, rfl⟩ := approveChecks_eq_ok.mp checks
    split <;> simp [Ending.status, Decision.status]
  | approveOvernight visitorId user accessCode =>
    refine checked_fits (fun visitor ending checks => ?_) begins
    obtain ⟨-, -, -, rfl⟩ := approveOvernightChecks_eq_ok.mp checks
    simp [Ending.status, Decision.status]
  | reject visitorId user =>
    refine checked_fits (fun visitor ending checks => ?_) begins
    obtain ⟨-, rfl⟩ := rejectChecks_eq_ok.mp checks
    simp [Ending.status, Decision.status]
  | cancel visitorId user =>
    refine checked_fits (fun visitor ending checks => ?_) begins
    obtain ⟨-, -, rfl⟩ := cancelChecks_eq_ok.mp checks
    simp [Ending.status, Decision.status]
  | approveWalkInByGuard visitorId guard =>
    refine checked_fits (fun visitor ending checks => ?_) begins
    obtain ⟨condoId, -, -, passes⟩ := atGate_eq_ok checks
    obtain ⟨-, -, rfl⟩ := approveWalkInChecks_eq_ok.mp passes
    simp [Ending.status]
  | acknowledgeWalkIn visitorId guard =>
    refine checked_fits (fun visitor ending checks => ?_) begins
    obtain ⟨condoId, -, -, passes⟩ := atGate_eq_ok checks
    obtain ⟨-, -, rfl⟩ := acknowledgeChecks_eq_ok.mp passes
    split <;> simp [Ending.status]
  | checkIn found guard =>
    refine checked_fits (fun visitor ending checks => ?_) begins
    obtain ⟨condoId, -, -, passes⟩ := atGate_eq_ok checks
    obtain ⟨same, -, passes⟩ := bind_eq_ok.mp passes
    obtain ⟨-, -, rfl⟩ := checkInChecks_eq_ok.mp passes
    split <;> simp [Ending.status]
  | checkOut found guard =>
    simp only [VisitorRequest.begin, bind_eq_ok, pure_eq_ok, orThrow_eq_ok] at begins
    obtain ⟨_, _, _, _, visitor, read, same, enriched, _, _, rfl⟩ := begins
    obtain ⟨-, -, -, rfl⟩ := enrichVerifyResult_eq_ok.mp enriched
    exact one ⟨visitor, (mem_of_findBy read).1, rfl⟩
  | autoClose condoId =>
    cases begins
    refine nextClosing_fits fun visit listed => ?_
    unfold autoClosings at listed
    simp only [mem_filterMap, Option.bind_eq_some_iff, Option.map_eq_some_iff] at listed
    obtain ⟨visitor, chosen, record, last, closeAt, -, rfl⟩ := listed
    have mem := (mem_filter.mp chosen).1
    obtain ⟨stage, stands⟩ := staged visitor mem
    exact entered_of_open mem stands last _ rfl rfl

end

/-! ## The steps of a call -/

section

variable {env : VisitorEnv} {db after : VisitorDb} {closes : Id → Prop} {found row : Visitor} {ending : Ending}
  {now : Instant} {draft : Visitor}

theorem checkInsOf_unknown (ids : Ids db) {id : Id} (fresh : db.nextId ≤ id) : db.checkInsOf id = [] := by
  refine filter_eq_nil_iff.mpr fun record mem => ?_
  have known := ids.known record mem
  have ne : record.visitorId ≠ id := fun same => absurd (same ▸ known) (Nat.not_lt.mpr fresh)
  simpa using ne

theorem Stands.ended {stage : Stage} (stands : Stands db found stage) (keeps : ending.admits = false)
    (fits : ending.status ≠ some .checkedOut) (onTime : found.status.upcoming = true ∨ ending.status = none ∨
      ending.admits = false ∧ ending.status = some found.status) :
    ∃ next, next.Holds (ending.change env found).status (db.checkInsOf found.id) ∧ Moves closes stage next := by
  by_cases same : (ending.change env found).status = found.status
  · exact ⟨stage, same ▸ stands, .stays stage⟩
  have change : (ending.change env found).status = ending.status.getD found.status := Ending.change_status
  rcases onTime with upcoming | none | ⟨-, own⟩
  · have expected : stage = .expected := by
      cases stage <;> unfold Stands Stage.Holds at stands <;> grind [VisitorStatus.upcoming]
    subst expected
    cases ending with
    | letIn guardId now approves => cases keeps
    | expire message => exact ⟨.turnedAway .expired, ⟨rfl, by decide, stands.2⟩, .turnsAway _⟩
    | update decision =>
      cases decision with
      | approve userId now expiresAt => exact ⟨.expected, ⟨rfl, stands.2⟩, .stays _⟩
      | approveOvernight userId now expiresAt accessCode => exact ⟨.expected, ⟨rfl, stands.2⟩, .stays _⟩
      | reject => exact ⟨.turnedAway .rejected, ⟨rfl, by decide, stands.2⟩, .turnsAway _⟩
      | cancel now => exact ⟨.turnedAway .cancelled, ⟨rfl, by decide, stands.2⟩, .turnsAway _⟩
      | expire => exact ⟨.turnedAway .expired, ⟨rfl, by decide, stands.2⟩, .turnsAway _⟩
      | checkOut => exact absurd rfl fits
      | passFields accessCode => exact absurd rfl same
  · exact absurd (by rw [change, none]; rfl) same
  · exact absurd (by rw [change, own]; rfl) same

theorem progress_ending (ids : Ids db) {visitorId : Id} (fits : ending.status ≠ some .checkedOut)
    (onTime : ∀ visitor ∈ db.visitors, visitor.id = visitorId → visitor.status.upcoming = true ∨
      ending.status = none ∨ ending.admits = false ∧ ending.status = some visitor.status)
    (commits : ending.commit env db visitorId = .ok after) : Ids after ∧ Progress closes db after := by
  obtain ⟨⟨found, mem, rfl⟩, ⟨keeps, rfl⟩ | ⟨guardId, now, approves, rfl, rfl⟩⟩ := Ending.commit_ok commits
  · refine ⟨⟨ids.visitors.updateBy le_rfl fun _ => Ending.change_id, ids.checkIns, ids.known⟩, ?_⟩
    refine progress_update ids.visitors.distinct mem (fun _ => Ending.change_id) rfl (fun _ _ _ => rfl) ?_
    intro stage stands
    obtain ⟨next, holds, moves⟩ := stands.ended keeps fits (onTime found mem rfl)
    refine ⟨next, ?_, moves⟩
    unfold Stands
    rw [Ending.change_id]
    exact holds
  · have below := ids.visitors.below found.id (mem_map_of_mem mem)
    refine ⟨⟨ids.visitors.updateBy (Nat.le_succ _) fun _ => rfl, ids.checkIns.insert rfl (Nat.lt_succ_self _), ?_⟩, ?_⟩
    · intro record listed
      rcases mem_append.mp listed with old | new
      · exact (ids.known record old).trans (Nat.lt_succ_self _)
      · obtain rfl := mem_singleton.mp new
        exact below.trans (Nat.lt_succ_self _)
    · refine progress_update ids.visitors.distinct mem (fun _ => Ending.change_id) rfl (fun visitor _ other => ?_) ?_
      · rw [checkInsOf_record, if_neg (Ne.symm other), append_nil]
        rfl
      · intro stage stands
        have upcoming : found.status.upcoming = true := by
          rcases onTime found mem rfl with upcoming | none | ⟨admits, -⟩
          · exact upcoming
          · cases none
          · cases admits
        have expected : stage = .expected := by
          cases stage <;> unfold Stands Stage.Holds at stands <;> grind [VisitorStatus.upcoming]
        subst expected
        refine ⟨.inside db.nextId, ⟨rfl, ⟨db.nextId, found.id, now, guardId, none, none⟩, ?_, rfl, rfl⟩, .enters _⟩
        show (VisitorDb.recordCheckIn _ found.id guardId now).checkInsOf found.id = _
        rw [checkInsOf_record, if_pos rfl]
        show db.checkInsOf found.id ++ _ = _
        rw [stands.2]
        rfl

theorem progress_added (ids : Ids db) (new : RowOf draft db.nextId now row) (upcoming : draft.status.upcoming = true) :
    Ids (db.withVisitor row) ∧ Progress closes db (db.withVisitor row) := by
  refine ⟨⟨ids.visitors.insert new.id (Nat.lt_succ_self _), ids.checkIns.mono (Nat.le_succ _), fun record mem =>
    (ids.known record mem).trans (Nat.lt_succ_self _)⟩, progress_insert rfl (fun _ _ => rfl) ?_⟩
  refine ⟨.expected, ⟨new.status ▸ upcoming, ?_⟩, fun id stage => by cases stage⟩
  rw [new.id]
  exact checkInsOf_unknown ids le_rfl

theorem progress_entered (ids : Ids db) (guardId : Id) (new : RowOf draft db.nextId now row)
    (entered : draft.status = .checkedIn) : Ids ((db.withVisitor row).recordCheckIn db.nextId guardId now) ∧
      Progress closes db ((db.withVisitor row).recordCheckIn db.nextId guardId now) := by
  have old : ∀ id, (db.withVisitor row).checkInsOf id = db.checkInsOf id := fun _ => rfl
  refine ⟨⟨?_, ?_, ?_⟩, progress_insert rfl (fun visitor mem => ?_) ?_⟩
  · exact (ids.visitors.insert new.id (Nat.lt_succ_self _)).mono (Nat.le_succ _)
  · exact (ids.checkIns.mono (Nat.le_succ _)).insert rfl (Nat.lt_succ_self _)
  · intro record listed
    rcases mem_append.mp listed with earlier | added
    · exact (ids.known record earlier).trans (by show _ < db.nextId + 1 + 1; omega)
    · obtain rfl := mem_singleton.mp added
      show db.nextId < db.nextId + 1 + 1
      omega
  · have ne : db.nextId ≠ visitor.id := fun same => ids.visitors.fresh (same ▸ mem_map_of_mem mem)
    rw [checkInsOf_record, if_neg ne, append_nil, old]
  · refine ⟨.inside (db.nextId + 1), ⟨new.status.trans entered, ⟨db.nextId + 1, db.nextId, now, guardId, none, none⟩, ?_, rfl, rfl⟩,
      fun id stage => by cases stage⟩
    rw [checkInsOf_record, new.id, if_pos rfl, old, checkInsOf_unknown ids le_rfl]
    rfl

/-! ### Leaving -/

variable {visit : Closing}

theorem Stands.record {visitor : Visitor} {stage : Stage} {id : Id} (stands : Stands db visitor stage)
    (entered : stage = .inside id ∨ stage = .leaving id ∨ stage = .gone id) :
    ∃ row ∈ db.checkIns, row.visitorId = visitor.id ∧ row.id = id ∧ db.checkInsOf visitor.id = [row] := by
  have single : ∃ row, db.checkInsOf visitor.id = [row] ∧ row.id = id := by
    rcases entered with rfl | rfl | rfl
    · exact ⟨_, stands.2.choose_spec.1, stands.2.choose_spec.2.1⟩
    · exact ⟨_, stands.2.choose_spec.1, stands.2.choose_spec.2.1⟩
    · exact ⟨_, stands.2.choose_spec.1, stands.2.choose_spec.2.1⟩
  obtain ⟨row, own, same⟩ := single
  have listed : row ∈ db.checkInsOf visitor.id := own ▸ mem_singleton_self row
  obtain ⟨here, owner⟩ := mem_filter.mp listed
  exact ⟨row, here, of_decide_eq_true owner, same, own⟩

theorem same_visitor (ids : Ids db) {first second : Visitor} {stage other : Stage} {id : Id}
    (stands : Stands db first stage) (also : Stands db second other)
    (entered : stage = .inside id ∨ stage = .leaving id ∨ stage = .gone id)
    (too : other = .inside id ∨ other = .leaving id ∨ other = .gone id) : first.id = second.id := by
  obtain ⟨row, here, owner, same, -⟩ := stands.record entered
  obtain ⟨copy, there, holder, equal, -⟩ := also.record too
  obtain rfl := eq_of_key_eq ids.checkIns.distinct here there (same.trans equal.symm)
  exact owner.symm.trans holder

theorem checkInsOf_close {id : Id} (closed : after.checkIns = updateBy VisitorCheckIn.id visit.checkInId visit.close db.checkIns) :
    after.checkInsOf id = updateBy VisitorCheckIn.id visit.checkInId visit.close (db.checkInsOf id) := by
  unfold VisitorDb.checkInsOf
  rw [closed]
  simp only [updateBy, updateWhere, filter_map]
  congr 1
  refine filter_congr fun record _ => ?_
  simp only [Function.comp_apply]
  split <;> rfl

theorem progress_close (ids : Ids db) (entered : Entered db visit) (closed : visit.closeRecord db = .ok after) :
    Ids after ∧ Progress (fun id => id = visit.checkInId) db after ∧ Left after visit := by
  simp only [Closing.closeRecord, bind_eq_ok, pure_eq_ok] at closed
  obtain ⟨_, _, rfl⟩ := closed
  obtain ⟨visitor, mem, its, stage, stands, inside⟩ := entered
  have records : ∀ id, VisitorDb.checkInsOf { db with
      checkIns := updateBy VisitorCheckIn.id visit.checkInId visit.close db.checkIns } id =
        updateBy VisitorCheckIn.id visit.checkInId visit.close (db.checkInsOf id) := fun id => checkInsOf_close rfl
  obtain ⟨row, held, holder, same, own⟩ := stands.record inside
  have after : ∀ {id}, updateBy VisitorCheckIn.id visit.checkInId visit.close (db.checkInsOf visitor.id) = id →
      [visit.close row] = id := by
    rw [own]
    simp [updateBy, updateWhere, same]
  have moved : ∀ stage, Stands db visitor stage → ∃ next, next.Holds visitor.status [visit.close row] ∧
      Moves (fun id => id = visit.checkInId) stage next ∧
        (next = .leaving visit.checkInId ∨ next = .gone visit.checkInId) := by
    intro other holds
    obtain rfl := stands.unique holds
    rcases inside with rfl | rfl | rfl
    · exact ⟨.leaving visit.checkInId, ⟨stands.1, _, rfl, same, by simp [Closing.close]⟩, .leaves rfl, .inl rfl⟩
    · exact ⟨.leaving visit.checkInId, ⟨stands.1, _, rfl, same, by simp [Closing.close]⟩, .stays _, .inl rfl⟩
    · exact ⟨.gone visit.checkInId, ⟨stands.1, _, rfl, same, by simp [Closing.close]⟩, .stays _, .inr rfl⟩
  refine ⟨⟨ids.visitors, ids.checkIns.updateBy le_rfl fun _ => rfl, fun record listed => ?_⟩, ⟨?_, ?_⟩, ?_⟩
  · obtain ⟨old, here, rfl⟩ := mem_updateBy.mp listed
    have known := ids.known old here
    split
    · exact known
    · exact known
  · intro other listed
    refine ⟨other, listed, rfl, fun stage holds => ?_⟩
    by_cases here : other.id = visitor.id
    · obtain rfl := eq_of_key_eq ids.visitors.distinct listed mem here
      obtain ⟨next, later, moves, -⟩ := moved stage holds
      refine ⟨next, ?_, moves⟩
      unfold Stands
      rw [records, ← after rfl]
      exact later
    · refine ⟨stage, holds.kept ?_, .stays stage⟩
      rw [records]
      refine updateWhere_none fun record mine => ?_
      obtain ⟨listed, owner⟩ := mem_filter.mp mine
      have ne : record.id ≠ visit.checkInId := fun taken => by
        obtain rfl := eq_of_key_eq ids.checkIns.distinct listed held (taken.trans same.symm)
        exact here ((of_decide_eq_true owner).symm.trans holder)
      simpa using ne
  · exact fun later listed => .inl ⟨later, listed, rfl⟩
  · obtain ⟨next, later, -, gone⟩ := moved stage stands
    refine ⟨visitor, mem, its, next, ?_, gone⟩
    unfold Stands
    rw [records, ← after rfl]
    exact later

theorem progress_checkOut (ids : Ids db) (left : Left db visit)
    (commits : (Ending.update .checkOut).commit env db visit.visitorId = .ok after) :
    Ids after ∧ Progress (fun _ => False) db after ∧
      ∀ visitor ∈ after.visitors, ∀ id, Stands after visitor (.leaving id) → visitor.id ≠ visit.visitorId := by
  obtain ⟨-, ⟨-, rfl⟩ | ⟨_, _, _, admits, -⟩⟩ := Ending.commit_ok commits
  · obtain ⟨visitor, mem, its, stage, stands, gone⟩ := left
    rw [← its]
    refine ⟨⟨ids.visitors.updateBy le_rfl fun _ => Ending.change_id, ids.checkIns, ids.known⟩, ?_, ?_⟩
    · refine progress_update ids.visitors.distinct mem (fun _ => Ending.change_id) rfl (fun _ _ _ => rfl) ?_
      intro other holds
      obtain rfl := stands.unique holds
      refine ⟨.gone visit.checkInId, ?_, ?_⟩
      · rcases gone with rfl | rfl
        · exact ⟨rfl, stands.2⟩
        · exact ⟨rfl, stands.2⟩
      · rcases gone with rfl | rfl
        · exact .goes _
        · exact .stays _
    · intro other listed id leaving same
      have out : other.status = .checkedOut := by
        obtain ⟨old, here, rfl⟩ := mem_updateBy.mp listed
        by_cases own : old.id = visitor.id
        · rw [if_pos own]
          rfl
        · rw [if_neg own] at same
          exact absurd same own
      exact nomatch out.symm.trans leaving.1
  · cases admits

end

/-! ## Runs -/

section

variable {env : VisitorEnv} {db after : VisitorDb} {front back rest : List InFlight} {call : InFlight} {now : Instant}

theorem Sound.proceed (sound : Sound ⟨db, front ++ call :: back⟩)
    (onTime : OnTime ⟨db, front ++ call :: back⟩ (.proceed now call)) (proceeds : call.proceed env now db = .ok (after, rest)) :
    Sound ⟨after, front ++ rest ++ back⟩ ∧ ∃ closes, Progress closes db after := by
  have ids := sound.ids
  have fits : Fits db call := sound.fits call (by simp)
  have others : ∀ other ∈ front ++ rest ++ back, other ∈ front ++ call :: back ∨ other ∈ rest := by
    intro other mem
    simp only [mem_append] at mem ⊢
    tauto
  -- A visit whose record was closed earlier is still being checked out, by another call than this one.
  have waits : (∀ visit more, call ≠ .closed visit more) → ∀ id, CheckingOut (front ++ call :: back) id →
      CheckingOut (front ++ rest ++ back) id := by
    rintro open? id ⟨visit, more, mem, own⟩
    refine ⟨visit, more, ?_, own⟩
    have ne := open? visit more
    simp only [mem_append, mem_cons] at mem ⊢
    rcases mem with early | same | late
    · exact .inl (.inl early)
    · exact absurd same.symm ne
    · exact .inr late
  have quiet : (∀ visit more, call ≠ .closed visit more) → Ids after → Progress (fun _ => False) db after →
      (∀ other ∈ rest, Fits after other) → Sound ⟨after, front ++ rest ++ back⟩ ∧ ∃ closes, Progress closes db after := by
    intro open? ids progress fits
    refine ⟨sound.of_progress ids progress (fun visitor _ id _ out => ?_) fun other mem => ?_, _, progress⟩
    · exact waits open? _ (out.resolve_left fun never => never)
    · exact (others other mem).imp_right (fits other)
  cases call with
  | ending visitorId ending =>
    simp only [InFlight.proceed, bind_eq_ok] at proceeds
    obtain ⟨written, commits, rfl, rfl⟩ := proceeds
    obtain ⟨later, progress⟩ := progress_ending ids fits onTime commits
    exact quiet (by simp) later progress fun _ mem => absurd mem not_mem_nil
  | registering draft accessCode =>
    simp only [InFlight.proceed, bind_eq_ok] at proceeds
    obtain ⟨_, _, written, inserts, rfl, rfl⟩ := proceeds
    obtain rfl := insertVisitor_ok inserts
    have new : RowOf draft db.nextId now (draft.inserted env db.nextId now (some accessCode)) := rowOf_inserted
    obtain ⟨later, progress⟩ := progress_added ids new fits
    refine quiet (by simp) later progress fun other mem => ?_
    obtain rfl := mem_singleton.mp mem
    simp [Fits, Ending.status, Decision.status]
  | staying draft accessCode checkedAt settings =>
    cases proceeds
    refine quiet (by simp) ids progress_rfl fun other mem => ?_
    exact mem_singleton.mp mem ▸ fits
  | counting draft accessCode checkedAt settings snapshot since =>
    simp only [InFlight.proceed] at proceeds
    split at proceeds
    · cases proceeds
      refine quiet (by simp) ids progress_rfl fun other mem => ?_
      exact mem_singleton.mp mem ▸ fits
    · simp only [insertOvernight, bind_eq_ok] at proceeds
      obtain ⟨written, ⟨_, _, inserts⟩, rfl, rfl⟩ := proceeds
      obtain ⟨row, new, rfl⟩ := insertPass_ok ids.visitors inserts
      obtain ⟨later, progress⟩ := progress_added ids new fits
      exact quiet (by simp) later progress fun _ mem => absurd mem not_mem_nil
  | walkingIn guardId walkIn =>
    simp only [InFlight.proceed, bind_eq_ok] at proceeds
    obtain ⟨written, inserts, rfl, rfl⟩ := proceeds
    cases walkIn with
    | waits draft =>
      obtain rfl := insertVisitor_ok inserts
      have new : RowOf draft db.nextId now (draft.inserted env db.nextId now none) := rowOf_inserted
      obtain ⟨later, progress⟩ := progress_added ids new fits
      exact quiet (by simp) later progress fun _ mem => absurd mem not_mem_nil
    | enters draft =>
      cases inserts
      have new : RowOf draft db.nextId now (draft.inserted env db.nextId now none) := rowOf_inserted
      obtain ⟨later, progress⟩ := progress_entered ids guardId new fits
      exact quiet (by simp) later progress fun _ mem => absurd mem not_mem_nil
  | leaving visitorId guardId =>
    simp only [InFlight.proceed, bind_eq_ok, orThrow_eq_ok] at proceeds
    obtain ⟨record, last, rfl, rfl⟩ := proceeds
    obtain ⟨visitor, mem, rfl⟩ := fits
    obtain ⟨stage, stands, -⟩ := sound.staged visitor mem
    refine quiet (by simp) ids progress_rfl fun other listed => ?_
    obtain rfl := mem_singleton.mp listed
    intro visit here
    obtain rfl := mem_singleton.mp here
    exact entered_of_open mem stands last _ rfl rfl
  | closing visit more =>
    simp only [InFlight.proceed, bind_eq_ok] at proceeds
    obtain ⟨written, closed, rfl, rfl⟩ := proceeds
    obtain ⟨later, progress, left⟩ := progress_close ids (fits visit (by simp)) closed
    refine ⟨sound.of_progress later progress (fun visitor mem id leaving out => ?_) fun other mem => ?_, _, progress⟩
    · rcases out with rfl | out
      · obtain ⟨other, here, own, stage, stands, gone⟩ := left
        exact ⟨visit, more, by simp, own.symm.trans (same_visitor later stands leaving (.inr gone) (.inr (.inl rfl)))⟩
      · exact waits (by simp) _ out
    · refine (others other mem).imp_right fun here => ?_
      obtain rfl := mem_singleton.mp here
      exact ⟨left, fun next listed => (fits next (mem_cons_of_mem _ listed)).mono progress⟩
  | closed visit more =>
    simp only [InFlight.proceed, bind_eq_ok] at proceeds
    obtain ⟨written, commits, rfl, rfl⟩ := proceeds
    obtain ⟨later, progress, out⟩ := progress_checkOut ids fits.1 commits
    refine ⟨sound.of_progress later progress (fun visitor mem id leaving before => ?_) fun other mem => ?_, _, progress⟩
    · obtain ⟨other, left, listed, own⟩ := before.resolve_left fun never => never
      refine ⟨other, left, ?_, own⟩
      simp only [mem_append, mem_cons] at listed ⊢
      rcases listed with early | same | late
      · exact .inl (.inl early)
      · obtain ⟨rfl, rfl⟩ := InFlight.closed.inj same
        exact absurd own.symm (out visitor mem id leaving)
      · exact .inr late
    · refine (others other mem).imp_right fun here => ?_
      exact nextClosing_fits (fun next listed => (fits.2 next listed).mono progress) other here

variable {failure : ApiError}

theorem closed_proceeds {visit : Closing} {visits : List Closing} (left : Left db visit)
    (distinct : (db.visitors.map Visitor.id).Nodup)
    (aborts : InFlight.proceed env now db (.closed visit visits) = .error failure) : False := by
  obtain ⟨visitor, mem, same, -⟩ := left
  have found : requireVisitor db visit.visitorId = .ok visitor :=
    orThrow_eq_ok.mpr (same ▸ findBy_of_mem distinct mem)
  simp only [InFlight.proceed, Ending.commit, found] at aborts
  cases aborts

theorem Sound.abort (sound : Sound ⟨db, front ++ call :: back⟩) (aborts : call.proceed env now db = .error failure) :
    Sound ⟨db, front ++ back⟩ := by
  have others : ∀ other ∈ front ++ back, other ∈ front ++ call :: back ∨ Fits db other := by
    intro other mem
    simp only [mem_append] at mem ⊢
    tauto
  have same : Progress (fun _ => False) db db := progress_rfl
  refine sound.of_progress sound.ids same ?_ others
  rintro visitor _ id _ (never | ⟨visit, more, mem, own⟩)
  · exact never.elim
  · refine ⟨visit, more, ?_, own⟩
    simp only [mem_append, mem_cons] at mem ⊢
    rcases mem with early | rfl | late
    · exact .inl early
    · have left : Left db visit := (sound.fits (.closed visit more) (by simp)).1
      exact (closed_proceeds left sound.ids.visitors.distinct aborts).elim
    · exact .inr late

theorem ids_expire {chosen : Visitor → Bool} (ids : Ids db) :
    Ids { db with visitors := updateWhere chosen Visitor.expire db.visitors } :=
  ⟨ids.visitors.updateWhere le_rfl fun _ _ _ => rfl, ids.checkIns, ids.known⟩

theorem Sound.step {before later : VisitorState} {event : VisitorEvent} (sound : Sound before)
    (onTime : OnTime before event) (step : VisitorStep env before event later) :
    Sound later ∧ ∃ closes, Progress closes before.db later.db := by
  have still : ∀ {db after : VisitorDb} {calls : List InFlight}, Sound ⟨db, calls⟩ → Ids after →
      Progress (fun _ => False) db after → Sound ⟨after, calls⟩ := by
    intro db after calls sound ids progress
    refine sound.of_progress ids progress (fun visitor _ id _ out => ?_) fun call mem => .inl mem
    exact out.resolve_left fun never => never
  cases step with
  | @expireApprovals db calls scope now =>
    have progress : Progress (fun _ => False) db (expireApprovals scope now db) := by
      refine progress_expire (fun visitor _ chosen => ?_) rfl rfl
      simp only [Visitor.approvalLapsed, Bool.and_eq_true, decide_eq_true_eq] at chosen
      rw [chosen.2.1]
      rfl
    exact ⟨still sound (ids_expire sound.ids) progress, _, progress⟩
  | @expirePasses db calls scope now =>
    have progress : Progress (fun _ => False) db (expirePasses scope now db) := by
      refine progress_expire (fun visitor _ chosen => ?_) rfl rfl
      simp only [Visitor.passLapsed, Bool.and_eq_true, decide_eq_true_eq] at chosen
      rw [chosen.2.1.1]
      rfl
    exact ⟨still sound (ids_expire sound.ids) progress, _, progress⟩
  | @policies db calls rows =>
    have same : Progress (fun _ => False) db db := progress_rfl
    have progress : Progress (fun _ => False) db { db with policies := rows } := ⟨same.follows, same.fresh⟩
    exact ⟨still sound ⟨sound.ids.visitors, sound.ids.checkIns, sound.ids.known⟩ progress, _, progress⟩
  | @begin db calls more now request begins =>
    have progress : Progress (fun _ => False) db db := progress_rfl
    have staged := fun visitor mem => (sound.staged visitor mem).imp fun _ => And.left
    refine ⟨sound.of_progress sound.ids progress (fun visitor _ id _ out => ?_) fun call mem => ?_, _, progress⟩
    · obtain ⟨visit, rest, listed, own⟩ := out.resolve_left fun never => never
      exact ⟨visit, rest, mem_append_left _ listed, own⟩
    · exact (mem_append.mp mem).imp_right (begin_fits staged begins call)
  | proceed proceeds => exact sound.proceed onTime proceeds
  | abort aborts => exact ⟨sound.abort aborts, fun _ => False, progress_rfl⟩

structure Initial (state : VisitorState) : Prop where
  visitors : state.db.visitors = []
  checkIns : state.db.checkIns = []
  calls : state.calls = []

theorem Initial.sound {state : VisitorState} (initial : Initial state) : Sound state := by
  obtain ⟨visitors, checkIns, calls⟩ := initial
  refine ⟨⟨?_, ?_, ?_⟩, ?_, ?_⟩
  · rw [visitors]
    exact .nil
  · rw [checkIns]
    exact .nil
  · rw [checkIns]
    exact fun _ mem => nomatch mem
  · rw [visitors]
    exact fun _ mem => nomatch mem
  · rw [calls]
    exact fun _ mem => nomatch mem

variable {start middle finish : VisitorState} {first last : List VisitorEvent}

theorem sound_of_run (sound : Sound start) (run : Run (Guarded OnTime (VisitorStep env)) start first finish) :
    Sound finish :=
  run.invariant (fun _ _ _ sound move => (sound.step move.1 move.2).1) sound

theorem final_of_run (sound : Sound start) (run : Run (Guarded OnTime (VisitorStep env)) start first finish)
    {visitor : Visitor} (mem : visitor ∈ start.db.visitors) (final : visitor.status.final = true) :
    ∃ later ∈ finish.db.visitors, later.id = visitor.id ∧ later.status = visitor.status := by
  induction run with
  | done => exact ⟨visitor, mem, rfl, rfl⟩
  | snoc run move ih =>
    obtain ⟨later, listed, id, status⟩ := ih
    have sound := sound_of_run sound run
    obtain ⟨next, closes, progress⟩ := sound.step move.1 move.2
    obtain ⟨stage, stands, -⟩ := sound.staged later listed
    obtain ⟨after, here, same, follows⟩ := progress.follows later listed
    obtain ⟨goal, holds, moves⟩ := follows stage stands
    exact ⟨after, here, same.trans id, (moves.final stands holds (status ▸ final)).trans status⟩

/-- While no update comes late, a visitor of a quiet state has one check-in at most, is checked in exactly while it is
open, and keeps a final status for good. -/
theorem visitor_lifecycle (initial : Initial start) (reached : Run (Guarded OnTime (VisitorStep env)) start first middle)
    (continued : Run (Guarded OnTime (VisitorStep env)) middle last finish) :
    (middle.calls = [] → ∀ visitor ∈ middle.db.visitors, Lawful middle.db visitor) ∧
      ∀ visitor ∈ middle.db.visitors, visitor.status.final = true →
        ∀ later ∈ finish.db.visitors, later.id = visitor.id → later.status = visitor.status := by
  have sound := sound_of_run initial.sound reached
  refine ⟨fun quiet visitor member => ?_, fun visitor member final later listed same => ?_⟩
  · obtain ⟨stage, stands, out⟩ := sound.staged visitor member
    refine Stage.Holds.lawful stands fun id leaving => ?_
    obtain ⟨visit, rest, listed, -⟩ := out id leaving
    exact absurd listed (by simp [quiet])
  · obtain ⟨kept, here, id, status⟩ := final_of_run sound continued member final
    have distinct := (sound_of_run sound continued).ids.visitors.distinct
    exact eq_of_key_eq distinct listed here (same.trans id.symm) ▸ status

end

namespace Sample

def calendar : LocalCalendar where
  day instant := instant / 86400000
  hour day hour := day * 86400000 + hour * 3600000
  begins instant := by
    have below := Int.ediv_mul_le instant (show (86400000 : ℤ) ≠ 0 by decide)
    simpa using below
  ends instant := by
    have above := Int.lt_ediv_add_one_mul_self instant (show (0 : ℤ) < 86400000 by decide)
    simpa using above
  ordered day := by
    simp only [Nat.cast_zero, Int.zero_mul, Int.add_zero]
    linarith

def settings : CondoVisitorSettings where
  maxOvernightVisitsPerUnitPerMonth := 1
  overnightSlotsPerNight := 1
  walkInApprovalMinutes := 15
  walkInRequireOwnerApproval := true
  preRegExpiryBufferMins := 120
  urgentOvernightMinHours := 24
  weekdays := [1, 2, 3, 4, 5]
  publicHolidays := []
  holidayOvernightAutoApprove := true
  countPendingTowardCap := false
  requirePlatePhotoOvernight := false
  maxOvernight_pos := by norm_num
  overnightSlots_pos := Nat.one_pos

def uuidStart : List Char := "00000000-0000-4000-8000-".toList

def env : VisitorEnv where
  uuid id :=
    let digits := Nat.toDigits 10 id
    .ofList (uuidStart ++ List.replicate (12 - digits.length) '0' ++ digits)
  parseUuid text :=
    let digits := text.toList.drop 24
    if text.toList.take 24 = uuidStart ∧ digits.length = 12 ∧ digits.all Char.isDigit then some (digitsValue digits)
    else none
  calendar := calendar
  defaultSettings := settings
  condoDayStart _ now := now / 86400000 * 86400000
  zonedIsoWeekday _ now := isoWeekday (now / 86400000)
  zonedTimeHm _ _ := "12:00"
  toUpperCase text := .ofList (text.toList.map Char.toUpper)
  toLowerCase text := .ofList (text.toList.map Char.toLower)
  insensitiveEquals first second := decide (first.toList.map Char.toLower = second.toList.map Char.toLower)
  mayUse _ _ _ := true
  numberString _ := "1"
  localeString _ := ""
  localeDateString _ := ""

def owner : AuthenticatedUser := ⟨1, [⟨.unitOwner, some 1, some 1⟩]⟩
def guard : GateUser := ⟨⟨2, [⟨.securityGuard, some 1, none⟩]⟩, some 1⟩
def manager : AuthenticatedUser := ⟨3, [⟨.managementAdmin, some 1, none⟩]⟩

def start : VisitorState where
  db := {
    nextId := 10
    condos := [⟨1, "UTC", settings⟩]
    units := [⟨1, 1⟩]
    visitors := []
    checkIns := []
    blacklist := []
    recurringPasses := []
    policies := []
    formCodes := [] }
  calls := []

theorem start_initial : Initial start := ⟨rfl, rfl, rfl⟩

def rider : CreateDeliveryPassDto := ⟨1, .delivery, "Grab", none, none, 0, none⟩

def registered : List Choice :=
  [.begin 0 (.createDeliveryPass owner rider "ABCDEF"), .proceed 0 0, .proceed 0 0]

def office : CreateWalkInOfficeDto := ⟨"Lim", "012-345 6789", none, "Permit", false⟩

def outcome (choices : List Choice) : Option (List (VisitorStatus × Nat)) :=
  (start.schedule env choices).bind fun state =>
    if state.calls.isEmpty then some (state.db.visitors.map fun v => (v.status, (state.db.checkInsOf v.id).length))
    else none

theorem outcome_run {choices : List Choice} {rows : List (VisitorStatus × Nat)} (ends : outcome choices = some rows) :
    ∃ events finish, Run (VisitorStep env) start events finish ∧ finish.calls = [] ∧
      finish.db.visitors.map (fun v => (v.status, (finish.db.checkInsOf v.id).length)) = rows := by
  obtain ⟨finish, scheduled, ends⟩ := Option.bind_eq_some_iff.mp ends
  split at ends
  · rename_i quiet
    obtain ⟨events, run⟩ := schedule_run scheduled
    exact ⟨events, finish, run, isEmpty_iff.mp quiet, Option.some.inj ends⟩
  · cases ends

end Sample

theorem visitor_lifecycle_raced : ∃ events finish, Initial Sample.start ∧
    Run (VisitorStep Sample.env) Sample.start events finish ∧ finish.calls = [] ∧
    ∃ visitor ∈ finish.db.visitors, ¬ Lawful finish.db visitor := by
  have ends : Sample.outcome (Sample.registered ++ [.begin 1 (.checkIn 10 Sample.guard),
      .begin 1 (.checkIn 10 Sample.guard), .proceed 2 0, .proceed 2 0]) = some [(.checkedIn, 2)] := by
    decide +kernel
  obtain ⟨events, finish, run, quiet, rows⟩ := Sample.outcome_run ends
  refine ⟨events, finish, Sample.start_initial, run, quiet, ?_⟩
  obtain ⟨visitor, member, row⟩ := List.mem_map.mp (rows ▸ List.mem_singleton_self _)
  refine ⟨visitor, member, fun lawful => ?_⟩
  have two : (finish.db.checkInsOf visitor.id).length = 2 := (Prod.mk.inj row).2
  exact absurd lawful.1 (by omega)

theorem visitor_lifecycle_walkedIn : ∃ state : VisitorState, state.db.visitors.length = 1 ∧
    ∀ visitor ∈ state.db.visitors, Lawful state.db visitor := by
  have ends : (walkInOffice 0 Sample.guard Sample.office >>= fun walkIn =>
      walkIn.insert Sample.env 0 Sample.start.db Sample.guard.id).map (fun db => db.visitors.length) = .ok 1 := by
    decide +kernel
  obtain ⟨after, done, count⟩ := map_eq_ok.mp ends
  obtain ⟨walkIn, drafted, inserted⟩ := bind_eq_ok.mp done
  have begins : (VisitorRequest.createWalkInOffice Sample.guard Sample.office).begin Sample.env 0 Sample.start.db =
      .ok [.walkingIn Sample.guard.id walkIn] := by
    simp only [VisitorRequest.begin, drafted]
    rfl
  have proceeds : (InFlight.walkingIn Sample.guard.id walkIn).proceed Sample.env 0 Sample.start.db = .ok (after, []) := by
    simp only [InFlight.proceed, inserted]
    rfl
  have early : ∀ request, OnTime Sample.start (.begin 0 request) := fun _ => trivial
  have inTime : ∀ calls, OnTime ⟨Sample.start.db, calls⟩ (.proceed 0 (.walkingIn Sample.guard.id walkIn)) :=
    fun _ => trivial
  have first : Run (Guarded OnTime (VisitorStep Sample.env)) Sample.start _ _ := .single ⟨early _, .begin begins⟩
  have step : VisitorStep Sample.env ⟨Sample.start.db, [] ++ .walkingIn Sample.guard.id walkIn :: []⟩
      (.proceed 0 (.walkingIn Sample.guard.id walkIn)) ⟨after, [] ++ [] ++ []⟩ := .proceed proceeds
  have run := first.snoc ⟨inTime _, step⟩
  exact ⟨⟨after, []⟩, count, (visitor_lifecycle Sample.start_initial run .done).1 rfl⟩

end SmartResidence.Visitors
