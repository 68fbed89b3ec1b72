import SmartResidence.Proof.ThreadClocks

/-!
# Who resolves a thread

A confirmation asks for no proposal, and the scans write without looking at the thread again.
-/

namespace SmartResidence.Threads

open Foundation Billing Settings List

structure Proposed (state : ThreadState) (row : Thread) (proposedAt : Instant) : Prop where
  status : row.status = .pendingResidentConfirmation
  stamped : row.resolutionProposedAt = some proposedAt
  proposer : ∃ user dto, .proposeResolution user row.id dto ∈ state.committed ∧ isManagement user = true ∧
    row.resolutionProposedByUserId = some user.id
  unanswered : ∀ message ∈ state.residentMessages, message.threadId = row.id → message.createdAt ≤ proposedAt

inductive Resolves (state : ThreadState) (row : Thread) (clock : Instant) : ThreadFlight → Prop
  | confirmed {user : AuthenticatedUser} {dto : ConfirmResolutionDto} {plan : ThreadPlan} {proposedAt : Instant} :
      dto.confirmed = true → canActAsResident user row = true → Proposed state row proposedAt →
      Resolves state row clock (.planned (.confirmResolution user row.id dto) plan)
  | elapsed {now : Instant} {thread : Thread} {since : Nat} {grace : ℚ} {proposedAt : Instant} :
      thread.id = row.id → Proposed state row proposedAt → (proposedAt : ℚ) ≤ clock - graceMs state.db row.condoId →
      Resolves state row clock (.confirming now thread since grace)

def ThreadFlight.decided : ThreadFlight → Option (Id × Nat)
  | .confirming _ thread since _ | .closing _ thread since => some (thread.id, since)
  | _ => none

/-- A thread becomes `RESOLVED` by a step that may resolve it, and a scan writes over no resident message. -/
structure Lawful (before : ThreadState) (event : FlightEvent) (after : ThreadState) : Prop where
  resolved : ∀ thread ∈ after.db.threads, thread.status = .resolved →
    (∀ old ∈ before.db.threads, old.id = thread.id → old.status ≠ .resolved) →
    ∃ clock place flight row, event = .proceed clock place ∧ before.flights[place]? = some flight ∧
      before.db.thread? thread.id = some row ∧ Resolves before row clock flight
  heard : ∀ clock place flight id since, event = .proceed clock place → before.flights[place]? = some flight →
    flight.decided = some (id, since) →
    ∀ message ∈ before.residentMessages, message.threadId = id → message.id < since

def Unwritten (state : ThreadState) (threadId : Id) (since : Nat) : Prop :=
  ∀ message ∈ state.db.messages, message.threadId = threadId → message.id < since

def ThreadFlight.Undisturbed (state : ThreadState) : ThreadFlight → Prop
  | .planned (.confirmResolution _ id dto) _ =>
      dto.confirmed = true → ∀ row ∈ state.db.thread? id, row.status = .pendingResidentConfirmation
  | .planned (.proposeResolution _ id _) (.write write) =>
      ∀ row ∈ state.db.thread? id, ∀ proposedAt ∈ (write.change row).resolutionProposedAt,
        ∀ message ∈ state.residentMessages, message.threadId = id → message.createdAt ≤ proposedAt
  | .planned (.postMessage user id _) _ =>
      isManagement user = false → ∀ row ∈ state.db.thread? id, row.status ≠ .pendingResidentConfirmation
  | .confirming _ thread since grace =>
      Unwritten state thread.id since ∧ ∀ row ∈ state.db.thread? thread.id,
        row.status = thread.status ∧ row.resolutionProposedAt = thread.resolutionProposedAt ∧
          graceMs state.db row.condoId ≤ grace
  | .closing _ thread since => Unwritten state thread.id since
  | _ => True

instance (state : ThreadState) (threadId : Id) (since : Nat) : Decidable (Unwritten state threadId since) :=
  inferInstanceAs (Decidable (∀ message ∈ state.db.messages, message.threadId = threadId → message.id < since))

instance (state : ThreadState) (flight : ThreadFlight) : Decidable (flight.Undisturbed state) := by
  unfold ThreadFlight.Undisturbed
  split <;> infer_instance

def Undisturbed (before : ThreadState) : FlightEvent → Prop
  | .proceed _ place => ∀ flight ∈ before.flights[place]?, flight.Undisturbed before
  | _ => True

instance (before : ThreadState) (event : FlightEvent) : Decidable (Undisturbed before event) := by
  unfold Undisturbed
  split <;> infer_instance

/-! ## What a planned transaction does -/

structure WriteEffect (call : ThreadCall) (write : ThreadWrite) : Prop where
  id : ∀ row, (write.change row).id = row.id
  unitId : ∀ row, (write.change row).unitId = row.unitId
  resolves : ∀ row, (write.change row).status = .resolved → row.status = .resolved ∨
    ∃ user dto, call = .confirmResolution user write.threadId dto ∧ dto.confirmed = true
  awaits : ∀ row, (write.change row).status = .pendingResidentConfirmation →
    (row.status = .pendingResidentConfirmation ∧
      (write.change row).resolutionProposedAt = row.resolutionProposedAt ∧
      (write.change row).resolutionProposedByUserId = row.resolutionProposedByUserId ∧
      (isManagement call.user = true ∨ ∃ user dto, call = .postMessage user write.threadId dto)) ∨
    ∃ user dto proposedAt, call = .proposeResolution user write.threadId dto ∧ isManagement user = true ∧
      (write.change row).resolutionProposedAt = some proposedAt ∧
      (write.change row).resolutionProposedByUserId = some user.id

def PlanEffect (call : ThreadCall) : ThreadPlan → Prop
  | .insert row _ => ∀ id clock, (row id clock).id = id ∧ (row id clock).status = .opened
  | .write write => WriteEffect call write
  | .nothing => True

section

variable {env : ThreadEnv} {now : Instant} {db : ThreadDb} {user : AuthenticatedUser} {id : Id} {write : ThreadWrite}

variable {change : Thread → Thread} {messages : List NewMessage}

theorem WriteEffect.of_status {call : ThreadCall}
    (kept : ∀ row, (change row).id = row.id ∧ (change row).unitId = row.unitId) {status : ThreadStatus}
    (sets : ∀ row, (change row).status = status) (active : status ≠ .resolved ∧ status ≠ .pendingResidentConfirmation) :
    WriteEffect call ⟨id, change, messages⟩ := by
  constructor
  case id => exact fun row => (kept row).1
  case unitId => exact fun row => (kept row).2
  case resolves => exact fun row same => absurd ((sets row).symm.trans same) active.1
  case awaits => exact fun row same => absurd ((sets row).symm.trans same) active.2

theorem WriteEffect.of_kept {call : ThreadCall}
    (kept : ∀ row, (change row).id = row.id ∧ (change row).unitId = row.unitId ∧ (change row).status = row.status ∧
      (change row).resolutionProposedAt = row.resolutionProposedAt ∧
      (change row).resolutionProposedByUserId = row.resolutionProposedByUserId)
    (caller : isManagement call.user = true ∨ ∃ user dto, call = .postMessage user id dto) :
    WriteEffect call ⟨id, change, messages⟩ := by
  constructor
  case id => exact fun row => (kept row).1
  case unitId => exact fun row => (kept row).2.1
  case resolves => exact fun row same => .inl ((kept row).2.2.1.symm.trans same)
  case awaits =>
    intro row same
    obtain ⟨-, -, status, at_, by_⟩ := kept row
    exact .inl ⟨status.symm.trans same, at_, by_, caller⟩

theorem postMessage_effect {dto : PostMessageDto} (posted : postMessage now db user id dto = .ok write) :
    WriteEffect (.postMessage user id dto) write := by
  have caller : isManagement (ThreadCall.postMessage user id dto).user = true ∨
      ∃ other another, ThreadCall.postMessage user id dto = .postMessage other id another := .inr ⟨user, dto, rfl⟩
  simp only [postMessage, bind_eq_ok] at posted
  obtain ⟨thread, loaded, _, -, _, -, posted⟩ := posted
  split at posted
  · cases posted
    exact .of_kept (fun _ => ⟨rfl, rfl, rfl, rfl, rfl⟩) caller
  split at posted
  · cases posted
    unfold managementReply
    split
    · exact .of_kept (fun _ => ⟨rfl, rfl, rfl, rfl, rfl⟩) caller
    · exact .of_status (fun _ => ⟨rfl, rfl⟩) (fun _ => rfl) (by constructor <;> rintro ⟨⟩)
  split at posted
  · cases posted
    exact .of_status (fun _ => ⟨rfl, rfl⟩) (fun _ => rfl) (by constructor <;> rintro ⟨⟩)
  · cases posted
    exact .of_status (fun _ => ⟨rfl, rfl⟩) (fun _ => rfl) (by constructor <;> rintro ⟨⟩)
  · cases posted
    exact .of_kept (fun _ => ⟨rfl, rfl, rfl, rfl, rfl⟩) caller
  · cases posted
  · cases posted
    exact .of_status (fun _ => ⟨rfl, rfl⟩) (fun _ => rfl) (by constructor <;> rintro ⟨⟩)

theorem update_effect {dto : UpdateThreadDto} (management : isManagement user = true)
    (updated : update env now db user id dto = .ok (some write)) : WriteEffect (.update user id dto) write := by
  simp only [update, bind_eq_ok, throwIf_eq_ok] at updated
  obtain ⟨thread, -, _, allowed, updated⟩ := updated
  split at updated
  · cases updated
  · cases updated
    cases moved : (updateData env db thread dto).status with
    | none =>
      refine .of_kept (fun row => ⟨rfl, rfl, ?_, rfl, rfl⟩) (.inl management)
      show (updateData env db thread dto).status.getD row.status = row.status
      rw [moved]
      rfl
    | some status =>
      have asked : dto.status = some status := (Option.filter_eq_some_iff.mp moved).1
      have active : status ∉ resolutionStatuses := by
        intro resolution
        refine allowed ⟨management, ?_⟩
        rw [asked]
        exact decide_eq_true resolution
      have sets : ∀ row, ((updateData env db thread dto).apply now row).status = status := by
        intro row
        show (updateData env db thread dto).status.getD row.status = status
        rw [moved]
        rfl
      refine .of_status (fun _ => ⟨rfl, rfl⟩) sets ⟨?_, ?_⟩
      · rintro rfl
        exact active (by decide)
      · rintro rfl
        exact active (by decide)

theorem proposeResolution_effect {dto : ProposeResolutionDto}
    (stamped : ∀ row ∈ db.threads, row.status = .pendingResidentConfirmation → row.resolutionProposedAt ≠ none)
    (proposed : proposeResolution now db user id dto = .ok write) : WriteEffect (.proposeResolution user id dto) write := by
  simp only [proposeResolution, bind_eq_ok, pure_eq_ok, throwIf_eq_ok] at proposed
  obtain ⟨thread, loaded, _, management, _, -, _, -, _, -, _, -, rfl⟩ := proposed
  constructor
  case id => exact fun _ => rfl
  case unitId => exact fun _ => rfl
  case resolves => exact fun _ same => by cases same
  case awaits =>
    intro row _
    right
    have time : ∃ proposedAt, (if (decide (thread.status = .pendingResidentConfirmation) && dto.messageId.isSome) = true
        then thread.resolutionProposedAt else some now) = some proposedAt := by
      split
      · rename_i again
        obtain ⟨pending, -⟩ := Bool.and_eq_true_iff.mp again
        have found := (mem_of_findBy (loadAndAuthorize_ok.mp loaded).1).1
        exact Option.ne_none_iff_exists'.mp (stamped thread found (of_decide_eq_true pending))
      · exact ⟨now, rfl⟩
    obtain ⟨proposedAt, time⟩ := time
    exact ⟨user, dto, proposedAt, rfl, Decidable.not_not.mp management, time, rfl⟩

variable {dto : ConfirmResolutionDto}

theorem confirmResolution_effect (confirmed : confirmResolution now db user id dto = .ok write) :
    WriteEffect (.confirmResolution user id dto) write := by
  simp only [confirmResolution, bind_eq_ok] at confirmed
  obtain ⟨thread, -, _, -, _, -, confirmed⟩ := confirmed
  split at confirmed
  · rename_i accepts
    cases confirmed
    constructor
    case id => exact fun _ => rfl
    case unitId => exact fun _ => rfl
    case resolves => exact fun _ _ => .inr ⟨user, dto, rfl, accepts⟩
    case awaits => exact fun _ same => by cases same
  · split at confirmed
    · cases confirmed
      exact .of_status (fun _ => ⟨rfl, rfl⟩) (fun _ => rfl) (by constructor <;> rintro ⟨⟩)
    · cases confirmed

theorem confirmResolution_household (confirmed : confirmResolution now db user id dto = .ok write) :
    ∃ row, db.thread? id = some row ∧ canActAsResident user row = true := by
  simp only [confirmResolution, bind_eq_ok, throwIf_eq_ok] at confirmed
  obtain ⟨thread, loaded, _, household, -⟩ := confirmed
  exact ⟨thread, (loadAndAuthorize_ok.mp loaded).1, Decidable.not_not.mp household⟩

variable {reason : String}

theorem appeal_effect (appealed : appeal now db user id reason = .ok write) :
    WriteEffect (.appeal user id reason) write := by
  simp only [appeal, bind_eq_ok, pure_eq_ok] at appealed
  obtain ⟨thread, -, _, -, _, -, rfl⟩ := appealed
  exact .of_status (fun _ => ⟨rfl, rfl⟩) (fun _ => rfl) ⟨nofun, nofun⟩

theorem requestResident_effect {body : Option String} (requested : requestResident now db user id body = .ok write) :
    WriteEffect (.requestResident user id body) write := by
  simp only [requestResident, bind_eq_ok, pure_eq_ok] at requested
  obtain ⟨thread, -, _, -, _, -, rfl⟩ := requested
  exact .of_status (fun _ => ⟨rfl, rfl⟩) (fun _ => rfl) ⟨nofun, nofun⟩

theorem closeAbusive_effect (closed : closeAbusive now db user id reason = .ok write) :
    WriteEffect (.closeAbusive user id reason) write := by
  simp only [closeAbusive, bind_eq_ok, pure_eq_ok] at closed
  obtain ⟨thread, -, _, -, _, -, rfl⟩ := closed
  exact .of_status (fun _ => ⟨rfl, rfl⟩) (fun _ => rfl) ⟨nofun, nofun⟩

theorem plan_effect {call : ThreadCall} {planned : ThreadPlan}
    (stamped : ∀ row ∈ db.threads, row.status = .pendingResidentConfirmation → row.resolutionProposedAt ≠ none)
    (done : plan env now db call = .ok planned) : PlanEffect call planned := by
  cases call with
  | create user dto =>
    simp only [plan, create, bind_eq_ok, pure_eq_ok] at done
    obtain ⟨_, ⟨place, -, rfl⟩, rfl⟩ := done
    exact fun _ _ => ⟨rfl, rfl⟩
  | postMessage user id dto =>
    simp only [plan, bind_eq_ok, pure_eq_ok] at done
    obtain ⟨write, posted, rfl⟩ := done
    exact postMessage_effect posted
  | update user id dto =>
    simp only [plan, bind_eq_ok, assertMayUpdate, throwIf_eq_ok] at done
    obtain ⟨_, management, written, updated, done⟩ := done
    cases written with
    | none =>
      cases done
      trivial
    | some write =>
      cases done
      exact update_effect (Decidable.not_not.mp management) updated
  | proposeResolution user id dto =>
    simp only [plan, bind_eq_ok, pure_eq_ok] at done
    obtain ⟨write, proposed, rfl⟩ := done
    exact proposeResolution_effect stamped proposed
  | confirmResolution user id dto =>
    simp only [plan, bind_eq_ok, pure_eq_ok] at done
    obtain ⟨write, confirmed, rfl⟩ := done
    exact confirmResolution_effect confirmed
  | appeal user id reason =>
    simp only [plan, bind_eq_ok, pure_eq_ok] at done
    obtain ⟨write, appealed, rfl⟩ := done
    exact appeal_effect appealed
  | requestResident user id body =>
    simp only [plan, bind_eq_ok, pure_eq_ok] at done
    obtain ⟨write, requested, rfl⟩ := done
    exact requestResident_effect requested
  | closeAbusive user id reason =>
    simp only [plan, bind_eq_ok, pure_eq_ok] at done
    obtain ⟨write, closed, rfl⟩ := done
    exact closeAbusive_effect closed

end

/-! ## States -/

def ThreadFlight.write : ThreadFlight → Option ThreadWrite
  | .planned _ (.write write) => some write
  | .confirming now thread _ _ => some (autoConfirmResolution now thread)
  | .closing now thread _ => some (autoCloseInactive now thread)
  | .escalating now thread => some (escalate now thread)
  | _ => none

def ThreadFlight.Sound (db : ThreadDb) (time : Instant) : ThreadFlight → Prop
  | .planned call plan => PlanEffect call plan ∧ ∀ user id dto, call = .confirmResolution user id dto →
      ∃ row, db.thread? id = some row ∧ canActAsResident user row = true
  | .checking now thread _ _ => now ≤ time ∧ thread.status = .pendingResidentConfirmation
  | .listening now thread _ _ grace | .confirming now thread _ grace =>
      now ≤ time ∧ thread.status = .pendingResidentConfirmation ∧
        ∃ proposedAt : Instant, thread.resolutionProposedAt = some proposedAt ∧ (proposedAt : ℚ) ≤ now - grace
  | .closing .. | .escalating .. => True

structure ThreadState.Sound (state : ThreadState) : Prop where
  ids : Allocated (state.db.threads.map Thread.id) state.db.nextId
  stored : ∀ message ∈ state.residentMessages, message ∈ state.db.messages
  proposed : ∀ row ∈ state.db.threads, row.status = .pendingResidentConfirmation → ∃ proposedAt, Proposed state row proposedAt
  flights : ∀ flight ∈ state.flights, flight.Sound state.db state.time

def UnitsKept (before after : ThreadDb) : Prop :=
  ∀ id row, before.thread? id = some row → ∃ later, after.thread? id = some later ∧ later.unitId = row.unitId

section

variable {before after : ThreadDb} {clock time : Instant} {write : ThreadWrite} {flight : ThreadFlight}
  {call : Option ThreadCall} {message : ThreadMessage}

theorem UnitsKept.of_threads (same : after.threads = before.threads) : UnitsKept before after := by
  intro id row found
  refine ⟨row, ?_, rfl⟩
  unfold ThreadDb.thread? at found ⊢
  rw [same]
  exact found

theorem UnitsKept.of_write (kept : ∀ row, (write.change row).id = row.id ∧ (write.change row).unitId = row.unitId) :
    UnitsKept before (before.write clock write) := by
  intro id row found
  have later : (before.write clock write).thread? id =
      some (if row.id = write.threadId then write.change row else row) := by
    unfold ThreadDb.thread? ThreadDb.write at *
    rw [findBy_updateBy fun row => (kept row).1, found]
    rfl
  refine ⟨_, later, ?_⟩
  split
  · exact (kept row).2
  · rfl

theorem UnitsKept.of_insert {row : Id → Instant → Thread} {message : NewMessage} :
    UnitsKept before (before.insertThread clock row message) := by
  intro id old found
  refine ⟨old, ?_, rfl⟩
  unfold ThreadDb.thread? ThreadDb.insertThread at *
  rw [findBy_append, found]
  rfl

theorem ThreadFlight.Sound.later (sound : flight.Sound before time) (units : UnitsKept before after) (passes : time ≤ clock) :
    flight.Sound after clock := by
  cases flight with
  | planned call plan =>
    obtain ⟨effect, household⟩ := sound
    refine ⟨effect, fun user id dto same => ?_⟩
    obtain ⟨row, found, acts⟩ := household user id dto same
    obtain ⟨later, found, unit⟩ := units id row found
    refine ⟨later, found, ?_⟩
    unfold canActAsResident at acts ⊢
    rw [unit]
    exact acts
  | checking now thread messages since => exact ⟨sound.1.trans passes, sound.2⟩
  | listening now thread messages since grace => exact ⟨sound.1.trans passes, sound.2⟩
  | confirming now thread since grace => exact ⟨sound.1.trans passes, sound.2⟩
  | closing now thread since => trivial
  | escalating now thread => trivial

theorem proceed_cases (before : ThreadDb) (clock : Instant) (flight : ThreadFlight) :
    (∃ write, flight.write = some write ∧ (flight.proceed clock before).1 = before.write clock write) ∨
    (∃ call row message, flight = .planned call (.insert row message) ∧
      (flight.proceed clock before).1 = before.insertThread clock row message) ∨
    (flight.write = none ∧ (flight.proceed clock before).1 = before) := by
  cases flight with
  | planned call plan =>
    cases plan with
    | insert row message => exact .inr (.inl ⟨call, row, message, rfl, rfl⟩)
    | write write => exact .inl ⟨write, rfl, rfl⟩
    | nothing => exact .inr (.inr ⟨rfl, rfl⟩)
  | checking now thread messages since => exact .inr (.inr ⟨rfl, rfl⟩)
  | listening now thread messages since grace => exact .inr (.inr ⟨rfl, rfl⟩)
  | confirming now thread since grace => exact .inl ⟨_, rfl, rfl⟩
  | closing now thread since => exact .inl ⟨_, rfl, rfl⟩
  | escalating now thread => exact .inl ⟨_, rfl, rfl⟩

theorem write_kept (sound : flight.Sound before time) (writes : flight.write = some write) :
    ∀ row, (write.change row).id = row.id ∧ (write.change row).unitId = row.unitId := by
  cases flight with
  | planned call plan =>
    cases plan with
    | insert row message => cases writes
    | write other =>
      cases writes
      have effect : WriteEffect call write := sound.1
      exact fun row => ⟨effect.id row, effect.unitId row⟩
    | nothing => cases writes
  | checking now thread messages since => cases writes
  | listening now thread messages since grace => cases writes
  | confirming now thread since grace => cases writes; exact fun _ => ⟨rfl, rfl⟩
  | closing now thread since => cases writes; exact fun _ => ⟨rfl, rfl⟩
  | escalating now thread => cases writes; exact fun _ => ⟨rfl, rfl⟩

theorem units_proceed (sound : flight.Sound before time) : UnitsKept before (flight.proceed clock before).1 := by
  rcases proceed_cases before clock flight with
    ⟨write, writes, same⟩ | ⟨_, row, message, -, same⟩ | ⟨-, same⟩
  · rw [same]
    exact .of_write (write_kept sound writes)
  · rw [same]
    exact .of_insert
  · rw [same]
    exact .of_threads rfl

theorem more_sound (sound : flight.Sound before time) (passes : time ≤ clock) :
    ∀ next ∈ (flight.proceed clock before).2, next.Sound (flight.proceed clock before).1 clock := by
  intro next mem
  cases flight with
  | planned call plan => cases mem
  | checking now thread messages since =>
    obtain ⟨early, pending⟩ := sound
    simp only [ThreadFlight.proceed] at mem
    split at mem
    · rename_i old
      obtain rfl := mem_singleton.mp mem
      unfold proposedBeforeGrace at old
      rw [Option.any_eq_true] at old
      obtain ⟨proposedAt, stamped, old⟩ := old
      exact ⟨early.trans passes, pending, proposedAt, stamped, of_decide_eq_true old⟩
    · cases mem
  | listening now thread messages since grace =>
    obtain ⟨early, rest⟩ := sound
    simp only [ThreadFlight.proceed] at mem
    split at mem
    · obtain rfl := mem_singleton.mp mem
      exact ⟨early.trans passes, rest⟩
    · cases mem
  | confirming now thread since grace => cases mem
  | closing now thread since => cases mem
  | escalating now thread => cases mem

theorem fresh_dropped (mem : message ∈ residentMessagesOf before after call) :
    message ∈ after.messages.drop before.messages.length := by
  unfold residentMessagesOf at mem
  split at mem
  · exact (mem_filter.mp mem).1
  · cases mem

theorem fresh_of_write (mem : message ∈ residentMessagesOf before (before.write clock write) call) :
    message.threadId = write.threadId := by
  have dropped := fresh_dropped mem
  unfold ThreadDb.write at dropped
  rw [drop_left] at dropped
  obtain ⟨place, inside, rfl⟩ := mem_mapIdx.mp dropped
  rfl

theorem fresh_of_insert {row : Id → Instant → Thread} {first : NewMessage}
    (mem : message ∈ residentMessagesOf before (before.insertThread clock row first) call) :
    message.threadId = before.nextId := by
  have dropped := fresh_dropped mem
  unfold ThreadDb.insertThread at dropped
  rw [drop_left] at dropped
  obtain rfl := mem_singleton.mp dropped
  rfl

theorem fresh_of_nothing : residentMessagesOf before before call = [] := by
  unfold residentMessagesOf
  split
  · rw [drop_length]
    rfl
  · rfl

end

/-! ## Steps -/

section

variable {env : ThreadEnv} {state after : ThreadState} {clock : Instant} {place : Nat} {flight : ThreadFlight}
  {row : Thread} {write : ThreadWrite} {proposedAt : Instant}

theorem Proposed.later (proposed : Proposed state row proposedAt)
    (unheard : ∀ message ∈ residentMessagesOf state.db (flight.proceed clock state.db).1 flight.call,
      message.threadId ≠ row.id) : Proposed (state.proceed clock place flight) row proposedAt := by
  obtain ⟨status, stamped, ⟨user, dto, committed, management, by_⟩, unanswered⟩ := proposed
  constructor
  case status => exact status
  case stamped => exact stamped
  case proposer => exact ⟨user, dto, mem_append_left _ committed, management, by_⟩
  case unanswered =>
    intro message mem own
    rcases mem_append.mp mem with old | fresh
    · exact unanswered message old own
    · exact absurd own (unheard message fresh)

theorem Proposed.congr {other : Thread} (proposed : Proposed state row proposedAt) (id : other.id = row.id)
    (status : other.status = row.status) (stamped : other.resolutionProposedAt = row.resolutionProposedAt)
    (by_ : other.resolutionProposedByUserId = row.resolutionProposedByUserId) : Proposed state other proposedAt := by
  obtain ⟨pending, time, ⟨user, dto, committed, management, proposer⟩, unanswered⟩ := proposed
  constructor
  case status => rw [status, pending]
  case stamped => rw [stamped, time]
  case proposer => exact ⟨user, dto, by rw [id]; exact committed, management, by rw [by_, proposer]⟩
  case unanswered => rw [id]; exact unanswered

variable (sound : state.Sound)

include sound

theorem found_of_mem (mem : row ∈ state.db.threads) : state.db.thread? row.id = some row :=
  findBy_of_mem sound.ids.distinct mem

theorem awaits_proposed (known : flight.Sound state.db state.time) (undisturbed : flight.Undisturbed state)
    (writes : flight.write = some write) (mem : row ∈ state.db.threads) (own : row.id = write.threadId)
    (pending : (write.change row).status = .pendingResidentConfirmation) :
    ∃ proposedAt, Proposed (state.proceed clock place flight) (write.change row) proposedAt := by
  have found := found_of_mem sound mem
  cases flight with
  | planned call plan =>
    cases plan with
    | insert draft message => cases writes
    | nothing => cases writes
    | write other =>
      cases writes
      have effect : WriteEffect call write := known.1
      have silent : isManagement call.user = true →
          residentMessagesOf state.db (state.db.write clock write) (some call) = [] := by
        intro management
        unfold residentMessagesOf
        simp [management]
      rcases effect.awaits row pending with ⟨before, stamped, by_, caller⟩ | ⟨user, dto, proposedAt, rfl, management, stamped, by_⟩
      · obtain ⟨proposedAt, proposed⟩ := sound.proposed row mem before
        refine ⟨proposedAt, (proposed.congr (effect.id row) (pending.trans before.symm) stamped by_).later ?_⟩
        intro message fresh
        exfalso
        have management : isManagement call.user = true := by
          rcases caller with management | ⟨user, dto, rfl⟩
          · exact management
          · by_contra resident
            rw [own] at found
            exact undisturbed (Bool.not_eq_true _ ▸ resident) row found before
        have none := silent management
        have fresh : message ∈ residentMessagesOf state.db (state.db.write clock write) (some call) := fresh
        rw [none] at fresh
        cases fresh
      · refine ⟨proposedAt, pending, stamped, ?_, ?_⟩
        · refine ⟨user, dto, mem_append_right _ ?_, management, by_⟩
          rw [effect.id row, own]
          exact mem_singleton.mpr rfl
        · intro message heard same
          rcases mem_append.mp heard with old | fresh
          · rw [own] at found
            rw [effect.id row, own] at same
            exact undisturbed row found proposedAt stamped message old same
          · have none := silent management
            have fresh : message ∈ residentMessagesOf state.db (state.db.write clock write)
                (some (.proposeResolution user write.threadId dto)) := fresh
            rw [none] at fresh
            cases fresh
  | checking now thread messages since => cases writes
  | listening now thread messages since grace => cases writes
  | confirming now thread since grace => cases writes; cases pending
  | closing now thread since => cases writes; cases pending
  | escalating now thread =>
    cases writes
    obtain ⟨proposedAt, proposed⟩ := sound.proposed row mem pending
    have silent : ∀ message ∈ residentMessagesOf state.db
        ((ThreadFlight.escalating now thread).proceed clock state.db).1 none, message.threadId ≠ row.id :=
      fun message fresh => nomatch fresh
    have kept : Proposed state ((escalate now thread).change row) proposedAt := proposed.congr rfl rfl rfl rfl
    exact ⟨proposedAt, kept.later silent⟩

theorem resolves_lawfully (known : flight.Sound state.db state.time) (undisturbed : flight.Undisturbed state)
    (passes : state.time ≤ clock) (writes : flight.write = some write) (mem : row ∈ state.db.threads)
    (own : row.id = write.threadId) (resolved : (write.change row).status = .resolved) (fresh : row.status ≠ .resolved) :
    Resolves state row clock flight := by
  have found := found_of_mem sound mem
  cases flight with
  | planned call plan =>
    cases plan with
    | insert draft message => cases writes
    | nothing => cases writes
    | write other =>
      cases writes
      have effect : WriteEffect call write := known.1
      rcases effect.resolves row resolved with already | ⟨user, dto, rfl, accepts⟩
      · exact absurd already fresh
      rw [← own] at undisturbed known ⊢
      have pending := undisturbed accepts row found
      obtain ⟨proposedAt, proposed⟩ := sound.proposed row mem pending
      obtain ⟨other, same, household⟩ := known.2 user row.id dto rfl
      obtain rfl := Option.some.inj (found.symm.trans same)
      exact .confirmed accepts household proposed
  | checking now thread messages since => cases writes
  | listening now thread messages since grace => cases writes
  | confirming now thread since grace =>
    cases writes
    rw [own] at found
    obtain ⟨status, stamped, short⟩ := undisturbed.2 row found
    obtain ⟨early, pending, proposedAt, time, old⟩ := known
    obtain ⟨other, proposed⟩ := sound.proposed row mem (status.trans pending)
    obtain rfl := Option.some.inj (proposed.stamped.symm.trans (stamped.trans time))
    refine .elapsed own.symm proposed ?_
    have later : (now : ℚ) ≤ clock := by exact_mod_cast early.trans passes
    linarith
  | closing now thread since => cases writes; cases resolved
  | escalating now thread => cases writes; exact absurd resolved fresh

theorem proceed_sound (here : state.flights[place]? = some flight) (undisturbed : flight.Undisturbed state)
    (passes : state.time ≤ clock) : (state.proceed clock place flight).Sound := by
  have known := sound.flights flight (mem_of_getElem? here)
  have flights : ∀ next ∈ (state.proceed clock place flight).flights,
      next.Sound (state.proceed clock place flight).db clock := by
    intro next mem
    rcases mem_append.mp mem with old | new
    · exact (sound.flights next (mem_of_mem_eraseIdx old)).later (units_proceed known) passes
    · exact more_sound known passes next new
  rcases proceed_cases state.db clock flight with
    ⟨write, writes, same⟩ | ⟨call, draft, first, rfl, same⟩ | ⟨-, same⟩
  · have kept := write_kept known writes
    have db : (state.proceed clock place flight).db = state.db.write clock write := same
    constructor
    case ids =>
      rw [db]
      exact sound.ids.updateBy (Nat.le_add_right _ _) fun row => (kept row).1
    case stored =>
      intro message mem
      rcases mem_append.mp mem with old | fresh
      · rw [db]
        exact mem_append_left _ (sound.stored message old)
      · exact mem_of_mem_drop (fresh_dropped fresh)
    case proposed =>
      intro row mem pending
      rw [db] at mem
      obtain ⟨old, listed, rfl⟩ := mem_updateBy.mp mem
      split at pending
      · rename_i own
        rw [if_pos own]
        exact awaits_proposed sound known undisturbed writes listed own pending
      · rename_i other
        rw [if_neg other]
        obtain ⟨proposedAt, proposed⟩ := sound.proposed old listed pending
        refine ⟨proposedAt, proposed.later fun message fresh => ?_⟩
        rw [same] at fresh
        rw [fresh_of_write fresh]
        exact fun own => other own.symm
    case flights => exact flights
  · have db : (state.proceed clock place (.planned call (.insert draft first))).db =
        state.db.insertThread clock draft first := same
    have effect : ∀ id clock, (draft id clock).id = id ∧ (draft id clock).status = .opened := known.1
    constructor
    case ids =>
      exact sound.ids.insert (effect _ _).1 (Nat.lt_add_of_pos_right (by decide))
    case stored =>
      intro message mem
      rcases mem_append.mp mem with old | fresh
      · exact mem_append_left _ (sound.stored message old)
      · exact mem_of_mem_drop (fresh_dropped fresh)
    case proposed =>
      intro row mem pending
      rcases mem_append.mp mem with old | new
      · obtain ⟨proposedAt, proposed⟩ := sound.proposed row old pending
        refine ⟨proposedAt, proposed.later fun message fresh => ?_⟩
        rw [fresh_of_insert fresh]
        exact (sound.ids.below row.id (mem_map_of_mem old)).ne'
      · obtain rfl := mem_singleton.mp new
        rw [(effect _ _).2] at pending
        cases pending
    case flights => exact flights
  · have db : (state.proceed clock place flight).db = state.db := same
    have quiet : (state.proceed clock place flight).residentMessages = state.residentMessages := by
      show state.residentMessages ++ residentMessagesOf state.db (flight.proceed clock state.db).1 flight.call = _
      rw [same, fresh_of_nothing, append_nil]
    constructor
    case ids => rw [db]; exact sound.ids
    case stored => rw [db, quiet]; exact sound.stored
    case proposed =>
      intro row mem pending
      rw [db] at mem
      obtain ⟨proposedAt, proposed⟩ := sound.proposed row mem pending
      refine ⟨proposedAt, proposed.later fun message fresh => ?_⟩
      rw [same, fresh_of_nothing] at fresh
      cases fresh
    case flights => exact flights

theorem launch_sound {now : Instant} {more : List ThreadFlight} (launched : state.launch now more = some after)
    (known : ∀ flight ∈ more, flight.Sound state.db now) : after.Sound := by
  unfold ThreadState.launch at launched
  split at launched
  · rename_i passes
    cases launched
    constructor
    case ids => exact sound.ids
    case stored => exact sound.stored
    case proposed =>
      intro row mem pending
      obtain ⟨proposedAt, proposed⟩ := sound.proposed row mem pending
      exact ⟨proposedAt, proposed.status, proposed.stamped, proposed.proposer, proposed.unanswered⟩
    case flights =>
      intro flight mem
      rcases mem_append.mp mem with old | new
      · exact (sound.flights flight old).later (.of_threads rfl) passes
      · exact known flight new
  · cases launched

variable {event : FlightEvent}

theorem step_sound (undisturbed : Undisturbed state event) (step : FlightStep env state event after) : after.Sound := by
  have stamped : ∀ row ∈ state.db.threads, row.status = .pendingResidentConfirmation → row.resolutionProposedAt ≠ none := by
    intro row mem pending
    obtain ⟨proposedAt, proposed⟩ := sound.proposed row mem pending
    rw [proposed.stamped]
    exact Option.some_ne_none _
  unfold FlightStep ThreadState.next at step
  cases event with
  | begin now call =>
    simp only at step
    split at step
    · rename_i planned done
      refine launch_sound sound step fun flight mem => ?_
      obtain rfl := mem_singleton.mp mem
      refine ⟨plan_effect stamped done, fun user id dto same => ?_⟩
      subst same
      simp only [plan, bind_eq_ok] at done
      obtain ⟨write, confirmed, -⟩ := done
      exact confirmResolution_household confirmed
    · cases step
  | queryProposals now =>
    refine launch_sound sound step fun flight mem => ?_
    obtain ⟨thread, listed, rfl⟩ := mem_map.mp mem
    exact ⟨le_rfl, of_decide_eq_true (mem_filter.mp listed).2⟩
  | queryInactive now =>
    refine launch_sound sound step fun flight mem => ?_
    obtain ⟨thread, -, rfl⟩ := mem_map.mp mem
    trivial
  | queryBreaches now =>
    refine launch_sound sound step fun flight mem => ?_
    obtain ⟨thread, -, rfl⟩ := mem_map.mp mem
    trivial
  | proceed clock place =>
    simp only at step
    split at step
    · rename_i flight here
      split at step
      · rename_i passes
        cases step
        exact proceed_sound sound here (undisturbed flight here) passes
      · cases step
    · cases step
  | setUp next =>
    cases step
    constructor
    case ids => exact sound.ids
    case stored => exact sound.stored
    case proposed =>
      intro row mem pending
      obtain ⟨proposedAt, proposed⟩ := sound.proposed row mem pending
      exact ⟨proposedAt, proposed.status, proposed.stamped, proposed.proposer, proposed.unanswered⟩
    case flights => exact fun flight mem => (sound.flights flight mem).later (.of_threads rfl) le_rfl

omit sound in
theorem lawful_of_threads (same : after.db.threads = state.db.threads)
    (other : ∀ clock place, event ≠ .proceed clock place) : Lawful state event after := by
  constructor
  case resolved =>
    intro thread mem resolved fresh
    rw [same] at mem
    exact absurd resolved (fresh thread mem rfl)
  case heard => exact fun clock place _ _ _ same => absurd same (other clock place)

theorem proceed_lawful (here : state.flights[place]? = some flight) (undisturbed : flight.Undisturbed state)
    (passes : state.time ≤ clock) : Lawful state (.proceed clock place) (state.proceed clock place flight) := by
  have known := sound.flights flight (mem_of_getElem? here)
  constructor
  case resolved =>
    intro thread mem resolved fresh
    rcases proceed_cases state.db clock flight with
      ⟨write, writes, same⟩ | ⟨call, draft, first, rfl, same⟩ | ⟨-, same⟩
    · have mem : thread ∈ (flight.proceed clock state.db).1.threads := mem
      rw [same] at mem
      obtain ⟨row, listed, rfl⟩ := mem_updateBy.mp mem
      split at resolved
      · rename_i own
        have id := (write_kept known writes row).1
        rw [if_pos own] at fresh ⊢
        refine ⟨clock, place, flight, row, rfl, here, ?_, ?_⟩
        · rw [id]
          exact found_of_mem sound listed
        · exact resolves_lawfully sound known undisturbed passes writes listed own resolved (fresh row listed id.symm)
      · rename_i other
        rw [if_neg other] at fresh
        exact absurd resolved (fresh row listed rfl)
    · have effect : ∀ id clock, (draft id clock).id = id ∧ (draft id clock).status = .opened := known.1
      rcases mem_append.mp mem with old | new
      · exact absurd resolved (fresh thread old rfl)
      · obtain rfl := mem_singleton.mp new
        rw [(effect _ _).2] at resolved
        cases resolved
    · have mem : thread ∈ (flight.proceed clock state.db).1.threads := mem
      rw [same] at mem
      exact absurd resolved (fresh thread mem rfl)
  case heard =>
    intro _ _ other id since same there decided message heard own
    cases same
    obtain rfl := Option.some.inj (here.symm.trans there)
    have unwritten : Unwritten state id since := by
      cases flight with
      | confirming now thread since grace => cases decided; exact undisturbed.1
      | closing now thread since => cases decided; exact undisturbed
      | planned call plan => cases decided
      | checking now thread messages since => cases decided
      | listening now thread messages since grace => cases decided
      | escalating now thread => cases decided
    exact unwritten message (sound.stored message heard) own

theorem step_lawful (undisturbed : Undisturbed state event) (step : FlightStep env state event after) :
    Lawful state event after := by
  unfold FlightStep ThreadState.next at step
  have launched : ∀ {now more}, state.launch now more = some after → after.db.threads = state.db.threads := by
    intro now more launched
    unfold ThreadState.launch at launched
    split at launched
    · cases launched
      rfl
    · cases launched
  cases event with
  | begin now call =>
    simp only at step
    split at step
    · exact lawful_of_threads (launched step) fun _ _ => nofun
    · cases step
  | queryProposals now => exact lawful_of_threads (launched step) fun _ _ => nofun
  | queryInactive now => exact lawful_of_threads (launched step) fun _ _ => nofun
  | queryBreaches now => exact lawful_of_threads (launched step) fun _ _ => nofun
  | proceed clock place =>
    simp only at step
    split at step
    · rename_i flight here
      split at step
      · rename_i passes
        cases step
        exact proceed_lawful sound here (undisturbed flight here) passes
      · cases step
    · cases step
  | setUp next =>
    cases step
    exact lawful_of_threads rfl fun _ _ => nofun

end

structure Empty (state : ThreadState) : Prop where
  threads : state.db.threads = []
  flights : state.flights = []
  messages : state.residentMessages = []

/-- While each step finds its thread undisturbed, a thread is resolved only as the resident or the grace period decides. -/
theorem resolution_by_resident (env : ThreadEnv) {start middle later : ThreadState} {events : List FlightEvent}
    {event : FlightEvent} (empty : Empty start) (run : Run (Guarded Undisturbed (FlightStep env)) start events middle)
    (move : Guarded Undisturbed (FlightStep env) middle event later) : Lawful middle event later := by
  have initial : start.Sound := by
    obtain ⟨threads, flights, messages⟩ := empty
    constructor
    case ids => rw [threads]; exact .nil
    case stored => rw [messages]; exact fun _ member => nomatch member
    case proposed => rw [threads]; exact fun _ member => nomatch member
    case flights => rw [flights]; exact fun _ member => nomatch member
  have sound : middle.Sound := run.invariant (fun _ _ _ sound move => step_sound sound move.1 move.2) initial
  exact step_lawful sound move.1 move.2

namespace Sample

def vacant : ThreadState := ⟨{ home with roleAssignments := [⟨2, .managementAdmin, some 1, none, none⟩] }, 0, [], [], []⟩

theorem vacant_empty : Empty vacant := ⟨rfl, rfl, rfl⟩

def alone (now : Instant) (call : ThreadCall) : List FlightEvent := [.begin now call, .proceed now 0]

def adds : ThreadCall := .postMessage household 1 ⟨"It still leaks", false⟩

def fortnight : Instant := 15 * msPerDay

def answered : List FlightEvent := alone 0 opens ++ [.queryInactive fortnight, .begin fortnight adds, .proceed fortnight 1]

def settled : List FlightEvent := alone 0 opens ++ alone 0 replies ++ alone 0 proposes ++ [.begin 0 confirms]

end Sample

theorem message_overwritten : ∃ events middle event later, Empty Sample.vacant ∧
    Run (FlightStep Sample.plainEnv) Sample.vacant events middle ∧ FlightStep Sample.plainEnv middle event later ∧
    ¬ Lawful middle event later := by
  have ends : ((Sample.answered.foldlM (ThreadState.next Sample.plainEnv) Sample.vacant).bind fun middle =>
      (middle.next Sample.plainEnv (.proceed Sample.fortnight 0)).map fun later =>
        (middle.flights[0]?.bind ThreadFlight.decided,
          middle.residentMessages.any fun message => decide (message.threadId = 1 ∧ 3 ≤ message.id),
          later.db.threads.map Thread.status)) = some (some (1, 3), true, [.closed]) := by
    decide +kernel
  obtain ⟨middle, folds, moved⟩ := Option.bind_eq_some_iff.mp ends
  obtain ⟨later, step, figures⟩ := Option.map_eq_some_iff.mp moved
  obtain ⟨decided, figures⟩ := Prod.mk.inj figures
  obtain ⟨flight, here, decided⟩ := Option.bind_eq_some_iff.mp decided
  refine ⟨Sample.answered, middle, .proceed Sample.fortnight 0, later, Sample.vacant_empty, .of_foldlM folds, step, ?_⟩
  intro lawful
  obtain ⟨message, heard, late⟩ := List.any_eq_true.mp (Prod.mk.inj figures).1
  obtain ⟨own, late⟩ := of_decide_eq_true late
  exact absurd (lawful.heard _ _ flight 1 3 rfl here decided message heard own) (Nat.not_lt.mpr late)

theorem resolution_by_resident_confirmed : ∃ events middle event later, Empty Sample.vacant ∧
    Run (FlightStep Sample.plainEnv) Sample.vacant events middle ∧ FlightStep Sample.plainEnv middle event later ∧
    later.db.threads.map Thread.status = [.resolved] ∧ Lawful middle event later := by
  let guarded (state : ThreadState) (event : FlightEvent) : Option ThreadState :=
    if Undisturbed state event then state.next Sample.plainEnv event else none
  have ends : ((Sample.settled.foldlM guarded Sample.vacant).bind fun middle =>
      (guarded middle (.proceed 0 0)).map fun later => later.db.threads.map Thread.status) = some [.resolved] := by
    decide +kernel
  have steps : ∀ before event after, guarded before event = some after →
      Guarded Undisturbed (FlightStep Sample.plainEnv) before event after := by
    intro before event after moved
    by_cases undisturbed : Undisturbed before event
    · exact ⟨undisturbed, (if_pos undisturbed).symm.trans moved⟩
    · cases (if_neg undisturbed).symm.trans moved
  obtain ⟨middle, folds, moved⟩ := Option.bind_eq_some_iff.mp ends
  obtain ⟨later, moved, resolved⟩ := Option.map_eq_some_iff.mp moved
  have run := (Run.of_foldlM folds).mono steps
  have move := steps _ _ _ moved
  exact ⟨_, middle, _, later, Sample.vacant_empty, run.guard_forgotten, move.2, resolved,
    resolution_by_resident Sample.plainEnv Sample.vacant_empty run move⟩

end SmartResidence.Threads
