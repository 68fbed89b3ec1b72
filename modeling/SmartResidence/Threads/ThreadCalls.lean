import SmartResidence.Threads.ThreadsService
import SmartResidence.Foundation.Runs

/-!
# The scans of `sla.service.ts` and the calls on threads
-/

namespace SmartResidence.Threads

open Foundation Billing Settings

def activeStatuses : List ThreadStatus := [.opened, .awaitingResident, .awaitingManagement, .reopened]

def overdue (now : Instant) (due done : Option Instant) : Bool :=
  decide (done = none) && due.any fun due => decide (due < now)

def breachedThreads (now : Instant) (db : ThreadDb) : List Thread :=
  db.threads.filter fun thread => decide (thread.status ∈ activeStatuses) &&
    (overdue now thread.firstResponseDueAt thread.firstRespondedAt || overdue now thread.resolutionDueAt thread.resolvedAt)

def escalate (now : Instant) (thread : Thread) : ThreadWrite where
  threadId := thread.id
  change := fun row =>
    { row with repeatComplainant := thread.repeatComplainant, slaEscalatedAt := some now }
  messages := []

def recentMessages (db : ThreadDb) (threadId : Id) : List ThreadMessage :=
  ((db.messages.filter fun message => decide (message.threadId = threadId ∧ message.kind = .message)).mergeSort
    fun first second => decide (second.createdAt ≤ first.createdAt)).take 20

def silentSince (managers : List Id) (messages : List ThreadMessage) : Bool :=
  match messages.find? fun message => decide (message.authorUserId ∈ managers) with
  | none => false
  | some last => !messages.any fun message =>
      decide (message.authorUserId ∉ managers ∧ last.createdAt < message.createdAt)

def graceMs (db : ThreadDb) (condoId : Id) : ℚ := gracePeriodDays db condoId * msPerDay

def proposedBeforeGrace (now : Instant) (db : ThreadDb) (thread : Thread) : Bool :=
  thread.resolutionProposedAt.any fun (proposed : Instant) => decide ((proposed : ℚ) ≤ now - graceMs db thread.condoId)

/-- The threads that `scanForResolutionAutoConfirm` is going to resolve. -/
def staleProposals (now : Instant) (db : ThreadDb) : List Thread :=
  db.threads.filter fun thread => decide (thread.status = .pendingResidentConfirmation) &&
    proposedBeforeGrace now db thread &&
      silentSince (db.managementUserIds thread.condoId) (recentMessages db thread.id)

def autoConfirmResolution (now : Instant) (thread : Thread) : ThreadWrite where
  threadId := thread.id
  change := Thread.resolve now
  messages := [⟨thread.resolutionProposedByUserId.getD thread.createdByUserId, .system,
    "Auto-closed — no response in time."⟩]

def inactivityAutoCloseDays : ℤ := 14

/-- The threads that `scanForInactivityAutoClose` is going to close. -/
def inactiveThreads (now : Instant) (db : ThreadDb) : List Thread :=
  db.threads.filter fun thread => decide (thread.status ∈ activeStatuses ∧
    thread.lastMessageAt < now - inactivityAutoCloseDays * msPerDay)

def autoCloseInactive (now : Instant) (thread : Thread) : ThreadWrite where
  threadId := thread.id
  change := fun row => { row with status := .closed, closedAt := some now, lastMessageAt := now }
  messages := [⟨thread.createdByUserId, .system, "Closed — no activity."⟩]

/-!
## Calls on threads

A call plans its transaction from what it reads. The scans plan one transaction for each thread that they find.
-/

inductive ThreadCall
  | create (user : AuthenticatedUser) (dto : CreateThreadDto)
  | postMessage (user : AuthenticatedUser) (id : Id) (dto : PostMessageDto)
  | update (user : AuthenticatedUser) (id : Id) (dto : UpdateThreadDto)
  | proposeResolution (user : AuthenticatedUser) (id : Id) (dto : ProposeResolutionDto)
  | confirmResolution (user : AuthenticatedUser) (id : Id) (dto : ConfirmResolutionDto)
  | appeal (user : AuthenticatedUser) (id : Id) (reason : String)
  | requestResident (user : AuthenticatedUser) (id : Id) (body : Option String)
  | closeAbusive (user : AuthenticatedUser) (id : Id) (reason : String)

inductive ThreadPlan
  | insert (row : Id → Instant → Thread) (message : NewMessage)
  | write (write : ThreadWrite)
  | nothing

section

variable (env : ThreadEnv) (now : Instant) (db : ThreadDb)

def plan : ThreadCall → Result ThreadPlan
  | .create user dto => do
      let row ← create env now db user dto
      return .insert row ⟨user.id, .message, dto.body⟩
  | .postMessage user id dto => do return .write (← postMessage now db user id dto)
  | .update user id dto => do
      assertMayUpdate user
      match ← update env now db user id dto with
      | some write => return .write write
      | none => return .nothing
  | .proposeResolution user id dto => do return .write (← proposeResolution now db user id dto)
  | .confirmResolution user id dto => do return .write (← confirmResolution now db user id dto)
  | .appeal user id reason => do return .write (← appeal now db user id reason)
  | .requestResident user id body => do return .write (← requestResident now db user id body)
  | .closeAbusive user id reason => do return .write (← closeAbusive now db user id reason)

def ThreadDb.commit (clock : Instant) : ThreadPlan → ThreadDb
  | .insert row message => db.insertThread clock row message
  | .write write => db.write clock write
  | .nothing => db

def ThreadDb.writeAll (clock : Instant) (writes : List ThreadWrite) : ThreadDb :=
  writes.foldl (fun db write => db.write clock write) db

def scanForResolutionAutoConfirm : List ThreadWrite := (staleProposals now db).map (autoConfirmResolution now)

def scanForInactivityAutoClose : List ThreadWrite := (inactiveThreads now db).map (autoCloseInactive now)

def scanForBreaches : List ThreadWrite :=
  ((breachedThreads now db).filter fun thread => decide (thread.slaEscalatedAt = none)).map (escalate now)

end

inductive ThreadEvent
  | call (call : ThreadCall)
  | autoConfirm
  | autoClose
  | escalate
  | setUp (next : ThreadDb)

inductive ThreadStep (env : ThreadEnv) (now clock : Instant) (before : ThreadDb) : ThreadEvent → ThreadDb → Prop
  | call {call : ThreadCall} {plan : ThreadPlan} : Threads.plan env now before call = .ok plan →
      ThreadStep env now clock before (.call call) (before.commit clock plan)
  | autoConfirm : ThreadStep env now clock before .autoConfirm
      (before.writeAll clock (scanForResolutionAutoConfirm now before))
  | autoClose : ThreadStep env now clock before .autoClose
      (before.writeAll clock (scanForInactivityAutoClose now before))
  | escalate : ThreadStep env now clock before .escalate (before.writeAll clock (scanForBreaches now before))
  | setUp {next : ThreadDb} : next.threads = before.threads → next.messages = before.messages →
      next.nextId = before.nextId → ThreadStep env now clock before (.setUp next) next

/-!
## Concurrent calls and scans on threads

A call reads in one step and commits in another. A scan finds its threads in one step; each of them is then checked and
written in steps of its own.
-/

def ThreadCall.user : ThreadCall → AuthenticatedUser
  | .create user _ | .postMessage user _ _ | .update user _ _ | .proposeResolution user _ _
  | .confirmResolution user _ _ | .appeal user _ _ | .requestResident user _ _ | .closeAbusive user _ _ => user

/-- What a call or a scan still has to do. The ids from `since` on were given after the query of the scan. -/
inductive ThreadFlight
  | planned (call : ThreadCall) (plan : ThreadPlan)
  /-- A pending thread that `scanForResolutionAutoConfirm` has found, with its last messages. -/
  | checking (now : Instant) (thread : Thread) (messages : List ThreadMessage) (since : Nat)
  | listening (now : Instant) (thread : Thread) (messages : List ThreadMessage) (since : Nat) (grace : ℚ)
  | confirming (now : Instant) (thread : Thread) (since : Nat) (grace : ℚ)
  | closing (now : Instant) (thread : Thread) (since : Nat)
  | escalating (now : Instant) (thread : Thread)

def ThreadFlight.call : ThreadFlight → Option ThreadCall
  | .planned call _ => some call
  | _ => none

def ThreadFlight.proceed (clock : Instant) (db : ThreadDb) : ThreadFlight → ThreadDb × List ThreadFlight
  | .planned _ plan => (db.commit clock plan, [])
  | .checking now thread messages since =>
      (db, if proposedBeforeGrace now db thread then [.listening now thread messages since (graceMs db thread.condoId)]
        else [])
  | .listening now thread messages since grace =>
      (db, if silentSince (db.managementUserIds thread.condoId) messages then [.confirming now thread since grace] else [])
  | .confirming now thread _ _ => (db.write clock (autoConfirmResolution now thread), [])
  | .closing now thread _ => (db.write clock (autoCloseInactive now thread), [])
  | .escalating now thread => (db.write clock (escalate now thread), [])

def queryProposals (now : Instant) (db : ThreadDb) : List ThreadFlight :=
  (db.threads.filter fun thread => decide (thread.status = .pendingResidentConfirmation)).map fun thread =>
    .checking now thread (recentMessages db thread.id) db.nextId

def queryInactive (now : Instant) (db : ThreadDb) : List ThreadFlight :=
  (inactiveThreads now db).map fun thread => .closing now thread db.nextId

def queryBreaches (now : Instant) (db : ThreadDb) : List ThreadFlight :=
  ((breachedThreads now db).filter fun thread => decide (thread.slaEscalatedAt = none)).map (.escalating now)

/-- `committed` and `residentMessages` are kept for the record: nothing reads them. -/
structure ThreadState where
  db : ThreadDb
  time : Instant
  flights : List ThreadFlight
  committed : List ThreadCall
  residentMessages : List ThreadMessage

def residentMessagesOf (before after : ThreadDb) (call : Option ThreadCall) : List ThreadMessage :=
  if call.any fun call => !isManagement call.user then
    (after.messages.drop before.messages.length).filter fun message => decide (message.kind = .message)
  else []

inductive FlightEvent
  | begin (now : Instant) (call : ThreadCall)
  | queryProposals (now : Instant)
  | queryInactive (now : Instant)
  | queryBreaches (now : Instant)
  | proceed (clock : Instant) (place : Nat)
  | setUp (next : ThreadDb)

namespace ThreadState

def proceed (state : ThreadState) (clock : Instant) (place : Nat) (flight : ThreadFlight) : ThreadState :=
  let (after, more) := flight.proceed clock state.db
  { db := after
    time := clock
    flights := state.flights.eraseIdx place ++ more
    committed := state.committed ++ flight.call.toList
    residentMessages := state.residentMessages ++ residentMessagesOf state.db after flight.call }

def launch (state : ThreadState) (now : Instant) (more : List ThreadFlight) : Option ThreadState :=
  if state.time ≤ now then some { state with time := now, flights := state.flights ++ more } else none

def next (env : ThreadEnv) (state : ThreadState) : FlightEvent → Option ThreadState
  | .begin now call =>
      match plan env now state.db call with
      | .ok plan => state.launch now [.planned call plan]
      | .error _ => none
  | .queryProposals now => state.launch now (Threads.queryProposals now state.db)
  | .queryInactive now => state.launch now (Threads.queryInactive now state.db)
  | .queryBreaches now => state.launch now (Threads.queryBreaches now state.db)
  | .proceed clock place =>
      match state.flights[place]? with
      | some flight => if state.time ≤ clock then some (state.proceed clock place flight) else none
      | none => none
  | .setUp next => some { state with
      db := { state.db with
        condos := next.condos, units := next.units, roleAssignments := next.roleAssignments
        slaPolicies := next.slaPolicies, policies_unique := next.policies_unique } }

end ThreadState

def FlightStep (env : ThreadEnv) (before : ThreadState) (event : FlightEvent) (after : ThreadState) : Prop :=
  before.next env event = some after

end SmartResidence.Threads
