import SmartResidence.Threads.Schema

/-!
# `threads.service.ts`

A call reads the thread and decides what to write. The write is a transaction of its own.
-/

namespace SmartResidence.Threads

open Foundation Billing Settings

structure NewMessage where
  authorUserId : Id
  kind : ThreadMessageKind
  body : String
  deriving DecidableEq

structure ThreadWrite where
  threadId : Id
  change : Thread → Thread
  messages : List NewMessage

def NewMessage.row (message : NewMessage) (id threadId : Id) (createdAt : Instant) : ThreadMessage :=
  ⟨id, threadId, message.authorUserId, message.kind, message.body, createdAt⟩

def ThreadDb.write (db : ThreadDb) (clock : Instant) (write : ThreadWrite) : ThreadDb :=
  { db with
    threads := updateBy Thread.id write.threadId write.change db.threads
    messages := db.messages ++
      write.messages.mapIdx fun i message => message.row (db.nextId + i) write.threadId clock
    nextId := db.nextId + write.messages.length }

def canActAsResident (user : AuthenticatedUser) (thread : Thread) : Bool :=
  !isManagement user && thread.unitId.any fun unitId => decide (unitId ∈ unitIds user)

def mayAccess (user : AuthenticatedUser) (thread : Thread) : Bool :=
  if isManagement user then decide (thread.condoId ∈ managementCondoIds user)
  else decide (thread.createdByUserId = user.id) || thread.unitId.any fun unitId => decide (unitId ∈ unitIds user)

def loadAndAuthorize (db : ThreadDb) (user : AuthenticatedUser) (id : Id) : Result Thread := do
  let thread ← orThrow (db.thread? id) (.notFound "Not Found")
  throwIf (¬ mayAccess user thread) (.forbidden "Forbidden")
  return thread

structure AutoAssignmentSettings where
  generalTriagePool : List Id
  categoryPools : List (ThreadCategory × List Id)
  seniorStaffPool : List Id
  priorityPools : Option (List (ThreadPriority × List Id))

structure ThreadEnv where
  autoAssignment : Json → Option AutoAssignmentSettings
  suggestPriority : ThreadDb → Id → ThreadCategory → String → String → ThreadPriority
  suggestPool : ThreadDb → Id → ThreadCategory → String → Bool → List Id

def resolveRulesPool (auto : AutoAssignmentSettings) (category : ThreadCategory) (repeatComplainant : Bool) : List Id :=
  if repeatComplainant && auto.seniorStaffPool ≠ [] then auto.seniorStaffPool
  else
    match auto.categoryPools.lookup category with
    | some (first :: rest) => first :: rest
    | _ => if category = .general then auto.generalTriagePool else []

def resolvePriorityPool (auto : AutoAssignmentSettings) (priority : ThreadPriority) (category : ThreadCategory)
    (repeatComplainant : Bool) : List Id :=
  if repeatComplainant && auto.seniorStaffPool ≠ [] then auto.seniorStaffPool
  else if priority = .urgent ∨ priority = .high then
    match (auto.priorityPools.getD []).lookup priority with
    | some (first :: rest) => first :: rest
    | _ => auto.seniorStaffPool
  else resolveRulesPool auto category false

def roundRobin (db : ThreadDb) (pool : List Id) (condoId : Id) : Option Id :=
  match (db.managementUserIds condoId).filter fun id => decide (id ∈ pool) with
  | [] => pool.head?
  | first :: others =>
      let ids := first :: others
      let recent := latestBy Thread.createdAt (db.threads.filter fun thread =>
        decide (thread.condoId = condoId) && thread.assignedToUserId.any fun id => decide (id ∈ ids))
      match recent.bind Thread.assignedToUserId with
      | none => some first
      | some last => ids[(ids.idxOf last + 1) % ids.length]?

def roundRobinOf (db : ThreadDb) (pool : List Id) (condoId : Id) : Option Id :=
  if pool = [] then none else roundRobin db pool condoId

def isRepeatComplainant (now : Instant) (db : ThreadDb) (condoId userId : Id) (unitId : Option Id) : Bool :=
  decide (3 ≤ (db.threads.filter fun thread =>
    decide (thread.condoId = condoId ∧ now - 30 * msPerDay ≤ thread.createdAt ∧ thread.status ≠ .closed ∧
      (thread.createdByUserId = userId ∨ unitId ≠ none ∧ thread.unitId = unitId))).length)

def assignOnRecategorise (env : ThreadEnv) (db : ThreadDb) (condoId : Id) (category : ThreadCategory)
    (repeatComplainant : Bool) (subject : String) : Option Id :=
  roundRobinOf db (env.suggestPool db condoId category subject repeatComplainant) condoId

def priorityPool (env : ThreadEnv) (db : ThreadDb) (condoId : Id) (priority : ThreadPriority)
    (repeatComplainant : Bool) (category : ThreadCategory) : List Id :=
  ((env.autoAssignment (db.settingsOf condoId)).map fun auto =>
    resolvePriorityPool auto priority category repeatComplainant).getD []

def assignOnPriorityChange (env : ThreadEnv) (db : ThreadDb) (condoId : Id) (priority : ThreadPriority)
    (repeatComplainant : Bool) (category : ThreadCategory) (currentAssigneeId : Option Id) : Option Id :=
  roundRobinOf db (priorityPool env db condoId priority repeatComplainant category) condoId <|> currentAssigneeId

/-! ## Create, list and read -/

structure CreateThreadDto where
  unitId : Option Id
  subject : String
  category : ThreadCategory
  body : String

structure ThreadPlace where
  condoId : Id
  unitId : Option Id

def placeOf (db : ThreadDb) (user : AuthenticatedUser) (unitId : Option Id) : Result ThreadPlace :=
  match unitId with
  | some unitId => do
      let unit ← orThrow (db.unit? unitId) (.notFound "Unit not found")
      throwIf (¬ isManagement user ∧ unitId ∉ unitIds user) (.forbidden "You cannot open a thread for this unit")
      return ⟨unit.condoId, some unitId⟩
  | none => do
      let residentRole := user.roles.find? fun r => r.unitId.isSome
      let condoId ← orThrow ((residentRole.bind RoleAssignment.condoId) <|>
          (user.roles.find? fun r => r.condoId.isSome).bind RoleAssignment.condoId)
        (.badRequest "No condo context for this thread")
      return ⟨condoId, residentRole.bind RoleAssignment.unitId⟩

/-- The row that `create` inserts, beside the first message of its author. -/
def draftThread (env : ThreadEnv) (now : Instant) (db : ThreadDb) (user : AuthenticatedUser) (dto : CreateThreadDto)
    (place : ThreadPlace) (id : Id) (createdAt : Instant) : Thread :=
  let priority := env.suggestPriority db place.condoId dto.category dto.subject dto.body
  let due := computeDueDates db place.condoId priority now
  let repeatComplainant := isRepeatComplainant now db place.condoId user.id place.unitId
  { id := id, condoId := place.condoId, unitId := place.unitId, createdByUserId := user.id
    assignedToUserId := assignOnRecategorise env db place.condoId dto.category repeatComplainant dto.subject
    subject := dto.subject, category := dto.category, priority := priority, status := .opened
    slaPolicyId := due.slaPolicyId, firstResponseDueAt := some due.firstResponseDueAt
    resolutionDueAt := some due.resolutionDueAt, firstRespondedAt := none
    resolvedAt := none, closedAt := none, resolutionProposedAt := none, resolutionProposedByUserId := none
    resolutionProposedMessageId := none, reopenCount := 0, lastMessageAt := now
    repeatComplainant := repeatComplainant, slaEscalatedAt := none, createdAt := createdAt }

def create (env : ThreadEnv) (now : Instant) (db : ThreadDb) (user : AuthenticatedUser) (dto : CreateThreadDto) :
    Result (Id → Instant → Thread) := do
  let place ← placeOf db user dto.unitId
  return draftThread env now db user dto place

def ThreadDb.insertThread (db : ThreadDb) (clock : Instant) (row : Id → Instant → Thread) (message : NewMessage) : ThreadDb :=
  { db with
    threads := db.threads ++ [row db.nextId clock]
    messages := db.messages ++ [message.row (db.nextId + 1) db.nextId clock]
    nextId := db.nextId + 2 }

structure ListThreadsDto where
  status : Option ThreadStatus
  priority : Option ThreadPriority
  category : Option ThreadCategory
  assignedToUserId : Option Id
  slaState : Option SlaState
  limit : Nat
  offset : Nat

def listed (user : AuthenticatedUser) (dto : ListThreadsDto) (thread : Thread) : Bool :=
  dto.status.all (fun status => decide (thread.status = status)) &&
    dto.priority.all (fun priority => decide (thread.priority = priority)) &&
    dto.category.all (fun category => decide (thread.category = category)) &&
    dto.assignedToUserId.all (fun id => decide (thread.assignedToUserId = some id)) &&
    mayAccess user thread

structure ThreadItem where
  thread : Thread
  slaState : SlaState

structure ThreadPage where
  items : List ThreadItem
  total : Nat

def newestFirst (threads : List Thread) : List Thread :=
  threads.mergeSort fun first second => decide (second.lastMessageAt ≤ first.lastMessageAt)

def list (now : Instant) (db : ThreadDb) (user : AuthenticatedUser) (dto : ListThreadsDto) : ThreadPage :=
  let found := db.threads.filter (listed user dto)
  let page := (((newestFirst found).drop dto.offset).take dto.limit).map fun thread => ⟨thread, computeSlaState now thread⟩
  { items := page.filter fun item => dto.slaState.all fun state => decide (item.slaState = state)
    total := found.length }

structure ThreadDetail where
  thread : Thread
  messages : List ThreadMessage
  slaState : SlaState

def getOne (now : Instant) (db : ThreadDb) (user : AuthenticatedUser) (id : Id) : Result ThreadDetail := do
  let thread ← loadAndAuthorize db user id
  return {
    thread := thread
    messages := (db.messages.filter fun message =>
      decide (message.threadId = id) && (isManagement user || decide (message.kind ≠ .internalNote))).mergeSort
        fun first second => decide (first.createdAt ≤ second.createdAt)
    slaState := computeSlaState now thread }

structure PostMessageDto where
  body : String
  internalNote : Bool

def managementReply (now : Instant) (thread row : Thread) : Thread :=
  if thread.status = .resolved ∨ thread.status = .closed then { row with lastMessageAt := now }
  else
    { row with
      status := .awaitingManagement
      resolutionProposedAt := none, resolutionProposedByUserId := none, resolutionProposedMessageId := none
      firstRespondedAt := if thread.firstRespondedAt = none then some now else row.firstRespondedAt
      lastMessageAt := now }

def postMessage (now : Instant) (db : ThreadDb) (user : AuthenticatedUser) (id : Id) (dto : PostMessageDto) :
    Result ThreadWrite := do
  let thread ← loadAndAuthorize db user id
  throwIf (dto.internalNote ∧ ¬ isManagement user) (.forbidden "Only management can add internal notes")
  throwIf (thread.status = .closed ∧ ¬ isManagement user) (.badRequest "This thread is closed")
  if dto.internalNote then
    return ⟨id, fun row => { row with lastMessageAt := now }, [⟨user.id, .internalNote, dto.body⟩]⟩
  let message : NewMessage := ⟨user.id, .message, dto.body⟩
  if isManagement user then return ⟨id, managementReply now thread, [message]⟩
  match thread.status with
  | .resolved | .closed =>
      return ⟨id, fun row =>
        { row with
          status := .reopened, resolvedAt := none, closedAt := none, reopenCount := row.reopenCount + 1
          lastMessageAt := now }, [message]⟩
  | .awaitingManagement => return ⟨id, fun row => { row with lastMessageAt := now }, [message]⟩
  | .pendingResidentConfirmation =>
      .error (.badRequest "Use the reject resolution form instead of replying while confirmation is pending")
  | _ => return ⟨id, fun row => { row with status := .awaitingManagement, lastMessageAt := now }, [message]⟩

/-! ## Update -/

def ThreadStatus.name : ThreadStatus → String
  | .opened => "OPEN"
  | .awaitingResident => "AWAITING_RESIDENT"
  | .awaitingManagement => "AWAITING_MANAGEMENT"
  | .pendingResidentConfirmation => "PENDING_RESIDENT_CONFIRMATION"
  | .resolved => "RESOLVED"
  | .closed => "CLOSED"
  | .reopened => "REOPENED"

def ThreadPriority.name : ThreadPriority → String
  | .low => "LOW"
  | .normal => "NORMAL"
  | .high => "HIGH"
  | .urgent => "URGENT"

def ThreadCategory.name : ThreadCategory → String
  | .billing => "BILLING"
  | .maintenance => "MAINTENANCE"
  | .facility => "FACILITY"
  | .security => "SECURITY"
  | .complaint => "COMPLAINT"
  | .suggestion => "SUGGESTION"
  | .governance => "GOVERNANCE"
  | .general => "GENERAL"

structure UpdateThreadDto where
  priority : Option ThreadPriority
  category : Option ThreadCategory
  status : Option ThreadStatus
  assignedToUserId : Option Id

def changedTo {α : Type} [DecidableEq α] (wanted : Option α) (current : α) : Option α :=
  wanted.filter fun value => decide (value ≠ current)

structure ThreadData where
  priority : Option ThreadPriority
  due : Option SlaDueDates
  category : Option ThreadCategory
  status : Option ThreadStatus
  assignedTo : Option Id
  systemLines : List String

def ThreadData.apply (data : ThreadData) (now : Instant) (row : Thread) : Thread :=
  { row with
    priority := data.priority.getD row.priority
    firstResponseDueAt := (data.due.map SlaDueDates.firstResponseDueAt) <|> row.firstResponseDueAt
    resolutionDueAt := (data.due.map SlaDueDates.resolutionDueAt) <|> row.resolutionDueAt
    slaPolicyId := (data.due.bind SlaDueDates.slaPolicyId) <|> row.slaPolicyId
    category := data.category.getD row.category
    assignedToUserId := data.assignedTo <|> row.assignedToUserId
    status := data.status.getD row.status
    resolvedAt :=
      if data.status = some .resolved then some now
      else if data.status = some .reopened then none else row.resolvedAt
    closedAt :=
      if data.status = some .closed then some now
      else if data.status = some .reopened then none else row.closedAt
    lastMessageAt := now }

def updateData (env : ThreadEnv) (db : ThreadDb) (thread : Thread) (dto : UpdateThreadDto) : ThreadData :=
  let priority := changedTo dto.priority thread.priority
  let category := changedTo dto.category thread.category
  let status := changedTo dto.status thread.status
  let another (chosen : Option Id) := chosen.filter fun id => decide (some id ≠ thread.assignedToUserId)
  let byPriority := another (priority.bind fun priority => assignOnPriorityChange env db thread.condoId priority
    thread.repeatComplainant thread.category thread.assignedToUserId)
  let byCategory := another (category.bind fun category => assignOnRecategorise env db thread.condoId category
    thread.repeatComplainant thread.subject)
  let byHand := another dto.assignedToUserId
  { priority := priority
    due := priority.map fun priority => computeDueDates db thread.condoId priority thread.createdAt
    category := category
    status := status
    assignedTo := byHand <|> byCategory <|> byPriority
    systemLines :=
      (priority.map fun priority => "Priority changed to " ++ priority.name).toList ++
      (byPriority.map fun _ => "Auto-reassigned after priority change").toList ++
      (category.map fun category => "Category changed to " ++ category.name).toList ++
      (byCategory.map fun _ => "Auto-reassigned after recategorisation").toList ++
      (byHand.map fun _ => "Thread reassigned").toList ++
      (status.map fun status => "Status changed to " ++ status.name).toList }

def resolutionStatuses : List ThreadStatus := [.resolved, .closed, .pendingResidentConfirmation]

/-- The guard of the controller: of the roles only those of management may `update` a `Thread`. -/
def assertMayUpdate (user : AuthenticatedUser) : Result Unit :=
  throwIf (¬ isManagement user) (.forbidden "Missing update on Thread")

def update (env : ThreadEnv) (now : Instant) (db : ThreadDb) (user : AuthenticatedUser) (id : Id) (dto : UpdateThreadDto) :
    Result (Option ThreadWrite) := do
  let thread ← loadAndAuthorize db user id
  throwIf (isManagement user ∧ dto.status.any fun status => decide (status ∈ resolutionStatuses)) (.forbidden
    "Management cannot resolve a thread directly — propose resolution for the resident to confirm.")
  let data := updateData env db thread dto
  if data.systemLines = [] then return none
  return some ⟨id, data.apply now, [⟨user.id, .system, "; ".intercalate data.systemLines⟩]⟩

/-! ## Resolution -/

structure ProposeResolutionDto where
  messageId : Option Id
  note : Option String

/-- `text?.trim()`, where an empty text is none. -/
def noteOf (text : Option String) : Option String := (text.map trimText).filter fun note => decide (note ≠ "")

def proposeResolution (now : Instant) (db : ThreadDb) (user : AuthenticatedUser) (id : Id) (dto : ProposeResolutionDto) :
    Result ThreadWrite := do
  let thread ← loadAndAuthorize db user id
  throwIf (¬ isManagement user) (.forbidden "Only management can propose a resolution")
  throwIf (thread.status = .resolved ∨ thread.status = .closed) (.badRequest "This thread is already resolved")
  throwIf (thread.status = .awaitingResident)
    (.badRequest "Cannot propose resolution while awaiting a response from the resident")
  throwIf (thread.firstRespondedAt = none)
    (.badRequest "Respond to the resident before proposing a resolution")
  let isUpdate := decide (thread.status = .pendingResidentConfirmation) && dto.messageId.isSome
  throwIf (¬ dto.messageId.all fun messageId => db.messages.any fun message =>
      decide (message.id = messageId ∧ message.threadId = id ∧ message.kind = .message))
    (.badRequest "Proposed solution message not found")
  let note := if dto.messageId.isSome then none else noteOf dto.note
  return {
    threadId := id
    change := fun row =>
      { row with
        status := .pendingResidentConfirmation
        resolutionProposedAt := if isUpdate then thread.resolutionProposedAt else some now
        resolutionProposedByUserId := some user.id
        resolutionProposedMessageId := dto.messageId
        firstRespondedAt := thread.firstRespondedAt <|> some now
        lastMessageAt := now }
    messages := (note.map fun note => ⟨user.id, .message, note⟩).toList ++
      [⟨user.id, .system, if isUpdate then "Changed which reply is the fix."
        else "Marked as fixed — waiting for resident to confirm."⟩] }

structure ConfirmResolutionDto where
  confirmed : Bool
  rejectReason : Option String
  rejectExpectation : Option String

def Thread.resolve (now : Instant) (row : Thread) : Thread :=
  { row with
    status := .resolved, resolvedAt := some now
    resolutionProposedAt := none, resolutionProposedByUserId := none, resolutionProposedMessageId := none
    lastMessageAt := now }

def rejectBody (reason expectation : String) : String :=
  "**Why not resolved:** " ++ reason ++ "\n\n**What I still need:** " ++ expectation

def confirmResolution (now : Instant) (db : ThreadDb) (user : AuthenticatedUser) (id : Id) (dto : ConfirmResolutionDto) :
    Result ThreadWrite := do
  let thread ← loadAndAuthorize db user id
  throwIf (¬ canActAsResident user thread) (.forbidden "Only a household member can confirm resolution")
  throwIf (thread.status = .closed) (.badRequest "This thread is closed")
  if dto.confirmed then
    return ⟨id, Thread.resolve now, [⟨user.id, .system, "Resident confirmed — ticket closed."⟩]⟩
  match noteOf dto.rejectReason, noteOf dto.rejectExpectation with
  | some reason, some expectation =>
      return {
        threadId := id
        change := fun row =>
          { row with
            status := .awaitingManagement
            resolutionProposedAt := none, resolutionProposedByUserId := none, resolutionProposedMessageId := none
            lastMessageAt := now }
        messages := [⟨user.id, .message, rejectBody reason expectation⟩,
          ⟨user.id, .system, "Resident said it's not fixed yet."⟩] }
  | _, _ => .error (.badRequest "Please explain why you are rejecting and what you still need")

def appeal (now : Instant) (db : ThreadDb) (user : AuthenticatedUser) (id : Id) (reason : String) : Result ThreadWrite := do
  let thread ← loadAndAuthorize db user id
  throwIf (¬ canActAsResident user thread) (.forbidden "Only a household member can appeal")
  throwIf (thread.status ≠ .resolved ∧ thread.status ≠ .closed)
    (.badRequest "Appeal is only available on resolved or closed threads")
  return {
    threadId := id
    change := fun row =>
      { row with
        status := .reopened, resolvedAt := none, closedAt := none, reopenCount := row.reopenCount + 1
        lastMessageAt := now }
    messages := [⟨user.id, .message, "**Appeal / reopen:** " ++ trimText reason⟩,
      ⟨user.id, .system, "Resident reopened this ticket."⟩] }

def requestResident (now : Instant) (db : ThreadDb) (user : AuthenticatedUser) (id : Id) (body : Option String) :
    Result ThreadWrite := do
  let thread ← loadAndAuthorize db user id
  throwIf (¬ isManagement user) (.forbidden "Only management can request a response from the resident")
  throwIf (thread.status = .closed) (.badRequest "This thread is closed")
  return {
    threadId := id
    change := fun row =>
      { row with
        status := .awaitingResident
        resolutionProposedAt := none, resolutionProposedByUserId := none, resolutionProposedMessageId := none
        firstRespondedAt := thread.firstRespondedAt <|> some now
        lastMessageAt := now }
    messages := match noteOf body with
      | some note => [⟨user.id, .message, note⟩]
      | none => [⟨user.id, .system, "Waiting on resident to reply."⟩] }

def closeAbusive (now : Instant) (db : ThreadDb) (user : AuthenticatedUser) (id : Id) (reason : String) :
    Result ThreadWrite := do
  let thread ← loadAndAuthorize db user id
  throwIf (¬ isManagement user) (.forbidden "Only management can close abusive threads")
  throwIf (thread.status = .closed) (.badRequest "Thread is already closed")
  return {
    threadId := id
    change := fun row =>
      { row with
        status := .closed, closedAt := some now, lastMessageAt := now
        repeatComplainant := thread.repeatComplainant, slaEscalatedAt := thread.slaEscalatedAt }
    messages := [⟨user.id, .system, "Thread closed by management (abusive): " ++ trimText reason⟩] }

end SmartResidence.Threads
