import SmartResidence.Foundation.Rotations
import SmartResidence.Proof.ThreadAccess
import SmartResidence.Threads.ThreadCalls

/-!
# Round robin

The rows of the role assignments come in whatever order, one for each role that a user has, and the turn is where the
newest thread of the condo stands that is assigned to one of them.
-/

namespace SmartResidence.Threads

open Foundation Billing Settings List

/-! ## What the queries may return -/

def Returned (db : ThreadDb) (pool : List Id) (condoId : Id) (ids : List Id) : Prop :=
  ids.Perm ((db.managementUserIds condoId).filter fun id => decide (id ∈ pool))

def assignedAmong (condoId : Id) (ids : List Id) (thread : Thread) : Bool :=
  decide (thread.condoId = condoId) && thread.assignedToUserId.any fun id => decide (id ∈ ids)

def Recent (db : ThreadDb) (condoId : Id) (ids : List Id) : Option Thread → Prop
  | none => ∀ thread ∈ db.threads, assignedAmong condoId ids thread = false
  | some thread => thread ∈ db.threads ∧ assignedAmong condoId ids thread = true ∧
      ∀ other ∈ db.threads, assignedAmong condoId ids other = true → other.createdAt ≤ thread.createdAt

def nextOf (pool ids : List Id) (recent : Option Thread) : Option Id :=
  match ids with
  | [] => pool.head?
  | first :: others =>
      match recent.bind Thread.assignedToUserId with
      | none => some first
      | some last => (first :: others)[((first :: others).idxOf last + 1) % (first :: others).length]?

def Chosen (db : ThreadDb) (pool : List Id) (condoId : Id) (choice : Option Id) : Prop :=
  ∃ ids recent, Returned db pool condoId ids ∧ Recent db condoId ids recent ∧ choice = nextOf pool ids recent

inductive AssignCall
  | onCreate (category : ThreadCategory) (subject : String) (repeatComplainant : Bool)
  | onRecategorise (category : ThreadCategory) (repeatComplainant : Bool) (subject : String)
  | onPriorityChange (priority : ThreadPriority) (repeatComplainant : Bool) (category : ThreadCategory) (currentAssigneeId : Option Id)

namespace AssignCall

def pool (env : ThreadEnv) (db : ThreadDb) (condoId : Id) : AssignCall → List Id
  | onCreate category subject repeatComplainant => env.suggestPool db condoId category subject repeatComplainant
  | onRecategorise category repeatComplainant subject => env.suggestPool db condoId category subject repeatComplainant
  | onPriorityChange priority repeatComplainant category _ => priorityPool env db condoId priority repeatComplainant category

def otherwise : AssignCall → Option Id
  | onCreate _ _ _ | onRecategorise _ _ _ => none
  | onPriorityChange _ _ _ currentAssigneeId => currentAssigneeId

def result (env : ThreadEnv) (db : ThreadDb) (condoId : Id) : AssignCall → Option Id
  | onCreate category subject repeatComplainant => assignOnRecategorise env db condoId category repeatComplainant subject
  | onRecategorise category repeatComplainant subject => assignOnRecategorise env db condoId category repeatComplainant subject
  | onPriorityChange priority repeatComplainant category currentAssigneeId =>
      assignOnPriorityChange env db condoId priority repeatComplainant category currentAssigneeId

end AssignCall

def Assigns (env : ThreadEnv) (db : ThreadDb) (condoId : Id) (call : AssignCall) (assignee : Option Id) : Prop :=
  if call.pool env db condoId = [] then assignee = call.otherwise
  else ∃ choice, Chosen db (call.pool env db condoId) condoId choice ∧ assignee = (choice <|> call.otherwise)

section

variable {db : ThreadDb} {condoId : Id} {pool ids : List Id}

theorem recent_latest : Recent db condoId ids (latestBy Thread.createdAt (db.threads.filter (assignedAmong condoId ids))) := by
  cases latest : latestBy Thread.createdAt (db.threads.filter (assignedAmong condoId ids)) with
  | none =>
    intro thread mem
    have none := (latestBy_eq_none _).mp latest
    rw [filter_eq_nil_iff] at none
    exact Bool.eq_false_iff.mpr (none thread mem)
  | some thread =>
    obtain ⟨mem, among⟩ := mem_filter.mp (latestBy_mem _ latest)
    exact ⟨mem, among, fun other listed also => le_latestBy _ latest (mem_filter.mpr ⟨listed, also⟩)⟩

theorem roundRobin_chosen : Chosen db pool condoId (roundRobin db pool condoId) := by
  refine ⟨_, _, List.Perm.refl _, recent_latest, ?_⟩
  unfold roundRobin
  cases (db.managementUserIds condoId).filter fun id => decide (id ∈ pool) with
  | nil => rfl
  | cons first others => rfl

theorem result_assigns (env : ThreadEnv) (call : AssignCall) : Assigns env db condoId call (call.result env db condoId) := by
  unfold Assigns
  split
  · rename_i empty
    cases call with
    | onCreate category subject repeatComplainant => exact if_pos empty
    | onRecategorise category repeatComplainant subject => exact if_pos empty
    | onPriorityChange priority repeatComplainant category currentAssigneeId =>
      exact congrArg (· <|> currentAssigneeId) (if_pos empty)
  · rename_i some'
    refine ⟨_, roundRobin_chosen, ?_⟩
    cases call with
    | onCreate category subject repeatComplainant =>
      refine (if_neg some').trans ?_
      simp [AssignCall.pool, AssignCall.otherwise]
    | onRecategorise category repeatComplainant subject =>
      refine (if_neg some').trans ?_
      simp [AssignCall.pool, AssignCall.otherwise]
    | onPriorityChange priority repeatComplainant category currentAssigneeId =>
      exact congrArg (· <|> currentAssigneeId) (if_neg some')

theorem nextOf_isSome (nonempty : pool ≠ []) (recent : Option Thread) : ∃ choice, nextOf pool ids recent = some choice := by
  unfold nextOf
  split
  · obtain ⟨head, rest, rfl⟩ := exists_cons_of_ne_nil nonempty
    exact ⟨head, rfl⟩
  · rename_i first others
    split
    · exact ⟨first, rfl⟩
    · exact ⟨_, List.getElem?_eq_getElem (Nat.mod_lt _ (length_pos_of_mem mem_cons_self))⟩

theorem nextOf_mem {recent : Option Thread} {choice : Id} (some' : ids ≠ []) (pick : nextOf pool ids recent = some choice) : choice ∈ ids := by
  unfold nextOf at pick
  split at pick
  · exact absurd rfl some'
  · split at pick
    · cases pick
      exact mem_cons_self
    · exact mem_of_getElem? pick

end

/-! ## Valid choices -/

def manages (condoId : Id) (role : StoredRole) : Bool :=
  decide (role.condoId = some condoId ∧ (role.roleId = .managementAdmin ∨ role.roleId = .managementStaff) ∧ role.revokedAt = none)

def unexpired (now : Instant) (role : StoredRole) : Bool := role.expiresAt.all fun expiry => decide (now < expiry)

def Serves (now : Instant) (roles : List StoredRole) (condoId id : Id) : Prop :=
  ∃ role ∈ roles, role.userId = id ∧ manages condoId role = true ∧ unexpired now role = true

instance (now : Instant) (roles : List StoredRole) (condoId id : Id) : Decidable (Serves now roles condoId id) :=
  inferInstanceAs (Decidable (∃ role ∈ roles, role.userId = id ∧ manages condoId role = true ∧ unexpired now role = true))

/-- Whom the three functions choose from a pool serves the condo, whatever the threads are and the database returns. -/
def PicksServing (now : Instant) (roles : List StoredRole) (condoId : Id) (pool : List Id) : Prop :=
  ∀ env db call, db.roleAssignments = roles → call.pool env db condoId = pool → pool ≠ [] →
    ∀ assignee, Assigns env db condoId call (some assignee) → Serves now roles condoId assignee

/-- Some member of the pool has a role that is not revoked, and each who has one has one that has not expired. -/
def PoolServing (now : Instant) (roles : List StoredRole) (condoId : Id) (pool : List Id) : Prop :=
  pool = [] ∨ (∃ role ∈ roles, role.userId ∈ pool ∧ manages condoId role = true) ∧
    ∀ role ∈ roles, role.userId ∈ pool → manages condoId role = true → Serves now roles condoId role.userId

instance (now : Instant) (roles : List StoredRole) (condoId : Id) (pool : List Id) : Decidable (PoolServing now roles condoId pool) :=
  inferInstanceAs (Decidable (pool = [] ∨ (∃ role ∈ roles, role.userId ∈ pool ∧ manages condoId role = true) ∧
    ∀ role ∈ roles, role.userId ∈ pool → manages condoId role = true → Serves now roles condoId role.userId))

section

variable {now : Instant} {db : ThreadDb} {roles : List StoredRole} {condoId : Id} {pool ids : List Id}

theorem mem_returned (got : Returned db pool condoId ids) {id : Id} : id ∈ ids ↔
    id ∈ pool ∧ ∃ role ∈ db.roleAssignments, role.userId = id ∧ manages condoId role = true := by
  rw [got.mem_iff, mem_filter, decide_eq_true_eq, and_comm]
  refine and_congr_right fun _ => ?_
  unfold ThreadDb.managementUserIds
  rw [mem_map]
  constructor
  · rintro ⟨role, listed, own⟩
    obtain ⟨mem, right⟩ := mem_filter.mp listed
    exact ⟨role, mem, own, right⟩
  · rintro ⟨role, mem, own, right⟩
    exact ⟨role, mem_filter.mpr ⟨mem, right⟩, own⟩

def untouched (roles : List StoredRole) : ThreadDb where
  nextId := 0
  condos := []
  units := []
  roleAssignments := roles
  slaPolicies := []
  threads := []
  messages := []
  policies_unique := ThreadDb.no_policies

def suggesting (pool : List Id) : ThreadEnv where
  autoAssignment _ := none
  suggestPriority _ _ _ _ _ := .normal
  suggestPool _ _ _ _ _ := pool

theorem picksServing_iff : PicksServing now roles condoId pool ↔ PoolServing now roles condoId pool := by
  constructor
  · intro picks
    by_cases empty : pool = []
    · exact .inl empty
    · right
      have pick (ids : List Id) (got : Returned (untouched roles) pool condoId ids) (choice : Id)
          (picked : nextOf pool ids none = some choice) : Serves now roles condoId choice := by
        refine picks (suggesting pool) (untouched roles) (.onCreate .general "" false) rfl rfl empty choice ?_
        exact (if_neg empty).mpr ⟨some choice, ⟨ids, none, got, (fun _ none => nomatch none), picked.symm⟩, rfl⟩
      constructor
      · by_contra nobody
        have none : ((untouched roles).managementUserIds condoId).filter (fun id => decide (id ∈ pool)) = [] := by
          rw [eq_nil_iff_forall_not_mem]
          intro id mem
          obtain ⟨pooled, role, listed, own, right⟩ := (mem_returned (List.Perm.refl _)).mp mem
          exact nobody ⟨role, listed, own ▸ pooled, right⟩
        obtain ⟨head, rest, same⟩ := exists_cons_of_ne_nil empty
        obtain ⟨role, listed, own, right, -⟩ := pick [] (none ▸ List.Perm.refl _) head (congrArg List.head? same)
        refine nobody ⟨role, listed, ?_, right⟩
        rw [own, same]
        exact mem_cons_self
      · intro role listed pooled right
        have mem : role.userId ∈ ((untouched roles).managementUserIds condoId).filter (fun id => decide (id ∈ pool)) :=
          (mem_returned (List.Perm.refl _)).mpr ⟨pooled, role, listed, rfl, right⟩
        exact pick (role.userId :: _) (perm_cons_erase mem).symm role.userId rfl
  · rintro (rfl | ⟨⟨role, listed, pooled, right⟩, serving⟩) env db call same own' nonempty assignee assigns
    · exact absurd rfl nonempty
    · subst same
      unfold Assigns at assigns
      rw [own', if_neg nonempty] at assigns
      obtain ⟨picked, ⟨ids, recent, got, -, pick⟩, given⟩ := assigns
      obtain ⟨choice, found⟩ : ∃ choice, nextOf pool ids recent = some choice := nextOf_isSome nonempty recent
      rw [pick, found] at given
      obtain rfl : assignee = choice := Option.some.inj given
      have some' : ids ≠ [] := ne_nil_of_mem ((mem_returned got).mpr ⟨pooled, role, listed, rfl, right⟩)
      obtain ⟨inside, other, stored, own, manages'⟩ := (mem_returned got).mp (nextOf_mem some' found)
      rw [← own] at inside ⊢
      exact serving other stored inside manages'

end

/-! ## Whole turns -/

inductive Stores (db : ThreadDb) (clock : Instant) (condoId choice : Id) : ThreadPlan → Thread → List Thread → Prop
  | insert {row : Id → Instant → Thread} {message : NewMessage} : (row db.nextId clock).condoId = condoId →
      (row db.nextId clock).assignedToUserId = some choice →
      Stores db clock condoId choice (.insert row message) (row db.nextId clock) db.threads
  | write {write : ThreadWrite} {thread : Thread} : thread ∈ db.threads → thread.id = write.threadId →
      (∀ other ∈ db.threads, other.id = write.threadId → other = thread) → (write.change thread).condoId = condoId →
      (write.change thread).assignedToUserId = some choice →
      Stores db clock condoId choice (.write write) (write.change thread)
        (db.threads.filter fun other => decide (other.id ≠ write.threadId))

inductive PoolEvent
  | assign (clock : Instant) (ids : List Id) (choice : Id) (plan : ThreadPlan)
  | other (next : ThreadDb)

/-- One of the three functions chooses from the pool, and the choice is stored with nothing in between. -/
inductive PoolStep (condoId : Id) (pool : List Id) (before : ThreadDb) : PoolEvent → ThreadDb → Prop
  | assign {clock : Instant} {ids : List Id} {recent : Option Thread} {choice : Id} {plan : ThreadPlan} {stored : Thread}
      {rest : List Thread} : Returned before pool condoId ids → Recent before condoId ids recent → nextOf pool ids recent = some choice →
      Stores before clock condoId choice plan stored rest →
      PoolStep condoId pool before (.assign clock ids choice plan) (before.commit clock plan)
  | other {next : ThreadDb} : PoolStep condoId pool before (.other next) next

/--
The database returns the members in a fixed order, each once, and the thread that is assigned is newer than all that members
have. What else happens leaves the newest of these threads with its assignee.
-/
def Steady (order : List Id) (condoId : Id) (before : ThreadDb) : PoolEvent → Prop
  | .assign clock ids choice plan => ids = order ∧ ∀ stored rest, Stores before clock condoId choice plan stored rest →
      ∀ other ∈ rest, assignedAmong condoId order other = true → other.createdAt < stored.createdAt
  | .other next => ∀ first second, Recent before condoId order first → Recent next condoId order second →
      second.bind Thread.assignedToUserId = first.bind Thread.assignedToUserId

def choices (events : List PoolEvent) : List Id :=
  events.filterMap fun
    | .assign _ _ choice _ => some choice
    | .other _ => none

section

variable {db start finish : ThreadDb} {clock : Instant} {condoId choice : Id} {pool order : List Id} {plan : ThreadPlan} {stored : Thread}
  {rest : List Thread} {events : List PoolEvent}

section

variable (stores : Stores db clock condoId choice plan stored rest)
include stores

theorem Stores.assigned : stored.condoId = condoId ∧ stored.assignedToUserId = some choice := by
  cases stores with
  | insert place own => exact ⟨place, own⟩
  | write _ _ _ place own => exact ⟨place, own⟩

theorem Stores.threads :
    stored ∈ (db.commit clock plan).threads ∧ ∀ thread ∈ (db.commit clock plan).threads, thread = stored ∨ thread ∈ rest := by
  cases stores with
  | insert _ _ =>
    refine ⟨mem_append_right _ mem_cons_self, fun thread mem => ?_⟩
    rcases mem_append.mp mem with old | new
    · exact .inr old
    · exact .inl (mem_singleton.mp new)
  | @write write thread listed named only _ _ =>
    refine ⟨mem_updateBy.mpr ⟨thread, listed, (if_pos named).symm⟩, fun other mem => ?_⟩
    obtain ⟨old, kept, rfl⟩ := mem_updateBy.mp mem
    split
    · rename_i same
      rw [only old kept same]
      exact .inl rfl
    · rename_i ne
      exact .inr (mem_filter.mpr ⟨kept, decide_eq_true ne⟩)

theorem recent_assigned (mem : choice ∈ order)
    (newest : ∀ other ∈ rest, assignedAmong condoId order other = true → other.createdAt < stored.createdAt) {recent : Option Thread}
    (found : Recent (db.commit clock plan) condoId order recent) : recent.bind Thread.assignedToUserId = some choice := by
  obtain ⟨place, own⟩ := stores.assigned
  obtain ⟨listed, all⟩ := stores.threads
  have among : assignedAmong condoId order stored = true := by
    unfold assignedAmong
    rw [own]
    simp [place, mem]
  cases recent with
  | none => exact absurd (among.symm.trans (found stored listed)) (by decide)
  | some thread =>
    obtain ⟨inside, also, latest⟩ := found
    rcases all thread inside with rfl | other
    · exact own
    · exact absurd (latest stored listed among) (not_le.mpr (newest thread other also))

end

theorem nextOf_last {recent : Option Thread} {last : Id} (some' : order ≠ []) (found : recent.bind Thread.assignedToUserId = some last)
    (pick : nextOf pool order recent = some choice) : order[(order.idxOf last + 1) % order.length]? = some choice := by
  unfold nextOf at pick
  split at pick
  · exact absurd rfl some'
  · rw [found] at pick
    exact pick

structure Turning (order : List Id) (condoId : Id) (made : List Id) (db : ThreadDb) : Prop where
  round : GoesRound order made
  last : ∀ last, made.getLast? = some last → ∀ recent, Recent db condoId order recent → recent.bind Thread.assignedToUserId = some last

theorem turning_step {before after : ThreadDb} {event : PoolEvent} (nodup : order.Nodup) (some' : order ≠ [])
    (turning : Turning order condoId (choices events) before) (step : Guarded (Steady order condoId) (PoolStep condoId pool) before event after) :
    Turning order condoId (choices (events ++ [event])) after := by
  have more : choices (events ++ [event]) = choices events ++ choices [event] := filterMap_append
  rw [more]
  obtain ⟨steady, move⟩ := step
  cases move with
  | other =>
    have none : choices [PoolEvent.other after] = [] := rfl
    rw [none, append_nil]
    refine ⟨turning.round, fun last made recent found => ?_⟩
    rw [steady _ _ recent_latest found]
    exact turning.last last made _ recent_latest
  | @assign clock ids recent choice plan stored rest got found pick stores =>
    have one : choices [PoolEvent.assign clock ids choice plan] = [choice] := rfl
    rw [one]
    obtain ⟨rfl, newest⟩ := steady
    have mem : choice ∈ ids := nextOf_mem some' pick
    constructor
    · rcases eq_nil_or_concat (choices events) with empty | ⟨made, last, same⟩
      · rw [empty]
        exact GoesRound.first mem
      · rw [concat_eq_append] at same
        have own := turning.last last (by simp [same]) recent found
        have round := turning.round
        rw [same] at round ⊢
        exact round.next nodup (nextOf_last some' own pick)
    · intro last made recent' found'
      rw [List.getLast?_concat] at made
      rw [← made]
      exact recent_assigned stores mem (newest stored rest stores) found'

theorem turns_fair {turns : Nat} {mem : Id} (nodup : order.Nodup) (listed : mem ∈ order)
    (run : Run (Guarded (Steady order condoId) (PoolStep condoId pool)) start events finish)
    (whole : (choices events).length = order.length * turns) : (choices events).count mem = turns := by
  have initial : Turning order condoId (choices []) start := ⟨GoesRound.nil, fun _ none => nomatch none⟩
  have some' : order ≠ [] := ne_nil_of_mem listed
  have kept : ∀ log before event after, Turning order condoId (choices log) before →
      Guarded (Steady order condoId) (PoolStep condoId pool) before event after → Turning order condoId (choices (log ++ [event])) after :=
    fun _ _ _ _ turning step => turning_step nodup some' turning step
  have turning := Run.history_invariant kept initial run
  exact turning.round.count_eq nodup listed whole

end

/-! ## The calls of the service -/

section

variable {env : ThreadEnv} {now clock : Instant} {db : ThreadDb} {user : AuthenticatedUser} {condoId : Id} {pool : List Id}

theorem roundRobin_picks (nonempty : pool ≠ []) : ∃ ids recent choice, Returned db pool condoId ids ∧ Recent db condoId ids recent ∧
    nextOf pool ids recent = some choice ∧ roundRobinOf db pool condoId = some choice := by
  obtain ⟨ids, recent, got, found, same⟩ := @roundRobin_chosen db condoId pool
  obtain ⟨choice, pick⟩ : ∃ choice, nextOf pool ids recent = some choice := nextOf_isSome nonempty recent
  exact ⟨ids, recent, choice, got, found, pick, (if_neg nonempty).trans (same.trans pick)⟩

theorem create_step {dto : CreateThreadDto} {place : ThreadPlace} (placed : placeOf db user dto.unitId = .ok place)
    (own : env.suggestPool db place.condoId dto.category dto.subject (isRepeatComplainant now db place.condoId user.id place.unitId) = pool)
    (nonempty : pool ≠ []) : ∃ created ids choice, plan env now db (.create user dto) = .ok created ∧
      PoolStep place.condoId pool db (.assign clock ids choice created) (db.commit clock created) := by
  obtain ⟨ids, recent, choice, got, found, pick, picked⟩ := @roundRobin_picks db place.condoId pool nonempty
  have assigned : (draftThread env now db user dto place db.nextId clock).assignedToUserId = some choice := by
    unfold draftThread assignOnRecategorise
    dsimp only
    rw [own, picked]
  refine ⟨.insert (draftThread env now db user dto place) ⟨user.id, .message, dto.body⟩, ids, choice, ?_, .assign got found pick (.insert rfl assigned)⟩
  simp [plan, create, placed]

theorem another_or (choice : Id) (current : Option Id) :
    (((some choice).filter fun id => decide (some id ≠ current)) <|> current) = some choice := by
  by_cases same : some choice = current
  · simp [Option.filter, same]
  · simp [same]

variable {id : Id} {thread : Thread}

theorem update_step {choice : Id} {dto : UpdateThreadDto} {ids : List Id} {recent : Option Thread}
    (management : isManagement user = true) (loaded : loadAndAuthorize db user id = .ok thread)
    (unique : ∀ other ∈ db.threads, other.id = id → other = thread) (open' : dto.status = none)
    (lines : (updateData env db thread dto).systemLines ≠ [])
    (assigned : ((updateData env db thread dto).assignedTo <|> thread.assignedToUserId) = some choice)
    (got : Returned db pool thread.condoId ids) (found : Recent db thread.condoId ids recent)
    (pick : nextOf pool ids recent = some choice) : ∃ updated, plan env now db (.update user id dto) = .ok updated ∧
      PoolStep thread.condoId pool db (.assign clock ids choice updated) (db.commit clock updated) := by
  have stored : thread ∈ db.threads ∧ thread.id = id := by
    unfold loadAndAuthorize at loaded
    simp only [bind_eq_ok, orThrow_eq_ok, throwIf_eq_ok, pure_eq_ok, exists_const] at loaded
    obtain ⟨row, read, -, rfl⟩ := loaded
    exact mem_of_findBy read
  let data := updateData env db thread dto
  have planned : update env now db user id dto =
      .ok (some ⟨id, data.apply now, [⟨user.id, .system, "; ".intercalate data.systemLines⟩]⟩) := by
    unfold update
    simp only [bind_eq_ok]
    refine ⟨thread, loaded, (), by simp [open'], ?_⟩
    rw [if_neg lines]
    rfl
  refine ⟨.write ⟨id, data.apply now, [⟨user.id, .system, "; ".intercalate data.systemLines⟩]⟩, ?_,
    .assign got found pick (.write stored.1 stored.2 unique rfl assigned)⟩
  unfold plan assertMayUpdate
  simp only [bind_eq_ok]
  exact ⟨(), by simpa using management, _, planned, rfl⟩

theorem recategorise_step {category : ThreadCategory} (management : isManagement user = true)
    (loaded : loadAndAuthorize db user id = .ok thread) (unique : ∀ other ∈ db.threads, other.id = id → other = thread)
    (changed : category ≠ thread.category)
    (own : env.suggestPool db thread.condoId category thread.subject thread.repeatComplainant = pool)
    (nonempty : pool ≠ []) :
    ∃ updated ids choice, plan env now db (.update user id ⟨none, some category, none, none⟩) = .ok updated ∧
      PoolStep thread.condoId pool db (.assign clock ids choice updated) (db.commit clock updated) := by
  obtain ⟨ids, recent, choice, got, found, pick, picked⟩ := @roundRobin_picks db thread.condoId pool nonempty
  have wanted : changedTo (some category) thread.category = some category := by simp [changedTo, changed]
  have kept : changedTo none thread.priority = none := rfl
  have lines : (updateData env db thread ⟨none, some category, none, none⟩).systemLines ≠ [] := by simp [updateData, wanted]
  have assigned : ((updateData env db thread ⟨none, some category, none, none⟩).assignedTo <|> thread.assignedToUserId) = some choice := by
    rw [← another_or choice thread.assignedToUserId]
    simp [updateData, wanted, kept, assignOnRecategorise, own, picked]
  obtain ⟨updated, planned, step⟩ := update_step management loaded unique rfl lines assigned got found pick
  exact ⟨updated, ids, choice, planned, step⟩

theorem reprioritise_step {priority : ThreadPriority} (management : isManagement user = true)
    (loaded : loadAndAuthorize db user id = .ok thread) (unique : ∀ other ∈ db.threads, other.id = id → other = thread)
    (changed : priority ≠ thread.priority)
    (own : priorityPool env db thread.condoId priority thread.repeatComplainant thread.category = pool)
    (nonempty : pool ≠ []) :
    ∃ updated ids choice, plan env now db (.update user id ⟨some priority, none, none, none⟩) = .ok updated ∧
      PoolStep thread.condoId pool db (.assign clock ids choice updated) (db.commit clock updated) := by
  obtain ⟨ids, recent, choice, got, found, pick, picked⟩ := @roundRobin_picks db thread.condoId pool nonempty
  have wanted : changedTo (some priority) thread.priority = some priority := by simp [changedTo, changed]
  have kept : changedTo none thread.category = none := rfl
  have lines : (updateData env db thread ⟨some priority, none, none, none⟩).systemLines ≠ [] := by simp [updateData, wanted]
  have assigned : ((updateData env db thread ⟨some priority, none, none, none⟩).assignedTo <|> thread.assignedToUserId) = some choice := by
    rw [← another_or choice thread.assignedToUserId]
    simp [updateData, wanted, kept, assignOnPriorityChange, own, picked]
  obtain ⟨updated, planned, step⟩ := update_step management loaded unique rfl lines assigned got found pick
  exact ⟨updated, ids, choice, planned, step⟩

end

/--
All that a pool chooses serve the condo just if somebody of it has a role there and each who has one has one in force. Over
whole turns of steady assignments, every member is chosen equally often.
-/
theorem round_robin (now : Instant) (roles : List StoredRole) (condoId : Id) (pool : List Id) :
    (PicksServing now roles condoId pool ↔ PoolServing now roles condoId pool) ∧
    ∀ order start finish events turns, order.Nodup → Run (Guarded (Steady order condoId) (PoolStep condoId pool)) start events finish →
      (choices events).length = order.length * turns → ∀ member ∈ order, (choices events).count member = turns :=
  ⟨picksServing_iff, fun _ _ _ _ _ distinct run whole _ listed => turns_fair distinct listed run whole⟩

namespace Sample

def staffRole (userId : Id) (roleId : RoleId) (expiresAt : Option Instant) : StoredRole := ⟨userId, roleId, some 1, expiresAt, none⟩

def deskOf (roles : List StoredRole) : ThreadDb := { untouched roles with nextId := 10 }

def deskThread (assignee id : Id) (createdAt : Instant) : Thread where
  id := id
  condoId := 1
  unitId := none
  createdByUserId := 9
  assignedToUserId := some assignee
  subject := "Lift"
  category := .general
  priority := .normal
  status := .opened
  slaPolicyId := none
  firstResponseDueAt := none
  resolutionDueAt := none
  firstRespondedAt := none
  resolvedAt := none
  closedAt := none
  resolutionProposedAt := none
  resolutionProposedByUserId := none
  resolutionProposedMessageId := none
  reopenCount := 0
  lastMessageAt := createdAt
  repeatComplainant := false
  slaEscalatedAt := none
  createdAt := createdAt

def assignedNew (assignee : Id) : ThreadPlan := .insert (deskThread assignee) ⟨9, .message, ""⟩

def staff : List StoredRole := [staffRole 2 .managementStaff none, staffRole 3 .managementStaff (some 1000)]

def doubled : List StoredRole := [staffRole 2 .managementAdmin none, staffRole 2 .managementStaff none, staffRole 3 .managementStaff none]

end Sample

theorem stores_new {db : ThreadDb} {clock : Instant} (assignee : Id) :
    Stores db clock 1 assignee (Sample.assignedNew assignee) (Sample.deskThread assignee db.nextId clock) db.threads := .insert rfl rfl

theorem round_robin_unfair : ¬ PicksServing 2000 Sample.staff 1 [2, 3] ∧
    ∃ events finish, Run (PoolStep 1 [2, 3]) (Sample.deskOf Sample.doubled) events finish ∧ (choices events).length = 2 ∧
      (choices events).count 3 = 0 := by
  constructor
  · rw [picksServing_iff]
    decide
  · let start := Sample.deskOf Sample.doubled
    let middle := start.commit 100 (Sample.assignedNew 2)
    have first : PoolStep 1 [2, 3] start (.assign 100 [2, 2, 3] 2 (Sample.assignedNew 2)) middle :=
      .assign (List.Perm.refl _) (show Recent start 1 [2, 2, 3] none from fun _ none => nomatch none) rfl (stores_new 2)
    have recent : Recent middle 1 [2, 2, 3] (some (Sample.deskThread 2 10 100)) := by
      refine ⟨List.mem_cons_self, rfl, fun other member _ => ?_⟩
      rw [List.mem_singleton.mp member]
      exact le_refl _
    have second : PoolStep 1 [2, 3] middle (.assign 200 [2, 2, 3] 2 (Sample.assignedNew 2)) (middle.commit 200 (Sample.assignedNew 2)) :=
      .assign (List.Perm.refl _) recent rfl (stores_new 2)
    exact ⟨_, _, .cons first (.single second), rfl, rfl⟩

theorem round_robin_of_two : PicksServing 500 Sample.staff 1 [2, 3] ∧ ∃ events finish,
    Run (PoolStep 1 [2, 3]) (Sample.deskOf Sample.staff) events finish ∧ (choices events).length = 2 ∧
      ∀ member ∈ [2, 3], (choices events).count member = 1 := by
  let start := Sample.deskOf Sample.staff
  let middle := start.commit 100 (Sample.assignedNew 2)
  have first : PoolStep 1 [2, 3] start (.assign 100 [2, 3] 2 (Sample.assignedNew 2)) middle :=
    .assign (List.Perm.refl _) (show Recent start 1 [2, 3] none from fun _ none => nomatch none) rfl (stores_new 2)
  have recent : Recent middle 1 [2, 3] (some (Sample.deskThread 2 10 100)) := by
    refine ⟨List.mem_cons_self, rfl, fun other member _ => ?_⟩
    rw [List.mem_singleton.mp member]
    exact le_refl _
  have second : PoolStep 1 [2, 3] middle (.assign 200 [2, 3] 3 (Sample.assignedNew 3)) (middle.commit 200 (Sample.assignedNew 3)) :=
    .assign (List.Perm.refl _) recent rfl (stores_new 3)
  have steadyFirst : Steady [2, 3] 1 start (.assign 100 [2, 3] 2 (Sample.assignedNew 2)) := by
    refine ⟨rfl, fun stored rest stores other member => ?_⟩
    cases stores
    cases member
  have steadySecond : Steady [2, 3] 1 middle (.assign 200 [2, 3] 3 (Sample.assignedNew 3)) := by
    refine ⟨rfl, fun stored rest stores other member _ => ?_⟩
    cases stores
    rw [List.mem_singleton.mp member]
    decide
  refine ⟨(round_robin 500 Sample.staff 1 [2, 3]).1.mpr (by decide), _, _, .cons first (.single second), rfl, ?_⟩
  exact (round_robin 500 Sample.staff 1 [2, 3]).2 [2, 3] _ _ _ 1 (by decide) (.cons ⟨steadyFirst, first⟩ (.single ⟨steadySecond, second⟩)) rfl

end SmartResidence.Threads
