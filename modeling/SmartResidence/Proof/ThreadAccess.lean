import SmartResidence.Threads.ThreadsService

/-!
# Access to threads

Whether a user is management does not depend on the condo, and whoever is management somewhere is judged by the condos
they manage alone.
-/

namespace SmartResidence.Threads

open Foundation Billing Settings List

def ManagesCondo (user : AuthenticatedUser) (condoId : Id) : Prop :=
  ∃ r ∈ user.roles, r.roleId ∈ managementRoles ∧ r.condoId = some condoId

def OnUnit (user : AuthenticatedUser) (unitId : Id) : Prop := ∃ r ∈ user.roles, r.unitId = some unitId

def Concerned (user : AuthenticatedUser) (thread : Thread) : Prop :=
  thread.createdByUserId = user.id ∨ ∃ unitId, thread.unitId = some unitId ∧ OnUnit user unitId

def Entitled (user : AuthenticatedUser) (thread : Thread) : Prop :=
  Concerned user thread ∨ ManagesCondo user thread.condoId

def Refused {α : Type} (answer : Result α) : Prop := ∃ message, answer = .error (.forbidden message)

section

variable {user : AuthenticatedUser} {thread : Thread} {unitId condoId : Id}

theorem mem_unitIds : unitId ∈ unitIds user ↔ OnUnit user unitId := by
  unfold unitIds OnUnit
  rw [mem_filterMap]

theorem mem_managementCondoIds : condoId ∈ managementCondoIds user ↔ ManagesCondo user condoId := by
  unfold managementCondoIds ManagesCondo
  simp only [mem_filterMap, mem_filter, decide_eq_true_eq, and_assoc]

theorem isManagement_of_manages (manages : ManagesCondo user condoId) : isManagement user = true := by
  obtain ⟨r, mem, management, -⟩ := manages
  exact any_eq_true.mpr ⟨r, mem, decide_eq_true management⟩

theorem any_unit : (thread.unitId.any fun unitId => decide (unitId ∈ unitIds user)) = true ↔
    ∃ unitId, thread.unitId = some unitId ∧ OnUnit user unitId := by
  simp only [Option.any_eq_true, decide_eq_true_eq, mem_unitIds]

theorem mayAccess_iff : mayAccess user thread = true ↔ (isManagement user = true ∧ ManagesCondo user thread.condoId) ∨
      (isManagement user = false ∧ Concerned user thread) := by
  unfold mayAccess Concerned
  cases isManagement user with
  | true => simp [mem_managementCondoIds]
  | false =>
    simp only [Bool.false_eq_true, if_false, Bool.or_eq_true, decide_eq_true_eq, any_unit, false_and, true_and, false_or]

theorem canActAsResident_iff : canActAsResident user thread = true ↔
    isManagement user = false ∧ ∃ unitId, thread.unitId = some unitId ∧ OnUnit user unitId := by
  unfold canActAsResident
  rw [Bool.and_eq_true, any_unit, Bool.not_eq_true']

end

section

variable {α β : Type} {step : Result α} {rest : α → Result β} {condition : Prop} [Decidable condition] {message : String}

theorem refused_bind : Refused (step >>= rest) ↔ Refused step ∨ ∃ value, step = .ok value ∧ Refused (rest value) := by
  unfold Refused
  simp only [bind_eq_error]
  constructor
  · rintro ⟨message, first | ⟨value, done, failed⟩⟩
    · exact .inl ⟨message, first⟩
    · exact .inr ⟨value, done, message, failed⟩
  · rintro (⟨message, first⟩ | ⟨value, done, message, failed⟩)
    · exact ⟨message, .inl first⟩
    · exact ⟨message, .inr ⟨value, done, failed⟩⟩

theorem refused_forbidden : Refused (throwIf condition (.forbidden message)) ↔ condition := by
  unfold Refused
  simp [throwIf_eq_error]

theorem refused_badRequest : ¬ Refused (throwIf condition (.badRequest message)) := by
  unfold Refused
  simp [throwIf_eq_error]

theorem refused_answer : ¬ Refused (.error (.badRequest message) : Result α) := by
  rintro ⟨_, same⟩
  cases same

theorem refused_pure {value : α} : ¬ Refused (pure value : Result α) := by
  unfold Refused
  simp [pure_ne_error]

end

/-! ## Threads that exist -/

section

variable {now : Instant} {db : ThreadDb} {user : AuthenticatedUser} {thread : Thread} {body : String}

theorem loadAndAuthorize_ok {id : Id} : loadAndAuthorize db user id = .ok thread ↔
    db.thread? id = some thread ∧ mayAccess user thread = true := by
  simp only [loadAndAuthorize, bind_eq_ok, pure_eq_ok, orThrow_eq_ok]
  constructor
  · rintro ⟨_, found, _, allowed, rfl⟩
    exact ⟨found, by simpa using allowed⟩
  · rintro ⟨found, allowed⟩
    exact ⟨thread, found, (), by simpa using allowed, rfl⟩

variable (found : db.thread? thread.id = some thread)

include found

theorem refused_load : Refused (loadAndAuthorize db user thread.id) ↔ ¬ mayAccess user thread = true := by
  unfold loadAndAuthorize
  rw [found]
  simp only [refused_bind, refused_forbidden, refused_pure, and_false, exists_false, or_false]
  constructor
  · rintro (⟨_, never⟩ | ⟨_, same, refused⟩)
    · cases never
    · cases same
      exact refused
  · intro refused
    exact .inr ⟨thread, rfl, refused⟩

theorem refused_after {α : Type} {rest : Thread → Result α} :
    Refused (loadAndAuthorize db user thread.id >>= rest) ↔ ¬ mayAccess user thread = true ∨ Refused (rest thread) := by
  rw [refused_bind, refused_load found]
  by_cases allowed : mayAccess user thread = true
  · have loaded := loadAndAuthorize_ok.mpr ⟨found, allowed⟩
    simp [loaded]
  · exact ⟨fun _ => .inl allowed, fun _ => .inl allowed⟩

theorem refused_getOne : Refused (getOne now db user thread.id) ↔ ¬ mayAccess user thread = true := by
  unfold getOne
  rw [refused_after found]
  simp only [refused_pure, or_false]

theorem refused_postMessage :
    Refused (postMessage now db user thread.id ⟨body, false⟩) ↔ ¬ mayAccess user thread = true := by
  unfold postMessage
  rw [refused_after found]
  simp only [refused_bind, refused_forbidden, refused_badRequest, Bool.false_eq_true, false_and, false_or, if_false]
  refine or_iff_left ?_
  rintro ⟨_, -, _, -, refused⟩
  split at refused
  · exact refused_pure refused
  · split at refused
    all_goals first
      | exact refused_pure refused
      | exact refused_answer refused

theorem refused_managed {α : Type} {message : String} {rest : Thread → Unit → Result α}
    (open_ : ∀ thread done, ¬ Refused (rest thread done)) :
    Refused (loadAndAuthorize db user thread.id >>= fun thread =>
      throwIf (¬ isManagement user) (.forbidden message) >>= rest thread) ↔ ¬ ManagesCondo user thread.condoId := by
  rw [refused_after found, refused_bind, refused_forbidden]
  simp only [open_, mayAccess_iff]
  cases management : isManagement user with
  | true => simp
  | false =>
    have manages : ¬ ManagesCondo user thread.condoId := fun manages => by
      rw [isManagement_of_manages manages] at management
      cases management
    simp [manages]

theorem refused_proposeResolution {dto : ProposeResolutionDto} :
    Refused (proposeResolution now db user thread.id dto) ↔ ¬ ManagesCondo user thread.condoId := by
  apply refused_managed found
  intro thread _
  simp only [refused_bind, refused_badRequest, refused_pure, false_or, and_false, exists_false, not_false_eq_true]

theorem refused_requestResident {note : Option String} :
    Refused (requestResident now db user thread.id note) ↔ ¬ ManagesCondo user thread.condoId := by
  apply refused_managed found
  intro thread _
  simp only [refused_bind, refused_badRequest, refused_pure, false_or, and_false, exists_false, not_false_eq_true]

theorem refused_closeAbusive {reason : String} :
    Refused (closeAbusive now db user thread.id reason) ↔ ¬ ManagesCondo user thread.condoId := by
  apply refused_managed found
  intro thread _
  simp only [refused_bind, refused_badRequest, refused_pure, false_or, and_false, exists_false, not_false_eq_true]

omit found in
theorem mem_newestFirst {threads : List Thread} : thread ∈ newestFirst threads ↔ thread ∈ threads := by
  unfold newestFirst
  exact (mergeSort_perm _ _).mem_iff

theorem listed_iff :
    (∃ dto, ∃ item ∈ (list now db user dto).items, item.thread = thread) ↔ mayAccess user thread = true := by
  constructor
  · rintro ⟨dto, item, shown, rfl⟩
    obtain ⟨paged, -⟩ := mem_filter.mp shown
    obtain ⟨other, mem, rfl⟩ := mem_map.mp paged
    have sorted := mem_of_mem_drop (mem_of_mem_take mem)
    have pick := (mem_filter.mp (mem_newestFirst.mp sorted)).2
    exact (Bool.and_eq_true _ _ ▸ pick).2
  · intro allowed
    -- The page that begins with the thread and ends with it.
    let all (offset : Nat) : ListThreadsDto := ⟨none, none, none, none, none, 1, offset⟩
    have pick : thread ∈ db.threads.filter (listed user (all 0)) :=
      mem_filter.mpr ⟨(mem_of_findBy found).1, by simpa [listed, all] using allowed⟩
    obtain ⟨offset, inside, same⟩ := getElem_of_mem (mem_newestFirst.mpr pick)
    refine ⟨all offset, ⟨thread, computeSlaState now thread⟩, ?_, rfl⟩
    refine mem_filter.mpr ⟨mem_map.mpr ⟨thread, ?_, rfl⟩, rfl⟩
    show thread ∈ ((newestFirst (db.threads.filter (listed user (all 0)))).drop offset).take 1
    rw [drop_eq_getElem_cons inside, same]
    exact mem_cons_self

end

/-! ## One thread -/

structure AccessLaw (now : Instant) (db : ThreadDb) (user : AuthenticatedUser) (thread : Thread) : Prop where
  lists : (∃ dto, ∃ item ∈ (list now db user dto).items, item.thread = thread) ↔ Entitled user thread
  reads : ¬ Refused (getOne now db user thread.id) ↔ Entitled user thread
  answers : ∀ body, ¬ Refused (postMessage now db user thread.id ⟨body, false⟩) ↔ Entitled user thread
  proposes : ∀ dto, ¬ Refused (proposeResolution now db user thread.id dto) ↔ ManagesCondo user thread.condoId
  requests : ∀ note, ¬ Refused (requestResident now db user thread.id note) ↔ ManagesCondo user thread.condoId
  closes : ∀ reason, ¬ Refused (closeAbusive now db user thread.id reason) ↔ ManagesCondo user thread.condoId
  updates : ∀ env dto written, assertMayUpdate user = .ok () → update env now db user thread.id dto = .ok written →
    ManagesCondo user thread.condoId
  resides : ¬ ManagesCondo user thread.condoId →
    (canActAsResident user thread = true ↔ ∃ unitId, thread.unitId = some unitId ∧ OnUnit user unitId)
  notes : ∀ detail, getOne now db user thread.id = .ok detail →
    (∃ message ∈ detail.messages, message.kind = .internalNote) → ManagesCondo user thread.condoId

section

variable {now : Instant} {db : ThreadDb} {user : AuthenticatedUser} {thread : Thread}

theorem notes_seen {detail : ThreadDetail} (read : getOne now db user thread.id = .ok detail)
    (found : db.thread? thread.id = some thread) (note : ∃ message ∈ detail.messages, message.kind = .internalNote) :
    ManagesCondo user thread.condoId := by
  simp only [getOne, bind_eq_ok, pure_eq_ok] at read
  obtain ⟨other, loaded, rfl⟩ := read
  obtain ⟨also, allowed⟩ := loadAndAuthorize_ok.mp loaded
  rw [found] at also
  cases also
  obtain ⟨message, shown, kind⟩ := note
  obtain ⟨-, visible⟩ := mem_filter.mp ((mergeSort_perm _ _).mem_iff.mp shown)
  have management : isManagement user = true := by
    simp only [kind, ne_eq, not_true, decide_false, Bool.or_false, Bool.and_eq_true] at visible
    exact visible.2
  rcases mayAccess_iff.mp allowed with ⟨-, manages⟩ | ⟨resident, -⟩
  · exact manages
  · rw [management] at resident
    cases resident

theorem access_law (now : Instant) (found : db.thread? thread.id = some thread) : AccessLaw now db user thread ↔
      isManagement user = false ∨ ManagesCondo user thread.condoId ∨ ¬ Concerned user thread := by
  constructor
  · intro law
    by_contra exception
    simp only [not_or, not_not, Bool.not_eq_false] at exception
    obtain ⟨management, elsewhere, concerned⟩ := exception
    have allowed := mayAccess_iff.mp (Decidable.not_not.mp ((refused_getOne found).not.mp (law.reads.mpr (.inl concerned))))
    rcases allowed with ⟨-, manages⟩ | ⟨resident, -⟩
    · exact elsewhere manages
    · rw [management] at resident
      cases resident
  · intro condition
    have entitled : mayAccess user thread = true ↔ Entitled user thread := by
      rw [mayAccess_iff]
      unfold Entitled
      rcases condition with resident | manages | unconcerned
      · have elsewhere : ¬ ManagesCondo user thread.condoId := fun manages => by
          rw [isManagement_of_manages manages] at resident
          cases resident
        simp [resident, elsewhere]
      · simp [isManagement_of_manages manages, manages]
      · simp only [unconcerned, and_false, or_false, false_or, and_iff_right_iff_imp]
        exact isManagement_of_manages
    constructor
    case lists =>
      exact (listed_iff found).trans entitled
    case reads =>
      rw [refused_getOne found, not_not, entitled]
    case answers =>
      intro body
      rw [refused_postMessage found, not_not, entitled]
    case proposes =>
      intro dto
      rw [refused_proposeResolution found, not_not]
    case requests =>
      intro note
      rw [refused_requestResident found, not_not]
    case closes =>
      intro reason
      rw [refused_closeAbusive found, not_not]
    case updates =>
      intro env dto written guarded updated
      simp only [update, bind_eq_ok] at updated
      obtain ⟨other, loaded, -⟩ := updated
      obtain ⟨also, allowed⟩ := loadAndAuthorize_ok.mp loaded
      rw [found] at also
      cases also
      have management : isManagement user = true := by simpa [assertMayUpdate] using guarded
      rcases mayAccess_iff.mp allowed with ⟨-, manages⟩ | ⟨resident, -⟩
      · exact manages
      · rw [management] at resident
        cases resident
    case resides =>
      intro elsewhere
      rw [canActAsResident_iff]
      rcases condition with resident | manages | unconcerned
      · simp [resident]
      · exact absurd manages elsewhere
      · have away : ¬ ∃ unitId, thread.unitId = some unitId ∧ OnUnit user unitId := fun own => unconcerned (.inr own)
        simp [away]
    case notes =>
      intro detail read note
      exact notes_seen read found note

end

def OpensOwn (env : ThreadEnv) (now : Instant) (db : ThreadDb) (user : AuthenticatedUser) (dto : CreateThreadDto) : Prop :=
  ∀ row, create env now db user dto = .ok row → ∀ id clock unitId, (row id clock).unitId = some unitId →
    OnUnit user unitId ∨ ManagesCondo user (row id clock).condoId

section

variable {env : ThreadEnv} {now : Instant} {db : ThreadDb} {user : AuthenticatedUser} {dto : CreateThreadDto}

theorem create_ok {row : Id → Instant → Thread} (created : create env now db user dto = .ok row) :
    ∃ place, placeOf db user dto.unitId = .ok place ∧ row = draftThread env now db user dto place := by
  simp only [create, bind_eq_ok, pure_eq_ok] at created
  obtain ⟨place, placed, rfl⟩ := created
  exact ⟨place, placed, rfl⟩

theorem placeOf_unit {unitId : Id} {place : ThreadPlace} : placeOf db user (some unitId) = .ok place ↔
    ∃ unit, db.unit? unitId = some unit ∧ (isManagement user = true ∨ OnUnit user unitId) ∧
      place = ⟨unit.condoId, some unitId⟩ := by
  simp only [placeOf, bind_eq_ok, pure_eq_ok, orThrow_eq_ok, throwIf_eq_ok, mem_unitIds]
  constructor
  · rintro ⟨unit, found, _, allowed, rfl⟩
    exact ⟨unit, found, by tauto, rfl⟩
  · rintro ⟨unit, found, allowed, rfl⟩
    exact ⟨unit, found, (), by tauto, rfl⟩

theorem placeOf_own {place : ThreadPlace} (placed : placeOf db user none = .ok place) {unitId : Id}
    (unit : place.unitId = some unitId) : OnUnit user unitId := by
  simp only [placeOf, bind_eq_ok, pure_eq_ok] at placed
  obtain ⟨condoId, -, rfl⟩ := placed
  obtain ⟨r, found, own⟩ := Option.bind_eq_some_iff.mp unit
  exact ⟨r, mem_of_find?_eq_some found, own⟩

theorem opens_own : OpensOwn env now db user dto ↔
    ∀ unitId unit, dto.unitId = some unitId → db.unit? unitId = some unit → isManagement user = true →
      OnUnit user unitId ∨ ManagesCondo user unit.condoId := by
  constructor
  · intro law unitId unit wanted found management
    have placed : placeOf db user dto.unitId = .ok ⟨unit.condoId, some unitId⟩ := by
      rw [wanted]
      exact placeOf_unit.mpr ⟨unit, found, .inl management, rfl⟩
    refine law (draftThread env now db user dto ⟨unit.condoId, some unitId⟩) ?_ 0 0 unitId rfl
    unfold create
    rw [placed]
    rfl
  · intro condition row created id clock unitId own
    obtain ⟨place, placed, rfl⟩ := create_ok created
    cases wanted : dto.unitId with
    | none =>
      rw [wanted] at placed
      exact .inl (placeOf_own placed own)
    | some wantedId =>
      rw [wanted] at placed
      obtain ⟨unit, found, allowed, rfl⟩ := placeOf_unit.mp placed
      cases own
      rcases allowed with management | resident
      · exact condition unitId unit wanted found management
      · exact .inl resident

end

/-! ## Assignees -/

def PoolServes (db : ThreadDb) (condoId : Id) (pool : List Id) (current : Option Id) : Prop :=
  (∃ id ∈ pool, id ∈ db.managementUserIds condoId) ∨ pool.head? = none ∨ pool.head? = current

section

variable {db : ThreadDb} {condoId : Id} {pool : List Id} {current : Option Id}

theorem roundRobin_spec : (∃ id, roundRobin db pool condoId = some id ∧ id ∈ pool ∧ id ∈ db.managementUserIds condoId) ∨
    (∀ id ∈ pool, id ∉ db.managementUserIds condoId) ∧ roundRobin db pool condoId = pool.head? := by
  unfold roundRobin
  split
  · rename_i none
    refine .inr ⟨fun id pooled manages => ?_, rfl⟩
    have both : id ∈ (db.managementUserIds condoId).filter fun id => decide (id ∈ pool) :=
      mem_filter.mpr ⟨manages, decide_eq_true pooled⟩
    rw [none] at both
    cases both
  · rename_i first others some
    left
    have picked : ∀ id ∈ first :: others, id ∈ pool ∧ id ∈ db.managementUserIds condoId := by
      intro id mem
      rw [← some] at mem
      obtain ⟨manages, pooled⟩ := mem_filter.mp mem
      exact ⟨of_decide_eq_true pooled, manages⟩
    simp only
    split
    · exact ⟨first, rfl, picked first mem_cons_self⟩
    · rename_i last _
      have inside : ((first :: others).idxOf last + 1) % (first :: others).length < (first :: others).length :=
        Nat.mod_lt _ (Nat.succ_pos _)
      exact ⟨_, List.getElem?_eq_getElem inside, picked _ (getElem_mem inside)⟩

theorem pool_serves : (∀ id, roundRobinOf db pool condoId = some id → some id ≠ current →
    id ∈ db.managementUserIds condoId) ↔ PoolServes db condoId pool current := by
  unfold roundRobinOf PoolServes
  cases pool with
  | nil => simp
  | cons head rest =>
    rcases @roundRobin_spec db condoId (head :: rest) with
      ⟨pick, picked, pooled, manages⟩ | ⟨strangers, picked⟩
    · constructor
      · exact fun _ => .inl ⟨pick, pooled, manages⟩
      · intro _ id same _
        rw [picked] at same
        cases same
        exact manages
    · rw [picked]
      constructor
      · intro law
        by_contra exception
        simp only [not_or] at exception
        exact strangers head mem_cons_self (law head rfl exception.2.2)
      · rintro (⟨id, pooled, manages⟩ | never | same) id pick another
        · exact absurd manages (strangers _ pooled)
        · cases never
        · exact absurd (pick.symm.trans same) another

end

/-- What makes the assignees of an update managers of the condo: the one it names, and the members of the pools that
it falls back to. -/
structure WellAssigned (env : ThreadEnv) (db : ThreadDb) (thread : Thread) (dto : UpdateThreadDto) : Prop where
  byHand : ∀ id, dto.assignedToUserId = some id → some id ≠ thread.assignedToUserId →
    id ∈ db.managementUserIds thread.condoId
  byCategory : (∀ id, dto.assignedToUserId = some id → some id = thread.assignedToUserId) →
    ∀ category, changedTo dto.category thread.category = some category →
      PoolServes db thread.condoId
        (env.suggestPool db thread.condoId category thread.subject thread.repeatComplainant) thread.assignedToUserId
  byPriority : (∀ id, dto.assignedToUserId = some id → some id = thread.assignedToUserId) →
    (∀ category, changedTo dto.category thread.category = some category →
      ∀ id, assignOnRecategorise env db thread.condoId category thread.repeatComplainant thread.subject = some id →
        some id = thread.assignedToUserId) →
    ∀ priority, changedTo dto.priority thread.priority = some priority →
      PoolServes db thread.condoId
        (priorityPool env db thread.condoId priority thread.repeatComplainant thread.category) thread.assignedToUserId

section

variable {env : ThreadEnv} {now : Instant} {db : ThreadDb} {user : AuthenticatedUser} {thread : Thread}
  {dto : UpdateThreadDto} {write : ThreadWrite}

def another (current : Option Id) (chosen : Option Id) : Option Id := chosen.filter fun id => decide (some id ≠ current)

theorem another_eq_some {current pick : Option Id} {id : Id} :
    another current pick = some id ↔ pick = some id ∧ some id ≠ current := by
  simp [another]

theorem another_eq_none {current pick : Option Id} :
    another current pick = none ↔ ∀ id, pick = some id → some id = current := by
  simp [another]

theorem first_choice {first second third : Option Id} {good : Id → Prop} :
    (∀ id, (first <|> second <|> third) = some id → good id) ↔
      (∀ id, first = some id → good id) ∧ (first = none → ∀ id, second = some id → good id) ∧
        (first = none → second = none → ∀ id, third = some id → good id) := by
  cases first with
  | some id => simp
  | none =>
    cases second with
    | some id => simp
    | none => simp

def categoryChoice (env : ThreadEnv) (db : ThreadDb) (thread : Thread) (dto : UpdateThreadDto) : Option Id :=
  (changedTo dto.category thread.category).bind fun category =>
    assignOnRecategorise env db thread.condoId category thread.repeatComplainant thread.subject

def priorityChoice (env : ThreadEnv) (db : ThreadDb) (thread : Thread) (dto : UpdateThreadDto) : Option Id :=
  (changedTo dto.priority thread.priority).bind fun priority =>
    assignOnPriorityChange env db thread.condoId priority thread.repeatComplainant thread.category
      thread.assignedToUserId

theorem assignedTo_eq : (updateData env db thread dto).assignedTo =
    (another thread.assignedToUserId dto.assignedToUserId <|>
      another thread.assignedToUserId (categoryChoice env db thread dto) <|>
        another thread.assignedToUserId (priorityChoice env db thread dto)) := rfl

theorem categoryChoice_serves : (∀ category, changedTo dto.category thread.category = some category →
      PoolServes db thread.condoId
        (env.suggestPool db thread.condoId category thread.subject thread.repeatComplainant) thread.assignedToUserId) ↔
    ∀ id, another thread.assignedToUserId (categoryChoice env db thread dto) = some id →
      id ∈ db.managementUserIds thread.condoId := by
  unfold categoryChoice
  cases changedTo dto.category thread.category with
  | none => simp [another]
  | some category => simp only [Option.some.injEq, forall_eq', Option.bind_some, another_eq_some, and_imp,
      ← pool_serves, assignOnRecategorise]

theorem priorityChoice_serves : (∀ priority, changedTo dto.priority thread.priority = some priority →
      PoolServes db thread.condoId
        (priorityPool env db thread.condoId priority thread.repeatComplainant thread.category) thread.assignedToUserId) ↔
    ∀ id, another thread.assignedToUserId (priorityChoice env db thread dto) = some id →
      id ∈ db.managementUserIds thread.condoId := by
  unfold priorityChoice
  cases changedTo dto.priority thread.priority with
  | none => simp [another]
  | some priority =>
    simp only [Option.some.injEq, forall_eq', Option.bind_some, another_eq_some, and_imp, ← pool_serves,
      assignOnPriorityChange]
    -- An empty pool falls back to the current assignee, who is not another one.
    cases pick : roundRobinOf db (priorityPool env db thread.condoId priority thread.repeatComplainant
        thread.category) thread.condoId with
    | none =>
      simp only [reduceCtorEq, false_implies, implies_true, true_iff]
      intro id same ne
      exact absurd same.symm ne
    | some id => simp

theorem wellAssigned_iff : WellAssigned env db thread dto ↔
    ∀ id, (updateData env db thread dto).assignedTo = some id → id ∈ db.managementUserIds thread.condoId := by
  have kept : (∀ category, changedTo dto.category thread.category = some category → ∀ id,
      assignOnRecategorise env db thread.condoId category thread.repeatComplainant thread.subject = some id →
        some id = thread.assignedToUserId) ↔
      another thread.assignedToUserId (categoryChoice env db thread dto) = none := by
    unfold categoryChoice
    rw [another_eq_none]
    cases changedTo dto.category thread.category <;> simp
  rw [assignedTo_eq, first_choice]
  constructor
  · intro ⟨byHand, byCategory, byPriority⟩
    refine ⟨fun id pick => ?_, fun unnamed => ?_, fun unnamed same => ?_⟩
    · obtain ⟨named, ne⟩ := another_eq_some.mp pick
      exact byHand id named ne
    · exact categoryChoice_serves.mp (byCategory (another_eq_none.mp unnamed))
    · exact priorityChoice_serves.mp (byPriority (another_eq_none.mp unnamed) (kept.mpr same))
  · intro ⟨byHand, byCategory, byPriority⟩
    constructor
    case byHand => exact fun id named ne => byHand id (another_eq_some.mpr ⟨named, ne⟩)
    case byCategory => exact fun unnamed => categoryChoice_serves.mpr (byCategory (another_eq_none.mpr unnamed))
    case byPriority =>
      exact fun unnamed same => priorityChoice_serves.mpr (byPriority (another_eq_none.mpr unnamed) (kept.mp same))

theorem assigns_managers (found : db.thread? thread.id = some thread)
    (updated : update env now db user thread.id dto = .ok (some write)) :
    (∀ id, (write.change thread).assignedToUserId = some id → some id ≠ thread.assignedToUserId →
      id ∈ db.managementUserIds thread.condoId) ↔ WellAssigned env db thread dto := by
  simp only [update, bind_eq_ok] at updated
  obtain ⟨other, loaded, _, -, updated⟩ := updated
  obtain ⟨also, -⟩ := loadAndAuthorize_ok.mp loaded
  rw [found] at also
  cases also
  split at updated
  · cases updated
  · cases updated
    rw [wellAssigned_iff]
    have ne : ∀ id, (updateData env db thread dto).assignedTo = some id → some id ≠ thread.assignedToUserId := by
      rw [assignedTo_eq, first_choice]
      exact ⟨fun _ pick => (another_eq_some.mp pick).2, fun _ _ pick => (another_eq_some.mp pick).2,
        fun _ _ _ pick => (another_eq_some.mp pick).2⟩
    have effect : ((updateData env db thread dto).apply now thread).assignedToUserId =
        ((updateData env db thread dto).assignedTo <|> thread.assignedToUserId) := rfl
    simp only [effect]
    constructor
    · intro law id pick
      apply law id ?_ (ne id pick)
      rw [pick]
      rfl
    · intro law id same another
      cases pick : (updateData env db thread dto).assignedTo with
      | none =>
        rw [pick] at same
        exact absurd same.symm another
      | some other =>
        rw [pick] at same
        cases same
        exact law _ pick

theorem assigns_manager_on_create {dto : CreateThreadDto} {place : ThreadPlace} {id : Id} {clock : Instant} :
    (∀ assignee, (draftThread env now db user dto place id clock).assignedToUserId = some assignee →
      assignee ∈ db.managementUserIds place.condoId) ↔
      PoolServes db place.condoId (env.suggestPool db place.condoId dto.category dto.subject
        (isRepeatComplainant now db place.condoId user.id place.unitId)) none := by
  rw [← pool_serves]
  simp [draftThread, assignOnRecategorise]

end

def CreateAssigns (env : ThreadEnv) (now : Instant) (db : ThreadDb) (user : AuthenticatedUser) (dto : CreateThreadDto)
    (condoId : Id) : Prop :=
  ∀ row, create env now db user dto = .ok row → ∀ id clock assignee,
    (row id clock).assignedToUserId = some assignee → assignee ∈ db.managementUserIds condoId

def UpdateAssigns (db : ThreadDb) (thread : Thread) (write : ThreadWrite) : Prop :=
  ∀ id, (write.change thread).assignedToUserId = some id → some id ≠ thread.assignedToUserId →
    id ∈ db.managementUserIds thread.condoId

theorem create_assigns {env : ThreadEnv} {now : Instant} {db : ThreadDb} {user : AuthenticatedUser}
    {dto : CreateThreadDto} {place : ThreadPlace} (placed : placeOf db user dto.unitId = .ok place) :
    CreateAssigns env now db user dto place.condoId ↔
      PoolServes db place.condoId (env.suggestPool db place.condoId dto.category dto.subject
        (isRepeatComplainant now db place.condoId user.id place.unitId)) none := by
  have created : create env now db user dto = .ok (draftThread env now db user dto place) := by
    unfold create
    rw [placed]
    rfl
  unfold CreateAssigns
  rw [created]
  constructor
  · intro law
    exact assigns_manager_on_create.mp (law _ rfl 0 0)
  · intro serves row same id clock
    cases same
    exact assigns_manager_on_create.mpr serves

/-- Who reaches a thread, where threads are opened, and whom they are assigned to. -/
theorem thread_access (env : ThreadEnv) (now : Instant) (db : ThreadDb) (user : AuthenticatedUser) :
    (∀ thread, db.thread? thread.id = some thread → (AccessLaw now db user thread ↔
      isManagement user = false ∨ ManagesCondo user thread.condoId ∨ ¬ Concerned user thread)) ∧
    (∀ dto, OpensOwn env now db user dto ↔
      ∀ unitId unit, dto.unitId = some unitId → db.unit? unitId = some unit → isManagement user = true →
        OnUnit user unitId ∨ ManagesCondo user unit.condoId) ∧
    (∀ dto place, placeOf db user dto.unitId = .ok place →
      (CreateAssigns env now db user dto place.condoId ↔
        PoolServes db place.condoId (env.suggestPool db place.condoId dto.category dto.subject
          (isRepeatComplainant now db place.condoId user.id place.unitId)) none)) ∧
    ∀ thread dto write, db.thread? thread.id = some thread →
      update env now db user thread.id dto = .ok (some write) →
      (UpdateAssigns db thread write ↔ WellAssigned env db thread dto) :=
  ⟨fun _ found => access_law now found, fun _ => opens_own, fun _ _ placed => create_assigns placed,
    fun _ _ _ found updated => assigns_managers found updated⟩

namespace Sample

def plainEnv : ThreadEnv := ⟨fun _ => none, fun _ _ _ _ _ => .normal, fun _ _ _ _ _ => []⟩

def leak : Thread where
  id := 1
  condoId := 1
  unitId := some 1
  createdByUserId := 1
  assignedToUserId := none
  subject := "Leak"
  category := .maintenance
  priority := .normal
  status := .opened
  slaPolicyId := none
  firstResponseDueAt := none
  resolutionDueAt := none
  firstRespondedAt := none
  resolvedAt := none
  closedAt := none
  resolutionProposedAt := none
  resolutionProposedByUserId := none
  resolutionProposedMessageId := none
  reopenCount := 0
  lastMessageAt := 0
  repeatComplainant := false
  slaEscalatedAt := none
  createdAt := 0

def leaking : ThreadDb := ⟨10, [], [⟨1, 1⟩, ⟨2, 1⟩], [], [], [leak], [], ThreadDb.no_policies⟩

def ownerOnly : AuthenticatedUser := ⟨1, [⟨.unitOwner, some 1, some 1⟩]⟩

def staffElsewhere : AuthenticatedUser := ⟨1, [⟨.unitOwner, some 1, some 1⟩, ⟨.managementStaff, some 2, none⟩]⟩

end Sample

theorem thread_access_lost : ¬ AccessLaw 0 Sample.leaking Sample.staffElsewhere Sample.leak ∧
    ¬ OpensOwn Sample.plainEnv 0 Sample.leaking Sample.staffElsewhere ⟨some 2, "Noise", .complaint, "Again"⟩ := by
  have elsewhere : ¬ ManagesCondo Sample.staffElsewhere 1 := by
    unfold ManagesCondo
    decide
  have outside : ¬ OnUnit Sample.staffElsewhere 2 := by
    unfold OnUnit
    decide
  constructor
  · intro law
    rcases (access_law 0 rfl).mp law with never | manages | unconcerned
    · cases never
    · exact elsewhere manages
    · exact unconcerned (.inl rfl)
  · intro law
    rcases opens_own.mp law 2 ⟨2, 1⟩ rfl rfl rfl with own | manages
    · exact outside own
    · exact elsewhere manages

theorem thread_access_owner : AccessLaw 0 Sample.leaking Sample.ownerOnly Sample.leak :=
  ((thread_access Sample.plainEnv 0 Sample.leaking Sample.ownerOnly).1 Sample.leak rfl).mpr (.inl rfl)

end SmartResidence.Threads
