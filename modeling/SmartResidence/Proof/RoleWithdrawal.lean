import SmartResidence.Auth.UserCache
import SmartResidence.Proof.CacheFreshness

/-!
# Users that are loaded after a role was revoked
-/

namespace SmartResidence.Cache

open Foundation Billing Auth List

abbrev UserWorld : Type := CacheWorld AuthDb LoadedUser

def GoneAfter (ids : Id ↪ Uuid) (assignment : AssignedRole) (change : Nat) (notes : List (CacheNote AuthDb LoadedUser)) : Prop :=
  ∀ version call keySuffix seen user,
    Precedes notes (.invalidated change (.authUser (ids assignment.userId)) version)
      (.started call (.authUser (ids assignment.userId)) keySuffix seen) → .returned call (some user) ∈ notes →
    ∃ (now : Instant) (data : AuthDb), user.roles = rolesInForce now assignment.userId data.assignments ∧
      ∀ row ∈ data.assignments, row.id = assignment.id → row.inForce now = false

structure InvalidationComplete : Prop where
  complete : ∀ (Data Value : Type) (data : Data) (events : List (CallEvent Instant (CacheRequest Data Value)))
    (finish : CacheWorld Data Value), Run cacheService.Step (World.idle (CacheDb.fresh data)) events finish → Complete finish.notes
  withdrawn : ∀ (env : AuthEnv) (ids : Id ↪ Uuid) (data revoked : AuthDb) (early late : List (CallEvent Instant UserRequest))
    (before finish : UserWorld) (now : Instant) (assignment : AssignedRole),
    Run (userCache env ids).Step (World.idle (CacheDb.fresh data)) early before →
    revokeRole now assignment before.db.data = .ok revoked →
    Run (userCache env ids).Step (before.next (userCache env ids) (.begin now (.revokeDelegatedRole assignment))) late finish →
    GoneAfter ids assignment before.db.calls finish.notes

section

variable {Data Value : Type} {data : Data} {events : List (CallEvent Instant (CacheRequest Data Value))}
  {finish : CacheWorld Data Value}

theorem sound_run (run : Run cacheService.Step (World.idle (CacheDb.fresh data)) events finish) : Sound finish := by
  have free : Run (Guarded (fun _ _ => True) cacheService.Step) (World.idle (CacheDb.fresh data)) events finish :=
    run.mono fun _ _ _ move => ⟨trivial, move⟩
  exact Service.good_run (fun _ _ request sound _ => begin_sound sound request)
    (fun _ _ _ _ _ sound _ found parts => proceed_sound sound (mem_of_getElem? found)
      fun _ mem => parts.mem_iff.mpr (mem_cons_of_mem _ mem)) (sound_idle data) free

end

/-! ## What a step says and leaves -/

section

variable {ids : Id ↪ Uuid} {now : Instant} {db : CacheDb AuthDb LoadedUser} {space : Namespace} {data : AuthDb}
  {value : Option LoadedUser} {flight : CacheFlight AuthDb LoadedUser}

def Wrapped.Loads (ids : Id ↪ Uuid) (wrapped : Wrapped AuthDb LoadedUser) : Prop :=
  ∃ userId hint, wrapped.space = .authUser (ids userId) ∧ wrapped.fn = computeUser userId hint

def Loads (ids : Id ↪ Uuid) : CacheFlight AuthDb LoadedUser → Prop
  | .getting wrapped => wrapped.Loads ids
  | .computing wrapped => wrapped.Loads ids
  | _ => True

def Loaded (ids : Id ↪ Uuid) (space : Namespace) (now : Instant) (data : AuthDb) (value : Option LoadedUser) : Prop :=
  ∃ userId hint, space = .authUser (ids userId) ∧ computeUser userId hint now data = .ok value

def Speaks (ids : Id ↪ Uuid) (db : CacheDb AuthDb LoadedUser) : CacheNote AuthDb LoadedUser → Prop
  | .computed _ space _ now data value => data = db.data ∧ Loaded ids space now data value
  | .changed _ _ _ => False
  | _ => True

structure Goes (ids : Id ↪ Uuid) (db : CacheDb AuthDb LoadedUser) (outcome : CacheOutcome AuthDb LoadedUser) : Prop where
  data : outcome.db.data = db.data
  loads : ∀ other ∈ outcome.flights, Loads ids other
  notes : ∀ note ∈ outcome.notes, Speaks ids db note

theorem goes_ended : Goes ids db (.ended db) := ⟨rfl, (fun _ none => nomatch none), fun _ none => nomatch none⟩

theorem proceed_goes (loads : Loads ids flight) : Goes ids db (proceedCache now flight db) := by
  cases flight with
  | getting wrapped =>
    dsimp only [proceedCache]
    cases db.get now wrapped.key with
    | some cached => exact ⟨rfl, (fun _ none => nomatch none), forall_mem_singleton.mpr trivial⟩
    | none => exact ⟨rfl, forall_mem_singleton.mpr loads, fun _ none => nomatch none⟩
  | computing wrapped =>
    obtain ⟨userId, hint, own, fn⟩ := loads
    dsimp only [proceedCache]
    cases computes : wrapped.fn now db.data with
    | error failure => exact goes_ended
    | ok value =>
      have loaded : Loaded ids wrapped.space now db.data value := ⟨userId, hint, own, fn ▸ computes⟩
      cases value with
      | some user => exact ⟨rfl, forall_mem_singleton.mpr trivial, forall_mem_singleton.mpr ⟨rfl, loaded⟩⟩
      | none =>
        refine ⟨rfl, (fun _ none => nomatch none), forall_mem_cons.mpr ⟨⟨rfl, loaded⟩, ?_⟩⟩
        exact forall_mem_singleton.mpr trivial
  | setting wrapped value =>
    refine ⟨?_, (fun _ none => nomatch none), forall_mem_singleton.mpr trivial⟩
    show (db.set now wrapped.key value wrapped.ttlSeconds).data = db.data
    unfold CacheDb.set
    split <;> rfl
  | invalidating change space => exact ⟨rfl, (fun _ none => nomatch none), forall_mem_singleton.mpr trivial⟩

def Starts : CacheNote AuthDb LoadedUser → Prop
  | .computed _ _ _ _ _ _ => False
  | _ => True

structure Opens (ids : Id ↪ Uuid) (outcome : CacheOutcome AuthDb LoadedUser) : Prop where
  loads : ∀ other ∈ outcome.flights, Loads ids other
  notes : ∀ note ∈ outcome.notes, Starts note

theorem begin_opens (env : AuthEnv) (request : UserRequest) : Opens ids (beginCache now (request.toCache env ids) db) := by
  have change (space : Namespace) (write : Instant → AuthDb → Result AuthDb) :
      Opens ids (beginCache now (.change space write) db) := by
    dsimp only [beginCache]
    cases write now db.data with
    | ok data => exact ⟨forall_mem_singleton.mpr trivial, forall_mem_singleton.mpr trivial⟩
    | error failure => exact ⟨(fun _ none => nomatch none), fun _ none => nomatch none⟩
  cases request with
  | loadUser userId hint => exact ⟨forall_mem_singleton.mpr ⟨userId, hint, rfl, rfl⟩, forall_mem_singleton.mpr trivial⟩
  | revokeDelegatedRole assignment => exact change _ _
  | deleteAccount userId => exact change _ _
  | elsewhere other => exact ⟨(fun _ none => nomatch none), fun _ none => nomatch none⟩

theorem begin_withdrawn (env : AuthEnv) {id : Id} (withdrawn : Withdrawn id db.data) (request : UserRequest) :
    Withdrawn id (beginCache now (request.toCache env ids) db).db.data := by
  have change (space : Namespace) (write : Instant → AuthDb → Result AuthDb)
      (kept : ∀ data, write now db.data = .ok data → Withdrawn id data) :
      Withdrawn id (beginCache now (.change space write) db).db.data := by
    dsimp only [beginCache]
    cases written : write now db.data with
    | ok data => exact kept data written
    | error failure => exact withdrawn
  cases request with
  | loadUser userId hint => exact withdrawn
  | revokeDelegatedRole assignment => exact change _ _ fun _ written => withdrawn.revokeRole written
  | deleteAccount userId => exact change _ _ fun _ written => withdrawn.buryAccount env written
  | elsewhere other => exact withdrawn.elsewhere other

end

/-! ## Runs with a revocation -/

structure Loading (ids : Id ↪ Uuid) (world : UserWorld) : Prop where
  sound : Sound world
  loads : ∀ flight ∈ world.flights, Loads ids flight
  loaded : ∀ call space keySuffix now data value, .computed call space keySuffix now data value ∈ world.notes →
    Loaded ids space now data value

structure Gone (ids : Id ↪ Uuid) (id : Id) (change : Nat) (space : Namespace) (revoked : AuthDb) (world : UserWorld) : Prop
    extends Loading ids world where
  withdrawn : Withdrawn id world.db.data
  noted : .changed change space revoked ∈ world.notes
  since : ∀ call other keySuffix now data value,
    Precedes world.notes (.changed change space revoked) (.computed call other keySuffix now data value) → Withdrawn id data

section

variable {env : AuthEnv} {ids : Id ↪ Uuid} {world start finish : UserWorld} {rest : List (CacheFlight AuthDb LoadedUser)}
  {now : Instant} {events : List (CallEvent Instant UserRequest)} {id : Id} {change : Nat} {space : Namespace} {revoked : AuthDb}

theorem Loading.begin (loading : Loading ids world) (request : UserRequest) :
    Loading ids (world.after world.flights (beginCache now (request.toCache env ids) world.db)) := by
  have opens : Opens ids (beginCache now (request.toCache env ids) world.db) := begin_opens env request
  refine ⟨begin_sound loading.sound _, fun flight mem => ?_, fun call space keySuffix now data value computed => ?_⟩
  · rcases mem_append.mp mem with old | new
    · exact loading.loads flight old
    · exact opens.loads flight new
  · rcases mem_append.mp computed with old | new
    · exact loading.loaded call space keySuffix now data value old
    · exact (opens.notes _ new).elim

theorem Loading.proceed (loading : Loading ids world) {flight : CacheFlight AuthDb LoadedUser} (listed : flight ∈ world.flights)
    (others : ∀ other ∈ rest, other ∈ world.flights) : Loading ids (world.after rest (proceedCache now flight world.db)) := by
  have goes : Goes ids world.db (proceedCache now flight world.db) := proceed_goes (loading.loads flight listed)
  refine ⟨proceed_sound loading.sound listed others, fun flight mem => ?_, fun call space keySuffix now data value computed => ?_⟩
  · rcases mem_append.mp mem with old | new
    · exact loading.loads flight (others flight old)
    · exact goes.loads flight new
  · rcases mem_append.mp computed with old | new
    · exact loading.loaded call space keySuffix now data value old
    · exact (goes.notes _ new).2

theorem loading_run (loading : Loading ids start) (run : Run (userCache env ids).Step start events finish) : Loading ids finish := by
  have free : Run (Guarded (fun _ _ => True) (userCache env ids).Step) start events finish :=
    run.mono fun _ _ _ move => ⟨trivial, move⟩
  exact Service.good_run (fun _ _ request loading _ => loading.begin request)
    (fun _ _ _ _ _ loading _ found parts => loading.proceed (mem_of_getElem? found)
      fun _ mem => parts.mem_iff.mpr (mem_cons_of_mem _ mem)) loading free

theorem Gone.begin (gone : Gone ids id change space revoked world) (request : UserRequest) :
    Gone ids id change space revoked (world.after world.flights (beginCache now (request.toCache env ids) world.db)) := by
  have opens : Opens ids (beginCache now (request.toCache env ids) world.db) := begin_opens env request
  refine ⟨gone.toLoading.begin request, begin_withdrawn env gone.withdrawn request, mem_append_left _ gone.noted,
    fun call other keySuffix at' data value precedes => ?_⟩
  rcases precedes_append.mp precedes with old | ⟨-, new⟩ | both
  · exact gone.since call other keySuffix at' data value old
  · exact (opens.notes _ new).elim
  · exact (opens.notes _ (both.subset (mem_cons_of_mem _ mem_cons_self))).elim

theorem Gone.proceed (gone : Gone ids id change space revoked world) {flight : CacheFlight AuthDb LoadedUser}
    (mem : flight ∈ world.flights) (others : ∀ other ∈ rest, other ∈ world.flights) :
    Gone ids id change space revoked (world.after rest (proceedCache now flight world.db)) := by
  have goes : Goes ids world.db (proceedCache now flight world.db) := proceed_goes (gone.loads flight mem)
  refine ⟨gone.toLoading.proceed mem others, ?_, mem_append_left _ gone.noted,
    fun call other keySuffix at' data value precedes => ?_⟩
  · show Withdrawn id (proceedCache now flight world.db).db.data
    rw [goes.data]
    exact gone.withdrawn
  · rcases precedes_append.mp precedes with old | ⟨-, new⟩ | both
    · exact gone.since call other keySuffix at' data value old
    · rw [(goes.notes _ new).1]
      exact gone.withdrawn
    · exact (goes.notes _ both.first_mem).elim

theorem gone_run (gone : Gone ids id change space revoked start) (run : Run (userCache env ids).Step start events finish) :
    Gone ids id change space revoked finish := by
  have free : Run (Guarded (fun _ _ => True) (userCache env ids).Step) start events finish :=
    run.mono fun _ _ _ move => ⟨trivial, move⟩
  exact Service.good_run (fun _ _ request gone _ => gone.begin request)
    (fun _ _ _ _ _ gone _ found parts => gone.proceed (mem_of_getElem? found)
      fun _ mem => parts.mem_iff.mpr (mem_cons_of_mem _ mem)) gone free

variable {assignment : AssignedRole}

theorem gone_revoked (loading : Loading ids world) (written : revokeRole now assignment world.db.data = .ok revoked) :
    Gone ids assignment.id world.db.calls (.authUser (ids assignment.userId)) revoked
      (world.next (userCache env ids) (.begin now (.revokeDelegatedRole assignment))) := by
  have moved : world.next (userCache env ids) (.begin now (.revokeDelegatedRole assignment)) =
      world.after world.flights ⟨{ world.db with data := revoked, calls := world.db.calls + 1 },
        [.invalidating world.db.calls (.authUser (ids assignment.userId))],
        [.changed world.db.calls (.authUser (ids assignment.userId)) revoked]⟩ := by
    simp [World.next, userCache, UserRequest.toCache, beginCache, written]
  have begun : Loading ids (world.next (userCache env ids) (.begin now (.revokeDelegatedRole assignment))) := loading.begin _
  refine ⟨begun, ?_, ?_, fun call other keySuffix at' data value precedes => ?_⟩
  · rw [moved]
    exact withdrawn_revoked written
  · rw [moved]
    exact mem_append_right _ mem_cons_self
  · rw [moved] at precedes
    rcases precedes_append.mp precedes with old | ⟨-, new⟩ | both
    · exact absurd (loading.sound.notes _ old.first_mem) (Nat.lt_irrefl _)
    · cases mem_singleton.mp new
    · cases mem_singleton.mp (both.subset (mem_cons_of_mem _ mem_cons_self))

theorem loading_idle (data : AuthDb) : Loading ids (World.idle (CacheDb.fresh data) : UserWorld) :=
  ⟨sound_idle data, (fun _ none => nomatch none), fun _ _ _ _ _ _ none => nomatch none⟩

theorem computeUser_ok {userId : Id} {hint : Option Id} {data : AuthDb} {user : LoadedUser}
    (computes : computeUser userId hint now data = .ok (some user)) : user.roles = rolesInForce now userId data.assignments := by
  obtain ⟨loaded, loads, same⟩ := map_eq_ok.mp computes
  cases same
  unfold loadUserFromDb at loads
  simp only [bind_eq_ok, pure_eq_ok] at loads
  obtain ⟨_, -, _, -, rfl⟩ := loads
  rfl

theorem Gone.goneAfter (gone : Gone ids assignment.id change (.authUser (ids assignment.userId)) revoked world) :
    GoneAfter ids assignment change world.notes := by
  intro version call keySuffix seen user precedes got
  obtain ⟨computing, now, data, since⟩ :=
    gone.sound.complete change _ revoked version call keySuffix seen (some user) gone.noted precedes got
  have computed : CacheNote.computed computing _ keySuffix now data (some user) ∈ world.notes :=
    since.subset (mem_cons_of_mem _ mem_cons_self)
  obtain ⟨userId, hint, own, computes⟩ := gone.loaded _ _ _ _ _ _ computed
  obtain rfl := ids.injective (Namespace.authUser.inj own)
  refine ⟨now, data, computeUser_ok computes, fun row mem same => ?_⟩
  have revoked := (gone.since _ _ _ _ _ _ since).2 row mem same
  simp [AssignedRole.inForce, revoked]

end

/-- No value that was computed before a change is returned once its invalidation has returned, so no revoked role is. -/
theorem invalidation_complete : InvalidationComplete where
  complete := fun _ _ _ _ _ run => (sound_run run).complete
  withdrawn := fun _ _ _ _ _ _ _ _ _ _ early written late =>
    (gone_run (gone_revoked (loading_run (loading_idle _) early) written) late).goneAfter

end SmartResidence.Cache
