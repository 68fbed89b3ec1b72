import SmartResidence.Visitors.CodeAllocation

/-!
# One code, one pass

The check sees all three tables, and the index only its own.
-/

namespace SmartResidence.Visitors

open Foundation Billing List

abbrev CodeWorld : Type := World CodeDb CodeFlight CodeNote

def Holds (db : CodeDb) (kind : PassKind) (condoId : Id) (accessCode : String) : Prop :=
  ∃ row ∈ db.table kind, row.condoId = condoId ∧ row.accessCode = some accessCode

def Apart (db : CodeDb) : Prop :=
  ∀ condoId accessCode kind other, Holds db kind condoId accessCode → Holds db other condoId accessCode → kind = other

structure OneCodeOnePass (world : CodeWorld) : Prop where
  apart : Apart world.db
  retried : ∀ conflicts, .failed conflicts ∈ world.notes → 8 ≤ conflicts

def FreeElsewhere (db : CodeDb) (kind : PassKind) (condoId : Id) (accessCode : String) : Prop :=
  ∀ other, other ≠ kind → ¬ Holds db other condoId accessCode

/-- No code is taken between check and write: by a pass of another kind, or, where the index is not met by a retry, at all. -/
def Undisputed (world : CodeWorld) : CallEvent Draw CodeRequest → Prop
  | .begin _ _ => True
  | .proceed draw place => ∀ flight, world.flights[place]? = some flight → match flight with
      | .writing call conflicts accessCode =>
          (world.db.taken call.kind call.target call.condoId accessCode = false →
            FreeElsewhere world.db call.kind call.condoId accessCode) ∧
          (call.kind = .formSubmission → conflicts + 1 < 8 →
            world.db.taken call.kind call.target call.condoId accessCode = false)
      | .inserting condoId _ _ conflicts accessCode => draw.serializationFailure = false →
          (world.db.taken .visitor none condoId accessCode = false → FreeElsewhere world.db .visitor condoId accessCode) ∧
          (conflicts + 1 < 8 → world.db.taken .visitor none condoId accessCode = false)
      | _ => True

/-! ## Holding a code -/

section

variable {db : CodeDb} {kind other : PassKind} {target : Option Id} {condoId : Id} {accessCode : String} {row : PassRow}

theorem setTable_table {rows : List PassRow} : (db.setTable kind rows).table other = if other = kind then rows else db.table other := by
  unfold CodeDb.setTable Function.update
  dsimp only
  split
  · rename_i same
    subst same
    rfl
  · rfl

theorem freeElsewhere_of_check (free : ∀ other, db.taken other none condoId accessCode = false) :
    FreeElsewhere db kind condoId accessCode := by
  rintro other - ⟨row, mem, home, own⟩
  have taken : db.taken other none condoId accessCode = true :=
    any_eq_true.mpr ⟨row, mem, decide_eq_true ⟨(fun none => nomatch none), home, own⟩⟩
  exact absurd (taken.symm.trans (free other)) (by decide)

theorem nextId_hold : db.nextId ≤ (db.hold kind target condoId accessCode).nextId := by
  cases target with
  | none => exact Nat.le_succ _
  | some id => exact le_refl _

theorem mem_hold (mem : row ∈ (db.hold kind target condoId accessCode).table other) : row ∈ db.table other ∨
    other = kind ∧ row.accessCode = some accessCode ∧ (row = ⟨db.nextId, condoId, some accessCode⟩ ∨
      ∃ old ∈ db.table kind, target = some old.id ∧ row.id = old.id ∧ row.condoId = old.condoId) := by
  cases target with
  | none =>
    change row ∈ (db.setTable kind _).table other at mem
    rw [setTable_table] at mem
    split at mem
    · rename_i same
      subst same
      rcases mem_append.mp mem with old | new
      · exact .inl old
      · obtain rfl := mem_singleton.mp new
        exact .inr ⟨rfl, rfl, .inl rfl⟩
    · exact .inl mem
  | some id =>
    change row ∈ (db.setTable kind _).table other at mem
    rw [setTable_table] at mem
    split at mem
    · rename_i same
      subst same
      obtain ⟨old, stored, changed⟩ := mem_updateBy.mp mem
      split at changed
      · rename_i named
        subst changed named
        exact .inr ⟨rfl, rfl, .inr ⟨old, stored, rfl, rfl, rfl⟩⟩
      · subst changed
        exact .inl stored
    · exact .inl mem

theorem ids_hold (ids : Allocated ((db.table other).map PassRow.id) db.nextId) :
    Allocated (((db.hold kind target condoId accessCode).table other).map PassRow.id) (db.hold kind target condoId accessCode).nextId := by
  cases target with
  | none =>
    show Allocated (((db.setTable kind _).table other).map PassRow.id) (db.nextId + 1)
    rw [setTable_table]
    split
    · rename_i same
      subst same
      exact ids.insert rfl (Nat.lt_succ_self _)
    · exact ids.mono (Nat.le_succ _)
  | some id =>
    show Allocated (((db.setTable kind _).table other).map PassRow.id) db.nextId
    rw [setTable_table]
    split
    · rename_i same
      subst same
      exact ids.updateBy (le_refl _) fun _ => rfl
    · exact ids

def CodeCall.Meant (db : CodeDb) (call : CodeCall) : Prop :=
  ∀ id, call.target = some id → id < db.nextId ∧ ∀ row ∈ db.table call.kind, row.id = id → row.condoId = call.condoId

variable {call : CodeCall}

theorem CodeCall.Meant.hold (meant : call.Meant db) : call.Meant (db.hold kind target condoId accessCode) := by
  intro id named
  obtain ⟨below, home⟩ := meant id named
  refine ⟨below.trans_le nextId_hold, fun row mem same => ?_⟩
  rcases mem_hold mem with old | ⟨rfl, -, rfl | ⟨old, stored, -, own, condo⟩⟩
  · exact home row old same
  · exact absurd below (same ▸ Nat.lt_irrefl _)
  · rw [condo]
    exact home old stored (own.symm.trans same)

theorem apart_hold (apart : Apart db) (meant : call.Meant db)
    (free : FreeElsewhere db call.kind call.condoId accessCode) :
    Apart (db.hold call.kind call.target call.condoId accessCode) := by
  have holder {kind : PassKind} {condoId : Id} {code : String}
      (holds : Holds (db.hold call.kind call.target call.condoId accessCode) kind condoId code) :
      Holds db kind condoId code ∨ kind = call.kind ∧ condoId = call.condoId ∧ code = accessCode := by
    obtain ⟨row, mem, home, own⟩ := holds
    rcases mem_hold mem with old | ⟨same, held, rfl | ⟨old, stored, named, -, condo⟩⟩
    · exact .inl ⟨row, old, home, own⟩
    · exact .inr ⟨same, home.symm, Option.some.inj (own.symm.trans held)⟩
    · have there := (meant old.id named).2 old stored rfl
      exact .inr ⟨same, (home.symm.trans condo).trans there, Option.some.inj (own.symm.trans held)⟩
  intro condoId code kind other first second
  rcases holder first with old | ⟨rfl, rfl, rfl⟩
  · rcases holder second with older | ⟨rfl, rfl, rfl⟩
    · exact apart condoId code kind other old older
    · by_contra ne
      exact free kind ne old
  · rcases holder second with older | ⟨rfl, -, -⟩
    · by_contra ne
      exact free other (fun same => ne same.symm) older
    · rfl

end

/-! ## The invariant -/

def CodeFlight.Fine (db : CodeDb) : CodeFlight → Prop
  | .checking call _ => call.Meant db
  | .writing call _ _ => call.Meant db
  | .reading _ _ _ aborted _ => aborted = false
  | _ => True

structure Allotted (world : CodeWorld) : Prop where
  ids : ∀ kind, Allocated ((world.db.table kind).map PassRow.id) world.db.nextId
  one : OneCodeOnePass world
  fine : ∀ flight ∈ world.flights, flight.Fine world.db

section

variable {world : CodeWorld} {rest : List CodeFlight}

section

variable (allotted : Allotted world)
include allotted

theorem Allotted.go (others : ∀ flight ∈ rest, flight ∈ world.flights) {flights : List CodeFlight}
    {notes : List CodeNote} (fine : ∀ flight ∈ flights, flight.Fine world.db)
    (retried : ∀ conflicts, .failed conflicts ∈ notes → 8 ≤ conflicts) : Allotted (world.after rest ⟨world.db, flights, notes⟩) := by
  refine ⟨allotted.ids, ⟨allotted.one.apart, fun conflicts noted => ?_⟩, fun flight mem => ?_⟩
  · exact (mem_append.mp noted).elim (allotted.one.retried conflicts) (retried conflicts)
  · exact (mem_append.mp mem).elim (fun old => allotted.fine flight (others flight old)) (fine flight)

variable {flight : CodeFlight}

theorem Allotted.one_flight (others : ∀ flight ∈ rest, flight ∈ world.flights) (fine : flight.Fine world.db) :
    Allotted (world.after rest (.reads world.db [flight])) :=
  allotted.go others (forall_mem_singleton.mpr fine) fun _ none => nomatch none

theorem Allotted.stop (others : ∀ flight ∈ rest, flight ∈ world.flights) :
    Allotted (world.after rest (.ended world.db)) :=
  allotted.go others (fun _ none => nomatch none) fun _ none => nomatch none

theorem Allotted.conflict (others : ∀ flight ∈ rest, flight ∈ world.flights) {conflicts : Nat}
    {again : Nat → CodeFlight} (fine : ∀ count, count < 8 → (again count).Fine world.db) :
    Allotted (world.after rest (onConflict world.db conflicts again)) := by
  unfold onConflict accessCodeAllocationAttempts
  split
  · rename_i few
    refine allotted.go others (forall_mem_singleton.mpr (fine _ few)) fun count noted => ?_
    cases mem_singleton.mp noted
  · refine allotted.go others (fun _ none => nomatch none) fun count noted => ?_
    cases mem_singleton.mp noted
    omega

theorem Allotted.abort (others : ∀ flight ∈ rest, flight ∈ world.flights) {condoId : Id} {runs : Nat} :
    Allotted (world.after rest (onAbort world.db condoId runs)) := by
  unfold onAbort
  split
  · exact allotted.one_flight others trivial
  · exact allotted.stop others

theorem Allotted.hold (others : ∀ flight ∈ rest, flight ∈ world.flights) {call : CodeCall}
    {accessCode : String} (meant : call.Meant world.db) (free : FreeElsewhere world.db call.kind call.condoId accessCode) :
    Allotted (world.after rest
      ⟨world.db.hold call.kind call.target call.condoId accessCode, [], [.issued call.kind call.condoId accessCode]⟩) := by
  refine ⟨fun kind => ids_hold (allotted.ids kind), ⟨apart_hold allotted.one.apart meant free, fun conflicts noted => ?_⟩,
    fun flight mem => ?_⟩
  · rcases mem_append.mp noted with old | new
    · exact allotted.one.retried conflicts old
    · cases mem_singleton.mp new
  · have listed := others flight ((mem_append.mp mem).resolve_right not_mem_nil)
    have fine := allotted.fine flight listed
    cases flight with
    | checking call conflicts => exact CodeCall.Meant.hold fine
    | writing call conflicts code => exact CodeCall.Meant.hold fine
    | opening condoId runs => trivial
    | reading condoId runs seen aborted conflicts => exact fine
    | inserting condoId runs seen conflicts code => trivial

theorem begin_allotted (draw : Draw) {request : CodeRequest} :
    Allotted (world.after world.flights (beginCode draw request world.db)) := by
  have row {kind : PassKind} {id : Id} : Allotted (world.after world.flights (beginRow world.db kind id)) := by
    unfold beginRow
    cases found : findBy PassRow.id id (world.db.table kind) with
    | none => exact allotted.stop fun _ mem => mem
    | some row =>
      obtain ⟨stored, -⟩ := mem_of_findBy found
      refine allotted.one_flight (fun _ mem => mem) fun id named => ?_
      cases named
      refine ⟨(allotted.ids kind).below _ (mem_map_of_mem stored), fun other listed same => ?_⟩
      rw [eq_of_key_eq (allotted.ids kind).distinct listed stored same]
  cases request with
  | createVisitor condoId => exact allotted.one_flight (fun _ mem => mem) fun _ none => nomatch none
  | createOvernight condoId => exact allotted.one_flight (fun _ mem => mem) trivial
  | createRecurringPass condoId => exact allotted.one_flight (fun _ mem => mem) fun _ none => nomatch none
  | approveOvernight visitorId => exact row
  | approveSubmission submissionId => exact row

theorem proceed_allotted (others : ∀ flight ∈ rest, flight ∈ world.flights) {draw : Draw} {place : Nat}
    (found : world.flights[place]? = some flight) (undisputed : Undisputed world (.proceed draw place)) :
    Allotted (world.after rest (proceedCode draw flight world.db)) := by
  have own := undisputed flight found
  have fine := allotted.fine flight (mem_of_getElem? found)
  cases flight with
  | checking call conflicts =>
    dsimp only [proceedCode]
    split
    · exact allotted.one_flight others fine
    · exact allotted.conflict others fun _ _ => fine
  | writing call conflicts accessCode =>
    obtain ⟨elsewhere, permit⟩ := own
    dsimp only [proceedCode]
    split
    · rename_i taken
      unfold writeConflict
      split
      · rename_i form
        refine allotted.go others (fun _ none => nomatch none) fun count noted => ?_
        cases mem_singleton.mp noted
        by_contra few
        have free := permit form (by omega)
        exact absurd (taken.symm.trans free) (by decide)
      · exact allotted.conflict others fun _ _ => fine
    · rename_i free
      exact allotted.hold others fine (elsewhere (Bool.eq_false_iff.mpr free))
  | opening condoId runs => exact allotted.one_flight others rfl
  | reading condoId runs seen aborted conflicts =>
    obtain rfl : aborted = false := fine
    dsimp only [proceedCode]
    rw [if_neg (by decide)]
    split
    · exact allotted.abort others
    · split
      · exact allotted.one_flight others trivial
      · exact allotted.conflict others fun _ _ => rfl
  | inserting condoId runs seen conflicts accessCode =>
    dsimp only [proceedCode]
    split
    · exact allotted.abort others
    · rename_i committed
      obtain ⟨elsewhere, index⟩ := own (Bool.eq_false_iff.mpr committed)
      split
      · rename_i taken
        have many : ¬ conflicts + 1 < 8 := fun few => absurd (taken.symm.trans (index few)) (by decide)
        unfold onConflict accessCodeAllocationAttempts
        rw [if_neg many]
        refine allotted.go others (fun _ none => nomatch none) fun count noted => ?_
        cases mem_singleton.mp noted
        exact not_lt.mp many
      · rename_i free
        have meant : (CodeCall.mk .visitor condoId none).Meant world.db := fun _ none => nomatch none
        exact allotted.hold others meant (elsewhere (Bool.eq_false_iff.mpr free))

end

end

section

variable {initial : CodeDb} {events : List (CallEvent Draw CodeRequest)} {finish : CodeWorld}

/-- Undisputed, a code has one pass, and a conflict is met by another code. -/
theorem one_code_one_pass (ids : ∀ kind, Allocated ((initial.table kind).map PassRow.id) initial.nextId) (apart : Apart initial)
    (run : Run (Guarded Undisputed codeService.Step) (World.idle initial) events finish) : OneCodeOnePass finish := by
  have idle : Allotted (World.idle initial) := ⟨ids, ⟨apart, fun _ none => nomatch none⟩, fun _ none => nomatch none⟩
  have begins (world : CodeWorld) (draw : Draw) (request : CodeRequest) (allotted : Allotted world)
      (_ : Undisputed world (.begin draw request)) :
      Allotted (world.after world.flights (codeService.begin draw request world.db)) := begin_allotted allotted draw
  have proceeds (world : CodeWorld) (draw : Draw) (place : Nat) (flight : CodeFlight) (rest : List CodeFlight)
      (allotted : Allotted world) (undisputed : Undisputed world (.proceed draw place)) (found : world.flights[place]? = some flight)
      (parts : world.flights.Perm (flight :: rest)) :
      Allotted (world.after rest (codeService.proceed draw flight world.db)) :=
    proceed_allotted allotted (fun _ member => parts.mem_iff.mpr (List.mem_cons_of_mem _ member)) found undisputed
  exact (Service.good_run begins proceeds idle run).one

end

namespace Sample

def noPasses : CodeDb := ⟨1, fun _ => []⟩

def draw (accessCode : String) : Draw := ⟨accessCode, false⟩

def raced : List (CallEvent Draw CodeRequest) :=
  [.begin (draw "A") (.createVisitor 1), .begin (draw "A") (.createRecurringPass 1), .proceed (draw "ABCDEF") 0,
    .proceed (draw "ABCDEF") 0, .proceed (draw "A") 0, .proceed (draw "A") 0]

def inTurn : List (CallEvent Draw CodeRequest) :=
  [.begin (draw "A") (.createVisitor 1), .proceed (draw "ABCDEF") 0, .proceed (draw "A") 0, .begin (draw "A") (.createRecurringPass 1),
    .proceed (draw "ABCDEF") 0, .proceed (draw "GHJKMN") 0, .proceed (draw "A") 0]

end Sample

theorem code_of_two_passes : ∃ initial events finish, (∀ kind, Allocated ((CodeDb.table initial kind).map PassRow.id) initial.nextId) ∧
    Apart initial ∧ Run codeService.Step (World.idle initial) events finish ∧ ¬ OneCodeOnePass finish := by
  have apart : Apart Sample.noPasses := by
    rintro condoId accessCode kind other ⟨row, none, -⟩ -
    cases none
  have notes : ((World.idle Sample.noPasses).run codeService Sample.raced).notes =
      [.issued .visitor 1 "ABCDEF", .issued .recurringPass 1 "ABCDEF"] := by decide +kernel
  have visitors : ((World.idle Sample.noPasses).run codeService Sample.raced).db.table .visitor = [⟨1, 1, some "ABCDEF"⟩] := by
    decide +kernel
  have passes : ((World.idle Sample.noPasses).run codeService Sample.raced).db.table .recurringPass = [⟨2, 1, some "ABCDEF"⟩] := by
    decide +kernel
  refine ⟨Sample.noPasses, _, _, fun _ => .nil, apart, Service.run_reached _ _ Sample.raced, fun one => ?_⟩
  have same := one.apart 1 "ABCDEF" .visitor .recurringPass ⟨_, visitors ▸ List.mem_singleton_self _, rfl, rfl⟩
    ⟨_, passes ▸ List.mem_singleton_self _, rfl, rfl⟩
  cases same

theorem codes_in_turn : ∃ finish : CodeWorld, finish.notes = [.issued .visitor 1 "ABCDEF", .retried 1,
    .issued .recurringPass 1 "GHJKMN"] ∧ OneCodeOnePass finish := by
  have notes : ((World.idle Sample.noPasses).run codeService Sample.inTurn).notes =
      [.issued .visitor 1 "ABCDEF", .retried 1, .issued .recurringPass 1 "GHJKMN"] := by decide +kernel
  have apart : Apart Sample.noPasses := by
    rintro condoId accessCode kind other ⟨row, none, -⟩ -
    cases none
  have meets : Run.Meets Undisputed (fun world event => world.next codeService event) (World.idle Sample.noPasses) Sample.inTurn := by
    refine ⟨trivial, fun flight found => ?_, fun flight found => ?_, trivial, fun flight found => ?_, fun flight found => ?_,
      fun flight found => ?_, trivial⟩
    · obtain rfl := Option.some.inj found
      trivial
    · obtain rfl := Option.some.inj found
      exact ⟨fun _ => freeElsewhere_of_check fun other => by cases other <;> decide +kernel, fun form => nomatch form⟩
    · obtain rfl := Option.some.inj found
      trivial
    · obtain rfl := Option.some.inj found
      trivial
    · obtain rfl := Option.some.inj found
      exact ⟨fun _ => freeElsewhere_of_check fun other => by cases other <;> decide +kernel, fun form => nomatch form⟩
  have ids (kind : PassKind) : Allocated ((Sample.noPasses.table kind).map PassRow.id) Sample.noPasses.nextId := .nil
  exact ⟨_, notes, one_code_one_pass ids apart (Service.guarded_reached meets)⟩

end SmartResidence.Visitors
