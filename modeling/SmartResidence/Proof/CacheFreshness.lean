import SmartResidence.Cache.CacheService

/-!
# What a call returns after an invalidation

A call reads the version before it computes. So what it stores under a version was computed after the changes whose invalidations
had led to that version.
-/

namespace SmartResidence.Cache

open Foundation Billing List

variable {Data Value : Type}

abbrev CacheWorld (Data Value : Type) : Type := World (CacheDb Data Value) (CacheFlight Data Value) (CacheNote Data Value)

def Precedes (notes : List (CacheNote Data Value)) (first second : CacheNote Data Value) : Prop := [first, second].Sublist notes

def Complete (notes : List (CacheNote Data Value)) : Prop :=
  ∀ change space after version call keySuffix seen value, .changed change space after ∈ notes →
    Precedes notes (.invalidated change space version) (.started call space keySuffix seen) → .returned call value ∈ notes →
    ∃ computing now data, Precedes notes (.changed change space after) (.computed computing space keySuffix now data value)

section

variable {notes more : List (CacheNote Data Value)} {first second : CacheNote Data Value}

theorem precedes_append : Precedes (notes ++ more) first second ↔
    Precedes notes first second ∨ (first ∈ notes ∧ second ∈ more) ∨ Precedes more first second := by
  unfold Precedes
  rw [sublist_append_iff]
  constructor
  · rintro ⟨front, back, same, left, right⟩
    cases front with
    | nil => exact .inr (.inr (same ▸ right))
    | cons head tail =>
      obtain ⟨rfl, rest⟩ := List.cons.inj same
      cases tail with
      | nil => exact .inr (.inl ⟨singleton_sublist.mp left, singleton_sublist.mp (rest ▸ right)⟩)
      | cons middle others =>
        obtain ⟨rfl, none⟩ := List.cons.inj rest
        obtain ⟨rfl, -⟩ := append_eq_nil_iff.mp none.symm
        exact .inl left
  · rintro (both | ⟨left, right⟩ | both)
    · exact ⟨_, [], (append_nil _).symm, both, nil_sublist _⟩
    · exact ⟨[first], [second], rfl, singleton_sublist.mpr left, singleton_sublist.mpr right⟩
    · exact ⟨[], _, rfl, nil_sublist _, both⟩

theorem Precedes.first_mem (precedes : Precedes notes first second) : first ∈ notes := precedes.subset mem_cons_self

theorem Precedes.append (precedes : Precedes notes first second) : Precedes (notes ++ more) first second :=
  precedes_append.mpr (.inl precedes)

end

/-! ## What is kept -/

def Fresh (notes : List (CacheNote Data Value)) (space : Namespace) (keySuffix : String) (version : Nat) (value : Option Value) :
    Prop :=
  ∃ call now data, .computed call space keySuffix now data value ∈ notes ∧
    ∀ change after reached, .changed change space after ∈ notes → .invalidated change space reached ∈ notes → reached ≤ version →
      Precedes notes (.changed change space after) (.computed call space keySuffix now data value)

structure Began (db : CacheDb Data Value) (notes : List (CacheNote Data Value)) (call : Nat) (space : Namespace) (keySuffix : String)
    (version : Nat) : Prop where
  drawn : call < db.calls
  current : version ≤ db.namespaceVersion space
  only : ∀ other suffix seen, .started call other suffix seen ∈ notes → other = space ∧ suffix = keySuffix ∧ seen = version

def Wrapped.Began (wrapped : Wrapped Data Value) (db : CacheDb Data Value) (notes : List (CacheNote Data Value)) : Prop :=
  Cache.Began db notes wrapped.call wrapped.space wrapped.keySuffix wrapped.version

def FlightSound (db : CacheDb Data Value) (notes : List (CacheNote Data Value)) : CacheFlight Data Value → Prop
  | .getting wrapped => wrapped.Began db notes
  | .computing wrapped => wrapped.Began db notes
  | .setting wrapped value => wrapped.Began db notes ∧ Fresh notes wrapped.space wrapped.keySuffix wrapped.version (some value)
  | .invalidating change _ => change < db.calls

def NoteSound (db : CacheDb Data Value) (notes : List (CacheNote Data Value)) : CacheNote Data Value → Prop
  | .started call _ _ _ => call < db.calls
  | .computed _ _ _ _ _ _ => True
  | .returned call value => ∃ space keySuffix version, Began db notes call space keySuffix version ∧
      Fresh notes space keySuffix version value
  | .changed change _ _ => change < db.calls
  | .invalidated change space version => change < db.calls ∧ version ≤ db.namespaceVersion space

structure Sound (world : CacheWorld Data Value) : Prop where
  entries : ∀ space keySuffix version entry, world.db.entries (cacheKey space version keySuffix) = some entry →
    version ≤ world.db.namespaceVersion space ∧ Fresh world.notes space keySuffix version (some entry.value)
  flights : ∀ flight ∈ world.flights, FlightSound world.db world.notes flight
  notes : ∀ note ∈ world.notes, NoteSound world.db world.notes note
  order : ∀ change space version call keySuffix seen,
    Precedes world.notes (.invalidated change space version) (.started call space keySuffix seen) → version ≤ seen

structure Onward (before after : CacheDb Data Value) (more : List (CacheNote Data Value)) : Prop where
  calls : before.calls ≤ after.calls
  versions : ∀ space, before.namespaceVersion space ≤ after.namespaceVersion space
  started : ∀ call space keySuffix version, .started call space keySuffix version ∈ more → before.calls ≤ call ∧ call < after.calls ∧
    version = before.namespaceVersion space
  changed : ∀ change space data, .changed change space data ∈ more → before.calls ≤ change ∧ change < after.calls
  invalidated : ∀ change space version, .invalidated change space version ∈ more → change < after.calls ∧
    before.namespaceVersion space < version ∧ version ≤ after.namespaceVersion space
  apart : ∀ change space version call keySuffix seen,
    ¬ Precedes more (.invalidated change space version) (.started call space keySuffix seen)

section

variable {before after : CacheDb Data Value} {notes more : List (CacheNote Data Value)} {space : Namespace} {keySuffix : String}
  {version call : Nat} {value : Option Value}

theorem Fresh.append (fresh : Fresh notes space keySuffix version value) (current : version ≤ before.namespaceVersion space)
    (sound : ∀ note ∈ notes, NoteSound before notes note) (onward : Onward before after more) :
    Fresh (notes ++ more) space keySuffix version value := by
  obtain ⟨call, now, data, computed, since⟩ := fresh
  refine ⟨call, now, data, mem_append_left _ computed, fun change left reached changed invalidated below => ?_⟩
  rcases mem_append.mp invalidated with early | late
  · rcases mem_append.mp changed with old | new
    · exact (since change left reached old early below).append
    · have drawn := (onward.changed change space left new).1
      exact absurd (sound _ early).1 (Nat.not_lt.mpr drawn)
  · have newer := (onward.invalidated change space reached late).2.1
    exact absurd (below.trans current) (Nat.not_le.mpr newer)

theorem Began.append (began : Began before notes call space keySuffix version) (onward : Onward before after more) :
    Began after (notes ++ more) call space keySuffix version := by
  refine ⟨began.drawn.trans_le onward.calls, began.current.trans (onward.versions space), fun other suffix seen noted => ?_⟩
  rcases mem_append.mp noted with old | new
  · exact began.only other suffix seen old
  · exact absurd began.drawn (Nat.not_lt.mpr (onward.started call other suffix seen new).1)

variable (sound : ∀ note ∈ notes, NoteSound before notes note) (onward : Onward before after more)

include sound onward

theorem NoteSound.append {note : CacheNote Data Value} (own : NoteSound before notes note) :
    NoteSound after (notes ++ more) note := by
  cases note with
  | started call space keySuffix version => exact Nat.lt_of_lt_of_le own onward.calls
  | computed _ _ _ _ _ _ => trivial
  | returned call value =>
    obtain ⟨space, keySuffix, version, began, fresh⟩ := own
    exact ⟨space, keySuffix, version, began.append onward, fresh.append began.current sound onward⟩
  | changed change space data => exact Nat.lt_of_lt_of_le own onward.calls
  | invalidated change space version => exact ⟨own.1.trans_le onward.calls, own.2.trans (onward.versions space)⟩

theorem FlightSound.append {flight : CacheFlight Data Value} (own : FlightSound before notes flight) :
    FlightSound after (notes ++ more) flight := by
  cases flight with
  | getting wrapped => exact Began.append own onward
  | computing wrapped => exact Began.append own onward
  | setting wrapped value => exact ⟨Began.append own.1 onward, own.2.append own.1.current sound onward⟩
  | invalidating change space => exact Nat.lt_of_lt_of_le own onward.calls

end

/-! ## The steps -/

section

variable {world : CacheWorld Data Value} {outcome : CacheOutcome Data Value} {rest : List (CacheFlight Data Value)} {now : Instant}

theorem Sound.move (sound : Sound world) (others : ∀ flight ∈ rest, flight ∈ world.flights)
    (onward : Onward world.db outcome.db outcome.notes)
    (entries : ∀ space keySuffix version entry, outcome.db.entries (cacheKey space version keySuffix) = some entry →
      world.db.entries (cacheKey space version keySuffix) = some entry ∨ (version ≤ outcome.db.namespaceVersion space ∧
        Fresh (world.notes ++ outcome.notes) space keySuffix version (some entry.value)))
    (flights : ∀ flight ∈ outcome.flights, FlightSound outcome.db (world.notes ++ outcome.notes) flight)
    (notes : ∀ note ∈ outcome.notes, NoteSound outcome.db (world.notes ++ outcome.notes) note) : Sound (world.after rest outcome) := by
  refine ⟨fun space keySuffix version entry found => ?_, fun flight mem => ?_, fun note mem => ?_,
    fun change space version call keySuffix seen precedes => ?_⟩
  · rcases entries space keySuffix version entry found with old | new
    · obtain ⟨current, fresh⟩ := sound.entries space keySuffix version entry old
      exact ⟨current.trans (onward.versions space), fresh.append current sound.notes onward⟩
    · exact new
  · rcases mem_append.mp mem with old | new
    · exact (sound.flights flight (others flight old)).append sound.notes onward
    · exact flights flight new
  · rcases mem_append.mp mem with old | new
    · exact (sound.notes note old).append sound.notes onward
    · exact notes note new
  · rcases precedes_append.mp precedes with old | ⟨early, late⟩ | new
    · exact sound.order change space version call keySuffix seen old
    · rw [(onward.started call space keySuffix seen late).2.2]
      exact (sound.notes _ early).2
    · exact absurd new (onward.apart change space version call keySuffix seen)

theorem onward_same {before after : CacheDb Data Value} {more : List (CacheNote Data Value)} (calls : after.calls = before.calls)
    (counters : after.counters = before.counters) (plain : ∀ note ∈ more, (∃ call value, note = .returned call value) ∨
      ∃ call space keySuffix now data value, note = .computed call space keySuffix now data value) :
    Onward before after more := by
  have versions (space : Namespace) : after.namespaceVersion space = before.namespaceVersion space := by
    simp only [CacheDb.namespaceVersion, counters]
  refine ⟨calls.ge, fun space => (versions space).ge, fun _ _ _ _ noted => ?_, fun _ _ _ noted => ?_, fun _ _ _ noted => ?_,
    fun _ _ _ _ _ _ precedes => ?_⟩
  · rcases plain _ noted with ⟨_, _, same⟩ | ⟨_, _, _, _, _, _, same⟩ <;> cases same
  · rcases plain _ noted with ⟨_, _, same⟩ | ⟨_, _, _, _, _, _, same⟩ <;> cases same
  · rcases plain _ noted with ⟨_, _, same⟩ | ⟨_, _, _, _, _, _, same⟩ <;> cases same
  · rcases plain _ precedes.first_mem with ⟨_, _, same⟩ | ⟨_, _, _, _, _, _, same⟩ <;> cases same

theorem Sound.quiet {after : CacheDb Data Value} (sound : Sound world) (others : ∀ flight ∈ rest, flight ∈ world.flights)
    (calls : after.calls = world.db.calls) (counters : after.counters = world.db.counters) (entries : after.entries = world.db.entries) :
    Sound (world.after rest (.ended after)) := by
  refine sound.move others (onward_same calls counters fun _ none => nomatch none) (fun _ _ _ _ found => .inl ?_)
    (fun _ none => nomatch none) fun _ none => nomatch none
  rw [← entries]
  exact found

theorem begin_sound (sound : Sound world) (request : CacheRequest Data Value) :
    Sound (world.after world.flights (beginCache now request world.db)) := by
  cases request with
  | wrapNamespaced space keySuffix ttlSeconds fn =>
    refine sound.move (fun _ mem => mem) ⟨Nat.le_succ _, fun _ => le_refl _, fun _ _ _ _ noted => ?_, fun _ _ _ noted => ?_,
      fun _ _ _ noted => ?_, fun _ _ _ _ _ _ precedes => ?_⟩ (fun _ _ _ _ found => .inl found) (fun flight mem => ?_)
      fun note mem => ?_
    · cases mem_singleton.mp noted
      exact ⟨le_refl _, Nat.lt_succ_self _, rfl⟩
    · cases mem_singleton.mp noted
    · cases mem_singleton.mp noted
    · cases mem_singleton.mp precedes.first_mem
    · obtain rfl := mem_singleton.mp mem
      refine ⟨Nat.lt_succ_self _, le_refl _, fun other suffix seen noted => ?_⟩
      rcases mem_append.mp noted with old | new
      · exact absurd (sound.notes _ old) (Nat.lt_irrefl _)
      · cases mem_singleton.mp new
        exact ⟨rfl, rfl, rfl⟩
    · obtain rfl := mem_singleton.mp mem
      exact Nat.lt_succ_self _
  | change space write =>
    unfold beginCache
    dsimp only
    cases write now world.db.data with
    | error failure => exact sound.quiet (fun _ mem => mem) rfl rfl rfl
    | ok data =>
      refine sound.move (fun _ mem => mem) ⟨Nat.le_succ _, fun _ => le_refl _, fun _ _ _ _ noted => ?_,
        fun _ _ _ noted => ?_, fun _ _ _ noted => ?_, fun _ _ _ _ _ _ precedes => ?_⟩ (fun _ _ _ _ found => .inl found)
        (fun flight mem => ?_) fun note mem => ?_
      · cases mem_singleton.mp noted
      · cases mem_singleton.mp noted
        exact ⟨le_refl _, Nat.lt_succ_self _⟩
      · cases mem_singleton.mp noted
      · cases mem_singleton.mp precedes.first_mem
      · obtain rfl := mem_singleton.mp mem
        exact Nat.lt_succ_self _
      · obtain rfl := mem_singleton.mp mem
        exact Nat.lt_succ_self _
  | write write => exact sound.quiet (fun _ mem => mem) rfl rfl rfl

theorem fresh_computed {notes : List (CacheNote Data Value)} {call : Nat} {space : Namespace} {keySuffix : String} {version : Nat}
    {data : Data} {value : Option Value} (more : List (CacheNote Data Value)) (silent : ∀ change space after, .changed change space after ∉ more) :
    Fresh (notes ++ .computed call space keySuffix now data value :: more) space keySuffix version value := by
  refine ⟨call, now, data, mem_append_right _ mem_cons_self, fun change after reached changed _ _ => ?_⟩
  rcases mem_append.mp changed with old | new
  · exact precedes_append.mpr (.inr (.inl ⟨old, mem_cons_self⟩))
  · rcases mem_cons.mp new with same | late
    · cases same
    · exact absurd late (silent change space after)

theorem proceed_sound (sound : Sound world) {flight : CacheFlight Data Value} (listed : flight ∈ world.flights)
    (others : ∀ other ∈ rest, other ∈ world.flights) : Sound (world.after rest (proceedCache now flight world.db)) := by
  have own := sound.flights flight listed
  cases flight with
  | getting wrapped =>
    unfold proceedCache
    dsimp only
    cases got : world.db.get now wrapped.key with
    | some cached =>
      obtain ⟨entry, found, rfl⟩ := get_eq_some got
      have onward : Onward world.db world.db [.returned wrapped.call (some entry.value)] :=
        onward_same rfl rfl fun note mem => .inl ⟨_, _, mem_singleton.mp mem⟩
      refine sound.move others onward (fun _ _ _ _ found => .inl found) (fun _ none => absurd none not_mem_nil) fun note mem => ?_
      obtain rfl := mem_singleton.mp mem
      obtain ⟨current, fresh⟩ := sound.entries _ _ _ _ found
      exact ⟨_, _, _, Began.append own onward, fresh.append current sound.notes onward⟩
    | none =>
      have onward : Onward world.db world.db [] := onward_same rfl rfl fun _ none => absurd none not_mem_nil
      refine sound.move others onward (fun _ _ _ _ found => .inl found) (fun flight mem => ?_) fun _ none => absurd none not_mem_nil
      obtain rfl := mem_singleton.mp mem
      exact Began.append own onward
  | computing wrapped =>
    unfold proceedCache
    dsimp only
    cases wrapped.fn now world.db.data with
    | error failure => exact sound.quiet others rfl rfl rfl
    | ok value =>
      cases value with
      | some value =>
        have onward : Onward world.db world.db
            [.computed wrapped.call wrapped.space wrapped.keySuffix now world.db.data (some value)] :=
          onward_same rfl rfl fun note mem => .inr ⟨_, _, _, _, _, _, mem_singleton.mp mem⟩
        refine sound.move others onward (fun _ _ _ _ found => .inl found) (fun flight mem => ?_) fun note mem => ?_
        · obtain rfl := mem_singleton.mp mem
          exact ⟨Began.append own onward, fresh_computed [] fun _ _ _ none => absurd none not_mem_nil⟩
        · obtain rfl := mem_singleton.mp mem
          trivial
      | none =>
        have onward : Onward world.db world.db
            [.computed wrapped.call wrapped.space wrapped.keySuffix now world.db.data none, .returned wrapped.call none] := by
          refine onward_same rfl rfl fun note mem => ?_
          rcases mem_pair.mp mem with rfl | rfl
          · exact .inr ⟨_, _, _, _, _, _, rfl⟩
          · exact .inl ⟨_, _, rfl⟩
        refine sound.move others onward (fun _ _ _ _ found => .inl found) (fun _ none => absurd none not_mem_nil) fun note mem => ?_
        rcases mem_pair.mp mem with rfl | rfl
        · trivial
        · refine ⟨_, _, _, Began.append own onward, fresh_computed _ fun _ _ _ noted => ?_⟩
          cases mem_singleton.mp noted
  | setting wrapped value =>
    obtain ⟨began, fresh⟩ := own
    have calls : (world.db.set now wrapped.key value wrapped.ttlSeconds).calls = world.db.calls := by
      unfold CacheDb.set
      split <;> rfl
    have counters : (world.db.set now wrapped.key value wrapped.ttlSeconds).counters = world.db.counters := by
      unfold CacheDb.set
      split <;> rfl
    have onward : Onward world.db (world.db.set now wrapped.key value wrapped.ttlSeconds) [.returned wrapped.call (some value)] :=
      onward_same calls counters fun note mem => .inl ⟨_, _, mem_singleton.mp mem⟩
    have later := fresh.append began.current sound.notes onward
    refine sound.move others onward (fun space keySuffix version entry found => ?_) (fun _ none => absurd none not_mem_nil) fun note mem => ?_
    · rcases entries_set found with old | ⟨same, rfl⟩
      · exact .inl old
      · obtain ⟨rfl, rfl, rfl⟩ := cacheKey_injective same
        exact .inr ⟨(began.append onward).current, later⟩
    · obtain rfl := mem_singleton.mp mem
      exact ⟨_, _, _, began.append onward, later⟩
  | invalidating change space =>
    have reached := version_invalidated world.db space
    refine sound.move others ⟨le_refl _, fun other => version_le_invalidated world.db space other, fun _ _ _ _ noted => ?_,
      fun _ _ _ noted => ?_, fun _ _ _ noted => ?_, fun _ _ _ _ _ _ precedes => ?_⟩ (fun _ _ _ _ found => .inl found)
      (fun _ none => absurd none not_mem_nil) fun note mem => ?_
    · cases mem_singleton.mp noted
    · cases mem_singleton.mp noted
    · cases mem_singleton.mp noted
      exact ⟨own, Nat.lt_succ_self _, reached.ge⟩
    · have second : CacheNote.started _ _ _ _ ∈ _ := precedes.subset (mem_cons_of_mem _ mem_cons_self)
      cases mem_singleton.mp second
    · obtain rfl := mem_singleton.mp mem
      exact ⟨own, reached.ge⟩

end

theorem sound_idle (data : Data) : Sound (World.idle (CacheDb.fresh data) : CacheWorld Data Value) :=
  ⟨(fun _ _ _ _ none => nomatch none), (fun _ none => nomatch none), (fun _ none => nomatch none), fun _ _ _ _ _ _ none => nomatch none⟩

theorem Sound.complete {world : CacheWorld Data Value} (sound : Sound world) : Complete world.notes := by
  intro change space after version call keySuffix seen value changed precedes returned
  have below := sound.order change space version call keySuffix seen precedes
  obtain ⟨_, _, _, began, fresh⟩ := sound.notes _ returned
  have started : CacheNote.started call space keySuffix seen ∈ world.notes :=
    precedes.subset (mem_cons_of_mem _ mem_cons_self)
  obtain ⟨rfl, rfl, rfl⟩ := began.only space keySuffix seen started
  obtain ⟨computing, now, data, -, since⟩ := fresh
  exact ⟨computing, now, data, since change after version changed precedes.first_mem below⟩

end SmartResidence.Cache
