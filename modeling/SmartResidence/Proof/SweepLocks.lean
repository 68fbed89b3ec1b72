import Mathlib.Tactic.Linarith
import SmartResidence.Redis.DistributedLock

/-!
# Calls of `withLock` on one key

A lock counts from the instant at which Redis sets it. The callback starts later, when the reply has arrived.
-/

namespace SmartResidence.Redis

open Foundation Billing

structure HoldsSince (call : LockCall) (at' : Instant) : Prop where
  set : call.setAt = some at'
  unreleased : ∀ returned, call.phase ≠ .ended (.released returned)

def Over (clock : Instant) (call : LockCall) : Prop :=
  (∃ returned, call.phase = .ended (.released returned)) ∨ ∀ at', call.setAt = some at' → at' + call.ttl < clock

def Exclusive (state : LockState) : Prop :=
  ∀ i j first second since later, state.call? i = some first → state.call? j = some second → i ≠ j →
    first.key = second.key → first.phase = .running since → second.phase = .running later →
    ∃ a b, first.setAt = some a ∧ second.setAt = some b ∧ a ≤ state.clock ∧ b ≤ state.clock ∧
      (a + first.ttl < b ∨ b + second.ttl < a)

def ExclusiveFromStart (state : LockState) : Prop :=
  ∀ i j first second since later, state.call? i = some first → state.call? j = some second → i ≠ j →
    first.key = second.key → first.phase = .running since → second.phase = .running later → since ≤ later →
    since + first.ttl < state.clock

structure LocksExclude (randomUUID : Nat → String) (state : LockState) : Prop where
  exclusive : Exclusive state
  own : ∀ event key token, state.get key = some token → (state.next randomUUID event).get key ≠ some token →
    (∃ ms, event = .advance ms) ∨ ∃ place reply call returned, event = .redis place reply ∧
      state.call? place = some call ∧ call.token = token ∧ call.phase = .releasing returned
  acquirable : ∀ place call, state.call? place = some call → call.phase = .setting → 0 < call.ttlSeconds →
    (∀ other ∈ state.calls, other.lockKey = call.lockKey → Over state.clock other) →
    (state.next randomUUID (.redis place .arrives)).call? place =
      some { call with phase := .acquired, setAt := some state.clock }

section

variable {state : LockState} {place i : Nat} {call other : LockCall} {key token : String} {ttl : Instant}

theorem get_eq_some : state.get key = some token ↔
    ∃ entry, state.entries key = some entry ∧ state.clock ≤ entry.expiresAt ∧ entry.token = token := by
  unfold LockState.get
  simp only [Option.map_eq_some_iff, Option.filter_eq_some_iff, decide_eq_true_eq]
  constructor
  · intro ⟨entry, ⟨stored, alive⟩, own⟩
    exact ⟨entry, stored, alive, own⟩
  · intro ⟨entry, stored, alive, own⟩
    exact ⟨entry, ⟨stored, alive⟩, own⟩

@[simp] theorem write_clock : (state.write place call).clock = state.clock := rfl
@[simp] theorem write_entries : (state.write place call).entries = state.entries := rfl
theorem write_call? (here : state.call? place = some other) :
    (state.write place call).call? i = if i = place then some call else state.call? i := by
  obtain ⟨mem, -⟩ := List.getElem?_eq_some_iff.mp here
  unfold LockState.write LockState.call?
  rw [List.getElem?_set]
  by_cases same : place = i
  · subst same
    simp [mem]
  · rw [if_neg same, if_neg fun own => same own.symm]

theorem setEx_entries_other {other : String} (ne : other ≠ key) :
    (state.setEx key token ttl).entries other = state.entries other := Function.update_of_ne ne _ _

theorem setEx_entries_self : (state.setEx key token ttl).entries key = some ⟨token, state.clock + ttl⟩ :=
  Function.update_self _ _ _

@[simp] theorem deleteOwn_clock : (state.deleteOwn key token).clock = state.clock := by
  unfold LockState.deleteOwn
  split
  · rfl
  · rfl

@[simp] theorem deleteOwn_calls : (state.deleteOwn key token).calls = state.calls := by
  unfold LockState.deleteOwn
  split
  · rfl
  · rfl

theorem deleteOwn_entries {other : String} (kept : other ≠ key ∨ state.get key ≠ some token) :
    (state.deleteOwn key token).entries other = state.entries other := by
  unfold LockState.deleteOwn
  split
  · rename_i own
    exact Function.update_of_ne (kept.resolve_right fun not => not own) _ _
  · rfl

theorem deleteOwn_self (own : state.get key = some token) : (state.deleteOwn key token).entries key = none := by
  unfold LockState.deleteOwn
  rw [if_pos own]
  exact Function.update_self _ _ _

theorem get_congr {after : LockState} (clock : after.clock = state.clock) (entries : after.entries key = state.entries key) :
    after.get key = state.get key := by
  unfold LockState.get
  rw [clock, entries]

end

/-! ## The invariant -/

structure Coherent (call : LockCall) : Prop where
  waiting : call.phase = .setting → call.setAt = none
  locked : call.phase = .acquired ∨ (∃ since, call.phase = .running since) ∨ (∃ returned, call.phase = .releasing returned) →
    call.setAt ≠ none

structure Sound (randomUUID : Nat → String) (state : LockState) : Prop where
  tokens : ∀ place call, state.call? place = some call → call.token = randomUUID place
  coherent : ∀ place call, state.call? place = some call → Coherent call
  past : ∀ place call, state.call? place = some call → ∀ at', call.setAt = some at' → at' ≤ state.clock
  kept : ∀ place call, state.call? place = some call → ∀ at', HoldsSince call at' → state.clock ≤ at' + call.ttl →
    state.entries call.lockKey = some ⟨call.token, at' + call.ttl⟩
  owned : ∀ key entry, state.entries key = some entry → state.clock ≤ entry.expiresAt →
    ∃ place call at', state.call? place = some call ∧ call.lockKey = key ∧ call.token = entry.token ∧ HoldsSince call at' ∧
      entry.expiresAt = at' + call.ttl
  apart : ∀ i j first second a b, state.call? i = some first → state.call? j = some second → i ≠ j →
    first.lockKey = second.lockKey → HoldsSince first a → HoldsSince second b → a ≤ b → a + first.ttl < b

section

variable {randomUUID : Nat → String} {state : LockState} {place : Nat} {call changed : LockCall}

theorem ttl_nonneg (call : LockCall) : 0 ≤ call.ttl := by
  show (0 : ℤ) ≤ call.ttlSeconds * 1000
  omega

structure Continues (call changed : LockCall) : Prop where
  key : changed.key = call.key
  ttlSeconds : changed.ttlSeconds = call.ttlSeconds
  token : changed.token = call.token

theorem Continues.lockKey (continues : Continues call changed) : changed.lockKey = call.lockKey := by
  unfold LockCall.lockKey
  rw [continues.key]

theorem Continues.ttl (continues : Continues call changed) : changed.ttl = call.ttl := by
  unfold LockCall.ttl
  rw [continues.ttlSeconds]

theorem sound_fresh (clock : Instant) : Sound randomUUID (.fresh clock) where
  tokens := by simp [LockState.fresh, LockState.call?]
  coherent := by simp [LockState.fresh, LockState.call?]
  past := by simp [LockState.fresh, LockState.call?]
  kept := by simp [LockState.fresh, LockState.call?]
  owned := by simp [LockState.fresh]
  apart := by simp [LockState.fresh, LockState.call?]

variable (sound : Sound randomUUID state)

include sound

theorem sound_advance {ms : Nat} : Sound randomUUID { state with clock := state.clock + ms } where
  tokens := sound.tokens
  coherent := sound.coherent
  past := by
    intro place call here at' set
    have earlier := sound.past place call here at' set
    linarith [Int.natCast_nonneg ms]
  kept := by
    intro place call here at' holds alive
    refine sound.kept place call here at' holds ?_
    linarith [Int.natCast_nonneg ms]
  owned := by
    intro key entry stored alive
    refine sound.owned key entry stored ?_
    linarith [Int.natCast_nonneg ms]
  apart := sound.apart

omit sound in
theorem begin_call? {key : String} {ttlSeconds : Nat} {found : LockCall}
    (here : (state.begin randomUUID key ttlSeconds).call? place = some found) : state.call? place = some found ∨
      (place = state.calls.length ∧ found = ⟨key, ttlSeconds, randomUUID state.calls.length, .setting, none⟩) := by
  unfold LockState.begin LockState.call? at here
  rw [List.getElem?_append] at here
  split at here
  · exact .inl here
  · rename_i late
    rw [List.getElem?_singleton] at here
    split at here
    · rename_i first
      exact .inr ⟨by omega, (Option.some.inj here).symm⟩
    · cases here

theorem sound_begin {key : String} {ttlSeconds : Nat} : Sound randomUUID (state.begin randomUUID key ttlSeconds) := by
  have old : ∀ place found at', (state.begin randomUUID key ttlSeconds).call? place = some found → found.setAt = some at' →
      state.call? place = some found := by
    intro place found at' here set
    rcases begin_call? here with early | ⟨-, rfl⟩
    · exact early
    · cases set
  constructor
  case tokens =>
    intro place found here
    rcases begin_call? here with early | ⟨rfl, rfl⟩
    · exact sound.tokens place found early
    · rfl
  case coherent =>
    intro place found here
    rcases begin_call? here with early | ⟨-, rfl⟩
    · exact sound.coherent place found early
    · exact ⟨fun _ => rfl, by simp⟩
  case past => exact fun place found here at' set => sound.past place found (old place found at' here set) at' set
  case kept =>
    exact fun place found here at' holds => sound.kept place found (old place found at' here holds.set) at' holds
  case owned =>
    intro key entry stored alive
    obtain ⟨place, found, at', here, rest⟩ := sound.owned key entry stored alive
    refine ⟨place, found, at', ?_, rest⟩
    obtain ⟨mem, -⟩ := List.getElem?_eq_some_iff.mp here
    exact (List.getElem?_append_left mem).trans here
  case apart =>
    intro i j first second a b here there ne same holds holds'
    exact sound.apart i j first second a b (old i first a here holds.set) (old j second b there holds'.set) ne same
      holds holds'

variable (here : state.call? place = some call) (continues : Continues call changed) (coherent : Coherent changed)

include here continues coherent

theorem sound_write (same : ∀ at', HoldsSince changed at' ↔ HoldsSince call at')
    (set : changed.setAt = call.setAt) : Sound randomUUID (state.write place changed) := by
  have found : ∀ {i found}, (state.write place changed).call? i = some found →
      ∃ before, state.call? i = some before ∧ Continues before found ∧ Coherent found ∧ found.setAt = before.setAt ∧
        ∀ at', HoldsSince found at' ↔ HoldsSince before at' := by
    intro i found there
    rw [write_call? here] at there
    split at there
    · rename_i own
      cases there
      exact ⟨call, own ▸ here, continues, coherent, set, same⟩
    · exact ⟨found, there, ⟨rfl, rfl, rfl⟩, sound.coherent i found there, rfl, fun _ => Iff.rfl⟩
  constructor
  case tokens =>
    intro i later there
    obtain ⟨before, early, continues, -⟩ := found there
    exact continues.token.trans (sound.tokens i before early)
  case coherent =>
    intro i later there
    obtain ⟨before, -, -, coherent, -⟩ := found there
    exact coherent
  case past =>
    intro i later there at' set
    obtain ⟨before, early, -, -, same, -⟩ := found there
    exact sound.past i before early at' (same ▸ set)
  case kept =>
    intro i later there at' holds alive
    obtain ⟨before, early, continues, -, -, same⟩ := found there
    rw [continues.lockKey, continues.token, continues.ttl]
    exact sound.kept i before early at' ((same at').mp holds) (continues.ttl ▸ alive)
  case owned =>
    intro key entry stored alive
    obtain ⟨i, before, at', early, own, token, holds, expires⟩ := sound.owned key entry stored alive
    by_cases moved : i = place
    · subst moved
      obtain rfl := Option.some.inj (early.symm.trans here)
      refine ⟨i, changed, at', by rw [write_call? here, if_pos rfl], continues.lockKey.trans own, continues.token.trans token,
        (same at').mpr holds, ?_⟩
      rw [continues.ttl]
      exact expires
    · exact ⟨i, before, at', by rw [write_call? here, if_neg moved]; exact early, own, token, holds, expires⟩
  case apart =>
    intro i j first second a b there there' ne keys holds holds' ordered
    obtain ⟨one, early, continues, -, -, same⟩ := found there
    obtain ⟨two, early', continues', -, -, same'⟩ := found there'
    rw [continues.ttl]
    rw [continues.lockKey, continues'.lockKey] at keys
    exact sound.apart i j one two a b early early' ne keys ((same a).mp holds) ((same' b).mp holds') ordered

theorem sound_lock (waiting : call.phase = .setting) (free : state.get call.lockKey = none)
    (set : changed.setAt = some state.clock) (unreleased : ∀ got, changed.phase ≠ .ended (.released got)) :
    Sound randomUUID ((state.setEx call.lockKey call.token call.ttl).write place changed) := by
  have there : (state.setEx call.lockKey call.token call.ttl).call? place = some call := here
  have unset := (sound.coherent place call here).waiting waiting
  -- What is held on the key has expired.
  have expired : ∀ i other at', state.call? i = some other → other.lockKey = call.lockKey → HoldsSince other at' →
      at' + other.ttl < state.clock := by
    intro i other at' there same holds
    by_contra alive
    have stored := sound.kept i other there at' holds (not_lt.mp alive)
    rw [same] at stored
    have taken : state.get call.lockKey = some other.token := get_eq_some.mpr ⟨_, stored, not_lt.mp alive, rfl⟩
    rw [free] at taken
    cases taken
  have found : ∀ {i found}, ((state.setEx call.lockKey call.token call.ttl).write place changed).call? i = some found →
      (i = place ∧ found = changed) ∨ (i ≠ place ∧ state.call? i = some found) := by
    intro i found later
    rw [write_call? there] at later
    split at later
    · exact .inl ⟨‹_›, (Option.some.inj later).symm⟩
    · exact .inr ⟨‹_›, later⟩
  have holdsNew : ∀ {at'}, HoldsSince changed at' → at' = state.clock := by
    intro at' holds
    exact (Option.some.inj (set.symm.trans holds.set)).symm
  constructor
  case tokens =>
    intro i later now
    rcases found now with ⟨rfl, rfl⟩ | ⟨-, early⟩
    · exact continues.token.trans (sound.tokens i call here)
    · exact sound.tokens i later early
  case coherent =>
    intro i later now
    rcases found now with ⟨rfl, rfl⟩ | ⟨-, early⟩
    · exact coherent
    · exact sound.coherent i later early
  case past =>
    intro i later now at' set'
    rcases found now with ⟨rfl, rfl⟩ | ⟨-, early⟩
    · exact (Option.some.inj (set.symm.trans set')).ge
    · exact sound.past i later early at' set'
  case kept =>
    intro i later now at' holds alive
    rcases found now with ⟨rfl, rfl⟩ | ⟨-, early⟩
    · rw [continues.lockKey, continues.token, continues.ttl, holdsNew holds]
      exact setEx_entries_self
    · by_cases same : later.lockKey = call.lockKey
      · exact absurd alive (not_le.mpr (expired i later at' early same holds))
      · exact (setEx_entries_other same).trans (sound.kept i later early at' holds alive)
  case owned =>
    intro key entry stored alive
    by_cases own : key = call.lockKey
    · subst own
      obtain rfl := Option.some.inj (setEx_entries_self.symm.trans stored)
      refine ⟨place, changed, state.clock, by rw [write_call? there, if_pos rfl], continues.lockKey, continues.token,
        ⟨set, unreleased⟩, ?_⟩
      rw [continues.ttl]
    · obtain ⟨i, before, at', early, key, token, holds, expires⟩ :=
        sound.owned key entry ((setEx_entries_other own).symm.trans stored) alive
      have other : i ≠ place := by
        rintro rfl
        obtain rfl := Option.some.inj (early.symm.trans here)
        cases unset.symm.trans holds.set
      exact ⟨i, before, at', by rw [write_call? there, if_neg other]; exact early, key, token, holds, expires⟩
  case apart =>
    intro i j first second a b now now' ne keys holds holds' ordered
    rcases found now with ⟨rfl, rfl⟩ | ⟨-, early⟩
    · rcases found now' with ⟨rfl, rfl⟩ | ⟨-, early'⟩
      · exact absurd rfl ne
      · have passed := expired j second b early' (keys.symm.trans continues.lockKey) holds'
        have later := ttl_nonneg second
        have first := holdsNew holds
        linarith
    · rcases found now' with ⟨rfl, rfl⟩ | ⟨-, early'⟩
      · have passed := expired i first a early (keys.trans continues.lockKey) holds
        rw [holdsNew holds']
        exact passed
      · exact sound.apart i j first second a b early early' ne keys holds holds' ordered

theorem sound_release (nodup : Function.Injective randomUUID) (released : ∃ got, changed.phase = .ended (.released got))
    (set : changed.setAt = call.setAt) :
    Sound randomUUID ((state.deleteOwn call.lockKey call.token).write place changed) := by
  have there : (state.deleteOwn call.lockKey call.token).call? place = some call := by
    unfold LockState.call?
    rw [deleteOwn_calls]
    exact here
  obtain ⟨got, released⟩ := released
  have found : ∀ {i found}, ((state.deleteOwn call.lockKey call.token).write place changed).call? i = some found →
      (i = place ∧ found = changed) ∨ (i ≠ place ∧ state.call? i = some found) := by
    intro i found later
    rw [write_call? there] at later
    split at later
    · exact .inl ⟨‹_›, (Option.some.inj later).symm⟩
    · refine .inr ⟨‹_›, ?_⟩
      unfold LockState.call? at later
      rw [deleteOwn_calls] at later
      exact later
  have otherToken : ∀ {i other}, i ≠ place → state.call? i = some other → other.token ≠ call.token := by
    intro i other apart early same
    rw [sound.tokens i other early, sound.tokens place call here] at same
    exact apart (nodup same)
  constructor
  case tokens =>
    intro i later now
    rcases found now with ⟨rfl, rfl⟩ | ⟨-, early⟩
    · exact continues.token.trans (sound.tokens i call here)
    · exact sound.tokens i later early
  case coherent =>
    intro i later now
    rcases found now with ⟨rfl, rfl⟩ | ⟨-, early⟩
    · exact coherent
    · exact sound.coherent i later early
  case past =>
    intro i later now at' set'
    rw [write_clock, deleteOwn_clock]
    rcases found now with ⟨rfl, rfl⟩ | ⟨-, early⟩
    · exact sound.past i call here at' (set ▸ set')
    · exact sound.past i later early at' set'
  case kept =>
    intro i later now at' holds alive
    rcases found now with ⟨rfl, rfl⟩ | ⟨other, early⟩
    · exact absurd released (holds.unreleased got)
    · rw [write_clock, deleteOwn_clock] at alive
      have stored := sound.kept i later early at' holds alive
      rw [write_entries, deleteOwn_entries, stored]
      by_cases same : later.lockKey = call.lockKey
      · right
        intro own
        rw [← same, get_eq_some.mpr ⟨_, stored, alive, rfl⟩] at own
        exact otherToken other early (Option.some.inj own)
      · exact .inl same
  case owned =>
    intro key entry stored alive
    rw [write_clock, deleteOwn_clock] at alive
    rw [write_entries] at stored
    have kept : key ≠ call.lockKey ∨ state.get call.lockKey ≠ some call.token := by
      by_contra gone
      obtain ⟨rfl, own⟩ := not_or.mp gone |>.imp not_not.mp not_not.mp
      rw [deleteOwn_self own] at stored
      cases stored
    rw [deleteOwn_entries kept] at stored
    obtain ⟨i, before, at', early, own, token, holds, expires⟩ := sound.owned key entry stored alive
    have other : i ≠ place := by
      rintro rfl
      obtain rfl := Option.some.inj (early.symm.trans here)
      refine kept.elim (fun ne => ne own.symm) fun ne => ne ?_
      rw [own]
      exact get_eq_some.mpr ⟨entry, stored, alive, token.symm⟩
    refine ⟨i, before, at', ?_, own, token, holds, expires⟩
    rw [write_call? there, if_neg other]
    unfold LockState.call?
    rw [deleteOwn_calls]
    exact early
  case apart =>
    intro i j first second a b now now' ne keys holds holds' ordered
    rcases found now with ⟨rfl, rfl⟩ | ⟨-, early⟩
    · exact absurd released (holds.unreleased got)
    · rcases found now' with ⟨rfl, rfl⟩ | ⟨-, early'⟩
      · exact absurd released (holds'.unreleased got)
      · exact sound.apart i j first second a b early early' ne keys holds holds' ordered

omit here continues coherent

theorem sound_setLock {reply : RedisReply} (here : state.call? place = some call) (waiting : call.phase = .setting) :
    Sound randomUUID (state.setLock place call reply) := by
  have unset := (sound.coherent place call here).waiting waiting
  have ends : ∀ how, (∀ got, how ≠ .released got) →
      Sound randomUUID (state.write place { call with phase := .ended how }) := by
    intro how _
    refine sound_write sound here ⟨rfl, rfl, rfl⟩ ⟨fun _ => unset, by simp⟩ (fun at' => ?_) rfl
    constructor
    · exact fun holds => absurd holds.set (by simp [unset])
    · exact fun holds => absurd holds.set (by simp [unset])
  unfold LockState.setLock
  split
  · exact ends .failed (fun _ => nofun)
  · split
    · by_cases arrives : reply = .arrives
      · rw [if_pos arrives]
        exact ends .refused (fun _ => nofun)
      · rw [if_neg arrives]
        exact ends .failed (fun _ => nofun)
    · rename_i taken
      have free : state.get call.lockKey = none := Option.not_isSome_iff_eq_none.mp taken
      by_cases arrives : reply = .arrives
      · rw [if_pos arrives]
        exact sound_lock sound here ⟨rfl, rfl, rfl⟩ ⟨by simp, by simp⟩ waiting free rfl (fun _ => nofun)
      · rw [if_neg arrives]
        exact sound_lock sound here ⟨rfl, rfl, rfl⟩ ⟨by simp, by simp⟩ waiting free rfl (fun _ => nofun)

theorem sound_phase {phase : LockPhase} (here : state.call? place = some call)
    (locked : call.phase = .acquired ∨ (∃ since, call.phase = .running since) ∨ ∃ got, call.phase = .releasing got)
    (unfinished : ∀ got, phase ≠ .ended (.released got)) (begun : phase ≠ .setting) :
    Sound randomUUID (state.write place { call with phase := phase }) := by
  have set := (sound.coherent place call here).locked locked
  refine sound_write sound here ⟨rfl, rfl, rfl⟩ ⟨fun waiting => absurd waiting begun, fun _ => set⟩ (fun at' => ?_) rfl
  constructor
  · intro holds
    refine ⟨holds.set, fun got ended => ?_⟩
    rcases locked with acquired | ⟨since, running⟩ | ⟨given, releasing⟩
    · cases acquired.symm.trans ended
    · cases running.symm.trans ended
    · cases releasing.symm.trans ended
  · exact fun holds => ⟨holds.set, unfinished⟩

theorem sound_step (nodup : Function.Injective randomUUID) {event : LockEvent} {after : LockState}
    (step : LockStep randomUUID state event after) : Sound randomUUID after := by
  subst step
  cases event with
  | withLock key ttlSeconds => exact sound_begin sound
  | advance ms => exact sound_advance sound
  | redis place reply =>
    unfold LockState.next LockState.move
    dsimp only
    cases here : state.call? place with
    | none => exact sound
    | some call =>
      dsimp only
      split
      · rename_i waiting
        exact sound_setLock sound here waiting
      · rename_i got releasing
        unfold LockState.release
        split
        · exact sound_phase sound here (.inr (.inr ⟨got, releasing⟩)) (fun _ => nofun) nofun
        · exact sound_release sound here ⟨rfl, rfl, rfl⟩ ⟨by simp, by simp⟩ nodup ⟨got, rfl⟩ rfl
      · exact sound
  | start place =>
    unfold LockState.next LockState.move
    dsimp only
    cases here : state.call? place with
    | none => exact sound
    | some call =>
      dsimp only
      split
      · rename_i acquired
        exact sound_phase sound here (.inl acquired) (fun _ => nofun) nofun
      · exact sound
  | finish place got =>
    unfold LockState.next LockState.move
    dsimp only
    cases here : state.call? place with
    | none => exact sound
    | some call =>
      dsimp only
      split
      · rename_i since running
        exact sound_phase sound here (.inr (.inl ⟨since, running⟩)) (fun _ => nofun) nofun
      · exact sound

/-! ## What follows from it -/

theorem exclusive_of_sound : Exclusive state := by
  intro i j first second since later here there ne key running running'
  have holds : ∀ {place call since}, state.call? place = some call → call.phase = .running since →
      ∃ at', HoldsSince call at' ∧ at' ≤ state.clock := by
    intro place call since here running
    have set := (sound.coherent place call here).locked (.inr (.inl ⟨since, running⟩))
    obtain ⟨at', set⟩ := Option.ne_none_iff_exists'.mp set
    exact ⟨at', ⟨set, fun got ended => by cases running.symm.trans ended⟩, sound.past place call here at' set⟩
  obtain ⟨a, first_holds, a_past⟩ := holds here running
  obtain ⟨b, second_holds, b_past⟩ := holds there running'
  have keys : first.lockKey = second.lockKey := congrArg ("lock:" ++ ·) key
  refine ⟨a, b, first_holds.set, second_holds.set, a_past, b_past, ?_⟩
  rcases le_total a b with ordered | ordered
  · exact .inl (sound.apart i j first second a b here there ne keys first_holds second_holds ordered)
  · exact .inr (sound.apart j i second first b a there here ne.symm keys.symm second_holds first_holds ordered)

theorem acquires (here : state.call? place = some call) (waiting : call.phase = .setting) (pos : 0 < call.ttlSeconds)
    (passed : ∀ other ∈ state.calls, other.lockKey = call.lockKey → Over state.clock other) :
    (state.next randomUUID (.redis place .arrives)).call? place =
      some { call with phase := .acquired, setAt := some state.clock } := by
  have free : state.get call.lockKey = none := by
    by_contra taken
    obtain ⟨token, held⟩ := Option.ne_none_iff_exists'.mp taken
    obtain ⟨entry, stored, alive, -⟩ := get_eq_some.mp held
    obtain ⟨i, other, at', there, own, -, holds, expires⟩ := sound.owned _ entry stored alive
    rcases passed other (List.mem_of_getElem? there) own with ⟨got, released⟩ | expired
    · exact holds.unreleased got released
    · have past := expired at' holds.set
      rw [expires] at alive
      exact absurd past (not_lt.mpr alive)
  have there : (state.setEx call.lockKey call.token call.ttl).call? place = some call := here
  unfold LockState.next LockState.move LockState.setLock
  simp only [here, waiting]
  rw [if_neg (by simp [pos.ne']), if_neg (by simp [free]), if_pos trivial, write_call? there, if_pos rfl]

omit sound

theorem get_of_entries {after : LockState} {key token : String} (held : state.get key = some token)
    (lost : after.get key ≠ some token) (clock : after.clock = state.clock) : after.entries key ≠ state.entries key := by
  intro same
  exact lost ((get_congr clock same).trans held)

theorem lost_by_script {event : LockEvent} {key token : String} (held : state.get key = some token)
    (lost : (state.next randomUUID event).get key ≠ some token) :
    (∃ ms, event = .advance ms) ∨ ∃ place reply call returned, event = .redis place reply ∧
      state.call? place = some call ∧ call.token = token ∧ call.phase = .releasing returned := by
  cases event with
  | withLock key ttlSeconds => exact absurd held lost
  | advance ms => exact .inl ⟨ms, rfl⟩
  | redis place reply =>
    right
    unfold LockState.next LockState.move at lost
    dsimp only at lost
    cases here : state.call? place with
    | none =>
      rw [here] at lost
      exact absurd held lost
    | some call =>
      rw [here] at lost
      dsimp only at lost
      split at lost
      · unfold LockState.setLock at lost
        split at lost
        · exact absurd held lost
        · split at lost
          · exact absurd held lost
          · rename_i free
            by_cases same : key = call.lockKey
            · subst same
              exact absurd (by rw [held]; rfl) free
            · exact absurd (setEx_entries_other same) (get_of_entries held lost rfl)
      · rename_i returned releasing
        refine ⟨place, reply, call, returned, rfl, here, ?_, releasing⟩
        unfold LockState.release at lost
        split at lost
        · exact absurd held lost
        · by_contra other
          have changed := get_of_entries held lost deleteOwn_clock
          refine changed (deleteOwn_entries ?_)
          by_cases same : key = call.lockKey
          · subst same
            right
            rw [held]
            exact fun own => other (Option.some.inj own).symm
          · exact .inl same
      · exact absurd held lost
  | start place =>
    unfold LockState.next LockState.move at lost
    dsimp only at lost
    split at lost
    · split at lost
      · exact absurd held lost
      · exact absurd held lost
    · exact absurd held lost
  | finish place returned =>
    unfold LockState.next LockState.move at lost
    dsimp only at lost
    split at lost
    · split at lost
      · exact absurd held lost
      · exact absurd held lost
    · exact absurd held lost

end

/-- In every state that calls of `withLock` reach, locks exclude each other, go only by their own, and come free. -/
theorem locks_exclude {randomUUID : Nat → String} (distinct : Function.Injective randomUUID) {clock : Instant}
    {events : List LockEvent} {state : LockState} (run : Run (LockStep randomUUID) (.fresh clock) events state) :
    LocksExclude randomUUID state := by
  have sound : Sound randomUUID state :=
    run.invariant (fun _ _ _ sound step => sound_step sound distinct step) (sound_fresh clock)
  exact ⟨exclusive_of_sound sound, fun _ _ _ held lost => lost_by_script held lost,
    fun _ _ here waiting positive passed => acquires sound here waiting positive passed⟩

namespace Sample

def uuid (draw : Nat) : String := String.ofList (List.replicate draw 'x')

theorem uuid_injective : Function.Injective uuid := by
  intro first second same
  have length := congrArg (fun text : String => text.toList.length) same
  simpa [uuid] using length

def lateReply : List LockEvent :=
  [.withLock "sweep" 1, .withLock "sweep" 1, .redis 0 .arrives, .advance 900, .start 0, .advance 101, .redis 1 .arrives, .start 1]

def reached (events : List LockEvent) : LockState := events.foldl (LockState.next uuid) (.fresh 0)

theorem run_reached (events : List LockEvent) : Run (LockStep uuid) (.fresh 0) events (reached events) := .of_foldl _ events

end Sample

theorem callbacks_overlap : ∃ events state, Run (LockStep Sample.uuid) (.fresh 0) events state ∧ ¬ ExclusiveFromStart state := by
  refine ⟨Sample.lateReply, _, Sample.run_reached _, fun law => ?_⟩
  have calls : (Sample.reached Sample.lateReply).calls = [⟨"sweep", 1, "", .running 900, some 0⟩,
      ⟨"sweep", 1, "x", .running 1001, some 1001⟩] := by
    decide +kernel
  have clock : (Sample.reached Sample.lateReply).clock = 1001 := by decide +kernel
  have passed := law 0 1 ⟨"sweep", 1, "", .running 900, some 0⟩ ⟨"sweep", 1, "x", .running 1001, some 1001⟩ 900 1001
    (by unfold LockState.call?; rw [calls]; rfl) (by unfold LockState.call?; rw [calls]; rfl) (by decide) rfl rfl rfl (by decide)
  rw [clock] at passed
  exact absurd passed (by decide)

theorem locks_exclude_overlapping : LocksExclude Sample.uuid (Sample.reached Sample.lateReply) :=
  locks_exclude Sample.uuid_injective (Sample.run_reached Sample.lateReply)

end SmartResidence.Redis
