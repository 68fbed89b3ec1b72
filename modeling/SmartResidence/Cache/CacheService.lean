import SmartResidence.Billing.Schema
import SmartResidence.Foundation.Services

/-!
# `cache.service.ts`
-/

namespace SmartResidence.Cache

open Foundation Billing List

structure Uuid where
  text : String
  plain : ':' ∉ text.toList

inductive Namespace
  | authUser (userId : Uuid)
  | faq (condoId : Uuid)

def Namespace.text : Namespace → String
  | .authUser userId => "auth:user:" ++ userId.text
  | .faq condoId => "faq:" ++ condoId.text

def cacheKey (space : Namespace) (version : Nat) (keySuffix : String) : String :=
  space.text ++ ":v" ++ toString version ++ ":" ++ keySuffix

def versionKey (space : Namespace) : String := "cachever:" ++ space.text

structure CacheEntry (Value : Type) where
  value : Value
  expiresAt : Instant

structure CacheDb (Data Value : Type) where
  data : Data
  counters : String → Option Nat
  entries : String → Option (CacheEntry Value)
  calls : Nat

variable {Data Value : Type}

namespace CacheDb

variable (db : CacheDb Data Value)

def fresh (data : Data) : CacheDb Data Value := ⟨data, fun _ => none, fun _ => none, 0⟩

def get (now : Instant) (key : String) : Option Value :=
  ((db.entries key).filter fun entry => decide (now < entry.expiresAt)).map CacheEntry.value

def set (now : Instant) (key : String) (value : Value) (ttlSeconds : Int) : CacheDb Data Value :=
  if ttlSeconds ≤ 0 then db
  else { db with entries := Function.update db.entries key (some ⟨value, now + ttlSeconds * 1000⟩) }

def namespaceVersion (space : Namespace) : Nat := (db.counters (versionKey space)).getD 0

def invalidateNamespace (space : Namespace) : CacheDb Data Value :=
  { db with counters := Function.update db.counters (versionKey space) (some (db.namespaceVersion space + 1)) }

end CacheDb

section

variable {db : CacheDb Data Value}

variable {now : Instant} {key : String} {value : Value}

theorem get_eq_some (found : db.get now key = some value) :
    ∃ entry, db.entries key = some entry ∧ entry.value = value := by
  obtain ⟨entry, kept, same⟩ := Option.map_eq_some_iff.mp found
  exact ⟨entry, (Option.filter_eq_some_iff.mp kept).1, same⟩

theorem entries_set {other : String} {ttlSeconds : Int} {entry : CacheEntry Value}
    (found : (db.set now key value ttlSeconds).entries other = some entry) :
    db.entries other = some entry ∨ (other = key ∧ entry.value = value) := by
  unfold CacheDb.set at found
  split at found
  · exact .inl found
  · have found : Function.update db.entries key (some ⟨value, now + ttlSeconds * 1000⟩) other = some entry := found
    by_cases same : other = key
    · subst same
      rw [Function.update_self] at found
      cases found
      exact .inr ⟨rfl, rfl⟩
    · rw [Function.update_of_ne same] at found
      exact .inl found

end

/-- What is computed, from the tables at that instant; it may be `null`. -/
abbrev Compute (Data Value : Type) : Type := Instant → Data → Result (Option Value)

inductive CacheRequest (Data Value : Type)
  | wrapNamespaced (space : Namespace) (keySuffix : String) (ttlSeconds : Int) (fn : Compute Data Value)
  | change (space : Namespace) (write : Instant → Data → Result Data)
  | write (write : Instant → Data → Data)

/-- A call of `wrapNamespaced` with the version that it has read. -/
structure Wrapped (Data Value : Type) where
  call : Nat
  space : Namespace
  keySuffix : String
  ttlSeconds : Int
  fn : Compute Data Value
  version : Nat

def Wrapped.key (wrapped : Wrapped Data Value) : String := cacheKey wrapped.space wrapped.version wrapped.keySuffix

inductive CacheFlight (Data Value : Type)
  | getting (wrapped : Wrapped Data Value)
  | computing (wrapped : Wrapped Data Value)
  | setting (wrapped : Wrapped Data Value) (value : Value)
  | invalidating (change : Nat) (space : Namespace)

inductive CacheNote (Data Value : Type)
  | started (call : Nat) (space : Namespace) (keySuffix : String) (version : Nat)
  | computed (call : Nat) (space : Namespace) (keySuffix : String) (now : Instant) (data : Data) (value : Option Value)
  | returned (call : Nat) (value : Option Value)
  | changed (change : Nat) (space : Namespace) (data : Data)
  | invalidated (change : Nat) (space : Namespace) (version : Nat)

abbrev CacheOutcome (Data Value : Type) : Type := Outcome (CacheDb Data Value) (CacheFlight Data Value) (CacheNote Data Value)

def beginCache (now : Instant) (request : CacheRequest Data Value) (db : CacheDb Data Value) : CacheOutcome Data Value :=
  match request with
  | .wrapNamespaced space keySuffix ttlSeconds fn =>
      let version := db.namespaceVersion space
      ⟨{ db with calls := db.calls + 1 }, [.getting ⟨db.calls, space, keySuffix, ttlSeconds, fn, version⟩],
        [.started db.calls space keySuffix version]⟩
  | .change space write =>
      match write now db.data with
      | .ok data => ⟨{ db with data := data, calls := db.calls + 1 }, [.invalidating db.calls space], [.changed db.calls space data]⟩
      | .error _ => .ended db
  | .write write => .ended { db with data := write now db.data }

/-- The call has its value; `null` is not cached. -/
def afterCompute (now : Instant) (wrapped : Wrapped Data Value) (value : Option Value) (db : CacheDb Data Value) :
    CacheOutcome Data Value :=
  let computed := CacheNote.computed wrapped.call wrapped.space wrapped.keySuffix now db.data value
  match value with
  | some fresh => ⟨db, [.setting wrapped fresh], [computed]⟩
  | none => ⟨db, [], [computed, .returned wrapped.call none]⟩

def proceedCache (now : Instant) (flight : CacheFlight Data Value) (db : CacheDb Data Value) : CacheOutcome Data Value :=
  match flight with
  | .getting wrapped =>
      match db.get now wrapped.key with
      | some cached => ⟨db, [], [.returned wrapped.call (some cached)]⟩
      | none => .reads db [.computing wrapped]
  | .computing wrapped =>
      match wrapped.fn now db.data with
      | .ok value => afterCompute now wrapped value db
      | .error _ => .ended db
  | .setting wrapped value => ⟨db.set now wrapped.key value wrapped.ttlSeconds, [], [.returned wrapped.call (some value)]⟩
  | .invalidating change space =>
      ⟨db.invalidateNamespace space, [], [.invalidated change space (db.namespaceVersion space + 1)]⟩

def cacheService : Service Instant (CacheDb Data Value) (CacheRequest Data Value) (CacheFlight Data Value) (CacheNote Data Value) :=
  ⟨beginCache, proceedCache⟩

theorem split_colon {first second front back : List Char} (left : ':' ∉ first) (right : ':' ∉ second)
    (same : first ++ ':' :: front = second ++ ':' :: back) : first = second ∧ front = back := by
  induction first generalizing second with
  | nil =>
    cases second with
    | nil => exact ⟨rfl, (List.cons.inj same).2⟩
    | cons letter rest =>
      obtain rfl := (List.cons.inj same).1
      exact absurd mem_cons_self right
  | cons letter rest ih =>
    cases second with
    | nil =>
      obtain rfl := (List.cons.inj same).1
      exact absurd mem_cons_self left
    | cons other others =>
      obtain ⟨rfl, tails⟩ := List.cons.inj same
      obtain ⟨rfl, rest⟩ := ih (not_mem_of_not_mem_cons left) (not_mem_of_not_mem_cons right) tails
      exact ⟨rfl, rest⟩

theorem colon_toDigits (n : Nat) : ':' ∉ Nat.toDigits 10 n := by
  intro mem
  have digit := Nat.isDigit_of_mem_toDigits (by decide) (by decide) mem
  exact absurd digit (by decide)

def keyTail (id : Uuid) (version : Nat) (keySuffix : String) : List Char :=
  id.text.toList ++ ':' :: 'v' :: (Nat.toDigits 10 version ++ ':' :: keySuffix.toList)

variable {version seen : Nat} {keySuffix suffix : String}

theorem keyTail_injective {id other : Uuid} (same : keyTail id version keySuffix = keyTail other seen suffix) :
    id = other ∧ version = seen ∧ keySuffix = suffix := by
  obtain ⟨ids, rest⟩ := split_colon id.plain other.plain same
  obtain ⟨versions, suffixes⟩ := split_colon (colon_toDigits version) (colon_toDigits seen) (List.cons.inj rest).2
  have numbers := congrArg (fun digits => Nat.ofDigitChars 10 digits 0) versions
  refine ⟨?_, by simpa using numbers, String.toList_inj.mp suffixes⟩
  cases other
  cases String.toList_inj.mp ids
  rfl

theorem toList_cacheKey (space : Namespace) (version : Nat) (keySuffix : String) :
    (cacheKey space version keySuffix).toList = match space with
      | .authUser id => "auth:user:".toList ++ keyTail id version keySuffix
      | .faq id => "faq:".toList ++ keyTail id version keySuffix := by
  cases space <;> simp [cacheKey, Namespace.text, keyTail]

theorem cacheKey_injective {space other : Namespace}
    (same : cacheKey space version keySuffix = cacheKey other seen suffix) :
    space = other ∧ version = seen ∧ keySuffix = suffix := by
  have texts := congrArg String.toList same
  rw [toList_cacheKey, toList_cacheKey] at texts
  cases space with
  | authUser id =>
    cases other with
    | authUser id' =>
      obtain ⟨rfl, rest⟩ := keyTail_injective (append_cancel_left texts)
      exact ⟨rfl, rest⟩
    | faq id' => exact absurd texts (by simp)
  | faq id =>
    cases other with
    | authUser id' => exact absurd texts (by simp)
    | faq id' =>
      obtain ⟨rfl, rest⟩ := keyTail_injective (append_cancel_left texts)
      exact ⟨rfl, rest⟩

theorem versionKey_injective {space other : Namespace} (same : versionKey space = versionKey other) : space = other := by
  have keys : cacheKey space 0 "" = cacheKey other 0 "" := by
    have texts := congrArg String.toList same
    simp only [versionKey, String.toList_append, append_cancel_left_eq] at texts
    rw [cacheKey, cacheKey, String.toList_inj.mp texts]
  exact (cacheKey_injective keys).1

section

variable (db : CacheDb Data Value) (space other : Namespace)

theorem version_invalidated : (db.invalidateNamespace space).namespaceVersion space = db.namespaceVersion space + 1 := by
  simp [CacheDb.invalidateNamespace, CacheDb.namespaceVersion]

theorem version_le_invalidated : db.namespaceVersion other ≤ (db.invalidateNamespace space).namespaceVersion other := by
  by_cases same : versionKey other = versionKey space
  · obtain rfl := versionKey_injective same
    rw [version_invalidated]
    exact Nat.le_succ _
  · simp [CacheDb.invalidateNamespace, CacheDb.namespaceVersion, Function.update_of_ne same]

end

end SmartResidence.Cache
