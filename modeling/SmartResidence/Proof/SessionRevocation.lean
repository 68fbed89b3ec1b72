import SmartResidence.Proof.AuthSteps

/-!
# What a revocation means for the access tokens of the session

The guard does not look at the session. Only the deletion of the account reaches it, through the user it loads.
-/

namespace SmartResidence.Auth

open Foundation Billing List

/-- No request that came after the return of a revocation was accepted with a token of that session. -/
def RevocationsHold (start finish : World AuthDb AuthFlight AuthNote) : Prop :=
  ∀ request token sessionId, start.db.draws ≤ request → .accepted request token ∈ finish.notes →
    (token, sessionId) ∈ finish.db.signed → .revocationReturned sessionId ∉ start.notes

/-- A token of a session whose revocation has returned comes only when it has run out or is blocked, or when the deletion of its
user has returned. -/
def Harmless (world : World AuthDb AuthFlight AuthNote) : CallEvent Instant AuthRequest → Prop
  | .begin now (.access token _) => ∀ sessionId, (token, sessionId) ∈ world.db.signed → .revocationReturned sessionId ∈ world.notes →
      token.exp ≤ now / 1000 ∨ token.jti ∈ world.db.blocklist ∨ ∃ version, .accountDeleted token.sub version ∈ world.notes
  | _ => True

def User.gone (row : User) : Prop := row.status = .deactivated ∨ row.deletedAt ≠ none

def Buried (db : AuthDb) (userId : Id) : Prop := userId < db.nextId ∧ ∀ row ∈ db.users, row.id = userId → row.gone

def Drawn (env : AuthEnv) (db : AuthDb) (token : AccessToken) : Prop := ∃ draw < db.draws, token.jti = env.nanoid draw

structure Onward (env : AuthEnv) (before after : AuthDb) : Prop where
  users : ∀ row ∈ after.users, (∃ old ∈ before.users, old.id = row.id ∧ (old.gone → row.gone)) ∨
    (before.nextId ≤ row.id ∧ row.id < after.nextId)
  signed : ∀ pair ∈ after.signed, pair ∈ before.signed ∨
    ∃ draw, before.draws ≤ draw ∧ draw < after.draws ∧ pair.1.jti = env.nanoid draw
  nextId : before.nextId ≤ after.nextId
  draws : before.draws ≤ after.draws
  versions : ∀ userId, before.cacheVersion userId ≤ after.cacheVersion userId

section

variable {env : AuthEnv} {db before after : AuthDb} {userId : Id} {token : AccessToken}

theorem onward_same (users : after.users = before.users) (signed : after.signed = before.signed)
    (nextId : before.nextId ≤ after.nextId) (draws : before.draws ≤ after.draws)
    (versions : after.cacheVersion = before.cacheVersion) : Onward env before after := by
  refine ⟨fun row mem => .inl ⟨row, users ▸ mem, rfl, fun gone => gone⟩, fun pair mem => .inl (signed ▸ mem), nextId,
    draws, fun userId => ?_⟩
  rw [versions]

theorem Onward.refl (db : AuthDb) : Onward env db db := onward_same rfl rfl (le_refl _) (le_refl _) rfl

theorem Buried.onward (buried : Buried before userId) (onward : Onward env before after) : Buried after userId := by
  refine ⟨buried.1.trans_le onward.nextId, fun row mem own => ?_⟩
  rcases onward.users row mem with ⟨old, listed, same, stays⟩ | ⟨later, -⟩
  · exact stays (buried.2 old listed (same.trans own))
  · rw [own] at later
    exact absurd buried.1 (Nat.not_lt.mpr later)

theorem Drawn.onward (drawn : Drawn env before token) (onward : Onward env before after) : Drawn env after token := by
  obtain ⟨draw, below, same⟩ := drawn
  exact ⟨draw, below.trans_le onward.draws, same⟩

theorem signed_before (injective : Function.Injective env.nanoid) (drawn : Drawn env before token)
    (onward : Onward env before after) {sessionId : Id} (signed : (token, sessionId) ∈ after.signed) :
    (token, sessionId) ∈ before.signed := by
  rcases onward.signed _ signed with old | ⟨draw, later, -, same⟩
  · exact old
  · obtain ⟨early, below, own⟩ := drawn
    obtain rfl := injective (own.symm.trans same)
    exact absurd below (Nat.not_lt.mpr later)

theorem updateUsers_onward {change : User → User} (kept : ∀ row, (change row).id = row.id ∧ (row.gone → (change row).gone))
    (users : after.users = updateBy User.id userId change before.users) (signed : after.signed = before.signed)
    (nextId : before.nextId ≤ after.nextId) (draws : before.draws ≤ after.draws)
    (versions : after.cacheVersion = before.cacheVersion) : Onward env before after := by
  refine ⟨fun row mem => .inl ?_, fun pair mem => .inl (signed ▸ mem), nextId, draws, fun userId => ?_⟩
  · rw [users] at mem
    obtain ⟨old, listed, rfl⟩ := mem_updateBy.mp mem
    refine ⟨old, listed, ?_, fun gone => ?_⟩
    · split
      · exact (kept old).1.symm
      · rfl
    · split
      · exact (kept old).2 gone
      · exact gone
  · rw [versions]

end

/-! ## Steps that are not about requests, deletions and the cache -/

structure Aside (env : AuthEnv) (before after : AuthDb) : Prop where
  onward : Onward env before after
  cache : after.cache = before.cache

def AuthNote.plain : AuthNote → Prop
  | .accountDeleted _ _ => False
  | .accepted _ _ => False
  | _ => True

abbrev Passing (env : AuthEnv) : AuthDb → AuthOutcome → Prop :=
  Outcome.Within (Aside env) (fun _ => AuthNote.plain) (fun flight => ¬ flight.central)

section

variable {env : AuthEnv} {db after : AuthDb} {now : Instant}

theorem aside_same (users : after.users = db.users) (signed : after.signed = db.signed) (nextId : db.nextId ≤ after.nextId)
    (draws : db.draws ≤ after.draws) (versions : after.cacheVersion = db.cacheVersion) (cache : after.cache = db.cache) :
    Aside env db after :=
  ⟨onward_same users signed nextId draws versions, cache⟩

theorem Aside.refl (db : AuthDb) : Aside env db db := ⟨Onward.refl db, rfl⟩

theorem issue_aside {userId sessionId : Id} : Aside env db (db.issueAccessToken env now userId sessionId) := by
  refine ⟨⟨fun row mem => .inl ⟨row, mem, rfl, fun gone => gone⟩, fun pair mem => ?_, le_refl _, Nat.le_succ _,
    fun _ => le_refl _⟩, rfl⟩
  rcases mem_append.mp mem with old | new
  · exact .inl old
  · obtain rfl := mem_singleton.mp new
    exact .inr ⟨db.draws, le_refl _, Nat.lt_succ_self _, rfl⟩

theorem invalidate_onward {userId : Id} : Onward env db (db.invalidate userId) := by
  refine ⟨fun row mem => .inl ⟨row, mem, rfl, id⟩, fun pair mem => .inl mem, le_refl _, le_refl _, fun other => ?_⟩
  show db.cacheVersion other ≤ if other = userId then db.cacheVersion other + 1 else db.cacheVersion other
  split
  · exact Nat.le_succ _
  · exact le_refl _

variable {central : Prop}

theorem Effect.aside (effect : Effect env central db after) (other : ¬ central) : Aside env db after := by
  cases effect with
  | user id change kept =>
    have stays : ∀ row : User, (change row).id = row.id ∧ (row.gone → (change row).gone) := by
      intro row
      obtain ⟨own, status, deletedAt⟩ := kept row
      refine ⟨own, fun gone => ?_⟩
      unfold User.gone
      rw [status, deletedAt]
      exact gone
    exact ⟨updateUsers_onward stays rfl rfl (le_refl _) (le_refl _) rfl, rfl⟩
  | joined user own =>
    refine ⟨⟨fun row mem => ?_, fun pair mem => .inl mem, Nat.le_succ _, Nat.le_succ _, fun _ => le_refl _⟩, rfl⟩
    rcases mem_append.mp mem with old | new
    · exact .inl ⟨row, old, rfl, fun gone => gone⟩
    · obtain rfl := mem_singleton.mp new
      exact .inr ⟨own.ge, own.trans_lt (Nat.lt_succ_self _)⟩
  | asked row own => exact aside_same rfl rfl (Nat.le_succ _) (Nat.le_succ _) rfl rfl
  | issued now userId sessionId => exact issue_aside
  | invalidated userId => exact ⟨invalidate_onward, rfl⟩
  | asking about => exact absurd about other
  | buried about buried => exact absurd about other
  | cached about now userId version hint user => exact absurd about other
  | _ => exact aside_same rfl rfl (le_refl _) (le_refl _) rfl rfl

theorem Spoken.plain {note : AuthNote} (spoken : Spoken central db note) (other : ¬ central) : note.plain := by
  cases note with
  | accountDeleted userId version => exact other spoken
  | accepted request token => exact other spoken
  | _ => trivial

theorem Started.uncentral {flight : AuthFlight} (started : Started env central flight) (other : ¬ central) :
    ¬ flight.central := by
  cases flight with
  | signingIn read totp => exact id
  | creating userId login => exact id
  | issuing userId sessionId rotation => exact id
  | replacing refreshToken candidate => exact id
  | _ => exact fun own => other (started own)

theorem passing_of_routine {outcome : AuthOutcome} (routine : Routine env central db outcome) (other : ¬ central) :
    Passing env db outcome :=
  routine.mono (fun effect => effect.aside other) (fun _ spoken => spoken.plain other) fun _ started => started.uncentral other

theorem begin_passing {request : AuthRequest} (other : ∀ token hint, request ≠ .access token hint) :
    Passing env db (beginAuth env now request db) :=
  passing_of_routine (begin_routine request) fun ⟨token, hint, same⟩ => other token hint same

theorem passing_checkCode {record : VerificationCode} {dto : VerifyOtpDto} : Passing env db (checkCode env now record dto db) := by
  unfold checkCode
  dsimp only
  generalize env.argonVerify record.codeHash dto.code = right
  cases written : db.writeCode record.id (if right then VerificationCode.consume now else VerificationCode.miss) with
  | error _ => exact Outcome.within_note (Aside.refl db) trivial
  | ok after =>
    obtain ⟨_, -, rfl⟩ := writeCode_ok written
    refine ⟨aside_same rfl rfl (le_refl _) (le_refl _) rfl rfl, fun note only => ?_, fun flight mem => ?_⟩
    · obtain rfl := mem_singleton.mp only
      trivial
    · dsimp only at mem
      unfold afterCode at mem
      split at mem
      · split at mem
        · obtain rfl := mem_singleton.mp mem
          exact id
        · obtain rfl := mem_singleton.mp mem
          exact id
        · nomatch mem
      · nomatch mem

theorem proceed_passing {flight : AuthFlight} (other : ¬ flight.central) (alive : ∀ userId, flight ≠ .deleting userId) :
    Passing env db (proceedAuth env now flight db) := by
  have elsewhere : ¬ flight.concerns := fun about => about.elim other fun ⟨userId, same⟩ => alive userId same
  have same : Aside env db db := Aside.refl db
  cases flight with
  | signingIn read totp =>
    refine Outcome.within_thenGo same fun after written => ?_
    have effect : Effect env False db after := writeUser_effect written fun _ => ⟨rfl, rfl, rfl⟩
    exact Outcome.within_one (effect.aside id) id
  | checkingCode record dto => exact passing_checkCode
  | creating userId login =>
    unfold proceedAuth openSession
    dsimp only
    split
    · refine ⟨aside_same rfl rfl (Nat.le_succ _) (Nat.le_succ _) rfl rfl, fun note only => ?_, fun flight only => ?_⟩
      · obtain rfl := mem_singleton.mp only
        trivial
      · obtain rfl := mem_singleton.mp only
        exact id
    · exact Outcome.within_ended same
  | issuing userId sessionId rotation =>
    refine Outcome.within_last issue_aside fun note mem => ?_
    obtain ⟨_, -, rfl⟩ := mem_map.mp mem
    trivial
  | replacing refreshToken candidate =>
    refine Outcome.within_thenGo same fun after replaced => ?_
    obtain ⟨_, -, rfl⟩ := replaceToken_ok replaced
    exact Outcome.within_one (aside_same rfl rfl (le_refl _) (Nat.le_succ _) rfl rfl) id
  | _ => exact passing_of_routine (proceed_routine id) elsewhere

end

/-! ## The invariant -/

def Below (notes : List AuthNote) (userId : Id) (version : Nat) : Prop :=
  ∀ later, .accountDeleted userId later ∈ notes → version < later

def Barred (since : Nat) (returned : List AuthNote) (db : AuthDb) (request : Nat) (token : AccessToken) : Prop :=
  since ≤ request ∧ ∃ sessionId, (token, sessionId) ∈ db.signed ∧ .revocationReturned sessionId ∈ returned

def Carried (env : AuthEnv) (db : AuthDb) (request : Nat) (token : AccessToken) : Prop := request < db.draws ∧ Drawn env db token

def Traced (env : AuthEnv) (since : Nat) (returned : List AuthNote) (db : AuthDb) (notes : List AuthNote) : AuthFlight → Prop
  | .invalidating userId _ true => Buried db userId
  | .authorizing request token _ => Carried env db request token ∧
      (Barred since returned db request token → ∃ deleted, .accountDeleted token.sub deleted ∈ notes)
  | .fetching request token _ version => Carried env db request token ∧ version ≤ db.cacheVersion token.sub ∧
      (Barred since returned db request token → ∃ deleted ≤ version, .accountDeleted token.sub deleted ∈ notes)
  | .loading request token _ version => Carried env db request token ∧ version ≤ db.cacheVersion token.sub ∧
      (Barred since returned db request token → ∃ deleted ≤ version, .accountDeleted token.sub deleted ∈ notes)
  | .storing request token _ version _ => Carried env db request token ∧ version ≤ db.cacheVersion token.sub ∧
      Below notes token.sub version ∧ ¬ Barred since returned db request token
  | _ => True

structure Current (db : AuthDb) (notes : List AuthNote) (entry : CachedUser) : Prop where
  version : entry.version ≤ db.cacheVersion entry.userId
  below : Below notes entry.userId entry.version

structure Guarding (env : AuthEnv) (since : Nat) (returned : List AuthNote) (world : World AuthDb AuthFlight AuthNote) : Prop where
  users : ∀ row ∈ world.db.users, row.id < world.db.nextId
  signed : ∀ pair ∈ world.db.signed, Drawn env world.db pair.1
  entries : ∀ entry ∈ world.db.cache, Current world.db world.notes entry
  deleted : ∀ userId version, .accountDeleted userId version ∈ world.notes →
    Buried world.db userId ∧ version ≤ world.db.cacheVersion userId
  accepted : ∀ request token, .accepted request token ∈ world.notes →
    Carried env world.db request token ∧ ¬ Barred since returned world.db request token
  flights : ∀ flight ∈ world.flights, Traced env since returned world.db world.notes flight
  returned : ∀ note ∈ returned, note ∈ world.notes

structure Moves (env : AuthEnv) (since : Nat) (returned : List AuthNote) (db : AuthDb) (notes : List AuthNote)
    (outcome : AuthOutcome) : Prop where
  onward : Onward env db outcome.db
  entries : ∀ entry ∈ outcome.db.cache, entry ∈ db.cache ∨ Current outcome.db (notes ++ outcome.notes) entry
  deleted : ∀ userId version, .accountDeleted userId version ∈ outcome.notes →
    db.cacheVersion userId < version ∧ Buried outcome.db userId ∧ version ≤ outcome.db.cacheVersion userId
  accepted : ∀ request token, .accepted request token ∈ outcome.notes →
    Carried env outcome.db request token ∧ ¬ Barred since returned outcome.db request token
  flights : ∀ flight ∈ outcome.flights, Traced env since returned outcome.db (notes ++ outcome.notes) flight

section

variable {env : AuthEnv} {since : Nat} {returned : List AuthNote} {world : World AuthDb AuthFlight AuthNote}
  {rest : List AuthFlight} {outcome : AuthOutcome} {now : Instant} {db after : AuthDb} {notes more : List AuthNote}
  {request : Nat} {token : AccessToken} (injective : Function.Injective env.nanoid)

theorem Carried.onward (carried : Carried env db request token) (onward : Onward env db after) :
    Carried env after request token :=
  ⟨carried.1.trans_le onward.draws, carried.2.onward onward⟩

include injective in
theorem barred_before (drawn : Drawn env db token) (onward : Onward env db after)
    (barred : Barred since returned after request token) : Barred since returned db request token := by
  obtain ⟨later, sessionId, signed, revoked⟩ := barred
  exact ⟨later, sessionId, signed_before injective drawn onward signed, revoked⟩

variable {version : Nat}

theorem below_append {userId : Id} (below : Below notes userId version) (current : version ≤ db.cacheVersion userId)
    (newer : ∀ userId later, .accountDeleted userId later ∈ more → db.cacheVersion userId < later) :
    Below (notes ++ more) userId version := by
  intro later mem
  rcases mem_append.mp mem with old | new
  · exact below later old
  · exact current.trans_lt (newer userId later new)

include injective in
theorem Traced.onward {flight : AuthFlight} (traced : Traced env since returned db notes flight) (onward : Onward env db after)
    (newer : ∀ userId later, .accountDeleted userId later ∈ more → db.cacheVersion userId < later) :
    Traced env since returned after (notes ++ more) flight := by
  cases flight with
  | invalidating userId sessionIds deleted =>
    cases deleted with
    | true => exact Buried.onward traced onward
    | false => trivial
  | authorizing request token hint =>
    obtain ⟨carried, seen⟩ := traced
    refine ⟨carried.onward onward, fun barred => ?_⟩
    obtain ⟨deleted, noted⟩ := seen (barred_before injective carried.2 onward barred)
    exact ⟨deleted, mem_append_left _ noted⟩
  | fetching request token hint version =>
    obtain ⟨carried, current, seen⟩ := traced
    refine ⟨carried.onward onward, current.trans (onward.versions _), fun barred => ?_⟩
    obtain ⟨deleted, early, noted⟩ := seen (barred_before injective carried.2 onward barred)
    exact ⟨deleted, early, mem_append_left _ noted⟩
  | loading request token hint version =>
    obtain ⟨carried, current, seen⟩ := traced
    refine ⟨carried.onward onward, current.trans (onward.versions _), fun barred => ?_⟩
    obtain ⟨deleted, early, noted⟩ := seen (barred_before injective carried.2 onward barred)
    exact ⟨deleted, early, mem_append_left _ noted⟩
  | storing request token hint version user =>
    obtain ⟨carried, current, below, free⟩ := traced
    exact ⟨carried.onward onward, current.trans (onward.versions _), below_append below current newer,
      fun barred => free (barred_before injective carried.2 onward barred)⟩
  | _ => trivial

include injective in
theorem Guarding.moves (guarding : Guarding env since returned world) (others : ∀ flight ∈ rest, flight ∈ world.flights)
    (moves : Moves env since returned world.db world.notes outcome) : Guarding env since returned (world.after rest outcome) := by
  have newer : ∀ userId later, .accountDeleted userId later ∈ outcome.notes → world.db.cacheVersion userId < later :=
    fun userId later mem => (moves.deleted userId later mem).1
  refine ⟨fun row mem => ?_, fun pair mem => ?_, fun entry mem => ?_, fun userId version noted => ?_,
    fun request token noted => ?_, fun flight mem => ?_, fun note mem => mem_append_left _ (guarding.returned note mem)⟩
  · rcases moves.onward.users row mem with ⟨old, listed, same, -⟩ | ⟨-, below⟩
    · exact same ▸ (guarding.users old listed).trans_le moves.onward.nextId
    · exact below
  · rcases moves.onward.signed pair mem with old | ⟨draw, -, below, same⟩
    · exact (guarding.signed pair old).onward moves.onward
    · exact ⟨draw, below, same⟩
  · rcases moves.entries entry mem with old | new
    · have current := guarding.entries entry old
      exact ⟨current.version.trans (moves.onward.versions _), below_append current.below current.version newer⟩
    · exact new
  · rcases mem_append.mp noted with old | new
    · obtain ⟨buried, reached⟩ := guarding.deleted userId version old
      exact ⟨buried.onward moves.onward, reached.trans (moves.onward.versions _)⟩
    · exact (moves.deleted userId version new).2
  · rcases mem_append.mp noted with old | new
    · obtain ⟨carried, free⟩ := guarding.accepted request token old
      exact ⟨carried.onward moves.onward, fun barred => free (barred_before injective carried.2 moves.onward barred)⟩
    · exact moves.accepted request token new
  · rcases mem_append.mp mem with old | new
    · exact (guarding.flights flight (others flight old)).onward injective moves.onward newer
    · exact moves.flights flight new

theorem moves_of_passing (passing : Passing env db outcome) : Moves env since returned db notes outcome := by
  refine ⟨passing.change.onward, fun entry mem => .inl (passing.change.cache ▸ mem), fun userId version noted => ?_,
    fun request token noted => ?_, fun flight mem => ?_⟩
  · exact (passing.notes _ noted).elim
  · exact (passing.notes _ noted).elim
  · have other := passing.flights flight mem
    unfold Traced
    split
    all_goals first | trivial | exact absurd trivial other

/-! ### Requests -/

theorem moves_silent (onward : Onward env db after) (cache : after.cache = db.cache) {flights : List AuthFlight}
    (traced : ∀ flight ∈ flights, Traced env since returned after notes flight) :
    Moves env since returned db notes ⟨after, flights, []⟩ := by
  refine ⟨onward, fun entry mem => .inl (cache ▸ mem), (fun _ _ none => nomatch none), (fun _ _ none => nomatch none),
    fun flight mem => ?_⟩
  rw [append_nil]
  exact traced flight mem

theorem moves_one (onward : Onward env db after) (cache : after.cache = db.cache) {flight : AuthFlight}
    (traced : Traced env since returned after notes flight) : Moves env since returned db notes ⟨after, [flight], []⟩ := by
  refine moves_silent onward cache fun own only => ?_
  obtain rfl := mem_singleton.mp only
  exact traced

theorem moves_ended : Moves env since returned db notes (.ended db) :=
  moves_silent (Onward.refl db) rfl fun _ none => nomatch none

theorem moves_accepted (onward : Onward env db after)
    (entries : ∀ entry ∈ after.cache, entry ∈ db.cache ∨ Current after (notes ++ [.accepted request token]) entry)
    (carried : Carried env after request token) (free : ¬ Barred since returned after request token) :
    Moves env since returned db notes ⟨after, [], [.accepted request token]⟩ := by
  refine ⟨onward, entries, fun userId version noted => ?_, fun other given noted => ?_, fun _ none => nomatch none⟩
  · cases mem_singleton.mp noted
  · cases mem_singleton.mp noted
    exact ⟨carried, free⟩

theorem verified_token {db : AuthDb} (verified : db.verifyAccessToken now token = true) :
    token ∈ db.signed.map Prod.fst ∧ now / 1000 < token.exp ∧ token.jti ∉ db.blocklist := by
  simpa [AuthDb.verifyAccessToken, and_assoc] using verified

variable {hint : Option Id}

theorem access_moves (guarding : Guarding env since returned world)
    (harmless : Harmless world (.begin now (.access token hint))) :
    Moves env since returned world.db world.notes (beginAuth env now (.access token hint) world.db) := by
  have onward : Onward env world.db { world.db with draws := world.db.draws + 1 } :=
    onward_same rfl rfl (le_refl _) (Nat.le_succ _) rfl
  unfold beginAuth
  dsimp only
  split
  · rename_i verified
    obtain ⟨signed, unexpired, unblocked⟩ := verified_token verified
    obtain ⟨pair, mem, own⟩ := mem_map.mp signed
    have drawn : Drawn env world.db token := own ▸ guarding.signed pair mem
    refine moves_one onward rfl ⟨⟨Nat.lt_succ_self _, drawn.onward onward⟩, fun barred => ?_⟩
    obtain ⟨-, sessionId, issued, revoked⟩ := barred
    rcases harmless sessionId issued (guarding.returned _ revoked) with expired | blocked | deleted
    · exact absurd unexpired (not_lt.mpr expired)
    · exact absurd blocked unblocked
    · exact deleted
  · exact moves_silent onward rfl fun _ none => nomatch none

variable {user : LoadedUser}

theorem load_refused (guarding : Guarding env since returned world)
    (deleted : .accountDeleted token.sub version ∈ world.notes) :
    loadUserFromDb now token.sub hint world.db ≠ .ok user := by
  intro loaded
  unfold loadUserFromDb at loaded
  simp only [bind_eq_ok, orThrow_eq_ok, throwIf_eq_ok, exists_const] at loaded
  obtain ⟨row, found, present, -⟩ := loaded
  obtain ⟨mem, own⟩ := mem_of_findBy found
  exact present ((guarding.deleted _ _ deleted).1.2 row mem own)

theorem bury_gone (row : User) : (row.bury env now).gone := .inl rfl

theorem deleting_moves (guarding : Guarding env since returned world) (userId : Id) :
    Moves env since returned world.db world.notes (proceedAuth env now (.deleting userId) world.db) := by
  unfold proceedAuth
  dsimp only
  cases written : buryAccount env now userId world.db with
  | error _ => exact moves_ended
  | ok after =>
    obtain ⟨row, assignments, found, rfl⟩ := buryAccount_ok written
    obtain ⟨mem, own⟩ := mem_of_findBy found
    have kept : ∀ row : User, (row.bury env now).id = row.id ∧ (row.gone → (row.bury env now).gone) :=
      fun row => ⟨rfl, fun _ => bury_gone row⟩
    refine ⟨updateUsers_onward kept rfl rfl (le_refl _) (le_refl _) rfl,
      fun entry listed => .inl listed, fun other version noted => ?_, fun request token noted => ?_, fun flight only => ?_⟩
    · obtain ⟨_, -, same⟩ := mem_map.mp noted
      cases same
    · obtain ⟨_, -, same⟩ := mem_map.mp noted
      cases same
    · obtain rfl := mem_singleton.mp only
      refine ⟨own ▸ guarding.users row mem, fun row listed same => ?_⟩
      obtain ⟨old, -, rfl⟩ := mem_updateBy.mp listed
      split at same <;> rename_i picked
      · rw [if_pos picked]
        exact bury_gone old
      · exact absurd same picked

theorem invalidating_moves {userId : Id} {sessionIds : List Id} (buried : Buried db userId) :
    Moves env since returned db notes (proceedAuth env now (.invalidating userId sessionIds true) db) := by
  have onward : Onward env db (db.invalidate userId) := invalidate_onward
  have bumped : (db.invalidate userId).cacheVersion userId = db.cacheVersion userId + 1 := if_pos rfl
  refine ⟨onward, fun entry mem => .inl mem, fun other version noted => ?_, fun request token noted => ?_,
    fun _ none => nomatch none⟩
  · rcases mem_cons.mp noted with own | returned
    · cases own
      exact ⟨Nat.lt_succ_self _, buried.onward onward, bumped.ge⟩
    · obtain ⟨_, -, same⟩ := mem_map.mp returned
      cases same
  · rcases mem_cons.mp noted with own | returned
    · cases own
    · obtain ⟨_, -, same⟩ := mem_map.mp returned
      cases same

theorem fetching_moves (guarding : Guarding env since returned world)
    (traced : Traced env since returned world.db world.notes (.fetching request token hint version)) :
    Moves env since returned world.db world.notes (proceedAuth env now (.fetching request token hint version) world.db) := by
  obtain ⟨carried, current, seen⟩ := traced
  unfold proceedAuth
  dsimp only
  cases cached : world.db.cached? now token.sub version hint with
  | none => exact moves_one (Onward.refl _) rfl ⟨carried, current, seen⟩
  | some user =>
    refine moves_accepted (Onward.refl _) (fun entry mem => .inl mem) carried fun barred => ?_
    obtain ⟨deleted, early, noted⟩ := seen barred
    obtain ⟨entry, found, -⟩ := Option.map_eq_some_iff.mp cached
    have mem := mem_of_find?_eq_some found
    have keyed := List.find?_some found
    simp only [CachedUser.keyed, Bool.and_eq_true, decide_eq_true_eq] at keyed
    obtain ⟨⟨own, same, -⟩, -⟩ := keyed
    have older := (guarding.entries entry mem).below deleted (own ▸ noted)
    rw [same] at older
    exact absurd older (Nat.not_lt.mpr early)

theorem loading_moves (guarding : Guarding env since returned world)
    (traced : Traced env since returned world.db world.notes (.loading request token hint version)) :
    Moves env since returned world.db world.notes (proceedAuth env now (.loading request token hint version) world.db) := by
  obtain ⟨carried, current, seen⟩ := traced
  unfold proceedAuth
  dsimp only
  cases loaded : loadUserFromDb now token.sub hint world.db with
  | error _ => exact moves_ended
  | ok user =>
    refine moves_one (Onward.refl _) rfl ⟨carried, current, fun later noted => ?_, fun barred => ?_⟩
    · exact absurd loaded (load_refused guarding noted)
    · obtain ⟨deleted, -, noted⟩ := seen barred
      exact absurd loaded (load_refused guarding noted)

theorem storing_moves (traced : Traced env since returned db notes (.storing request token hint version user)) :
    Moves env since returned db notes (proceedAuth env now (.storing request token hint version user) db) := by
  obtain ⟨carried, current, below, free⟩ := traced
  have onward : Onward env db (db.store now token.sub version hint user) := onward_same rfl rfl (le_refl _) (le_refl _) rfl
  refine moves_accepted onward (fun entry mem => ?_) (carried.onward onward) free
  rcases mem_cons.mp mem with rfl | old
  · refine .inr ⟨current, fun later noted => ?_⟩
    rcases mem_append.mp noted with before | own
    · exact below later before
    · cases mem_singleton.mp own
  · exact .inl (mem_filter.mp old).1

theorem proceed_moves (guarding : Guarding env since returned world) {flight : AuthFlight}
    (traced : Traced env since returned world.db world.notes flight) :
    Moves env since returned world.db world.notes (proceedAuth env now flight world.db) := by
  cases flight with
  | deleting userId => exact deleting_moves guarding userId
  | invalidating userId sessionIds deleted =>
    cases deleted with
    | true => exact invalidating_moves traced
    | false => exact moves_of_passing (proceed_passing id fun _ same => nomatch same)
  | authorizing request token hint =>
    obtain ⟨carried, seen⟩ := traced
    refine moves_one (Onward.refl _) rfl ⟨carried, le_refl _, fun barred => ?_⟩
    obtain ⟨deleted, noted⟩ := seen barred
    exact ⟨deleted, (guarding.deleted _ _ noted).2, noted⟩
  | fetching request token hint version => exact fetching_moves guarding traced
  | loading request token hint version => exact loading_moves guarding traced
  | storing request token hint version user => exact storing_moves traced
  | _ => exact moves_of_passing (proceed_passing id fun _ same => nomatch same)

/-! ## Runs -/

structure Consistent (env : AuthEnv) (db : AuthDb) : Prop where
  users : ∀ row ∈ db.users, row.id < db.nextId
  signed : ∀ pair ∈ db.signed, Drawn env db pair.1
  entries : ∀ entry ∈ db.cache, entry.version ≤ db.cacheVersion entry.userId

variable {start finish : World AuthDb AuthFlight AuthNote} {events : List (CallEvent Instant AuthRequest)}

include injective in
theorem guarding_run (guarding : Guarding env since returned start)
    (run : Run (Guarded Harmless (authService env).Step) start events finish) : Guarding env since returned finish := by
  refine Service.good_run (fun world now request good harmless => ?_) (fun world now place flight rest good _ _ same => ?_) guarding run
  · refine good.moves injective (fun _ mem => mem) ?_
    show Moves env since returned world.db world.notes (beginAuth env now request world.db)
    cases request with
    | access token hint => exact access_moves good harmless
    | _ => exact moves_of_passing (begin_passing fun _ _ same => nomatch same)
  · refine good.moves injective (fun other mem => same.symm.subset (mem_cons_of_mem _ mem)) ?_
    exact proceed_moves good (good.flights flight (same.symm.subset mem_cons_self))

theorem guarding_idle {initial : AuthDb} (consistent : Consistent env initial) : Guarding env 0 [] (World.idle initial) := by
  refine ⟨consistent.users, consistent.signed, fun entry mem => ⟨consistent.entries entry mem, fun _ none => nomatch none⟩,
    (fun _ _ none => nomatch none), (fun _ _ none => nomatch none), (fun _ none => nomatch none), fun _ none => nomatch none⟩

theorem Guarding.restart (guarding : Guarding env 0 [] start) : Guarding env start.db.draws start.notes start := by
  have early : ∀ request token, Carried env start.db request token → ¬ Barred start.db.draws start.notes start.db request token :=
    fun request token carried barred => absurd carried.1 (Nat.not_lt.mpr barred.1)
  refine ⟨guarding.users, guarding.signed, guarding.entries, guarding.deleted, fun request token noted => ?_, fun flight mem => ?_,
    fun note mem => mem⟩
  · have carried := (guarding.accepted request token noted).1
    exact ⟨carried, early request token carried⟩
  · have traced := guarding.flights flight mem
    cases flight with
    | invalidating userId sessionIds deleted => cases deleted <;> exact traced
    | authorizing request token hint => exact ⟨traced.1, fun barred => absurd barred (early _ _ traced.1)⟩
    | fetching request token hint version => exact ⟨traced.1, traced.2.1, fun barred => absurd barred (early _ _ traced.1)⟩
    | loading request token hint version => exact ⟨traced.1, traced.2.1, fun barred => absurd barred (early _ _ traced.1)⟩
    | storing request token hint version user => exact ⟨traced.1, traced.2.1, traced.2.2.1, early _ _ traced.1⟩
    | _ => trivial

include injective in
/-- In runs where a token of a revoked session comes only after it has run out, was blocked, or its user's account was deleted,
revocations hold. -/
theorem revocations_hold {initial : AuthDb} {early late : List (CallEvent Instant AuthRequest)} (consistent : Consistent env initial)
    (reached : Run (Guarded Harmless (authService env).Step) (World.idle initial) early start)
    (run : Run (Guarded Harmless (authService env).Step) start late finish) : RevocationsHold start finish := by
  have before : Guarding env 0 [] start := guarding_run injective (guarding_idle consistent) reached
  have after : Guarding env start.db.draws start.notes finish := guarding_run injective before.restart run
  intro request token sessionId later accepted signed revoked
  exact (after.accepted request token accepted).2 ⟨later, sessionId, signed, revoked⟩

end

namespace Sample

theorem signedIn_consistent : Consistent env signedIn :=
  ⟨by decide, (fun _ none => nomatch none), fun _ none => nomatch none⟩

def ticket : AccessToken := ⟨1, "xx", 0, 900⟩

def signingIn : List (CallEvent Instant AuthRequest) :=
  [.begin 5 (.signIn ⟨"r", "p", none⟩), .proceed 6 0, .proceed 7 0, .proceed 8 0]

def requesting : List (CallEvent Instant AuthRequest) :=
  [.begin 10 (.access ticket none), .proceed 11 0, .proceed 12 0, .proceed 13 0, .proceed 14 0]

def signedOut : World AuthDb AuthFlight AuthNote :=
  (World.idle signedIn).run (authService env) (signingIn ++ [.begin 9 (.signOut 3)])

def deleted : List (CallEvent Instant AuthRequest) := signingIn ++ [.begin 9 (.deleteAccount 1), .proceed 9 0, .proceed 9 0]

end Sample

theorem signed_out_accepted : ∃ env initial early late start finish, Function.Injective env.nanoid ∧ Consistent env initial ∧
    Run (authService env).Step (World.idle initial) early start ∧ Run (authService env).Step start late finish ∧
    ¬ RevocationsHold start finish := by
  refine ⟨Sample.env, Sample.signedIn, _, _, Sample.signedOut, _, Sample.nanoid_injective, Sample.signedIn_consistent,
    Service.run_reached _ _ _, Service.run_reached _ _ Sample.requesting, fun hold => ?_⟩
  have later : Sample.signedOut.db.draws ≤ 3 := by decide +kernel
  have accepted : .accepted 3 Sample.ticket ∈ (Sample.signedOut.run (authService Sample.env) Sample.requesting).notes := by
    decide +kernel
  have signed : (Sample.ticket, 3) ∈ (Sample.signedOut.run (authService Sample.env) Sample.requesting).db.signed := by
    decide +kernel
  have returned : .revocationReturned 3 ∈ Sample.signedOut.notes := by decide +kernel
  exact hold 3 Sample.ticket 3 later accepted signed returned

theorem deleted_refused : ∃ start finish : World AuthDb AuthFlight AuthNote, .revocationReturned 3 ∈ start.notes ∧
    RevocationsHold start finish := by
  have returned : .revocationReturned 3 ∈ ((World.idle Sample.signedIn).run (authService Sample.env) Sample.deleted).notes := by
    decide +kernel
  have gone : .accountDeleted 1 1 ∈ ((World.idle Sample.signedIn).run (authService Sample.env) Sample.deleted).notes := by
    decide +kernel
  have early : Run.Meets Harmless (fun world event => world.next (authService Sample.env) event) (World.idle Sample.signedIn)
      Sample.deleted := ⟨trivial, trivial, trivial, trivial, trivial, trivial, trivial, trivial⟩
  have late : Run.Meets Harmless (fun world event => world.next (authService Sample.env) event)
      ((World.idle Sample.signedIn).run (authService Sample.env) Sample.deleted) Sample.requesting :=
    ⟨fun _ _ _ => .inr (.inr ⟨1, gone⟩), trivial, trivial, trivial, trivial, trivial⟩
  exact ⟨_, _, returned, revocations_hold Sample.nanoid_injective Sample.signedIn_consistent (Service.guarded_reached early)
    (Service.guarded_reached late)⟩

end SmartResidence.Auth
