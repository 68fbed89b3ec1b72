import SmartResidence.Proof.AuthSteps

/-!
# Every login asks for what protects the account

A session that comes from a one-time code is stored for the code's user, whatever the account's state and second factor are.
-/

namespace SmartResidence.Auth

open Foundation Billing List

def Login.presented : Login → Option (Instant × String)
  | .password _ totp => totp
  | _ => none

def Protected (env : AuthEnv) : AuthNote → Prop
  | .sessionCreated _ _ .signUp => True
  | .sessionCreated _ user login => user.status = .active ∧ FactorShown env user.totpSecret login.presented
  | _ => True

def AuthNote.redeems : AuthNote → Option Id
  | .sessionCreated _ _ (.code codeId) => some codeId
  | _ => none

def AuthFlight.redeems : AuthFlight → Option Id
  | .creating _ (.code codeId) => some codeId
  | _ => none

def AuthNote.misses (codeId : Id) : AuthNote → Bool
  | .guessed other right => decide (other = codeId) && !right
  | _ => false

structure LoginsProtected (env : AuthEnv) (notes : List AuthNote) : Prop where
  sessions : ∀ note ∈ notes, Protected env note
  once : (notes.filterMap AuthNote.redeems).Nodup
  guesses : ∀ earlier codeId right later, notes = earlier ++ .guessed codeId right :: later →
    earlier.countP (AuthNote.misses codeId) < 5

def StillProtected (env : AuthEnv) (_ : Instant) (flight : AuthFlight) (db : AuthDb) : Prop :=
  match flight with
  | .creating userId (.password read _) =>
      ∀ user, db.user? userId = some user → user.status = .active ∧ user.totpSecret = read.totpSecret
  | .creating userId (.code _) => ∀ user, db.user? userId = some user → user.status = .active ∧ given user.totpSecret = none
  | .checkingCode record dto => ∃ row, db.code? record.id = some row ∧ row.attempts < 5 ∧
      (env.argonVerify record.codeHash dto.code = true → row.consumedAt = none)
  | _ => True

def stillProtected (env : AuthEnv) : Service.Condition Instant AuthDb AuthRequest AuthFlight := .later (StillProtected env)

structure CodesStay (before after : AuthDb) : Prop where
  codes : ∀ row ∈ after.codes, row ∈ before.codes ∨ (row.id = before.nextId ∧ before.nextId < after.nextId)
  nextId : before.nextId ≤ after.nextId

def Silent : AuthNote → Prop
  | .sessionCreated _ _ _ => False
  | .guessed _ _ => False
  | _ => True

def Checked (env : AuthEnv) : AuthFlight → Prop
  | .signingIn read totp => FactorShown env read.totpSecret totp
  | .creating _ (.password read totp) => FactorShown env read.totpSecret totp
  | _ => True

def Idle (env : AuthEnv) (flight : AuthFlight) : Prop := flight.redeems = none ∧ Checked env flight

abbrev Spared (env : AuthEnv) : AuthDb → AuthOutcome → Prop := Outcome.Within CodesStay (fun _ => Silent) (Idle env)

section

variable {env : AuthEnv} {db after : AuthDb} {now : Instant}

theorem codesStay_same (same : after.codes = db.codes) (nextId : db.nextId ≤ after.nextId) : CodesStay db after :=
  ⟨fun _ mem => .inl (same ▸ mem), nextId⟩

theorem CodesStay.refl (db : AuthDb) : CodesStay db db := codesStay_same rfl (le_refl _)

variable {central : Prop}

theorem Effect.codesStay (effect : Effect env central db after) : CodesStay db after := by
  cases effect with
  | joined user own => exact codesStay_same rfl (Nat.le_succ _)
  | asked row own =>
    refine ⟨fun other mem => ?_, Nat.le_succ _⟩
    rcases mem_append.mp mem with old | new
    · exact .inl old
    · obtain rfl := mem_singleton.mp new
      exact .inr ⟨own, Nat.lt_succ_self _⟩
  | buried about buried =>
    obtain ⟨_, _, -, rfl⟩ := buryAccount_ok buried
    exact ⟨fun row mem => .inl (mem_filter.mp mem).1, le_refl _⟩
  | _ => exact codesStay_same rfl (le_refl _)

theorem Spoken.silent {note : AuthNote} (spoken : Spoken central db note) : Silent note := by
  cases note with
  | sessionCreated sessionId user login => exact spoken
  | guessed codeId right => exact spoken
  | _ => trivial

variable {flight : AuthFlight}

theorem Started.idle (started : Started env central flight) : Idle env flight := by
  cases flight with
  | signingIn read totp => exact ⟨rfl, started⟩
  | creating userId login =>
    obtain rfl : login = .signUp := started
    exact ⟨rfl, trivial⟩
  | _ => exact ⟨rfl, trivial⟩

theorem spared_of_routine {outcome : AuthOutcome} (routine : Routine env central db outcome) : Spared env db outcome :=
  routine.mono Effect.codesStay (fun _ => Spoken.silent) fun _ => Started.idle

def AuthFlight.plain : AuthFlight → Prop
  | .creating _ _ => False
  | .checkingCode _ _ => False
  | _ => True

theorem proceed_spared (plain : flight.plain) (checked : Checked env flight) :
    Spared env db (proceedAuth env now flight db) := by
  cases flight with
  | signingIn read totp =>
    refine Outcome.within_thenGo (CodesStay.refl db) fun after written => ?_
    have effect : Effect env False db after := writeUser_effect written fun _ => ⟨rfl, rfl, rfl⟩
    exact Outcome.within_one effect.codesStay ⟨rfl, checked⟩
  | checkingCode record dto => exact plain.elim
  | creating userId login => exact plain.elim
  | issuing userId sessionId rotation =>
    have stay : CodesStay db (db.issueAccessToken env now userId sessionId) := codesStay_same rfl (le_refl _)
    refine Outcome.within_last stay fun note mem => ?_
    obtain ⟨_, -, rfl⟩ := mem_map.mp mem
    trivial
  | replacing refreshToken candidate =>
    refine Outcome.within_thenGo (CodesStay.refl db) fun after replaced => ?_
    obtain ⟨_, -, rfl⟩ := replaceToken_ok replaced
    exact Outcome.within_one (codesStay_same rfl (le_refl _)) ⟨rfl, trivial⟩
  | _ => exact spared_of_routine (proceed_routine id)

end

/-! ## The invariant -/

def redeemed (world : World AuthDb AuthFlight AuthNote) : List Id :=
  Service.tickets AuthFlight.redeems AuthNote.redeems world.notes world.flights

structure Watched (env : AuthEnv) (world : World AuthDb AuthFlight AuthNote) : Prop where
  ids : ∀ row ∈ world.db.codes, row.id < world.db.nextId
  below : ∀ codeId right, .guessed codeId right ∈ world.notes → codeId < world.db.nextId
  counted : ∀ row ∈ world.db.codes, world.notes.countP (AuthNote.misses row.id) ≤ row.attempts
  once : (redeemed world).Nodup
  consumed : ∀ codeId ∈ redeemed world, codeId < world.db.nextId ∧
    ∀ row ∈ world.db.codes, row.id = codeId → row.consumedAt ≠ none
  checked : ∀ flight ∈ world.flights, Checked env flight
  safe : LoginsProtected env world.notes

section

variable {env : AuthEnv} {world : World AuthDb AuthFlight AuthNote} {rest : List AuthFlight} {outcome : AuthOutcome}
  {now : Instant} {own : List Id}

variable {notes more : List AuthNote}

theorem guesses_append (bounded : ∀ earlier codeId right later, notes = earlier ++ .guessed codeId right :: later →
      earlier.countP (AuthNote.misses codeId) < 5) (none : ∀ codeId right, .guessed codeId right ∉ more) :
    ∀ earlier codeId right later, notes ++ more = earlier ++ .guessed codeId right :: later →
      earlier.countP (AuthNote.misses codeId) < 5 := by
  intro earlier codeId right later split
  rcases append_eq_append_iff.mp split with ⟨between, same, rest⟩ | ⟨between, same, rest⟩
  · exact absurd (rest ▸ mem_append_right between mem_cons_self) (none codeId right)
  · cases between with
    | nil =>
      have own : more = .guessed codeId right :: later := rest.symm
      exact absurd (own ▸ mem_cons_self) (none codeId right)
    | cons head tail =>
      obtain ⟨rfl, -⟩ := List.cons.inj rest
      exact bounded earlier codeId right tail same

theorem misses_of_silent (silent : ∀ note ∈ notes, Silent note) (codeId : Id) :
    notes.countP (AuthNote.misses codeId) = 0 := by
  rw [countP_eq_zero]
  intro note mem missed
  cases note with
  | guessed other right => exact silent _ mem
  | _ => cases missed

theorem redeems_of_silent (silent : ∀ note ∈ notes, Silent note) : notes.filterMap AuthNote.redeems = [] := by
  rw [filterMap_eq_nil_iff]
  intro note mem
  have quiet := silent note mem
  cases note with
  | sessionCreated => exact quiet.elim
  | _ => rfl

theorem LoginsProtected.append (safe : LoginsProtected env notes) (silent : ∀ note ∈ more, Silent note) :
    LoginsProtected env (notes ++ more) := by
  refine ⟨fun note mem => ?_, ?_, ?_⟩
  · rcases mem_append.mp mem with old | new
    · exact safe.sessions note old
    · have quiet := silent note new
      cases note with
      | sessionCreated => exact quiet.elim
      | _ => trivial
  · rw [filterMap_append, redeems_of_silent silent, append_nil]
    exact safe.once
  · exact guesses_append safe.guesses fun codeId right mem => silent _ mem

theorem Watched.stay (watched : Watched env world) {after : AuthDb} (stay : CodesStay world.db after) :
    (∀ row ∈ after.codes, row.id < after.nextId) ∧
      (∀ row ∈ after.codes, world.notes.countP (AuthNote.misses row.id) ≤ row.attempts) ∧
      ∀ codeId ∈ redeemed world, codeId < after.nextId ∧ ∀ row ∈ after.codes, row.id = codeId → row.consumedAt ≠ none := by
  refine ⟨fun row mem => ?_, fun row mem => ?_, fun codeId mem => ?_⟩
  · rcases stay.codes row mem with old | ⟨own, grows⟩
    · exact (watched.ids row old).trans_le stay.nextId
    · exact own ▸ grows
  · rcases stay.codes row mem with old | ⟨own, -⟩
    · exact watched.counted row old
    · have none : world.notes.countP (AuthNote.misses row.id) = 0 := by
        rw [countP_eq_zero]
        intro note noted missed
        cases note with
        | guessed other right =>
          simp only [AuthNote.misses, Bool.and_eq_true, decide_eq_true_eq] at missed
          have below := watched.below other right noted
          rw [missed.1, own] at below
          exact lt_irrefl _ below
        | _ => cases missed
      exact none.trans_le (Nat.zero_le _)
  · obtain ⟨below, used⟩ := watched.consumed codeId mem
    refine ⟨below.trans_le stay.nextId, fun row listed own => ?_⟩
    rcases stay.codes row listed with old | ⟨fresh, -⟩
    · exact used row old own
    · rw [← own, fresh] at below
      exact absurd below (lt_irrefl _)

theorem Watched.spared (watched : Watched env world)
    (parts : (world.flights.filterMap AuthFlight.redeems).Perm (own ++ rest.filterMap AuthFlight.redeems))
    (others : ∀ flight ∈ rest, flight ∈ world.flights) (spared : Spared env world.db outcome) :
    Watched env (world.after rest outcome) := by
  have none : Service.tickets AuthFlight.redeems AuthNote.redeems outcome.notes outcome.flights = [] := by
    unfold Service.tickets
    rw [redeems_of_silent spared.notes, filterMap_eq_nil_iff.mpr fun flight mem => (spared.flights flight mem).1]
    rfl
  have fewer : (redeemed (world.after rest outcome)).Subperm (redeemed world) :=
    Service.tickets_kept _ _ outcome parts (none ▸ nil_subperm)
  obtain ⟨ids, counted, consumed⟩ := watched.stay spared.change
  refine ⟨ids, fun codeId right mem => ?_, fun row mem => ?_, ?_, fun codeId mem => consumed codeId (fewer.subset mem),
    fun flight mem => ?_, watched.safe.append spared.notes⟩
  · rcases mem_append.mp mem with old | new
    · exact (watched.below codeId right old).trans_le spared.change.nextId
    · exact (spared.notes _ new).elim
  · show (world.notes ++ outcome.notes).countP _ ≤ _
    rw [countP_append, misses_of_silent spared.notes]
    exact counted row mem
  · obtain ⟨subset, same, sub⟩ := fewer
    exact same.nodup_iff.mp (watched.once.sublist sub)
  · rcases mem_append.mp mem with old | new
    · exact watched.checked flight (others flight old)
    · exact (spared.flights flight new).2

variable {flight : AuthFlight}

theorem redeemed_parts (same : world.flights.Perm (flight :: rest)) :
    (∀ other ∈ rest, other ∈ world.flights) ∧ flight ∈ world.flights :=
  ⟨fun _ mem => same.symm.subset (mem_cons_of_mem _ mem), same.symm.subset mem_cons_self⟩

theorem once_of_redeemed {flights : List AuthFlight}
    (once : (Service.tickets AuthFlight.redeems AuthNote.redeems notes flights).Nodup) :
    (notes.filterMap AuthNote.redeems).Nodup :=
  once.sublist (sublist_append_left _ _)

variable {userId : Id} {login : Login}

theorem protected_created {sessionId : Id} {user : User} (found : world.db.user? userId = some user)
    (checked : Checked env (.creating userId login)) (still : StillProtected env now (.creating userId login) world.db) :
    Protected env (.sessionCreated sessionId user login) := by
  cases login with
  | signUp => trivial
  | password read totp =>
    obtain ⟨active, same⟩ := still user found
    refine ⟨active, ?_⟩
    rw [same]
    exact checked
  | code codeId =>
    obtain ⟨active, bare⟩ := still user found
    refine ⟨active, fun key own => ?_⟩
    rw [bare] at own
    cases own

theorem Watched.stored (watched : Watched env world) (same : world.flights.Perm (.creating userId login :: rest))
    (still : StillProtected env now (.creating userId login) world.db) :
    Watched env (world.after rest (openSession env now userId login world.db)) := by
  have parts := Service.held_parts AuthFlight.redeems same
  obtain ⟨others, mem⟩ := redeemed_parts same
  have checked := watched.checked _ mem
  unfold openSession
  cases found : world.db.user? userId with
  | none => exact watched.spared parts others (Outcome.within_ended (CodesStay.refl _))
  | some user =>
    have guarded : Protected env (.sessionCreated world.db.nextId user login) := protected_created found checked still
    generalize outcome : (⟨storeSession env now userId world.db, [.issuing userId world.db.nextId none],
      [.sessionCreated world.db.nextId user login]⟩ : AuthOutcome) = stored
    have moved : Service.tickets AuthFlight.redeems AuthNote.redeems stored.notes stored.flights =
        (AuthFlight.creating userId login).redeems.toList := by
      subst outcome
      cases login <;> rfl
    have fewer : (redeemed (world.after rest stored)).Subperm (redeemed world) :=
      Service.tickets_kept _ _ stored parts (moved ▸ List.Subperm.refl _)
    have once : (redeemed (world.after rest stored)).Nodup := by
      obtain ⟨subset, same, sub⟩ := fewer
      exact same.nodup_iff.mp (watched.once.sublist sub)
    have safe : (world.notes ++ stored.notes).filterMap AuthNote.redeems |>.Nodup := once_of_redeemed once
    subst outcome
    have stay : CodesStay world.db (storeSession env now userId world.db) := codesStay_same rfl (Nat.le_succ _)
    obtain ⟨ids, counted, consumed⟩ := watched.stay stay
    refine ⟨ids, fun codeId right noted => ?_, fun row listed => ?_, once, fun codeId used => consumed codeId (fewer.subset used),
      fun flight listed => ?_, fun note noted => ?_, safe, ?_⟩
    · rcases mem_append.mp noted with old | new
      · exact (watched.below codeId right old).trans_le stay.nextId
      · cases mem_singleton.mp new
    · show (world.notes ++ _).countP _ ≤ _
      rw [countP_append]
      exact counted row listed
    · rcases mem_append.mp listed with old | new
      · exact watched.checked flight (others flight old)
      · obtain rfl := mem_singleton.mp new
        trivial
    · rcases mem_append.mp noted with old | new
      · exact watched.safe.sessions note old
      · obtain rfl := mem_singleton.mp new
        exact guarded
    · exact guesses_append watched.safe.guesses fun codeId right mem => by cases mem_singleton.mp mem

/-! ### A guess is evaluated -/

theorem guesses_concat {guess : Id} {outcome : Bool}
    (bounded : ∀ earlier codeId right later, notes = earlier ++ .guessed codeId right :: later →
      earlier.countP (AuthNote.misses codeId) < 5) (few : notes.countP (AuthNote.misses guess) < 5) :
    ∀ earlier codeId right later, notes ++ [.guessed guess outcome] = earlier ++ .guessed codeId right :: later →
      earlier.countP (AuthNote.misses codeId) < 5 := by
  intro earlier codeId right later split
  rcases eq_nil_or_concat later with rfl | ⟨front, last, rfl⟩
  · obtain ⟨rfl, same⟩ := append_inj' split rfl
    cases same
    exact few
  · have longer : notes ++ [.guessed guess outcome] = (earlier ++ .guessed codeId right :: front) ++ [last] := by
      simpa using split
    obtain ⟨same, -⟩ := append_inj' longer rfl
    exact bounded earlier codeId right front same

variable {record row : VerificationCode}

theorem writeCode_found {db : AuthDb} {change : VerificationCode → VerificationCode}
    (found : db.code? record.id = some row) :
    db.writeCode record.id change = .ok { db with codes := updateBy VerificationCode.id record.id change db.codes } := by
  unfold AuthDb.writeCode
  rw [found]
  rfl

def afterGuess (now : Instant) (right : Bool) : VerificationCode → VerificationCode :=
  if right then VerificationCode.consume now else VerificationCode.miss

theorem afterGuess_id (right : Bool) (row : VerificationCode) : (afterGuess now right row).id = row.id := by
  cases right <;> rfl

variable {right : Bool}

theorem afterGuess_consumed (done : right = true ∨ row.consumedAt ≠ none) :
    (afterGuess now right row).consumedAt ≠ none := by
  cases right with
  | true => exact fun none => nomatch none
  | false => exact done.resolve_left (by decide)

theorem guess_counted (counted : notes.countP (AuthNote.misses row.id) ≤ row.attempts) (right : Bool) :
    (notes ++ [AuthNote.guessed row.id right]).countP (AuthNote.misses row.id) ≤ (afterGuess now right row).attempts := by
  cases right with
  | true => simpa [AuthNote.misses, afterGuess, VerificationCode.consume] using counted
  | false => simpa [AuthNote.misses, afterGuess, VerificationCode.miss] using counted

theorem guess_elsewhere {codeId other : Id} (ne : other ≠ codeId) (right : Bool) :
    (notes ++ [AuthNote.guessed codeId right]).countP (AuthNote.misses other) = notes.countP (AuthNote.misses other) := by
  simp [AuthNote.misses, ne.symm]

theorem afterCode_redeems (record : VerificationCode) (purpose : VerificationPurpose) :
    (afterCode record purpose).filterMap AuthFlight.redeems = [] ∨
      (afterCode record purpose).filterMap AuthFlight.redeems = [record.id] := by
  unfold afterCode
  split
  · exact .inr rfl
  · exact .inl rfl
  · exact .inl rfl

theorem afterCode_checked {purpose : VerificationPurpose} :
    ∀ flight ∈ afterCode record purpose, Checked env flight := by
  intro flight mem
  unfold afterCode at mem
  split at mem
  · obtain rfl := mem_singleton.mp mem
    trivial
  · obtain rfl := mem_singleton.mp mem
    trivial
  · nomatch mem

def guessOutcome (now : Instant) (record : VerificationCode) (purpose : VerificationPurpose) (right : Bool) (db : AuthDb) : AuthOutcome :=
  ⟨{ db with codes := updateBy VerificationCode.id record.id (afterGuess now right) db.codes },
    if right then afterCode record purpose else [], [.guessed record.id right]⟩

variable {dto : VerifyOtpDto}

theorem checkCode_found {db : AuthDb} (found : db.code? record.id = some row) :
    checkCode env now record dto db = guessOutcome now record dto.purpose (env.argonVerify record.codeHash dto.code) db := by
  unfold checkCode
  dsimp only
  rw [writeCode_found found]
  rfl

theorem guess_redeems (now : Instant) (purpose : VerificationPurpose)
    (parts : (world.flights.filterMap AuthFlight.redeems).Perm (rest.filterMap AuthFlight.redeems))
    (once : (redeemed world).Nodup) (fresh : right = true → record.id ∉ redeemed world) :
    (redeemed (world.after rest (guessOutcome now record purpose right world.db))).Nodup ∧
      ∀ codeId ∈ redeemed (world.after rest (guessOutcome now record purpose right world.db)),
        codeId ∈ redeemed world ∨ right = true ∧ codeId = record.id := by
  have none : (world.flights.filterMap AuthFlight.redeems).Perm ([] ++ rest.filterMap AuthFlight.redeems) := parts
  have kept (silent : Service.tickets AuthFlight.redeems AuthNote.redeems (guessOutcome now record purpose right world.db).notes
      (guessOutcome now record purpose right world.db).flights = []) :
      (redeemed (world.after rest (guessOutcome now record purpose right world.db))).Subperm (redeemed world) :=
    Service.tickets_kept _ _ _ none (silent ▸ nil_subperm)
  cases right with
  | false =>
    have fewer := kept rfl
    refine ⟨?_, fun codeId mem => .inl (fewer.subset mem)⟩
    obtain ⟨subset, same, sub⟩ := fewer
    exact same.nodup_iff.mp (once.sublist sub)
  | true =>
    rcases afterCode_redeems record purpose with silent | one
    · have fewer := kept silent
      refine ⟨?_, fun codeId mem => .inl (fewer.subset mem)⟩
      obtain ⟨subset, same, sub⟩ := fewer
      exact same.nodup_iff.mp (once.sublist sub)
    · have drawn : (redeemed (world.after rest (guessOutcome now record purpose true world.db))).Perm
          (record.id :: redeemed world) := Service.tickets_drawn _ _ _ parts one
      refine ⟨drawn.nodup_iff.mpr (nodup_cons.mpr ⟨fresh rfl, once⟩), fun codeId mem => ?_⟩
      rcases mem_cons.mp (drawn.subset mem) with new | old
      · exact .inr ⟨rfl, new⟩
      · exact .inl old

theorem Watched.guessed (watched : Watched env world) (same : world.flights.Perm (.checkingCode record dto :: rest))
    (still : StillProtected env now (.checkingCode record dto) world.db) :
    Watched env (world.after rest (checkCode env now record dto world.db)) := by
  have parts := Service.held_parts AuthFlight.redeems same
  obtain ⟨others, -⟩ := redeemed_parts same
  obtain ⟨row, found, few, unused⟩ := still
  obtain ⟨listed, own⟩ := mem_of_findBy found
  have counted := watched.counted row listed
  rw [own] at counted
  have known : record.id < world.db.nextId := own ▸ watched.ids row listed
  rw [checkCode_found found]
  generalize env.argonVerify record.codeHash dto.code = right at unused ⊢
  have fresh : right = true → record.id ∉ redeemed world :=
    fun hit mem => (watched.consumed record.id mem).2 row listed own (unused hit)
  obtain ⟨once, redeems⟩ := guess_redeems now dto.purpose parts watched.once fresh
  refine ⟨fun row mem => ?_, fun codeId outcome noted => ?_, fun row mem => ?_, once, fun codeId mem => ?_,
    fun flight mem => ?_, fun note noted => ?_, once_of_redeemed once, guesses_concat watched.safe.guesses (by omega)⟩
  · obtain ⟨old, stored, rfl⟩ := mem_updateBy.mp mem
    split
    · rw [afterGuess_id]
      exact watched.ids old stored
    · exact watched.ids old stored
  · rcases mem_append.mp noted with old | new
    · exact watched.below codeId outcome old
    · cases mem_singleton.mp new
      exact known
  · obtain ⟨old, stored, rfl⟩ := mem_updateBy.mp mem
    have before := watched.counted old stored
    split
    · rename_i named
      show (world.notes ++ [AuthNote.guessed record.id right]).countP _ ≤ _
      rw [afterGuess_id, ← named]
      exact guess_counted before right
    · rename_i ne
      show (world.notes ++ [AuthNote.guessed record.id right]).countP _ ≤ _
      rw [guess_elsewhere ne]
      exact before
  · have past : ∀ row ∈ world.db.codes, row.id = codeId → right = true ∧ codeId = record.id ∨ row.consumedAt ≠ none := by
      intro row stored named
      rcases redeems codeId mem with old | new
      · exact .inr ((watched.consumed codeId old).2 row stored named)
      · exact .inl new
    refine ⟨?_, fun row mem named => ?_⟩
    · rcases redeems codeId mem with old | ⟨-, rfl⟩
      · exact (watched.consumed codeId old).1
      · exact known
    · obtain ⟨old, stored, rfl⟩ := mem_updateBy.mp mem
      split at named <;> rename_i picked
      · rw [if_pos picked]
        rw [afterGuess_id] at named
        exact afterGuess_consumed ((past old stored named).imp_left And.left)
      · rw [if_neg picked]
        refine (past old stored named).resolve_left fun hit => picked (named.trans hit.2)
  · rcases mem_append.mp mem with old | new
    · exact watched.checked flight (others flight old)
    · cases right with
      | true => exact afterCode_checked flight new
      | false => nomatch new
  · rcases mem_append.mp noted with old | new
    · exact watched.safe.sessions note old
    · obtain rfl := mem_singleton.mp new
      trivial

theorem watched_proceed (watched : Watched env world) (same : world.flights.Perm (flight :: rest))
    (still : StillProtected env now flight world.db) :
    Watched env (world.after rest (proceedAuth env now flight world.db)) := by
  have parts := Service.held_parts AuthFlight.redeems same
  obtain ⟨others, mem⟩ := redeemed_parts same
  have checked := watched.checked flight mem
  cases flight with
  | creating userId login => exact watched.stored same still
  | checkingCode record dto => exact watched.guessed same still
  | _ => exact watched.spared parts others (proceed_spared trivial checked)

/-- In runs that look again when they store a session and when they evaluate a guess, every login is protected. -/
theorem logins_protected {initial : AuthDb} {events : List (CallEvent Instant AuthRequest)} {finish : World AuthDb AuthFlight AuthNote}
    (ids : ∀ row ∈ initial.codes, row.id < initial.nextId)
    (run : Run (Guarded (stillProtected env).At (authService env).Step) (World.idle initial) events finish) :
    LoginsProtected env finish.notes := by
  have safe : LoginsProtected env [] := by
    refine ⟨(fun _ none => nomatch none), List.nodup_nil, fun earlier codeId right later split => ?_⟩
    exact absurd split (by simp)
  have start : Watched env (World.idle initial) :=
    ⟨ids, (fun _ _ none => nomatch none), (fun _ _ => Nat.zero_le _), List.nodup_nil, (fun _ none => nomatch none),
      (fun _ none => nomatch none), safe⟩
  have finished : Watched env finish := by
    refine Service.good_run (fun world now request good _ => ?_) (fun world now place flight rest good still found same => ?_) start run
    · have parts : (world.flights.filterMap AuthFlight.redeems).Perm ([] ++ world.flights.filterMap AuthFlight.redeems) := .refl _
      exact good.spared parts (fun _ member => member) (spared_of_routine (begin_routine request))
    · exact watched_proceed good same (still flight found)
  exact finished.safe

end

def AuthNote.bypasses : AuthNote → Bool
  | .sessionCreated _ user (.code _) => (given user.totpSecret).isSome
  | _ => false

theorem bypasses_of_protected {env : AuthEnv} {note : AuthNote} (safe : Protected env note) : note.bypasses = false := by
  cases note with
  | sessionCreated sessionId user login =>
    cases login with
    | code codeId =>
      cases secret : given user.totpSecret with
      | none => simp [AuthNote.bypasses, secret]
      | some key =>
        obtain ⟨_, _, none, -⟩ := safe.2 key secret
        cases none
    | _ => rfl
  | _ => rfl

namespace Sample

def secured : AuthDb := { signedIn with users := [{ resident with totpSecret := some "S" }] }

def byCode : List (CallEvent Instant AuthRequest) :=
  [.begin 5 (.requestOtp ⟨"r", .loginOtp⟩ "123456"), .begin 6 (.verifyOtp ⟨"r", .loginOtp, "123456"⟩), .proceed 7 0, .proceed 8 0]

def byPassword : List (CallEvent Instant AuthRequest) :=
  [.begin 5 (.signIn ⟨"r", "p", some "S"⟩), .proceed 6 0, .proceed 7 0, .proceed 8 0]

end Sample

theorem factor_bypassed : ∃ env initial events finish, (∀ row ∈ initial.codes, row.id < initial.nextId) ∧
    Run (authService env).Step (World.idle initial) events finish ∧ ¬ LoginsProtected env finish.notes := by
  have bypassed : ((World.idle Sample.secured).run (authService Sample.env) Sample.byCode).notes.any AuthNote.bypasses = true := by
    decide +kernel
  refine ⟨Sample.env, Sample.secured, _, _, (fun _ none => nomatch none), Service.run_reached _ _ Sample.byCode, fun safe => ?_⟩
  obtain ⟨note, member, flagged⟩ := List.any_eq_true.mp bypassed
  rw [bypasses_of_protected (safe.sessions note member)] at flagged
  cases flagged

theorem factor_shown : ∃ finish : World AuthDb AuthFlight AuthNote, finish.notes.length = 1 ∧
    LoginsProtected Sample.env finish.notes := by
  have created : ((World.idle Sample.secured).run (authService Sample.env) Sample.byPassword).notes.length = 1 := by
    decide +kernel
  have still : Run.Meets (stillProtected Sample.env).At (fun world event => world.next (authService Sample.env) event)
      (World.idle Sample.secured) Sample.byPassword := by
    refine ⟨trivial, fun flight found => ?_, fun flight found => ?_, fun flight found => ?_, trivial⟩
    · obtain rfl := Option.some.inj found
      trivial
    · obtain rfl := Option.some.inj found
      intro user listed
      cases listed
      exact ⟨rfl, rfl⟩
    · obtain rfl := Option.some.inj found
      trivial
  have ids : ∀ row ∈ Sample.secured.codes, row.id < Sample.secured.nextId := fun _ none => nomatch none
  exact ⟨_, created, logins_protected ids (Service.guarded_reached still)⟩

end SmartResidence.Auth
