import SmartResidence.Proof.AuthSteps

/-!
# A refresh token is used once, and not after the revocation of its session

The update of a rotation goes by the id of the session alone.
-/

namespace SmartResidence.Auth

open Foundation Billing List

abbrev AuthWorld : Type := World AuthDb AuthFlight AuthNote

structure TokensWork (env : AuthEnv) : Prop where
  drawn : Function.Injective env.nanoid
  verified : ∀ salt text offered, env.argonVerify (env.argonHash salt text) offered = true ↔ offered = text

def drawnHash (env : AuthEnv) (draw : Nat) : String := env.argonHash draw (env.nanoid draw)

def InOrder : AuthNote → AuthNote → Prop
  | .rotated _ first _, .rotated _ second _ => first ≠ second
  | .revoked dead, .rotated sessionId _ _ => dead ≠ sessionId
  | _, _ => True

structure RotatedOnce (initial : AuthDb) (notes : List AuthNote) : Prop where
  order : notes.Pairwise InOrder
  revokedBefore : ∀ row ∈ initial.sessions, row.revokedAt ≠ none → ∀ presented drawn, .rotated row.id presented drawn ∉ notes

def StillHeld (_ : Instant) (flight : AuthFlight) (db : AuthDb) : Prop :=
  match flight with
  | .replacing _ candidate => ∀ row, db.session? candidate.id = some row → row.refreshTokenHash = candidate.refreshTokenHash
  | .issuing _ sessionId (some _) => ∀ row, db.session? sessionId = some row → row.revokedAt = none
  | _ => True

def stillHeld : Service.Condition Instant AuthDb AuthRequest AuthFlight := .later StillHeld

structure Issued (env : AuthEnv) (db : AuthDb) : Prop where
  ids : Allocated (db.sessions.map Session.id) db.nextId
  hashes : ∀ row ∈ db.sessions, ∀ hash, row.refreshTokenHash = some hash → ∃ draw < db.draws, hash = drawnHash env draw
  apart : ∀ row ∈ db.sessions, ∀ other ∈ db.sessions, ∀ hash, row.refreshTokenHash = some hash →
    other.refreshTokenHash = some hash → row.id = other.id

def Replaced (env : AuthEnv) (db : AuthDb) (token : String) : Prop :=
  ∃ draw < db.draws, token = env.nanoid draw ∧ ∀ row ∈ db.sessions, row.refreshTokenHash ≠ some (drawnHash env draw)

/-! ## What the steps do to the sessions -/

structure Fades (old new : Session) : Prop where
  id : new.id = old.id
  hash : new.refreshTokenHash = old.refreshTokenHash
  revoked : old.revokedAt ≠ none → new.revokedAt ≠ none

structure Faded (before after : AuthDb) : Prop where
  sessions : ∃ change : Session → Session, (∀ row, Fades row (change row)) ∧ after.sessions = before.sessions.map change
  nextId : before.nextId ≤ after.nextId
  draws : before.draws ≤ after.draws

section

variable {env : AuthEnv} {db before after : AuthDb} {now : Instant} {token : String} {sessionId userId : Id}

theorem Fades.refl (row : Session) : Fades row row := ⟨rfl, rfl, fun revoked => revoked⟩

theorem fades_revoke (reason : String) (row : Session) : Fades row (row.revoke now reason) :=
  ⟨rfl, rfl, fun _ none => nomatch none⟩

theorem faded_same (same : after.sessions = before.sessions) (nextId : before.nextId ≤ after.nextId)
    (draws : before.draws ≤ after.draws) : Faded before after := by
  refine ⟨⟨id, Fades.refl, ?_⟩, nextId, draws⟩
  rw [map_id]
  exact same

theorem Faded.refl (db : AuthDb) : Faded db db := faded_same rfl (le_refl _) (le_refl _)

theorem faded_revoke {pick : Session → Bool} {reason : String}
    (same : after.sessions = updateWhere pick (Session.revoke now reason) before.sessions) (nextId : before.nextId ≤ after.nextId)
    (draws : before.draws ≤ after.draws) : Faded before after := by
  refine ⟨⟨fun row => if pick row then row.revoke now reason else row, fun row => ?_, same⟩, nextId, draws⟩
  show Fades row (if pick row = true then row.revoke now reason else row)
  split
  · exact fades_revoke reason row
  · exact Fades.refl row

theorem Issued.faded (issued : Issued env before) (faded : Faded before after) : Issued env after := by
  obtain ⟨⟨change, fades, same⟩, nextId, draws⟩ := faded
  refine ⟨?_, fun row mem hash own => ?_, fun row mem other also hash own its => ?_⟩
  · have ids : after.sessions.map Session.id = before.sessions.map Session.id := by
      rw [same, map_map]
      exact map_congr_left fun row _ => (fades row).id
    rw [ids]
    exact issued.ids.mono nextId
  · rw [same] at mem
    obtain ⟨old, listed, rfl⟩ := mem_map.mp mem
    obtain ⟨draw, below, drawn⟩ := issued.hashes old listed hash ((fades old).hash ▸ own)
    exact ⟨draw, below.trans_le draws, drawn⟩
  · rw [same] at mem also
    obtain ⟨old, listed, rfl⟩ := mem_map.mp mem
    obtain ⟨old', listed', rfl⟩ := mem_map.mp also
    rw [(fades old).id, (fades old').id]
    exact issued.apart old listed old' listed' hash ((fades old).hash ▸ own) ((fades old').hash ▸ its)

theorem Dead.faded (dead : Dead before sessionId) (faded : Faded before after) : Dead after sessionId := by
  obtain ⟨⟨change, fades, same⟩, -, -⟩ := faded
  obtain ⟨row, mem, own, revoked⟩ := dead
  refine ⟨change row, ?_, (fades row).id.trans own, (fades row).revoked revoked⟩
  rw [same]
  exact mem_map_of_mem mem

theorem Replaced.faded (replaced : Replaced env before token) (faded : Faded before after) : Replaced env after token := by
  obtain ⟨⟨change, fades, same⟩, -, draws⟩ := faded
  obtain ⟨draw, below, drawn, gone⟩ := replaced
  refine ⟨draw, below.trans_le draws, drawn, fun row mem => ?_⟩
  rw [same] at mem
  obtain ⟨old, listed, rfl⟩ := mem_map.mp mem
  rw [(fades old).hash]
  exact gone old listed

theorem drawnHash_injective (works : TokensWork env) {draw other : Nat} (same : drawnHash env draw = drawnHash env other) :
    draw = other := by
  apply works.drawn
  have own : env.argonVerify (drawnHash env draw) (env.nanoid draw) = true := (works.verified _ _ _).mpr rfl
  rw [same] at own
  exact (works.verified _ _ _).mp own

theorem Issued.stored (works : TokensWork env) (issued : Issued env db) : Issued env (storeSession env now userId db) := by
  have later : ∀ row ∈ db.sessions, row.refreshTokenHash ≠ some (drawnHash env db.draws) := by
    intro row mem own
    obtain ⟨draw, below, drawn⟩ := issued.hashes row mem _ own
    exact absurd (drawnHash_injective works drawn) (Nat.ne_of_gt below)
  refine ⟨issued.ids.insert rfl (Nat.lt_succ_self _), fun row mem hash own => ?_, fun row mem other also hash own its => ?_⟩
  · rcases mem_append.mp mem with old | new
    · obtain ⟨draw, below, drawn⟩ := issued.hashes row old hash own
      exact ⟨draw, Nat.lt_succ_of_lt below, drawn⟩
    · obtain rfl := mem_singleton.mp new
      exact ⟨db.draws, Nat.lt_succ_self _, (Option.some.inj own).symm⟩
  · rcases mem_append.mp mem with old | new <;> rcases mem_append.mp also with old' | new'
    · exact issued.apart row old other old' hash own its
    · obtain rfl := mem_singleton.mp new'
      exact absurd (own.trans its.symm) (later row old)
    · obtain rfl := mem_singleton.mp new
      exact absurd (its.trans own.symm) (later other old')
    · rw [mem_singleton.mp new, mem_singleton.mp new']

theorem Dead.stored (dead : Dead db sessionId) : Dead (storeSession env now userId db) sessionId := by
  obtain ⟨row, mem, own, revoked⟩ := dead
  exact ⟨row, mem_append_left _ mem, own, revoked⟩

theorem Replaced.stored (works : TokensWork env) (replaced : Replaced env db token) :
    Replaced env (storeSession env now userId db) token := by
  obtain ⟨draw, below, drawn, gone⟩ := replaced
  refine ⟨draw, Nat.lt_succ_of_lt below, drawn, fun row mem => ?_⟩
  rcases mem_append.mp mem with old | new
  · exact gone row old
  · obtain rfl := mem_singleton.mp new
    intro same
    exact absurd (drawnHash_injective works (Option.some.inj same)) (Nat.ne_of_gt below)

variable {candidate : Session}

theorem Issued.replaced (works : TokensWork env) (issued : Issued env db)
    (replaced : replaceToken env now candidate db = .ok after) : Issued env after := by
  obtain ⟨_, -, rfl⟩ := replaceToken_ok replaced
  have later : ∀ row ∈ db.sessions, row.refreshTokenHash ≠ some (drawnHash env db.draws) := by
    intro row mem own
    obtain ⟨draw, below, drawn⟩ := issued.hashes row mem _ own
    exact absurd (drawnHash_injective works drawn) (Nat.ne_of_gt below)
  refine ⟨issued.ids.updateBy (le_refl _) fun _ => rfl, fun row mem hash own => ?_, fun row mem other also hash own its => ?_⟩
  · obtain ⟨old, listed, rfl⟩ := mem_updateBy.mp mem
    split at own
    · exact ⟨db.draws, Nat.lt_succ_self _, (Option.some.inj own).symm⟩
    · obtain ⟨draw, below, drawn⟩ := issued.hashes old listed hash own
      exact ⟨draw, Nat.lt_succ_of_lt below, drawn⟩
  · obtain ⟨old, listed, rfl⟩ := mem_updateBy.mp mem
    obtain ⟨old', listed', rfl⟩ := mem_updateBy.mp also
    split at own <;> split at its
    · rename_i first second
      rw [if_pos first, if_pos second]
      exact first.trans second.symm
    · exact absurd (its.trans own.symm) (later old' listed')
    · exact absurd (own.trans its.symm) (later old listed)
    · rename_i first second
      rw [if_neg first, if_neg second]
      exact issued.apart old listed old' listed' hash own its

theorem Dead.replaced (dead : Dead db sessionId) (replaced : replaceToken env now candidate db = .ok after) :
    Dead after sessionId := by
  obtain ⟨_, -, rfl⟩ := replaceToken_ok replaced
  obtain ⟨row, mem, own, revoked⟩ := dead
  refine ⟨_, mem_updateBy.mpr ⟨row, mem, rfl⟩, ?_, ?_⟩
  · split <;> exact own
  · split <;> exact revoked

theorem Replaced.kept (works : TokensWork env) (spent : Replaced env db token)
    (replaced : replaceToken env now candidate db = .ok after) : Replaced env after token := by
  obtain ⟨_, -, rfl⟩ := replaceToken_ok replaced
  obtain ⟨draw, below, drawn, gone⟩ := spent
  refine ⟨draw, Nat.lt_succ_of_lt below, drawn, fun row mem => ?_⟩
  obtain ⟨old, listed, rfl⟩ := mem_updateBy.mp mem
  split
  · intro same
    exact absurd (drawnHash_injective works (Option.some.inj same)) (Nat.ne_of_gt below)
  · exact gone old listed

theorem Issued.spends (works : TokensWork env) (issued : Issued env db)
    (replaced : replaceToken env now candidate db = .ok after)
    (held : ∀ row, db.session? candidate.id = some row → row.refreshTokenHash = candidate.refreshTokenHash) {hash : String}
    (own : candidate.refreshTokenHash = some hash) (right : env.argonVerify hash token = true) :
    ¬ Replaced env db token ∧ Replaced env after token := by
  obtain ⟨row, found, rfl⟩ := replaceToken_ok replaced
  obtain ⟨mem, named⟩ := mem_of_findBy found
  have same := (held row found).trans own
  obtain ⟨draw, below, rfl⟩ := issued.hashes row mem hash same
  obtain rfl := (works.verified _ _ _).mp right
  constructor
  · rintro ⟨other, -, drawn, gone⟩
    obtain rfl := works.drawn drawn
    exact gone row mem same
  · refine ⟨draw, Nat.lt_succ_of_lt below, rfl, fun other listed => ?_⟩
    obtain ⟨old, stored, rfl⟩ := mem_updateBy.mp listed
    split
    · intro again
      exact absurd (drawnHash_injective works (Option.some.inj again)) (Nat.ne_of_gt below)
    · rename_i ne
      intro again
      exact ne ((issued.apart old stored row mem _ again same).trans named)

end

/-! ## Steps that leave the tokens alone -/

def AuthFlight.spends : AuthFlight → Option String
  | .issuing _ _ (some tokens) => some tokens.1
  | _ => none

def AuthNote.spent : AuthNote → Option String
  | .rotated _ presented _ => some presented
  | _ => none

def Verified (env : AuthEnv) : AuthFlight → Prop
  | .replacing presented candidate => ∃ hash, candidate.refreshTokenHash = some hash ∧ env.argonVerify hash presented = true
  | _ => True

def Quiet (db : AuthDb) : AuthNote → Prop
  | .revoked sessionId => Dead db sessionId
  | .rotated _ _ _ => False
  | _ => True

def Tame (env : AuthEnv) (flight : AuthFlight) : Prop := flight.spends = none ∧ Verified env flight

abbrev Kept (env : AuthEnv) : AuthDb → AuthOutcome → Prop := Outcome.Within Faded Quiet (Tame env)

section

variable {env : AuthEnv} {db after : AuthDb} {now : Instant}

variable {central : Prop}

theorem Effect.faded (effect : Effect env central db after) : Faded db after := by
  cases effect with
  | joined user own => exact faded_same rfl (Nat.le_succ _) (Nat.le_succ _)
  | asked row own => exact faded_same rfl (Nat.le_succ _) (Nat.le_succ _)
  | revoked now reason pick assignments => exact faded_revoke rfl (le_refl _) (le_refl _)
  | issued now userId sessionId => exact faded_same rfl (le_refl _) (Nat.le_succ _)
  | asking about => exact faded_same rfl (le_refl _) (Nat.le_succ _)
  | buried about buried =>
    obtain ⟨_, _, -, rfl⟩ := buryAccount_ok buried
    exact faded_revoke rfl (le_refl _) (le_refl _)
  | _ => exact faded_same rfl (le_refl _) (le_refl _)

theorem Spoken.quiet {note : AuthNote} (spoken : Spoken central db note) : Quiet db note := by
  cases note with
  | revoked sessionId => exact spoken
  | rotated sessionId presented drawn => exact spoken.elim
  | _ => trivial

variable {flight : AuthFlight}

theorem Started.tame (started : Started env central flight) : Tame env flight := by
  cases flight with
  | issuing userId sessionId rotation => exact started.elim
  | replacing presented candidate => exact ⟨rfl, started⟩
  | _ => exact ⟨rfl, trivial⟩

theorem kept_of_routine {outcome : AuthOutcome} (routine : Routine env central db outcome) : Kept env db outcome :=
  routine.mono Effect.faded (fun _ => Spoken.quiet) fun _ => Started.tame

def AuthFlight.aside : AuthFlight → Prop
  | .creating _ _ => False
  | .replacing _ _ => False
  | .issuing _ _ (some _) => False
  | _ => True

variable {record : VerificationCode}

theorem afterCode_tame {purpose : VerificationPurpose} : ∀ flight ∈ afterCode record purpose, Tame env flight := by
  intro flight mem
  unfold afterCode at mem
  split at mem
  · obtain rfl := mem_singleton.mp mem
    exact ⟨rfl, trivial⟩
  · obtain rfl := mem_singleton.mp mem
    exact ⟨rfl, trivial⟩
  · nomatch mem

theorem kept_checkCode {dto : VerifyOtpDto} : Kept env db (checkCode env now record dto db) := by
  unfold checkCode
  dsimp only
  generalize env.argonVerify record.codeHash dto.code = right
  cases written : db.writeCode record.id (if right then VerificationCode.consume now else VerificationCode.miss) with
  | error _ => exact Outcome.within_note (Faded.refl db) trivial
  | ok after =>
    obtain ⟨_, -, rfl⟩ := writeCode_ok written
    refine ⟨faded_same rfl (le_refl _) (le_refl _), fun note only => ?_, fun flight mem => ?_⟩
    · obtain rfl := mem_singleton.mp only
      trivial
    · dsimp only at mem
      split at mem
      · exact afterCode_tame flight mem
      · nomatch mem

theorem proceed_kept (aside : flight.aside) : Kept env db (proceedAuth env now flight db) := by
  cases flight with
  | signingIn read totp =>
    refine Outcome.within_thenGo (Faded.refl db) fun after written => ?_
    have effect : Effect env False db after := writeUser_effect written fun _ => ⟨rfl, rfl, rfl⟩
    exact Outcome.within_one effect.faded ⟨rfl, trivial⟩
  | checkingCode record dto => exact kept_checkCode
  | creating userId login => exact aside.elim
  | issuing userId sessionId rotation =>
    cases rotation with
    | some tokens => exact aside.elim
    | none => exact kept_of_routine (proceed_routine id)
  | replacing refreshToken candidate => exact aside.elim
  | _ => exact kept_of_routine (proceed_routine id)

end

/-! ## Runs -/

def spentTokens (world : AuthWorld) : List String :=
  Service.tickets AuthFlight.spends AuthNote.spent world.notes world.flights

structure Rotating (env : AuthEnv) (initial : AuthDb) (world : AuthWorld) : Prop where
  issued : Issued env world.db
  once : (spentTokens world).Nodup
  spent : ∀ token ∈ spentTokens world, Replaced env world.db token
  dead : ∀ sessionId, .revoked sessionId ∈ world.notes ∨ Dead initial sessionId → Dead world.db sessionId
  verified : ∀ flight ∈ world.flights, Verified env flight
  safe : RotatedOnce initial world.notes

section

variable {env : AuthEnv} {initial : AuthDb} {world : AuthWorld} {rest : List AuthFlight} {outcome : AuthOutcome}
  {now : Instant}

theorem safe_append (safe : RotatedOnce initial world.notes) {notes : List AuthNote}
    (none : ∀ note ∈ notes, note.spent = none) : RotatedOnce initial (world.notes ++ notes) := by
  have after : ∀ earlier, ∀ note ∈ notes, InOrder earlier note := by
    intro earlier note mem
    have silent := none note mem
    cases note <;> cases earlier <;> trivial
  refine ⟨pairwise_append.mpr ⟨safe.order, ?_, fun earlier _ => after earlier⟩, fun row mem revoked presented drawn rotated => ?_⟩
  · exact pairwise_iff_forall_sublist.mpr fun {first second} pair =>
      after first second (pair.subset (mem_cons_of_mem _ mem_cons_self))
  · rcases mem_append.mp rotated with old | new
    · exact safe.revokedBefore row mem revoked presented drawn old
    · cases none _ new

theorem Quiet.unspent {db : AuthDb} {note : AuthNote} (quiet : Quiet db note) : note.spent = none := by
  cases note <;> first | rfl | exact quiet.elim

theorem Rotating.kept (rotating : Rotating env initial world) {own : List String}
    (parts : (world.flights.filterMap AuthFlight.spends).Perm (own ++ rest.filterMap AuthFlight.spends))
    (others : ∀ flight ∈ rest, flight ∈ world.flights) (kept : Kept env world.db outcome) :
    Rotating env initial (world.after rest outcome) := by
  have silent : ∀ note ∈ outcome.notes, note.spent = none := fun note mem => (kept.notes note mem).unspent
  have none : Service.tickets AuthFlight.spends AuthNote.spent outcome.notes outcome.flights = [] := by
    unfold Service.tickets
    rw [filterMap_eq_nil_iff.mpr silent, filterMap_eq_nil_iff.mpr fun flight mem => (kept.flights flight mem).1]
    rfl
  have fewer : (spentTokens (world.after rest outcome)).Subperm (spentTokens world) :=
    Service.tickets_kept _ _ outcome parts (none ▸ nil_subperm)
  refine ⟨rotating.issued.faded kept.change, ?_, fun token mem => ?_, fun sessionId gone => ?_, fun flight mem => ?_, ?_⟩
  · obtain ⟨subset, same, sub⟩ := fewer
    exact same.nodup_iff.mp (rotating.once.sublist sub)
  · exact (rotating.spent token (fewer.subset mem)).faded kept.change
  · rcases gone with noted | before
    · rcases mem_append.mp noted with old | new
      · exact (rotating.dead sessionId (.inl old)).faded kept.change
      · exact kept.notes _ new
    · exact (rotating.dead sessionId (.inr before)).faded kept.change
  · rcases mem_append.mp mem with old | new
    · exact rotating.verified flight (others flight old)
    · exact (kept.flights flight new).2
  · exact safe_append rotating.safe silent

theorem Rotating.stored (works : TokensWork env) (rotating : Rotating env initial world) {userId : Id} {login : Login}
    (same : world.flights.Perm (.creating userId login :: rest)) :
    Rotating env initial (world.after rest (openSession env now userId login world.db)) := by
  have parts := Service.held_parts AuthFlight.spends same
  have others : ∀ flight ∈ rest, flight ∈ world.flights := fun flight mem => same.symm.subset (mem_cons_of_mem _ mem)
  unfold openSession
  split
  · rename_i user _
    have fewer : (spentTokens (world.after rest ⟨storeSession env now userId world.db, [.issuing userId world.db.nextId none],
        [.sessionCreated world.db.nextId user login]⟩)).Subperm (spentTokens world) :=
      Service.tickets_kept _ _ _ parts nil_subperm
    refine ⟨rotating.issued.stored works, ?_, fun token mem => ?_, fun sessionId gone => ?_, fun flight mem => ?_, ?_⟩
    · obtain ⟨subset, same, sub⟩ := fewer
      exact same.nodup_iff.mp (rotating.once.sublist sub)
    · exact (rotating.spent token (fewer.subset mem)).stored works
    · rcases gone with noted | before
      · rcases mem_append.mp noted with old | new
        · exact (rotating.dead sessionId (.inl old)).stored
        · cases mem_singleton.mp new
      · exact (rotating.dead sessionId (.inr before)).stored
    · rcases mem_append.mp mem with old | new
      · exact rotating.verified flight (others flight old)
      · obtain rfl := mem_singleton.mp new
        trivial
    · refine safe_append rotating.safe fun note only => ?_
      obtain rfl := mem_singleton.mp only
      rfl
  · exact rotating.kept parts others (Outcome.within_ended (Faded.refl _))

theorem Rotating.replaced (works : TokensWork env) (rotating : Rotating env initial world) {presented : String}
    {candidate : Session} (same : world.flights.Perm (.replacing presented candidate :: rest))
    (held : StillHeld now (.replacing presented candidate) world.db) :
    Rotating env initial (world.after rest (proceedAuth env now (.replacing presented candidate) world.db)) := by
  have parts := Service.held_parts AuthFlight.spends same
  have others : ∀ flight ∈ rest, flight ∈ world.flights := fun flight mem => same.symm.subset (mem_cons_of_mem _ mem)
  obtain ⟨hash, own, right⟩ := rotating.verified _ (same.symm.subset mem_cons_self)
  unfold proceedAuth Outcome.thenGo
  dsimp only
  cases written : replaceToken env now candidate world.db with
  | error _ => exact rotating.kept parts others (Outcome.within_ended (Faded.refl _))
  | ok after =>
    obtain ⟨fresh, spent⟩ := rotating.issued.spends works written held own right
    have drawn : (spentTokens (world.after rest ⟨after, [.issuing candidate.userId candidate.id
        (some (presented, world.db.nextRefreshToken env))], []⟩)).Perm (presented :: spentTokens world) :=
      Service.tickets_drawn _ _ _ parts rfl
    refine ⟨rotating.issued.replaced works written, ?_, fun token mem => ?_, fun sessionId gone => ?_,
      fun flight mem => ?_, ?_⟩
    · rw [drawn.nodup_iff, nodup_cons]
      exact ⟨fun old => fresh (rotating.spent presented old), rotating.once⟩
    · rcases mem_cons.mp (drawn.subset mem) with rfl | old
      · exact spent
      · exact (rotating.spent token old).kept works written
    · have noted : .revoked sessionId ∈ world.notes ∨ Dead initial sessionId := by
        rcases gone with noted | before
        · exact .inl (by simpa [World.after] using noted)
        · exact .inr before
      exact (rotating.dead sessionId noted).replaced written
    · rcases mem_append.mp mem with old | new
      · exact rotating.verified flight (others flight old)
      · obtain rfl := mem_singleton.mp new
        trivial
    · exact safe_append rotating.safe fun _ none => absurd none not_mem_nil

variable {tokens : String × String}

theorem alive_of_held (issued : Issued env world.db) {userId sessionId : Id}
    (held : StillHeld now (.issuing userId sessionId (some tokens)) world.db) : ¬ Dead world.db sessionId := by
  rintro ⟨row, mem, rfl, revoked⟩
  exact revoked (held row (findBy_of_mem issued.ids.distinct mem))

theorem Rotating.answered (rotating : Rotating env initial world) {userId sessionId : Id}
    (same : world.flights.Perm (.issuing userId sessionId (some tokens) :: rest))
    (held : StillHeld now (.issuing userId sessionId (some tokens)) world.db) :
    Rotating env initial (world.after rest (proceedAuth env now (.issuing userId sessionId (some tokens)) world.db)) := by
  have parts := Service.held_parts AuthFlight.spends same
  have alive := alive_of_held rotating.issued held
  have faded : Faded world.db (world.db.issueAccessToken env now userId sessionId) := faded_same rfl (le_refl _) (Nat.le_succ _)
  have fewer : (spentTokens (world.after rest (proceedAuth env now (.issuing userId sessionId (some tokens)) world.db))).Subperm
      (spentTokens world) := Service.tickets_kept _ _ _ parts (List.Subperm.refl _)
  have unspent : tokens.1 ∉ world.notes.filterMap AuthNote.spent := by
    intro earlier
    have apart := (nodup_append.mp rotating.once).2.2 tokens.1 earlier tokens.1
    have own : tokens.1 ∈ world.flights.filterMap AuthFlight.spends :=
      mem_filterMap.mpr ⟨_, same.symm.subset mem_cons_self, rfl⟩
    exact apart own rfl
  refine ⟨rotating.issued.faded faded, ?_, fun token mem => ?_, fun sessionId gone => ?_, fun flight mem => ?_, ?_, ?_⟩
  · obtain ⟨subset, same, sub⟩ := fewer
    exact same.nodup_iff.mp (rotating.once.sublist sub)
  · exact (rotating.spent token (fewer.subset mem)).faded faded
  · have noted : .revoked sessionId ∈ world.notes ∨ Dead initial sessionId := by
      rcases gone with noted | before
      · rcases mem_append.mp noted with old | new
        · exact .inl old
        · cases mem_singleton.mp new
      · exact .inr before
    exact (rotating.dead sessionId noted).faded faded
  · rcases mem_append.mp mem with old | none
    · exact rotating.verified flight (same.symm.subset (mem_cons_of_mem _ old))
    · nomatch none
  · refine pairwise_append.mpr ⟨rotating.safe.order, pairwise_singleton _ _, fun earlier mem last only => ?_⟩
    obtain rfl := mem_singleton.mp only
    cases earlier with
    | rotated other presented drawn =>
      intro equal
      exact unspent (mem_filterMap.mpr ⟨_, mem, congrArg some equal⟩)
    | revoked dead =>
      intro equal
      exact alive (equal ▸ rotating.dead dead (.inl mem))
    | _ => trivial
  · intro row mem revoked presented drawn rotated
    rcases mem_append.mp rotated with old | new
    · exact rotating.safe.revokedBefore row mem revoked presented drawn old
    · cases mem_singleton.mp new
      exact alive (rotating.dead row.id (.inr ⟨row, mem, rfl, revoked⟩))

theorem rotating_proceed (works : TokensWork env) (rotating : Rotating env initial world) {flight : AuthFlight}
    (same : world.flights.Perm (flight :: rest)) (held : StillHeld now flight world.db) :
    Rotating env initial (world.after rest (proceedAuth env now flight world.db)) := by
  have parts := Service.held_parts AuthFlight.spends same
  have others : ∀ other ∈ rest, other ∈ world.flights := fun other mem => same.symm.subset (mem_cons_of_mem _ mem)
  cases flight with
  | creating userId login => exact rotating.stored works same
  | replacing presented candidate => exact rotating.replaced works same held
  | issuing userId sessionId rotation =>
    cases rotation with
    | some tokens => exact rotating.answered same held
    | none => exact rotating.kept parts others (proceed_kept trivial)
  | _ => exact rotating.kept parts others (proceed_kept trivial)

/-- In runs whose updates find the token that was verified, and whose answers find the session alive, no token is used twice or
after the revocation of its session. -/
theorem tokens_rotate_once {events : List (CallEvent Instant AuthRequest)} {finish : AuthWorld} (works : TokensWork env)
    (issued : Issued env initial)
    (run : Run (Guarded stillHeld.At (authService env).Step) (World.idle initial) events finish) :
    RotatedOnce initial finish.notes := by
  have start : Rotating env initial (World.idle initial) := by
    refine ⟨issued, List.nodup_nil, (fun _ none => nomatch none), fun sessionId gone => ?_, (fun _ none => nomatch none),
      List.Pairwise.nil, fun _ _ _ _ _ none => nomatch none⟩
    exact gone.resolve_left fun none => nomatch none
  have finished : Rotating env initial finish := by
    refine Service.good_run (fun world now request good _ => ?_) (fun world now place flight rest good held found same => ?_) start run
    · have parts : (world.flights.filterMap AuthFlight.spends).Perm ([] ++ world.flights.filterMap AuthFlight.spends) := .refl _
      exact good.kept parts (fun _ member => member) (kept_of_routine (begin_routine request))
    · exact rotating_proceed works good same (held flight found)
  exact finished.safe

end

theorem RotatedOnce.nodup {initial : AuthDb} {notes : List AuthNote} (safe : RotatedOnce initial notes) :
    (notes.filterMap AuthNote.spent).Nodup := by
  refine safe.order.filterMap _ fun first second ordered one own two its => ?_
  cases first <;> cases own
  cases second <;> cases its
  exact ordered

namespace Sample

theorem tokens_work : TokensWork env where
  drawn := nanoid_injective
  verified := by
    intro salt text offered
    have apart : "#" ++ text = "#" ++ offered ↔ text = offered := String.append_right_inj "#"
    simp only [env, decide_eq_true_eq, apart]
    exact eq_comm

theorem signedIn_issued : Issued env signedIn := by
  refine ⟨⟨by decide, by decide⟩, fun row mem hash own => ?_, fun row mem other also _ _ _ => ?_⟩
  · obtain rfl := mem_singleton.mp mem
    exact ⟨0, Nat.one_pos, (Option.some.inj own).symm⟩
  · rw [mem_singleton.mp mem, mem_singleton.mp also]

def twice : List (CallEvent Instant AuthRequest) :=
  [.begin 5 (.refresh ""), .begin 5 (.refresh ""), .proceed 6 0, .proceed 6 0, .proceed 7 0, .proceed 7 0, .proceed 8 0, .proceed 8 0]

def once : List (CallEvent Instant AuthRequest) := [.begin 5 (.refresh ""), .proceed 6 0, .proceed 7 0, .proceed 8 0]

end Sample

theorem token_used_twice : ∃ env initial events finish, TokensWork env ∧ Issued env initial ∧
    Run (authService env).Step (World.idle initial) events finish ∧ ¬ RotatedOnce initial finish.notes := by
  have spent : ((World.idle Sample.signedIn).run (authService Sample.env) Sample.twice).notes.filterMap AuthNote.spent = ["", ""] := by
    decide +kernel
  refine ⟨Sample.env, Sample.signedIn, _, _, Sample.tokens_work, Sample.signedIn_issued,
    Service.run_reached _ _ Sample.twice, fun safe => ?_⟩
  have apart := safe.nodup
  rw [spent] at apart
  exact absurd apart (by decide)

theorem token_used_once : ∃ finish : AuthWorld, finish.notes.filterMap AuthNote.spent = [""] ∧
    RotatedOnce Sample.signedIn finish.notes := by
  have spent : ((World.idle Sample.signedIn).run (authService Sample.env) Sample.once).notes.filterMap AuthNote.spent = [""] := by
    decide +kernel
  have held : Run.Meets stillHeld.At (fun world event => world.next (authService Sample.env) event) (World.idle Sample.signedIn)
      Sample.once := by
    refine ⟨trivial, fun flight found => ?_, fun flight found => ?_, fun flight found => ?_, trivial⟩
    · obtain rfl := Option.some.inj found
      trivial
    · obtain rfl := Option.some.inj found
      intro row listed
      cases listed
      rfl
    · obtain rfl := Option.some.inj found
      intro row listed
      cases listed
      rfl
  exact ⟨_, spent, tokens_rotate_once Sample.tokens_work Sample.signedIn_issued (Service.guarded_reached held)⟩

end SmartResidence.Auth
