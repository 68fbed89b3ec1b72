import SmartResidence.Auth.AuthService

/-!
# What the routine steps of the calls do

Storing a session, replacing a token and evaluating a guess are left to the proofs about them.
-/

namespace SmartResidence.Auth

open Foundation Billing List

section

variable {env : AuthEnv} {db after : AuthDb} {now : Instant}

variable {id : Id}

theorem writeUser_ok {change : User → User} (written : db.writeUser id change = .ok after) :
    ∃ row, db.user? id = some row ∧ after = { db with users := updateBy User.id id change db.users } := by
  unfold AuthDb.writeUser at written
  simp only [bind_eq_ok, orThrow_eq_ok, pure_eq_ok] at written
  obtain ⟨row, found, rfl⟩ := written
  exact ⟨row, found, rfl⟩

theorem writeSession_ok {change : Session → Session} (written : db.writeSession id change = .ok after) :
    ∃ row, db.session? id = some row ∧ after = { db with sessions := updateBy Session.id id change db.sessions } := by
  unfold AuthDb.writeSession at written
  simp only [bind_eq_ok, orThrow_eq_ok, pure_eq_ok] at written
  obtain ⟨row, found, rfl⟩ := written
  exact ⟨row, found, rfl⟩

theorem writeCode_ok {change : VerificationCode → VerificationCode} (written : db.writeCode id change = .ok after) :
    ∃ row, db.code? id = some row ∧ after = { db with codes := updateBy VerificationCode.id id change db.codes } := by
  unfold AuthDb.writeCode at written
  simp only [bind_eq_ok, orThrow_eq_ok, pure_eq_ok] at written
  obtain ⟨row, found, rfl⟩ := written
  exact ⟨row, found, rfl⟩

theorem replaceToken_ok {candidate : Session} (replaced : replaceToken env now candidate db = .ok after) :
    ∃ row, db.session? candidate.id = some row ∧ after = { db with
      draws := db.draws + 1
      sessions := updateBy Session.id candidate.id (Session.rotate now (db.nextRefreshHash env)) db.sessions } := by
  exact writeSession_ok replaced

theorem signUpUser_ok {dto : SignUpDto} (signed : signUpUser env dto db = .ok after) :
    ∃ user : User, user.id = db.nextId ∧
      after = { db with nextId := db.nextId + 1, draws := db.draws + 1, users := db.users ++ [user] } := by
  unfold signUpUser at signed
  simp only [bind_eq_ok, pure_eq_ok] at signed
  obtain ⟨_, -, _, -, _, -, rfl⟩ := signed
  exact ⟨_, rfl, rfl⟩

theorem revokeRole_ok {assignment : AssignedRole} (revoked : revokeRole now assignment db = .ok after) :
    ∃ assignments, after = { db.revokeAllForUser now assignment.userId "role-revoked" with assignments := assignments } := by
  unfold revokeRole at revoked
  simp only [bind_eq_ok, pure_eq_ok] at revoked
  obtain ⟨_, -, rfl⟩ := revoked
  exact ⟨_, rfl⟩

theorem buryAccount_ok {userId : Id} (buried : buryAccount env now userId db = .ok after) :
    ∃ row assignments, db.user? userId = some row ∧ after = { db.revokeAllForUser now userId "account-deleted" with
      users := updateBy User.id userId (User.bury env now) db.users
      assignments := assignments
      codes := db.codes.filter fun row => decide (row.userId ≠ some userId) } := by
  unfold buryAccount at buried
  simp only [bind_eq_ok, pure_eq_ok] at buried
  obtain ⟨written, wrote, rfl⟩ := buried
  obtain ⟨row, found, rfl⟩ := writeUser_ok wrote
  exact ⟨row, _, found, rfl⟩

end

def Dead (db : AuthDb) (sessionId : Id) : Prop := ∃ row ∈ db.sessions, row.id = sessionId ∧ row.revokedAt ≠ none

inductive Effect (env : AuthEnv) (central : Prop) (db : AuthDb) : AuthDb → Prop
  | same : Effect env central db db
  | user (id : Id) (change : User → User)
      (kept : ∀ row, (change row).id = row.id ∧ (change row).status = row.status ∧ (change row).deletedAt = row.deletedAt) :
      Effect env central db { db with users := updateBy User.id id change db.users }
  | joined (user : User) (own : user.id = db.nextId) :
      Effect env central db { db with nextId := db.nextId + 1, draws := db.draws + 1, users := db.users ++ [user] }
  | asked (row : VerificationCode) (own : row.id = db.nextId) :
      Effect env central db { db with nextId := db.nextId + 1, draws := db.draws + 1, codes := db.codes ++ [row] }
  | revoked (now : Instant) (reason : String) (chosen : Session → Bool) (assignments : List AssignedRole) :
      Effect env central db
        { db with sessions := updateWhere chosen (Session.revoke now reason) db.sessions, assignments := assignments }
  | issued (now : Instant) (userId sessionId : Id) : Effect env central db (db.issueAccessToken env now userId sessionId)
  | invalidated (userId : Id) : Effect env central db (db.invalidate userId)
  | asking (about : central) : Effect env central db { db with draws := db.draws + 1 }
  | buried (about : central) {now : Instant} {userId : Id} {after : AuthDb} (written : buryAccount env now userId db = .ok after) :
      Effect env central db after
  | cached (about : central) (now : Instant) (userId : Id) (version : Nat) (hint : Option Id) (user : LoadedUser) :
      Effect env central db (db.store now userId version hint user)

def Spoken (central : Prop) (db : AuthDb) : AuthNote → Prop
  | .revoked sessionId => Dead db sessionId
  | .revocationReturned _ => True
  | .accountDeleted _ _ => central
  | .accepted _ _ => central
  | _ => False

def FactorShown (env : AuthEnv) (secret : Option String) (presented : Option (Instant × String)) : Prop :=
  ∀ key, given secret = some key → ∃ checkedAt code, presented = some (checkedAt, code) ∧ env.totpVerify checkedAt code key = true

def AuthFlight.central : AuthFlight → Prop
  | .invalidating _ _ true => True
  | .authorizing _ _ _ => True
  | .fetching _ _ _ _ => True
  | .loading _ _ _ _ => True
  | .storing _ _ _ _ _ => True
  | _ => False

def Started (env : AuthEnv) (central : Prop) (flight : AuthFlight) : Prop :=
  match flight with
  | .signingIn read totp => FactorShown env read.totpSecret totp
  | .creating _ login => login = .signUp
  | .issuing _ _ _ => False
  | .replacing presented candidate => ∃ hash, candidate.refreshTokenHash = some hash ∧ env.argonVerify hash presented = true
  | flight => flight.central → central

abbrev Routine (env : AuthEnv) (central : Prop) : AuthDb → AuthOutcome → Prop :=
  Outcome.Within (Effect env central) (Spoken central) (Started env central)

section

variable {env : AuthEnv} {db after : AuthDb} {now : Instant} {central : Prop}

theorem writeUser_effect {id : Id} {change : User → User} (written : db.writeUser id change = .ok after)
    (kept : ∀ row, (change row).id = row.id ∧ (change row).status = row.status ∧ (change row).deletedAt = row.deletedAt) :
    Effect env central db after := by
  obtain ⟨_, -, rfl⟩ := writeUser_ok written
  exact .user id change kept

theorem readSignIn_factor {dto : SignInDto} {user : User} (read : readSignIn env now dto db = .ok user) :
    FactorShown env user.totpSecret (dto.totp.map fun totp => (now, totp)) := by
  unfold readSignIn at read
  simp only [bind_eq_ok] at read
  obtain ⟨found, -, _, -, _, -, _, -, checked⟩ := read
  cases secret : given found.totpSecret with
  | none =>
    rw [secret] at checked
    cases checked
    intro key own
    rw [secret] at own
    cases own
  | some key =>
    rw [secret] at checked
    simp only [bind_eq_ok, orThrow_eq_ok, throwIf_eq_ok, pure_eq_ok, not_not] at checked
    obtain ⟨totp, shown, _, right, rfl⟩ := checked
    intro own same
    rw [secret] at same
    cases same
    obtain ⟨some', -⟩ := Option.filter_eq_some_iff.mp shown
    exact ⟨now, totp, by rw [some']; rfl, right⟩

variable {userId sessionId : Id} {reason : String}

theorem dead_of_live (live : sessionId ∈ db.liveSessions userId)
    (same : after.sessions = (db.revokeAllForUser now userId reason).sessions) : Dead after sessionId := by
  obtain ⟨row, mem, rfl⟩ := mem_map.mp live
  obtain ⟨listed, pick⟩ := mem_filter.mp mem
  refine ⟨row.revoke now reason, ?_, rfl, fun none => nomatch none⟩
  rw [same]
  exact mem_updateWhere.mpr ⟨row, listed, (if_pos pick).symm⟩

variable {note : AuthNote}

theorem spoken_revoked (same : after.sessions = (db.revokeAllForUser now userId reason).sessions)
    (mem : note ∈ (db.liveSessions userId).map AuthNote.revoked) : Spoken central after note := by
  obtain ⟨sessionId, live, rfl⟩ := mem_map.mp mem
  exact dead_of_live live same

theorem spoken_returned {ids : List Id} (mem : note ∈ ids.map AuthNote.revocationReturned) :
    Spoken central db note := by
  obtain ⟨_, -, rfl⟩ := mem_map.mp mem
  trivial

theorem routine_revokeOne : Routine env central db (revokeOne now sessionId reason db) := by
  refine Outcome.within_ofWrite .same fun after written => ?_
  obtain ⟨row, found, rfl⟩ := writeSession_ok written
  obtain ⟨mem, own⟩ := mem_of_findBy found
  refine Outcome.within_last (.revoked now reason _ db.assignments) fun note listed => ?_
  rcases mem_pair.mp listed with rfl | rfl
  · exact ⟨row.revoke now reason, mem_updateBy.mpr ⟨row, mem, (if_pos own).symm⟩, own, fun none => nomatch none⟩
  · trivial

theorem begin_routine (request : AuthRequest) :
    Routine env (∃ token hint, request = .access token hint) db (beginAuth env now request db) := by
  cases request with
  | signUp dto =>
    unfold beginAuth
    refine Outcome.within_thenGo .same fun after signed => ?_
    obtain ⟨user, own, rfl⟩ := signUpUser_ok signed
    exact Outcome.within_one (.joined user own) rfl
  | signIn dto => exact Outcome.within_ofRead .same fun _ read => readSignIn_factor read
  | requestOtp dto code => exact Outcome.within_silent (.asked _ rfl) fun _ none => nomatch none
  | verifyOtp dto => exact Outcome.within_ofRead .same fun _ _ => False.elim
  | confirmTotp userId secret code =>
    unfold beginAuth
    dsimp only
    split
    · refine Outcome.within_ofWrite .same fun after written => ?_
      exact Outcome.within_silent (writeUser_effect written fun _ => ⟨rfl, rfl, rfl⟩) fun _ none => nomatch none
    · exact Outcome.within_ended .same
  | refresh refreshToken => exact Outcome.within_one .same False.elim
  | signOut sessionId => exact routine_revokeOne
  | revokeSession userId sessionId =>
    unfold beginAuth
    dsimp only
    split
    · exact Outcome.within_one .same False.elim
    · exact Outcome.within_ended .same
  | revokeAllForUser userId =>
    refine Outcome.within_last (.revoked now "security" _ db.assignments) fun note mem => ?_
    rcases mem_append.mp mem with revoked | got
    · exact spoken_revoked rfl revoked
    · exact spoken_returned got
  | revokeDelegatedRole actor assignmentId => exact Outcome.within_ofRead .same fun _ _ => False.elim
  | deleteAccount userId => exact Outcome.within_ofRead .same fun _ _ => False.elim
  | access token hint =>
    unfold beginAuth
    dsimp only
    split
    · exact Outcome.within_one (.asking ⟨token, hint, rfl⟩) fun _ => ⟨token, hint, rfl⟩
    · exact Outcome.within_silent (.asking ⟨token, hint, rfl⟩) fun _ none => nomatch none

def AuthFlight.special : AuthFlight → Prop
  | .signingIn _ _ => True
  | .checkingCode _ _ => True
  | .creating _ _ => True
  | .issuing _ _ (some _) => True
  | .replacing _ _ => True
  | _ => False

def AuthFlight.concerns (flight : AuthFlight) : Prop := flight.central ∨ ∃ userId, flight = .deleting userId

theorem routine_tryCandidate {refreshToken : String} {candidate : Session} {rest : List Session} :
    Started env central (tryCandidate env refreshToken candidate rest) := by
  unfold tryCandidate
  split
  · rename_i right
    obtain ⟨hash, own, verified⟩ := (Option.any_eq_true _ _).mp right
    exact ⟨hash, own, verified⟩
  · exact False.elim

theorem proceed_routine {flight : AuthFlight} (plain : ¬ flight.special) :
    Routine env flight.concerns db (proceedAuth env now flight db) := by
  cases flight with
  | verifyingEmail userId =>
    refine Outcome.within_ofWrite .same fun after written => ?_
    exact Outcome.within_silent (writeUser_effect written fun _ => ⟨rfl, rfl, rfl⟩) fun _ none => nomatch none
  | issuing userId sessionId rotation =>
    cases rotation with
    | some tokens => exact absurd trivial plain
    | none => exact Outcome.within_silent (.issued now userId sessionId) fun _ none => nomatch none
  | rotating refreshToken candidates =>
    cases candidates with
    | nil => exact Outcome.within_ended .same
    | cons candidate rest => exact Outcome.within_one .same routine_tryCandidate
  | revoking sessionId => exact routine_revokeOne
  | revokingRole assignment =>
    refine Outcome.within_thenGo .same fun after revoked => ?_
    obtain ⟨assignments, rfl⟩ := revokeRole_ok revoked
    refine ⟨.revoked now "role-revoked" _ assignments, fun note mem => spoken_revoked rfl mem, fun flight only => ?_⟩
    obtain rfl := mem_singleton.mp only
    exact False.elim
  | deleting userId =>
    refine Outcome.within_thenGo .same fun after buried => ?_
    have about : AuthFlight.concerns (.deleting userId) := .inr ⟨userId, rfl⟩
    refine ⟨.buried about buried, fun note mem => ?_, fun flight only => ?_⟩
    · obtain ⟨row, assignments, -, rfl⟩ := buryAccount_ok buried
      exact spoken_revoked rfl mem
    · obtain rfl := mem_singleton.mp only
      exact fun _ => about
  | invalidating userId sessionIds deleted =>
    refine Outcome.within_last (.invalidated userId) fun note mem => ?_
    rcases mem_append.mp mem with gone | got
    · split at gone
      · rename_i last
        obtain rfl := mem_singleton.mp gone
        exact .inl (last ▸ trivial)
      · nomatch gone
    · exact spoken_returned got
  | authorizing request token hint => exact Outcome.within_one .same fun _ => .inl trivial
  | fetching request token hint version =>
    unfold proceedAuth
    dsimp only
    split
    · exact Outcome.within_note .same (.inl trivial)
    · exact Outcome.within_one .same fun _ => .inl trivial
  | loading request token hint version => exact Outcome.within_ofRead .same fun _ _ _ => .inl trivial
  | storing request token hint version user =>
    exact Outcome.within_note (.cached (.inl trivial) now token.sub version hint user) (.inl trivial)
  | _ => exact absurd trivial plain

end

end SmartResidence.Auth
