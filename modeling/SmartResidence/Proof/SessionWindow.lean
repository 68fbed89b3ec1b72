import SmartResidence.Foundation.Pages
import SmartResidence.Proof.TokenRotation

/-!
# The window in which a session is found

A rotation looks at the hundred sessions that were used last, of whichever users.
-/

namespace SmartResidence.Auth

open Foundation Billing List

variable {env : AuthEnv} {db : AuthDb} {now : Instant} {token : String} {session : Session} {candidates : List Session}

def UsedLater (first second : Session) : Prop := usedLater first second = true

instance : DecidableRel UsedLater := fun first second => inferInstanceAs (Decidable (usedLater first second = true))

theorem usedLater_iff {first second : Session} : UsedLater first second ↔
    ∀ one, first.lastUsedAt = some one → ∃ two, second.lastUsedAt = some two ∧ two ≤ one := by
  unfold UsedLater usedLater
  cases first.lastUsedAt with
  | none => simp
  | some one =>
    cases second.lastUsedAt with
    | none => simp
    | some two => simp

theorem usedLater_trans (first second third : Session) (one : UsedLater first second) (two : UsedLater second third) :
    UsedLater first third := by
  rw [usedLater_iff] at *
  intro used own
  obtain ⟨middle, its, before⟩ := one used own
  obtain ⟨last, found, earlier⟩ := two middle its
  exact ⟨last, found, earlier.trans before⟩

theorem usedLater_total (first second : Session) : UsedLater first second ∨ UsedLater second first := by
  unfold UsedLater usedLater
  cases first.lastUsedAt with
  | none => exact .inl rfl
  | some one =>
    cases second.lastUsedAt with
    | none => exact .inr rfl
    | some two => simpa using le_total two one

def Candidates (now : Instant) (db : AuthDb) (candidates : List Session) : Prop :=
  ∃ listed, Arranged UsedLater (db.sessions.filter (Session.active now)) listed ∧ candidates = listed.take 100

def rotateAlone (env : AuthEnv) (now : Instant) : (steps : Nat) → List AuthFlight → AuthDb → List AuthNote → AuthDb × List AuthNote
  | steps + 1, [flight], db, notes =>
      let outcome := proceedAuth env now flight db
      rotateAlone env now steps outcome.flights outcome.db (notes ++ outcome.notes)
  | _, _, db, notes => (db, notes)

def rotate (env : AuthEnv) (now : Instant) (token : String) (candidates : List Session) (db : AuthDb) : AuthDb × List AuthNote :=
  rotateAlone env now (candidates.length + 3) [.rotating token candidates] db []

/-- The rotation has gone through for the session: it says so, and the session has the hash of the new token. -/
structure Refreshed (env : AuthEnv) (now : Instant) (db : AuthDb) (token : String) (session : Session)
    (result : AuthDb × List AuthNote) : Prop where
  answered : .rotated session.id token (db.nextRefreshToken env) ∈ result.2
  stored : result.1.session? session.id = some (session.rotate now (db.nextRefreshHash env))

def verifies (env : AuthEnv) (token : String) (candidate : Session) : Bool :=
  candidate.refreshTokenHash.any fun hash => env.argonVerify hash token

variable {passed rest : List Session}

theorem rotateAlone_passed {steps : Nat} {notes : List AuthNote}
    (none : ∀ candidate ∈ passed, verifies env token candidate = false) :
    rotateAlone env now (passed.length + steps) [.rotating token (passed ++ rest)] db notes =
      rotateAlone env now steps [.rotating token rest] db notes := by
  induction passed with
  | nil => rw [length_nil, Nat.zero_add, nil_append]
  | cons candidate passed ih =>
    have other := none candidate mem_cons_self
    unfold verifies at other
    have step : proceedAuth env now (.rotating token (candidate :: (passed ++ rest))) db =
        .reads db [.rotating token (passed ++ rest)] := by
      simp [proceedAuth, tryCandidate, other]
    rw [length_cons, Nat.add_right_comm, cons_append, rotateAlone, step]
    simp only [Outcome.reads, append_nil]
    exact ih fun candidate mem => none candidate (mem_cons_of_mem _ mem)

theorem rotate_unknown (none : ∀ candidate ∈ candidates, verifies env token candidate = false) :
    rotate env now token candidates db = (db, []) := by
  have passed : rotateAlone env now (candidates.length + 3) [.rotating token (candidates ++ [])] db [] =
      rotateAlone env now 3 [.rotating token []] db [] := rotateAlone_passed none
  rw [append_nil] at passed
  unfold rotate
  rw [passed]
  rfl

theorem rotate_found (none : ∀ candidate ∈ passed, verifies env token candidate = false)
    (verified : verifies env token session) (keys : (db.sessions.map Session.id).Nodup) (mem : session ∈ db.sessions) :
    Refreshed env now db token session (rotate env now token (passed ++ session :: rest) db) := by
  have found : findBy Session.id session.id db.sessions = some session := findBy_of_mem keys mem
  have enough : (passed ++ session :: rest).length + 3 = passed.length + (rest.length + 4) := by
    rw [length_append, length_cons]
    omega
  have tried : proceedAuth env now (.rotating token (session :: rest)) db = .reads db [.replacing token session] := by
    unfold verifies at verified
    simp [proceedAuth, tryCandidate, verified]
  let after : AuthDb :=
    { db with
      draws := db.draws + 1
      sessions := updateBy Session.id session.id (Session.rotate now (db.nextRefreshHash env)) db.sessions }
  have written : replaceToken env now session db = .ok after := by
    simp only [replaceToken, AuthDb.writeSession, AuthDb.session?, found]
    rfl
  have replaced : proceedAuth env now (.replacing token session) db =
      ⟨after, [.issuing session.userId session.id (some (token, db.nextRefreshToken env))], []⟩ := by
    simp [proceedAuth, written, Outcome.thenGo]
  have rotated : rotate env now token (passed ++ session :: rest) db =
      (after.issueAccessToken env now session.userId session.id, [.rotated session.id token (db.nextRefreshToken env)]) := by
    unfold rotate
    rw [enough, rotateAlone_passed none]
    simp only [rotateAlone, tried, Outcome.reads, replaced]
    rfl
  rw [rotated]
  refine ⟨mem_singleton_self _, ?_⟩
  have kept : ∀ row : Session, (row.rotate now (db.nextRefreshHash env)).id = row.id := fun _ => rfl
  show findBy Session.id session.id (updateBy Session.id session.id (Session.rotate now (db.nextRefreshHash env)) db.sessions) = _
  rw [findBy_updateBy kept, found]
  simp

variable {draw : Nat}

theorem verifies_iff (works : TokensWork env) (issued : Issued env db) (mem : session ∈ db.sessions)
    (own : session.refreshTokenHash = some (drawnHash env draw)) {other : Session} (listed : other ∈ db.sessions) :
    verifies env (env.nanoid draw) other ↔ other = session := by
  unfold verifies
  rw [Option.any_eq_true]
  constructor
  · rintro ⟨hash, stored, verified⟩
    obtain ⟨draw', -, rfl⟩ := issued.hashes other listed hash stored
    have same := works.drawn ((works.verified _ _ _).mp verified)
    rw [← same] at stored
    exact eq_of_key_eq issued.ids.distinct listed mem (issued.apart other listed session mem _ stored own)
  · rintro rfl
    exact ⟨_, own, (works.verified _ _ _).mpr rfl⟩

theorem mem_window_of_refreshed (works : TokensWork env) (issued : Issued env db) (mem : session ∈ db.sessions)
    (own : session.refreshTokenHash = some (drawnHash env draw))
    (refreshed : ∀ candidates, Candidates now db candidates →
      Refreshed env now db (env.nanoid draw) session (rotate env now (env.nanoid draw) candidates db)) :
    ∀ order, Arranged UsedLater (db.sessions.filter (Session.active now)) order → session ∈ order.take 100 := by
  intro order arranged
  by_contra missing
  have others : ∀ candidate ∈ order.take 100, verifies env (env.nanoid draw) candidate = false := by
    intro candidate found
    have stored := (mem_filter.mp (arranged.perm.mem_iff.mp (mem_of_mem_take found))).1
    rw [← Bool.not_eq_true, verifies_iff works issued mem own stored]
    exact fun same => missing (same ▸ found)
  have answered := (refreshed _ ⟨order, arranged, rfl⟩).answered
  rw [rotate_unknown others] at answered
  cases answered

theorem refreshed_of_mem_window (works : TokensWork env) (issued : Issued env db) (mem : session ∈ db.sessions)
    (own : session.refreshTokenHash = some (drawnHash env draw)) {order : List Session}
    (arranged : Arranged UsedLater (db.sessions.filter (Session.active now)) order) (inside : session ∈ order.take 100) :
    Refreshed env now db (env.nanoid draw) session (rotate env now (env.nanoid draw) (order.take 100) db) := by
  have keys := issued.ids.distinct
  obtain ⟨passed, rest, shape⟩ := append_of_mem inside
  have once : (order.take 100).Nodup := by
    have nodup : (db.sessions.filter (Session.active now)).Nodup := (List.Nodup.of_map _ keys).filter _
    exact (arranged.perm.nodup_iff.mpr nodup).sublist (take_sublist _ _)
  have others : ∀ candidate ∈ passed, verifies env (env.nanoid draw) candidate = false := by
    intro candidate found
    have found' : candidate ∈ order.take 100 := shape ▸ mem_append_left _ found
    have stored := (mem_filter.mp (arranged.perm.mem_iff.mp (mem_of_mem_take found'))).1
    rw [← Bool.not_eq_true, verifies_iff works issued mem own stored]
    rintro rfl
    rw [shape] at once
    exact (nodup_append.mp once).2.2 _ found _ mem_cons_self rfl
  rw [shape]
  exact rotate_found others ((verifies_iff works issued mem own mem).mpr rfl) keys mem

/-- A live session is refreshed, whatever the order of sessions that were used at the same time, just if it is among the
hundred live sessions that were used last. -/
theorem session_window (works : TokensWork env) (issued : Issued env db) (member : session ∈ db.sessions)
    (live : session.active now) {draw : Nat} (own : session.refreshTokenHash = some (drawnHash env draw)) :
    (∀ candidates, Candidates now db candidates →
      Refreshed env now db (env.nanoid draw) session (rotate env now (env.nanoid draw) candidates db)) ↔
      (db.sessions.filter fun other => other.active now && usedLater other session).length ≤ 100 := by
  have distinct : (db.sessions.filter (Session.active now)).Nodup := (List.Nodup.of_map _ issued.ids.distinct).filter _
  have listed : session ∈ db.sessions.filter (Session.active now) := List.mem_filter.mpr ⟨member, live⟩
  have counted : (db.sessions.filter fun other => other.active now && usedLater other session).length =
      (db.sessions.filter (Session.active now)).countP fun other => decide (UsedLater other session) := by
    rw [List.countP_eq_length_filter, List.filter_filter]
    congr 1
    apply List.filter_congr
    intro other _
    rw [Bool.and_comm]
    show _ = (decide (usedLater other session = true) && _)
    rw [Bool.decide_eq_true]
  rw [counted, ← forall_mem_take_iff usedLater_trans usedLater_total distinct listed]
  constructor
  · exact mem_window_of_refreshed works issued member own
  · rintro inside candidates ⟨order, arranged, rfl⟩
    exact refreshed_of_mem_window works issued member own arranged (inside order arranged)

namespace Sample

def device (n : Nat) : Session :=
  { id := n, userId := n, refreshTokenHash := some (drawnHash Sample.env n), expiresAt := refreshTtlMs, revokedAt := none
    revokeReason := none, lastUsedAt := some (if n = 0 then 0 else 1) }

def crowd : AuthDb := { signedIn with nextId := 101, draws := 101, sessions := (List.range 101).map device }

theorem crowd_issued : Issued Sample.env crowd := by
  have ids : crowd.sessions.map Session.id = List.range 101 := by
    show ((List.range 101).map device).map Session.id = _
    rw [map_map]
    exact map_id _
  refine ⟨⟨?_, ?_⟩, ?_, ?_⟩
  · rw [ids]
    exact nodup_range
  · exact fun id mem => mem_range.mp mem
  · intro row mem hash own
    obtain ⟨n, listed, rfl⟩ := mem_map.mp mem
    exact ⟨n, mem_range.mp listed, (Option.some.inj own).symm⟩
  · intro row mem other also hash own its
    obtain ⟨n, -, rfl⟩ := mem_map.mp mem
    obtain ⟨m, -, rfl⟩ := mem_map.mp also
    exact drawnHash_injective tokens_work ((Option.some.inj own).trans (Option.some.inj its).symm)

end Sample

theorem session_missed : ¬ ∀ candidates, Candidates 2 Sample.crowd candidates →
    Refreshed Sample.env 2 Sample.crowd (Sample.env.nanoid 0) (Sample.device 0)
      (rotate Sample.env 2 (Sample.env.nanoid 0) candidates Sample.crowd) := by
  intro refreshed
  have member : Sample.device 0 ∈ Sample.crowd.sessions := List.mem_map_of_mem (List.mem_range.mpr (by decide : 0 < 101))
  have inside := mem_window_of_refreshed Sample.tokens_work Sample.crowd_issued member rfl refreshed
  have distinct : (Sample.crowd.sessions.filter (Session.active 2)).Nodup :=
    (List.Nodup.of_map _ Sample.crowd_issued.ids.distinct).filter _
  have few := (forall_mem_take_iff usedLater_trans usedLater_total distinct
    (List.mem_filter.mpr ⟨member, by decide⟩)).mp inside
  revert few
  decide +kernel

theorem session_found : Candidates 5 Sample.signedIn [Sample.phone] ∧
    Refreshed Sample.env 5 Sample.signedIn (Sample.env.nanoid 0) Sample.phone
      (rotate Sample.env 5 (Sample.env.nanoid 0) [Sample.phone] Sample.signedIn) := by
  have candidates : Candidates 5 Sample.signedIn [Sample.phone] := ⟨_, arranged_singleton _, rfl⟩
  have own : Sample.phone.refreshTokenHash = some (drawnHash Sample.env 0) := rfl
  have window := session_window Sample.tokens_work Sample.signedIn_issued (List.mem_singleton_self Sample.phone)
    (by decide : Sample.phone.active 5) own
  exact ⟨candidates, window.mpr (by decide) _ candidates⟩

end SmartResidence.Auth
