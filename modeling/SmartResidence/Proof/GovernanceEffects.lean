import SmartResidence.Governance.Voting

/-!
# What an event of the governance tables can do

The operations are inverted once. What follows is by cases on the effect.
-/

namespace SmartResidence.Governance

open Foundation Billing Settings

structure VotingOpen (now : Instant) (poll : Poll) : Prop where
  opened : poll.status = .opened
  begun : ∀ opens, poll.opensAt = some opens → opens ≤ now
  running : ∀ closes, poll.closesAt = some closes → now < closes

structure Overdue (now : Instant) (poll : Poll) : Prop where
  opened : poll.status = .opened
  past : ∃ closes, poll.closesAt = some closes ∧ closes ≤ now

structure Accepts (now : Instant) (db : GovernanceDb) (poll : Poll) (unit : GovernanceUnit) (dto : BallotDto) : Prop where
  found : db.poll? poll.id = some poll
  votingOpen : VotingOpen now poll
  option : dto.optionId ∈ (db.optionsOf poll.id).map PollOption.id
  sameCondo : unit.condoId = poll.condoId
  audience : unitMatchesAudience poll unit.blockId = true
  fresh : db.voted poll.id dto.unitId = false

structure Entitled (env : GovernanceEnv) (now : Instant) (db : GovernanceDb) (user : Voter) (resolutionId : Id) (dto : BallotDto)
    (item : MeetingItem) (poll : Poll) (owned : OwnedUnit) (stamp : BallotStamp) : Prop where
  votable : votablePoll resolutionId db = .ok (item, poll)
  right : ballotRight env now user item.meeting dto.unitId db = .ok (owned, stamp)

structure AllowsUpdate (now : Instant) (user : Voter) (dto : UpdatePollDto) (existing : Poll) : Prop where
  manages : isManagementForCondo user.toAuthenticatedUser existing.condoId = true
  edits : dto.options.isSome → existing.status = .draft
  final : effectivePollStatus now existing = .closed → dto.status = some .closed
  valid : dto.validate existing = .ok ()

structure AllowsMeetingUpdate (user : Voter) (dto : UpdateGeneralMeetingDto) (existing : GeneralMeeting) : Prop where
  manages : isManagementForCondo user.toAuthenticatedUser existing.condoId = true
  final : existing.status = .closed → dto.status = some .closed
  notice : dto.noticeBody.isSome → existing.status = .draft
  unpublished : dto.minutesBody.isSome → existing.minutesPublishedAt = none
  announced : dto.minutesBody.isSome → existing.status ≠ .draft
  quorum : dto.quorumPercent.isSome → existing.status = .draft ∨ existing.status = .noticePublished

structure AllowsMinutes (db : GovernanceDb) (user : Voter) (minutesBody : Option String) (existing : GeneralMeeting) : Prop where
  manages : isManagementForCondo user.toAuthenticatedUser existing.condoId = true
  held : existing.status = .inProgress ∨ existing.status = .closed
  decided : ((db.resolutionsOf existing.id).any
    fun resolution => (db.linkedPoll? resolution).any fun poll => decide (poll.status = .opened)) = false
  written : trimText (minutesToPublish minutesBody existing) ≠ ""

inductive Effect (env : GovernanceEnv) (db : GovernanceDb) : GovernanceEvent → GovernanceDb → Prop
  | idle {event : GovernanceEvent} : Effect env db event db
  | pollCreated {user : Voter} {dto : CreatePollDto} :
      Effect env db (.createPoll user dto) (db.insertPoll dto.row dto.options.options)
  | pollUpdated {now : Instant} {user : Voter} {id : Id} {dto : UpdatePollDto} {existing : Poll}
      (found : db.poll? id = some existing) (allowed : AllowsUpdate now user dto existing) :
      Effect env db (.updatePoll now user id dto) (db.rewritePoll now existing dto)
  | expired {event : GovernanceEvent} {now : Instant} {poll : Poll} (found : db.poll? poll.id = some poll)
      (overdue : Overdue now poll) : Effect env db event (db.updatePoll poll.id Poll.close)
  | swept {now : Instant} : Effect env db (.closeExpiredPolls now) (closeExpiredPolls now db)
  | voted {now : Instant} {user : Voter} {dto : BallotDto} {poll : Poll} {owned : OwnedUnit}
      (owns : db.ownership? now user.id dto.unitId = some owned.ownership)
      (of : db.unit? dto.unitId = some owned.unit) (accepted : Accepts now db poll owned.unit dto) :
      Effect env db (.castVote now user poll.id dto)
        (db.storeVote (ballotRow now user poll owned.ownership dto ⟨false, none, none, owned.ownership.userId⟩))
  | resolved {now : Instant} {user : Voter} {resolutionId : Id} {dto : BallotDto} {item : MeetingItem} {poll : Poll}
      {owned : OwnedUnit} {stamp : BallotStamp}
      (entitled : Entitled env now db user resolutionId dto item poll owned stamp)
      (accepted : Accepts now db poll owned.unit dto) :
      Effect env db (.castResolutionVote now user resolutionId dto)
        (db.storeVote (ballotRow now user poll owned.ownership dto stamp))
  | meetingCreated {user : Voter} {dto : CreateGeneralMeetingDto} :
      Effect env db (.createMeeting user dto) (db.insertMeeting dto.row)
  | meetingUpdated {user : Voter} {id : Id} {dto : UpdateGeneralMeetingDto} {existing : GeneralMeeting}
      (found : db.meeting? id = some existing) (allowed : AllowsMeetingUpdate user dto existing) :
      Effect env db (.updateMeeting user id dto) (db.updateMeeting id fun meeting => meeting.update dto)
  | noticePublished {now : Instant} {ledger : Db} {user : Voter} {id : Id} {existing : GeneralMeeting}
      (found : db.meeting? id = some existing) (draft : existing.status = .draft)
      (written : trimText existing.noticeBody ≠ "") :
      Effect env db (.publishNotice now ledger user id)
        (db.updateMeeting id (GeneralMeeting.publishNotice (buildFinancialSnapshot now ledger existing.condoId)))
  | minutesPublished {now : Instant} {user : Voter} {id : Id} {minutesBody : Option String} {existing : GeneralMeeting}
      (found : db.meeting? id = some existing) (allowed : AllowsMinutes db user minutesBody existing) :
      Effect env db (.publishMinutes now user id minutesBody)
        (db.updateMeeting id (GeneralMeeting.publishMinutes (minutesToPublish minutesBody existing) now))
  | resolutionAdded {user : Voter} {meetingId : Id} {dto : CreateMeetingResolutionDto} {meeting : GeneralMeeting}
      (found : db.meeting? meetingId = some meeting) :
      Effect env db (.addResolution user meetingId dto) (db.insertResolution (dto.row meetingId))
  | resolutionUpdated {user : Voter} {resolutionId : Id} {dto : UpdateMeetingResolutionDto} {item : MeetingItem}
      (found : db.meetingItem resolutionId = .ok item) :
      Effect env db (.updateResolution user resolutionId dto)
        (db.updateResolution resolutionId fun resolution => resolution.update dto)
  | votingOpened {now : Instant} {user : Voter} {resolutionId : Id} {dto : OpenResolutionVotingDto} {item : MeetingItem}
      (found : db.meetingItem resolutionId = .ok item) (unlinked : item.resolution.pollId = none)
      (announced : item.meeting.status = .noticePublished ∨ item.meeting.status = .inProgress) :
      Effect env db (.openResolutionVoting now user resolutionId dto)
        (db.openVoting item (dto.votingOpensAt.getD now) dto.votingClosesAt
          (buildEligibilitySnapshot now item.meeting.condoId db))
  | votingClosed {now : Instant} {user : Voter} {resolutionId : Id} {item : MeetingItem} {poll : Poll}
      (found : db.meetingItem resolutionId = .ok item) (linked : db.linkedPoll? item.resolution = some poll)
      (running : poll.status ≠ .closed) :
      Effect env db (.closeResolutionVoting now user resolutionId)
        (db.closeVoting now resolutionId poll.id (takeResults now item poll.id db))
  | proxySubmitted {now : Instant} {user : Voter} {meetingId : Id} {dto : SubmitMeetingProxyDto} {meeting : GeneralMeeting}
      {owned : OwnedUnit} {holder : Option Id} (found : db.meeting? meetingId = some meeting)
      (owns : db.ownership? now user.id dto.unitId = some owned.ownership)
      (of : db.unit? dto.unitId = some owned.unit) (sameCondo : owned.unit.condoId = meeting.condoId)
      (first : db.proxy? meetingId dto.unitId = none) :
      Effect env db (.submitProxy now user meetingId dto) (db.storeProxy (dto.row meetingId user.id holder))
  | registered {users : List Resident} {ownerships : List Ownership} :
      Effect env db (.register users ownerships) { db with users := users, ownerships := ownerships }
  | unitAdded {condoId blockId : Id} {identifier : String} :
      Effect env db (.addUnit condoId blockId identifier) (db.addUnit condoId blockId identifier)

section

variable {env : GovernanceEnv} {db after : GovernanceDb} {now : Instant} {user : Voter} {poll : Poll} {dto : BallotDto}
  {owned : OwnedUnit} {stamp : BallotStamp} {Value : Type}

variable (db) in
theorem commit_cases (change : GovernanceDb → Result GovernanceDb) :
    (commit change db).2 = db ∨ change db = .ok (commit change db).2 := by
  unfold commit
  cases change db with
  | error failure => exact .inl rfl
  | ok after => exact .inr rfl

variable {change : GovernanceDb → Result GovernanceDb} {done : Unit}

theorem commit_eq_ok : commit change db = (.ok done, after) ↔ change db = .ok after := by
  unfold commit
  cases change db with
  | error failure => simp
  | ok changed => simp

variable {value : Value}

theorem look_eq_ok {find : GovernanceDb → Result Value} :
    look find db = (.ok value, after) ↔ find db = .ok value ∧ after = db := by
  unfold look
  simp [eq_comm]

theorem ofResult_eq_ok {result : Result Value} :
    (Call.ofResult result : Operation Value) db = (.ok value, after) ↔ result = .ok value ∧ after = db := by
  unfold Call.ofResult
  simp [eq_comm]

variable (db) in
theorem look_bind_state (find : GovernanceDb → Result Value) (rest : Value → Operation Unit) :
    ((look find >>= rest) db).2 = db ∨
      ∃ value, find db = .ok value ∧ ((look find >>= rest) db).2 = (rest value db).2 := by
  cases found : find db with
  | error failure =>
    left
    rw [Call.bind_of_error (show look find db = (.error failure, db) by simp [look, found])]
  | ok value =>
    right
    exact ⟨value, rfl, by rw [Call.bind_of_ok (show look find db = (.ok value, db) by simp [look, found])]⟩

variable (db) in
theorem ofResult_bind_state (result : Result Value) (rest : Value → Operation Unit) :
    ((Call.ofResult result >>= rest : Operation Unit) db).2 = db ∨
      ∃ value, result = .ok value ∧ ((Call.ofResult result >>= rest : Operation Unit) db).2 = (rest value db).2 :=
  look_bind_state db (fun _ => result) rest

variable {userId unitId : Id}

theorem ownedUnit_ok {missing : ApiError} : db.ownedUnit now userId unitId missing = .ok owned ↔
      db.ownership? now userId unitId = some owned.ownership ∧ db.unit? owned.ownership.unitId = some owned.unit := by
  simp only [GovernanceDb.ownedUnit, bind_eq_ok, orThrow_eq_ok, pure_eq_ok]
  constructor
  · rintro ⟨ownership, found, unit, of, rfl⟩
    exact ⟨found, of⟩
  · rintro ⟨found, of⟩
    exact ⟨_, found, _, of, rfl⟩

variable {ownership : Ownership}

theorem ownership_found (found : db.ownership? now userId unitId = some ownership) :
    ownership ∈ db.ownerships ∧ ownership.userId = userId ∧ ownership.unitId = unitId ∧ ownership.current now = true := by
  have pick := List.find?_some found
  simp only [Bool.and_eq_true, decide_eq_true_eq] at pick
  exact ⟨List.mem_of_find?_eq_some found, pick.1.1, pick.1.2, pick.2⟩

theorem assertManagement_ok {caller : AuthenticatedUser} {condoId : Id} :
    assertManagement caller condoId = .ok done ↔ isManagementForCondo caller condoId = true := by
  unfold assertManagement
  rw [throwIf_eq_ok, not_not]

variable {resolutionId : Id} {item : MeetingItem}

theorem meetingItem_ok : db.meetingItem resolutionId = .ok item ↔
    db.resolution? resolutionId = some item.resolution ∧ db.meeting? item.resolution.meetingId = some item.meeting := by
  simp only [GovernanceDb.meetingItem, bind_eq_ok, orThrow_eq_ok, pure_eq_ok]
  constructor
  · rintro ⟨resolution, found, meeting, of, rfl⟩
    exact ⟨found, of⟩
  · rintro ⟨found, of⟩
    exact ⟨_, found, _, of, rfl⟩

theorem assertUnit_ok {unit : GovernanceUnit} : assertUnit poll unit = .ok done ↔
    unit.condoId = poll.condoId ∧ unitMatchesAudience poll unit.blockId = true := by
  simp [assertUnit]

theorem overdue_iff : Overdue now poll ↔
    poll.status = .opened ∧ (poll.closesAt.any fun closes => decide (closes ≤ now)) = true := by
  rw [Option.any_eq_true]
  constructor
  · intro ⟨opened, closes, set, past⟩
    exact ⟨opened, closes, set, decide_eq_true past⟩
  · rintro ⟨opened, closes, set, past⟩
    exact ⟨opened, closes, set, of_decide_eq_true past⟩

theorem effectivePollStatus_of_overdue (overdue : Overdue now poll) : effectivePollStatus now poll = .closed := by
  unfold effectivePollStatus
  rw [if_pos (overdue_iff.mp overdue)]

theorem effectivePollStatus_of_not_overdue (running : ¬ Overdue now poll) : effectivePollStatus now poll = poll.status := by
  unfold effectivePollStatus
  rw [if_neg fun due => running (overdue_iff.mpr due)]

theorem effective_draft : effectivePollStatus now poll = .draft ↔ poll.status = .draft := by
  unfold effectivePollStatus
  split
  · rename_i due
    simp [due.1]
  · rfl

theorem maybeAutoClose_overdue (overdue : Overdue now poll) :
    maybeAutoClose now poll db = (.ok .closed, db.updatePoll poll.id Poll.close) := by
  unfold maybeAutoClose
  rw [if_pos ⟨overdue.opened, effectivePollStatus_of_overdue overdue⟩]
  rfl

theorem maybeAutoClose_running (running : ¬ Overdue now poll) : maybeAutoClose now poll db = (.ok poll.status, db) := by
  unfold maybeAutoClose
  rw [effectivePollStatus_of_not_overdue running, if_neg (by rintro ⟨opened, closed⟩; simp [opened] at closed)]
  rfl

theorem VotingOpen.not_overdue (voting : VotingOpen now poll) : ¬ Overdue now poll := by
  intro ⟨_, closes, set, past⟩
  exact absurd (voting.running closes set) (not_lt.mpr past)

variable (db now poll) in
theorem assertVotingOpen_cases : (VotingOpen now poll ∧ assertVotingOpen now poll db = (.ok (), db)) ∨
      (¬ VotingOpen now poll ∧ ∃ failure, assertVotingOpen now poll db = (.error failure, db)) ∨
      (Overdue now poll ∧ ∃ failure, assertVotingOpen now poll db = (.error failure, db.updatePoll poll.id Poll.close)) := by
  by_cases overdue : Overdue now poll
  · refine .inr (.inr ⟨overdue, .badRequest "This poll is not open for voting", ?_⟩)
    rw [assertVotingOpen, Call.bind_of_ok (maybeAutoClose_overdue overdue)]
    rfl
  · rw [assertVotingOpen, Call.bind_of_ok (maybeAutoClose_running overdue)]
    by_cases opened : poll.status = .opened
    · by_cases begun : (poll.opensAt.any fun opens => decide (now < opens)) = true
      · refine .inr (.inl ⟨fun voting => ?_, .badRequest "Voting has not opened yet", ?_⟩)
        · rw [Option.any_eq_true] at begun
          obtain ⟨opens, set, early⟩ := begun
          exact absurd (voting.begun opens set) (not_le.mpr (of_decide_eq_true early))
        · simp [Call.ofResult_bind, throwIf, opened, begun]
      · have running : ¬ (poll.closesAt.any fun closes => decide (closes ≤ now)) = true :=
          fun due => overdue (overdue_iff.mpr ⟨opened, due⟩)
        refine .inl ⟨⟨opened, fun opens set => ?_, fun closes set => ?_⟩, ?_⟩
        · simpa [set] using begun
        · simpa [set] using running
        · simp [Call.ofResult_bind, Call.ofResult, throwIf, opened, begun, running]
    · refine .inr (.inl ⟨fun voting => opened voting.opened, .badRequest "This poll is not open for voting", ?_⟩)
      simp [Call.ofResult_bind, throwIf, opened]

theorem assertVotingOpen_ok : assertVotingOpen now poll db = (.ok done, after) ↔ VotingOpen now poll ∧ after = db := by
  rcases assertVotingOpen_cases db now poll with
    ⟨voting, runs⟩ | ⟨refused, failure, runs⟩ | ⟨overdue, failure, runs⟩
  · simp [runs, voting, eq_comm]
  · simp [runs, refused]
  · have refused : ¬ VotingOpen now poll := fun voting => voting.not_overdue overdue
    simp [runs, refused]

variable (db now poll) in
theorem assertVotingOpen_bind_state (rest : Unit → Operation Unit) : ((assertVotingOpen now poll >>= rest) db).2 = db ∨
      (Overdue now poll ∧ ((assertVotingOpen now poll >>= rest) db).2 = db.updatePoll poll.id Poll.close) ∨
      (VotingOpen now poll ∧ ((assertVotingOpen now poll >>= rest) db).2 = (rest () db).2) := by
  rcases assertVotingOpen_cases db now poll with
    ⟨voting, runs⟩ | ⟨refused, failure, runs⟩ | ⟨overdue, failure, runs⟩
  · exact .inr (.inr ⟨voting, by rw [Call.bind_of_ok runs]⟩)
  · exact .inl (by rw [Call.bind_of_error runs])
  · exact .inr (.inl ⟨overdue, by rw [Call.bind_of_error runs]⟩)

/-! ### The ballot is stored -/

theorem insertVote_ok : insertVote now user poll ownership dto stamp db = .ok after ↔
    db.voted poll.id dto.unitId = false ∧ db.storeVote (ballotRow now user poll ownership dto stamp) = after := by
  simp only [insertVote, bind_eq_ok, throwIf_eq_ok, pure_eq_ok, Bool.not_eq_true, exists_const]

variable (db) in
theorem recordVote_state : (recordVote now user poll ownership dto stamp db).2 = db ∨
      (db.voted poll.id dto.unitId = false ∧ (recordVote now user poll ownership dto stamp db).2 =
        db.storeVote (ballotRow now user poll ownership dto stamp)) := by
  unfold recordVote
  cases inserted : insertVote now user poll ownership dto stamp db with
  | error failure =>
    left
    rw [Call.bind_of_error (show commit _ db = (.error failure, db) by simp [commit, inserted])]
  | ok stored =>
    right
    obtain ⟨fresh, rfl⟩ := insertVote_ok.mp inserted
    have committed : commit (insertVote now user poll ownership dto stamp) db = (.ok (), _) := commit_eq_ok.mpr inserted
    rw [Call.bind_of_ok committed]
    exact ⟨fresh, rfl⟩

theorem recordVote_ok : recordVote now user poll ownership dto stamp db = (.ok done, after) ↔
      db.voted poll.id dto.unitId = false ∧ hasCondoAccess user.toAuthenticatedUser poll.condoId = true ∧
        after = db.storeVote (ballotRow now user poll ownership dto stamp) := by
  unfold recordVote
  rw [Call.bind_eq_ok]
  simp only [commit_eq_ok, insertVote_ok, ofResult_eq_ok, assertCondoAccess, throwIf_eq_ok, not_not]
  constructor
  · rintro ⟨_, stored, ⟨fresh, rfl⟩, access, rfl⟩
    exact ⟨fresh, access, rfl⟩
  · rintro ⟨fresh, access, rfl⟩
    exact ⟨(), _, ⟨fresh, rfl⟩, access, rfl⟩

inductive Casting (db : GovernanceDb) (stores : GovernanceDb → Prop) : GovernanceDb → Prop
  | idle : Casting db stores db
  | expired {now : Instant} {poll : Poll} (found : db.poll? poll.id = some poll) (overdue : Overdue now poll) :
      Casting db stores (db.updatePoll poll.id Poll.close)
  | stored {after : GovernanceDb} (ballot : stores after) : Casting db stores after

theorem Casting.imp {first second : GovernanceDb → Prop} (casting : Casting db first after)
    (implies : ∀ after, first after → second after) : Casting db second after := by
  cases casting with
  | idle => exact .idle
  | expired found overdue => exact .expired found overdue
  | stored ballot => exact .stored (implies _ ballot)

variable {pollId : Id}

theorem poll_found (found : db.poll? pollId = some poll) : pollId = poll.id :=
  ((mem_of_findBy found).2).symm

theorem assertOption_ok :
    assertOption dto poll db = .ok done ↔ dto.optionId ∈ (db.optionsOf poll.id).map PollOption.id := by
  unfold assertOption
  rw [throwIf_eq_ok, not_not]

variable {stores : GovernanceDb → Prop}

theorem cast_of_open {rest : Unit → Operation Unit} (found : db.poll? poll.id = some poll)
    (ends : VotingOpen now poll → dto.optionId ∈ (db.optionsOf poll.id).map PollOption.id →
      (rest () db).2 = db ∨ stores (rest () db).2) :
    Casting db stores ((assertVotingOpen now poll >>= fun _ => look (assertOption dto poll) >>= rest) db).2 := by
  rcases assertVotingOpen_bind_state db now poll fun _ => look (assertOption dto poll) >>= rest with same | ⟨overdue, same⟩ | ⟨voting, same⟩
  · rw [same]
    exact .idle
  · rw [same]
    exact .expired found overdue
  · rw [same]
    rcases look_bind_state db (assertOption dto poll) rest with refused | ⟨_, option, same⟩
    · rw [refused]
      exact .idle
    · rw [same]
      rcases ends voting (assertOption_ok.mp option) with nothing | ballot
      · rw [nothing]
        exact .idle
      · exact .stored ballot

variable (now user dto) in
theorem cast_owned (found : db.poll? poll.id = some poll) :
    Casting db (fun after => Accepts now db poll owned.unit dto ∧
        after = db.storeVote (ballotRow now user poll owned.ownership dto stamp))
      (castVoteWithOwnership now user poll.id dto owned stamp db).2 := by
  unfold castVoteWithOwnership
  have loaded : look (fun db => orThrow (db.poll? poll.id) (.notFound "Not Found")) db = (.ok poll, db) :=
    look_eq_ok.mpr ⟨by rw [orThrow_eq_ok, found], rfl⟩
  rw [Call.bind_of_ok loaded]
  refine cast_of_open found fun voting option => ?_
  rcases ofResult_bind_state db _ _ with refused | ⟨_, same, runs⟩
  · exact .inl refused
  · rw [runs]
    rcases ofResult_bind_state db _ _ with refused | ⟨_, fits, runs⟩
    · exact .inl refused
    · rw [runs]
      rcases recordVote_state db with refused | ⟨fresh, stored⟩
      · exact .inl refused
      · obtain ⟨sameCondo, audience⟩ := assertUnit_ok.mp fits
        exact .inr ⟨⟨found, voting, option, sameCondo, audience, fresh⟩, stored⟩

theorem poll_looked (found : (orThrow (db.poll? pollId) (.notFound "Not Found") : Result Poll) = .ok poll) :
    pollId = poll.id ∧ db.poll? poll.id = some poll := by
  rw [orThrow_eq_ok] at found
  obtain rfl := poll_found found
  exact ⟨rfl, found⟩

theorem showPoll_state : Casting db (fun _ => False) (showPoll now pollId db).2 := by
  unfold showPoll
  rcases look_bind_state db (fun db => orThrow (db.poll? pollId) (.notFound "Not Found")) _ with refused | ⟨poll, found, runs⟩
  · rw [refused]
    exact .idle
  · rw [runs]
    obtain ⟨rfl, stored⟩ := poll_looked found
    by_cases overdue : Overdue now poll
    · rw [Call.bind_of_ok (maybeAutoClose_overdue overdue)]
      exact .expired stored overdue
    · rw [Call.bind_of_ok (maybeAutoClose_running overdue)]
      exact .idle

theorem castVote_state :
    Casting db (fun after => ∃ (poll : Poll) (owned : OwnedUnit), pollId = poll.id ∧ db.ownership? now user.id dto.unitId = some owned.ownership ∧
        db.unit? dto.unitId = some owned.unit ∧ Accepts now db poll owned.unit dto ∧
        after = db.storeVote (ballotRow now user poll owned.ownership dto ⟨false, none, none, owned.ownership.userId⟩))
      (castVote now user pollId dto db).2 := by
  unfold castVote
  rcases ofResult_bind_state db _ _ with refused | ⟨_, -, runs⟩
  · rw [refused]
    exact .idle
  rw [runs]
  rcases look_bind_state db _ _ with refused | ⟨poll, found, runs⟩
  · rw [refused]
    exact .idle
  rw [runs]
  obtain ⟨rfl, stored⟩ := poll_looked found
  refine cast_of_open stored fun voting option => ?_
  rcases look_bind_state db _ _ with refused | ⟨owned, owns, runs⟩
  · exact .inl refused
  rw [runs]
  rcases ofResult_bind_state db _ _ with refused | ⟨_, fits, runs⟩
  · exact .inl refused
  rw [runs]
  rcases recordVote_state db with refused | ⟨fresh, ballot⟩
  · exact .inl refused
  obtain ⟨owns, of⟩ := ownedUnit_ok.mp owns
  rw [(ownership_found owns).2.2.1] at of
  obtain ⟨sameCondo, audience⟩ := assertUnit_ok.mp fits
  exact .inr ⟨poll, owned, rfl, owns, of, ⟨stored, voting, option, sameCondo, audience, fresh⟩, ballot⟩

theorem votablePoll_ok : votablePoll resolutionId db = .ok (item, poll) ↔
    db.meetingItem resolutionId = .ok item ∧ db.linkedPoll? item.resolution = some poll ∧ poll.status = .opened ∧
      (item.meeting.status = .inProgress ∨ item.meeting.status = .noticePublished) := by
  simp only [votablePoll, bind_eq_ok, orThrow_eq_ok, throwIf_eq_ok, pure_eq_ok, not_not, exists_const, Prod.mk.injEq]
  constructor
  · rintro ⟨_, found, _, linked, opened, meeting, rfl, rfl⟩
    exact ⟨found, linked, opened, by tauto⟩
  · rintro ⟨found, linked, opened, meeting⟩
    exact ⟨item, found, poll, linked, opened, by tauto, rfl, rfl⟩

theorem linked_found {resolution : MeetingResolution} (linked : db.linkedPoll? resolution = some poll) :
    resolution.pollId = some poll.id ∧ db.poll? poll.id = some poll := by
  obtain ⟨pollId, link, found⟩ := Option.bind_eq_some_iff.mp linked
  obtain rfl := poll_found found
  exact ⟨link, found⟩

theorem castResolutionVote_state {env : GovernanceEnv} :
    Casting db (fun after => ∃ item poll owned stamp, Entitled env now db user resolutionId dto item poll owned stamp ∧
        Accepts now db poll owned.unit dto ∧
        after = db.storeVote (ballotRow now user poll owned.ownership dto stamp))
      (castResolutionVote env now user resolutionId dto db).2 := by
  unfold castResolutionVote
  rcases look_bind_state db (votablePoll resolutionId) _ with refused | ⟨⟨item, poll⟩, votable, runs⟩
  · rw [refused]
    exact .idle
  rw [runs]
  rcases look_bind_state db (ballotRight env now user item.meeting dto.unitId) _ with
    refused | ⟨⟨owned, stamp⟩, right, runs⟩
  · rw [refused]
    exact .idle
  rw [runs]
  have found := (linked_found (votablePoll_ok.mp votable).2.1).2
  exact (cast_owned now user dto found).imp fun _ ballot => ⟨item, poll, owned, stamp, ⟨votable, right⟩, ballot⟩

/-! ## The effect of an event -/

variable {event : GovernanceEvent}

theorem effect_of_cast {env : GovernanceEnv} (casting : Casting db stores after)
    (ballot : ∀ after, stores after → Effect env db event after) : Effect env db event after := by
  cases casting with
  | idle => exact .idle
  | expired found overdue => exact .expired found overdue
  | stored stores => exact ballot _ stores

theorem effect_of_commit {env : GovernanceEnv} (allowed : ∀ after, change db = .ok after → Effect env db event after) :
    Effect env db event (commit change db).2 := by
  rcases commit_cases db change with same | done
  · rw [same]
    exact .idle
  · exact allowed _ done

end

section

variable {env : GovernanceEnv} {db after : GovernanceDb} {now : Instant} {user : Voter}

variable {id : Id}

theorem updatePoll_effect {dto : UpdatePollDto} (done : updatePoll now user id dto db = .ok after) :
    Effect env db (.updatePoll now user id dto) after := by
  simp only [updatePoll, bind_eq_ok, orThrow_eq_ok, throwIf_eq_ok, pure_eq_ok] at done
  obtain ⟨existing, found, _, manages, -, edits, -, final, _, valid, -, -, rfl⟩ := done
  refine .pollUpdated found ⟨assertManagement_ok.mp manages, fun sent => ?_, fun closed => ?_, valid⟩
  · by_contra other
    exact edits ⟨fun draft => other (effective_draft.mp draft), sent⟩
  · by_contra other
    exact final ⟨closed, other⟩

theorem updateMeeting_effect {dto : UpdateGeneralMeetingDto} (done : updateMeeting user id dto db = .ok after) :
    Effect env db (.updateMeeting user id dto) after := by
  simp only [updateMeeting, bind_eq_ok, orThrow_eq_ok, throwIf_eq_ok, pure_eq_ok] at done
  obtain ⟨existing, found, _, manages, -, final, -, notice, -, unpublished, -, announced, -, quorum, rfl⟩ := done
  refine .meetingUpdated found ⟨assertManagement_ok.mp manages, fun closed => ?_, fun sent => ?_, fun sent => ?_,
    fun sent draft => announced ⟨sent, draft⟩, fun sent => ?_⟩
  · by_contra other
    exact final ⟨closed, other⟩
  · by_contra other
    exact notice ⟨other, sent⟩
  · by_contra other
    exact unpublished ⟨Option.isSome_iff_ne_none.mpr other, sent⟩
  · by_contra other
    rw [not_or] at other
    exact quorum ⟨sent, other.1, other.2⟩

theorem publishNotice_effect {ledger : Db} (done : publishNotice now ledger user id db = .ok after) :
    Effect env db (.publishNotice now ledger user id) after := by
  simp only [publishNotice, bind_eq_ok, orThrow_eq_ok, throwIf_eq_ok, pure_eq_ok, not_not] at done
  obtain ⟨existing, found, -, -, -, draft, -, written, rfl⟩ := done
  exact .noticePublished found draft written

theorem publishMinutes_effect {minutesBody : Option String}
    (done : publishMinutes now user id minutesBody db = .ok after) :
    Effect env db (.publishMinutes now user id minutesBody) after := by
  simp only [publishMinutes, bind_eq_ok, orThrow_eq_ok, throwIf_eq_ok, pure_eq_ok] at done
  obtain ⟨existing, found, _, manages, -, held, -, decided, -, written, rfl⟩ := done
  obtain ⟨-, rfl⟩ := mem_of_findBy found
  refine .minutesPublished found ⟨assertManagement_ok.mp manages, ?_, ?_, written⟩
  · by_contra other
    rw [not_or] at other
    exact held other
  · simpa only [Bool.not_eq_true] using decided

variable {meetingId : Id}

theorem addResolution_effect {dto : CreateMeetingResolutionDto} (done : addResolution user meetingId dto db = .ok after) :
    Effect env db (.addResolution user meetingId dto) after := by
  simp only [addResolution, bind_eq_ok, orThrow_eq_ok, pure_eq_ok] at done
  obtain ⟨meeting, found, -, -, -, -, rfl⟩ := done
  exact .resolutionAdded found

variable {resolutionId : Id}

theorem updateResolution_effect {dto : UpdateMeetingResolutionDto}
    (done : updateResolution user resolutionId dto db = .ok after) :
    Effect env db (.updateResolution user resolutionId dto) after := by
  simp only [updateResolution, bind_eq_ok, pure_eq_ok] at done
  obtain ⟨item, found, -, -, -, -, rfl⟩ := done
  exact .resolutionUpdated found

theorem openResolutionVoting_effect {dto : OpenResolutionVotingDto}
    (done : openResolutionVoting now user resolutionId dto db = .ok after) :
    Effect env db (.openResolutionVoting now user resolutionId dto) after := by
  simp only [openResolutionVoting, bind_eq_ok, throwIf_eq_ok, pure_eq_ok] at done
  obtain ⟨item, found, -, -, -, unlinked, -, announced, -, -, rfl⟩ := done
  refine .votingOpened found (Option.not_isSome_iff_eq_none.mp unlinked) ?_
  by_contra other
  rw [not_or] at other
  exact announced other

theorem closeResolutionVoting_effect (done : closeResolutionVoting now user resolutionId db = .ok after) :
    Effect env db (.closeResolutionVoting now user resolutionId) after := by
  simp only [closeResolutionVoting, bind_eq_ok, orThrow_eq_ok, throwIf_eq_ok, pure_eq_ok] at done
  obtain ⟨item, found, -, -, poll, linked, -, running, rfl⟩ := done
  exact .votingClosed found linked running

theorem submitProxy_effect {dto : SubmitMeetingProxyDto} (done : submitProxy env now user meetingId dto db = .ok after) :
    Effect env db (.submitProxy now user meetingId dto) after := by
  simp only [submitProxy, insertProxy, bind_eq_ok, orThrow_eq_ok, throwIf_eq_ok, pure_eq_ok, not_not] at done
  obtain ⟨-, -, meeting, found, -, -, owned, owns, -, sameCondo, holder, -, -, first, rfl⟩ := done
  obtain ⟨owns, of⟩ := ownedUnit_ok.mp owns
  rw [(ownership_found owns).2.2.1] at of
  exact .proxySubmitted found owns of sameCondo (Option.not_isSome_iff_eq_none.mp first)

end

theorem effect_of_event (env : GovernanceEnv) (db : GovernanceDb) (event : GovernanceEvent) :
    Effect env db event (db.next env event) := by
  cases event with
  | createPoll user dto =>
    refine effect_of_commit fun after done => ?_
    simp only [createPoll, bind_eq_ok, pure_eq_ok] at done
    obtain ⟨-, -, -, -, -, -, rfl⟩ := done
    exact .pollCreated
  | updatePoll now user pollId dto => exact effect_of_commit fun after done => updatePoll_effect done
  | showPoll now pollId => exact effect_of_cast showPoll_state fun after never => never.elim
  | closeExpiredPolls now => exact .swept
  | castVote now user pollId dto =>
    refine effect_of_cast castVote_state fun after ballot => ?_
    obtain ⟨poll, owned, rfl, owns, of, accepted, rfl⟩ := ballot
    exact .voted owns of accepted
  | createMeeting user dto =>
    refine effect_of_commit fun after done => ?_
    simp only [createMeeting, bind_eq_ok, pure_eq_ok] at done
    obtain ⟨-, -, rfl⟩ := done
    exact .meetingCreated
  | updateMeeting user meetingId dto => exact effect_of_commit fun after done => updateMeeting_effect done
  | publishNotice now ledger user meetingId => exact effect_of_commit fun after done => publishNotice_effect done
  | publishMinutes now user meetingId minutesBody => exact effect_of_commit fun after done => publishMinutes_effect done
  | addResolution user meetingId dto => exact effect_of_commit fun after done => addResolution_effect done
  | updateResolution user resolutionId dto => exact effect_of_commit fun after done => updateResolution_effect done
  | openResolutionVoting now user resolutionId dto =>
    exact effect_of_commit fun after done => openResolutionVoting_effect done
  | closeResolutionVoting now user resolutionId => exact effect_of_commit fun after done => closeResolutionVoting_effect done
  | castResolutionVote now user resolutionId dto =>
    refine effect_of_cast castResolutionVote_state fun after ballot => ?_
    obtain ⟨item, poll, owned, stamp, entitled, accepted, rfl⟩ := ballot
    exact .resolved entitled accepted
  | submitProxy now user meetingId dto => exact effect_of_commit fun after done => submitProxy_effect done
  | register users ownerships => exact .registered
  | addUnit condoId blockId identifier => exact .unitAdded

theorem effect_of_step {env : GovernanceEnv} {before after : GovernanceDb} {event : GovernanceEvent}
    (step : Step env before event after) : Effect env before event after := by
  obtain rfl := step
  exact effect_of_event env before event

end SmartResidence.Governance
