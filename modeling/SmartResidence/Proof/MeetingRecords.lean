import SmartResidence.Proof.GovernanceRows

/-!
# What is published of a meeting stays

The general update can take a meeting back, and can announce it without a notice.
-/

namespace SmartResidence.Governance

open Foundation Billing Settings List

def GeneralMeetingStatus.rank : GeneralMeetingStatus → Nat
  | .draft => 0
  | .noticePublished => 1
  | .inProgress => 2
  | .closed => 3

def OpenedFor (db : GovernanceDb) (meetingId : Id) : Prop :=
  ∃ resolution ∈ db.resolutions, resolution.meetingId = meetingId ∧ resolution.pollId ≠ none

structure Frozen (opened : Prop) (before after : GeneralMeeting) : Prop where
  forward : before.status.rank ≤ after.status.rank
  notice : before.status ≠ .draft →
    after.noticeBody = before.noticeBody ∧ after.financialSnapshot = before.financialSnapshot
  quorum : opened → after.quorumPercent = before.quorumPercent
  minutes : before.minutesPublishedAt ≠ none →
    after.minutesPublishedAt ≠ none ∧ after.minutesBody = before.minutesBody

structure Written (meeting : GeneralMeeting) : Prop where
  notice : meeting.status ≠ .draft → trimText meeting.noticeBody ≠ ""
  minutes : meeting.minutesPublishedAt ≠ none → trimText meeting.minutesBody ≠ ""

structure MeetingsFrozen (start finish : GovernanceDb) : Prop where
  frozen : ∀ meeting ∈ start.meetings, ∃ later ∈ finish.meetings, later.id = meeting.id ∧
    Frozen (OpenedFor start meeting.id) meeting later
  written : ∀ meeting ∈ finish.meetings, Written meeting

def noticeAfter (dto : UpdateGeneralMeetingDto) (existing : GeneralMeeting) : String :=
  (dto.noticeBody.join.map trimText).getD existing.noticeBody

/-- An update does not take the meeting back and leaves no draft without a notice; minutes are not published anew. -/
def InOrder (db : GovernanceDb) : GovernanceEvent → Prop
  | .updateMeeting user id dto => ∀ existing, db.meeting? id = some existing → AllowsMeetingUpdate user dto existing →
      ∀ status, dto.status = some status → existing.status.rank ≤ status.rank ∧
        (existing.status = .draft → status ≠ .draft → trimText (noticeAfter dto existing) ≠ "")
  | .publishMinutes _ user id minutesBody => ∀ existing, db.meeting? id = some existing →
      AllowsMinutes db user minutesBody existing → existing.minutesPublishedAt ≠ none →
      minutesToPublish minutesBody existing = existing.minutesBody
  | _ => True

section

variable {opened later : Prop} {before middle after : GeneralMeeting}

theorem rank_eq_zero {status : GeneralMeetingStatus} : status.rank = 0 ↔ status = .draft := by
  cases status <;> simp [GeneralMeetingStatus.rank]

theorem Frozen.refl : Frozen opened before before := ⟨le_refl _, fun _ => ⟨rfl, rfl⟩, fun _ => rfl, fun set => ⟨set, rfl⟩⟩

theorem Frozen.trans (first : Frozen opened before middle) (second : Frozen later middle after) (lasts : opened → later) :
    Frozen opened before after where
  forward := first.forward.trans second.forward
  notice := by
    intro announced
    have still : middle.status ≠ .draft := by
      rw [Ne, ← rank_eq_zero] at announced ⊢
      have forward := first.forward
      omega
    obtain ⟨notice, snapshot⟩ := first.notice announced
    obtain ⟨noticeLater, snapshotLater⟩ := second.notice still
    exact ⟨noticeLater.trans notice, snapshotLater.trans snapshot⟩
  quorum := fun open' => (second.quorum (lasts open')).trans (first.quorum open')
  minutes := by
    intro published
    obtain ⟨still, body⟩ := first.minutes published
    obtain ⟨kept, bodyLater⟩ := second.minutes still
    exact ⟨kept, bodyLater.trans body⟩

variable {user : Voter} {dto : UpdateGeneralMeetingDto}

theorem frozen_update (allowed : AllowsMeetingUpdate user dto before)
    (forward : ∀ status, dto.status = some status → before.status.rank ≤ status.rank)
    (voting : opened → 2 ≤ before.status.rank) : Frozen opened before (before.update dto) where
  forward := by
    unfold GeneralMeeting.update
    cases sent : dto.status with
    | none => exact le_refl _
    | some status => exact forward status sent
  notice := by
    intro announced
    unfold GeneralMeeting.update
    cases sent : dto.noticeBody with
    | none => exact ⟨rfl, rfl⟩
    | some body => exact absurd (allowed.notice (by rw [sent]; rfl)) announced
  quorum := by
    intro open'
    unfold GeneralMeeting.update
    cases sent : dto.quorumPercent with
    | none => rfl
    | some quorum =>
      have low := voting open'
      rcases allowed.quorum (by rw [sent]; rfl) with draft | announced
      · simp [draft, GeneralMeetingStatus.rank] at low
      · simp [announced, GeneralMeetingStatus.rank] at low
  minutes := by
    intro published
    unfold GeneralMeeting.update
    cases sent : dto.minutesBody with
    | none => exact ⟨published, rfl⟩
    | some body => exact absurd (allowed.unpublished (by rw [sent]; rfl)) published

theorem written_update (allowed : AllowsMeetingUpdate user dto before) (written : Written before)
    (announces : ∀ status, dto.status = some status → before.status = .draft → status ≠ .draft →
      trimText (noticeAfter dto before) ≠ "") : Written (before.update dto) where
  notice := by
    intro announced
    show trimText (noticeAfter dto before) ≠ ""
    by_cases draft : before.status = .draft
    · cases sent : dto.status with
      | none => exact absurd (by simp [GeneralMeeting.update, sent, draft]) announced
      | some status => exact announces status sent draft (by simpa [GeneralMeeting.update, sent] using announced)
    · unfold noticeAfter
      cases sent : dto.noticeBody with
      | none => exact written.notice draft
      | some body => exact absurd (allowed.notice (by rw [sent]; rfl)) draft
  minutes := by
    intro published
    unfold GeneralMeeting.update
    cases sent : dto.minutesBody with
    | none => exact written.minutes published
    | some body => exact absurd (allowed.unpublished (by rw [sent]; rfl)) published

theorem frozen_publishNotice {snapshot : MeetingFinancialSnapshot} (draft : before.status = .draft) :
    Frozen opened before (before.publishNotice snapshot) :=
  ⟨by simp [draft, GeneralMeetingStatus.rank], fun announced => absurd draft announced, fun _ => rfl, fun set => ⟨set, rfl⟩⟩

theorem frozen_publishMinutes {body : String} {now : Instant} (again : before.minutesPublishedAt ≠ none → body = before.minutesBody) :
    Frozen opened before (before.publishMinutes body now) :=
  ⟨le_refl _, fun _ => ⟨rfl, rfl⟩, fun _ => rfl, fun published => ⟨Option.some_ne_none now, again published⟩⟩

theorem frozen_start (announced : before.status = .noticePublished) : Frozen opened before before.start :=
  ⟨by simp [GeneralMeeting.start, announced, GeneralMeetingStatus.rank], fun _ => ⟨rfl, rfl⟩, fun _ => rfl, fun set => ⟨set, rfl⟩⟩

end

structure Standing (db : GovernanceDb) : Prop where
  written : ∀ meeting ∈ db.meetings, Written meeting
  voting : ∀ meeting ∈ db.meetings, OpenedFor db meeting.id → 2 ≤ meeting.status.rank

structure Moved (before after : GovernanceDb) : Prop where
  opened : ∀ meetingId, OpenedFor before meetingId → OpenedFor after meetingId
  meetings : ∀ meeting ∈ before.meetings, ∃ later ∈ after.meetings, later.id = meeting.id ∧
    Frozen (OpenedFor before meeting.id) meeting later

section

variable {env : GovernanceEnv} {db after : GovernanceDb} {event : GovernanceEvent}

variable {meetingId : Id}

theorem OpenedFor.of_subset (opened : OpenedFor db meetingId) (kept : db.resolutions ⊆ after.resolutions) :
    OpenedFor after meetingId := by
  obtain ⟨resolution, mem, own, linked⟩ := opened
  exact ⟨resolution, kept mem, own, linked⟩

theorem openedFor_updateResolution {id : Id} {change : MeetingResolution → MeetingResolution}
    (meeting : ∀ resolution, (change resolution).meetingId = resolution.meetingId)
    (link : ∀ resolution, (change resolution).pollId = resolution.pollId) :
    OpenedFor (db.updateResolution id change) meetingId ↔ OpenedFor db meetingId := by
  have same (resolution : MeetingResolution) :
      (if resolution.id = id then change resolution else resolution).meetingId = resolution.meetingId ∧
        (if resolution.id = id then change resolution else resolution).pollId = resolution.pollId := by
    split
    · exact ⟨meeting resolution, link resolution⟩
    · exact ⟨rfl, rfl⟩
  constructor
  · rintro ⟨_, mem, own, linked⟩
    obtain ⟨resolution, stored, rfl⟩ := mem_updateBy.mp mem
    exact ⟨resolution, stored, (same resolution).1.symm.trans own, (same resolution).2 ▸ linked⟩
  · rintro ⟨resolution, stored, own, linked⟩
    refine ⟨_, mem_updateBy.mpr ⟨resolution, stored, rfl⟩, (same resolution).1.trans own, ?_⟩
    rw [(same resolution).2]
    exact linked

theorem Moved.still (meetings : after.meetings = db.meetings) (opened : ∀ id, OpenedFor db id ↔ OpenedFor after id)
    (standing : Standing db) : Standing after ∧ Moved db after := by
  refine ⟨⟨?_, ?_⟩, fun id => (opened id).mp, fun meeting mem => ?_⟩
  · rw [meetings]
    exact standing.written
  · rw [meetings]
    exact fun meeting mem later => standing.voting meeting mem ((opened meeting.id).mpr later)
  · rw [meetings]
    exact ⟨meeting, mem, rfl, .refl⟩

theorem Moved.unrelated (meetings : after.meetings = db.meetings) (resolutions : after.resolutions = db.resolutions)
    (standing : Standing db) : Standing after ∧ Moved db after := by
  refine Moved.still meetings (fun id => ?_) standing
  unfold OpenedFor
  rw [resolutions]

theorem OpenedFor.known (consistent : Consistent db) (opened : OpenedFor db meetingId) :
    meetingId ∈ db.meetings.map GeneralMeeting.id := by
  obtain ⟨resolution, mem, rfl, linked⟩ := opened
  obtain ⟨pollId, link⟩ := Option.ne_none_iff_exists'.mp linked
  obtain ⟨condoId, of, -⟩ := consistent.linked resolution mem pollId link
  obtain ⟨meeting, stored, same⟩ := mem_map.mp of
  exact mem_map.mpr ⟨meeting, stored, congrArg Prod.fst same⟩

theorem Moved.insertMeeting {row : Id → GeneralMeeting} (consistent : Consistent db) (named : ∀ id, (row id).id = id)
    (written : Written (row db.nextId)) (standing : Standing db) :
    Standing (db.insertMeeting row) ∧ Moved db (db.insertMeeting row) := by
  refine ⟨⟨fun meeting mem => ?_, fun meeting mem opened => ?_⟩, fun _ => id, fun meeting mem => ?_⟩
  · rcases mem_append.mp mem with old | new
    · exact standing.written meeting old
    · obtain rfl := mem_singleton.mp new
      exact written
  · rcases mem_append.mp mem with old | new
    · exact standing.voting meeting old opened
    · obtain rfl := mem_singleton.mp new
      rw [named] at opened
      exact absurd (OpenedFor.known consistent opened) consistent.meetingIds.fresh
  · exact ⟨meeting, mem_append_left _ mem, rfl, .refl⟩

theorem Moved.updateMeeting {existing : GeneralMeeting} {change : GeneralMeeting → GeneralMeeting} (consistent : Consistent db)
    (found : db.meeting? existing.id = some existing) (named : (change existing).id = existing.id)
    (frozen : Frozen (OpenedFor db existing.id) existing (change existing)) (written : Written (change existing))
    (standing : Standing db) :
    Standing (db.updateMeeting existing.id change) ∧ Moved db (db.updateMeeting existing.id change) := by
  obtain ⟨stored, -⟩ := mem_of_findBy found
  refine ⟨⟨fun meeting mem => ?_, fun meeting mem opened => ?_⟩, fun _ => id, fun meeting mem => ?_⟩
  · rcases changed_or_kept consistent.meetingIds.distinct stored mem with rfl | ⟨old, -⟩
    · exact written
    · exact standing.written meeting old
  · rcases changed_or_kept consistent.meetingIds.distinct stored mem with rfl | ⟨old, -⟩
    · rw [named] at opened
      exact (standing.voting existing stored opened).trans frozen.forward
    · exact standing.voting meeting old opened
  · by_cases same : meeting.id = existing.id
    · obtain rfl := eq_of_key_eq consistent.meetingIds.distinct mem stored same
      exact ⟨_, change_mem_updateBy mem, named, frozen⟩
    · exact ⟨meeting, mem_updateBy.mpr ⟨meeting, mem, (if_neg same).symm⟩, rfl, .refl⟩

variable {item : MeetingItem} {opensAt : Instant} {closesAt : Option Instant} {snapshot : EligibilitySnapshot}

theorem openedFor_openVoting (consistent : Consistent db)
    (known : db.resolution? item.resolution.id = some item.resolution)
    (opened : OpenedFor (db.openVoting item opensAt closesAt snapshot) meetingId) :
    OpenedFor db meetingId ∨ meetingId = item.resolution.meetingId := by
  obtain ⟨resolution, mem, rfl, linked⟩ := opened
  rw [resolutions_openVoting] at mem
  obtain ⟨stored, -⟩ := mem_of_findBy known
  rcases changed_or_kept consistent.resolutionIds.distinct stored mem with rfl | ⟨old, -⟩
  · exact .inr rfl
  · exact .inl ⟨resolution, old, rfl, linked⟩

def startIf (announced : Prop) [Decidable announced] (meeting : GeneralMeeting) : GeneralMeeting :=
  if announced then meeting.start else meeting

theorem meetings_openVoting : (db.openVoting item opensAt closesAt snapshot).meetings =
      (db.updateMeeting item.meeting.id (startIf (item.meeting.status = .noticePublished))).meetings := by
  unfold GovernanceDb.openVoting startIf
  split
  · rfl
  · show db.meetings = _
    simp [GovernanceDb.updateMeeting, updateBy, updateWhere]

theorem Moved.openVoting (consistent : Consistent db) (known : db.resolution? item.resolution.id = some item.resolution)
    (found : db.meeting? item.resolution.meetingId = some item.meeting)
    (announced : item.meeting.status = .noticePublished ∨ item.meeting.status = .inProgress) (standing : Standing db) :
    Standing (db.openVoting item opensAt closesAt snapshot) ∧ Moved db (db.openVoting item opensAt closesAt snapshot) := by
  obtain ⟨stored, own⟩ := mem_of_findBy found
  have written := standing.written item.meeting stored
  have started : (startIf (item.meeting.status = .noticePublished) item.meeting).status = .inProgress := by
    unfold startIf
    split
    · rfl
    · rename_i other
      exact announced.resolve_left other
  have named : (startIf (item.meeting.status = .noticePublished) item.meeting).id = item.meeting.id := by
    unfold startIf
    split
    · rfl
    · rfl
  have frozen : Frozen (OpenedFor db item.meeting.id) item.meeting
      (startIf (item.meeting.status = .noticePublished) item.meeting) := by
    unfold startIf
    split
    · rename_i notice
      exact frozen_start notice
    · exact .refl
  have draft : item.meeting.status ≠ .draft := by
    rintro same
    simp [same] at announced
  have still : Written (startIf (item.meeting.status = .noticePublished) item.meeting) := by
    unfold startIf
    split
    · exact ⟨fun _ => written.notice draft, written.minutes⟩
    · exact written
  obtain ⟨after, moved⟩ := Moved.updateMeeting consistent (own ▸ found) named frozen still standing
  refine ⟨⟨?_, fun meeting mem opened => ?_⟩, fun meetingId opened => ?_, ?_⟩
  · rw [meetings_openVoting]
    exact after.written
  · rw [meetings_openVoting] at mem
    rcases openedFor_openVoting consistent known opened with before | same
    · exact after.voting meeting mem before
    · rcases changed_or_kept consistent.meetingIds.distinct stored mem with rfl | ⟨-, other⟩
      · rw [started]
        exact le_refl 2
      · exact absurd (same.trans own.symm) other
  · obtain ⟨resolution, listed, rfl, linked⟩ := opened
    refine ⟨if resolution.id = item.resolution.id then resolution.openVoting db.nextId opensAt closesAt snapshot else resolution,
      ?_, ?_, ?_⟩
    · unfold GovernanceDb.openVoting
      split
      · exact mem_updateBy.mpr ⟨resolution, listed, rfl⟩
      · exact mem_updateBy.mpr ⟨resolution, listed, rfl⟩
    · split
      · rfl
      · rfl
    · split
      · exact Option.some_ne_none _
      · exact linked
  · rw [meetings_openVoting]
    exact moved.meetings

theorem moved_step (consistent : Consistent db) (standing : Standing db) (effect : Effect env db event after)
    (ordered : InOrder db event) : Standing after ∧ Moved db after := by
  cases effect with
  | meetingCreated =>
    exact Moved.insertMeeting consistent (fun _ => rfl) ⟨fun draft => absurd rfl draft, fun none => absurd rfl none⟩ standing
  | meetingUpdated found allowed =>
    obtain ⟨stored, rfl⟩ := mem_of_findBy found
    have checked := ordered _ found allowed
    exact Moved.updateMeeting consistent found rfl
      (frozen_update allowed (fun status sent => (checked status sent).1) (standing.voting _ stored))
      (written_update allowed (standing.written _ stored) fun status sent => (checked status sent).2) standing
  | noticePublished found draft written =>
    obtain ⟨stored, rfl⟩ := mem_of_findBy found
    exact Moved.updateMeeting consistent found rfl (frozen_publishNotice draft)
      ⟨fun _ => written, (standing.written _ stored).minutes⟩ standing
  | minutesPublished found allowed =>
    obtain ⟨stored, rfl⟩ := mem_of_findBy found
    exact Moved.updateMeeting consistent found rfl (frozen_publishMinutes (ordered _ found allowed))
      ⟨(standing.written _ stored).notice, fun _ => allowed.written⟩ standing
  | resolutionAdded =>
    refine Moved.still rfl (fun id => ⟨fun opened => opened.of_subset (subset_append_left _ _), ?_⟩) standing
    rintro ⟨resolution, mem, own, linked⟩
    rcases mem_append.mp mem with old | new
    · exact ⟨resolution, old, own, linked⟩
    · obtain rfl := mem_singleton.mp new
      exact absurd rfl linked
  | @resolutionUpdated _ resolutionId dto _ _ =>
    have same (id : Id) : OpenedFor (db.updateResolution resolutionId fun resolution => resolution.update dto) id ↔
        OpenedFor db id := openedFor_updateResolution (fun _ => rfl) fun _ => rfl
    exact Moved.still rfl (fun id => (same id).symm) standing
  | votingOpened found unlinked announced =>
    obtain ⟨known, of⟩ := meetingItem_ok.mp found
    obtain ⟨-, rfl⟩ := mem_of_findBy known
    exact Moved.openVoting consistent known of announced standing
  | @votingClosed now _ resolutionId item poll _ _ _ =>
    have same (id : Id) : OpenedFor ((db.updatePoll poll.id Poll.close).updateResolution resolutionId
        (MeetingResolution.closeVoting (takeResults now item poll.id db) now)) id ↔ OpenedFor (db.updatePoll poll.id Poll.close) id :=
      openedFor_updateResolution (fun _ => rfl) fun _ => rfl
    exact Moved.still rfl (fun id => (same id).symm) standing
  | pollUpdated found allowed =>
    obtain ⟨meetings, resolutions, -⟩ := rewritePoll_rest
    exact Moved.unrelated meetings resolutions standing
  | _ => exact Moved.unrelated rfl rfl standing

end

section

variable {env : GovernanceEnv} {initial start finish : GovernanceDb} {early late : List GovernanceEvent}

theorem GovernanceDb.Initial.standing (first : initial.Initial) : Standing initial := by
  constructor
  · rw [first.noMeetings]
    exact fun _ none => nomatch none
  · rw [first.noMeetings]
    exact fun _ none => nomatch none

theorem moved_run (consistent : Consistent start) (standing : Standing start)
    (run : Run (Guarded InOrder (Step env)) start late finish) :
    Consistent finish ∧ Standing finish ∧ Moved start finish := by
  induction run with
  | done => exact ⟨consistent, standing, fun _ => id, fun meeting mem => ⟨meeting, mem, rfl, .refl⟩⟩
  | snoc _ move ih =>
    obtain ⟨earlier, stood, moved⟩ := ih
    have effect := effect_of_step move.2
    obtain ⟨stands, step⟩ := moved_step earlier stood effect move.1
    refine ⟨consistent_step earlier effect, stands, fun id opened => step.opened id (moved.opened id opened), ?_⟩
    intro meeting mem
    obtain ⟨middle, listed, own, frozen⟩ := moved.meetings meeting mem
    obtain ⟨last, kept, same, further⟩ := step.meetings middle listed
    exact ⟨last, kept, same.trans own, frozen.trans further fun opened => own ▸ moved.opened _ opened⟩

/-- In runs whose updates and publications are in order, what is published stays. -/
theorem meetings_frozen (first : initial.Initial) (reached : Run (Guarded InOrder (Step env)) initial early start)
    (run : Run (Guarded InOrder (Step env)) start late finish) : MeetingsFrozen start finish := by
  obtain ⟨consistent, standing, -⟩ := moved_run first.consistent first.standing reached
  obtain ⟨-, stands, moved⟩ := moved_run consistent standing run
  exact ⟨moved.meetings, stands.written⟩

end

namespace Sample

def notice : CreateGeneralMeetingDto := ⟨1, .annual, "Meeting", 10, some "All owners", none⟩

def unsent : UpdateGeneralMeetingDto := ⟨none, none, none, none, none, none, none⟩

def announced : List GovernanceEvent := [.createMeeting manager notice, .updateMeeting manager 2 { unsent with status := some .noticePublished }]

def retracted : List GovernanceEvent := [.updateMeeting manager 2 { unsent with status := some .draft }]

def convened : List GovernanceEvent := [.addResolution manager 2 ⟨"Budget", none, none⟩, .openResolutionVoting 5 manager 3 ⟨none, none⟩]

end Sample

theorem meeting_retracted : ∃ early late start finish, Sample.condo.Initial ∧
    Run (Step Sample.plainEnv) Sample.condo early start ∧ Run (Step Sample.plainEnv) start late finish ∧
    ¬ MeetingsFrozen start finish := by
  have before : (Sample.after Sample.announced).meetings.map GeneralMeeting.status = [.noticePublished] := by decide +kernel
  have later : (Sample.retracted.foldl (fun db event => db.next Sample.plainEnv event)
      (Sample.after Sample.announced)).meetings.map GeneralMeeting.status = [.draft] := by decide +kernel
  refine ⟨_, _, _, _, Sample.condo_initial, Sample.after_reached Sample.announced, .of_foldl _ Sample.retracted, fun kept => ?_⟩
  obtain ⟨meeting, only, announced⟩ := List.map_eq_singleton_iff.mp before
  obtain ⟨last, listed, -, frozen⟩ := kept.frozen meeting (by rw [only]; exact List.mem_singleton_self meeting)
  have draft : last.status ∈ _ := List.mem_map_of_mem listed
  rw [later, List.mem_singleton] at draft
  have forward := frozen.forward
  rw [announced, draft] at forward
  exact absurd forward (by decide)

theorem meetings_frozen_convened : ∃ start finish, start.meetings.map GeneralMeeting.status = [.noticePublished] ∧
    finish.meetings.map GeneralMeeting.status = [.inProgress] ∧ MeetingsFrozen start finish := by
  have before : (Sample.after Sample.announced).meetings.map GeneralMeeting.status = [.noticePublished] := by decide +kernel
  have later : (Sample.convened.foldl (fun db event => db.next Sample.plainEnv event)
      (Sample.after Sample.announced)).meetings.map GeneralMeeting.status = [.inProgress] := by decide +kernel
  have drafted : (Sample.after [.createMeeting Sample.manager Sample.notice]).meeting? 2 = some (Sample.notice.row 2) := by
    decide +kernel
  have written : trimText (noticeAfter { Sample.unsent with status := some .noticePublished } (Sample.notice.row 2)) ≠ "" := by
    decide +kernel
  have ordered : Run.Meets InOrder (fun before event => before.next Sample.plainEnv event) Sample.condo Sample.announced := by
    refine ⟨trivial, ?_, trivial⟩
    intro existing found _ status sent
    obtain rfl := Option.some.inj (drafted.symm.trans found)
    obtain rfl := Option.some.inj sent
    exact ⟨by decide, fun _ _ => written⟩
  have reached : Run (Guarded InOrder (Step Sample.plainEnv)) Sample.condo Sample.announced (Sample.after Sample.announced) :=
    .guarded_of_foldl ordered
  have run : Run (Guarded InOrder (Step Sample.plainEnv)) (Sample.after Sample.announced) Sample.convened _ :=
    .guarded_of_foldl ⟨trivial, trivial, trivial⟩
  exact ⟨_, _, before, later, meetings_frozen Sample.condo_initial reached run⟩

end SmartResidence.Governance
