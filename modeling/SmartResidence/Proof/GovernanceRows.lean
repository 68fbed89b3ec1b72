import SmartResidence.Proof.GovernanceEffects

/-!
# The rows of polls and meetings refer to rows that exist
-/

namespace SmartResidence.Governance

open Foundation Billing List

section

variable (db : GovernanceDb)

def GovernanceDb.unitCondos : List (Id × Id) := db.units.map fun unit => (unit.id, unit.condoId)
def GovernanceDb.pollCondos : List (Id × Id) := db.polls.map fun poll => (poll.id, poll.condoId)
def GovernanceDb.meetingCondos : List (Id × Id) := db.meetings.map fun meeting => (meeting.id, meeting.condoId)

structure Consistent : Prop where
  unitIds : Allocated (db.units.map GovernanceUnit.id) db.nextId
  pollIds : Allocated (db.polls.map Poll.id) db.nextId
  optionIds : Allocated (db.options.map PollOption.id) db.nextId
  meetingIds : Allocated (db.meetings.map GeneralMeeting.id) db.nextId
  resolutionIds : Allocated (db.resolutions.map MeetingResolution.id) db.nextId
  oneBallot : (db.votes.map fun vote => (vote.pollId, vote.unitId)).Nodup
  oneProxy : (db.proxies.map fun proxy => (proxy.meetingId, proxy.unitId)).Nodup
  chosen : ∀ vote ∈ db.votes, ∃ option ∈ db.options, option.id = vote.optionId ∧ option.pollId = vote.pollId
  offered : ∀ option ∈ db.options, option.pollId ∈ db.polls.map Poll.id
  votable : ∀ pollId ∈ db.polls.map Poll.id, ∃ option ∈ db.options, option.pollId = pollId
  linked : ∀ resolution ∈ db.resolutions, ∀ pollId, resolution.pollId = some pollId →
    ∃ condoId, (resolution.meetingId, condoId) ∈ db.meetingCondos ∧ (pollId, condoId) ∈ db.pollCondos
  proxied : ∀ proxy ∈ db.proxies, ∃ condoId, (proxy.unitId, condoId) ∈ db.unitCondos ∧
    (proxy.meetingId, condoId) ∈ db.meetingCondos

end

section

variable {db : GovernanceDb}

theorem GovernanceDb.Initial.consistent (initial : db.Initial) : Consistent db where
  unitIds := initial.units
  pollIds := by rw [initial.noPolls]; exact .nil
  optionIds := by rw [initial.noOptions]; exact .nil
  meetingIds := by rw [initial.noMeetings]; exact .nil
  resolutionIds := by rw [initial.noResolutions]; exact .nil
  oneBallot := by rw [initial.noVotes]; exact nodup_nil
  oneProxy := by rw [initial.noProxies]; exact nodup_nil
  chosen := by simp [initial.noVotes]
  offered := by simp [initial.noOptions]
  votable := by simp [initial.noPolls]
  linked := by simp [initial.noResolutions]
  proxied := by simp [initial.noProxies]

variable {pollId first : Id} {options : List PollOptionInput}

theorem optionRows_ids : (optionRows pollId first options).map PollOption.id = List.range' first options.length := by
  exact map_mapIdx_range PollOption.id _ (fun _ _ => rfl) _

variable {option : PollOption}

theorem optionRows_poll (mem : option ∈ optionRows pollId first options) : option.pollId = pollId := by
  obtain ⟨_, _, rfl⟩ := mem_mapIdx.mp mem
  rfl

theorem exists_optionRow (some : options ≠ []) :
    ∃ option ∈ optionRows pollId first options, option.pollId = pollId := by
  cases options with
  | nil => exact absurd rfl some
  | cons option options =>
    unfold optionRows
    rw [mapIdx_cons]
    exact ⟨_, mem_cons_self, rfl⟩

theorem PollOptionInputs.nonempty (sent : PollOptionInputs) : sent.options ≠ [] := by
  intro none
  have size := sent.arrayMinSize
  rw [none] at size
  simp at size

theorem mem_optionsOf : option ∈ db.optionsOf pollId ↔ option ∈ db.options ∧ option.pollId = pollId := by
  unfold GovernanceDb.optionsOf
  simp

theorem mem_votesOf {vote : PollVote} : vote ∈ db.votesOf pollId ↔ vote ∈ db.votes ∧ vote.pollId = pollId := by
  unfold GovernanceDb.votesOf
  simp

variable {id : Id}

theorem meetingCondo {meeting : GeneralMeeting} (found : db.meeting? id = some meeting) :
    (id, meeting.condoId) ∈ db.meetingCondos := by
  obtain ⟨stored, rfl⟩ := mem_of_findBy found
  exact mem_map_of_mem stored

theorem unitCondo {unit : GovernanceUnit} (found : db.unit? id = some unit) : (id, unit.condoId) ∈ db.unitCondos := by
  obtain ⟨stored, rfl⟩ := mem_of_findBy found
  exact mem_map_of_mem stored

theorem rewritePoll_rest {now : Instant} {existing : Poll} {dto : UpdatePollDto} :
    (db.rewritePoll now existing dto).meetings = db.meetings ∧ (db.rewritePoll now existing dto).resolutions = db.resolutions ∧
      (db.rewritePoll now existing dto).proxies = db.proxies := by
  unfold GovernanceDb.rewritePoll
  cases dto.options with
  | none => exact ⟨rfl, rfl, rfl⟩
  | some sent =>
    split
    · exact ⟨rfl, rfl, rfl⟩
    · exact ⟨rfl, rfl, rfl⟩

theorem resolutions_openVoting {item : MeetingItem} {opensAt : Instant} {closesAt : Option Instant}
    {snapshot : EligibilitySnapshot} : (db.openVoting item opensAt closesAt snapshot).resolutions =
      updateBy MeetingResolution.id item.resolution.id
        (MeetingResolution.openVoting db.nextId opensAt closesAt snapshot) db.resolutions := by
  unfold GovernanceDb.openVoting
  split
  · rfl
  · rfl

namespace Consistent

variable (consistent : Consistent db)

include consistent

variable {options : List PollOptionInput}

theorem insertPoll {row : Id → Poll} (named : ∀ id, (row id).id = id) (some : options ≠ []) :
    Consistent (db.insertPoll row options) := by
  have grows : db.nextId < db.nextId + 1 + options.length := by omega
  have later := grows.le
  have condos : (db.insertPoll row options).pollCondos = db.pollCondos ++ [((row db.nextId).id, (row db.nextId).condoId)] :=
    map_append
  refine { consistent with
    unitIds := consistent.unitIds.mono later
    pollIds := consistent.pollIds.insert (named _) grows
    optionIds := ?_, meetingIds := consistent.meetingIds.mono later, resolutionIds := consistent.resolutionIds.mono later
    chosen := fun vote mem => ?_, offered := fun option mem => ?_, votable := fun pollId mem => ?_
    linked := fun resolution mem pollId link => ?_ }
  · show Allocated ((db.options ++ optionRows db.nextId (db.nextId + 1) options).map PollOption.id) _
    rw [map_append, optionRows_ids]
    exact consistent.optionIds.extend _
  · obtain ⟨option, stored, own⟩ := consistent.chosen vote mem
    exact ⟨option, mem_append_left _ stored, own⟩
  · show option.pollId ∈ (db.polls ++ [row db.nextId]).map Poll.id
    rw [map_append, mem_append, map_singleton, named]
    rcases mem_append.mp mem with stored | new
    · exact .inl (consistent.offered option stored)
    · exact .inr (mem_singleton.mpr (optionRows_poll new))
  · have ids : (db.insertPoll row options).polls.map Poll.id = db.polls.map Poll.id ++ [(row db.nextId).id] := map_append
    rw [ids, named] at mem
    rcases mem_append.mp mem with old | new
    · obtain ⟨option, stored, own⟩ := consistent.votable pollId old
      exact ⟨option, mem_append_left _ stored, own⟩
    · obtain rfl := mem_singleton.mp new
      obtain ⟨option, made, own⟩ := exists_optionRow some
      exact ⟨option, mem_append_right _ made, own⟩
  · obtain ⟨condoId, meeting, poll⟩ := consistent.linked resolution mem pollId link
    exact ⟨condoId, meeting, condos ▸ mem_append_left _ poll⟩

variable {pollId : Id}

theorem replaceOptions (stored : pollId ∈ db.polls.map Poll.id) (some : options ≠ []) :
    Consistent (db.replaceOptions pollId options) := by
  have later : db.nextId ≤ db.nextId + options.length := by omega
  refine { consistent with
    unitIds := consistent.unitIds.mono later, pollIds := consistent.pollIds.mono later, optionIds := ?_
    meetingIds := consistent.meetingIds.mono later, resolutionIds := consistent.resolutionIds.mono later
    oneBallot := ?_, chosen := fun vote mem => ?_, offered := fun option mem => ?_
    votable := fun other mem => ?_ }
  · show Allocated ((_ ++ optionRows pollId db.nextId options).map PollOption.id) _
    rw [map_append, optionRows_ids]
    exact (consistent.optionIds.sublist (filter_sublist.map _)).append_range _
  · exact consistent.oneBallot.sublist (filter_sublist.map _)
  · obtain ⟨kept, left⟩ := mem_filter.mp mem
    obtain ⟨option, listed, own, same⟩ := consistent.chosen vote kept
    refine ⟨option, mem_append_left _ (mem_filter.mpr ⟨listed, decide_eq_true fun replaced => ?_⟩), own, same⟩
    exact of_decide_eq_true left (own ▸ mem_map_of_mem (mem_optionsOf.mpr ⟨listed, replaced⟩))
  · rcases mem_append.mp mem with kept | new
    · exact consistent.offered option (mem_filter.mp kept).1
    · exact optionRows_poll new ▸ stored
  · by_cases same : other = pollId
    · obtain rfl := same
      obtain ⟨option, made, own⟩ := exists_optionRow some
      exact ⟨option, mem_append_right _ made, own⟩
    · obtain ⟨option, listed, own⟩ := consistent.votable other mem
      have kept : option.pollId ≠ pollId := own ▸ same
      exact ⟨option, mem_append_left _ (mem_filter.mpr ⟨listed, decide_eq_true kept⟩), own⟩

variable {id : Id}

theorem updatePoll {change : Poll → Poll} (named : ∀ poll, (change poll).id = poll.id)
    (condo : ∀ poll, (change poll).condoId = poll.condoId) : Consistent (db.updatePoll id change) := by
  have ids : (db.updatePoll id change).polls.map Poll.id = db.polls.map Poll.id := map_key_updateBy named
  have condos : (db.updatePoll id change).pollCondos = db.pollCondos :=
    map_updateWhere _ fun poll _ _ => by rw [named, condo]
  refine { consistent with
    pollIds := ids ▸ consistent.pollIds, offered := fun option mem => ids ▸ consistent.offered option mem
    votable := fun pollId mem => consistent.votable pollId (ids ▸ mem)
    linked := fun resolution mem pollId link => ?_ }
  rw [condos]
  exact consistent.linked resolution mem pollId link

variable {now : Instant}

theorem closeExpiredPolls : Consistent (closeExpiredPolls now db) := by
  have ids : (Governance.closeExpiredPolls now db).polls.map Poll.id = db.polls.map Poll.id :=
    map_updateWhere _ fun _ _ _ => rfl
  have condos : (Governance.closeExpiredPolls now db).pollCondos = db.pollCondos := map_updateWhere _ fun _ _ _ => rfl
  refine { consistent with
    pollIds := ids ▸ consistent.pollIds, offered := fun option mem => ids ▸ consistent.offered option mem
    votable := fun pollId mem => consistent.votable pollId (ids ▸ mem)
    linked := fun resolution mem pollId link => ?_ }
  rw [condos]
  exact consistent.linked resolution mem pollId link

theorem storeVote {row : Id → PollVote} (fresh : db.voted (row db.nextId).pollId (row db.nextId).unitId = false)
    (option : (row db.nextId).optionId ∈ (db.optionsOf (row db.nextId).pollId).map PollOption.id) :
    Consistent (db.storeVote row) := by
  have later : db.nextId ≤ db.nextId + 1 := by omega
  refine { consistent with
    unitIds := consistent.unitIds.mono later, pollIds := consistent.pollIds.mono later
    optionIds := consistent.optionIds.mono later, meetingIds := consistent.meetingIds.mono later
    resolutionIds := consistent.resolutionIds.mono later, oneBallot := ?_, chosen := fun vote mem => ?_ }
  · show ((db.votes ++ [row db.nextId]).map _).Nodup
    rw [map_append, nodup_append]
    refine ⟨consistent.oneBallot, by simp, fun key stored other new same => ?_⟩
    obtain ⟨vote, mem, rfl⟩ := mem_map.mp stored
    rw [map_singleton, mem_singleton] at new
    unfold GovernanceDb.voted at fresh
    rw [any_eq_false] at fresh
    have other := fresh vote mem
    rw [new, Prod.mk.injEq] at same
    exact other (decide_eq_true same)
  · rcases mem_append.mp mem with old | new
    · exact consistent.chosen vote old
    · obtain rfl := mem_singleton.mp new
      obtain ⟨option, offered, named⟩ := mem_map.mp option
      rw [mem_optionsOf] at offered
      exact ⟨option, offered.1, named, offered.2⟩

theorem insertMeeting {row : Id → GeneralMeeting} (named : ∀ id, (row id).id = id) : Consistent (db.insertMeeting row) := by
  have later : db.nextId ≤ db.nextId + 1 := by omega
  have condos : (db.insertMeeting row).meetingCondos = db.meetingCondos ++ [((row db.nextId).id, (row db.nextId).condoId)] :=
    map_append
  refine { consistent with
    unitIds := consistent.unitIds.mono later, pollIds := consistent.pollIds.mono later
    optionIds := consistent.optionIds.mono later
    meetingIds := consistent.meetingIds.insert (named _) (Nat.lt_succ_self _)
    resolutionIds := consistent.resolutionIds.mono later
    linked := fun resolution mem pollId link => ?_, proxied := fun proxy mem => ?_ }
  · obtain ⟨condoId, meeting, poll⟩ := consistent.linked resolution mem pollId link
    exact ⟨condoId, condos ▸ mem_append_left _ meeting, poll⟩
  · obtain ⟨condoId, unit, meeting⟩ := consistent.proxied proxy mem
    exact ⟨condoId, unit, condos ▸ mem_append_left _ meeting⟩

theorem updateMeeting {change : GeneralMeeting → GeneralMeeting} (named : ∀ meeting, (change meeting).id = meeting.id)
    (condo : ∀ meeting, (change meeting).condoId = meeting.condoId) : Consistent (db.updateMeeting id change) := by
  have ids : (db.updateMeeting id change).meetings.map GeneralMeeting.id = db.meetings.map GeneralMeeting.id :=
    map_key_updateBy named
  have condos : (db.updateMeeting id change).meetingCondos = db.meetingCondos :=
    map_updateWhere _ fun meeting _ _ => by rw [named, condo]
  refine { consistent with
    meetingIds := ids ▸ consistent.meetingIds, linked := fun resolution mem pollId link => ?_
    proxied := fun proxy mem => ?_ }
  · rw [condos]
    exact consistent.linked resolution mem pollId link
  · rw [condos]
    exact consistent.proxied proxy mem

theorem insertResolution {row : Id → MeetingResolution} (named : ∀ id, (row id).id = id)
    (unlinked : ∀ id, (row id).pollId = none) : Consistent (db.insertResolution row) := by
  have later : db.nextId ≤ db.nextId + 1 := by omega
  refine { consistent with
    unitIds := consistent.unitIds.mono later, pollIds := consistent.pollIds.mono later
    optionIds := consistent.optionIds.mono later, meetingIds := consistent.meetingIds.mono later
    resolutionIds := consistent.resolutionIds.insert (named _) (Nat.lt_succ_self _)
    linked := fun resolution mem pollId link => ?_ }
  rcases mem_append.mp mem with old | new
  · exact consistent.linked resolution old pollId link
  · obtain rfl := mem_singleton.mp new
    rw [unlinked] at link
    cases link

theorem updateResolution {change : MeetingResolution → MeetingResolution}
    (named : ∀ resolution, (change resolution).id = resolution.id)
    (linked : ∀ resolution ∈ db.resolutions, resolution.id = id → ∀ pollId, (change resolution).pollId = some pollId →
      ∃ condoId, ((change resolution).meetingId, condoId) ∈ db.meetingCondos ∧ (pollId, condoId) ∈ db.pollCondos) :
    Consistent (db.updateResolution id change) := by
  have ids : (db.updateResolution id change).resolutions.map MeetingResolution.id =
      db.resolutions.map MeetingResolution.id := map_key_updateBy named
  refine { consistent with
    resolutionIds := ids ▸ consistent.resolutionIds, linked := fun resolution mem pollId link => ?_ }
  obtain ⟨old, stored, rfl⟩ := mem_updateBy.mp mem
  split at link
  · rename_i same
    rw [if_pos same]
    exact linked old stored same pollId link
  · rename_i ne
    rw [if_neg ne]
    exact consistent.linked old stored pollId link

variable {condoId : Id}

theorem storeProxy {row : Id → MeetingProxy} (first : db.proxy? (row db.nextId).meetingId (row db.nextId).unitId = none)
    (unit : ((row db.nextId).unitId, condoId) ∈ db.unitCondos)
    (meeting : ((row db.nextId).meetingId, condoId) ∈ db.meetingCondos) : Consistent (db.storeProxy row) := by
  have later : db.nextId ≤ db.nextId + 1 := by omega
  refine { consistent with
    unitIds := consistent.unitIds.mono later, pollIds := consistent.pollIds.mono later
    optionIds := consistent.optionIds.mono later, meetingIds := consistent.meetingIds.mono later
    resolutionIds := consistent.resolutionIds.mono later, oneProxy := ?_, proxied := fun proxy mem => ?_ }
  · show ((db.proxies ++ [row db.nextId]).map _).Nodup
    rw [map_append, nodup_append]
    refine ⟨consistent.oneProxy, by simp, fun key stored other new same => ?_⟩
    obtain ⟨proxy, mem, rfl⟩ := mem_map.mp stored
    rw [map_singleton, mem_singleton] at new
    exact findBy_eq_none.mp first proxy mem (same.trans new)
  · rcases mem_append.mp mem with old | new
    · exact consistent.proxied proxy old
    · obtain rfl := mem_singleton.mp new
      exact ⟨condoId, unit, meeting⟩

theorem register {users : List Resident} {ownerships : List Ownership} :
    Consistent { db with users := users, ownerships := ownerships } := { consistent with }

theorem addUnit {blockId : Id} {identifier : String} : Consistent (db.addUnit condoId blockId identifier) := by
  have later : db.nextId ≤ db.nextId + 1 := by omega
  refine { consistent with
    unitIds := consistent.unitIds.insert rfl (Nat.lt_succ_self _), pollIds := consistent.pollIds.mono later
    optionIds := consistent.optionIds.mono later, meetingIds := consistent.meetingIds.mono later
    resolutionIds := consistent.resolutionIds.mono later, proxied := fun proxy mem => ?_ }
  obtain ⟨ownCondo, unit, meeting⟩ := consistent.proxied proxy mem
  have condos : (db.addUnit condoId blockId identifier).unitCondos = db.unitCondos ++ [(db.nextId, condoId)] := map_append
  exact ⟨ownCondo, condos ▸ mem_append_left _ unit, meeting⟩

theorem storeBallot {user : Voter} {poll : Poll} {owned : OwnedUnit} {dto : BallotDto} {stamp : BallotStamp}
    (accepted : Accepts now db poll owned.unit dto) :
    Consistent (db.storeVote (ballotRow now user poll owned.ownership dto stamp)) :=
  consistent.storeVote accepted.fresh accepted.option

theorem rewritePoll {existing : Poll} {dto : UpdatePollDto} (found : db.poll? existing.id = some existing) :
    Consistent (db.rewritePoll now existing dto) := by
  have stored : existing.id ∈ db.polls.map Poll.id := mem_map_of_mem (mem_of_findBy found).1
  unfold GovernanceDb.rewritePoll
  cases dto.options with
  | none => exact consistent.updatePoll (fun _ => rfl) fun _ => rfl
  | some sent =>
    split
    · exact (consistent.replaceOptions stored sent.nonempty).updatePoll (fun _ => rfl) fun _ => rfl
    · exact consistent.updatePoll (fun _ => rfl) fun _ => rfl

theorem openVoting {item : MeetingItem} {opensAt : Instant} {closesAt : Option Instant} {snapshot : EligibilitySnapshot}
    (found : db.meeting? item.resolution.meetingId = some item.meeting) (known : db.resolution? item.resolution.id = some item.resolution) :
    Consistent (db.openVoting item opensAt closesAt snapshot) := by
  obtain ⟨stored, named⟩ := mem_of_findBy found
  obtain ⟨listed, -⟩ := mem_of_findBy known
  have inserted : Consistent (db.insertPoll (resolutionPoll item opensAt closesAt) defaultResolutionOptions) :=
    consistent.insertPoll (fun _ => rfl) (by decide)
  have opened : Consistent ((db.insertPoll (resolutionPoll item opensAt closesAt) defaultResolutionOptions).updateResolution
      item.resolution.id (MeetingResolution.openVoting db.nextId opensAt closesAt snapshot)) := by
    refine inserted.updateResolution (fun _ => rfl) fun resolution mem same pollId link => ?_
    obtain rfl := eq_of_key_eq consistent.resolutionIds.distinct mem listed same
    cases link
    refine ⟨item.meeting.condoId, ?_, ?_⟩
    · show (item.resolution.meetingId, item.meeting.condoId) ∈ db.meetingCondos
      rw [← named]
      exact mem_map_of_mem stored
    · have condos : (db.insertPoll (resolutionPoll item opensAt closesAt) defaultResolutionOptions).pollCondos =
          db.pollCondos ++ [(db.nextId, item.meeting.condoId)] := map_append
      rw [condos]
      exact mem_append_right _ (mem_singleton_self _)
  unfold GovernanceDb.openVoting
  split
  · exact opened.updateMeeting (fun _ => rfl) fun _ => rfl
  · exact opened

theorem closeVoting {resolutionId : Id} {snapshot : ResultsSnapshot} :
    Consistent (db.closeVoting now resolutionId pollId snapshot) := by
  have closed : Consistent (db.updatePoll pollId Poll.close) := consistent.updatePoll (fun _ => rfl) fun _ => rfl
  exact closed.updateResolution (fun _ => rfl) fun resolution mem _ => closed.linked resolution mem

end Consistent

variable {env : GovernanceEnv} {after : GovernanceDb} {event : GovernanceEvent}

theorem consistent_step (consistent : Consistent db) (effect : Effect env db event after) : Consistent after := by
  cases effect with
  | idle => exact consistent
  | pollCreated => exact consistent.insertPoll (fun _ => rfl) (PollOptionInputs.nonempty _)
  | pollUpdated found =>
    obtain rfl := poll_found found
    exact consistent.rewritePoll found
  | expired => exact consistent.updatePoll (fun _ => rfl) fun _ => rfl
  | swept => exact consistent.closeExpiredPolls
  | voted owns of accepted => exact consistent.storeBallot accepted
  | resolved entitled accepted => exact consistent.storeBallot accepted
  | meetingCreated => exact consistent.insertMeeting fun _ => rfl
  | meetingUpdated => exact consistent.updateMeeting (fun _ => rfl) fun _ => rfl
  | noticePublished => exact consistent.updateMeeting (fun _ => rfl) fun _ => rfl
  | minutesPublished => exact consistent.updateMeeting (fun _ => rfl) fun _ => rfl
  | resolutionAdded => exact consistent.insertResolution (fun _ => rfl) fun _ => rfl
  | resolutionUpdated =>
    exact consistent.updateResolution (fun _ => rfl) fun resolution mem _ => consistent.linked resolution mem
  | votingOpened found =>
    obtain ⟨known, of⟩ := meetingItem_ok.mp found
    obtain ⟨-, rfl⟩ := mem_of_findBy known
    exact consistent.openVoting of known
  | votingClosed => exact consistent.closeVoting
  | proxySubmitted found owns of sameCondo first =>
    exact consistent.storeProxy first (sameCondo ▸ unitCondo of) (meetingCondo found)
  | registered => exact consistent.register
  | unitAdded => exact consistent.addUnit

theorem consistent_run {initial : GovernanceDb} {events : List GovernanceEvent} (first : initial.Initial)
    (run : Run (Step env) initial events db) : Consistent db :=
  run.invariant (fun _ _ _ consistent step => consistent_step consistent (effect_of_step step)) first.consistent

end

namespace Sample

def plainEnv : GovernanceEnv := ⟨id, fun first second => decide (first = second)⟩

def manager : Voter := ⟨⟨1, [⟨.managementAdmin, some 1, none⟩]⟩, none⟩

def owner : Voter := ⟨⟨2, [⟨.unitOwner, some 1, some 1⟩]⟩, none⟩

def condo : GovernanceDb :=
  { nextId := 2, units := [⟨1, 1, 1, "A-1"⟩], users := [⟨1, "Manager", "manager", [1]⟩, ⟨2, "Owner", "owner", [1]⟩]
    ownerships := [⟨1, 1, 2, 100000, none, .active⟩], polls := [], options := [], votes := [], meetings := []
    resolutions := [], proxies := [] }

theorem condo_initial : condo.Initial where
  noPolls := rfl
  noOptions := rfl
  noVotes := rfl
  noMeetings := rfl
  noResolutions := rfl
  noProxies := rfl
  units := ⟨by decide, by decide⟩

def after (events : List GovernanceEvent) : GovernanceDb := events.foldl (fun db event => db.next plainEnv event) condo

theorem after_reached (events : List GovernanceEvent) : Run (Step plainEnv) condo events (after events) := .of_foldl condo events

end Sample

end SmartResidence.Governance
