import SmartResidence.Proof.MeetingRecords
import SmartResidence.Proof.VotingRights

/-!
# Who votes for a unit with a proxy

The poll of a resolution also takes ballots as an ordinary poll, and these do not ask for proxies.
-/

namespace SmartResidence.Governance

open Foundation Billing List

def GovernanceDb.PollOf (db : GovernanceDb) (meetingId pollId : Id) : Prop :=
  ∃ resolution ∈ db.resolutions, resolution.meetingId = meetingId ∧ resolution.pollId = some pollId

def GovernanceEvent.caster : GovernanceEvent → Option Voter
  | .castVote _ user _ _ => some user
  | .castResolutionVote _ user _ _ => some user
  | _ => none

structure CastByHolder (env : GovernanceEnv) (before : GovernanceDb) (event : GovernanceEvent) (proxy : MeetingProxy)
    (vote : PollVote) : Prop where
  caster : ∃ user, event.caster = some user ∧ vote.userId = user.id ∧ isProxyHolder env user proxy = true
  stamped : vote.viaProxy = true ∧ vote.proxyId = some proxy.id ∧ vote.meetingId = some proxy.meetingId
  running : ∃ meeting, before.meeting? proxy.meetingId = some meeting ∧
    (meeting.status = .noticePublished ∨ meeting.status = .inProgress)

/-- Each later ballot for a unit with a proxy, on a poll of the meeting's resolutions, was recorded by a step of the holder. -/
def ProxiesExclusive (env : GovernanceEnv) (start : GovernanceDb) (events : List GovernanceEvent) (finish : GovernanceDb) : Prop :=
  ∀ proxy ∈ start.proxies, ∀ vote ∈ finish.votes, vote ∉ start.votes → vote.unitId = proxy.unitId →
    finish.PollOf proxy.meetingId vote.pollId →
    ∃ earlier event later before, events = earlier ++ event :: later ∧ Run (Step env) start earlier before ∧
      vote ∉ before.votes ∧ vote ∈ (before.next env event).votes ∧ CastByHolder env before event proxy vote

def TakesBallot (now : Instant) (user : Voter) (pollId : Id) (dto : BallotDto) (db : GovernanceDb) : Prop :=
  isUnitOwner user.toAuthenticatedUser = true ∧ ∃ (poll : Poll) (owned : OwnedUnit), poll.id = pollId ∧
    db.ownership? now user.id dto.unitId = some owned.ownership ∧ db.unit? dto.unitId = some owned.unit ∧
    Accepts now db poll owned.unit dto

def AsksHolders (db : GovernanceDb) : GovernanceEvent → Prop
  | .castVote now user pollId dto => TakesBallot now user pollId dto db →
      ∀ proxy ∈ db.proxies, proxy.unitId = dto.unitId → ¬ db.PollOf proxy.meetingId pollId
  | _ => True

section

variable {env : GovernanceEnv} {db after : GovernanceDb} {event : GovernanceEvent} {meetingId pollId : Id}

theorem PollOf.known (consistent : Consistent db) (linked : db.PollOf meetingId pollId) : pollId ∈ db.polls.map Poll.id := by
  obtain ⟨resolution, mem, -, link⟩ := linked
  obtain ⟨condoId, -, of⟩ := consistent.linked resolution mem pollId link
  obtain ⟨poll, stored, same⟩ := mem_map.mp of
  exact mem_map.mpr ⟨poll, stored, congrArg Prod.fst same⟩

theorem pollOf_same (same : after.resolutions = db.resolutions) : after.PollOf meetingId pollId ↔ db.PollOf meetingId pollId := by
  unfold GovernanceDb.PollOf
  rw [same]

theorem pollOf_updateResolution {id : Id} {change : MeetingResolution → MeetingResolution}
    (linked : (db.updateResolution id change).PollOf meetingId pollId)
    (meeting : ∀ resolution, (change resolution).meetingId = resolution.meetingId)
    (link : ∀ resolution, (change resolution).pollId = resolution.pollId) : db.PollOf meetingId pollId := by
  obtain ⟨_, mem, own, linked⟩ := linked
  obtain ⟨resolution, stored, rfl⟩ := mem_updateBy.mp mem
  refine ⟨resolution, stored, ?_, ?_⟩
  · split at own
    · exact (meeting resolution).symm.trans own
    · exact own
  · split at linked
    · exact (link resolution).symm.trans linked
    · exact linked

variable {item : MeetingItem} {opensAt : Instant} {closesAt : Option Instant} {snapshot : EligibilitySnapshot}

theorem pollOf_openVoting (consistent : Consistent db)
    (known : db.resolution? item.resolution.id = some item.resolution)
    (linked : (db.openVoting item opensAt closesAt snapshot).PollOf meetingId pollId) :
    db.PollOf meetingId pollId ∨ pollId = db.nextId ∧ meetingId = item.resolution.meetingId := by
  obtain ⟨resolution, mem, own, link⟩ := linked
  rw [resolutions_openVoting] at mem
  rcases changed_or_kept consistent.resolutionIds.distinct (mem_of_findBy known).1 mem with rfl | ⟨old, -⟩
  · exact .inr ⟨(Option.some.inj link).symm, own.symm⟩
  · exact .inl ⟨resolution, old, own, link⟩

theorem pollOf_step (consistent : Consistent db) (effect : Effect env db event after) (linked : after.PollOf meetingId pollId) :
    db.PollOf meetingId pollId ∨ pollId = db.nextId ∧ ∀ other, after.PollOf other pollId → other = meetingId := by
  cases effect with
  | resolutionAdded =>
    obtain ⟨resolution, mem, own, link⟩ := linked
    rcases mem_append.mp mem with old | new
    · exact .inl ⟨resolution, old, own, link⟩
    · obtain rfl := mem_singleton.mp new
      cases link
  | resolutionUpdated => exact .inl (pollOf_updateResolution linked (fun _ => rfl) fun _ => rfl)
  | votingClosed => exact .inl (pollOf_updateResolution linked (fun _ => rfl) fun _ => rfl)
  | pollUpdated => exact .inl ((pollOf_same rewritePoll_rest.2.1).mp linked)
  | votingOpened found =>
    obtain ⟨known, -⟩ := meetingItem_ok.mp found
    obtain ⟨-, rfl⟩ := mem_of_findBy known
    rcases pollOf_openVoting consistent known linked with old | ⟨rfl, rfl⟩
    · exact .inl old
    · refine .inr ⟨rfl, fun other also => ?_⟩
      rcases pollOf_openVoting consistent known also with old | ⟨-, own⟩
      · exact absurd (PollOf.known consistent old) consistent.pollIds.fresh
      · exact own
  | _ => exact .inl ((pollOf_same rfl).mp linked)

def OneMeeting (db : GovernanceDb) : Prop := ∀ pollId meetingId other, db.PollOf meetingId pollId → db.PollOf other pollId → meetingId = other

theorem oneMeeting_step (consistent : Consistent db) (one : OneMeeting db) (effect : Effect env db event after) :
    OneMeeting after := by
  intro pollId meetingId other linked also
  rcases pollOf_step consistent effect linked with old | ⟨rfl, unique⟩
  · rcases pollOf_step consistent effect also with old' | ⟨rfl, -⟩
    · exact one pollId meetingId other old old'
    · exact absurd (PollOf.known consistent old) consistent.pollIds.fresh
  · exact (unique other also).symm

theorem oneMeeting_run {initial : GovernanceDb} {events : List GovernanceEvent} (first : initial.Initial)
    (run : Run (Step env) initial events db) : OneMeeting db := by
  have start : OneMeeting initial := by
    intro pollId meetingId other linked
    obtain ⟨resolution, mem, -⟩ := linked
    rw [first.noResolutions] at mem
    cases mem
  induction run with
  | done => exact start
  | snoc earlier step ih => exact oneMeeting_step (consistent_run first earlier) ih (effect_of_step step)

theorem rewritePoll_votes {now : Instant} {existing : Poll} {dto : UpdatePollDto} :
    (db.rewritePoll now existing dto).votes ⊆ db.votes := by
  unfold GovernanceDb.rewritePoll
  cases dto.options with
  | none => exact fun _ => id
  | some sent =>
    split
    · exact filter_subset_self _
    · exact fun _ => id

theorem openVoting_rest : (db.openVoting item opensAt closesAt snapshot).votes = db.votes ∧
      (db.openVoting item opensAt closesAt snapshot).proxies = db.proxies := by
  unfold GovernanceDb.openVoting
  split
  · exact ⟨rfl, rfl⟩
  · exact ⟨rfl, rfl⟩

variable {now : Instant} {user : Voter} {dto : BallotDto}

theorem castVote_forbidden (other : isUnitOwner user.toAuthenticatedUser = false) : (castVote now user pollId dto db).2 = db := by
  unfold castVote
  rw [Call.ofResult_bind]
  simp [throwIf, other]

variable {vote : PollVote}

theorem ballot_known (consistent : Consistent db) (mem : vote ∈ db.votes) : vote.pollId ∈ db.polls.map Poll.id := by
  obtain ⟨option, listed, -, own⟩ := consistent.chosen vote mem
  exact own ▸ consistent.offered option listed

variable {proxy : MeetingProxy}

theorem resolved_by_holder (consistent : Consistent db) (one : OneMeeting db) {resolutionId : Id} {poll : Poll}
    {owned : OwnedUnit} {stamp : BallotStamp}
    (entitled : Entitled env now db user resolutionId dto item poll owned stamp) (mem : proxy ∈ db.proxies)
    (unit : dto.unitId = proxy.unitId) (linked : db.PollOf proxy.meetingId poll.id) :
    CastByHolder env db (.castResolutionVote now user resolutionId dto) proxy
      (ballotRow now user poll owned.ownership dto stamp db.nextId) := by
  obtain ⟨found, link, -, running⟩ := votablePoll_ok.mp entitled.votable
  obtain ⟨known, of⟩ := meetingItem_ok.mp found
  obtain ⟨-, own⟩ := mem_of_findBy of
  have same : item.meeting.id = proxy.meetingId :=
    one poll.id _ _ ⟨item.resolution, (mem_of_findBy known).1, own.symm, (linked_found link).1⟩ linked
  have held : db.proxy? item.meeting.id dto.unitId = some proxy := by
    rw [same, unit]
    exact proxy_found consistent mem
  obtain ⟨-, holder, -, -, rfl⟩ := (ballotRight_held held).mp entitled.right
  refine ⟨⟨user, rfl, rfl, holder⟩, ⟨rfl, rfl, congrArg some same⟩, item.meeting, ?_, running.symm⟩
  rw [← same, own]
  exact of

theorem cast_step (consistent : Consistent db) (one : OneMeeting db) (step : Step env db event after)
    (asks : AsksHolders db event) (stored : vote ∈ after.votes) (new : vote ∉ db.votes) (mem : proxy ∈ db.proxies)
    (unit : vote.unitId = proxy.unitId) (linked : after.PollOf proxy.meetingId vote.pollId) :
    CastByHolder env db event proxy vote := by
  have effect := effect_of_step step
  cases effect with
  | @voted now user dto poll owned owns of accepted =>
    rcases mem_append.mp stored with old | own
    · exact absurd old new
    · obtain rfl := mem_singleton.mp own
      cases owner : isUnitOwner user.toAuthenticatedUser with
      | false =>
        have unchanged : (castVote now user poll.id dto db).2 = db := castVote_forbidden owner
        have same : db = _ := unchanged.symm.trans step
        rw [← same] at stored
        exact absurd stored new
      | true =>
        have takes : TakesBallot now user poll.id dto db := ⟨owner, poll, owned, rfl, owns, of, accepted⟩
        exact absurd linked (asks takes proxy mem unit.symm)
  | resolved entitled accepted =>
    rcases mem_append.mp stored with old | own
    · exact absurd old new
    · obtain rfl := mem_singleton.mp own
      exact resolved_by_holder consistent one entitled mem unit linked
  | pollUpdated => exact absurd (rewritePoll_votes stored) new
  | votingOpened =>
    rw [openVoting_rest.1] at stored
    exact absurd stored new
  | _ => exact absurd stored new

theorem proxies_kept (effect : Effect env db event after) : db.proxies ⊆ after.proxies := by
  cases effect with
  | proxySubmitted => exact subset_append_left _ _
  | pollUpdated => exact rewritePoll_rest.2.2.symm ▸ fun _ => id
  | votingOpened => exact openVoting_rest.2.symm ▸ fun _ => id
  | _ => exact fun _ => id

end

section

variable {env : GovernanceEnv} {initial start finish : GovernanceDb} {early late : List GovernanceEvent}

theorem proxies_kept_run (run : Run (Step env) start late finish) : start.proxies ⊆ finish.proxies := by
  induction run with
  | done => exact fun _ => id
  | snoc _ step ih => exact fun _ mem => proxies_kept (effect_of_step step) (ih mem)

/-- In runs where ordinary ballots are not for units with a proxy at the meeting, proxies are exclusive. -/
theorem proxies_exclusive (first : initial.Initial) (reached : Run (Step env) initial early start)
    (run : Run (Guarded AsksHolders (Step env)) start late finish) : ProxiesExclusive env start late finish := by
  induction run with
  | done => exact fun _ _ _ stored new => absurd stored new
  | @snoc events before after event earlier move ih =>
      intro proxy member vote stored new unit linked
      have path : Run (Step env) initial (early ++ events) before := reached.trans earlier.guard_forgotten
      have consistent := consistent_run first path
      obtain ⟨asks, step⟩ := move
      by_cases old : vote ∈ before.votes
      · have before : before.PollOf proxy.meetingId vote.pollId := by
          rcases pollOf_step consistent (effect_of_step step) linked with kept | ⟨fresh, -⟩
          · exact kept
          · exact absurd (fresh ▸ ballot_known consistent old) consistent.pollIds.fresh
        obtain ⟨front, cast, back, state, rfl, run, missing, recorded, rightly⟩ := ih proxy member vote old new unit before
        exact ⟨front, cast, back ++ [event], state, by simp, run, missing, recorded, rightly⟩
      · have still := proxies_kept_run earlier.guard_forgotten member
        have cast := cast_step consistent (oneMeeting_run first path) step asks stored old still unit linked
        exact ⟨events, event, [], before, rfl, earlier.guard_forgotten, old, step ▸ stored, cast⟩

end

namespace Sample

def proxied : List GovernanceEvent := announced ++ convened ++ [.submitProxy 6 owner 2 ⟨1, "Manager", none, some 1⟩]

def overruled : List GovernanceEvent := [.castVote 7 owner 4 ⟨1, 5⟩]

def represented : List GovernanceEvent := [.castResolutionVote 7 manager 3 ⟨1, 5⟩]

end Sample

theorem proxy_overruled : ∃ env initial early late start finish, initial.Initial ∧ Run (Step env) initial early start ∧
    Run (Step env) start late finish ∧ ¬ ProxiesExclusive env start late finish := by
  have ballots : (Sample.overruled.foldl (fun db event => db.next Sample.plainEnv event) (Sample.after Sample.proxied)).votes.map
      (fun vote => (vote.unitId, vote.pollId, vote.viaProxy)) = [(1, 4, false)] := by decide +kernel
  have links : (Sample.overruled.foldl (fun db event => db.next Sample.plainEnv event) (Sample.after Sample.proxied)).resolutions.map
      (fun resolution => (resolution.meetingId, resolution.pollId)) = [(2, some 4)] := by decide +kernel
  have proxies : (Sample.after Sample.proxied).proxies.map (fun proxy => (proxy.unitId, proxy.meetingId)) = [(1, 2)] := by
    decide +kernel
  have none : (Sample.after Sample.proxied).votes = [] := by decide +kernel
  refine ⟨_, _, _, _, _, _, Sample.condo_initial, Sample.after_reached Sample.proxied, .of_foldl _ Sample.overruled,
    fun exclusive => ?_⟩
  obtain ⟨vote, stored, ballot⟩ := List.mem_map.mp (ballots ▸ List.mem_singleton_self (1, 4, false))
  obtain ⟨resolution, listed, link⟩ := List.mem_map.mp (links ▸ List.mem_singleton_self (2, some 4))
  obtain ⟨proxy, member, covers⟩ := List.mem_map.mp (proxies ▸ List.mem_singleton_self (1, 2))
  simp only [Prod.mk.injEq] at ballot link covers
  have new : vote ∉ (Sample.after Sample.proxied).votes := by simp [none]
  have linked := exclusive proxy member vote stored new (ballot.1.trans covers.1.symm)
    ⟨resolution, listed, link.1.trans covers.2.symm, link.2.trans (congrArg some ballot.2.1.symm)⟩
  obtain ⟨_, _, _, _, -, -, -, -, cast⟩ := linked
  exact absurd (cast.stamped.1.symm.trans ballot.2.2) (by decide)

theorem proxy_represented : ∃ late start finish, finish.votes.map PollVote.viaProxy = [true] ∧
    ProxiesExclusive Sample.plainEnv start late finish := by
  have ballots : (Sample.represented.foldl (fun db event => db.next Sample.plainEnv event) (Sample.after Sample.proxied)).votes.map
      PollVote.viaProxy = [true] := by decide +kernel
  have run : Run (Guarded AsksHolders (Step Sample.plainEnv)) (Sample.after Sample.proxied) Sample.represented _ :=
    .guarded_of_foldl ⟨trivial, trivial⟩
  exact ⟨_, _, _, ballots, proxies_exclusive Sample.condo_initial (Sample.after_reached Sample.proxied) run⟩

end SmartResidence.Governance
