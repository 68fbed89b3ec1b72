import SmartResidence.Proof.GovernanceRows

/-!
# Who is listed as eligible, and who can cast

The listing looks at the status of the poll only, not at its schedule and its audience, and at the proxies held, not at
whose they are.
-/

namespace SmartResidence.Governance

open Foundation Billing List

section

variable (env : GovernanceEnv) (now : Instant) (user : Voter) (resolutionId : Id) (db : GovernanceDb)

def VotingEligibility.castableUnits (listing : VotingEligibility) : List Id :=
  if listing.votingOpen then (listing.eligibleUnits.filter EligibleUnit.castable).map EligibleUnit.unitId else []

def Casts (dto : BallotDto) : Prop := (castResolutionVote env now user resolutionId dto db).1 = .ok ()

structure Agrees : Prop where
  castable : ∀ listing, getVotingEligibility env now user resolutionId db = .ok listing → ∀ unitId ∈ listing.castableUnits,
    ∀ pollId, listing.pollId = some pollId → ∀ option ∈ db.optionsOf pollId, Casts env now user resolutionId db ⟨unitId, option.id⟩
  listed : ∀ dto, Casts env now user resolutionId db dto →
    ∃ listing, getVotingEligibility env now user resolutionId db = .ok listing ∧ dto.unitId ∈ listing.castableUnits
  once : ∀ listing, getVotingEligibility env now user resolutionId db = .ok listing → listing.castableUnits.Nodup

def OwnOpen (item : MeetingItem) (poll : Poll) (owned : OwnedUnit) : Bool :=
  decide (owned.ownership.userId = user.id) && (db.proxy? item.meeting.id owned.ownership.unitId).isNone &&
    !db.voted poll.id owned.ownership.unitId

def HeldOpen (item : MeetingItem) (poll : Poll) (proxy : MeetingProxy) : Bool :=
  decide (proxy.meetingId = item.meeting.id) && isProxyHolder env user proxy && !db.voted poll.id proxy.unitId

structure Reached (poll : Poll) (unitId : Id) : Prop where
  begun : ∀ opens, poll.opensAt = some opens → opens ≤ now
  running : ∀ closes, poll.closesAt = some closes → now < closes
  audience : ∃ unit, db.unit? unitId = some unit ∧ unitMatchesAudience poll unit.blockId = true

structure RightlyOpen (item : MeetingItem) (poll : Poll) : Prop where
  own : ∀ owned ∈ db.ownedUnits now item.meeting.condoId, OwnOpen user db item poll owned →
    Reached now db poll owned.ownership.unitId
  held : ∀ proxy ∈ db.proxies, HeldOpen env user db item poll proxy →
    Reached now db poll proxy.unitId ∧ proxy.ownerUserId ≠ user.id ∧ (db.ownership? now proxy.ownerUserId proxy.unitId).isSome
  single : (((db.ownedUnits now item.meeting.condoId).filter (OwnOpen user db item poll)).map
    fun owned => owned.ownership.unitId).Nodup

def ListsRightly : Prop := ∀ item poll, votablePoll resolutionId db = .ok (item, poll) →
  hasCondoAccess user.toAuthenticatedUser item.meeting.condoId → RightlyOpen env now user db item poll

end

/-! ## The listing -/

section

variable {env : GovernanceEnv} {now : Instant} {user : Voter} {resolutionId : Id} {db : GovernanceDb} {item : MeetingItem}
  {poll : Poll}

theorem foldl_enterHeld {held : List MeetingProxy} {entries : List EligibleUnit}
    (nodup : (held.map MeetingProxy.unitId).Nodup)
    (blocked : ∀ proxy ∈ held, ∀ entry ∈ entries, entry.unitId = proxy.unitId → entry.blockedReason ≠ none) :
    held.foldl (enterHeld db now item) entries = entries ++ held.map (heldEntry db now item) := by
  induction held generalizing entries with
  | nil => simp
  | cons proxy held ih =>
    rw [map_cons, nodup_cons] at nodup
    have entered : enterHeld db now item entries proxy = entries ++ [heldEntry db now item proxy] := by
      unfold enterHeld
      rw [if_neg]
      intro skipped
      obtain ⟨entry, mem, matches'⟩ := any_eq_true.mp skipped
      rw [Bool.and_eq_true, decide_eq_true_eq, Option.isNone_iff_eq_none] at matches'
      exact blocked proxy mem_cons_self entry mem matches'.1 matches'.2
    rw [foldl_cons, entered, ih nodup.2, map_cons, append_assoc, singleton_append]
    intro other listed entry mem same
    rcases mem_append.mp mem with old | new
    · exact blocked other (mem_cons_of_mem _ listed) entry old same
    · obtain rfl := mem_singleton.mp new
      exact absurd (mem_map.mpr ⟨other, listed, same.symm⟩) nodup.1

variable {proxy : MeetingProxy}

theorem proxy_found (consistent : Consistent db) (mem : proxy ∈ db.proxies) :
    db.proxy? proxy.meetingId proxy.unitId = some proxy := by
  exact findBy_of_mem consistent.oneProxy mem

variable {meetingId : Id}

theorem proxy_member {unitId : Id} (found : db.proxy? meetingId unitId = some proxy) :
    proxy ∈ db.proxies ∧ proxy.meetingId = meetingId ∧ proxy.unitId = unitId := by
  obtain ⟨mem, key⟩ := mem_of_findBy found
  exact ⟨mem, (Prod.mk.inj key).1, (Prod.mk.inj key).2⟩

theorem held_units_distinct (consistent : Consistent db) {pick : MeetingProxy → Bool}
    (own : ∀ proxy, pick proxy → proxy.meetingId = meetingId) :
    ((db.proxies.filter pick).map MeetingProxy.unitId).Nodup := by
  have keys := consistent.oneProxy.sublist ((filter_sublist (p := pick)).map _)
  have pairs : (db.proxies.filter pick).map (fun proxy => (proxy.meetingId, proxy.unitId)) =
      ((db.proxies.filter pick).map MeetingProxy.unitId).map (Prod.mk meetingId) := by
    rw [map_map]
    apply map_congr_left
    intro proxy mem
    rw [own proxy (mem_filter.mp mem).2]
    rfl
  rw [pairs] at keys
  exact List.Nodup.of_map _ keys

def entriesOf (env : GovernanceEnv) (now : Instant) (user : Voter) (db : GovernanceDb) (item : MeetingItem) : List EligibleUnit :=
  ((db.ownedUnits now item.meeting.condoId).filter fun owned => decide (owned.ownership.userId = user.id)).map (ownEntry db item) ++
    (db.proxies.filter fun proxy => decide (proxy.meetingId = item.meeting.id) && isProxyHolder env user proxy).map
      (heldEntry db now item)

theorem entries_folded (consistent : Consistent db) :
    (db.proxies.filter fun proxy => decide (proxy.meetingId = item.meeting.id) && isProxyHolder env user proxy).foldl
        (enterHeld db now item)
        (((db.ownedUnits now item.meeting.condoId).filter fun owned => decide (owned.ownership.userId = user.id)).map
          (ownEntry db item)) = entriesOf env now user db item := by
  have atMeeting (proxy : MeetingProxy) (pick : (decide (proxy.meetingId = item.meeting.id) && isProxyHolder env user proxy) = true) :
      proxy.meetingId = item.meeting.id := by
    rw [Bool.and_eq_true, decide_eq_true_eq] at pick
    exact pick.1
  refine foldl_enterHeld (held_units_distinct consistent atMeeting) fun proxy held entry own same => ?_
  · obtain ⟨mem, pick⟩ := mem_filter.mp held
    rw [Bool.and_eq_true, decide_eq_true_eq] at pick
    obtain ⟨owned, -, rfl⟩ := mem_map.mp own
    have found := proxy_found consistent mem
    rw [pick.1, ← same] at found
    show (db.proxy? item.meeting.id owned.ownership.unitId).map _ ≠ none
    rw [show db.proxy? item.meeting.id owned.ownership.unitId = some proxy from found]
    exact Option.some_ne_none _

variable {listing : VotingEligibility}

theorem listing_ok (consistent : Consistent db)
    (mem : getVotingEligibility env now user resolutionId db = .ok listing) :
    ∃ item, db.meetingItem resolutionId = .ok item ∧ hasCondoAccess user.toAuthenticatedUser item.meeting.condoId = true ∧
      listing.pollId = item.resolution.pollId ∧ listing.eligibleUnits = entriesOf env now user db item ∧
      (listing.votingOpen = true ↔ ∃ poll, votablePoll resolutionId db = .ok (item, poll)) := by
  simp only [getVotingEligibility, assertCondoAccess, bind_eq_ok, throwIf_eq_ok, pure_eq_ok, not_not, exists_const] at mem
  obtain ⟨item, found, access, -, rfl⟩ := mem
  refine ⟨item, found, access, rfl, entries_folded consistent, ?_⟩
  simp only [votablePoll_ok, found, true_and, Bool.and_eq_true, decide_eq_true_eq, Option.any_eq_true]
  constructor
  · rintro ⟨⟨poll, linked, opened⟩, meeting⟩
    exact ⟨poll, linked, opened, meeting⟩
  · rintro ⟨poll, linked, opened, meeting⟩
    exact ⟨⟨poll, linked, opened⟩, meeting⟩

theorem listing_exists (votable : votablePoll resolutionId db = .ok (item, poll))
    (access : hasCondoAccess user.toAuthenticatedUser item.meeting.condoId = true) :
    ∃ listing, getVotingEligibility env now user resolutionId db = .ok listing := by
  obtain ⟨found, linked, opened, meeting⟩ := votablePoll_ok.mp votable
  have announced : item.meeting.status ≠ .draft := by
    rintro same
    simp [same] at meeting
  simp only [getVotingEligibility, assertCondoAccess, bind_eq_ok, throwIf_eq_ok, not_not, exists_const]
  exact ⟨_, item, found, access, fun refused => announced refused.2, rfl⟩

theorem castable_units (consistent : Consistent db)
    (mem : getVotingEligibility env now user resolutionId db = .ok listing)
    (votable : votablePoll resolutionId db = .ok (item, poll)) : listing.castableUnits =
      (((db.ownedUnits now item.meeting.condoId).filter (OwnOpen user db item poll)).map fun owned => owned.ownership.unitId) ++
        (db.proxies.filter (HeldOpen env user db item poll)).map MeetingProxy.unitId := by
  obtain ⟨other, found, -, -, entries, open'⟩ := listing_ok consistent mem
  obtain ⟨known, linked, -, -⟩ := votablePoll_ok.mp votable
  obtain rfl : item = other := by
    rw [known] at found
    exact Except.ok.inj found
  have link := (linked_found linked).1
  unfold VotingEligibility.castableUnits
  rw [if_pos (open'.mpr ⟨poll, votable⟩), entries]
  unfold entriesOf
  rw [filter_append, map_append, filter_map, filter_map, filter_filter, filter_filter, map_map, map_map]
  congr 2
  · apply filter_congr
    intro owned _
    show (((db.proxy? item.meeting.id owned.ownership.unitId).map _).isNone &&
      !db.hasVoted item.resolution.pollId owned.ownership.unitId && decide (owned.ownership.userId = user.id)) = _
    rw [link, Option.isNone_map]
    unfold OwnOpen GovernanceDb.hasVoted
    rw [Option.any_some, Bool.and_comm, Bool.and_assoc]
  · apply filter_congr
    intro proxy _
    show (true && !db.hasVoted item.resolution.pollId proxy.unitId && (decide (proxy.meetingId = item.meeting.id) &&
      isProxyHolder env user proxy)) = _
    rw [link]
    unfold HeldOpen GovernanceDb.hasVoted
    rw [Option.any_some, Bool.true_and, Bool.and_comm]

variable {dto : BallotDto} {owned : OwnedUnit} {stamp : BallotStamp}

theorem castVoteWithOwnership_ok {after : GovernanceDb} {done : Unit} (found : db.poll? poll.id = some poll) :
    castVoteWithOwnership now user poll.id dto owned stamp db = (.ok done, after) ↔
      owned.unit.id = dto.unitId ∧ Accepts now db poll owned.unit dto ∧
        hasCondoAccess user.toAuthenticatedUser poll.condoId = true ∧
        after = db.storeVote (ballotRow now user poll owned.ownership dto stamp) := by
  simp only [castVoteWithOwnership, Call.bind_eq_ok, look_eq_ok, ofResult_eq_ok, orThrow_eq_ok, assertVotingOpen_ok,
    assertOption_ok, assertUnit_ok, throwIf_eq_ok, not_not, recordVote_ok]
  constructor
  · rintro ⟨_, _, ⟨same, rfl⟩, _, _, ⟨voting, rfl⟩, _, _, ⟨option, rfl⟩, _, _, ⟨unit, rfl⟩, _, _, ⟨⟨condo, audience⟩, rfl⟩,
      fresh, access, rfl⟩
    obtain rfl := Option.some.inj (found.symm.trans same)
    exact ⟨unit, ⟨found, voting, option, condo, audience, fresh⟩, access, rfl⟩
  · rintro ⟨unit, accepted, access, rfl⟩
    exact ⟨poll, db, ⟨found, rfl⟩, (), db, ⟨accepted.votingOpen, rfl⟩, (), db, ⟨accepted.option, rfl⟩, (), db, ⟨unit, rfl⟩,
      (), db, ⟨⟨accepted.sameCondo, accepted.audience⟩, rfl⟩, accepted.fresh, access, rfl⟩

theorem casts_iff : Casts env now user resolutionId db dto ↔
    ∃ item poll owned stamp, Entitled env now db user resolutionId dto item poll owned stamp ∧ owned.unit.id = dto.unitId ∧
      Accepts now db poll owned.unit dto ∧ hasCondoAccess user.toAuthenticatedUser poll.condoId = true := by
  have returns : Casts env now user resolutionId db dto ↔
      ∃ after, castResolutionVote env now user resolutionId dto db = (.ok (), after) := by
    unfold Casts
    constructor
    · intro ok
      exact ⟨_, Prod.ext ok rfl⟩
    · rintro ⟨after, runs⟩
      rw [runs]
  rw [returns]
  simp only [castResolutionVote, Call.bind_eq_ok, look_eq_ok]
  constructor
  · rintro ⟨after, ⟨item, poll⟩, _, ⟨votable, rfl⟩, ⟨owned, stamp⟩, _, ⟨right, rfl⟩, cast⟩
    have found := (linked_found (votablePoll_ok.mp votable).2.1).2
    obtain ⟨unit, accepted, access, -⟩ := (castVoteWithOwnership_ok found).mp cast
    exact ⟨item, poll, owned, stamp, ⟨votable, right⟩, unit, accepted, access⟩
  · rintro ⟨item, poll, owned, stamp, entitled, unit, accepted, access⟩
    exact ⟨_, ⟨item, poll⟩, db, ⟨entitled.votable, rfl⟩, ⟨owned, stamp⟩, db, ⟨entitled.right, rfl⟩,
      (castVoteWithOwnership_ok accepted.found).mpr ⟨unit, accepted, access, rfl⟩⟩

variable {meeting : GeneralMeeting} {unitId : Id}

theorem ballotRight_own (unproxied : db.proxy? meeting.id unitId = none) :
    ballotRight env now user meeting unitId db = .ok (owned, stamp) ↔
      db.ownership? now user.id unitId = some owned.ownership ∧ db.unit? unitId = some owned.unit ∧
        owned.unit.condoId = meeting.condoId ∧ stamp = ⟨false, none, some meeting.id, user.id⟩ := by
  unfold ballotRight
  rw [unproxied]
  simp only [bind_eq_ok, ownedUnit_ok, throwIf_eq_ok, pure_eq_ok, not_not, exists_const, Prod.mk.injEq]
  constructor
  · rintro ⟨_, ⟨owns, of⟩, condo, rfl, rfl⟩
    rw [(ownership_found owns).2.2.1] at of
    exact ⟨owns, of, condo, rfl⟩
  · rintro ⟨owns, of, condo, rfl⟩
    rw [← (ownership_found owns).2.2.1] at of
    exact ⟨owned, ⟨owns, of⟩, condo, rfl, rfl⟩

theorem ballotRight_held (held : db.proxy? meeting.id unitId = some proxy) :
    ballotRight env now user meeting unitId db = .ok (owned, stamp) ↔
      proxy.ownerUserId ≠ user.id ∧ isProxyHolder env user proxy = true ∧
        db.ownership? now proxy.ownerUserId unitId = some owned.ownership ∧ db.unit? unitId = some owned.unit ∧
        stamp = ⟨true, some proxy.id, some meeting.id, proxy.ownerUserId⟩ := by
  unfold ballotRight
  rw [held]
  simp only [bind_eq_ok, ownedUnit_ok, throwIf_eq_ok, pure_eq_ok, not_not, exists_const, Prod.mk.injEq]
  constructor
  · rintro ⟨other, holder, _, ⟨owns, of⟩, rfl, rfl⟩
    rw [(ownership_found owns).2.2.1] at of
    exact ⟨other, holder, owns, of, rfl⟩
  · rintro ⟨other, holder, owns, of, rfl⟩
    rw [← (ownership_found owns).2.2.1] at of
    exact ⟨other, holder, owned, ⟨owns, of⟩, rfl, rfl⟩

/-! ## The agreement -/

theorem poll_condo (consistent : Consistent db) (votable : votablePoll resolutionId db = .ok (item, poll)) :
    poll.condoId = item.meeting.condoId := by
  obtain ⟨found, linked, -, -⟩ := votablePoll_ok.mp votable
  obtain ⟨known, of⟩ := meetingItem_ok.mp found
  obtain ⟨link, stored⟩ := linked_found linked
  obtain ⟨condoId, atMeeting, atPoll⟩ := consistent.linked item.resolution (mem_of_findBy known).1 poll.id link
  obtain ⟨hosting, hosted, host⟩ := mem_map.mp atMeeting
  obtain ⟨polling, polled, same⟩ := mem_map.mp atPoll
  obtain ⟨meetingStored, named⟩ := mem_of_findBy of
  obtain rfl := eq_of_key_eq consistent.meetingIds.distinct hosted meetingStored ((congrArg Prod.fst host).trans named.symm)
  obtain rfl := eq_of_key_eq consistent.pollIds.distinct polled (mem_of_findBy stored).1 (congrArg Prod.fst same)
  exact (congrArg Prod.snd same).trans (congrArg Prod.snd host).symm

theorem mem_ownedUnits {condoId : Id} : owned ∈ db.ownedUnits now condoId ↔
    owned.ownership ∈ db.ownerships ∧ owned.ownership.current now = true ∧ db.unit? owned.ownership.unitId = some owned.unit ∧
      owned.unit.condoId = condoId := by
  unfold GovernanceDb.ownedUnits
  rw [mem_filterMap]
  unfold GovernanceDb.owned
  constructor
  · rintro ⟨ownership, mem, made⟩
    split at made
    · rename_i current
      obtain ⟨unit, filtered, rfl⟩ := Option.map_eq_some_iff.mp made
      obtain ⟨found, condo⟩ := Option.filter_eq_some_iff.mp filtered
      exact ⟨mem, current, found, of_decide_eq_true condo⟩
    · cases made
  · rintro ⟨mem, current, found, condo⟩
    refine ⟨owned.ownership, mem, ?_⟩
    rw [if_pos current, found, Option.filter_some, if_pos (decide_eq_true condo)]
    rfl

theorem ownership_exists {userId : Id} {ownership : Ownership} (mem : ownership ∈ db.ownerships)
    (own : ownership.userId = userId) (of : ownership.unitId = unitId) (current : ownership.current now = true) :
    ∃ row, db.ownership? now userId unitId = some row := by
  unfold GovernanceDb.ownership?
  rw [← Option.isSome_iff_exists, List.find?_isSome]
  exact ⟨ownership, mem, by simp [own, of, current]⟩

theorem reached_of_accepts (found : db.unit? unitId = some owned.unit) (accepted : Accepts now db poll owned.unit dto) :
    Reached now db poll unitId :=
  ⟨accepted.votingOpen.begun, accepted.votingOpen.running, owned.unit, found, accepted.audience⟩

theorem ownOpen_iff : OwnOpen user db item poll owned = true ↔ owned.ownership.userId = user.id ∧
    db.proxy? item.meeting.id owned.ownership.unitId = none ∧ db.voted poll.id owned.ownership.unitId = false := by
  unfold OwnOpen
  rw [Bool.and_eq_true, Bool.and_eq_true, decide_eq_true_eq, Option.isNone_iff_eq_none, Bool.not_eq_true', and_assoc]

theorem heldOpen_iff : HeldOpen env user db item poll proxy = true ↔
    proxy.meetingId = item.meeting.id ∧ isProxyHolder env user proxy = true ∧ db.voted poll.id proxy.unitId = false := by
  unfold HeldOpen
  rw [Bool.and_eq_true, Bool.and_eq_true, decide_eq_true_eq, Bool.not_eq_true', and_assoc]

theorem listed_of_casts (consistent : Consistent db) (casts : Casts env now user resolutionId db dto) :
    ∃ listing, getVotingEligibility env now user resolutionId db = .ok listing ∧ dto.unitId ∈ listing.castableUnits := by
  obtain ⟨item, poll, owned, stamp, ⟨votable, right⟩, unit, accepted, access⟩ := casts_iff.mp casts
  rw [poll_condo consistent votable] at access
  obtain ⟨listing, listed⟩ : ∃ listing, getVotingEligibility env now user resolutionId db = .ok listing :=
    listing_exists votable access
  refine ⟨listing, listed, ?_⟩
  rw [castable_units consistent listed votable, mem_append]
  cases held : db.proxy? item.meeting.id dto.unitId with
  | none =>
    left
    obtain ⟨owns, of, condo, -⟩ := (ballotRight_own held).mp right
    obtain ⟨mem, own, unitId, current⟩ := ownership_found owns
    refine mem_map.mpr ⟨owned, mem_filter.mpr ⟨mem_ownedUnits.mpr ⟨mem, current, unitId ▸ of, condo⟩, ?_⟩, unitId⟩
    exact ownOpen_iff.mpr ⟨own, unitId ▸ held, unitId ▸ accepted.fresh⟩
  | some proxy =>
    right
    obtain ⟨-, holder, -⟩ := (ballotRight_held held).mp right
    obtain ⟨mem, meeting, unitId⟩ := proxy_member held
    exact mem_map.mpr ⟨proxy, mem_filter.mpr ⟨mem, heldOpen_iff.mpr ⟨meeting, holder, unitId ▸ accepted.fresh⟩⟩, unitId⟩

theorem accepts_of_reached (consistent : Consistent db) (votable : votablePoll resolutionId db = .ok (item, poll))
    {unit : GovernanceUnit} (reached : Reached now db poll dto.unitId) (found : db.unit? dto.unitId = some unit)
    (condo : unit.condoId = item.meeting.condoId) (option : dto.optionId ∈ (db.optionsOf poll.id).map PollOption.id)
    (fresh : db.voted poll.id dto.unitId = false) : Accepts now db poll unit dto := by
  obtain ⟨-, linked, opened, -⟩ := votablePoll_ok.mp votable
  obtain ⟨other, same, audience⟩ := reached.audience
  obtain rfl := Option.some.inj (same.symm.trans found)
  exact ⟨(linked_found linked).2, ⟨opened, reached.begun, reached.running⟩, option,
    condo.trans (poll_condo consistent votable).symm, audience, fresh⟩

variable {optionId : Id}

section

variable (consistent : Consistent db)
include consistent

theorem casts_own (votable : votablePoll resolutionId db = .ok (item, poll))
    (access : hasCondoAccess user.toAuthenticatedUser item.meeting.condoId = true)
    (mem : owned ∈ db.ownedUnits now item.meeting.condoId) (open' : OwnOpen user db item poll owned = true)
    (reached : Reached now db poll owned.ownership.unitId)
    (option : optionId ∈ (db.optionsOf poll.id).map PollOption.id) :
    Casts env now user resolutionId db ⟨owned.ownership.unitId, optionId⟩ := by
  obtain ⟨stored, current, of, condo⟩ := mem_ownedUnits.mp mem
  obtain ⟨own, unproxied, fresh⟩ := ownOpen_iff.mp open'
  obtain ⟨row, owns⟩ := ownership_exists stored own rfl current
  refine casts_iff.mpr ⟨item, poll, ⟨row, owned.unit⟩, _, ⟨votable, (ballotRight_own unproxied).mpr ⟨owns, of, condo, rfl⟩⟩,
    (mem_of_findBy of).2, ?_, (poll_condo consistent votable).symm ▸ access⟩
  exact accepts_of_reached consistent votable reached of condo option fresh

theorem casts_held (votable : votablePoll resolutionId db = .ok (item, poll))
    (access : hasCondoAccess user.toAuthenticatedUser item.meeting.condoId = true) (mem : proxy ∈ db.proxies)
    (open' : HeldOpen env user db item poll proxy = true) (reached : Reached now db poll proxy.unitId)
    (other : proxy.ownerUserId ≠ user.id) (owns : (db.ownership? now proxy.ownerUserId proxy.unitId).isSome)
    (option : optionId ∈ (db.optionsOf poll.id).map PollOption.id) :
    Casts env now user resolutionId db ⟨proxy.unitId, optionId⟩ := by
  obtain ⟨meeting, holder, fresh⟩ := heldOpen_iff.mp open'
  obtain ⟨row, owns⟩ := Option.isSome_iff_exists.mp owns
  obtain ⟨unit, of, -⟩ := reached.audience
  have held := proxy_found consistent mem
  rw [meeting] at held
  have condo : unit.condoId = item.meeting.condoId := by
    obtain ⟨condoId, ofUnit, ofMeeting⟩ := consistent.proxied proxy mem
    obtain ⟨unitStored, named⟩ := mem_of_findBy of
    obtain ⟨found, -⟩ := votablePoll_ok.mp votable
    obtain ⟨meetingStored, meetingNamed⟩ := mem_of_findBy (meetingItem_ok.mp found).2
    obtain ⟨unit', unitListed, unitPair⟩ := mem_map.mp ofUnit
    obtain ⟨meeting', meetingListed, meetingPair⟩ := mem_map.mp ofMeeting
    obtain rfl := eq_of_key_eq consistent.unitIds.distinct unitListed unitStored ((congrArg Prod.fst unitPair).trans named.symm)
    obtain rfl := eq_of_key_eq consistent.meetingIds.distinct meetingListed meetingStored
      ((congrArg Prod.fst meetingPair).trans meeting)
    exact (congrArg Prod.snd unitPair).trans (congrArg Prod.snd meetingPair).symm
  refine casts_iff.mpr ⟨item, poll, ⟨row, unit⟩, _, ⟨votable, (ballotRight_held held).mpr ⟨other, holder, owns, of, rfl⟩⟩,
    (mem_of_findBy of).2, ?_, (poll_condo consistent votable).symm ▸ access⟩
  exact accepts_of_reached consistent votable reached of condo option fresh

theorem nodup_castable (single : (((db.ownedUnits now item.meeting.condoId).filter (OwnOpen user db item poll)).map
      fun owned => owned.ownership.unitId).Nodup) :
    ((((db.ownedUnits now item.meeting.condoId).filter (OwnOpen user db item poll)).map fun owned => owned.ownership.unitId) ++
      (db.proxies.filter (HeldOpen env user db item poll)).map MeetingProxy.unitId).Nodup := by
  refine nodup_append.mpr ⟨single, held_units_distinct consistent fun proxy open' => (heldOpen_iff.mp open').1, ?_⟩
  rintro _ own unitId held rfl
  obtain ⟨owned, listed, same⟩ := mem_map.mp own
  obtain ⟨proxy, mem, rfl⟩ := mem_map.mp held
  obtain ⟨stored, open'⟩ := mem_filter.mp mem
  have found := proxy_found consistent stored
  rw [(heldOpen_iff.mp open').1, ← same, (ownOpen_iff.mp (mem_filter.mp listed).2).2.1] at found
  cases found

theorem agrees_of_right (right : ListsRightly env now user resolutionId db) : Agrees env now user resolutionId db := by
  have open' {listing : VotingEligibility} {unitId : Id}
      (listed : getVotingEligibility env now user resolutionId db = .ok listing) (mem : unitId ∈ listing.castableUnits) :
      ∃ item poll, votablePoll resolutionId db = .ok (item, poll) ∧ listing.pollId = some poll.id ∧
        hasCondoAccess user.toAuthenticatedUser item.meeting.condoId = true := by
    obtain ⟨item, -, access, link, -, votes⟩ := listing_ok consistent listed
    unfold VotingEligibility.castableUnits at mem
    split at mem
    · rename_i voting
      obtain ⟨poll, votable⟩ := votes.mp voting
      exact ⟨item, poll, votable, link.trans (linked_found (votablePoll_ok.mp votable).2.1).1, access⟩
    · cases mem
  refine ⟨fun listing listed unitId mem pollId link option offered => ?_, fun dto => listed_of_casts consistent,
    fun listing listed => ?_⟩
  · obtain ⟨item, poll, votable, own, access⟩ := open' listed mem
    obtain rfl := Option.some.inj (own.symm.trans link)
    have fits := right item poll votable access
    rw [castable_units consistent listed votable, mem_append] at mem
    rcases mem with own | held
    · obtain ⟨owned, pick, rfl⟩ := mem_map.mp own
      obtain ⟨stored, open'⟩ := mem_filter.mp pick
      exact casts_own consistent votable access stored open' (fits.own owned stored open') (mem_map_of_mem offered)
    · obtain ⟨proxy, pick, rfl⟩ := mem_map.mp held
      obtain ⟨stored, open'⟩ := mem_filter.mp pick
      obtain ⟨reached, other, owns⟩ := fits.held proxy stored open'
      exact casts_held consistent votable access stored open' reached other owns (mem_map_of_mem offered)
  · by_cases some : listing.castableUnits = []
    · rw [some]
      exact nodup_nil
    · obtain ⟨unitId, mem⟩ := exists_mem_of_ne_nil _ some
      obtain ⟨item, poll, votable, -, access⟩ := open' listed mem
      rw [castable_units consistent listed votable]
      exact nodup_castable consistent (right item poll votable access).single

theorem right_of_agrees (agrees : Agrees env now user resolutionId db) : ListsRightly env now user resolutionId db := by
  intro item poll votable access
  obtain ⟨listing, listed⟩ : ∃ listing, getVotingEligibility env now user resolutionId db = .ok listing :=
    listing_exists votable access
  have units := castable_units consistent listed votable
  have linked := linked_found (votablePoll_ok.mp votable).2.1
  have link : listing.pollId = some poll.id := by
    obtain ⟨other, found, -, link, -⟩ := listing_ok consistent listed
    obtain rfl := Except.ok.inj (found.symm.trans (votablePoll_ok.mp votable).1)
    exact link.trans linked.1
  obtain ⟨option, stored, offered⟩ := consistent.votable poll.id (mem_map_of_mem (mem_of_findBy linked.2).1)
  have casts (unitId : Id) (mem : unitId ∈ listing.castableUnits) :
      ∃ owned stamp, Entitled env now db user resolutionId ⟨unitId, option.id⟩ item poll owned stamp ∧
        Accepts now db poll owned.unit ⟨unitId, option.id⟩ := by
    have cast := agrees.castable listing listed unitId mem poll.id link option (mem_optionsOf.mpr ⟨stored, offered⟩)
    obtain ⟨_, _, owned, stamp, entitled, -, accepted, -⟩ := casts_iff.mp cast
    obtain ⟨rfl, rfl⟩ := Prod.mk.inj (Except.ok.inj (votable.symm.trans entitled.votable))
    exact ⟨owned, stamp, entitled, accepted⟩
  refine ⟨fun owned mem open' => ?_, fun proxy mem open' => ?_, ?_⟩
  · have castable : owned.ownership.unitId ∈ listing.castableUnits := by
      rw [units]
      exact mem_append_left _ (mem_map.mpr ⟨owned, mem_filter.mpr ⟨mem, open'⟩, rfl⟩)
    obtain ⟨by', stamp, entitled, accepted⟩ := casts _ castable
    obtain ⟨-, of, -⟩ := (ballotRight_own (ownOpen_iff.mp open').2.1).mp entitled.right
    exact reached_of_accepts of accepted
  · have castable : proxy.unitId ∈ listing.castableUnits := by
      rw [units]
      exact mem_append_right _ (mem_map.mpr ⟨proxy, mem_filter.mpr ⟨mem, open'⟩, rfl⟩)
    obtain ⟨by', stamp, entitled, accepted⟩ := casts _ castable
    have held := proxy_found consistent mem
    rw [(heldOpen_iff.mp open').1] at held
    obtain ⟨other, -, owns, of, -⟩ := (ballotRight_held held).mp entitled.right
    exact ⟨reached_of_accepts of accepted, other, Option.isSome_iff_exists.mpr ⟨_, owns⟩⟩
  · have once := agrees.once listing listed
    rw [units] at once
    exact (nodup_append.mp once).1

end

end

/-- In every state that is reached, the listing and the casting agree exactly where it lists rightly. -/
theorem eligibility_agrees {env : GovernanceEnv} {initial db : GovernanceDb} {events : List GovernanceEvent}
    (first : initial.Initial) (run : Run (Step env) initial events db) (now : Instant) (user : Voter) (resolutionId : Id) :
    Agrees env now user resolutionId db ↔ ListsRightly env now user resolutionId db :=
  ⟨right_of_agrees (consistent_run first run), agrees_of_right (consistent_run first run)⟩

namespace Sample

def scheduled : List GovernanceEvent :=
  [.createMeeting manager ⟨1, .annual, "Meeting", 10, some "All owners", none⟩,
    .updateMeeting manager 2 ⟨none, none, none, none, none, some .noticePublished, none⟩,
    .addResolution manager 2 ⟨"Budget", none, none⟩, .openResolutionVoting 5 manager 3 ⟨some 100, none⟩]

def answers (now : Instant) : Option (List Id) × Bool :=
  (((getVotingEligibility plainEnv now owner 3 (after scheduled)).toOption).map VotingEligibility.castableUnits,
    ((castResolutionVote plainEnv now owner 3 ⟨1, 5⟩ (after scheduled)).1.toOption).isNone)

end Sample

theorem listed_too_early : ∃ initial events db now user resolutionId, initial.Initial ∧
    Run (Step Sample.plainEnv) initial events db ∧ ¬ Agrees Sample.plainEnv now user resolutionId db := by
  have answers : Sample.answers 6 = (some [1], true) := by decide +kernel
  have option : ((Sample.after Sample.scheduled).optionsOf 4).head?.map PollOption.id = some 5 := by decide +kernel
  have links : ((getVotingEligibility Sample.plainEnv 6 Sample.owner 3 (Sample.after Sample.scheduled)).toOption).map
      VotingEligibility.pollId = some (some 4) := by decide +kernel
  refine ⟨_, _, _, 6, Sample.owner, 3, Sample.condo_initial, Sample.after_reached Sample.scheduled, fun agrees => ?_⟩
  obtain ⟨units, refused⟩ := Prod.mk.inj answers
  cases listed : getVotingEligibility Sample.plainEnv 6 Sample.owner 3 (Sample.after Sample.scheduled) with
  | error failure =>
      rw [listed] at units
      cases units
  | ok listing =>
      rw [listed] at units links
      obtain ⟨first, head, named⟩ := Option.map_eq_some_iff.mp option
      have casts := agrees.castable listing listed 1 (Option.some.inj units ▸ List.mem_singleton_self 1) 4
        (Option.some.inj links) first (List.mem_of_mem_head? head)
      unfold Casts at casts
      rw [named] at casts
      rw [casts] at refused
      cases refused

theorem eligibility_agrees_scheduled : Agrees Sample.plainEnv 200 Sample.owner 3 (Sample.after Sample.scheduled) ↔
    ListsRightly Sample.plainEnv 200 Sample.owner 3 (Sample.after Sample.scheduled) :=
  eligibility_agrees Sample.condo_initial (Sample.after_reached Sample.scheduled) 200 Sample.owner 3

end SmartResidence.Governance
