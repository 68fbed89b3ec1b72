import Mathlib.Algebra.Order.BigOperators.Group.List
import SmartResidence.Proof.VotingRights

/-!
# Ballots against the register that is frozen when the voting opens
-/

namespace SmartResidence.Governance

open Foundation Billing Settings List

def Weighs (snapshot : EligibilitySnapshot) (unitId : Id) (weight : Nat) : Prop :=
  ∃ unit ∈ snapshot.units, unit.unitId = unitId ∧ unit.sharePercent = weight

structure TakenOf (snapshot : EligibilitySnapshot) (quorum : Quorum) : Prop where
  eligible : quorum.eligibleShareWeight = snapshot.totalShareWeight
  nonneg : 0 ≤ quorum.castSharePercentOfEligible
  within : quorum.castSharePercentOfEligible ≤ 100

structure MatchesRegister (votes : List PollVote) (resolution : MeetingResolution) (pollId : Id) (snapshot : EligibilitySnapshot) :
    Prop where
  frozen : resolution.eligibilitySnapshot = some snapshot
  ballots : ∀ vote ∈ votes, vote.pollId = pollId → Weighs snapshot vote.unitId vote.weight
  quorum : ∀ results, resolution.resultsSnapshot = some results → TakenOf snapshot results.quorum

def BallotsMatchRegister (db : GovernanceDb) : Prop :=
  ∀ resolution ∈ db.resolutions, ∀ pollId, resolution.pollId = some pollId →
    ∃ snapshot, MatchesRegister db.votes resolution pollId snapshot

def CastsFrozen (db : GovernanceDb) (pollId unitId : Id) (ownership : Ownership) : Prop :=
  ∀ resolution ∈ db.resolutions, resolution.pollId = some pollId →
    ∀ snapshot ∈ resolution.eligibilitySnapshot, Weighs snapshot unitId ownership.sharePercent

structure SameRegister (db : GovernanceDb) (now : Instant) (condoId : Id) (snapshot : EligibilitySnapshot) : Prop where
  within : ∀ owned ∈ db.ownedUnits now condoId, 0 < owned.ownership.sharePercent →
    ∃ unit ∈ snapshot.units, unit.unitId = owned.ownership.unitId ∧ owned.ownership.sharePercent ≤ unit.sharePercent
  reached : ∀ unit ∈ snapshot.units, 0 < unit.sharePercent →
    ∃ owned ∈ db.ownedUnits now condoId, owned.ownership.unitId = unit.unitId ∧ owned.ownership.sharePercent = unit.sharePercent

def ByRegister (env : GovernanceEnv) (db : GovernanceDb) : GovernanceEvent → Prop
  | .castVote now user pollId dto => ∀ poll, ∀ owned : OwnedUnit, db.poll? pollId = some poll →
      db.ownership? now user.id dto.unitId = some owned.ownership → Accepts now db poll owned.unit dto →
      CastsFrozen db pollId dto.unitId owned.ownership
  | .castResolutionVote now user resolutionId dto => ∀ item poll owned stamp,
      Entitled env now db user resolutionId dto item poll owned stamp → Accepts now db poll owned.unit dto →
      CastsFrozen db poll.id dto.unitId owned.ownership
  | .closeResolutionVoting now user resolutionId => ∀ item poll, db.meetingItem resolutionId = .ok item →
      isManagementForCondo user.toAuthenticatedUser item.meeting.condoId = true →
      db.linkedPoll? item.resolution = some poll → poll.status ≠ .closed →
      ∀ snapshot, item.resolution.eligibilitySnapshot = some snapshot → SameRegister db now item.meeting.condoId snapshot
  | _ => True

/-! ## The shares of a register -/

section

variable {db : GovernanceDb} {now : Instant} {condoId : Id} {snapshot : EligibilitySnapshot}

theorem enterUnit_nodup {entries : List SnapshotUnit} (nodup : (entries.map SnapshotUnit.unitId).Nodup)
    (entry : SnapshotUnit) : ((enterUnit entries entry).map SnapshotUnit.unitId).Nodup := by
  unfold enterUnit
  cases found : findBy SnapshotUnit.unitId entry.unitId entries with
  | none =>
    rw [map_append, nodup_append]
    refine ⟨nodup, by simp, fun key stored other new same => ?_⟩
    obtain ⟨unit, mem, rfl⟩ := mem_map.mp stored
    rw [map_singleton, mem_singleton] at new
    exact findBy_eq_none.mp found unit mem (same.trans new)
  | some existing =>
    dsimp only
    split
    · have keys : (updateBy SnapshotUnit.unitId entry.unitId (fun _ => entry) entries).map SnapshotUnit.unitId =
          entries.map SnapshotUnit.unitId := by
        exact map_updateWhere _ fun unit _ pick => (of_decide_eq_true pick).symm
      rw [keys]
      exact nodup
    · exact nodup

theorem snapshot_distinct (now : Instant) (condoId : Id) (db : GovernanceDb) :
    ((buildEligibilitySnapshot now condoId db).units.map SnapshotUnit.unitId).Nodup := by
  unfold buildEligibilitySnapshot
  dsimp only
  generalize ((db.ownedUnits now condoId).mergeSort registerOrder).map db.snapshotUnit = entries
  induction entries using List.reverseRecOn with
  | nil => exact nodup_nil
  | append_singleton entries entry ih =>
    rw [foldl_append]
    exact enterUnit_nodup ih entry

structure LargestShares (given : List OwnedUnit) (shares : List (Id × Nat)) : Prop where
  distinct : (shares.map Prod.fst).Nodup
  reached : ∀ pair ∈ shares, 0 < pair.2 ∧
    ∃ owned ∈ given, owned.ownership.unitId = pair.1 ∧ owned.ownership.sharePercent = pair.2
  within : ∀ owned ∈ given, 0 < owned.ownership.sharePercent →
    ∃ pair ∈ shares, pair.1 = owned.ownership.unitId ∧ owned.ownership.sharePercent ≤ pair.2

theorem LargestShares.enter {given : List OwnedUnit} {shares : List (Id × Nat)} (largest : LargestShares given shares)
    (owned : OwnedUnit) : LargestShares (given ++ [owned]) (enterShare shares owned) := by
  have older : ∀ pair ∈ shares, 0 < pair.2 ∧
      ∃ other ∈ given ++ [owned], other.ownership.unitId = pair.1 ∧ other.ownership.sharePercent = pair.2 := by
    intro pair mem
    obtain ⟨pos, other, listed, same⟩ := largest.reached pair mem
    exact ⟨pos, other, mem_append_left _ listed, same⟩
  unfold enterShare
  split
  · rename_i larger
    refine ⟨nodup_assign largest.distinct, fun pair mem => ?_, fun other mem pos => ?_⟩
    · rcases mem_assign mem with rfl | old
      · exact ⟨by dsimp only; omega, owned, mem_append_right _ (mem_singleton_self _), rfl, rfl⟩
      · exact older pair old
    · rcases mem_append.mp mem with earlier | last
      · obtain ⟨pair, stored, own, bound⟩ := largest.within other earlier pos
        by_cases same : pair.1 = owned.ownership.unitId
        · refine ⟨_, assigned_mem, same ▸ own, ?_⟩
          have looked : shares.lookup owned.ownership.unitId = some pair.2 := lookup_of_mem largest.distinct (same ▸ stored)
          rw [looked] at larger
          exact bound.trans larger.le
        · exact ⟨pair, mem_assign_of_ne same stored, own, bound⟩
      · obtain rfl := mem_singleton.mp last
        exact ⟨_, assigned_mem, rfl, le_refl _⟩
  · rename_i small
    refine ⟨largest.distinct, older, fun other mem pos => ?_⟩
    rcases mem_append.mp mem with earlier | last
    · exact largest.within other earlier pos
    · obtain rfl := mem_singleton.mp last
      cases looked : shares.lookup other.ownership.unitId with
      | none =>
        rw [looked] at small
        exact absurd pos small
      | some share =>
        rw [looked, not_lt] at small
        exact ⟨(other.ownership.unitId, share), mem_of_lookup looked, rfl, small⟩

theorem largestShares_enter (given : List OwnedUnit) : LargestShares given (given.foldl enterShare []) := by
  induction given using List.reverseRecOn with
  | nil => exact ⟨nodup_nil, (fun _ none => nomatch none), fun _ none => nomatch none⟩
  | append_singleton given owned ih =>
    rw [foldl_append]
    exact ih.enter owned

theorem sum_positive (units : List SnapshotUnit) : ((units.filter fun unit => decide (0 < unit.sharePercent)).map
    SnapshotUnit.sharePercent).sum = (units.map SnapshotUnit.sharePercent).sum := by
  induction units with
  | nil => rfl
  | cons unit units ih =>
    by_cases pos : 0 < unit.sharePercent
    · simp [pos, ih]
    · have zero : unit.sharePercent = 0 := Nat.eq_zero_of_not_pos pos
      simp [zero, ih]

theorem shares_of_same (nodup : (snapshot.units.map SnapshotUnit.unitId).Nodup)
    (same : SameRegister db now condoId snapshot) :
    (((db.ownedUnits now condoId).foldl enterShare []).map Prod.snd).sum =
      (snapshot.units.map SnapshotUnit.sharePercent).sum := by
  have largest := largestShares_enter (db.ownedUnits now condoId)
  have pos : ((snapshot.units.filter fun unit => decide (0 < unit.sharePercent)).map SnapshotUnit.unitId).Nodup :=
    nodup.sublist (filter_sublist.map _)
  have perm : ((db.ownedUnits now condoId).foldl enterShare []).Perm
      ((snapshot.units.filter fun unit => decide (0 < unit.sharePercent)).map fun unit => (unit.unitId, unit.sharePercent)) := by
    refine (perm_ext_iff_of_nodup largest.distinct.of_map ?_).mpr fun pair => ?_
    · refine List.Nodup.of_map Prod.fst ?_
      rw [map_map]
      exact pos
    · rw [mem_map]
      constructor
      · intro mem
        obtain ⟨more, owned, listed, own, share⟩ := largest.reached pair mem
        obtain ⟨unit, stored, name, bound⟩ := same.within owned listed (share ▸ more)
        -- the unit still has its share, and none of its shares is larger than the one counted
        obtain ⟨other, found, also, exact'⟩ := same.reached unit stored (lt_of_lt_of_le (share ▸ more) bound)
        obtain ⟨counted, inside, key, most⟩ := largest.within other found (exact' ▸ lt_of_lt_of_le (share ▸ more) bound)
        obtain rfl := eq_of_key_eq largest.distinct inside mem (key.trans (also.trans (name.trans own)))
        refine ⟨unit, mem_filter.mpr ⟨stored, decide_eq_true (lt_of_lt_of_le (share ▸ more) bound)⟩, ?_⟩
        refine Prod.ext (name.trans own) (le_antisymm (exact' ▸ most) (share ▸ bound))
      · rintro ⟨unit, kept, rfl⟩
        obtain ⟨stored, more⟩ := mem_filter.mp kept
        obtain ⟨owned, listed, own, share⟩ := same.reached unit stored (of_decide_eq_true more)
        obtain ⟨pair, inside, key, bound⟩ := largest.within owned listed (share ▸ of_decide_eq_true more)
        obtain ⟨_, other, found, also, exact'⟩ := largest.reached pair inside
        obtain ⟨last, known, name, most⟩ := same.within other found (exact' ▸ lt_of_lt_of_le (share ▸ of_decide_eq_true more) bound)
        obtain rfl := eq_of_key_eq nodup known stored (name.trans (also.trans (key.trans own)))
        have equal : pair = (last.unitId, last.sharePercent) :=
          Prod.ext (key.trans own) (le_antisymm (exact' ▸ most) (share ▸ bound))
        exact equal ▸ inside
  rw [(perm.map Prod.snd).sum_eq, map_map, ← sum_positive]
  rfl

theorem weights_le {votes : List PollVote} (once : (votes.map PollVote.unitId).Nodup)
    (ballots : ∀ vote ∈ votes, Weighs snapshot vote.unitId vote.weight) :
    totalWeight votes ≤ (snapshot.units.map SnapshotUnit.sharePercent).sum := by
  have pairs : (votes.map fun vote => (vote.unitId, vote.weight)).Nodup := by
    refine List.Nodup.of_map Prod.fst ?_
    rw [map_map]
    exact once
  have among : (votes.map fun vote => (vote.unitId, vote.weight)) ⊆
      snapshot.units.map fun unit => (unit.unitId, unit.sharePercent) := by
    intro pair mem
    obtain ⟨vote, cast, rfl⟩ := mem_map.mp mem
    obtain ⟨unit, stored, own, share⟩ := ballots vote cast
    exact mem_map.mpr ⟨unit, stored, Prod.ext own share⟩
  obtain ⟨part, same, inside⟩ := subperm_of_subset pairs among
  have parts := (inside.map Prod.snd).sum_le_sum fun _ _ => Nat.zero_le _
  rw [(same.map Prod.snd).sum_eq, map_map, map_map] at parts
  exact parts

theorem castPercent_bounds (count : Nat) {cast eligible : Nat} (within : cast ≤ eligible) :
    0 ≤ castPercent count cast eligible ∧ castPercent count cast eligible ≤ 100 := by
  unfold castPercent
  split
  · rename_i some
    have whole : (0 : ℚ) < eligible := by exact_mod_cast some
    have share : (cast : ℚ) / eligible ≤ 1 := by
      rw [div_le_one whole]
      exact_mod_cast within
    have nonneg : (0 : ℚ) ≤ (cast : ℚ) / eligible := by positivity
    have lower : 0 ≤ mathRound ((cast : ℚ) / eligible * 100000) := by
      rw [mathRound, le_roundHalfUp_iff]
      linarith
    have upper : mathRound ((cast : ℚ) / eligible * 100000) ≤ 100000 := by
      rw [mathRound, roundHalfUp_le_iff]
      linarith
    have lowerCast : (0 : ℚ) ≤ mathRound ((cast : ℚ) / eligible * 100000) := by exact_mod_cast lower
    have upperCast : (mathRound ((cast : ℚ) / eligible * 100000) : ℚ) ≤ 100000 := by exact_mod_cast upper
    constructor <;> linarith
  · split <;> norm_num

end

/-! ## Every step -/

structure Tallied (snapshot : EligibilitySnapshot) : Prop where
  distinct : (snapshot.units.map SnapshotUnit.unitId).Nodup
  total : snapshot.totalShareWeight = (snapshot.units.map SnapshotUnit.sharePercent).sum

structure Held (votes : List PollVote) (resolution : MeetingResolution) : Prop where
  unopened : resolution.pollId = none → resolution.resultsSnapshot = none
  opened : ∀ pollId, resolution.pollId = some pollId →
    ∃ snapshot, Tallied snapshot ∧ MatchesRegister votes resolution pollId snapshot

def RegisterHeld (db : GovernanceDb) : Prop := ∀ resolution ∈ db.resolutions, Held db.votes resolution

structure Enrolled (db : GovernanceDb) : Prop where
  consistent : Consistent db
  held : RegisterHeld db

section

variable {env : GovernanceEnv} {db before after : GovernanceDb} {event : GovernanceEvent} {now : Instant}
  {votes others : List PollVote} {resolution other : MeetingResolution}

theorem Held.fewer (held : Held votes resolution) (fewer : ∀ vote ∈ others, vote ∈ votes) : Held others resolution where
  unopened := held.unopened
  opened := by
    intro pollId link
    obtain ⟨snapshot, tallied, frozen, ballots, quorum⟩ := held.opened pollId link
    exact ⟨snapshot, tallied, frozen, fun vote mem => ballots vote (fewer vote mem), quorum⟩

theorem Held.same (held : Held votes resolution) (link : other.pollId = resolution.pollId)
    (snapshots : other.eligibilitySnapshot = resolution.eligibilitySnapshot)
    (results : other.resultsSnapshot = resolution.resultsSnapshot) : Held votes other where
  unopened := by
    rw [link, results]
    exact held.unopened
  opened := by
    intro pollId linked
    obtain ⟨snapshot, tallied, frozen, ballots, quorum⟩ := held.opened pollId (link ▸ linked)
    exact ⟨snapshot, tallied, snapshots.trans frozen, ballots, fun taken set => quorum taken (results ▸ set)⟩

theorem Held.cast (held : Held votes resolution) {row : PollVote}
    (weighs : resolution.pollId = some row.pollId → ∀ snapshot ∈ resolution.eligibilitySnapshot,
      Weighs snapshot row.unitId row.weight) : Held (votes ++ [row]) resolution where
  unopened := held.unopened
  opened := by
    intro pollId link
    obtain ⟨snapshot, tallied, frozen, ballots, quorum⟩ := held.opened pollId link
    refine ⟨snapshot, tallied, frozen, fun vote mem own => ?_, quorum⟩
    rcases mem_append.mp mem with earlier | last
    · exact ballots vote earlier own
    · obtain rfl := mem_singleton.mp last
      exact weighs (link.trans (congrArg some own.symm)) snapshot frozen

theorem held_kept (held : RegisterHeld before) (resolutions : after.resolutions = before.resolutions)
    (votes : ∀ vote ∈ after.votes, vote ∈ before.votes) : RegisterHeld after := by
  intro resolution mem
  rw [resolutions] at mem
  exact (held resolution mem).fewer votes

theorem held_storeVote (held : RegisterHeld before) {row : Id → PollVote}
    (weighs : ∀ resolution ∈ before.resolutions, resolution.pollId = some (row before.nextId).pollId →
      ∀ snapshot ∈ resolution.eligibilitySnapshot, Weighs snapshot (row before.nextId).unitId (row before.nextId).weight) :
    RegisterHeld (before.storeVote row) :=
  fun resolution mem => (held resolution mem).cast (weighs resolution mem)

theorem votes_rewritePoll {existing : Poll} {dto : UpdatePollDto} :
    ∀ vote ∈ (db.rewritePoll now existing dto).votes, vote ∈ db.votes := by
  unfold GovernanceDb.rewritePoll
  cases dto.options with
  | none => exact fun _ => id
  | some sent =>
    split
    · exact fun _ mem => (mem_filter.mp mem).1
    · exact fun _ => id

variable {item : MeetingItem}

theorem votes_openVoting {opensAt : Instant} {closesAt : Option Instant} {snapshot : EligibilitySnapshot} :
    (db.openVoting item opensAt closesAt snapshot).votes = db.votes := by
  unfold GovernanceDb.openVoting
  split
  · rfl
  · rfl

theorem no_early_ballot (consistent : Consistent db) : ∀ vote ∈ db.votes, vote.pollId ≠ db.nextId := by
  intro vote mem same
  obtain ⟨option, listed, -, own⟩ := consistent.chosen vote mem
  have below := consistent.pollIds.below _ (consistent.offered option listed)
  rw [own, same] at below
  exact lt_irrefl _ below

variable {resolutionId : Id}

theorem held_openVoting (consistent : Consistent db) (held : RegisterHeld db)
    (found : db.meetingItem resolutionId = .ok item) (unlinked : item.resolution.pollId = none) (opensAt : Instant)
    (closesAt : Option Instant) :
    RegisterHeld (db.openVoting item opensAt closesAt (buildEligibilitySnapshot now item.meeting.condoId db)) := by
  intro resolution mem
  rw [votes_openVoting]
  rw [resolutions_openVoting] at mem
  obtain ⟨old, stored, rfl⟩ := mem_updateBy.mp mem
  split
  · rename_i same
    obtain ⟨listed, -⟩ := mem_of_findBy (meetingItem_ok.mp found).1
    obtain rfl := eq_of_key_eq consistent.resolutionIds.distinct stored listed same
    have none := (held _ listed).unopened unlinked
    refine ⟨nofun, fun pollId link => ?_⟩
    cases link
    refine ⟨_, ⟨snapshot_distinct now item.meeting.condoId db, rfl⟩, rfl, fun vote cast own => ?_, fun results set => ?_⟩
    · exact absurd own (no_early_ballot consistent vote cast)
    · cases none.symm.trans set
  · exact held old stored

theorem votesOf_once (consistent : Consistent db) (pollId : Id) : ((db.votesOf pollId).map PollVote.unitId).Nodup := by
  have pairs : ((db.votesOf pollId).map fun vote => (vote.pollId, vote.unitId)).Nodup :=
    consistent.oneBallot.sublist (filter_sublist.map _)
  have own : ((db.votesOf pollId).map fun vote => (vote.pollId, vote.unitId)) =
      ((db.votesOf pollId).map PollVote.unitId).map (Prod.mk pollId) := by
    rw [map_map]
    refine map_congr_left fun vote mem => ?_
    rw [(mem_votesOf.mp mem).2]
    rfl
  rw [own] at pairs
  exact pairs.of_map

theorem takenOf_same (consistent : Consistent db) {snapshot : EligibilitySnapshot} (tallied : Tallied snapshot)
    {condoId pollId : Id} (ballots : ∀ vote ∈ db.votes, vote.pollId = pollId → Weighs snapshot vote.unitId vote.weight)
    (same : SameRegister db now condoId snapshot) (quorumPercent : ℚ) :
    TakenOf snapshot (computeQuorumForPoll now condoId pollId quorumPercent db) := by
  have eligible : (computeQuorumBaseline now condoId quorumPercent db).eligibleShareWeight = snapshot.totalShareWeight :=
    (shares_of_same tallied.distinct same).trans tallied.total.symm
  have cast : totalWeight (db.votesOf pollId) ≤ snapshot.totalShareWeight := by
    rw [tallied.total]
    refine weights_le (votesOf_once consistent pollId) fun vote mem => ?_
    obtain ⟨stored, own⟩ := mem_votesOf.mp mem
    exact ballots vote stored own
  have bounds := castPercent_bounds (db.votesOf pollId).length cast
  rw [← eligible] at bounds
  exact ⟨eligible, bounds.1, bounds.2⟩

theorem held_closeVoting (consistent : Consistent db) (held : RegisterHeld db) {poll : Poll}
    (found : db.meetingItem resolutionId = .ok item) (linked : db.linkedPoll? item.resolution = some poll)
    (same : ∀ snapshot, item.resolution.eligibilitySnapshot = some snapshot →
      SameRegister db now item.meeting.condoId snapshot) :
    RegisterHeld (db.closeVoting now resolutionId poll.id (takeResults now item poll.id db)) := by
  intro resolution mem
  obtain ⟨old, stored, rfl⟩ := mem_updateBy.mp mem
  split
  · rename_i own
    obtain ⟨listed, named⟩ := mem_of_findBy (meetingItem_ok.mp found).1
    obtain rfl := eq_of_key_eq consistent.resolutionIds.distinct stored listed (own.trans named.symm)
    obtain ⟨link, -⟩ := linked_found linked
    refine ⟨fun none => ?_, fun pollId again => ?_⟩
    · cases link.symm.trans none
    · obtain rfl := Option.some.inj (link.symm.trans again)
      obtain ⟨snapshot, tallied, frozen, ballots, -⟩ := (held _ listed).opened _ link
      refine ⟨snapshot, tallied, frozen, ballots, fun results set => ?_⟩
      cases set
      exact takenOf_same consistent tallied ballots (same snapshot frozen) item.meeting.quorumPercent
  · exact held old stored

theorem close_refused {user : Voter} (found : db.meetingItem resolutionId = .ok item)
    (other : isManagementForCondo user.toAuthenticatedUser item.meeting.condoId ≠ true) :
    db.next env (.closeResolutionVoting now user resolutionId) = db := by
  rcases commit_cases db (closeResolutionVoting now user resolutionId) with same | done
  · exact same
  · simp only [closeResolutionVoting, bind_eq_ok] at done
    obtain ⟨read, loaded, _, manages, -⟩ := done
    obtain rfl := Except.ok.inj (found.symm.trans loaded)
    exact absurd (assertManagement_ok.mp manages) other

theorem held_step (consistent : Consistent before) (held : RegisterHeld before) (step : Step env before event after)
    (frozen : ByRegister env before event) : RegisterHeld after := by
  have effect := effect_of_step step
  cases effect with
  | idle => exact held
  | pollUpdated => exact held_kept held rewritePoll_rest.2.1 votes_rewritePoll
  | voted owns of accepted => exact held_storeVote held (frozen _ _ accepted.found owns accepted)
  | resolved entitled accepted => exact held_storeVote held (frozen _ _ _ _ entitled accepted)
  | resolutionAdded =>
    intro resolution mem
    rcases mem_append.mp mem with stored | new
    · exact held resolution stored
    · obtain rfl := mem_singleton.mp new
      exact ⟨fun _ => rfl, nofun⟩
  | resolutionUpdated =>
    intro resolution mem
    obtain ⟨old, stored, rfl⟩ := mem_updateBy.mp mem
    split
    · exact (held old stored).same rfl rfl rfl
    · exact held old stored
  | votingOpened found unlinked => exact held_openVoting consistent held found unlinked _ _
  | @votingClosed now user resolutionId item poll found linked running =>
    by_cases manages : isManagementForCondo user.toAuthenticatedUser item.meeting.condoId = true
    · exact held_closeVoting consistent held found linked (frozen item poll found manages linked running)
    · rw [← step, close_refused found manages]
      exact held
  | _ => exact held_kept held rfl fun _ => id

end

/-- In runs whose ballots and closings find the register unchanged, all ballots and quorums match the snapshot. -/
theorem ballots_match_register {env : GovernanceEnv} {initial db : GovernanceDb} {events : List GovernanceEvent}
    (first : initial.Initial) (run : Run (Guarded (ByRegister env) (Step env)) initial events db) :
    BallotsMatchRegister db := by
  have enrolled : Enrolled db := by
    refine run.invariant (fun _ _ _ earlier move => ?_) ⟨first.consistent, ?_⟩
    · exact ⟨consistent_step earlier.consistent (effect_of_step move.2), held_step earlier.consistent earlier.held move.2 move.1⟩
    · unfold RegisterHeld
      rw [first.noResolutions]
      exact fun _ none => nomatch none
  intro resolution member pollId link
  obtain ⟨snapshot, -, matched⟩ := (enrolled.held resolution member).opened pollId link
  exact ⟨snapshot, matched⟩

namespace Sample

def decided : List GovernanceEvent :=
  scheduled ++ [.castResolutionVote 150 owner 3 ⟨1, 5⟩, .closeResolutionVoting 200 manager 3]

def halved : List GovernanceEvent :=
  scheduled ++ [.register condo.users [⟨1, 1, 2, 50000, none, .active⟩], .castResolutionVote 150 owner 3 ⟨1, 5⟩]

def frozenShares (db : GovernanceDb) : List (Option (List (Id × Nat))) :=
  db.resolutions.map fun resolution =>
    resolution.eligibilitySnapshot.map fun snapshot => snapshot.units.map fun unit => (unit.unitId, unit.sharePercent)

theorem frozenShares_unit {db : GovernanceDb} {resolution : MeetingResolution} {snapshot : EligibilitySnapshot}
    (shares : frozenShares db = [some [(1, 100000)]]) (listed : resolution ∈ db.resolutions)
    (held : resolution.eligibilitySnapshot = some snapshot) : ∃ unit, snapshot.units = [unit] ∧ unit.unitId = 1 ∧
      unit.sharePercent = 100000 := by
  have mem := mem_map_of_mem (f := fun resolution : MeetingResolution => resolution.eligibilitySnapshot.map
    fun snapshot => snapshot.units.map fun unit => (unit.unitId, unit.sharePercent)) listed
  unfold frozenShares at shares
  rw [shares, mem_singleton, held, Option.map_some, Option.some.injEq, map_eq_singleton_iff] at mem
  obtain ⟨unit, only, pair⟩ := mem
  exact ⟨unit, only, Prod.mk.inj pair⟩

end Sample

theorem ballot_outweighed : ∃ initial events db, initial.Initial ∧ Run (Step Sample.plainEnv) initial events db ∧
    ¬ BallotsMatchRegister db := by
  have ballots : (Sample.after Sample.halved).votes.map (fun vote => (vote.pollId, vote.unitId, vote.weight)) =
      [(4, 1, 50000)] := by decide +kernel
  have links : (Sample.after Sample.halved).resolutions.map MeetingResolution.pollId = [some 4] := by decide +kernel
  have shares : Sample.frozenShares (Sample.after Sample.halved) = [some [(1, 100000)]] := by decide +kernel
  refine ⟨_, _, _, Sample.condo_initial, Sample.after_reached Sample.halved, fun kept => ?_⟩
  obtain ⟨resolution, only, link⟩ := List.map_eq_singleton_iff.mp links
  obtain ⟨vote, cast, row⟩ := List.map_eq_singleton_iff.mp ballots
  obtain ⟨own, unitId, weight⟩ : vote.pollId = 4 ∧ vote.unitId = 1 ∧ vote.weight = 50000 := by simpa using row
  have listed : resolution ∈ (Sample.after Sample.halved).resolutions := by
    rw [only]
    exact List.mem_singleton_self resolution
  obtain ⟨snapshot, frozen, weighs, -⟩ := kept resolution listed 4 link
  obtain ⟨other, member, -, same⟩ := weighs vote (by rw [cast]; exact List.mem_singleton_self vote) own
  obtain ⟨unit, units, -, share⟩ := Sample.frozenShares_unit shares listed frozen
  rw [units, List.mem_singleton] at member
  rw [member, share, weight] at same
  cases same

theorem ballots_match_decided : ∃ db, db.votes.length = 1 ∧
    db.resolutions.map (fun resolution => resolution.resultsSnapshot.isSome) = [true] ∧ BallotsMatchRegister db := by
  have cast : (Sample.after Sample.decided).votes.length = 1 := by decide +kernel
  have taken : (Sample.after Sample.decided).resolutions.map (fun resolution => resolution.resultsSnapshot.isSome) = [true] := by
    decide +kernel
  let voting := Sample.after Sample.scheduled
  let closing := voting.next Sample.plainEnv (.castResolutionVote 150 Sample.owner 3 ⟨1, 5⟩)
  have owner : voting.ownership? 150 2 1 = some ⟨1, 1, 2, 100000, none, .active⟩ := by decide +kernel
  have unproxied : voting.proxies = [] := by decide +kernel
  have open' : Sample.frozenShares voting = [some [(1, 100000)]] := by decide +kernel
  have still : Sample.frozenShares closing = [some [(1, 100000)]] := by decide +kernel
  have condos : closing.meetings.map GeneralMeeting.condoId = [1] := by decide +kernel
  have owned : (closing.ownedUnits 200 1).map OwnedUnit.ownership = [⟨1, 1, 2, 100000, none, .active⟩] := by decide +kernel
  have votes : ByRegister Sample.plainEnv voting (.castResolutionVote 150 Sample.owner 3 ⟨1, 5⟩) := by
    intro item poll other stamp entitled _ resolution listed _ snapshot held
    have none : voting.proxy? item.meeting.id 1 = Option.none := by
      unfold GovernanceDb.proxy?
      rw [unproxied]
      rfl
    obtain ⟨owns, -⟩ := (ballotRight_own none).mp entitled.right
    obtain same := Option.some.inj (owner.symm.trans owns)
    obtain ⟨unit, only, unitId, share⟩ := Sample.frozenShares_unit open' listed held
    exact ⟨unit, by rw [only]; exact List.mem_singleton_self unit, unitId, by rw [share, ← same]⟩
  have closes : ByRegister Sample.plainEnv closing (.closeResolutionVoting 200 Sample.manager 3) := by
    intro item poll found _ _ _ snapshot held
    obtain ⟨listed, meeting⟩ := meetingItem_ok.mp found
    have condo : item.meeting.condoId = 1 := by
      have member := List.mem_map_of_mem (f := GeneralMeeting.condoId) (mem_of_findBy meeting).1
      rwa [condos, List.mem_singleton] at member
    obtain ⟨unit, only, unitId, share⟩ := Sample.frozenShares_unit still (mem_of_findBy listed).1 held
    obtain ⟨entry, alone, own⟩ := List.map_eq_singleton_iff.mp owned
    rw [condo]
    constructor
    · intro other member _
      rw [alone, List.mem_singleton] at member
      refine ⟨unit, by rw [only]; exact List.mem_singleton_self unit, ?_⟩
      rw [member, own, unitId, share]
      exact ⟨rfl, le_refl _⟩
    · intro other member _
      rw [only, List.mem_singleton] at member
      refine ⟨entry, by rw [alone]; exact List.mem_singleton_self entry, ?_⟩
      rw [member, own, unitId, share]
      exact ⟨rfl, rfl⟩
  have run : Run (Guarded (ByRegister Sample.plainEnv) (Step Sample.plainEnv)) Sample.condo Sample.decided
      (Sample.after Sample.decided) := .guarded_of_foldl ⟨trivial, trivial, trivial, trivial, votes, closes, trivial⟩
  exact ⟨_, cast, taken, ballots_match_register Sample.condo_initial run⟩

end SmartResidence.Governance
