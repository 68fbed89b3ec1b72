import SmartResidence.Proof.GovernanceRows

/-!
# Ballots are not lost

An update with options deletes the options of a draft poll, and a poll with ballots can be made a draft again.
-/

namespace SmartResidence.Governance

open Foundation Billing List

def GovernanceDb.option? (db : GovernanceDb) (id : Id) : Option PollOption := findBy PollOption.id id db.options

/-- Each ballot is still there with the option that it refers to, and no unit has two ballots on a poll. -/
structure BallotsKept (start finish : GovernanceDb) : Prop where
  stored : ∀ vote ∈ start.votes, vote ∈ finish.votes
  labels : ∀ vote ∈ start.votes, ∃ option, start.option? vote.optionId = some option ∧
    finish.option? vote.optionId = some option
  once : (finish.votes.map fun vote => (vote.pollId, vote.unitId)).Nodup

def RewritesNoBallot (db : GovernanceDb) : GovernanceEvent → Prop
  | .updatePoll now user pollId dto => ∀ existing, db.poll? pollId = some existing → AllowsUpdate now user dto existing →
      dto.options.isSome → db.votesOf pollId = []
  | _ => True

section

variable {env : GovernanceEnv} {before after : GovernanceDb} {event : GovernanceEvent}

def Grows (before after : GovernanceDb) : Prop := before.votes ⊆ after.votes ∧ before.options ⊆ after.options

theorem Grows.same {before after : GovernanceDb} (votes : after.votes = before.votes) (options : after.options = before.options) :
    Grows before after := by
  unfold Grows
  rw [votes, options]
  exact ⟨fun _ => id, fun _ => id⟩

variable {options : List PollOptionInput}

theorem grows_insertPoll {row : Id → Poll} : Grows before (before.insertPoll row options) :=
  ⟨fun _ => id, subset_append_left _ _⟩

theorem grows_storeVote {row : Id → PollVote} : Grows before (before.storeVote row) :=
  ⟨subset_append_left _ _, fun _ => id⟩

theorem grows_openVoting {item : MeetingItem} {opensAt : Instant} {closesAt : Option Instant} {snapshot : EligibilitySnapshot} :
    Grows before (before.openVoting item opensAt closesAt snapshot) := by
  have inserted : Grows before (before.insertPoll (resolutionPoll item opensAt closesAt) defaultResolutionOptions) :=
    grows_insertPoll
  unfold GovernanceDb.openVoting
  split
  · exact inserted
  · exact inserted

theorem replaced_kept (consistent : Consistent before) {pollId : Id} (none : before.votesOf pollId = [])
    {vote : PollVote} (mem : vote ∈ before.votes) :
    vote ∈ (before.replaceOptions pollId options).votes ∧
      ∃ option ∈ before.options, option.id = vote.optionId ∧ option ∈ (before.replaceOptions pollId options).options := by
  obtain ⟨option, listed, own, same⟩ := consistent.chosen vote mem
  have other : option.pollId ≠ pollId := by
    intro replaced
    have counted := mem_votesOf.mpr ⟨mem, same.symm.trans replaced⟩
    rw [none] at counted
    cases counted
  refine ⟨mem_filter.mpr ⟨mem, decide_eq_true fun gone => ?_⟩, option, listed, own, ?_⟩
  · obtain ⟨deleted, offered, named⟩ := mem_map.mp gone
    rw [mem_optionsOf] at offered
    obtain rfl := eq_of_key_eq consistent.optionIds.distinct offered.1 listed (named.trans own.symm)
    exact other offered.2
  · exact mem_append_left _ (mem_filter.mpr ⟨listed, decide_eq_true other⟩)

def Stays (before after : GovernanceDb) : Prop :=
  ∀ vote ∈ before.votes, vote ∈ after.votes ∧ ∃ option ∈ before.options, option.id = vote.optionId ∧ option ∈ after.options

theorem Grows.stays (grows : Grows before after) (consistent : Consistent before) : Stays before after := by
  intro vote mem
  obtain ⟨option, listed, own, -⟩ := consistent.chosen vote mem
  exact ⟨grows.1 mem, option, listed, own, grows.2 listed⟩

theorem stays_rewritePoll (consistent : Consistent before) {now : Instant} {existing : Poll} {dto : UpdatePollDto}
    (none : dto.options.isSome → before.votesOf existing.id = []) : Stays before (before.rewritePoll now existing dto) := by
  unfold GovernanceDb.rewritePoll
  cases sent : dto.options with
  | none => exact (Grows.same rfl rfl).stays consistent
  | some options =>
    split
    · intro vote mem
      exact replaced_kept consistent (none (by rw [sent]; rfl)) mem
    · exact (Grows.same rfl rfl).stays consistent

theorem stays_step (consistent : Consistent before) (effect : Effect env before event after)
    (sound : RewritesNoBallot before event) : Stays before after := by
  cases effect with
  | pollUpdated found allowed =>
    obtain rfl := poll_found found
    exact stays_rewritePoll consistent (sound _ found allowed)
  | pollCreated => exact grows_insertPoll.stays consistent
  | voted => exact grows_storeVote.stays consistent
  | resolved => exact grows_storeVote.stays consistent
  | votingOpened => exact grows_openVoting.stays consistent
  | _ => exact (Grows.same rfl rfl).stays consistent

end

section

variable {env : GovernanceEnv} {initial start finish : GovernanceDb} {early late : List GovernanceEvent}

theorem stays_run (consistent : Consistent start) (run : Run (Guarded RewritesNoBallot (Step env)) start late finish) :
    Consistent finish ∧ Stays start finish := by
  induction run with
  | done => exact ⟨consistent, (Grows.same rfl rfl).stays consistent⟩
  | snoc _ move ih =>
    obtain ⟨earlier, stays⟩ := ih
    have effect := effect_of_step move.2
    have moved := stays_step earlier effect move.1
    refine ⟨consistent_step earlier effect, fun vote mem => ?_⟩
    obtain ⟨stored, option, listed, own, kept⟩ := stays vote mem
    obtain ⟨still, same, found, named, later⟩ := moved vote stored
    obtain rfl := eq_of_key_eq earlier.optionIds.distinct found kept (named.trans own.symm)
    exact ⟨still, same, listed, own, later⟩

/-- In runs whose option edits meet no ballot, what is recorded stays. -/
theorem ballots_kept (first : initial.Initial) (reached : Run (Guarded RewritesNoBallot (Step env)) initial early start)
    (run : Run (Guarded RewritesNoBallot (Step env)) start late finish) : BallotsKept start finish := by
  have consistent := consistent_run first reached.guard_forgotten
  obtain ⟨later, stays⟩ := stays_run consistent run
  refine ⟨fun vote member => (stays vote member).1, fun vote member => ?_, later.oneBallot⟩
  obtain ⟨-, option, listed, own, kept⟩ := stays vote member
  refine ⟨option, ?_, ?_⟩
  · unfold GovernanceDb.option?
    rw [← own]
    exact findBy_of_mem consistent.optionIds.distinct listed
  · unfold GovernanceDb.option?
    rw [← own]
    exact findBy_of_mem later.optionIds.distinct kept

end

namespace Sample

def plainOptions : PollOptionInputs := ⟨[⟨"Yes", none⟩, ⟨"No", none⟩], by decide, by decide⟩

def unchanged : UpdatePollDto := ⟨none, none, none, none, none, none, none, none⟩

def voted : List GovernanceEvent :=
  [.createPoll manager ⟨1, "Paint", "Colour", none, none, none, none, plainOptions⟩,
    .updatePoll 1 manager 2 { unchanged with status := some .opened }, .castVote 2 owner 2 ⟨1, 3⟩]

def redrafted : List GovernanceEvent :=
  [.updatePoll 3 manager 2 { unchanged with status := some .draft },
    .updatePoll 4 manager 2 { unchanged with options := some plainOptions }]

end Sample

theorem ballot_deleted : ∃ early late start finish, Sample.condo.Initial ∧
    Run (Step Sample.plainEnv) Sample.condo early start ∧ Run (Step Sample.plainEnv) start late finish ∧
    ¬ BallotsKept start finish := by
  have recorded : (Sample.after Sample.voted).votes.length = 1 := by decide +kernel
  have lost : (Sample.redrafted.foldl (fun db event => db.next Sample.plainEnv event) (Sample.after Sample.voted)).votes = [] := by
    decide +kernel
  refine ⟨_, _, _, _, Sample.condo_initial, Sample.after_reached Sample.voted, .of_foldl _ Sample.redrafted, fun kept => ?_⟩
  obtain ⟨vote, only⟩ := List.length_eq_one_iff.mp recorded
  have still := kept.stored vote (by rw [only]; exact List.mem_singleton_self vote)
  rw [lost] at still
  cases still

theorem ballots_kept_closed : ∃ start finish, start.votes.length = 1 ∧ BallotsKept start finish := by
  have recorded : (Sample.after Sample.voted).votes.length = 1 := by decide +kernel
  have silent : Run.Meets RewritesNoBallot (fun before event => before.next Sample.plainEnv event) Sample.condo Sample.voted := by
    unfold Sample.voted
    simp only [Run.Meets, RewritesNoBallot, and_true, true_and]
    intro _ _ _ sent
    cases sent
  have reached : Run (Guarded RewritesNoBallot (Step Sample.plainEnv)) Sample.condo Sample.voted (Sample.after Sample.voted) :=
    .guarded_of_foldl silent
  have swept : Run (Guarded RewritesNoBallot (Step Sample.plainEnv)) (Sample.after Sample.voted) [.closeExpiredPolls 9] _ :=
    .guarded_of_foldl ⟨trivial, trivial⟩
  exact ⟨_, _, recorded, ballots_kept Sample.condo_initial reached swept⟩

end SmartResidence.Governance
