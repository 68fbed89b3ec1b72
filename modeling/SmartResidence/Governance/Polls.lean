import SmartResidence.Governance.Schema

/-!
# `polls.service.ts`
-/

namespace SmartResidence.Governance

open Foundation Billing Settings

def commit (change : GovernanceDb → Result GovernanceDb) : Operation Unit := fun db =>
  match change db with
  | .ok after => (.ok (), after)
  | .error failure => (.error failure, db)

def look {Value : Type} (find : GovernanceDb → Result Value) : Operation Value := fun db => (find db, db)

def effectivePollStatus (now : Instant) (poll : Poll) : PollStatus :=
  if poll.status = .opened ∧ poll.closesAt.any fun closes => decide (closes ≤ now) then .closed else poll.status

structure PollOptionInput where
  label : String
  position : Option ℤ

structure PollOptionInputs where
  options : List PollOptionInput
  arrayMinSize : 2 ≤ options.length
  arrayMaxSize : options.length ≤ 10

structure CreatePollDto where
  condoId : Id
  title : String
  description : String
  opensAt : Option Instant
  closesAt : Option Instant
  audienceScope : Option PollAudienceScope
  blockIds : Option (List Id)
  options : PollOptionInputs

/-- `none` leaves a field as it is; `some none` clears an instant. -/
structure UpdatePollDto where
  title : Option String
  description : Option String
  opensAt : Option (Option Instant)
  closesAt : Option (Option Instant)
  audienceScope : Option PollAudienceScope
  blockIds : Option (List Id)
  status : Option PollStatus
  options : Option PollOptionInputs

def validateSchedule (opensAt closesAt : Option Instant) : Result Unit :=
  throwIf (opensAt.any fun opens => closesAt.any fun closes => decide (closes ≤ opens))
    (.badRequest "closesAt must be after opensAt")

def validateAudience (scope : Option PollAudienceScope) (blockIds : Option (List Id)) : Result Unit :=
  throwIf (scope = some .block ∧ blockIds.getD [] = []) (.badRequest "blockIds required when audienceScope is BLOCK")

def optionRows (pollId first : Id) (options : List PollOptionInput) : List PollOption :=
  options.mapIdx fun i option => ⟨first + i, pollId, trimText option.label, option.position.getD i⟩

def GovernanceDb.insertPoll (db : GovernanceDb) (row : Id → Poll) (options : List PollOptionInput) : GovernanceDb :=
  { db with
    polls := db.polls ++ [row db.nextId]
    options := db.options ++ optionRows db.nextId (db.nextId + 1) options
    nextId := db.nextId + 1 + options.length }

def CreatePollDto.row (dto : CreatePollDto) (id : Id) : Poll :=
  { id := id, condoId := dto.condoId, title := trimText dto.title, description := trimText dto.description
    status := .draft, opensAt := dto.opensAt, closesAt := dto.closesAt
    audienceScope := dto.audienceScope.getD .allOwners, blockIds := dto.blockIds.getD [] }

def createPoll (user : Voter) (dto : CreatePollDto) (db : GovernanceDb) : Result GovernanceDb := do
  assertManagement user.toAuthenticatedUser dto.condoId
  validateSchedule dto.opensAt dto.closesAt
  validateAudience dto.audienceScope dto.blockIds
  return db.insertPoll dto.row dto.options.options

def GovernanceDb.replaceOptions (db : GovernanceDb) (pollId : Id) (options : List PollOptionInput) : GovernanceDb :=
  { db with
    options := (db.options.filter fun option => decide (option.pollId ≠ pollId)) ++ optionRows pollId db.nextId options
    votes := db.votes.filter fun vote => decide (vote.optionId ∉ (db.optionsOf pollId).map PollOption.id)
    nextId := db.nextId + options.length }

def Poll.update (poll : Poll) (dto : UpdatePollDto) (opensAt : Option (Option Instant)) : Poll :=
  { poll with
    title := (dto.title.map trimText).getD poll.title
    description := (dto.description.map trimText).getD poll.description
    opensAt := opensAt.getD poll.opensAt
    closesAt := dto.closesAt.getD poll.closesAt
    audienceScope := dto.audienceScope.getD poll.audienceScope
    blockIds := dto.blockIds.getD poll.blockIds
    status := dto.status.getD poll.status }

def UpdatePollDto.validate (dto : UpdatePollDto) (existing : Poll) : Result Unit := do
  if dto.opensAt.isSome || dto.closesAt.isSome then
    validateSchedule (dto.opensAt.join <|> existing.opensAt) (dto.closesAt.join <|> existing.closesAt)
  if dto.audienceScope.isSome || dto.blockIds.isSome then
    validateAudience (some (dto.audienceScope.getD existing.audienceScope)) (some (dto.blockIds.getD existing.blockIds))

def UpdatePollDto.opening (dto : UpdatePollDto) (now : Instant) (existing : Poll) : Option (Option Instant) :=
  if dto.status = some .opened then some (dto.opensAt.join <|> existing.opensAt <|> some now) else dto.opensAt

def GovernanceDb.rewritePoll (db : GovernanceDb) (now : Instant) (existing : Poll) (dto : UpdatePollDto) : GovernanceDb :=
  let replaced := dto.options.elim db fun sent =>
    if effectivePollStatus now existing = .draft then db.replaceOptions existing.id sent.options else db
  replaced.updatePoll existing.id fun poll => poll.update dto (dto.opening now existing)

def updatePoll (now : Instant) (user : Voter) (id : Id) (dto : UpdatePollDto) (db : GovernanceDb) :
    Result GovernanceDb := do
  let existing ← orThrow (db.poll? id) (.notFound "Not Found")
  assertManagement user.toAuthenticatedUser existing.condoId
  let effective := effectivePollStatus now existing
  throwIf (effective ≠ .draft ∧ dto.options.isSome) (.badRequest "Options can only be edited while the poll is a draft")
  throwIf (effective = .closed ∧ dto.status ≠ some .closed) (.badRequest "Closed polls cannot be reopened")
  dto.validate existing
  throwIf (dto.status = some .opened ∧ db.optionsOf id = [] ∧ dto.options.all fun sent => sent.options.isEmpty)
    (.badRequest "Poll must have at least two options before opening")
  return db.rewritePoll now existing dto

def Poll.close (poll : Poll) : Poll := { poll with status := .closed }

def maybeAutoClose (now : Instant) (poll : Poll) : Operation PollStatus :=
  if poll.status = .opened ∧ effectivePollStatus now poll = .closed then do
    Call.write fun db => db.updatePoll poll.id Poll.close
    return .closed
  else return poll.status

/-- What `list` and `getOne` do to a poll that they show. -/
def showPoll (now : Instant) (id : Id) : Operation Unit := do
  let poll ← look fun db => orThrow (db.poll? id) (.notFound "Not Found")
  let _ ← maybeAutoClose now poll

def closeExpiredPolls (now : Instant) (db : GovernanceDb) : GovernanceDb :=
  { db with
    polls := updateWhere (fun poll => decide (poll.status = .opened) && poll.closesAt.any fun closes => decide (closes ≤ now))
      Poll.close db.polls }

structure BallotDto where
  unitId : Id
  optionId : Id

/-- What of `auditExtra` goes into the ballot. -/
structure BallotStamp where
  viaProxy : Bool
  proxyId : Option Id
  meetingId : Option Id
  ownerUserId : Id

def unitMatchesAudience (poll : Poll) (blockId : Id) : Bool :=
  decide (poll.audienceScope = .allOwners ∨ blockId ∈ poll.blockIds)

def assertVotingOpen (now : Instant) (poll : Poll) : Operation Unit := do
  let status ← maybeAutoClose now poll
  Call.ofResult (throwIf (status ≠ .opened) (.badRequest "This poll is not open for voting"))
  Call.ofResult (throwIf (poll.opensAt.any fun opens => decide (now < opens)) (.badRequest "Voting has not opened yet"))
  Call.ofResult (throwIf (poll.closesAt.any fun closes => decide (closes ≤ now)) (.badRequest "Voting has closed"))

def assertOption (dto : BallotDto) (poll : Poll) (db : GovernanceDb) : Result Unit :=
  throwIf (dto.optionId ∉ (db.optionsOf poll.id).map PollOption.id) (.badRequest "Invalid poll option")

def ballotRow (now : Instant) (user : Voter) (poll : Poll) (ownership : Ownership) (dto : BallotDto) (stamp : BallotStamp)
    (id : Id) : PollVote :=
  { id := id, pollId := poll.id, optionId := dto.optionId, unitId := dto.unitId, userId := user.id
    ownershipId := ownership.id, weight := ownership.sharePercent, viaProxy := stamp.viaProxy, proxyId := stamp.proxyId
    meetingId := stamp.meetingId, ownerUserId := stamp.ownerUserId, createdAt := now }

def GovernanceDb.storeVote (db : GovernanceDb) (row : Id → PollVote) : GovernanceDb :=
  { db with votes := db.votes ++ [row db.nextId], nextId := db.nextId + 1 }

def GovernanceDb.voted (db : GovernanceDb) (pollId unitId : Id) : Bool :=
  db.votes.any fun vote => decide (vote.pollId = pollId ∧ vote.unitId = unitId)

def insertVote (now : Instant) (user : Voter) (poll : Poll) (ownership : Ownership) (dto : BallotDto) (stamp : BallotStamp)
    (db : GovernanceDb) : Result GovernanceDb := do
  throwIf (db.voted poll.id dto.unitId) (.conflict "This unit has already voted in this poll")
  return db.storeVote (ballotRow now user poll ownership dto stamp)

def recordVote (now : Instant) (user : Voter) (poll : Poll) (ownership : Ownership) (dto : BallotDto) (stamp : BallotStamp) :
    Operation Unit := do
  commit (insertVote now user poll ownership dto stamp)
  Call.ofResult (assertCondoAccess user.toAuthenticatedUser poll.condoId)

structure OwnedUnit where
  ownership : Ownership
  unit : GovernanceUnit

def GovernanceDb.ownedUnit (db : GovernanceDb) (now : Instant) (userId unitId : Id) (missing : ApiError) :
    Result OwnedUnit := do
  let ownership ← orThrow (db.ownership? now userId unitId) missing
  let unit ← orThrow (db.unit? ownership.unitId) (.failure "unit")
  return ⟨ownership, unit⟩

def assertUnit (poll : Poll) (unit : GovernanceUnit) : Result Unit := do
  throwIf (unit.condoId ≠ poll.condoId) (.badRequest "Unit does not belong to this poll")
  throwIf (¬ unitMatchesAudience poll unit.blockId) (.badRequest "This unit is not in the poll audience")

def castVote (now : Instant) (user : Voter) (pollId : Id) (dto : BallotDto) : Operation Unit := do
  Call.ofResult (throwIf (¬ isUnitOwner user.toAuthenticatedUser) (.forbidden "Only unit owners may vote on governance polls"))
  let poll ← look fun db => orThrow (db.poll? pollId) (.notFound "Not Found")
  assertVotingOpen now poll
  look (assertOption dto poll)
  let owned ← look fun db => db.ownedUnit now user.id dto.unitId
    (.forbidden "You do not have active ownership on the selected unit")
  Call.ofResult (assertUnit poll owned.unit)
  recordVote now user poll owned.ownership dto ⟨false, none, none, owned.ownership.userId⟩

def castVoteWithOwnership (now : Instant) (user : Voter) (pollId : Id) (dto : BallotDto) (owned : OwnedUnit)
    (stamp : BallotStamp) : Operation Unit := do
  let poll ← look fun db => orThrow (db.poll? pollId) (.notFound "Not Found")
  assertVotingOpen now poll
  look (assertOption dto poll)
  Call.ofResult (throwIf (owned.unit.id ≠ dto.unitId) (.badRequest "Ownership does not match the selected unit"))
  Call.ofResult (assertUnit poll owned.unit)
  recordVote now user poll owned.ownership dto stamp

def percentOf (part total : Nat) : ℚ := if 0 < total then (mathRound ((part : ℚ) / total * 1000) : ℚ) / 10 else 0

def totalWeight (votes : List PollVote) : Nat := (votes.map PollVote.weight).sum

def computeResults (db : GovernanceDb) (pollId : Id) : PollResults :=
  let votes := db.votesOf pollId
  let options := (db.optionsOf pollId).mergeSort fun first second => decide (first.position ≤ second.position)
  { totalVotes := votes.length
    totalWeight := totalWeight votes
    options := options.map fun option =>
      let own := votes.filter fun vote => decide (vote.optionId = option.id)
      { id := option.id, label := option.label, voteCount := own.length, weightSum := totalWeight own
        votePercent := percentOf own.length votes.length
        weightPercent := percentOf (totalWeight own) (totalWeight votes) }
    breakdown := votes.map fun vote => ⟨vote.unitId, vote.optionId, vote.weight, vote.createdAt⟩ }

end SmartResidence.Governance
