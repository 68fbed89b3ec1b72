import Mathlib.Data.List.Sort
import SmartResidence.Governance.Meetings
import SmartResidence.Foundation.Runs

/-!
# `governance.service.ts`: the voting on resolutions
-/

namespace SmartResidence.Governance

open Foundation Billing Settings

def GovernanceDb.owned (db : GovernanceDb) (now : Instant) (condoId : Id) (ownership : Ownership) : Option OwnedUnit :=
  if ownership.current now then
    ((db.unit? ownership.unitId).filter fun unit => decide (unit.condoId = condoId)).map (OwnedUnit.mk ownership)
  else none

def GovernanceDb.ownedUnits (db : GovernanceDb) (now : Instant) (condoId : Id) : List OwnedUnit :=
  db.ownerships.filterMap (db.owned now condoId)

def registerOrder (first second : OwnedUnit) : Bool :=
  decide (first.unit.identifier < second.unit.identifier ∨
    (first.unit.identifier = second.unit.identifier ∧ second.ownership.sharePercent ≤ first.ownership.sharePercent))

def enterUnit (entries : List SnapshotUnit) (entry : SnapshotUnit) : List SnapshotUnit :=
  match findBy SnapshotUnit.unitId entry.unitId entries with
  | none => entries ++ [entry]
  | some existing =>
      if existing.sharePercent < entry.sharePercent then updateBy SnapshotUnit.unitId entry.unitId (fun _ => entry) entries
      else entries

def GovernanceDb.snapshotUnit (db : GovernanceDb) (owned : OwnedUnit) : SnapshotUnit :=
  { unitId := owned.ownership.unitId, unitIdentifier := owned.unit.identifier, sharePercent := owned.ownership.sharePercent
    ownerUserId := owned.ownership.userId
    ownerName := ((db.user? owned.ownership.userId).map Resident.name).getD "" }

def buildEligibilitySnapshot (now : Instant) (condoId : Id) (db : GovernanceDb) : EligibilitySnapshot :=
  let ownerships := (db.ownedUnits now condoId).mergeSort registerOrder
  let units := (ownerships.map db.snapshotUnit).foldl enterUnit []
  ⟨now, units.length, (units.map SnapshotUnit.sharePercent).sum, units⟩

def enterShare (shares : List (Id × Nat)) (owned : OwnedUnit) : List (Id × Nat) :=
  if (shares.lookup owned.ownership.unitId).getD 0 < owned.ownership.sharePercent then
    assign owned.ownership.unitId owned.ownership.sharePercent shares
  else shares

def computeQuorumBaseline (now : Instant) (condoId : Id) (quorumPercent : ℚ) (db : GovernanceDb) : Quorum :=
  let byUnit := (db.ownedUnits now condoId).foldl enterShare []
  let eligibleShareWeight := (byUnit.map Prod.snd).sum
  { quorumPercent := quorumPercent, eligibleUnitCount := byUnit.length, eligibleShareWeight := eligibleShareWeight
    castUnitCount := 0, castShareWeight := 0
    castSharePercentOfEligible := if eligibleShareWeight = 0 ∧ quorumPercent = 0 then 100 else 0
    met := decide (quorumPercent ≤ 0) }

def castPercent (castUnitCount castShareWeight eligibleShareWeight : Nat) : ℚ :=
  if 0 < eligibleShareWeight then (mathRound ((castShareWeight : ℚ) / eligibleShareWeight * 100000) : ℚ) / 1000
  else if 0 < castUnitCount then 100 else 0

def computeQuorumForPoll (now : Instant) (condoId pollId : Id) (quorumPercent : ℚ) (db : GovernanceDb) : Quorum :=
  let baseline := computeQuorumBaseline now condoId quorumPercent db
  let votes := db.votesOf pollId
  let percent := castPercent votes.length (totalWeight votes) baseline.eligibleShareWeight
  { baseline with
    castUnitCount := votes.length
    castShareWeight := totalWeight votes
    castSharePercentOfEligible := percent
    met := decide (quorumPercent ≤ percent + 1 / 1000000000) }

structure OpenResolutionVotingDto where
  votingOpensAt : Option Instant
  votingClosesAt : Option Instant

def defaultResolutionOptions : List PollOptionInput := [⟨"For", some 0⟩, ⟨"Against", some 1⟩, ⟨"Abstain", some 2⟩]

def MeetingResolution.openVoting (pollId : Id) (opensAt : Instant) (closesAt : Option Instant) (snapshot : EligibilitySnapshot)
    (resolution : MeetingResolution) : MeetingResolution :=
  { resolution with
    pollId := some pollId, votingOpensAt := some opensAt, votingClosesAt := closesAt, eligibilitySnapshot := some snapshot }

def GeneralMeeting.start (meeting : GeneralMeeting) : GeneralMeeting := { meeting with status := .inProgress }

def resolutionPoll (item : MeetingItem) (opensAt : Instant) (closesAt : Option Instant) (id : Id) : Poll :=
  { id := id, condoId := item.meeting.condoId, title := item.resolution.title, description := item.resolution.description
    status := .opened, opensAt := some opensAt, closesAt := closesAt, audienceScope := .allOwners, blockIds := [] }

def GovernanceDb.openVoting (db : GovernanceDb) (item : MeetingItem) (opensAt : Instant) (closesAt : Option Instant)
    (snapshot : EligibilitySnapshot) : GovernanceDb :=
  let opened := (db.insertPoll (resolutionPoll item opensAt closesAt) defaultResolutionOptions).updateResolution
    item.resolution.id (MeetingResolution.openVoting db.nextId opensAt closesAt snapshot)
  if item.meeting.status = .noticePublished then opened.updateMeeting item.meeting.id GeneralMeeting.start else opened

def openResolutionVoting (now : Instant) (user : Voter) (resolutionId : Id) (dto : OpenResolutionVotingDto)
    (db : GovernanceDb) : Result GovernanceDb := do
  let item ← db.meetingItem resolutionId
  assertManagement user.toAuthenticatedUser item.meeting.condoId
  throwIf item.resolution.pollId.isSome (.badRequest "Voting is already open for this resolution")
  throwIf (item.meeting.status ≠ .noticePublished ∧ item.meeting.status ≠ .inProgress)
    (.badRequest "Meeting notice must be published before opening voting")
  let opensAt := dto.votingOpensAt.getD now
  throwIf (dto.votingClosesAt.any fun closes => decide (closes ≤ opensAt))
    (.badRequest "votingClosesAt must be after votingOpensAt")
  return db.openVoting item opensAt dto.votingClosesAt (buildEligibilitySnapshot now item.meeting.condoId db)

def MeetingResolution.closeVoting (snapshot : ResultsSnapshot) (closedAt : Instant) (resolution : MeetingResolution) :
    MeetingResolution :=
  { resolution with
    resultsSnapshot := some snapshot, votingClosesAt := some (resolution.votingClosesAt.getD closedAt) }

def takeResults (now : Instant) (item : MeetingItem) (pollId : Id) (db : GovernanceDb) : ResultsSnapshot :=
  ⟨computeResults db pollId, computeQuorumForPoll now item.meeting.condoId pollId item.meeting.quorumPercent db⟩

def GovernanceDb.closeVoting (db : GovernanceDb) (now : Instant) (resolutionId pollId : Id) (snapshot : ResultsSnapshot) :
    GovernanceDb :=
  (db.updatePoll pollId Poll.close).updateResolution resolutionId (MeetingResolution.closeVoting snapshot now)

def closeResolutionVoting (now : Instant) (user : Voter) (resolutionId : Id) (db : GovernanceDb) : Result GovernanceDb := do
  let item ← db.meetingItem resolutionId
  assertManagement user.toAuthenticatedUser item.meeting.condoId
  let poll ← orThrow (db.linkedPoll? item.resolution) (.badRequest "Voting is not open for this resolution")
  throwIf (poll.status = .closed) (.badRequest "Voting is already closed")
  return db.closeVoting now resolutionId poll.id (takeResults now item poll.id db)

structure SubmitMeetingProxyDto where
  unitId : Id
  proxyHolderName : String
  proxyHolderContact : Option String
  proxyHolderUserId : Option Id

section

variable (env : GovernanceEnv)

def isProxyHolder (user : Voter) (proxy : MeetingProxy) : Bool :=
  let contact := env.toLowerCase (trimText proxy.proxyHolderContact)
  proxy.proxyHolderUserId = some user.id ||
    (contact ≠ "" && user.email.any fun email => contact = env.toLowerCase (trimText email))

def hasRoleIn (condoId : Id) (resident : Resident) : Bool := decide (condoId ∈ resident.condoIds)

def resolveProxyHolderUserId (condoId : Id) (explicitUserId : Option Id) (contact : Option String) (db : GovernanceDb) :
    Result (Option Id) :=
  match explicitUserId with
  | some userId => do
      let holder ← orThrow ((db.user? userId).filter (hasRoleIn condoId))
        (.badRequest "Proxy holder must be a registered resident in this condo")
      return some holder.id
  | none =>
      let email := (contact.map trimText).filter fun email => '@' ∈ email.toList
      return email.bind fun email =>
        ((db.users.find? fun resident => env.insensitiveEquals resident.email email).filter (hasRoleIn condoId)).map Resident.id

def GovernanceDb.storeProxy (db : GovernanceDb) (row : Id → MeetingProxy) : GovernanceDb :=
  { db with proxies := db.proxies ++ [row db.nextId], nextId := db.nextId + 1 }

def insertProxy (row : Id → MeetingProxy) (db : GovernanceDb) : Result GovernanceDb := do
  let proxy := row db.nextId
  throwIf (db.proxy? proxy.meetingId proxy.unitId).isSome (.conflict "A proxy has already been submitted for this unit")
  return db.storeProxy row

def SubmitMeetingProxyDto.row (dto : SubmitMeetingProxyDto) (meetingId ownerUserId : Id) (holder : Option Id) (id : Id) :
    MeetingProxy :=
  { id := id, meetingId := meetingId, unitId := dto.unitId, ownerUserId := ownerUserId, proxyHolderUserId := holder
    proxyHolderName := trimText dto.proxyHolderName, proxyHolderContact := (dto.proxyHolderContact.map trimText).getD "" }

def submitProxy (now : Instant) (user : Voter) (meetingId : Id) (dto : SubmitMeetingProxyDto) (db : GovernanceDb) :
    Result GovernanceDb := do
  throwIf (¬ isUnitOwner user.toAuthenticatedUser) (.forbidden "Only unit owners may submit meeting proxies")
  let meeting ← orThrow (db.meeting? meetingId) (.notFound "Not Found")
  throwIf (meeting.status ≠ .noticePublished ∧ meeting.status ≠ .inProgress)
    (.badRequest "Proxies can only be submitted after the notice is published")
  let owned ← db.ownedUnit now user.id dto.unitId (.forbidden "You do not have active ownership on the selected unit")
  throwIf (owned.unit.condoId ≠ meeting.condoId) (.badRequest "Unit does not belong to this meeting")
  let holder ← resolveProxyHolderUserId env meeting.condoId dto.proxyHolderUserId dto.proxyHolderContact db
  insertProxy (dto.row meetingId user.id holder) db

def ballotRight (now : Instant) (user : Voter) (meeting : GeneralMeeting) (unitId : Id) (db : GovernanceDb) :
    Result (OwnedUnit × BallotStamp) :=
  match db.proxy? meeting.id unitId with
  | some proxy => do
      throwIf (proxy.ownerUserId = user.id)
        (.conflict "You submitted a proxy for this unit — only your proxy holder may vote")
      throwIf (¬ isProxyHolder env user proxy) (.forbidden "You are not the designated proxy holder for this unit")
      let owned ← db.ownedUnit now proxy.ownerUserId unitId (.badRequest "Proxied unit has no active ownership record")
      return (owned, ⟨true, some proxy.id, some meeting.id, proxy.ownerUserId⟩)
  | none => do
      let owned ← db.ownedUnit now user.id unitId (.forbidden "You do not have active ownership on the selected unit")
      throwIf (owned.unit.condoId ≠ meeting.condoId) (.badRequest "Unit does not belong to this meeting")
      return (owned, ⟨false, none, some meeting.id, user.id⟩)

def votablePoll (resolutionId : Id) (db : GovernanceDb) : Result (MeetingItem × Poll) := do
  let item ← db.meetingItem resolutionId
  let poll ← orThrow (db.linkedPoll? item.resolution) (.badRequest "Voting is not open for this resolution")
  throwIf (poll.status ≠ .opened) (.badRequest "Voting is not open for this resolution")
  throwIf (item.meeting.status ≠ .inProgress ∧ item.meeting.status ≠ .noticePublished)
    (.badRequest "Meeting is not open for e-voting")
  return (item, poll)

def castResolutionVote (now : Instant) (user : Voter) (resolutionId : Id) (dto : BallotDto) : Operation Unit := do
  let (item, poll) ← look (votablePoll resolutionId)
  let (owned, stamp) ← look (ballotRight env now user item.meeting dto.unitId)
  castVoteWithOwnership now user poll.id dto owned stamp

structure EligibleUnit where
  unitId : Id
  unitIdentifier : String
  sharePercent : Nat
  viaProxy : Bool
  ownerName : Option String
  alreadyVoted : Bool
  blockedReason : Option String
  deriving DecidableEq

structure VotingEligibility where
  resolutionId : Id
  meetingId : Id
  pollId : Option Id
  pollStatus : Option PollStatus
  votingOpen : Bool
  quorum : Quorum
  eligibleUnits : List EligibleUnit
  castableUnitCount : Nat
  deriving DecidableEq

def GovernanceDb.hasVoted (db : GovernanceDb) (pollId : Option Id) (unitId : Id) : Bool :=
  pollId.any fun pollId => db.voted pollId unitId

def ownEntry (db : GovernanceDb) (item : MeetingItem) (owned : OwnedUnit) : EligibleUnit :=
  { unitId := owned.ownership.unitId, unitIdentifier := owned.unit.identifier, sharePercent := owned.ownership.sharePercent
    viaProxy := false, ownerName := none
    alreadyVoted := db.hasVoted item.resolution.pollId owned.ownership.unitId
    blockedReason := (db.proxy? item.meeting.id owned.ownership.unitId).map fun _ =>
      "Proxy submitted — only the proxy holder may vote for this unit" }

def heldEntry (db : GovernanceDb) (now : Instant) (item : MeetingItem) (proxy : MeetingProxy) : EligibleUnit :=
  { unitId := proxy.unitId
    unitIdentifier := ((db.unit? proxy.unitId).map GovernanceUnit.identifier).getD ""
    sharePercent := ((db.ownership? now proxy.ownerUserId proxy.unitId).map Ownership.sharePercent).getD 0
    viaProxy := true, ownerName := (db.user? proxy.ownerUserId).map Resident.name
    alreadyVoted := db.hasVoted item.resolution.pollId proxy.unitId, blockedReason := none }

def enterHeld (db : GovernanceDb) (now : Instant) (item : MeetingItem) (entries : List EligibleUnit) (proxy : MeetingProxy) :
    List EligibleUnit :=
  if entries.any fun entry => decide (entry.unitId = proxy.unitId) && entry.blockedReason.isNone then entries
  else entries ++ [heldEntry db now item proxy]

def EligibleUnit.castable (entry : EligibleUnit) : Bool := entry.blockedReason.isNone && !entry.alreadyVoted

def getVotingEligibility (now : Instant) (user : Voter) (resolutionId : Id) (db : GovernanceDb) :
    Result VotingEligibility := do
  let item ← db.meetingItem resolutionId
  assertCondoAccess user.toAuthenticatedUser item.meeting.condoId
  throwIf (¬ isManagementForCondo user.toAuthenticatedUser item.meeting.condoId ∧ item.meeting.status = .draft)
    (.notFound "Not Found")
  let poll := db.linkedPoll? item.resolution
  let own := (db.ownedUnits now item.meeting.condoId).filter fun owned => decide (owned.ownership.userId = user.id)
  let held := db.proxies.filter fun proxy => decide (proxy.meetingId = item.meeting.id) && isProxyHolder env user proxy
  let eligibleUnits := held.foldl (enterHeld db now item) (own.map (ownEntry db item))
  return {
    resolutionId := item.resolution.id, meetingId := item.meeting.id, pollId := item.resolution.pollId
    pollStatus := poll.map Poll.status
    votingOpen := (poll.any fun poll => decide (poll.status = .opened)) &&
      decide (item.meeting.status = .inProgress ∨ item.meeting.status = .noticePublished)
    quorum := match item.resolution.pollId with
      | some pollId => computeQuorumForPoll now item.meeting.condoId pollId item.meeting.quorumPercent db
      | none => computeQuorumBaseline now item.meeting.condoId item.meeting.quorumPercent db
    eligibleUnits := eligibleUnits
    castableUnitCount := (eligibleUnits.filter EligibleUnit.castable).length }

end

end SmartResidence.Governance

namespace SmartResidence.Governance

open Foundation Billing

inductive GovernanceEvent
  | createPoll (user : Voter) (dto : CreatePollDto)
  | updatePoll (now : Instant) (user : Voter) (pollId : Id) (dto : UpdatePollDto)
  | showPoll (now : Instant) (pollId : Id)
  | closeExpiredPolls (now : Instant)
  | castVote (now : Instant) (user : Voter) (pollId : Id) (dto : BallotDto)
  | createMeeting (user : Voter) (dto : CreateGeneralMeetingDto)
  | updateMeeting (user : Voter) (meetingId : Id) (dto : UpdateGeneralMeetingDto)
  | publishNotice (now : Instant) (ledger : Db) (user : Voter) (meetingId : Id)
  | publishMinutes (now : Instant) (user : Voter) (meetingId : Id) (minutesBody : Option String)
  | addResolution (user : Voter) (meetingId : Id) (dto : CreateMeetingResolutionDto)
  | updateResolution (user : Voter) (resolutionId : Id) (dto : UpdateMeetingResolutionDto)
  | openResolutionVoting (now : Instant) (user : Voter) (resolutionId : Id) (dto : OpenResolutionVotingDto)
  | closeResolutionVoting (now : Instant) (user : Voter) (resolutionId : Id)
  | castResolutionVote (now : Instant) (user : Voter) (resolutionId : Id) (dto : BallotDto)
  | submitProxy (now : Instant) (user : Voter) (meetingId : Id) (dto : SubmitMeetingProxyDto)
  | register (users : List Resident) (ownerships : List Ownership)
  | addUnit (condoId blockId : Id) (identifier : String)

def GovernanceDb.addUnit (db : GovernanceDb) (condoId blockId : Id) (identifier : String) : GovernanceDb :=
  { db with units := db.units ++ [⟨db.nextId, condoId, blockId, identifier⟩], nextId := db.nextId + 1 }

def operation (env : GovernanceEnv) : GovernanceEvent → Operation Unit
  | .createPoll user dto => commit (createPoll user dto)
  | .updatePoll now user pollId dto => commit (updatePoll now user pollId dto)
  | .showPoll now pollId => showPoll now pollId
  | .closeExpiredPolls now => Call.write (closeExpiredPolls now)
  | .castVote now user pollId dto => castVote now user pollId dto
  | .createMeeting user dto => commit (createMeeting user dto)
  | .updateMeeting user meetingId dto => commit (updateMeeting user meetingId dto)
  | .publishNotice now ledger user meetingId => commit (publishNotice now ledger user meetingId)
  | .publishMinutes now user meetingId minutesBody => commit (publishMinutes now user meetingId minutesBody)
  | .addResolution user meetingId dto => commit (addResolution user meetingId dto)
  | .updateResolution user resolutionId dto => commit (updateResolution user resolutionId dto)
  | .openResolutionVoting now user resolutionId dto => commit (openResolutionVoting now user resolutionId dto)
  | .closeResolutionVoting now user resolutionId => commit (closeResolutionVoting now user resolutionId)
  | .castResolutionVote now user resolutionId dto => castResolutionVote env now user resolutionId dto
  | .submitProxy now user meetingId dto => commit (submitProxy env now user meetingId dto)
  | .register users ownerships => Call.write fun db => { db with users := users, ownerships := ownerships }
  | .addUnit condoId blockId identifier => Call.write fun db => db.addUnit condoId blockId identifier

def GovernanceDb.next (db : GovernanceDb) (env : GovernanceEnv) (event : GovernanceEvent) : GovernanceDb :=
  (operation env event db).2

def Step (env : GovernanceEnv) (before : GovernanceDb) (event : GovernanceEvent) (after : GovernanceDb) : Prop :=
  before.next env event = after

structure GovernanceDb.Initial (db : GovernanceDb) : Prop where
  noPolls : db.polls = []
  noOptions : db.options = []
  noVotes : db.votes = []
  noMeetings : db.meetings = []
  noResolutions : db.resolutions = []
  noProxies : db.proxies = []
  units : Allocated (db.units.map GovernanceUnit.id) db.nextId

end SmartResidence.Governance
