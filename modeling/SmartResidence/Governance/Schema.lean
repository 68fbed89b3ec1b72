import SmartResidence.Billing.Invoices
import SmartResidence.Foundation.Calls
import SmartResidence.Settings.Json

/-!
# The tables of polls and meetings
-/

namespace SmartResidence.Governance

open Foundation Billing

inductive PollStatus
  | draft | opened | closed
  deriving DecidableEq

inductive PollAudienceScope
  | allOwners | block
  deriving DecidableEq

inductive OwnershipStatus
  | active | pending | ended
  deriving DecidableEq

inductive GeneralMeetingKind
  | annual | extraordinary
  deriving DecidableEq

inductive GeneralMeetingStatus
  | draft | noticePublished | inProgress | closed
  deriving DecidableEq

structure GovernanceUnit where
  id : Id
  condoId : Id
  blockId : Id
  identifier : String
  deriving DecidableEq

structure Ownership where
  id : Id
  unitId : Id
  userId : Id
  sharePercent : Nat
  endDate : Option Instant
  status : OwnershipStatus
  deriving DecidableEq

structure Resident where
  id : Id
  name : String
  email : String
  condoIds : List Id
  deriving DecidableEq

structure Poll where
  id : Id
  condoId : Id
  title : String
  description : String
  status : PollStatus
  opensAt : Option Instant
  closesAt : Option Instant
  audienceScope : PollAudienceScope
  blockIds : List Id
  deriving DecidableEq

structure PollOption where
  id : Id
  pollId : Id
  label : String
  position : ℤ
  deriving DecidableEq

structure PollVote where
  id : Id
  pollId : Id
  optionId : Id
  unitId : Id
  userId : Id
  ownershipId : Id
  weight : Nat
  viaProxy : Bool
  proxyId : Option Id
  meetingId : Option Id
  ownerUserId : Id
  createdAt : Instant
  deriving DecidableEq

structure MeetingFinancialSnapshot where
  capturedAt : Instant
  fundBalances : List (LedgerFund × ℤ)
  deriving DecidableEq

structure GeneralMeeting where
  id : Id
  condoId : Id
  kind : GeneralMeetingKind
  title : String
  scheduledAt : Instant
  noticeBody : String
  minutesBody : String
  minutesPublishedAt : Option Instant
  financialSnapshot : Option MeetingFinancialSnapshot
  quorumPercent : ℚ
  status : GeneralMeetingStatus
  deriving DecidableEq

structure MeetingProxy where
  id : Id
  meetingId : Id
  unitId : Id
  ownerUserId : Id
  proxyHolderUserId : Option Id
  proxyHolderName : String
  proxyHolderContact : String
  deriving DecidableEq

structure SnapshotUnit where
  unitId : Id
  unitIdentifier : String
  sharePercent : Nat
  ownerUserId : Id
  ownerName : String
  deriving DecidableEq

structure EligibilitySnapshot where
  capturedAt : Instant
  unitCount : Nat
  totalShareWeight : Nat
  units : List SnapshotUnit
  deriving DecidableEq

structure OptionResult where
  id : Id
  label : String
  voteCount : Nat
  weightSum : Nat
  votePercent : ℚ
  weightPercent : ℚ
  deriving DecidableEq

structure BreakdownLine where
  unitId : Id
  optionId : Id
  weight : Nat
  votedAt : Instant
  deriving DecidableEq

structure PollResults where
  totalVotes : Nat
  totalWeight : Nat
  options : List OptionResult
  breakdown : List BreakdownLine
  deriving DecidableEq

structure Quorum where
  quorumPercent : ℚ
  eligibleUnitCount : Nat
  eligibleShareWeight : Nat
  castUnitCount : Nat
  castShareWeight : Nat
  castSharePercentOfEligible : ℚ
  met : Bool
  deriving DecidableEq

structure ResultsSnapshot where
  results : PollResults
  quorum : Quorum
  deriving DecidableEq

structure MeetingResolution where
  id : Id
  meetingId : Id
  title : String
  description : String
  position : ℤ
  pollId : Option Id
  votingOpensAt : Option Instant
  votingClosesAt : Option Instant
  eligibilitySnapshot : Option EligibilitySnapshot
  resultsSnapshot : Option ResultsSnapshot
  deriving DecidableEq

structure GovernanceDb where
  nextId : Nat
  units : List GovernanceUnit
  users : List Resident
  ownerships : List Ownership
  polls : List Poll
  options : List PollOption
  votes : List PollVote
  meetings : List GeneralMeeting
  resolutions : List MeetingResolution
  proxies : List MeetingProxy

namespace GovernanceDb

variable (db : GovernanceDb)

def unit? (id : Id) : Option GovernanceUnit := findBy GovernanceUnit.id id db.units
def poll? (id : Id) : Option Poll := findBy Poll.id id db.polls
def meeting? (id : Id) : Option GeneralMeeting := findBy GeneralMeeting.id id db.meetings
def resolution? (id : Id) : Option MeetingResolution := findBy MeetingResolution.id id db.resolutions
def user? (id : Id) : Option Resident := findBy Resident.id id db.users

def proxy? (meetingId unitId : Id) : Option MeetingProxy :=
  findBy (fun proxy => (proxy.meetingId, proxy.unitId)) (meetingId, unitId) db.proxies

def optionsOf (pollId : Id) : List PollOption := db.options.filter fun option => decide (option.pollId = pollId)

def votesOf (pollId : Id) : List PollVote := db.votes.filter fun vote => decide (vote.pollId = pollId)

def updatePoll (id : Id) (change : Poll → Poll) : GovernanceDb := { db with polls := updateBy Poll.id id change db.polls }

def updateMeeting (id : Id) (change : GeneralMeeting → GeneralMeeting) : GovernanceDb :=
  { db with meetings := updateBy GeneralMeeting.id id change db.meetings }

def updateResolution (id : Id) (change : MeetingResolution → MeetingResolution) : GovernanceDb :=
  { db with resolutions := updateBy MeetingResolution.id id change db.resolutions }

end GovernanceDb

structure Voter extends AuthenticatedUser where
  email : Option String

structure GovernanceEnv where
  toLowerCase : String → String
  insensitiveEquals : String → String → Bool

abbrev Operation (Value : Type) : Type := Call GovernanceDb ApiError Value

def isManagementForCondo (user : AuthenticatedUser) (condoId : Id) : Bool :=
  user.roles.any fun r => decide ((r.roleId = .managementAdmin ∨ r.roleId = .superAdmin) ∧
    (r.condoId = some condoId ∨ r.roleId = .superAdmin))

def assertManagement (user : AuthenticatedUser) (condoId : Id) : Result Unit :=
  throwIf (¬ isManagementForCondo user condoId) (.forbidden "Management access required")

def hasCondoAccess (user : AuthenticatedUser) (condoId : Id) : Bool :=
  user.roles.any fun r => decide (r.condoId = some condoId ∨ r.roleId = .superAdmin)

def assertCondoAccess (user : AuthenticatedUser) (condoId : Id) : Result Unit :=
  throwIf (¬ hasCondoAccess user condoId) (.forbidden "No access to this condo")

def isUnitOwner (user : AuthenticatedUser) : Bool := user.roles.any fun r => decide (r.roleId = .unitOwner)

def Ownership.current (now : Instant) (ownership : Ownership) : Bool :=
  decide (ownership.status = .active) && ownership.endDate.all fun stop => decide (now < stop)

def GovernanceDb.ownership? (db : GovernanceDb) (now : Instant) (userId unitId : Id) : Option Ownership :=
  db.ownerships.find? fun row => decide (row.userId = userId ∧ row.unitId = unitId) && row.current now

end SmartResidence.Governance
