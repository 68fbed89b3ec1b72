import SmartResidence.Governance.Polls

/-!
# `governance.service.ts`: meetings, their notices, minutes and resolutions
-/

namespace SmartResidence.Governance

open Foundation Billing Settings

abbrev QuorumPercent : Type := { percent : ℚ // 0 ≤ percent ∧ percent ≤ 100 }

def QuorumPercent.stored (quorum : QuorumPercent) : ℚ := (mathRound (quorum.val * 1000) : ℚ) / 1000

structure CreateGeneralMeetingDto where
  condoId : Id
  kind : GeneralMeetingKind
  title : String
  scheduledAt : Instant
  noticeBody : Option String
  quorumPercent : Option QuorumPercent

/-- A body that is sent as `null` is `some none`. -/
structure UpdateGeneralMeetingDto where
  kind : Option GeneralMeetingKind
  title : Option String
  scheduledAt : Option Instant
  noticeBody : Option (Option String)
  minutesBody : Option (Option String)
  status : Option GeneralMeetingStatus
  quorumPercent : Option QuorumPercent

def GovernanceDb.insertMeeting (db : GovernanceDb) (row : Id → GeneralMeeting) : GovernanceDb :=
  { db with meetings := db.meetings ++ [row db.nextId], nextId := db.nextId + 1 }

def CreateGeneralMeetingDto.row (dto : CreateGeneralMeetingDto) (id : Id) : GeneralMeeting :=
  { id := id, condoId := dto.condoId, kind := dto.kind, title := trimText dto.title, scheduledAt := dto.scheduledAt
    noticeBody := (dto.noticeBody.map trimText).getD "", minutesBody := "", minutesPublishedAt := none
    financialSnapshot := none, quorumPercent := (dto.quorumPercent.map QuorumPercent.stored).getD 50, status := .draft }

def createMeeting (user : Voter) (dto : CreateGeneralMeetingDto) (db : GovernanceDb) : Result GovernanceDb := do
  assertManagement user.toAuthenticatedUser dto.condoId
  return db.insertMeeting dto.row

def GeneralMeeting.update (meeting : GeneralMeeting) (dto : UpdateGeneralMeetingDto) : GeneralMeeting :=
  { meeting with
    kind := dto.kind.getD meeting.kind
    title := (dto.title.map trimText).getD meeting.title
    scheduledAt := dto.scheduledAt.getD meeting.scheduledAt
    noticeBody := (dto.noticeBody.join.map trimText).getD meeting.noticeBody
    minutesBody := (dto.minutesBody.join.map trimText).getD meeting.minutesBody
    status := dto.status.getD meeting.status
    quorumPercent := (dto.quorumPercent.map QuorumPercent.stored).getD meeting.quorumPercent }

def updateMeeting (user : Voter) (id : Id) (dto : UpdateGeneralMeetingDto) (db : GovernanceDb) : Result GovernanceDb := do
  let existing ← orThrow (db.meeting? id) (.notFound "Not Found")
  assertManagement user.toAuthenticatedUser existing.condoId
  throwIf (existing.status = .closed ∧ dto.status ≠ some .closed) (.badRequest "Closed meetings cannot be reopened")
  throwIf (existing.status ≠ .draft ∧ dto.noticeBody.isSome)
    (.badRequest "Notice body can only be edited while the meeting is a draft")
  throwIf (existing.minutesPublishedAt.isSome ∧ dto.minutesBody.isSome)
    (.badRequest "Minutes cannot be edited after they are published")
  throwIf (dto.minutesBody.isSome ∧ existing.status = .draft)
    (.badRequest "Minutes can only be edited after the notice is published")
  throwIf (dto.quorumPercent.isSome ∧ existing.status ≠ .draft ∧ existing.status ≠ .noticePublished)
    (.badRequest "Quorum can only be changed before voting is in progress or the meeting is closed")
  return db.updateMeeting id fun meeting => meeting.update dto

def buildFinancialSnapshot (now : Instant) (ledger : Db) (condoId : Id) : MeetingFinancialSnapshot :=
  ⟨now, fundBalances ledger condoId⟩

def GeneralMeeting.publishNotice (snapshot : MeetingFinancialSnapshot) (meeting : GeneralMeeting) : GeneralMeeting :=
  { meeting with status := .noticePublished, financialSnapshot := some snapshot }

def publishNotice (now : Instant) (ledger : Db) (user : Voter) (id : Id) (db : GovernanceDb) : Result GovernanceDb := do
  let existing ← orThrow (db.meeting? id) (.notFound "Not Found")
  assertManagement user.toAuthenticatedUser existing.condoId
  throwIf (existing.status ≠ .draft) (.badRequest "Only draft meetings can have their notice published")
  throwIf (trimText existing.noticeBody = "") (.badRequest "Notice body is required before publishing")
  return db.updateMeeting id (GeneralMeeting.publishNotice (buildFinancialSnapshot now ledger existing.condoId))

def GovernanceDb.resolutionsOf (db : GovernanceDb) (meetingId : Id) : List MeetingResolution :=
  db.resolutions.filter fun resolution => decide (resolution.meetingId = meetingId)

def GovernanceDb.linkedPoll? (db : GovernanceDb) (resolution : MeetingResolution) : Option Poll :=
  resolution.pollId.bind db.poll?

/-- The body that `publishMinutes` publishes: the sent one, else the stored one. -/
def minutesToPublish (minutesBody : Option String) (meeting : GeneralMeeting) : String :=
  (minutesBody.map trimText).getD meeting.minutesBody

def GeneralMeeting.publishMinutes (body : String) (now : Instant) (meeting : GeneralMeeting) : GeneralMeeting :=
  { meeting with minutesBody := body, minutesPublishedAt := some now }

def publishMinutes (now : Instant) (user : Voter) (id : Id) (minutesBody : Option String) (db : GovernanceDb) :
    Result GovernanceDb := do
  let existing ← orThrow (db.meeting? id) (.notFound "Not Found")
  assertManagement user.toAuthenticatedUser existing.condoId
  throwIf (existing.status ≠ .inProgress ∧ existing.status ≠ .closed)
    (.badRequest "Minutes can only be published when the meeting is in progress or closed")
  throwIf ((db.resolutionsOf id).any fun resolution => (db.linkedPoll? resolution).any fun poll => decide (poll.status = .opened))
    (.badRequest "All resolution polls must be closed before publishing minutes")
  let body := minutesToPublish minutesBody existing
  throwIf (trimText body = "") (.badRequest "Minutes body is required before publishing")
  return db.updateMeeting id (GeneralMeeting.publishMinutes body now)

structure CreateMeetingResolutionDto where
  title : String
  description : Option String
  position : Option ℤ

structure UpdateMeetingResolutionDto where
  title : Option String
  description : Option String
  position : Option ℤ

def GovernanceDb.insertResolution (db : GovernanceDb) (row : Id → MeetingResolution) : GovernanceDb :=
  { db with resolutions := db.resolutions ++ [row db.nextId], nextId := db.nextId + 1 }

def CreateMeetingResolutionDto.row (dto : CreateMeetingResolutionDto) (meetingId id : Id) : MeetingResolution :=
  { id := id, meetingId := meetingId, title := trimText dto.title
    description := (dto.description.map trimText).getD "", position := dto.position.getD 0, pollId := none
    votingOpensAt := none, votingClosesAt := none, eligibilitySnapshot := none, resultsSnapshot := none }

def addResolution (user : Voter) (meetingId : Id) (dto : CreateMeetingResolutionDto) (db : GovernanceDb) :
    Result GovernanceDb := do
  let meeting ← orThrow (db.meeting? meetingId) (.notFound "Not Found")
  assertManagement user.toAuthenticatedUser meeting.condoId
  throwIf (meeting.status = .closed) (.badRequest "Cannot add resolutions to a closed meeting")
  return db.insertResolution (dto.row meetingId)

def MeetingResolution.update (resolution : MeetingResolution) (dto : UpdateMeetingResolutionDto) : MeetingResolution :=
  { resolution with
    title := (dto.title.map trimText).getD resolution.title
    description := (dto.description.map trimText).getD resolution.description
    position := dto.position.getD resolution.position }

structure MeetingItem where
  resolution : MeetingResolution
  meeting : GeneralMeeting

def GovernanceDb.meetingItem (db : GovernanceDb) (resolutionId : Id) : Result MeetingItem := do
  let resolution ← orThrow (db.resolution? resolutionId) (.notFound "Not Found")
  let meeting ← orThrow (db.meeting? resolution.meetingId) (.failure "meeting")
  return ⟨resolution, meeting⟩

def updateResolution (user : Voter) (resolutionId : Id) (dto : UpdateMeetingResolutionDto) (db : GovernanceDb) :
    Result GovernanceDb := do
  let item ← db.meetingItem resolutionId
  assertManagement user.toAuthenticatedUser item.meeting.condoId
  throwIf (item.resolution.pollId.isSome ∧ (db.linkedPoll? item.resolution).map Poll.status ≠ some .draft)
    (.badRequest "Resolution cannot be edited after voting has opened")
  return db.updateResolution resolutionId fun resolution => resolution.update dto

end SmartResidence.Governance
