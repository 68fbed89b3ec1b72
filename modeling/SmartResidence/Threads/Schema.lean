import SmartResidence.Billing.Invoices
import SmartResidence.Settings.Json

/-!
# The help-desk tables
-/

namespace SmartResidence.Threads

open Foundation Billing Settings

inductive ThreadStatus
  | opened | awaitingResident | awaitingManagement | pendingResidentConfirmation
  | resolved | closed | reopened
  deriving DecidableEq

inductive ThreadPriority
  | low | normal | high | urgent
  deriving DecidableEq

inductive ThreadCategory
  | billing | maintenance | facility | security | complaint | suggestion | governance | general
  deriving DecidableEq

inductive ThreadMessageKind
  | message | internalNote | system
  deriving DecidableEq

structure Thread where
  id : Id
  condoId : Id
  unitId : Option Id
  createdByUserId : Id
  assignedToUserId : Option Id
  subject : String
  category : ThreadCategory
  priority : ThreadPriority
  status : ThreadStatus
  slaPolicyId : Option Id
  firstResponseDueAt : Option Instant
  resolutionDueAt : Option Instant
  firstRespondedAt : Option Instant
  resolvedAt : Option Instant
  closedAt : Option Instant
  resolutionProposedAt : Option Instant
  resolutionProposedByUserId : Option Id
  resolutionProposedMessageId : Option Id
  reopenCount : Nat
  lastMessageAt : Instant
  repeatComplainant : Bool
  slaEscalatedAt : Option Instant
  createdAt : Instant
  deriving DecidableEq

structure ThreadMessage where
  id : Id
  threadId : Id
  authorUserId : Id
  kind : ThreadMessageKind
  body : String
  createdAt : Instant
  deriving DecidableEq

structure SlaPolicy where
  id : Id
  condoId : Id
  priority : ThreadPriority
  firstResponseMins : ℤ
  resolutionMins : ℤ
  active : Bool
  deriving DecidableEq

structure StoredRole where
  userId : Id
  roleId : RoleId
  condoId : Option Id
  expiresAt : Option Instant
  revokedAt : Option Instant
  deriving DecidableEq

structure ThreadCondo where
  id : Id
  settings : Json

structure ThreadUnit where
  id : Id
  condoId : Id
  deriving DecidableEq

structure ThreadDb where
  nextId : Nat
  condos : List ThreadCondo
  units : List ThreadUnit
  roleAssignments : List StoredRole
  slaPolicies : List SlaPolicy
  threads : List Thread
  messages : List ThreadMessage
  policies_unique : (slaPolicies.map fun policy => (policy.condoId, policy.priority)).Nodup

theorem ThreadDb.no_policies : (([] : List SlaPolicy).map fun policy => (policy.condoId, policy.priority)).Nodup :=
  List.nodup_nil

namespace ThreadDb

variable (db : ThreadDb)

def condo? (id : Id) : Option ThreadCondo := findBy ThreadCondo.id id db.condos
def unit? (id : Id) : Option ThreadUnit := findBy ThreadUnit.id id db.units
def thread? (id : Id) : Option Thread := findBy Thread.id id db.threads

def settingsOf (condoId : Id) : Json := ((db.condo? condoId).map ThreadCondo.settings).getD .null

def managementUserIds (condoId : Id) : List Id :=
  (db.roleAssignments.filter fun role => decide (role.condoId = some condoId ∧
    (role.roleId = .managementAdmin ∨ role.roleId = .managementStaff) ∧ role.revokedAt = none)).map StoredRole.userId

end ThreadDb

def managementRoles : List RoleId := [.superAdmin, .managementAdmin, .managementStaff]

def isManagement (user : AuthenticatedUser) : Bool := user.roles.any fun r => decide (r.roleId ∈ managementRoles)

def managementCondoIds (user : AuthenticatedUser) : List Id :=
  (user.roles.filter fun r => decide (r.roleId ∈ managementRoles)).filterMap RoleAssignment.condoId

def unitIds (user : AuthenticatedUser) : List Id := user.roles.filterMap RoleAssignment.unitId

/-! ## `sla-bands.ts`, `helpdesk-settings.ts`, and the windows and clocks of both SLA services -/

def msPerMinute : ℤ := 60000
def msPerDay : ℤ := 86400000

def recommendedResolutionMins : ThreadPriority → ℤ
  | .urgent => 4 * 60
  | .high => 24 * 60
  | .normal => 3 * 24 * 60
  | .low => 7 * 24 * 60

def deriveFirstResponseMins (resolutionMins : ℤ) : ℤ := max 15 (mathRound ((resolutionMins : ℚ) * 2 / 5))

def defaultResolutionConfirmationGraceDays : ℚ := 7

/-- The grace days of `parseHelpdeskSettings`. -/
def parseHelpdeskSettings (raw : Json) : ℚ :=
  let grace := match (raw.get "helpdesk").get "resolutionConfirmationGraceDays" with
    | .number days => days
    | _ => defaultResolutionConfirmationGraceDays
  max 1 (min 30 grace)

def allPriorities : List ThreadPriority := [.urgent, .high, .normal, .low]

structure SlaPolicyView where
  priority : ThreadPriority
  id : Option Id
  resolutionMins : ℤ
  firstResponseMins : ℤ
  recommendedResolutionMins : ℤ

structure SlaSettingsView where
  condoId : Id
  resolutionConfirmationGraceDays : ℚ
  atRiskThresholdPercent : Nat
  policies : List SlaPolicyView
  editable : Bool

def isAdmin (user : AuthenticatedUser) (condoId : Id) : Bool :=
  user.roles.any fun r => isSuperAdmin r || decide (r.roleId = .managementAdmin ∧ r.condoId = some condoId)

def policyView (policies : List SlaPolicy) (priority : ThreadPriority) : SlaPolicyView :=
  let row := findBy SlaPolicy.priority priority policies
  let resolutionMins := (row.map SlaPolicy.resolutionMins).getD (recommendedResolutionMins priority)
  { priority := priority
    id := row.map SlaPolicy.id
    resolutionMins := resolutionMins
    firstResponseMins := (row.map SlaPolicy.firstResponseMins).getD (deriveFirstResponseMins resolutionMins)
    recommendedResolutionMins := recommendedResolutionMins priority }

def getSettings (db : ThreadDb) (user : AuthenticatedUser) (condoId : Id) : Result SlaSettingsView := do
  throwIf (condoId ∉ managementCondoIds user) (.forbidden "Forbidden")
  let condo ← orThrow (db.condo? condoId) (.notFound "Condo not found")
  let policies := db.slaPolicies.filter fun policy => decide (policy.condoId = condoId) && policy.active
  return {
    condoId := condoId
    resolutionConfirmationGraceDays := parseHelpdeskSettings condo.settings
    atRiskThresholdPercent := 20
    policies := allPriorities.map (policyView policies)
    editable := isAdmin user condoId }

structure SlaWindow where
  slaPolicyId : Option Id
  firstResponseMins : ℤ
  resolutionMins : ℤ

def defaultSla (priority : ThreadPriority) : SlaWindow :=
  match priority with
  | .urgent => ⟨none, 60, 4 * 60⟩
  | .high => ⟨none, 4 * 60, 24 * 60⟩
  | .normal => ⟨none, 8 * 60, 3 * 24 * 60⟩
  | .low => ⟨none, 24 * 60, 7 * 24 * 60⟩

def resolvePolicy (db : ThreadDb) (condoId : Id) (priority : ThreadPriority) : SlaWindow :=
  match findBy (fun policy => (policy.condoId, policy.priority)) (condoId, priority) db.slaPolicies with
  | some policy =>
      if policy.active then ⟨some policy.id, policy.firstResponseMins, policy.resolutionMins⟩
      else { defaultSla priority with slaPolicyId := some policy.id }
  | none => defaultSla priority

structure SlaDueDates where
  slaPolicyId : Option Id
  firstResponseDueAt : Instant
  resolutionDueAt : Instant

def computeDueDates (db : ThreadDb) (condoId : Id) (priority : ThreadPriority) (start : Instant) : SlaDueDates :=
  let window := resolvePolicy db condoId priority
  { slaPolicyId := window.slaPolicyId
    firstResponseDueAt := start + window.firstResponseMins * msPerMinute
    resolutionDueAt := start + window.resolutionMins * msPerMinute }

def gracePeriodDays (db : ThreadDb) (condoId : Id) : ℚ :=
  match ((db.settingsOf condoId).get "helpdesk").get "resolutionConfirmationGraceDays" with
  | .number days => if 1 ≤ days ∧ days ≤ 30 then days else defaultResolutionConfirmationGraceDays
  | _ => defaultResolutionConfirmationGraceDays

end SmartResidence.Threads

namespace SmartResidence.Threads

open Foundation Billing

inductive SlaState
  | none | onTrack | atRisk | breached
  deriving DecidableEq

def SlaState.rank : SlaState → Nat
  | .none => 0
  | .onTrack => 1
  | .atRisk => 2
  | .breached => 3

def clockState (now createdAt : Instant) (due done : Option Instant) : SlaState :=
  match due, done with
  | some due, .none =>
      if due < now then .breached
      else if 0 < due - createdAt ∧ (due - now) * 5 < due - createdAt then .atRisk else .onTrack
  | _, _ => .none

def worse (first second : SlaState) : SlaState := if first.rank < second.rank then second else first

def computeSlaState (now : Instant) (thread : Thread) : SlaState :=
  if thread.status = .resolved ∨ thread.status = .closed ∨ thread.status = .pendingResidentConfirmation then .none
  else worse (worse .none (clockState now thread.createdAt thread.firstResponseDueAt thread.firstRespondedAt))
    (clockState now thread.createdAt thread.resolutionDueAt thread.resolvedAt)

end SmartResidence.Threads
