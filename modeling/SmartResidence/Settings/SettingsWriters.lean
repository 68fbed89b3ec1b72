import SmartResidence.Access.AccessSettings
import SmartResidence.Settings.VisitorSettings
import SmartResidence.Threads.ThreadsService
import Mathlib.Logic.Function.Basic

/-!
# Writers of `condo.settings`

Each reads the whole column in one step and writes the whole column in another.
-/

namespace SmartResidence.Settings

open Foundation Billing Threads Access

structure SettingsDb where
  condos : List ThreadCondo
  units : List ThreadUnit
  roleAssignments : List StoredRole

def SettingsDb.condo? (db : SettingsDb) (id : Id) : Option ThreadCondo := findBy ThreadCondo.id id db.condos

structure SettingsEnv where
  access : AccessEnv
  holidays : HolidayEnv
  uuid : Id → String
  /-- `acceptableMaxMins`, from the square root of the number of units. -/
  acceptableMaxMins : ThreadPriority → Nat → ℤ

structure SlaPolicyItem where
  priority : ThreadPriority
  resolutionMins : ℤ

structure UpdateSlaPoliciesDto where
  policies : List SlaPolicyItem
  graceDays : Option Nat
  riskyAcknowledged : Bool
  grace_bounds : ∀ days ∈ graceDays, 1 ≤ days ∧ days ≤ 30

structure CategoryPool where
  category : ThreadCategory
  userIds : List Id

structure UpdateAutoAssignmentDto where
  generalTriagePool : List Id
  categoryPools : List CategoryPool
  seniorStaffPool : List Id

/-- What a manager sends; `none` leaves a setting as it is. -/
structure UpdateBillingAutomationDto where
  enabled : Option Bool
  generationDay : Option {n : Nat // 1 ≤ n ∧ n ≤ 31}
  periodStrategy : Option PeriodStrategy
  dueStrategy : Option DueStrategy
  dueDay : Option {n : Nat // 1 ≤ n ∧ n ≤ 31}
  dueOffsetDays : Option {n : Nat // n ≤ 90}

inductive SettingsRequest
  | updateVisitorSettings (user : AuthenticatedUser) (dto : UpdateVisitorSettingsDto)
  | updateAccessRestriction (user : AuthenticatedUser) (dto : UpdateSettingsDto)
  | updateSlaSettings (user : AuthenticatedUser) (dto : UpdateSlaPoliciesDto)
  | updateAutoAssignment (user : AuthenticatedUser) (dto : UpdateAutoAssignmentDto)
  | updateBillingAutomation (dto : UpdateBillingAutomationDto)

def isRisky (env : SettingsEnv) (unitCount : Nat) (item : SlaPolicyItem) : Bool :=
  decide (recommendedResolutionMins item.priority < item.resolutionMins ∧
    env.acceptableMaxMins item.priority unitCount < item.resolutionMins)

def UpdateSlaPoliciesDto.patch (dto : UpdateSlaPoliciesDto) (current : HelpdeskSettings) : HelpdeskSettings :=
  match sent : dto.graceDays with
  | none => current
  | some days =>
      { current with
        resolutionConfirmationGraceDays := days
        grace_bounds := by
          obtain ⟨least, most⟩ := dto.grace_bounds days sent
          exact ⟨by exact_mod_cast least, by exact_mod_cast most⟩ }

def idsJson (env : SettingsEnv) (ids : List Id) : List Json := ids.map fun id => .string (env.uuid id)

def CategoryPool.toJson (env : SettingsEnv) (pool : CategoryPool) : Json :=
  .object [("category", .string pool.category.name), ("userIds", .array (idsJson env pool.userIds))]

def UpdateAutoAssignmentDto.userIds (dto : UpdateAutoAssignmentDto) : List Id :=
  dto.generalTriagePool ++ dto.seniorStaffPool ++ dto.categoryPools.flatMap CategoryPool.userIds

def UpdateAutoAssignmentDto.patch (env : SettingsEnv) (dto : UpdateAutoAssignmentDto) (current : HelpdeskSettings) :
    HelpdeskSettings :=
  { current with
    autoAssignment := some {
      generalTriagePool := idsJson env dto.generalTriagePool
      categoryPools := dto.categoryPools.map (CategoryPool.toJson env)
      seniorStaffPool := idsJson env dto.seniorStaffPool
      priorityPools := current.autoAssignment.bind AutoAssignment.priorityPools
      mlEnabled := current.autoAssignment.any AutoAssignment.mlEnabled } }

def UpdateBillingAutomationDto.next (dto : UpdateBillingAutomationDto) (current : BillingAutomationSettings) :
    BillingAutomationSettings :=
  let generationDay := dto.generationDay.getD ⟨current.generationDay, current.generationDay_bounds⟩
  let dueDay := dto.dueDay.getD ⟨current.dueDay, current.dueDay_bounds⟩
  let dueOffsetDays := dto.dueOffsetDays.getD ⟨current.dueOffsetDays, current.dueOffsetDays_le⟩
  { enabled := dto.enabled.getD current.enabled
    generationDay := generationDay
    periodStrategy := dto.periodStrategy.getD current.periodStrategy
    dueStrategy := dto.dueStrategy.getD current.dueStrategy
    dueDay := dueDay
    dueOffsetDays := dueOffsetDays
    generationDay_bounds := generationDay.property
    dueDay_bounds := dueDay.property
    dueOffsetDays_le := dueOffsetDays.property }

def SettingsDb.staffIds (db : SettingsDb) (condoId : Id) : List Id :=
  (db.roleAssignments.filter fun role => decide (role.condoId = some condoId ∧
    (role.roleId = .managementAdmin ∨ role.roleId = .managementStaff) ∧ role.revokedAt = none)).map StoredRole.userId

def userIsManagement (user : AuthenticatedUser) (condoId : Id) : Bool :=
  user.roles.any fun r => isSuperAdmin r ||
    decide ((r.roleId = .managementAdmin ∨ r.roleId = .managementStaff) ∧ r.condoId = some condoId)

def SettingsRequest.authorize (condoId : Id) : SettingsRequest → Result Unit
  | .updateVisitorSettings user _ =>
      throwIf (¬ userIsManagement user condoId) (.forbidden "You cannot update visitor settings for this condo")
  | .updateAccessRestriction user _ => assertCondoManagement user condoId
  | .updateSlaSettings user _ =>
      throwIf (¬ isAdmin user condoId) (.forbidden "Only management admins can edit SLA policies")
  | .updateAutoAssignment user _ =>
      throwIf (¬ isAdmin user condoId) (.forbidden "Only management admins can edit assignee pools")
  | .updateBillingAutomation _ => return ()

def SettingsRequest.merged (env : SettingsEnv) (now : Instant) (db : SettingsDb) (condo : ThreadCondo) :
    SettingsRequest → Result Json
  | .updateVisitorSettings _ dto => return mergeVisitorSettings env.holidays now condo.settings dto
  | .updateAccessRestriction _ dto =>
      return mergeAccessRestrictionSettings condo.settings
        (dto.next (parseAccessRestrictionSettings env.access condo.settings))
  | .updateSlaSettings _ dto => do
      let unitCount := db.units.countP fun unit => decide (unit.condoId = condo.id)
      throwIf (dto.policies.any (isRisky env unitCount) ∧ dto.riskyAcknowledged = false)
        (.badRequest "One or more priorities are in the risky band — acknowledge the warning to proceed.")
      return mergeHelpdeskSettings condo.settings dto.patch
  | .updateAutoAssignment _ dto => do
      for id in dto.userIds do
        throwIf (id ∉ db.staffIds condo.id)
          (.badRequest ("User " ++ env.uuid id ++ " is not management staff for this condo"))
      return mergeHelpdeskSettings condo.settings (dto.patch env)
  | .updateBillingAutomation dto => do
      let current ← orThrow (parseAutomationSettings condo.settings) (.failure "ZodError")
      return mergeAutomation condo.settings { current with settings := dto.next current.settings }

/-- What `generateRecurring` answers, and when it ran. -/
structure RunResult where
  ranAt : String
  periodStart : String
  periodEnd : String
  created : ℚ
  skipped : ℚ
  skippedNoRate : ℚ

def RunResult.record (result : RunResult) : RunRecord :=
  ⟨some result.ranAt, some result.periodStart, some result.periodEnd, some result.created, some result.skipped,
    some result.skippedNoRate⟩

inductive SettingsFlight
  | writing (condoId : Id) (request : SettingsRequest) (read written : Json)
  | running (condoId : Id) (settings : StoredAutomation)
  | recording (condoId : Id) (settings : StoredAutomation) (result : RunResult) (read : Json)

def SettingsRequest.begin (env : SettingsEnv) (now : Instant) (db : SettingsDb) (condoId : Id) (request : SettingsRequest) :
    Result SettingsFlight := do
  request.authorize condoId
  let condo ← orThrow (db.condo? condoId) (.notFound "Condo not found")
  let written ← request.merged env now db condo
  return .writing condoId request condo.settings written

def beginRun (db : SettingsDb) (condoId : Id) : Result SettingsFlight := do
  let condo ← orThrow (db.condo? condoId) (.notFound "Condo not found")
  let settings ← orThrow (parseAutomationSettings condo.settings) (.failure "ZodError")
  throwIf (settings.settings.enabled = false) (.failure "disabled")
  return .running condoId settings

def SettingsFlight.written : SettingsFlight → Option (Id × Json)
  | .writing condoId _ _ written => some (condoId, written)
  | .running .. => none
  | .recording condoId settings result read =>
      some (condoId, mergeAutomation read { settings with run := result.record })

def SettingsDb.write (db : SettingsDb) (condoId : Id) (settings : Json) : SettingsDb :=
  { db with condos := updateBy ThreadCondo.id condoId (fun row => { row with settings := settings }) db.condos }

inductive SettingsEvent
  | begin (now : Instant) (condoId : Id) (request : SettingsRequest)
  | beginRun (condoId : Id)
  /-- The invoices of a run are there, and `recordRun` reads the condo. -/
  | generated (place : Nat) (result : RunResult)
  | write (place : Nat)
  | abort (place : Nat)

structure SettingsState where
  db : SettingsDb
  flights : List SettingsFlight

namespace SettingsState

def launch (state : SettingsState) (begun : Result SettingsFlight) : Option SettingsState :=
  match begun with
  | .ok flight => some { state with flights := state.flights ++ [flight] }
  | .error _ => none

def next (env : SettingsEnv) (state : SettingsState) : SettingsEvent → Option SettingsState
  | .begin now condoId request => state.launch (request.begin env now state.db condoId)
  | .beginRun condoId => state.launch (Settings.beginRun state.db condoId)
  | .generated place result =>
      match state.flights[place]? with
      | some (.running condoId settings) =>
          let rest := state.flights.eraseIdx place
          match state.db.condo? condoId with
          | some condo => some { state with flights := rest ++ [.recording condoId settings result condo.settings] }
          | none => some { state with flights := rest }
      | _ => none
  | .write place =>
      match state.flights[place]?.bind SettingsFlight.written with
      | some (condoId, settings) => some ⟨state.db.write condoId settings, state.flights.eraseIdx place⟩
      | none => none
  | .abort place => some { state with flights := state.flights.eraseIdx place }

end SettingsState

end SmartResidence.Settings
