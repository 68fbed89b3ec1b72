import SmartResidence.Access.AccessSettings

/-!
# `access-restriction.service.ts`
-/

namespace SmartResidence.Access

open Foundation Billing Settings

def arrearsStatuses : List InvoiceStatus := [.issued, .partlyPaid, .overdue]

structure UnitArrearsSnapshot where
  unitId : Id
  outstanding : ℤ
  oldestDueDate : Option Instant
  daysPastDue : ℤ
  deriving DecidableEq

def UnitArrearsSnapshot.none (unitId : Id) : UnitArrearsSnapshot := ⟨unitId, 0, .none, 0⟩

def msPerDay : ℤ := 86400000

def ArrearsInvoice.outstanding (invoice : ArrearsInvoice) : ℤ := invoice.total - invoice.amountPaid

def ArrearsInvoice.daysPastDue (invoice : ArrearsInvoice) (now : Instant) : ℤ := (now - invoice.dueDate) / msPerDay

def ArrearsInvoice.owed (invoice : ArrearsInvoice) : Bool := decide ((1 / 2 : ℚ) < invoice.outstanding)

def UnitArrearsSnapshot.add (now : Instant) (snap : UnitArrearsSnapshot) (invoice : ArrearsInvoice) :
    UnitArrearsSnapshot :=
  let days := invoice.daysPastDue now
  let older := snap.oldestDueDate.all fun oldest => decide (invoice.dueDate < oldest)
  { unitId := snap.unitId
    outstanding := snap.outstanding + invoice.outstanding
    oldestDueDate := if older then some invoice.dueDate else snap.oldestDueDate
    daysPastDue := if older then days else max snap.daysPastDue days }

def noteArrears (now : Instant) (byUnit : List (Id × UnitArrearsSnapshot)) (invoice : ArrearsInvoice) :
    List (Id × UnitArrearsSnapshot) :=
  assign invoice.unitId (((byUnit.lookup invoice.unitId).getD (.none invoice.unitId)).add now invoice) byUnit

def condoArrears (now : Instant) (db : AccessDb) (condoId : Id) : List (Id × UnitArrearsSnapshot) :=
  (db.invoices.filter fun invoice =>
    decide (invoice.condoId = condoId ∧ invoice.status ∈ arrearsStatuses) && invoice.owed).foldl (noteArrears now) []

def computeCondoArrears (now : Instant) (db : AccessDb) (condoId : Id) : List UnitArrearsSnapshot :=
  (condoArrears now db condoId).map Prod.snd

def computeUnitArrears (now : Instant) (db : AccessDb) (unitId : Id) : UnitArrearsSnapshot :=
  (db.invoices.filter fun invoice =>
    decide (invoice.unitId = unitId ∧ invoice.status ∈ arrearsStatuses) && invoice.owed).foldl
      (UnitArrearsSnapshot.add now) (.none unitId)

def requireCondo (db : AccessDb) (condoId : Id) : Result AccessCondo := do
  let condo ← orThrow (db.condo? condoId) (.notFound "Condo not found")
  throwIf (condo.deletedAt ≠ none) (.notFound "Condo not found")
  return condo

def requireUnit (db : AccessDb) (condoId unitId : Id) : Result AccessUnit :=
  orThrow ((db.unit? unitId).filter fun unit => decide (unit.condoId = condoId)) (.notFound "Unit not found")

namespace AccessDb

def updateRestriction (db : AccessDb) (unitId : Id) (change : UnitAccessRestriction → UnitAccessRestriction)
    (kept : ∀ row, (change row).unitId = row.unitId) : AccessDb :=
  { db with
    restrictions := updateBy UnitAccessRestriction.unitId unitId change db.restrictions
    restrictions_unique := (map_key_updateBy kept).symm ▸ db.restrictions_unique }

def upsertRestriction (db : AccessDb) (create : UnitAccessRestriction)
    (change : UnitAccessRestriction → UnitAccessRestriction) (kept : ∀ row, (change row).unitId = row.unitId) : AccessDb :=
  { db with
    restrictions := upsertBy UnitAccessRestriction.unitId create.unitId create change db.restrictions
    restrictions_unique := nodup_upsertBy rfl kept db.restrictions_unique }

end AccessDb

def restrictReason (reason : Option String) : String :=
  match reason.map trimText with
  | none | some "" => "Manual restriction by management"
  | some text => text

def forceRestrict (env : AccessEnv) (now : Instant) (db : AccessDb) (user : AuthenticatedUser) (condoId unitId : Id)
    (reason : Option String) : Result AccessDb := do
  assertCondoManagement user condoId
  let _ ← requireUnit db condoId unitId
  let condo ← requireCondo db condoId
  let settings := parseAccessRestrictionSettings env condo.settings
  let arrears := computeUnitArrears now db unitId
  let restricted (row : UnitAccessRestriction) : UnitAccessRestriction :=
    { row with
      active := true, source := .manual, manualExempt := false, zones := settings.zones
      reason := some (restrictReason reason)
      outstandingAmount := arrears.outstanding, oldestDueDate := arrears.oldestDueDate
      activatedAt := some now, clearedAt := none, updatedByUserId := some user.id }
  return db.upsertRestriction
    { condoId := condoId, unitId := unitId, active := true, source := .manual, manualExempt := false
      zones := settings.zones, reason := some (restrictReason reason)
      outstandingAmount := arrears.outstanding, oldestDueDate := arrears.oldestDueDate
      activatedAt := some now, clearedAt := none, updatedByUserId := some user.id }
    restricted fun _ => rfl

def forceClear (env : AccessEnv) (now : Instant) (db : AccessDb) (user : AuthenticatedUser) (condoId unitId : Id) :
    Result AccessDb := do
  assertCondoManagement user condoId
  let _ ← requireUnit db condoId unitId
  let condo ← requireCondo db condoId
  let settings := parseAccessRestrictionSettings env condo.settings
  let arrears := computeUnitArrears now db unitId
  let cleared (row : UnitAccessRestriction) : UnitAccessRestriction :=
    { row with
      active := false, source := .manual, manualExempt := true, reason := some "Cleared by management"
      outstandingAmount := arrears.outstanding, oldestDueDate := arrears.oldestDueDate
      clearedAt := some now, updatedByUserId := some user.id }
  return db.upsertRestriction
    { condoId := condoId, unitId := unitId, active := false, source := .manual, manualExempt := true
      zones := settings.zones, reason := some "Cleared by management"
      outstandingAmount := arrears.outstanding, oldestDueDate := arrears.oldestDueDate
      activatedAt := none, clearedAt := some now, updatedByUserId := some user.id }
    cleared fun _ => rfl

/-! ## The engine -/

structure RecomputeCounts where
  activated : Nat
  cleared : Nat
  skipped : Nat
  deriving DecidableEq

def qualifies (settings : StoredAccessRestrictionSettings) (snap : UnitArrearsSnapshot) : Bool :=
  decide (settings.minOutstanding * 100 ≤ snap.outstanding ∧ settings.graceDays < snap.daysPastDue)

def UnitArrearsSnapshot.amounts (snap : UnitArrearsSnapshot) (row : UnitAccessRestriction) : UnitAccessRestriction :=
  { row with outstandingAmount := snap.outstanding, oldestDueDate := snap.oldestDueDate }

def autoReason (snap : UnitArrearsSnapshot) : String := "Auto: " ++ toString snap.daysPastDue ++ " days past due"

structure Recompute where
  db : AccessDb
  counts : RecomputeCounts

section

variable (now : Instant) (settings : StoredAccessRestrictionSettings) (condoId : Id) (actorUserId : Option Id)

def activation (snap : UnitArrearsSnapshot) (row : UnitAccessRestriction) : UnitAccessRestriction :=
  { row with
    active := true, source := .auto, manualExempt := false, zones := settings.zones, reason := some (autoReason snap)
    outstandingAmount := snap.outstanding, oldestDueDate := snap.oldestDueDate
    activatedAt := some now, clearedAt := none, updatedByUserId := actorUserId }

def deactivation (snap : UnitArrearsSnapshot) (row : UnitAccessRestriction) (stored : UnitAccessRestriction) :
    UnitAccessRestriction :=
  { stored with
    active := false, manualExempt := false
    outstandingAmount := snap.outstanding, oldestDueDate := snap.oldestDueDate
    clearedAt := if row.active then some now else row.clearedAt
    updatedByUserId := actorUserId <|> row.updatedByUserId
    reason := if row.active then some "Arrears cleared" else row.reason }

def recomputeUnit (snap : UnitArrearsSnapshot) (row : Option UnitAccessRestriction) (state : Recompute) (unitId : Id) :
    Recompute :=
  if ¬ qualifies settings snap then
    match row with
    | some row =>
        if row.active || row.manualExempt then
          { db := state.db.updateRestriction unitId (deactivation now actorUserId snap row) fun _ => rfl
            counts := { state.counts with cleared := state.counts.cleared + if row.active then 1 else 0 } }
        else { state with db := state.db.updateRestriction unitId snap.amounts fun _ => rfl }
    | none => state
  else if row.any UnitAccessRestriction.manualExempt then
    { db := state.db.updateRestriction unitId snap.amounts fun _ => rfl
      counts := { state.counts with skipped := state.counts.skipped + 1 } }
  else if row.any fun row => row.active && decide (row.source = .manual) then
    { db := state.db.updateRestriction unitId (fun row => { snap.amounts row with zones := settings.zones }) fun _ => rfl
      counts := { state.counts with skipped := state.counts.skipped + 1 } }
  else if row.any UnitAccessRestriction.active then
    { state with
      db := state.db.updateRestriction unitId
        (fun row => { snap.amounts row with zones := settings.zones, reason := some (autoReason snap) }) fun _ => rfl }
  else
    { db := state.db.upsertRestriction
        { condoId := condoId, unitId := unitId, active := true, source := .auto, manualExempt := false
          zones := settings.zones, reason := some (autoReason snap)
          outstandingAmount := snap.outstanding, oldestDueDate := snap.oldestDueDate
          activatedAt := some now, clearedAt := none, updatedByUserId := actorUserId }
        (activation now settings actorUserId snap) fun _ => rfl
      counts := { state.counts with activated := state.counts.activated + 1 } }

def snapshotOf (arrearsMap : List (Id × UnitArrearsSnapshot)) (unitId : Id) : UnitArrearsSnapshot :=
  (arrearsMap.lookup unitId).getD (.none unitId)

def touchedUnitIds (arrearsMap : List (Id × UnitArrearsSnapshot)) (existing : List UnitAccessRestriction) : List Id :=
  membersOf (arrearsMap.map Prod.fst ++ existing.map UnitAccessRestriction.unitId)

end

def existingOf (db : AccessDb) (condoId : Id) : List UnitAccessRestriction :=
  db.restrictions.filter fun row => decide (row.condoId = condoId)

def recomputeCondo (env : AccessEnv) (now : Instant) (db : AccessDb) (condoId : Id) (actorUserId : Option Id) :
    Result Recompute := do
  let condo ← requireCondo db condoId
  let settings := parseAccessRestrictionSettings env condo.settings
  if ¬ settings.enabled then return ⟨db, ⟨0, 0, 0⟩⟩
  let arrearsMap := condoArrears now db condoId
  let existing := existingOf db condoId
  return (touchedUnitIds arrearsMap existing).foldl (fun state unitId =>
    recomputeUnit now settings condoId actorUserId (snapshotOf arrearsMap unitId)
      (findBy UnitAccessRestriction.unitId unitId existing) state unitId) ⟨db, ⟨0, 0, 0⟩⟩

def recomputeForUser (env : AccessEnv) (now : Instant) (db : AccessDb) (user : AuthenticatedUser) (condoId : Id) :
    Result Recompute := do
  assertCondoManagement user condoId
  recomputeCondo env now db condoId (some user.id)

/-- What `updateSettings` writes before it runs the engine. -/
def storeSettings (env : AccessEnv) (db : AccessDb) (user : AuthenticatedUser) (condoId : Id) (dto : UpdateSettingsDto) :
    Result (AccessDb × StoredAccessRestrictionSettings) := do
  assertCondoManagement user condoId
  let condo ← requireCondo db condoId
  let next := dto.next (parseAccessRestrictionSettings env condo.settings)
  let settings := mergeAccessRestrictionSettings condo.settings next
  return ({ db with condos := updateBy AccessCondo.id condoId (fun row => { row with settings := settings }) db.condos },
    next)

def updateSettings (env : AccessEnv) (now : Instant) (db : AccessDb) (user : AuthenticatedUser) (condoId : Id)
    (dto : UpdateSettingsDto) : Result AccessDb := do
  let (stored, next) ← storeSettings env db user condoId dto
  if next.enabled then return (← recomputeCondo env now stored condoId (some user.id)).db
  return stored

def onInvoicePaid (env : AccessEnv) (now : Instant) (db : AccessDb) (invoiceId : Id) : AccessDb :=
  match db.invoice? invoiceId with
  | none => db
  | some invoice =>
      match recomputeCondo env now db invoice.condoId none with
      | .ok done => done.db
      | .error _ => db

/-! ## Residents -/

def isOps (r : RoleAssignment) : Bool :=
  decide (r.roleId = .superAdmin ∨ r.roleId = .managementAdmin ∨ r.roleId = .managementStaff ∨
    r.roleId = .securityGuard)

def isOpsBypass (actor : AuthenticatedUser) : Bool := actor.roles.any isOps

def assertResidentOrManagement (db : AccessDb) (user : AuthenticatedUser) (unitId condoId : Id) : Result Unit :=
  if isOpsBypass user && user.roles.any (fun r => decide (r.condoId = some condoId) || isSuperAdmin r) then .ok ()
  else if user.roles.any fun r => decide (r.unitId = some unitId) then .ok ()
  else throwIf (⟨user.id, unitId⟩ ∉ db.ownerships ∧ ⟨user.id, unitId⟩ ∉ db.tenancies)
    (.forbidden "You are not a resident of this unit")

structure BlockedCapabilities where
  facility : Bool
  visitors : Bool
  deliveryPasses : Bool
  recurringPasses : Bool

def BlockedCapabilities.of (blocked : BlockedCapabilities) : AccessRestrictionCapability → Bool
  | .facility => blocked.facility
  | .visitors => blocked.visitors
  | .deliveryPasses => blocked.deliveryPasses
  | .recurringPasses => blocked.recurringPasses

structure ResidentUnitAccessStatus where
  unitId : Id
  condoId : Id
  restricted : Bool
  outstandingAmount : ℤ
  reason : Option String
  zones : List AccessRestrictionZone
  blocked : BlockedCapabilities

def residentStatus (env : AccessEnv) (db : AccessDb) (unit : AccessUnit) : ResidentUnitAccessStatus :=
  let settings := parseAccessRestrictionSettings env (db.settingsOf unit.condoId)
  let row := db.restriction? unit.id
  let restricted := settings.enabled && row.any UnitAccessRestriction.active
  { unitId := unit.id
    condoId := unit.condoId
    restricted := restricted
    outstandingAmount := (row.map UnitAccessRestriction.outstandingAmount).getD 0
    reason := if restricted then row.bind UnitAccessRestriction.reason else none
    zones := if restricted then (row.map UnitAccessRestriction.zones).getD defaultZones else []
    blocked := {
      facility := restricted && settings.softBlockFacility
      visitors := restricted && settings.softBlockVisitors
      deliveryPasses := restricted && settings.softBlockDeliveryPasses
      recurringPasses := restricted && settings.softBlockRecurringPasses } }

def getResidentUnitStatus (env : AccessEnv) (db : AccessDb) (user : AuthenticatedUser) (unitId : Id) :
    Result ResidentUnitAccessStatus := do
  let unit ← orThrow (db.unit? unitId) (.notFound "Unit not found")
  assertResidentOrManagement db user unit.id unit.condoId
  return residentStatus env db unit

def capabilityEnabled (settings : StoredAccessRestrictionSettings) : AccessRestrictionCapability → Bool
  | .facility => settings.softBlockFacility
  | .visitors => settings.softBlockVisitors
  | .deliveryPasses => settings.softBlockDeliveryPasses
  | .recurringPasses => settings.softBlockRecurringPasses

def accessRestrictedArrears : ApiError := .forbidden <|
  "ACCESS_RESTRICTED_ARREARS: This unit cannot use this service while maintenance charges are unpaid. " ++
    "Please settle outstanding invoices or contact management."

def assertUnitNotAccessRestricted (env : AccessEnv) (db : AccessDb) (actor : AuthenticatedUser) (unitId : Id)
    (capability : AccessRestrictionCapability) : Result Unit :=
  if isOpsBypass actor then .ok ()
  else
    match db.unit? unitId with
    | none => .ok ()
    | some unit =>
        match db.condo? unit.condoId with
        | none => .ok ()
        | some condo =>
            let settings := parseAccessRestrictionSettings env condo.settings
            if ¬ settings.enabled then .ok ()
            else if ¬ capabilityEnabled settings capability then .ok ()
            else throwIf ((db.restriction? unitId).any UnitAccessRestriction.active) accessRestrictedArrears

/-!
## Histories of the access restriction

The engine runs by schedule, by hand, after a change of the settings and after each paid invoice.
-/

inductive AccessEvent
  | forceRestrict (now : Instant) (user : AuthenticatedUser) (condoId unitId : Id) (reason : Option String)
  | forceClear (now : Instant) (user : AuthenticatedUser) (condoId unitId : Id)
  | recompute (now : Instant) (condoId : Id) (actorUserId : Option Id)
  | updateSettings (now : Instant) (user : AuthenticatedUser) (condoId : Id) (dto : UpdateSettingsDto)
  | invoicePaid (now : Instant) (invoiceId : Id)
  | billing (invoices : List ArrearsInvoice)

def perform (env : AccessEnv) (db : AccessDb) : AccessEvent → Result AccessDb
  | .forceRestrict now user condoId unitId reason => forceRestrict env now db user condoId unitId reason
  | .forceClear now user condoId unitId => forceClear env now db user condoId unitId
  | .recompute now condoId actorUserId => (recomputeCondo env now db condoId actorUserId).map Recompute.db
  | .updateSettings now user condoId dto => updateSettings env now db user condoId dto
  | .invoicePaid now invoiceId => .ok (onInvoicePaid env now db invoiceId)
  | .billing invoices => .ok { db with invoices := invoices }

def AccessStep (env : AccessEnv) (before : AccessDb) (event : AccessEvent) (after : AccessDb) : Prop :=
  perform env before event = .ok after

inductive EngineOn (env : AccessEnv) (db : AccessDb) : AccessEvent → AccessDb → Id → Instant → Prop
  | recompute (now : Instant) (condoId : Id) (actorUserId : Option Id) :
      EngineOn env db (.recompute now condoId actorUserId) db condoId now
  | settings {now : Instant} {user : AuthenticatedUser} {condoId : Id} {dto : UpdateSettingsDto} {stored : AccessDb}
      {next : StoredAccessRestrictionSettings} : storeSettings env db user condoId dto = .ok (stored, next) →
      EngineOn env db (.updateSettings now user condoId dto) stored condoId now
  | paid {now : Instant} {invoiceId : Id} {invoice : ArrearsInvoice} : db.invoice? invoiceId = some invoice →
      EngineOn env db (.invoicePaid now invoiceId) db invoice.condoId now

end SmartResidence.Access
