import SmartResidence.Billing.Recurring
import SmartResidence.Foundation.Calendar

/-!
# `billing-automation.service.ts`
-/

namespace SmartResidence.Billing

open Foundation

def msPerDay : Int := 86400000

/-- `getUTCFullYear` and `getUTCMonth` in one number: the months since January 1970. -/
def utcMonth (instant : Instant) : Int := monthOf (instant / msPerDay)

def utcDay (instant : Instant) : Int := instant / msPerDay - monthStart (utcMonth instant) + 1

/-- `utcDate` at midnight. The two-digit years of `Date.UTC` are left out. -/
def utcDate (month day : Int) : Instant := (monthStart month + day - 1) * msPerDay

theorem utcDate_day (month day : ℤ) : utcDate month day / msPerDay = monthStart month + day - 1 :=
  Int.mul_ediv_cancel _ (by decide)

def endOfUtcDate (month day : Int) : Instant := utcDate month day + msPerDay - 1

def clampDay (month : Int) (day : Nat) : Int := min day (monthLength month)

def endOfUtcDay (instant : Instant) : Instant := endOfUtcDate (utcMonth instant) (utcDay instant)

structure PeriodWindow where
  periodStart : Instant
  periodEnd : Instant
  dueDate : Instant
  runOnOrAfter : Instant
  deriving DecidableEq

def calculateWindow (settings : BillingAutomationSettings) (now : Instant) : PeriodWindow :=
  let scheduleMonth := utcMonth now
  let targetMonth := match settings.periodStrategy with
    | .nextMonth => scheduleMonth + 1
    | .currentMonth => scheduleMonth
  let periodStart := utcDate targetMonth 1
  { periodStart := periodStart
    periodEnd := endOfUtcDate (targetMonth + 1) 0
    dueDate := match settings.dueStrategy with
      | .offsetDays => endOfUtcDay (periodStart + settings.dueOffsetDays * msPerDay)
      | .dayOfMonth => endOfUtcDate targetMonth (clampDay targetMonth settings.dueDay)
    runOnOrAfter := utcDate scheduleMonth (clampDay scheduleMonth settings.generationDay) }

inductive SkipReason
  | disabled | notDue | noUnits | noBillableUnits | alreadyGenerated
  deriving DecidableEq

structure BillingAutomationPreview where
  condoId : Id
  enabled : Bool
  dueToRun : Bool
  periodStart : Instant
  periodEnd : Instant
  dueDate : Instant
  generationDay : Nat
  runOnOrAfter : Instant
  units : Nat
  billableUnits : Nat
  alreadyBilled : Nat
  wouldCreate : Nat
  skippedNoRate : Nat
  skipReason : Option SkipReason

def condoUnits (db : Db) (condoId : Id) : List ResidentialUnit :=
  db.units.filter fun unit => decide (unit.condoId = condoId)

def billableUnitIds (db : Db) (condoId : Id) : List Id :=
  ((condoUnits db condoId).filter fun unit => decide (0 < (computeLinesForUnit db unit).length)).map
    ResidentialUnit.id

def alreadyBilledIds (db : Db) (condoId : Id) (periodStart : Instant) : List Id :=
  ((db.invoices.filter fun invoice => decide (invoice.condoId = condoId ∧
    invoice.unitId ∈ billableUnitIds db condoId ∧ invoice.periodStart = periodStart ∧
    invoice.status ≠ .void)).map Invoice.unitId).dedup

def skipReasonOf (enabled dueToRun : Bool) (units billableUnits wouldCreate : Nat) : Option SkipReason :=
  if ¬ enabled then some .disabled
  else if ¬ dueToRun then some .notDue
  else if units = 0 then some .noUnits
  else if billableUnits = 0 then some .noBillableUnits
  else if wouldCreate = 0 then some .alreadyGenerated
  else none

def isDueToRun (settings : BillingAutomationSettings) (now : Instant) : Bool :=
  settings.enabled && decide ((calculateWindow settings now).runOnOrAfter ≤ now)

def buildPreview (db : Db) (condoId : Id) (settings : BillingAutomationSettings) (now : Instant) :
    BillingAutomationPreview :=
  let window := calculateWindow settings now
  let units := condoUnits db condoId
  let billable := billableUnitIds db condoId
  let alreadyBilled := (alreadyBilledIds db condoId window.periodStart).length
  let dueToRun := isDueToRun settings now
  let wouldCreate := billable.length - alreadyBilled
  { condoId := condoId
    enabled := settings.enabled
    dueToRun := dueToRun
    periodStart := window.periodStart
    periodEnd := window.periodEnd
    dueDate := window.dueDate
    generationDay := settings.generationDay
    runOnOrAfter := window.runOnOrAfter
    units := units.length
    billableUnits := billable.length
    alreadyBilled := alreadyBilled
    wouldCreate := wouldCreate
    skippedNoRate := units.length - billable.length
    skipReason := skipReasonOf settings.enabled dueToRun units.length billable.length wouldCreate }

def previewCondo (db : Db) (condoId : Id) (now : Instant) : Result BillingAutomationPreview := do
  let condo ← orThrow (db.condo? condoId) (.notFound "Condo not found")
  return buildPreview db condo.id condo.billingAutomation now

structure RunOptions where
  dryRun : Bool
  requireDue : Bool

structure BillingAutomationRunResult extends BillingAutomationPreview where
  dryRun : Bool
  created : Nat
  skipped : Nat
  ranAt : Instant

def BillingAutomationPreview.shouldRun (preview : BillingAutomationPreview) (opts : RunOptions) : Bool :=
  preview.enabled && decide (preview.skipReason ≠ some .noUnits ∧
    preview.skipReason ≠ some .noBillableUnits ∧ preview.skipReason ≠ some .alreadyGenerated) &&
    (!opts.requireDue || preview.dueToRun)

/-- What `startRun` checks before the run of a signed-in manager is recorded. -/
def startRun (actor : Option AuthenticatedUser) (preview : BillingAutomationPreview) (opts : RunOptions) :
    Result Unit :=
  match actor with
  | none => return ()
  | some user =>
      if !opts.dryRun && (!opts.requireDue || preview.dueToRun) then
        assertCondoManagement user preview.condoId true
      else return ()

/-- The request `runCondo` hands to `generateRecurring`. -/
def BillingAutomationPreview.toDto (preview : BillingAutomationPreview) : GenerateRecurringDto where
  periodStart := preview.periodStart
  periodEnd := preview.periodEnd
  dueDate := preview.dueDate
  lines := none
  unitIds := none

def automationOptions (actor : Option AuthenticatedUser) : GenerateRecurringOptions :=
  ⟨actor.isNone, actor.map AuthenticatedUser.id⟩

def runCondo (now : Instant) (db : Db) (actor : Option AuthenticatedUser) (condoId : Id)
    (opts : RunOptions) : Result (Db × BillingAutomationRunResult) := do
  let preview ← previewCondo db condoId now
  startRun actor preview opts
  if opts.dryRun || !preview.shouldRun opts then
    return (db, { preview with
      dryRun := opts.dryRun
      created := 0
      skipped := preview.alreadyBilled
      ranAt := now })
  let (generated, result) ← generateRecurring now db actor condoId preview.toDto (automationOptions actor)
  return (generated, { preview with
    dryRun := false
    created := result.created
    skipped := result.skipped
    skippedNoRate := result.skippedNoRate
    ranAt := now })

end SmartResidence.Billing
