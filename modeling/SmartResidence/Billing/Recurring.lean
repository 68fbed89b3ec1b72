import Mathlib.Data.List.Sort
import SmartResidence.Billing.Invoices

/-!
# `fee-schedule.service.ts`
-/

namespace SmartResidence.Billing

open Foundation

structure ComputedFeeLine where
  code : String
  description : String
  unitPrice : ℚ
  quantity : ℚ
  fund : LedgerFund

def computeFeeAmount (rateType : FeeRateType) (amount sqft : ℚ) : ℤ :=
  mathRound (match rateType with
    | .perSqft => amount * sqft
    | .flat => amount)

def sqftOf (unit : ResidentialUnit) : ℚ := unit.sqft.getD 0

def feeRateOf (db : Db) (unit : ResidentialUnit) : Option FeeRate :=
  unit.unitTypeId.bind fun unitTypeId => findBy FeeRate.unitTypeId unitTypeId db.feeRates

def rateLine (code description : String) (fund : LedgerFund) (amount : ℤ) : List ComputedFeeLine :=
  if 0 < amount then [⟨code, description, amount, 1, fund⟩] else []

def computeLinesForUnit (db : Db) (unit : ResidentialUnit) : List ComputedFeeLine :=
  match feeRateOf db unit with
  | none => []
  | some rate =>
      rateLine "MAINT" "Monthly maintenance fee" .maintenance
        (computeFeeAmount rate.maintenanceRateType rate.maintenanceAmount (sqftOf unit)) ++
      rateLine "SINKING" "Sinking fund contribution" .sinkingFund
        (computeFeeAmount rate.sinkingFundRateType rate.sinkingFundAmount (sqftOf unit))

def computeExtraAmount (extra : FeeScheduleExtraLine) (sqft : ℚ) (unitTypeId : Option Id) : ℤ :=
  match extra.rateType with
  | .perUnitType =>
      match unitTypeId with
      | none => 0
      | some unitTypeId =>
          mathRound (((extra.unitTypeAmounts.find? fun pair => decide (pair.1 = unitTypeId)).map
            Prod.snd).getD 0)
  | .perSqft => computeFeeAmount .perSqft extra.amount sqft
  | .flat => computeFeeAmount .flat extra.amount sqft

def extraLine (unit : ResidentialUnit) (extra : FeeScheduleExtraLine) : List ComputedFeeLine :=
  rateLine extra.code extra.description extra.fund
    (computeExtraAmount extra (sqftOf unit) unit.unitTypeId)

def computeExtraLinesForUnit (unit : ResidentialUnit) (extraLines : List FeeScheduleExtraLine) :
    List ComputedFeeLine :=
  extraLines.flatMap (extraLine unit)

def startsBy (instant : Instant) (effectiveFrom : Option Instant) : Bool :=
  effectiveFrom.any fun start => decide (start ≤ instant)

def endsFrom (instant : Instant) (effectiveTo : Option Instant) : Bool :=
  effectiveTo.any fun stop => decide (instant ≤ stop)

def isActiveForPeriod (condoId : Id) (periodStart periodEnd : Instant) (line : FeeScheduleExtraLine) :
    Bool :=
  decide (line.condoId = condoId) && line.enabled &&
    if line.recurring then
      (line.effectiveFrom.isNone || startsBy periodEnd line.effectiveFrom) &&
        (line.effectiveTo.isNone || endsFrom periodStart line.effectiveTo)
    else startsBy periodEnd line.effectiveFrom && endsFrom periodStart line.effectiveTo

def listActiveExtraLinesForPeriod (db : Db) (condoId : Id) (periodStart periodEnd : Instant) :
    List FeeScheduleExtraLine :=
  (db.extraLines.filter (isActiveForPeriod condoId periodStart periodEnd)).insertionSort fun a b =>
    a.sortOrder < b.sortOrder ∨ (a.sortOrder = b.sortOrder ∧ a.createdAt ≤ b.createdAt)

structure GenerateRecurringDto where
  periodStart : Instant
  periodEnd : Instant
  dueDate : Instant
  lines : Option (List InvoiceLineDto)
  unitIds : Option (List Id)

structure GenerateRecurringOptions where
  skipAuthorization : Bool
  triggeredByUserId : Option Id

def explicitLines (dto : GenerateRecurringDto) : List InvoiceLineDto :=
  (dto.lines.getD []).filter fun line => decide (0 < line.unitPrice)

def ComputedFeeLine.toCharge (line : ComputedFeeLine) : ChargeLine :=
  ⟨line.code, line.description, line.unitPrice * line.quantity, some line.fund⟩

def linesForUnit (db : Db) (condoId : Id) (dto : GenerateRecurringDto) (unit : ResidentialUnit) :
    List ChargeLine :=
  if explicitLines dto = [] then
    (computeLinesForUnit db unit ++ computeExtraLinesForUnit unit
      (listActiveExtraLinesForPeriod db condoId dto.periodStart dto.periodEnd)).map
        ComputedFeeLine.toCharge
  else (explicitLines dto).map InvoiceLineDto.toCharge

def targetUnits (db : Db) (condoId : Id) (dto : GenerateRecurringDto) : List ResidentialUnit :=
  db.units.filter fun unit => decide (unit.condoId = condoId ∧
    (dto.unitIds.getD [] = [] ∨ unit.id ∈ dto.unitIds.getD []))

structure PlannedBill where
  unitId : Id
  lines : List ChargeLine

def plannedBills (db : Db) (condoId : Id) (dto : GenerateRecurringDto) : List PlannedBill :=
  (targetUnits db condoId dto).map fun unit => ⟨unit.id, linesForUnit db condoId dto unit⟩

def existingForPeriod (db : Db) (plans : List PlannedBill) (periodStart : Instant) : List Id :=
  (db.invoices.filter fun invoice => decide (invoice.unitId ∈ plans.map PlannedBill.unitId ∧
    invoice.periodStart = periodStart ∧ invoice.status ≠ .void)).map Invoice.unitId

def chunkSize : Nat := 75

def chunks (plans : List PlannedBill) : List (List PlannedBill) :=
  (List.range ((plans.length + (chunkSize - 1)) / chunkSize)).map fun i =>
    (plans.drop (chunkSize * i)).take chunkSize

def PlannedBill.draft (plan : PlannedBill) (condoId : Id) (dto : GenerateRecurringDto) :
    InvoiceDraft where
  condoId := condoId
  unitId := plan.unitId
  periodStart := dto.periodStart
  periodEnd := dto.periodEnd
  dueDate := dto.dueDate
  lines := plan.lines

def pendingBills (existing : List Id) (chunk : List PlannedBill) : List PlannedBill :=
  chunk.filter fun plan => decide (plan.lines ≠ [] ∧ plan.unitId ∉ existing)

structure CreatedInvoice where
  invoiceId : Id
  unitId : Id
  deriving DecidableEq

def issueChunk (now : Instant) (condoId : Id) (dto : GenerateRecurringDto) (actorUserId : Option Id)
    (db : Db) : List PlannedBill → Result (Db × List CreatedInvoice)
  | [] => return (db, [])
  | plan :: rest => do
      let (issued, invoice) ← issueInvoice now db (plan.draft condoId dto) actorUserId
      let (finished, rows) ← issueChunk now condoId dto actorUserId issued rest
      return (finished, ⟨invoice.id, plan.unitId⟩ :: rows)

structure Credited where
  db : Db
  created : Nat
  failure : Option ApiError

def creditCreated (now : Instant) (condoId : Id) (db : Db) : List CreatedInvoice → Credited
  | [] => ⟨db, 0, none⟩
  | row :: rest =>
      match applyCreditToInvoice now db row.invoiceId row.unitId condoId with
      | .error failure => ⟨db, 1, some failure⟩
      | .ok applied =>
          let credited := creditCreated now condoId applied rest
          { credited with created := credited.created + 1 }

structure RecurringTally where
  created : Nat
  skipped : Nat
  skippedNoRate : Nat
  deriving DecidableEq

def isActivePeriodDuplicate (failure : ApiError) : Bool :=
  decide (failure = .uniqueViolation .invoicesActivePeriod)

def RecurringTally.skip (tally : RecurringTally) (count : Nat) : RecurringTally :=
  { tally with skipped := tally.skipped + count }

def RecurringTally.preCheck (tally : RecurringTally) (existing : List Id) (chunk : List PlannedBill) :
    RecurringTally :=
  { tally with
    skippedNoRate := tally.skippedNoRate + chunk.countP fun plan => decide (plan.lines = [])
    skipped := tally.skipped + chunk.countP fun plan =>
      decide (plan.lines ≠ [] ∧ plan.unitId ∈ existing) }

def recurringChunk (now : Instant) (condoId : Id) (dto : GenerateRecurringDto) (actorUserId : Option Id)
    (existing : List Id) (progress : Db × RecurringTally) (chunk : List PlannedBill) :
    Result (Db × RecurringTally) :=
  let pending := pendingBills existing chunk
  let tally := progress.2.preCheck existing chunk
  match issueChunk now condoId dto actorUserId progress.1 pending with
  | .error failure =>
      if isActivePeriodDuplicate failure then .ok (progress.1, tally.skip pending.length)
      else .error failure
  | .ok (issued, rows) =>
      let credited := creditCreated now condoId issued rows
      let counted := { tally with created := tally.created + credited.created }
      match credited.failure with
      | none => .ok (credited.db, counted)
      | some failure =>
          if isActivePeriodDuplicate failure then .ok (credited.db, counted.skip pending.length)
          else .error failure

structure RecurringResult where
  created : Nat
  skipped : Nat
  skippedNoRate : Nat
  units : Nat
  deriving DecidableEq

def authorizeRecurring (actor : Option AuthenticatedUser) (condoId : Id)
    (options : GenerateRecurringOptions) : Result Unit :=
  if options.skipAuthorization then return ()
  else do
    let user ← orThrow actor (.forbidden "You cannot manage billing for this condo")
    assertCondoManagement user condoId true

def generateRecurring (now : Instant) (db : Db) (actor : Option AuthenticatedUser) (condoId : Id)
    (dto : GenerateRecurringDto) (options : GenerateRecurringOptions) : Result (Db × RecurringResult) := do
  let _ ← orThrow (db.condo? condoId) (.notFound "Condo not found")
  authorizeRecurring actor condoId options
  let actorUserId := options.triggeredByUserId.or (actor.map AuthenticatedUser.id)
  let plans := plannedBills db condoId dto
  let existing := existingForPeriod db plans dto.periodStart
  let (finished, tally) ← (chunks plans).foldlM
    (recurringChunk now condoId dto actorUserId existing) (db, ⟨0, 0, 0⟩)
  return (finished, ⟨tally.created, tally.skipped, tally.skippedNoRate, plans.length⟩)

end SmartResidence.Billing
