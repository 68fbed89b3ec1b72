import SmartResidence.Billing.Automation
import SmartResidence.Proof.RecurringBills

/-!
# The months that are billed, and when their bills are due
-/

open List

namespace SmartResidence.Billing

open Foundation

variable {month day : ℤ}

/-- The day on which the month's bills can be generated is not after the one on which they are due. -/
def DueInTime (settings : BillingAutomationSettings) (month : ℤ) : Prop :=
  match settings.periodStrategy, settings.dueStrategy with
  | .nextMonth, _ => True
  | .currentMonth, .dayOfMonth => clampDay month settings.generationDay ≤ clampDay month settings.dueDay
  | .currentMonth, .offsetDays => clampDay month settings.generationDay ≤ 1 + settings.dueOffsetDays

instance (settings : BillingAutomationSettings) : Decidable (DueInTime settings month) := by
  unfold DueInTime
  split <;> infer_instance

theorem utcMonth_utcDate (mem : 1 ≤ day ∧ day ≤ monthLength month) : utcMonth (utcDate month day) = month := by
  have length : monthLength month = monthStart (month + 1) - monthStart month := rfl
  unfold utcMonth
  rw [utcDate_day]
  apply monthOf_eq_iff.mp
  omega

theorem clampDay_bounds (month : ℤ) {day : ℕ} (least : 1 ≤ day) : 1 ≤ clampDay month day ∧ clampDay month day ≤ monthLength month := by
  have long := (monthLength_bounds month).1
  unfold clampDay
  omega

theorem endOfUtcDay_days (days : ℤ) : endOfUtcDay (days * msPerDay) = (days + 1) * msPerDay - 1 := by
  have day : days * msPerDay / msPerDay = days := Int.mul_ediv_cancel _ (by decide)
  unfold endOfUtcDay endOfUtcDate utcDate utcDay
  rw [day]
  ring

def billedMonth (settings : BillingAutomationSettings) (month : ℤ) : ℤ :=
  match settings.periodStrategy with
  | .nextMonth => month + 1
  | .currentMonth => month

def daysToPay (settings : BillingAutomationSettings) (billed : ℤ) : ℤ :=
  match settings.dueStrategy with
  | .dayOfMonth => clampDay billed settings.dueDay - 1
  | .offsetDays => settings.dueOffsetDays

theorem dueDate_eq (settings : BillingAutomationSettings) (now : Instant) : (calculateWindow settings now).dueDate =
    (monthStart (billedMonth settings (utcMonth now)) + daysToPay settings (billedMonth settings (utcMonth now)) + 1) *
      msPerDay - 1 := by
  have first : ∀ target, utcDate target 1 = monthStart target * msPerDay := by
    intro target
    unfold utcDate
    rw [add_sub_cancel_right]
  unfold daysToPay
  cases strategy : settings.dueStrategy with
  | dayOfMonth =>
    have billed : (calculateWindow settings now).dueDate = endOfUtcDate (billedMonth settings (utcMonth now))
        (clampDay (billedMonth settings (utcMonth now)) settings.dueDay) := by
      simp only [calculateWindow, strategy]
      rfl
    rw [billed]
    unfold endOfUtcDate utcDate
    ring
  | offsetDays =>
    have billed : (calculateWindow settings now).dueDate =
        endOfUtcDay (utcDate (billedMonth settings (utcMonth now)) 1 + settings.dueOffsetDays * msPerDay) := by
      simp only [calculateWindow, strategy]
      rfl
    rw [billed, first, ← add_mul, endOfUtcDay_days]

theorem due_iff (settings : BillingAutomationSettings) (now : Instant) :
    (calculateWindow settings now).runOnOrAfter ≤ (calculateWindow settings now).dueDate ↔
      DueInTime settings (utcMonth now) := by
  generalize isMonth : utcMonth now = month
  have days : (calculateWindow settings now).runOnOrAfter ≤ (calculateWindow settings now).dueDate ↔
      monthStart month + clampDay month settings.generationDay - 1 ≤
        monthStart (billedMonth settings month) + daysToPay settings (billedMonth settings month) := by
    rw [dueDate_eq]
    show utcDate (utcMonth now) (clampDay (utcMonth now) settings.generationDay) ≤ _ ↔ _
    rw [isMonth]
    unfold utcDate msPerDay
    constructor
    · intro before
      by_contra late
      linarith
    · intro before
      linarith
  have generated := clampDay_bounds month settings.generationDay_bounds.1
  rw [days]
  unfold DueInTime billedMonth daysToPay
  cases settings.periodStrategy with
  | nextMonth =>
    have length : monthLength month = monthStart (month + 1) - monthStart month := rfl
    have due := clampDay_bounds (month + 1) settings.dueDay_bounds.1
    cases settings.dueStrategy with
    | dayOfMonth =>
      dsimp only
      constructor <;> intros
      · trivial
      · omega
    | offsetDays =>
      dsimp only
      constructor <;> intros
      · trivial
      · omega
  | currentMonth =>
    cases settings.dueStrategy with
    | dayOfMonth =>
      dsimp only
      constructor <;> intro before <;> omega
    | offsetDays =>
      dsimp only
      constructor <;> intro before <;> omega

/-- A window is a month, the windows of consecutive months are consecutive, bills can be generated in the month of the
instant, and from then on there is time to pay when the settings leave it. -/
theorem windows_tile (settings : BillingAutomationSettings) (now : Instant) :
    (∃ month, (calculateWindow settings now).periodStart = utcDate month 1 ∧
      (calculateWindow settings now).periodEnd + 1 = utcDate (month + 1) 1) ∧
    (∀ later, utcMonth later = utcMonth now + 1 →
      (calculateWindow settings later).periodStart = (calculateWindow settings now).periodEnd + 1) ∧
    utcMonth (calculateWindow settings now).runOnOrAfter = utcMonth now ∧
    ((calculateWindow settings now).runOnOrAfter ≤ (calculateWindow settings now).dueDate ↔
      DueInTime settings (utcMonth now)) := by
  have start : ∀ instant, (calculateWindow settings instant).periodStart =
      utcDate (billedMonth settings (utcMonth instant)) 1 := fun _ => rfl
  have stop : (calculateWindow settings now).periodEnd + 1 = utcDate (billedMonth settings (utcMonth now) + 1) 1 := by
    show endOfUtcDate (billedMonth settings (utcMonth now) + 1) 0 + 1 = _
    unfold endOfUtcDate utcDate
    ring
  refine ⟨⟨_, start now, stop⟩, fun later next => ?_, ?_, due_iff settings now⟩
  · rw [start, stop, next]
    unfold billedMonth
    cases settings.periodStrategy <;> rfl
  · exact utcMonth_utcDate (clampDay_bounds _ settings.generationDay_bounds.1)

namespace Sample

def lateSettings : BillingAutomationSettings :=
  { settings with generationDay := 20, generationDay_bounds := by decide }

end Sample

theorem due_before_generation : ¬ (calculateWindow Sample.lateSettings 0).runOnOrAfter ≤
    (calculateWindow Sample.lateSettings 0).dueDate := by
  rw [due_iff]
  decide

end SmartResidence.Billing

namespace SmartResidence.Billing

open Foundation

theorem countP_split {Row : Type} (rows : List Row) (pick other : Row → Bool) :
    rows.countP pick = rows.countP (fun row => pick row && other row) +
      rows.countP (fun row => pick row && !other row) := by
  rw [countP_eq_countP_filter_add rows pick other, countP_filter, countP_filter]

theorem countP_eq_iff {Row : Type} {rows : List Row} {weaker stronger : Row → Bool}
    (implied : ∀ row ∈ rows, stronger row → weaker row) :
    rows.countP stronger = rows.countP weaker ↔ ∀ row ∈ rows, weaker row → stronger row := by
  have both : rows.countP (fun row => weaker row && stronger row) = rows.countP stronger :=
    countP_congr fun row mem => by simpa using implied row mem
  rw [countP_split rows weaker stronger, both, left_eq_add, countP_eq_zero]
  simp

variable {db : Db} {now : Instant} {condoId : Id} {settings : BillingAutomationSettings}

def paysRate (db : Db) (unit : ResidentialUnit) : Bool := decide (0 < (computeLinesForUnit db unit).length)

def paysExtra (db : Db) (condoId : Id) (window : PeriodWindow) (unit : ResidentialUnit) : Bool :=
  decide (computeExtraLinesForUnit unit
    (listActiveExtraLinesForPeriod db condoId window.periodStart window.periodEnd) ≠ [])

def isBilled (db : Db) (window : PeriodWindow) (unit : ResidentialUnit) : Bool :=
  db.activePeriodTaken unit.id window.periodStart none

def isBilledHere (db : Db) (condoId : Id) (window : PeriodWindow) (unit : ResidentialUnit) : Bool :=
  db.invoices.any fun invoice => decide (invoice.condoId = condoId ∧ invoice.unitId = unit.id ∧
    invoice.periodStart = window.periodStart ∧ invoice.status ≠ .void)

theorem isBilled_of_here {window : PeriodWindow} {unit : ResidentialUnit}
    (here : isBilledHere db condoId window unit) : isBilled db window unit := by
  simp only [isBilledHere, any_eq_true, decide_eq_true_eq] at here
  obtain ⟨invoice, found, _, owner, period, active⟩ := here
  simp only [isBilled, Db.activePeriodTaken, any_eq_true, decide_eq_true_eq]
  exact ⟨invoice, found, owner, period, active, by simp⟩

/-! ## Counting units -/

theorem mem_billableUnitIds {unitId : Id} : unitId ∈ billableUnitIds db condoId ↔
    ∃ unit ∈ condoUnits db condoId, paysRate db unit ∧ unit.id = unitId := by
  simp only [billableUnitIds, mem_map, mem_filter, and_assoc]
  rfl

theorem length_alreadyBilledIds (unitIds : (db.units.map ResidentialUnit.id).Nodup) (window : PeriodWindow) :
    (alreadyBilledIds db condoId window.periodStart).length = (condoUnits db condoId).countP fun unit =>
      paysRate db unit && isBilledHere db condoId window unit := by
  rw [countP_eq_length_filter, ← length_map ResidentialUnit.id]
  apply List.Perm.length_eq
  have nodup : (((condoUnits db condoId).filter fun unit =>
      paysRate db unit && isBilledHere db condoId window unit).map ResidentialUnit.id).Nodup :=
    unitIds.sublist ((filter_sublist.trans filter_sublist).map _)
  unfold alreadyBilledIds
  rw [perm_ext_iff_of_nodup (nodup_dedup _) nodup]
  intro unitId
  simp only [mem_dedup, mem_map, mem_filter, mem_billableUnitIds, decide_eq_true_eq,
    Bool.and_eq_true, isBilledHere, any_eq_true]
  constructor
  · rintro ⟨invoice, ⟨found, condo, ⟨unit, mem, pays, owner⟩, period, active⟩, rfl⟩
    exact ⟨unit, ⟨mem, pays, invoice, found, condo, owner.symm, period, active⟩, owner⟩
  · rintro ⟨unit, ⟨mem, pays, invoice, found, condo, owner, period, active⟩, rfl⟩
    exact ⟨invoice, ⟨found, condo, ⟨unit, mem, pays, owner.symm⟩, period, active⟩, owner⟩

theorem buildPreview_counts (unitIds : (db.units.map ResidentialUnit.id).Nodup) :
    let preview := buildPreview db condoId settings now
    let window := calculateWindow settings now
    let units := condoUnits db condoId
    preview.alreadyBilled = units.countP (fun unit => paysRate db unit && isBilledHere db condoId window unit) ∧
      preview.wouldCreate = units.countP (fun unit => paysRate db unit && !isBilledHere db condoId window unit) ∧
      preview.skippedNoRate = units.countP (fun unit => !paysRate db unit) := by
  intro preview window units
  have billable : (billableUnitIds db condoId).length = units.countP (paysRate db) := by
    rw [billableUnitIds, length_map, countP_eq_length_filter]
    rfl
  have already := @length_alreadyBilledIds db condoId unitIds window
  have split := countP_split units (paysRate db) (isBilledHere db condoId window)
  have total := length_eq_countP_add_countP (paysRate db) (l := units)
  have unpaid : (fun unit => !paysRate db unit) = fun unit => decide (¬ paysRate db unit = true) := by
    funext unit
    cases paysRate db unit <;> rfl
  refine ⟨already, ?_, ?_⟩
  · show (billableUnitIds db condoId).length - (alreadyBilledIds db condoId window.periodStart).length = _
    rw [billable, already, split]
    exact Nat.add_sub_cancel_left ..
  · show units.length - (billableUnitIds db condoId).length = _
    rw [unpaid]
    omega

def paysMonthly (db : Db) (condoId : Id) (window : PeriodWindow) (unit : ResidentialUnit) : Bool :=
  paysRate db unit || paysExtra db condoId window unit

def monthlyDto (window : PeriodWindow) : GenerateRecurringDto :=
  ⟨window.periodStart, window.periodEnd, window.dueDate, none, none⟩

theorem linesForUnit_monthly {window : PeriodWindow} {unit : ResidentialUnit} :
    linesForUnit db condoId (monthlyDto window) unit = [] ↔ paysMonthly db condoId window unit = false := by
  simp [linesForUnit, explicitLines, monthlyDto, paysMonthly, paysRate, paysExtra]

theorem plannedBills_monthly (window : PeriodWindow) : plannedBills db condoId (monthlyDto window) =
    (condoUnits db condoId).map fun unit => ⟨unit.id, linesForUnit db condoId (monthlyDto window) unit⟩ := by
  simp [plannedBills, targetUnits, condoUnits, monthlyDto]

theorem monthly_counts (window : PeriodWindow) : let plans := plannedBills db condoId (monthlyDto window)
    let tally := (RecurringTally.mk 0 0 0).count (existingForPeriod db plans window.periodStart) plans
    let units := condoUnits db condoId
    tally.created = units.countP (fun unit => paysMonthly db condoId window unit && !isBilled db window unit) ∧
      tally.skipped = units.countP (fun unit => paysMonthly db condoId window unit && isBilled db window unit) ∧
      tally.skippedNoRate = units.countP (fun unit => !paysMonthly db condoId window unit) := by
  intro plans tally units
  have existing : ∀ unit ∈ units, unit.id ∈ existingForPeriod db plans window.periodStart ↔
      isBilled db window unit = true := by
    intro unit mem
    have planned : unit.id ∈ plans.map PlannedBill.unitId := by
      simp only [plans, plannedBills_monthly, map_map, mem_map]
      exact ⟨unit, mem, rfl⟩
    rw [mem_existingForPeriod planned, isBilled, activePeriodTaken_eq]
  have lines : ∀ unit, linesForUnit db condoId (monthlyDto window) unit = [] ↔
      paysMonthly db condoId window unit = false := fun unit => linesForUnit_monthly
  refine ⟨?_, ?_, ?_⟩
  · show 0 + (pendingBills _ plans).length = _
    rw [pendingBills, ← countP_eq_length_filter, Nat.zero_add]
    simp only [plans, plannedBills_monthly, countP_map]
    refine countP_congr fun unit mem => ?_
    have billed := existing unit mem
    simp only [plans, plannedBills_monthly] at billed
    simp [lines, billed]
  · show 0 + plans.countP _ = _
    rw [Nat.zero_add]
    simp only [plans, plannedBills_monthly, countP_map]
    refine countP_congr fun unit mem => ?_
    have billed := existing unit mem
    simp only [plans, plannedBills_monthly] at billed
    simp [lines, billed]
  · show 0 + plans.countP _ = _
    rw [Nat.zero_add]
    simp only [plans, plannedBills_monthly, countP_map]
    refine countP_congr fun unit _ => ?_
    simp [lines]

/-! ## When the figures agree -/

def AllBilled (db : Db) (condoId : Id) (window : PeriodWindow) : Prop :=
  ∀ unit ∈ condoUnits db condoId, paysRate db unit → isBilledHere db condoId window unit

def SeesBills (db : Db) (condoId : Id) (window : PeriodWindow) : Prop :=
  ∀ unit ∈ condoUnits db condoId, paysRate db unit → isBilled db window unit →
    isBilledHere db condoId window unit

def PaysOnlyExtra (db : Db) (condoId : Id) (window : PeriodWindow) (unit : ResidentialUnit) : Prop :=
  paysRate db unit = false ∧ paysExtra db condoId window unit

section

variable {window : PeriodWindow} (unitIds : (db.units.map ResidentialUnit.id).Nodup)

theorem paysMonthly_iff {unit : ResidentialUnit} : paysMonthly db condoId window unit ↔
    paysRate db unit ∨ PaysOnlyExtra db condoId window unit := by
  unfold paysMonthly PaysOnlyExtra
  cases paysRate db unit <;> simp

theorem created_eq_zero : let plans := plannedBills db condoId (monthlyDto window)
    ((RecurringTally.mk 0 0 0).count (existingForPeriod db plans window.periodStart) plans).created = 0 ↔
      ∀ unit ∈ condoUnits db condoId, paysMonthly db condoId window unit → isBilled db window unit := by
  intro plans
  rw [(monthly_counts window).1]
  simp

include unitIds

theorem wouldCreate_eq_zero : (buildPreview db condoId settings now).wouldCreate = 0 ↔
    AllBilled db condoId (calculateWindow settings now) := by
  rw [(buildPreview_counts unitIds).2.1]
  simp [AllBilled]

theorem figures_agree_iff : let preview := buildPreview db condoId settings now
    let window := calculateWindow settings now
    let plans := plannedBills db condoId (monthlyDto window)
    let tally := (RecurringTally.mk 0 0 0).count (existingForPeriod db plans window.periodStart) plans
    preview.wouldCreate = tally.created ∧ preview.alreadyBilled = tally.skipped ∧
        preview.skippedNoRate = tally.skippedNoRate ↔
      SeesBills db condoId window ∧ ∀ unit ∈ condoUnits db condoId, ¬ PaysOnlyExtra db condoId window unit := by
  intro preview window plans tally
  obtain ⟨already, would, noRate⟩ := @buildPreview_counts db now condoId settings unitIds
  obtain ⟨created, skipped, skippedNoRate⟩ := @monthly_counts db condoId window
  rw [already, would, noRate, created, skipped, skippedNoRate]
  -- without units that pay only extra lines, both sides count the same units as billable
  have rates : (condoUnits db condoId).countP (fun unit => !paysRate db unit) =
        (condoUnits db condoId).countP (fun unit => !paysMonthly db condoId window unit) ↔
      ∀ unit ∈ condoUnits db condoId, ¬ PaysOnlyExtra db condoId window unit := by
    rw [eq_comm, countP_eq_iff]
    · refine forall₂_congr fun unit _ => ?_
      unfold PaysOnlyExtra paysMonthly
      cases paysRate db unit <;> simp
    · intro unit _
      unfold paysMonthly
      cases paysRate db unit <;> simp
  have seen : (condoUnits db condoId).countP (fun unit => paysRate db unit && isBilledHere db condoId window unit) =
        (condoUnits db condoId).countP (fun unit => paysRate db unit && isBilled db window unit) ↔
      SeesBills db condoId window := by
    rw [countP_eq_iff]
    · refine forall₂_congr fun unit _ => ?_
      cases paysRate db unit <;> simp
    · intro unit _ here
      rw [Bool.and_eq_true] at here ⊢
      exact ⟨here.1, isBilled_of_here here.2⟩
  have billable (none : ∀ unit ∈ condoUnits db condoId, ¬ PaysOnlyExtra db condoId window unit)
      (other : ResidentialUnit → Bool) :
      (condoUnits db condoId).countP (fun unit => paysMonthly db condoId window unit && other unit) =
        (condoUnits db condoId).countP (fun unit => paysRate db unit && other unit) := by
    refine countP_congr fun unit mem => ?_
    rw [Bool.and_eq_true, Bool.and_eq_true, paysMonthly_iff, or_iff_left (none unit mem)]
  constructor
  · rintro ⟨-, sameSkipped, sameRates⟩
    have none := rates.mp sameRates
    rw [billable none] at sameSkipped
    exact ⟨seen.mp sameSkipped, none⟩
  · rintro ⟨sees, none⟩
    rw [billable none, billable none]
    refine ⟨countP_congr fun unit mem => ?_, seen.mpr sees, rates.mpr none⟩
    have here := sees unit mem
    have billed := @isBilled_of_here db condoId window unit
    grind

end

/-! ## The run -/

theorem skipReason_stops {enabled dueToRun : Bool} {units billable would : Nat} (on : enabled = true)
    (bounded : would ≤ billable) (known : billable ≤ units) :
    (skipReasonOf enabled dueToRun units billable would ≠ some .noUnits ∧
      skipReasonOf enabled dueToRun units billable would ≠ some .noBillableUnits ∧
      skipReasonOf enabled dueToRun units billable would ≠ some .alreadyGenerated) ↔
    ¬ (dueToRun = true ∧ would = 0) := by
  unfold skipReasonOf
  cases dueToRun
  · simp [on]
  · by_cases noUnits : units = 0
    · simp [on, noUnits, show would = 0 by omega]
    · by_cases noBillable : billable = 0
      · simp [on, noUnits, show would = 0 by omega]
      · by_cases nothing : would = 0 <;> simp [on, noUnits, noBillable]

theorem billable_le (db : Db) (condoId : Id) :
    (billableUnitIds db condoId).length ≤ (condoUnits db condoId).length := by
  rw [billableUnitIds, length_map]
  exact length_filter_le ..

theorem units_of_noUnits {enabled dueToRun : Bool} {units billable would : Nat}
    (reason : skipReasonOf enabled dueToRun units billable would = some .noUnits) : units = 0 := by
  unfold skipReasonOf at reason
  split at reason
  · cases reason
  · split at reason
    · cases reason
    · split at reason
      · assumption
      · split at reason
        · cases reason
        · split at reason <;> cases reason

theorem shouldRun_iff (unitIds : (db.units.map ResidentialUnit.id).Nodup) (enabled : settings.enabled = true)
    {opts : RunOptions} (due : opts.requireDue = true → isDueToRun settings now = true) :
    (buildPreview db condoId settings now).shouldRun opts = true ↔
      ¬ (isDueToRun settings now = true ∧ AllBilled db condoId (calculateWindow settings now)) := by
  have stops := @skipReason_stops settings.enabled (isDueToRun settings now)
    (condoUnits db condoId).length (billableUnitIds db condoId).length
    (buildPreview db condoId settings now).wouldCreate enabled (Nat.sub_le ..)
    (billable_le db condoId)
  rw [← wouldCreate_eq_zero unitIds, ← stops]
  unfold BillingAutomationPreview.shouldRun
  rw [Bool.and_eq_true, Bool.and_eq_true, decide_eq_true_eq]
  have held : (!opts.requireDue || (buildPreview db condoId settings now).dueToRun) = true := by
    cases required : opts.requireDue
    · rfl
    · exact due required
  exact ⟨fun runs => runs.1.2, fun reason => ⟨⟨enabled, reason⟩, held⟩⟩

structure PreviewAgrees (now : Instant) (db : Db) (actor : Option AuthenticatedUser) (condoId : Id)
    (opts : RunOptions) : Prop where
  figures : ∀ preview after result, previewCondo db condoId now = .ok preview →
    runCondo now db actor condoId opts = .ok (after, result) →
      preview.wouldCreate = result.created ∧ preview.alreadyBilled = result.skipped ∧
        preview.skippedNoRate = result.skippedNoRate
  runs : ∀ preview final generated after result, previewCondo db condoId now = .ok preview →
    generateRecurring now db actor condoId preview.toDto (automationOptions actor) = .ok (final, generated) →
    0 < generated.created → runCondo now db actor condoId opts = .ok (after, result) →
      result.skipReason ≠ some .noBillableUnits ∧ result.skipReason ≠ some .alreadyGenerated

/-- The units the preview overlooks do not matter: what it does not see billed is not billed, and a unit
that pays only extra lines is billed already, in a run with nothing else to bill. -/
structure NothingOverlooked (db : Db) (condoId : Id) (settings : BillingAutomationSettings) (now : Instant) :
    Prop where
  sees : SeesBills db condoId (calculateWindow settings now)
  onlyExtra : ∀ unit ∈ condoUnits db condoId, PaysOnlyExtra db condoId (calculateWindow settings now) unit →
    isBilled db (calculateWindow settings now) unit = true ∧ isDueToRun settings now = true ∧
      AllBilled db condoId (calculateWindow settings now)

theorem startRun_ok {actor : Option AuthenticatedUser} {preview : BillingAutomationPreview} {opts : RunOptions}
    (manages : ∀ user ∈ actor, assertCondoManagement user preview.condoId true = .ok ()) :
    startRun actor preview opts = .ok () := by
  unfold startRun
  cases actor with
  | none => rfl
  | some user =>
    simp only [manages user rfl]
    split <;> rfl

theorem authorizeRecurring_ok {actor : Option AuthenticatedUser}
    (manages : ∀ user ∈ actor, assertCondoManagement user condoId true = .ok ()) :
    authorizeRecurring actor condoId (automationOptions actor) = .ok () := by
  cases actor with
  | none => rfl
  | some user =>
    exact manages user rfl

theorem preview_agrees_iff (wellFormed : WellFormed db) (unitIds : (db.units.map ResidentialUnit.id).Nodup)
    {condo : Condo} (found : db.condo? condoId = some condo) (enabled : condo.billingAutomation.enabled = true)
    {actor : Option AuthenticatedUser} (manages : ∀ user ∈ actor, assertCondoManagement user condoId true = .ok ())
    {opts : RunOptions} (real : opts.dryRun = false)
    (due : opts.requireDue = true → isDueToRun condo.billingAutomation now = true) :
    PreviewAgrees now db actor condoId opts ↔ NothingOverlooked db condoId condo.billingAutomation now := by
  obtain rfl := (mem_of_findBy found).2
  let settings := condo.billingAutomation
  let window := calculateWindow settings now
  let preview := buildPreview db condo.id settings now
  have shown : previewCondo db condo.id now = .ok preview := by
    simp only [previewCondo, found, orThrow, bind, Except.bind]
    rfl
  obtain ⟨final, added, generated, -⟩ := @generateRecurring_ok db now condo.id preview.toDto wellFormed unitIds
    condo found actor (automationOptions actor) (authorizeRecurring_ok manages)
  have started : startRun actor preview opts = .ok () := startRun_ok manages
  have agree := @figures_agree_iff db now condo.id settings unitIds
  have created := @created_eq_zero db condo.id window
  have should := @shouldRun_iff db now condo.id settings unitIds enabled opts due
  by_cases runs : preview.shouldRun opts = true
  · -- the run bills: the figures decide
    let plans := plannedBills db condo.id (monthlyDto window)
    let tally := (RecurringTally.mk 0 0 0).count (existingForPeriod db plans window.periodStart) plans
    let result : BillingAutomationRunResult := { preview with
      dryRun := false
      created := tally.created
      skipped := tally.skipped
      skippedNoRate := tally.skippedNoRate
      ranAt := now }
    have ran : runCondo now db actor condo.id opts = .ok (final, result) := by
      simp only [runCondo, shown, started, real, runs, generated, bind, Except.bind]
      rfl
    have open_ := should.mp runs
    constructor
    · intro agrees
      obtain ⟨sees, none⟩ := agree.mp (agrees.figures _ _ _ shown ran)
      exact ⟨sees, fun unit member only => absurd only (none unit member)⟩
    · rintro ⟨sees, onlyExtra⟩
      have none : ∀ unit ∈ condoUnits db condo.id, ¬ PaysOnlyExtra db condo.id window unit :=
        fun unit member only => open_ (onlyExtra unit member only).2
      constructor
      · intro shownPreview after reported isShown isRun
        rw [shown, Except.ok.injEq] at isShown
        rw [ran, Except.ok.injEq, Prod.mk.injEq] at isRun
        obtain ⟨_, rfl⟩ := isRun
        subst isShown
        exact agree.mpr ⟨sees, none⟩
      · intro _ _ _ after reported _ _ _ isRun
        rw [ran, Except.ok.injEq, Prod.mk.injEq] at isRun
        obtain ⟨_, rfl⟩ := isRun
        unfold BillingAutomationPreview.shouldRun at runs
        rw [Bool.and_eq_true, Bool.and_eq_true, decide_eq_true_eq] at runs
        exact runs.1.2.2
  · -- the run stops: the figures agree, and there must be nothing to bill
    let result : BillingAutomationRunResult := { preview with
      dryRun := false
      created := 0
      skipped := preview.alreadyBilled
      ranAt := now }
    have ran : runCondo now db actor condo.id opts = .ok (db, result) := by
      simp only [runCondo, shown, started, real, runs, bind, Except.bind]
      rfl
    have stops := not_not.mp (mt should.mpr runs)
    constructor
    · intro agrees
      refine ⟨fun unit member pays _ => stops.2 unit member pays, fun unit member only =>
        ⟨?_, stops.1, stops.2⟩⟩
      by_contra unbilled
      have bills : _ ≠ 0 := mt created.mp fun all => unbilled (all unit member (paysMonthly_iff.mpr (.inr only)))
      have reasons := agrees.runs _ _ _ _ _ shown generated (Nat.pos_iff_ne_zero.mpr bills) ran
      have someUnits : preview.skipReason ≠ some .noUnits := fun reason =>
        List.ne_nil_of_mem member (List.length_eq_zero_iff.mp (units_of_noUnits reason))
      have stopped := @skipReason_stops settings.enabled (isDueToRun settings now)
        (condoUnits db condo.id).length (billableUnitIds db condo.id).length preview.wouldCreate enabled
        (Nat.sub_le ..) (billable_le db condo.id)
      exact stopped.mp ⟨someUnits, reasons⟩ ⟨stops.1, (wouldCreate_eq_zero unitIds).mpr stops.2⟩
    · rintro ⟨-, onlyExtra⟩
      constructor
      · intro shownPreview after reported isShown isRun
        rw [shown, Except.ok.injEq] at isShown
        rw [ran, Except.ok.injEq, Prod.mk.injEq] at isRun
        obtain ⟨_, rfl⟩ := isRun
        subst isShown
        exact ⟨(wouldCreate_eq_zero unitIds).mpr stops.2, rfl, rfl⟩
      · intro shownPreview other tallied after reported isShown isGenerated some_ isRun
        rw [shown, Except.ok.injEq] at isShown
        subst isShown
        rw [generated, Except.ok.injEq, Prod.mk.injEq] at isGenerated
        obtain ⟨_, rfl⟩ := isGenerated
        refine absurd (created.mpr fun unit member pays => ?_) (Nat.pos_iff_ne_zero.mp some_)
        rcases paysMonthly_iff.mp pays with rate | only
        · exact isBilled_of_here (stops.2 unit member rate)
        · exact (onlyExtra unit member only).1

namespace Sample

def ratedDb : Db := { Sample.db with
  units := [⟨7, 5, none, some 3⟩]
  feeRates := [⟨3, .flat, 10000, .flat, 0⟩] }

def extraDb : Db := { Sample.db with
  extraLines := [⟨1, 5, "CCTV", "Camera upgrade", .general, .flat, 5000, [], true, none, none, true, 0, 0⟩] }

end Sample

theorem preview_agrees_rated : PreviewAgrees 0 Sample.ratedDb none 5 ⟨false, false⟩ := by
  have fresh : Fresh Sample.ratedDb := ⟨by decide, rfl, rfl, rfl, rfl, rfl, rfl, rfl⟩
  have found : Sample.ratedDb.condo? 5 = some ⟨5, Sample.settings⟩ := rfl
  refine (preview_agrees_iff (WellFormed.fresh fresh) fresh.unitIds found rfl (by simp) rfl (by simp)).mpr
    ⟨?_, ?_⟩
  · unfold SeesBills
    decide +kernel
  · unfold PaysOnlyExtra AllBilled
    decide +kernel

theorem preview_disagrees : ¬ PreviewAgrees 0 Sample.extraDb none 5 ⟨false, false⟩ := by
  intro agrees
  have ends : (runCondo 0 Sample.extraDb none 5 ⟨false, false⟩).map (fun ran => ran.2.skipReason) =
      .ok (some .noBillableUnits) := by
    decide +kernel
  have bills : (generateRecurring 0 Sample.extraDb none 5
      (buildPreview Sample.extraDb 5 Sample.settings 0).toDto (automationOptions none)).map
        (fun generated => generated.2.created) = .ok 1 := by
    decide +kernel
  obtain ⟨⟨after, result⟩, ran, reason⟩ := map_eq_ok.mp ends
  obtain ⟨⟨final, generated⟩, done, created⟩ := map_eq_ok.mp bills
  have positive : 0 < generated.created := by
    simp only at created
    omega
  exact (agrees.runs _ _ _ _ _ rfl done positive ran).1 reason

end SmartResidence.Billing
