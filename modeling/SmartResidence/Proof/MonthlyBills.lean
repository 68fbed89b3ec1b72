import SmartResidence.Facility.Bookings
import SmartResidence.Proof.Preview

/-!
# Facility bookings and the monthly bill
-/

namespace SmartResidence.Facility

open Foundation Billing List

variable {env : Env} {residency : Residency} {db middle after start : Db} {now : Instant}

structure SameSchedule (old new : Db) : Prop where
  condos : new.condos = old.condos
  units : new.units = old.units
  feeRates : new.feeRates = old.feeRates
  extraLines : new.extraLines = old.extraLines

namespace SameSchedule

theorem rfl : SameSchedule db db := ⟨Eq.refl _, Eq.refl _, Eq.refl _, Eq.refl _⟩

theorem trans (first : SameSchedule db middle) (second : SameSchedule middle after) : SameSchedule db after where
  condos := second.condos.trans first.condos
  units := second.units.trans first.units
  feeRates := second.feeRates.trans first.feeRates
  extraLines := second.extraLines.trans first.extraLines

theorem of_commit {change : Change} (commit : Commit db change after) : SameSchedule db after := by
  cases commit <;> exact ⟨Eq.refl _, Eq.refl _, Eq.refl _, Eq.refl _⟩

theorem of_commits {changes : List Change} (run : Run Commit db changes after) : SameSchedule db after := by
  induction run with
  | done => exact .rfl
  | snoc _ commit ih => exact ih.trans (of_commit commit)

variable (same : SameSchedule db after)
include same

theorem condoUnits_eq (condoId : Id) : condoUnits after condoId = condoUnits db condoId := by
  unfold condoUnits
  rw [same.units]

theorem computeLinesForUnit_eq (unit : ResidentialUnit) :
    computeLinesForUnit after unit = computeLinesForUnit db unit := by
  unfold computeLinesForUnit feeRateOf
  rw [same.feeRates]

theorem linesForUnit_eq (condoId : Id) (dto : GenerateRecurringDto) (unit : ResidentialUnit) :
    linesForUnit after condoId dto unit = linesForUnit db condoId dto unit := by
  unfold linesForUnit listActiveExtraLinesForPeriod
  rw [same.computeLinesForUnit_eq, same.extraLines]

end SameSchedule

/-! ## What a booking does to the invoices -/

structure Effect (slots : List (Id × Instant)) (db after : Db) : Prop where
  wellFormed : WellFormed db → WellFormed after
  schedule : SameSchedule db after
  origin : ∀ slot ∈ after.slots, slot.active = true →
    slot ∈ db.slots ∨ (slot.unitId, slot.periodStart) ∈ slots

namespace Effect

theorem rfl : Effect [] db db := ⟨id, .rfl, fun _ mem _ => .inl mem⟩

theorem trans {first second : List (Id × Instant)} (left : Effect first db middle)
    (right : Effect second middle after) : Effect (first ++ second) db after where
  wellFormed := right.wellFormed ∘ left.wellFormed
  schedule := left.schedule.trans right.schedule
  origin := by
    intro slot mem active
    rcases right.origin slot mem active with old | new
    · exact (left.origin slot old active).imp_right fun new => mem_append_left _ new
    · exact .inr (mem_append_right _ new)

theorem bookings {rows : List Booking} {nextId : Id} (grows : db.nextId ≤ nextId) :
    Effect [] db { db with bookings := rows, nextId := nextId } where
  wellFormed wellFormed := {
    invoiceIds := wellFormed.invoiceIds.mono grows
    paymentIds := wellFormed.paymentIds.mono grows
    advanceIds := wellFormed.advanceIds.mono grows
    depositIds := wellFormed.depositIds.mono grows
    accountUnits := wellFormed.accountUnits
    entryIds := wellFormed.entryIds
    paymentInvoice := wellFormed.paymentInvoice
    amounts := wellFormed.amounts
    pendingAmounts := wellFormed.pendingAmounts
    amountPaid := wellFormed.amountPaid
    returned := wellFormed.returned
    keys := by
      intro entry mem
      obtain ⟨⟨key, isKey, holds⟩, source⟩ := wellFormed.keys entry mem
      refine ⟨⟨key, isKey, ?_⟩, source.trans_le grows⟩
      cases key with
      | invoiceCharge | prepayment | invoicePrepayment | depositHeld =>
        exact holds.trans_le grows
      | _ => exact holds }
  schedule := ⟨Eq.refl _, Eq.refl _, Eq.refl _, Eq.refl _⟩
  origin _ mem _ := .inl mem

theorem of_commit {change : Change} (commit : Commit db change after)
    (origin : ∀ slot ∈ after.slots, slot.active = true → slot ∈ db.slots) : Effect [] db after :=
  ⟨commit.wellFormed, .of_commit commit, fun slot mem active => .inl (origin slot mem active)⟩

theorem issued {draft : InvoiceDraft} (commit : Commit db (.issued draft) after) :
    Effect [(draft.unitId, draft.periodStart)] db after where
  wellFormed := commit.wellFormed
  schedule := .of_commit commit
  origin := by
    cases commit with
    | @issued now =>
      intro slot mem _
      simp only [Db.slots, map_append] at mem
      rcases mem_append.mp mem with old | new
      · exact .inl old
      · obtain rfl := mem_singleton.mp new
        exact .inr (mem_singleton.mpr (Eq.refl _))

variable {amount : ℚ}

theorem depositHeld {condoId unitId : Id} (commit : Commit db (.depositHeld condoId unitId amount) after) :
    Effect [] db after := by
  refine of_commit commit fun slot mem _ => ?_
  cases commit
  exact mem

theorem depositRefunded {deposit : Deposit} (commit : Commit db (.depositRefunded deposit amount) after) :
    Effect [] db after := by
  refine of_commit commit fun slot mem _ => ?_
  cases commit
  exact mem

theorem voided {invoice : Invoice} {left : Bool} (commit : Commit db (.voided invoice left) after) :
    Effect [] db after := by
  refine of_commit commit fun slot mem active => ?_
  cases commit
  simp only [Db.slots, mem_map] at mem
  obtain ⟨row, updated, rfl⟩ := mem
  obtain ⟨old, found, rfl⟩ := mem_updateBy.mp updated
  split at active
  · cases active
  · rename_i other
    rw [if_neg other]
    exact mem_map_of_mem found

end Effect

variable {id : Id}

theorem updateBooking_effect {change : Booking → Booking} :
    Effect [] db (updateBooking db id change) := .bookings le_rfl

section

variable {booking : Booking} {facility : Facility} {unitId : Id} {actor : AuthenticatedUser}

def feeSlots (facility : Facility) (unitId : Option Id) (startAt : Instant) : List (Id × Instant) :=
  if 0 < bookingFee facility then unitId.toList.map fun unitId => (unitId, startAt) else []

theorem chargeFee_effect (done : chargeFee env now db booking facility unitId actor = .ok after) :
    Effect (feeSlots facility (some unitId) booking.startAt) db after := by
  unfold chargeFee at done
  unfold feeSlots
  split at done
  · rename_i pos
    simp only [bind_eq_ok, pure_eq_ok, Prod.exists] at done
    obtain ⟨invoiced, invoice, create, rfl⟩ := done
    obtain ⟨commit, -⟩ := issueInvoice_commit create
    rw [if_pos pos]
    exact (Effect.issued commit).trans updateBooking_effect
  · rename_i free
    cases done
    rw [if_neg free]
    exact .rfl

theorem holdDeposit_effect (done : holdDeposit now db booking facility unitId actor = .ok after) :
    Effect [] db after := by
  unfold holdDeposit at done
  split at done
  · simp only [bind_eq_ok, pure_eq_ok] at done
    obtain ⟨held, record, rfl⟩ := done
    exact (Effect.depositHeld (depositRecordInTx_commit record)).trans updateBooking_effect
  · cases done
    exact .rfl

theorem settleMoney_effect (done : settleMoney env now db booking facility actor = .ok after) :
    Effect (feeSlots facility booking.unitId booking.startAt) db after := by
  simp only [settleMoney] at done
  split at done
  · cases done
    unfold feeSlots
    rw [if_neg (by omega)]
    exact .rfl
  · simp only [bind_eq_ok, orThrow_eq_ok] at done
    obtain ⟨unitId, isUnit, charged, charge, hold⟩ := done
    rw [isUnit]
    have both := (chargeFee_effect charge).trans (holdDeposit_effect hold)
    rwa [append_nil] at both

end

def BookingRequest.feeSlots (db : Db) : BookingRequest → List (Id × Instant)
  | .create _ dto => (db.facility? dto.facilityId).toList.flatMap fun facility =>
      if facility.requiresApproval then [] else Facility.feeSlots facility dto.unitId dto.startAt
  | .approve _ id => (db.booking? id).toList.flatMap fun booking =>
      (db.facility? booking.facilityId).toList.flatMap fun facility =>
        Facility.feeSlots facility booking.unitId booking.startAt
  | .reject _ _ => []
  | .cancel _ _ => []

variable {dto : CreateBookingDto}

theorem create_effect {actor : AuthenticatedUser} (done : create env residency now db actor dto = .ok after) :
    Effect ((BookingRequest.create actor dto).feeSlots db) db after := by
  simp only [create, bind_eq_ok, orThrow_eq_ok] at done
  obtain ⟨facility, found, _, _, _, _, _, _, _, _, _, _, done⟩ := done
  simp only [BookingRequest.feeSlots, found, Option.toList_some, flatMap_singleton]
  split at done
  · rename_i pending
    cases done
    rw [if_pos pending]
    exact .bookings (Nat.le_succ _)
  · rename_i confirmed
    rw [if_neg confirmed]
    exact (Effect.bookings (Nat.le_succ _)).trans (settleMoney_effect done)

theorem approve_effect {actor : AuthenticatedUser} (done : approve env now db actor id = .ok after) :
    Effect ((BookingRequest.approve actor id).feeSlots db) db after := by
  simp only [approve, bind_eq_ok, orThrow_eq_ok] at done
  obtain ⟨booking, found, _, _, _, _, facility, isFacility, _, _, done⟩ := done
  simp only [BookingRequest.feeSlots, found, isFacility, Option.toList_some, flatMap_singleton]
  exact updateBooking_effect.trans (settleMoney_effect done)

theorem reject_effect {actor : AuthenticatedUser} (done : reject db actor id = .ok after) : Effect [] db after := by
  simp only [reject, bind_eq_ok, pure_eq_ok] at done
  obtain ⟨_, _, _, _, _, _, rfl⟩ := done
  exact updateBooking_effect

variable {depositId : Option Id}

theorem releaseDeposit_effect {actor : AuthenticatedUser} (done : releaseDeposit now db actor depositId = .ok after) :
    Effect [] db after := by
  cases depositId with
  | none =>
    cases done
    exact .rfl
  | some depositId =>
    simp only [releaseDeposit, bind_eq_ok, pure_eq_ok, Prod.exists] at done
    obtain ⟨_, _, refund, rfl⟩ := done
    rcases refundHeldInTx_commit refund with ⟨rfl, -⟩ | ⟨_, -, commit⟩
    · exact .rfl
    · exact .depositRefunded commit

variable {invoiceId : Option Id}

theorem voidFee_effect {actor : AuthenticatedUser} (done : voidFee now db actor invoiceId = .ok after) :
    Effect [] db after := by
  cases invoiceId with
  | none =>
    cases done
    exact .rfl
  | some invoiceId =>
    simp only [voidFee, bind_eq_ok, pure_eq_ok, Prod.exists] at done
    obtain ⟨_, _, void, rfl⟩ := done
    rcases voidUnpaidInvoiceInTx_commit void with rfl | ⟨_, -, -, commit⟩
    · exact .rfl
    · exact .voided commit

theorem cancel_effect {actor : AuthenticatedUser} (done : cancel now db actor id = .ok after) : Effect [] db after := by
  simp only [cancel, bind_eq_ok] at done
  obtain ⟨_, _, _, _, _, _, released, release, void⟩ := done
  exact (updateBooking_effect.trans (releaseDeposit_effect release)).trans (voidFee_effect void)

variable {request : BookingRequest}

theorem BookingRequest.effect (done : request.run env residency now db = .ok after) :
    Effect (request.feeSlots db) db after := by
  cases request with
  | create => exact create_effect done
  | approve => exact approve_effect done
  | reject => exact reject_effect done
  | cancel => exact cancel_effect done

/-! ## Why the index refuses a booking -/

def periodTaken : ApiError := .uniqueViolation .invoicesActivePeriod

theorem issueInTx_not_refused {input : IssueReceiptInput} : issueInTx db input ≠ .error periodTaken := by
  intro refused
  simp only [issueInTx, bind_eq_error, orThrow_eq_error, throwIf_eq_error, pure_ne_error, periodTaken,
    reduceCtorEq, ApiError.uniqueViolation.injEq, and_false, exists_false, or_false] at refused

section

variable {booking : Booking} {facility : Facility} {unitId : Id} {actor : AuthenticatedUser}

theorem chargeFee_refused
    (refused : chargeFee env now db booking facility unitId actor = .error periodTaken) :
    0 < bookingFee facility ∧ takenIn db.slots unitId booking.startAt none = true := by
  unfold chargeFee at refused
  split at refused
  · rename_i pos
    simp only [bind_eq_error, createInvoiceInTx, issueInvoice, Db.insertInvoice, throwIf_eq_error,
      pure_ne_error, and_false, exists_false, or_false] at refused
    exact ⟨pos, activePeriodTaken_eq.symm.trans refused.1.2⟩
  · cases refused

theorem holdDeposit_not_refused : holdDeposit now db booking facility unitId actor ≠ .error periodTaken := by
  unfold holdDeposit
  intro refused
  split at refused
  · simp only [bind_eq_error, depositRecordInTx, issueInTx_not_refused, pure_ne_error, and_false, exists_false,
      or_false] at refused
  · cases refused

theorem settleMoney_refused (refused : settleMoney env now db booking facility actor = .error periodTaken) :
    ∃ slot ∈ feeSlots facility booking.unitId booking.startAt, takenIn db.slots slot.1 slot.2 none = true := by
  simp only [settleMoney] at refused
  split at refused
  · cases refused
  · simp only [bind_eq_error, orThrow_eq_error, orThrow_eq_ok, holdDeposit_not_refused, and_false, exists_false,
      or_false] at refused
    rcases refused with ⟨_, ⟨⟩⟩ | ⟨unitId, isUnit, charge⟩
    obtain ⟨pos, taken⟩ := chargeFee_refused charge
    refine ⟨(unitId, booking.startAt), ?_, taken⟩
    simp [feeSlots, pos, isUnit]

end

theorem validateInterval_not_refused {facility : Facility} {startAt endAt : Instant} :
    validateInterval env now facility startAt endAt ≠ .error periodTaken := by
  intro refused
  simp only [validateInterval, bind_eq_error, throwIf_eq_error, periodTaken, reduceCtorEq, and_false,
    exists_false, or_false] at refused

theorem assertForUnit_not_refused {actor : AuthenticatedUser} {condoId : Id} {unitId : Option Id} :
    assertForUnit residency actor condoId unitId ≠ .error periodTaken := by
  intro refused
  cases unitId with
  | none => cases refused
  | some unitId =>
    simp only [assertForUnit, bind_eq_error, assertActsForUnit, assertUnitNotAccessRestricted, throwIf_eq_error,
      periodTaken, reduceCtorEq, and_false, exists_false, or_false] at refused

theorem create_refused {actor : AuthenticatedUser}
    (refused : Facility.create env residency now db actor dto = .error periodTaken) :
    ∃ slot ∈ (BookingRequest.create actor dto).feeSlots db, takenIn db.slots slot.1 slot.2 none = true := by
  simp only [Facility.create, bind_eq_error, orThrow_eq_ok, orThrow_eq_error, throwIf_eq_error, periodTaken,
    assertCondoAccess, assertNoConflict, reduceCtorEq, and_false, false_or] at refused
  obtain ⟨facility, found, _, _, _, _, refused⟩ := refused
  rcases refused with interval | ⟨_, _, residence | ⟨_, _, _, _, refused⟩⟩
  · exact absurd interval validateInterval_not_refused
  · exact absurd residence assertForUnit_not_refused
  · simp only [BookingRequest.feeSlots, found, Option.toList_some, flatMap_singleton]
    split at refused
    · cases refused
    · rename_i confirmed
      rw [if_neg confirmed]
      exact settleMoney_refused refused

theorem approve_refused {actor : AuthenticatedUser}
    (refused : Facility.approve env now db actor id = .error periodTaken) :
    ∃ slot ∈ (BookingRequest.approve actor id).feeSlots db, takenIn db.slots slot.1 slot.2 none = true := by
  simp only [Facility.approve, bind_eq_error, orThrow_eq_ok, orThrow_eq_error, throwIf_eq_error, periodTaken,
    assertManagement, assertNoConflict, reduceCtorEq, and_false, false_or] at refused
  obtain ⟨booking, found, _, _, _, _, facility, isFacility, _, _, refused⟩ := refused
  obtain ⟨slot, mem, taken⟩ := settleMoney_refused refused
  refine ⟨slot, ?_, taken⟩
  simp only [BookingRequest.feeSlots, found, isFacility, Option.toList_some, flatMap_singleton]
  exact mem

theorem reject_not_refused {actor : AuthenticatedUser} : reject db actor id ≠ .error periodTaken := by
  intro refused
  simp only [reject, bind_eq_error, orThrow_eq_error, throwIf_eq_error, periodTaken, assertManagement,
    pure_ne_error, reduceCtorEq, and_false, exists_false, or_false] at refused

theorem releaseDeposit_not_refused {actor : AuthenticatedUser} :
    releaseDeposit now db actor depositId ≠ .error periodTaken := by
  intro refused
  cases depositId with
  | none => cases refused
  | some depositId =>
    simp only [releaseDeposit, refundHeldInTx] at refused
    split at refused
    · cases refused
    · split at refused
      · cases refused
      · simp only [bind_eq_error, issueInTx_not_refused, pure_ne_error, and_false, exists_false, or_false] at refused

theorem voidFee_not_refused {actor : AuthenticatedUser} : voidFee now db actor invoiceId ≠ .error periodTaken := by
  intro refused
  cases invoiceId with
  | none => cases refused
  | some invoiceId =>
    simp only [voidFee, voidUnpaidInvoiceInTx] at refused
    split at refused
    · cases refused
    · split at refused
      · cases refused
      · split at refused
        · cases refused
        · simp only [bind_eq_error, Db.updateInvoice, throwIf_eq_error, voided, pure_ne_error, ne_eq,
            not_true_eq_false, false_and, and_false, exists_false, or_false] at refused

theorem BookingRequest.refused (refused : request.run env residency now db = .error periodTaken) :
    ∃ slot ∈ request.feeSlots db, takenIn db.slots slot.1 slot.2 none = true := by
  cases request with
  | create => exact create_refused refused
  | approve => exact approve_refused refused
  | reject => exact absurd refused reject_not_refused
  | cancel =>
    simp only [BookingRequest.run, Facility.cancel, bind_eq_error, orThrow_eq_error, throwIf_eq_error, periodTaken,
      reduceCtorEq, and_false, false_or] at refused
    obtain ⟨_, _, _, _, _, _, release | ⟨_, _, void⟩⟩ := refused
    · exact absurd release releaseDeposit_not_refused
    · exact absurd void voidFee_not_refused

/-! ## Bookings and monthly runs in any order -/

inductive Event
  | booked (slots : List (Id × Instant))
  | refused (slots : List (Id × Instant))
  | billed (condoId : Id) (window : PeriodWindow) (dueToRun : Bool)

inductive Happens (env : Env) (residency : Residency) (before : Db) : Event → Db → Prop
  | booked {now : Instant} {request : BookingRequest} {after : Db}
      (done : request.run env residency now before = .ok after) :
      Happens env residency before (.booked (request.feeSlots before)) after
  | refused {now : Instant} {request : BookingRequest}
      (refused : request.run env residency now before = .error periodTaken) :
      Happens env residency before (.refused (request.feeSlots before)) before
  | billed {now : Instant} {actor : Option AuthenticatedUser} {condoId : Id} {condo : Condo} {opts : RunOptions}
      {after : Db} {result : BillingAutomationRunResult} (found : before.condo? condoId = some condo)
      (enabled : condo.billingAutomation.enabled = true) (real : opts.dryRun = false)
      (due : opts.requireDue = true → isDueToRun condo.billingAutomation now = true)
      (done : runCondo now before actor condoId opts = .ok (after, result)) :
      Happens env residency before (.billed condoId (calculateWindow condo.billingAutomation now)
        (isDueToRun condo.billingAutomation now)) after

def billedLines (charges : List ChargeLine) : List InvoiceLine :=
  charges.mapIdx fun i line => ⟨line.code, line.description, stored line.amount, i⟩

structure MonthlySlot (db : Db) (condoId : Id) (window : PeriodWindow) (unit : ResidentialUnit)
    (slot : InvoiceSlot) : Prop where
  unitId : slot.unitId = unit.id
  periodStart : slot.periodStart = window.periodStart
  lines : slot.lines = billedLines (linesForUnit db condoId (monthlyDto window) unit)

def billedUnits (db : Db) (condoId : Id) (window : PeriodWindow) : List ResidentialUnit :=
  (condoUnits db condoId).filter (paysMonthly db condoId window)

/-- No fee is asked for a booking that starts as the period of a monthly run does, on a unit it bills. -/
def Apart (start : Db) (log : List Event) : Prop :=
  ∀ slots, (.booked slots ∈ log ∨ .refused slots ∈ log) → ∀ slot ∈ slots, ∀ condoId window dueToRun,
    .billed condoId window dueToRun ∈ log → ∀ unit ∈ billedUnits start condoId window, unit.id = slot.1 →
      slot.2 ≠ window.periodStart

def NotHeldBack (before : Db) : Event → Prop
  | .billed condoId window dueToRun => ∀ unit ∈ condoUnits before condoId,
      PaysOnlyExtra before condoId window unit → isBilled before window unit = true ∨
        ¬ (dueToRun = true ∧ AllBilled before condoId window)
  | _ => True

/-- After a monthly run each unit has its bill, and only another booking makes the index refuse one. -/
def Kept (log : List Event) (before : Db) (event : Event) (after : Db) : Prop :=
  match event with
  | .booked _ => True
  | .refused slots => ∃ slot ∈ slots, ∃ others, .booked others ∈ log ∧ slot ∈ others
  | .billed condoId window _ => ∀ unit ∈ condoUnits before condoId,
      linesForUnit before condoId (monthlyDto window) unit ≠ [] →
      ∃ invoice ∈ after.invoices, invoice.status ≠ .void ∧ invoice.unitId = unit.id ∧
        invoice.periodStart = window.periodStart ∧
        invoice.lines = billedLines (linesForUnit before condoId (monthlyDto window) unit)

namespace SameSchedule

variable (same : SameSchedule db after)
include same

theorem billedUnits_eq (condoId : Id) (window : PeriodWindow) :
    billedUnits after condoId window = billedUnits db condoId window := by
  unfold billedUnits
  rw [same.condoUnits_eq]
  refine filter_congr fun unit _ => ?_
  unfold paysMonthly paysRate paysExtra listActiveExtraLinesForPeriod
  rw [same.computeLinesForUnit_eq, same.extraLines]

theorem monthlySlot {condoId : Id} {window : PeriodWindow} {unit : ResidentialUnit} {slot : InvoiceSlot} :
    MonthlySlot after condoId window unit slot ↔ MonthlySlot db condoId window unit slot :=
  ⟨fun ⟨owner, period, lines⟩ => ⟨owner, period, same.linesForUnit_eq condoId _ unit ▸ lines⟩,
    fun ⟨owner, period, lines⟩ => ⟨owner, period, (same.linesForUnit_eq condoId _ unit).symm ▸ lines⟩⟩

end SameSchedule

def IsMonth (window : PeriodWindow) : Prop :=
  ∃ month, window.periodStart = utcDate month 1 ∧ window.periodEnd = endOfUtcDate (month + 1) 0

theorem calculateWindow_isMonth (settings : BillingAutomationSettings) (now : Instant) :
    IsMonth (calculateWindow settings now) := ⟨_, rfl, rfl⟩

theorem IsMonth.periodEnd_eq {window other : PeriodWindow} (month : IsMonth window) (isMonth : IsMonth other)
    (same : window.periodStart = other.periodStart) : window.periodEnd = other.periodEnd := by
  obtain ⟨first, start, stop⟩ := month
  obtain ⟨second, otherStart, otherStop⟩ := isMonth
  have starts : monthStart first = monthStart second := by
    rw [start, otherStart] at same
    have days : (monthStart first + 1 - 1) * 86400000 = (monthStart second + 1 - 1) * 86400000 := same
    omega
  rw [stop, otherStop, monthStart_injective starts]

structure Accounted (start : Db) (log : List Event) (db : Db) : Prop where
  wellFormed : WellFormed db
  schedule : SameSchedule start db
  origin : ∀ slot ∈ db.slots, slot.active = true →
    (∃ slots, .booked slots ∈ log ∧ (slot.unitId, slot.periodStart) ∈ slots) ∨
    ∃ condoId window dueToRun, .billed condoId window dueToRun ∈ log ∧ IsMonth window ∧
      ∃ unit ∈ billedUnits start condoId window, MonthlySlot start condoId window unit slot

variable {condo : Condo}

theorem runCondo_cases {actor : Option AuthenticatedUser} {condoId : Id} {opts : RunOptions}
    {result : BillingAutomationRunResult} (found : db.condo? condoId = some condo) (real : opts.dryRun = false)
    (done : runCondo now db actor condoId opts = .ok (after, result)) :
    (after = db ∧ (buildPreview db condoId condo.billingAutomation now).shouldRun opts = false) ∨
      ∃ generated, generateRecurring now db actor condoId
        (monthlyDto (calculateWindow condo.billingAutomation now)) (automationOptions actor) =
          .ok (after, generated) := by
  obtain rfl := (mem_of_findBy found).2
  have shown : previewCondo db condo.id now = .ok (buildPreview db condo.id condo.billingAutomation now) := by
    simp only [previewCondo, found]
    rfl
  simp only [runCondo, shown, bind_eq_ok, Except.ok.injEq, exists_eq_left', real] at done
  obtain ⟨_, _, done⟩ := done
  split at done
  · rename_i stopped
    simp only [pure_eq_ok, Prod.mk.injEq] at done
    exact .inl ⟨done.1.symm, by simpa using stopped⟩
  · simp only [bind_eq_ok, Prod.exists] at done
    obtain ⟨generated, tally, ran, rfl, _⟩ := done
    exact .inr ⟨tally, ran⟩

theorem generateRecurring_monthly (wf : WellFormed db) (unitIds : (db.units.map ResidentialUnit.id).Nodup)
    {condoId : Id} (found : db.condo? condoId = some condo) {window : PeriodWindow} {actor : Option AuthenticatedUser}
    {options : GenerateRecurringOptions} {generated : RecurringResult}
    (done : generateRecurring now db actor condoId (monthlyDto window) options = .ok (after, generated)) :
    WellFormed after ∧ SameSchedule db after ∧ ∃ added, after.slots = db.slots ++ added ∧
      (∀ slot ∈ added, ∃ unit ∈ billedUnits db condoId window, MonthlySlot db condoId window unit slot) ∧
      ∀ unit ∈ billedUnits db condoId window, isBilled db window unit = true ∨
        ∃ slot ∈ added, slot.active = true ∧ MonthlySlot db condoId window unit slot := by
  have authorized : authorizeRecurring actor condoId options = .ok () := by
    simp only [generateRecurring, bind_eq_ok] at done
    exact done.choose_spec.2.choose_spec.1
  obtain ⟨final, added, ran, well, slots, billed⟩ := @generateRecurring_ok db now condoId (monthlyDto window)
    wf unitIds condo found actor options authorized
  obtain ⟨changes, refines⟩ := @generateRecurring_refines Sample.env db after now (monthlyDto window) condoId
    wf actor options generated done
  rw [done] at ran
  obtain ⟨rfl, _⟩ := ran
  have shape : ∀ unit slot, Billed condoId (monthlyDto window)
      ⟨unit.id, linesForUnit db condoId (monthlyDto window) unit⟩ slot →
      slot.active = true ∧ MonthlySlot db condoId window unit slot := fun unit slot bill =>
    ⟨congrArg InvoiceSlot.active bill, congrArg InvoiceSlot.unitId bill,
      congrArg InvoiceSlot.periodStart bill, congrArg InvoiceSlot.lines bill⟩
  refine ⟨well, .of_commits refines.run, added, slots, fun slot mem => ?_, fun unit mem => ?_⟩
  · obtain ⟨plan, pending, bill⟩ := plan_of_billed billed mem
    simp only [pendingBills, plannedBills_monthly, mem_filter, mem_map, decide_eq_true_eq] at pending
    obtain ⟨⟨unit, listed, rfl⟩, lines, _⟩ := pending
    have pays : paysMonthly db condoId window unit = true := by
      rw [← Bool.not_eq_false]
      exact mt linesForUnit_monthly.mpr lines
    exact ⟨unit, mem_filter.mpr ⟨listed, pays⟩, (shape unit slot bill).2⟩
  · obtain ⟨listed, pays⟩ := mem_filter.mp mem
    by_cases already : isBilled db window unit = true
    · exact .inl already
    · have planned : ⟨unit.id, linesForUnit db condoId (monthlyDto window) unit⟩ ∈
          plannedBills db condoId (monthlyDto window) := by
        rw [plannedBills_monthly]
        exact mem_map_of_mem listed
      have lines : linesForUnit db condoId (monthlyDto window) unit ≠ [] := fun none => by
        rw [linesForUnit_monthly.mp none] at pays
        cases pays
      have missing : unit.id ∉ existingForPeriod db (plannedBills db condoId (monthlyDto window))
          window.periodStart := by
        rw [mem_existingForPeriod (mem_map_of_mem planned), ← activePeriodTaken_eq]
        exact already
      obtain ⟨slot, new, bill⟩ := slot_of_billed billed
        (mem_filter.mpr ⟨planned, decide_eq_true ⟨lines, missing⟩⟩)
      exact .inr ⟨slot, new, shape unit slot bill⟩

theorem Accounted.initial (fresh : Fresh start) : Accounted start [] start where
  wellFormed := .fresh fresh
  schedule := .rfl
  origin := by
    intro slot mem
    simp [Db.slots, fresh.invoices] at mem

variable {event : Event}

theorem Accounted.extend {log : List Event} {before : Db} (accounted : Accounted start log before)
    (wellFormed : WellFormed after) (schedule : SameSchedule before after)
    (origin : ∀ slot ∈ after.slots, slot.active = true → slot ∈ before.slots ∨
      (∃ slots, event = .booked slots ∧ (slot.unitId, slot.periodStart) ∈ slots) ∨
      ∃ condoId window dueToRun, event = .billed condoId window dueToRun ∧ IsMonth window ∧
        ∃ unit ∈ billedUnits before condoId window, MonthlySlot before condoId window unit slot) :
    Accounted start (log ++ [event]) after where
  wellFormed := wellFormed
  schedule := accounted.schedule.trans schedule
  origin := by
    intro slot mem active
    have earlier : ∀ other ∈ log, other ∈ log ++ [event] := fun _ inside => mem_append_left _ inside
    have last : event ∈ log ++ [event] := mem_append_right _ (mem_singleton.mpr rfl)
    rcases origin slot mem active with old | ⟨slots, rfl, charged⟩ |
      ⟨condoId, window, dueToRun, rfl, month, unit, listed, bill⟩
    · rcases accounted.origin slot old active with ⟨slots, inside, charged⟩ | ⟨condoId, window, dueToRun, inside, bill⟩
      · exact .inl ⟨slots, earlier _ inside, charged⟩
      · exact .inr ⟨condoId, window, dueToRun, earlier _ inside, bill⟩
    · exact .inl ⟨slots, last, charged⟩
    · rw [accounted.schedule.billedUnits_eq] at listed
      exact .inr ⟨condoId, window, dueToRun, last, month, unit, listed, accounted.schedule.monthlySlot.mp bill⟩

theorem Accounted.step {log : List Event} {before : Db} (unitIds : (start.units.map ResidentialUnit.id).Nodup)
    (accounted : Accounted start log before) (step : Happens env residency before event after) :
    Accounted start (log ++ [event]) after := by
  cases step with
  | booked done =>
    have effect := BookingRequest.effect done
    refine accounted.extend (effect.wellFormed accounted.wellFormed) effect.schedule fun slot mem active => ?_
    exact (effect.origin slot mem active).imp_right fun charged => .inl ⟨_, rfl, charged⟩
  | refused => exact accounted.extend accounted.wellFormed .rfl fun _ mem _ => .inl mem
  | billed found enabled real due done =>
    rcases runCondo_cases found real done with ⟨rfl, -⟩ | ⟨generated, ran⟩
    · exact accounted.extend accounted.wellFormed .rfl fun _ mem _ => .inl mem
    · have ids := accounted.schedule.units ▸ unitIds
      obtain ⟨well, schedule, added, slots, bills, -⟩ :=
        generateRecurring_monthly accounted.wellFormed ids found ran
      refine accounted.extend well schedule fun slot mem _ => ?_
      rw [slots] at mem
      rcases mem_append.mp mem with old | new
      · exact .inl old
      · exact .inr (.inr ⟨_, _, _, rfl, calculateWindow_isMonth _ _, bills slot new⟩)

theorem accounted_of_run {log : List Event} (fresh : Fresh start)
    (run : Run (Guarded NotHeldBack (Happens env residency)) start log db) : Accounted start log db :=
  Run.history_invariant (fun _ _ _ _ accounted step => accounted.step fresh.unitIds step.2)
    (.initial fresh) run

section

variable {log : List Event} {before : Db} {condoId : Id} {window : PeriodWindow} {dueToRun : Bool}

theorem taken_slot {unitId : Id} {startAt : Instant} (taken : takenIn db.slots unitId startAt none = true) :
    ∃ slot ∈ db.slots, slot.unitId = unitId ∧ slot.periodStart = startAt ∧ slot.active = true := by
  simp only [takenIn, any_eq_true, decide_eq_true_eq] at taken
  obtain ⟨slot, mem, owner, period, active, _⟩ := taken
  exact ⟨slot, mem, owner, period, active⟩

variable {unit : ResidentialUnit}

theorem invoice_of_slot {charges : List ChargeLine} {slot : InvoiceSlot} (mem : slot ∈ after.slots)
    (active : slot.active = true) (owner : slot.unitId = unit.id) (period : slot.periodStart = window.periodStart)
    (lines : slot.lines = billedLines charges) :
    ∃ invoice ∈ after.invoices, invoice.status ≠ .void ∧ invoice.unitId = unit.id ∧
      invoice.periodStart = window.periodStart ∧ invoice.lines = billedLines charges := by
  obtain ⟨invoice, found, rfl⟩ := mem_map.mp mem
  exact ⟨invoice, found, of_decide_eq_true active, owner, period, lines⟩

theorem billed_before (unitIds : (start.units.map ResidentialUnit.id).Nodup) (accounted : Accounted start log before)
    (month : IsMonth window) (apart : Apart start (log ++ [.billed condoId window dueToRun]))
    (listed : unit ∈ billedUnits start condoId window) (billed : isBilled before window unit = true) :
    ∃ slot ∈ before.slots, slot.active = true ∧ MonthlySlot start condoId window unit slot := by
  rw [isBilled, activePeriodTaken_eq] at billed
  obtain ⟨slot, mem, owner, period, active⟩ := taken_slot billed
  refine ⟨slot, mem, active, ?_⟩
  rcases accounted.origin slot mem active with ⟨slots, booked, charged⟩ |
    ⟨otherCondo, other, _, _, isMonth, tenant, inCondo, bill⟩
  · have clash := apart slots (.inl (mem_append_left _ booked)) _ charged condoId window dueToRun
      (mem_append_right _ (mem_singleton.mpr rfl)) unit listed owner.symm
    exact absurd period clash
  · have inStart : unit ∈ start.units := mem_of_mem_filter (mem_of_mem_filter listed)
    have tenantIn : tenant ∈ start.units := mem_of_mem_filter (mem_of_mem_filter inCondo)
    obtain rfl := eq_of_key_eq unitIds tenantIn inStart (bill.unitId.symm.trans owner)
    have first := of_decide_eq_true (mem_filter.mp (mem_filter.mp listed).1).2
    have second := of_decide_eq_true (mem_filter.mp (mem_filter.mp inCondo).1).2
    obtain rfl : otherCondo = condoId := second.symm.trans first
    have starts : other.periodStart = window.periodStart := bill.periodStart.symm.trans period
    have stops := isMonth.periodEnd_eq month starts
    refine ⟨owner, period, ?_⟩
    rw [bill.lines]
    simp only [monthlyDto, starts, stops]
    rfl

theorem monthly_bill_kept {event : Event} (fresh : Fresh start)
    (run : Run (Guarded NotHeldBack (Happens env residency)) start log before)
    (step : Guarded NotHeldBack (Happens env residency) before event after)
    (apart : Apart start (log ++ [event])) : Kept log before event after := by
  have accounted := accounted_of_run fresh run
  have unitIds := accounted.schedule.units.symm ▸ fresh.unitIds
  obtain ⟨notHeld, step⟩ := step
  cases step with
  | booked => trivial
  | refused refused =>
      obtain ⟨slot, listed, taken⟩ := BookingRequest.refused refused
      obtain ⟨other, member, owner, period, active⟩ := taken_slot taken
      rcases accounted.origin other member active with ⟨slots, booked, charged⟩ |
        ⟨condoId, window, dueToRun, billed, _, unit, tenant, bill⟩
      · exact ⟨slot, listed, slots, booked, by rwa [owner, period] at charged⟩
      · have clash := apart _ (.inr (List.mem_append_right _ (List.mem_singleton.mpr rfl))) slot listed condoId
          window dueToRun (List.mem_append_left _ billed) unit tenant (bill.unitId.symm.trans owner)
        exact absurd (period.symm.trans bill.periodStart) clash
  | @billed now actor condoId condo opts after result found enabled real due done =>
      intro unit inCondo lines
      have month := calculateWindow_isMonth condo.billingAutomation now
      have pays : paysMonthly before condoId (calculateWindow condo.billingAutomation now) unit = true := by
        rw [← Bool.not_eq_false]
        exact mt linesForUnit_monthly.mpr lines
      have listed := List.mem_filter.mpr ⟨inCondo, pays⟩
      have kept (billed : isBilled before (calculateWindow condo.billingAutomation now) unit = true)
          (grown : ∃ added, after.slots = before.slots ++ added) :
          ∃ invoice ∈ after.invoices, invoice.status ≠ .void ∧ invoice.unitId = unit.id ∧
            invoice.periodStart = (calculateWindow condo.billingAutomation now).periodStart ∧
            invoice.lines = billedLines (linesForUnit before condoId
              (monthlyDto (calculateWindow condo.billingAutomation now)) unit) := by
        obtain ⟨added, slots⟩ := grown
        obtain ⟨slot, member, active, bill⟩ := billed_before fresh.unitIds accounted month apart
          (accounted.schedule.billedUnits_eq _ _ ▸ listed) billed
        have bill := accounted.schedule.monthlySlot.mpr bill
        exact invoice_of_slot (slots ▸ List.mem_append_left _ member) active bill.unitId bill.periodStart bill.lines
      rcases runCondo_cases found real done with ⟨rfl, stopped⟩ | ⟨generated, ran⟩
      · refine kept ?_ ⟨[], (List.append_nil _).symm⟩
        have stops := not_not.mp (mt (shouldRun_iff unitIds enabled due).mpr (Bool.not_eq_true _ ▸ stopped))
        rcases paysMonthly_iff.mp pays with rate | only
        · exact isBilled_of_here (stops.2 unit inCondo rate)
        · exact (notHeld unit inCondo only).resolve_right (not_not.mpr stops)
      · obtain ⟨_, _, added, slots, _, bills⟩ := generateRecurring_monthly accounted.wellFormed unitIds found ran
        rcases bills unit listed with billed | ⟨slot, member, active, bill⟩
        · exact kept billed ⟨added, slots⟩
        · exact invoice_of_slot (slots ▸ List.mem_append_right _ member) active bill.unitId bill.periodStart
            bill.lines

end

theorem billedLines_codes (charges : List ChargeLine) :
    (billedLines charges).map InvoiceLine.code = charges.map ChargeLine.code := by
  unfold billedLines
  exact ext_getElem (by simp) (by simp)

namespace Sample

def hallDb : Db := { Billing.Sample.ratedDb with
  facilities := [⟨4, 5, "Hall", true, false, some 2000, none, 0, 1440, 60, 1⟩] }

theorem hallDb_fresh : Fresh hallDb := ⟨by decide, rfl, rfl, rfl, rfl, rfl, rfl, rfl⟩

def everyone : Residency := ⟨fun _ _ => true, fun _ _ => true⟩

def hour (startAt : Instant) : BookingRequest :=
  .create Billing.Sample.admin ⟨4, some 7, startAt, startAt + 3600000⟩

def window : PeriodWindow := calculateWindow Billing.Sample.settings 0

def bookThenBill (startAt : Instant) : Result (Db × Db) := do
  let booked ← (hour startAt).run Billing.Sample.env everyone 0 hallDb
  let (billed, _) ← runCondo 0 booked none 5 ⟨false, false⟩
  return (booked, billed)

theorem bookThenBill_happens {startAt : Instant} {booked billed : Db}
    (done : bookThenBill startAt = .ok (booked, billed)) :
    Happens Billing.Sample.env everyone hallDb (.booked [(7, startAt)]) booked ∧
      Happens Billing.Sample.env everyone booked (.billed 5 window true) billed := by
  simp only [bookThenBill, bind_eq_ok, pure_eq_ok, Prod.mk.injEq, Prod.exists] at done
  obtain ⟨middle, book, final, result, bill, rfl, rfl⟩ := done
  have schedule := (BookingRequest.effect book).schedule
  have found : middle.condo? 5 = some ⟨5, Billing.Sample.settings⟩ :=
    congrArg (findBy Condo.id 5) schedule.condos
  have due : isDueToRun Billing.Sample.settings 0 = true := by decide +kernel
  have step := @Happens.billed Billing.Sample.env everyone _ _ _ _ _ _ _ _ found rfl rfl (fun _ => due) bill
  exact ⟨.booked book, step⟩

end Sample

theorem monthly_bill_kept_apart : ∃ booked billed, Kept [.booked [(7, 7200000)]] booked
    (.billed 5 Sample.window true) billed := by
  have ends : (Sample.bookThenBill 7200000).map (fun states =>
      (condoUnits states.1 5).all (paysRate states.1)) = .ok true := by
    decide +kernel
  obtain ⟨⟨booked, billed⟩, done, rates⟩ := map_eq_ok.mp ends
  obtain ⟨book, bill⟩ := Sample.bookThenBill_happens done
  have notHeld : NotHeldBack booked (.billed 5 Sample.window true) := fun unit inCondo only => by
    have rate := List.all_eq_true.mp rates unit inCondo
    rw [only.1] at rate
    cases rate
  have apart : Apart Sample.hallDb [.booked [(7, 7200000)], .billed 5 Sample.window true] := by
    intro slots charges slot listed condoId window dueToRun billed _ _ _
    simp only [List.mem_cons, Event.booked.injEq, Event.billed.injEq, reduceCtorEq, List.not_mem_nil, or_false,
      false_or] at charges billed
    obtain rfl := charges
    obtain ⟨_, rfl, _⟩ := billed
    obtain rfl := List.mem_singleton.mp listed
    have start : Sample.window.periodStart = 0 := by decide +kernel
    rw [start]
    decide
  exact ⟨booked, billed, monthly_bill_kept Sample.hallDb_fresh (.single ⟨trivial, book⟩) ⟨notHeld, bill⟩ apart⟩

theorem monthly_bill_displaced : ¬ ∀ (env : Env) (residency : Residency) (start before after : Db)
    (log : List Event) (event : Event), Fresh start → Run (Happens env residency) start log before →
    Happens env residency before event after → Kept log before event after := by
  intro kept
  have ends : (Sample.bookThenBill 0).map (fun states => (
      states.2.invoices.map (fun invoice => invoice.lines.map InvoiceLine.code),
      (condoUnits states.1 5).map fun unit =>
        (linesForUnit states.1 5 (monthlyDto Sample.window) unit).map ChargeLine.code)) =
      .ok ([["FACILITY"]], [["MAINT"]]) := by
    decide +kernel
  obtain ⟨⟨booked, billed⟩, done, figures⟩ := map_eq_ok.mp ends
  obtain ⟨book, bill⟩ := Sample.bookThenBill_happens done
  have monthly := kept _ _ _ _ _ _ _ Sample.hallDb_fresh (.single book) bill
  simp only [Prod.mk.injEq] at figures
  obtain ⟨issued, scheduled⟩ := figures
  have planned : ∃ unit ∈ condoUnits booked 5,
      (linesForUnit booked 5 (monthlyDto Sample.window) unit).map ChargeLine.code = ["MAINT"] :=
    List.mem_map.mp (scheduled ▸ List.mem_singleton.mpr rfl)
  obtain ⟨unit, inCondo, codes⟩ := planned
  obtain ⟨invoice, found, _, _, _, lines⟩ := monthly unit inCondo fun none => by simp [none] at codes
  have code : invoice.lines.map InvoiceLine.code = ["FACILITY"] :=
    List.mem_singleton.mp (issued ▸ List.mem_map_of_mem found)
  rw [lines, billedLines_codes, codes] at code
  simp at code

end SmartResidence.Facility
