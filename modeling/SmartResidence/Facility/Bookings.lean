import SmartResidence.Billing.Deposits
import SmartResidence.Billing.Invoices

/-!
# `booking.service.ts`
-/

namespace SmartResidence.Facility

open Foundation Billing

structure Residency where
  isResident : Id → Id → Bool
  mayBook : AuthenticatedUser → Id → Bool

def isManagement (user : AuthenticatedUser) (condoId : Id) : Bool :=
  user.roles.any fun r => isSuperAdmin r ||
    decide ((r.roleId = .managementAdmin ∨ r.roleId = .managementStaff) ∧ r.condoId = some condoId)

def assertManagement (user : AuthenticatedUser) (condoId : Id) : Result Unit :=
  throwIf (¬ isManagement user condoId) (.forbidden "Management access required for this condo")

def assertCondoAccess (user : AuthenticatedUser) (condoId : Id) : Result Unit :=
  throwIf (¬ user.roles.any fun r => isSuperAdmin r || decide (r.condoId = some condoId))
    (.forbidden "No access to this condo")

def assertActsForUnit (residency : Residency) (actor : AuthenticatedUser) (unitId condoId : Id) :
    Result Unit :=
  throwIf (¬ (isManagement actor condoId || actor.roles.any (fun r => decide (r.unitId = some unitId)) ||
      residency.isResident actor.id unitId))
    (.forbidden "You are not a resident of the selected unit")

def assertUnitNotAccessRestricted (residency : Residency) (actor : AuthenticatedUser) (unitId : Id) :
    Result Unit :=
  throwIf (¬ residency.mayBook actor unitId) (.forbidden ("This unit cannot use this service while " ++
    "maintenance charges are unpaid. Please settle outstanding invoices or contact management."))

def twoDigits (n : Nat) : String := if n < 10 then "0" ++ toString n else toString n

def hhmm (minute : Nat) : String := twoDigits (minute / 60) ++ ":" ++ twoDigits (minute % 60)

def validateInterval (env : Env) (now : Instant) (facility : Facility) (start stop : Instant) :
    Result Unit := do
  throwIf (stop ≤ start) (.badRequest "End time must be after start time")
  throwIf (start < now - 60000) (.badRequest "Cannot book a slot in the past")
  throwIf (stop - start < facility.slotMinutes * 60000)
    (.badRequest ("Minimum booking length is " ++ toString facility.slotMinutes ++ " minutes"))
  throwIf (env.localMinute start < facility.openMinute ∨ facility.closeMinute < env.localMinute stop)
    (.badRequest ("Bookings must fall within " ++ hhmm facility.openMinute ++ "–" ++
      hhmm facility.closeMinute))

def overlaps (facility : Facility) (start stop : Instant) (ignoreBookingId : Option Id) (booking : Booking) :
    Bool :=
  decide (booking.facilityId = facility.id ∧ (booking.status = .pending ∨ booking.status = .confirmed) ∧
    booking.startAt < stop ∧ start < booking.endAt ∧ some booking.id ≠ ignoreBookingId)

def assertNoConflict (db : Db) (facility : Facility) (start stop : Instant) (ignoreBookingId : Option Id) :
    Result Unit :=
  throwIf (facility.maxConcurrent ≤ db.bookings.countP (overlaps facility start stop ignoreBookingId))
    (.conflict "That time slot is already fully booked. Please pick another slot.")

def updateBooking (db : Db) (id : Id) (change : Booking → Booking) : Db :=
  { db with bookings := updateBy Booking.id id change db.bookings }

def bookingFee (facility : Facility) : ℤ := facility.bookingFee.getD 0
def bookingDeposit (facility : Facility) : ℤ := facility.depositAmount.getD 0

def feeLine (env : Env) (facility : Facility) (startAt : Instant) (positive : 0 < bookingFee facility) :
    InvoiceLineDto where
  code := "FACILITY"
  description := facility.name ++ " booking — " ++ env.localeString startAt
  unitPrice := bookingFee facility
  quantity := none
  unitPrice_nonneg := by exact_mod_cast positive.le
  quantity_nonneg := by simp

def feeInvoice (env : Env) (facility : Facility) (booking : Booking) (unitId : Id)
    (actor : AuthenticatedUser) (positive : 0 < bookingFee facility) : CreateInvoiceInTxOpts where
  condoId := facility.condoId
  unitId := unitId
  dueDate := booking.startAt
  periodStart := some booking.startAt
  periodEnd := some booking.endAt
  lines := [feeLine env facility booking.startAt positive]
  actorUserId := some actor.id

def chargeFee (env : Env) (now : Instant) (db : Db) (booking : Booking) (facility : Facility) (unitId : Id)
    (actor : AuthenticatedUser) : Result Db :=
  if positive : 0 < bookingFee facility then do
    let (invoiced, invoice) ← createInvoiceInTx now db (feeInvoice env facility booking unitId actor positive)
    return updateBooking invoiced booking.id fun row =>
      { row with invoiceId := some invoice.id, fee := bookingFee facility }
  else return db

def holdDeposit (now : Instant) (db : Db) (booking : Booking) (facility : Facility) (unitId : Id)
    (actor : AuthenticatedUser) : Result Db :=
  if 0 < bookingDeposit facility then do
    let held ← depositRecordInTx now db {
      condoId := facility.condoId
      unitId := unitId
      userId := some booking.userId
      amount := bookingDeposit facility
      paidAt := none
      recordedByUserId := some actor.id }
    return updateBooking held booking.id fun row =>
      { row with depositId := some db.nextId, depositHeld := bookingDeposit facility }
  else return db

def settleMoney (env : Env) (now : Instant) (db : Db) (booking : Booking) (facility : Facility)
    (actor : AuthenticatedUser) : Result Db := do
  if bookingFee facility ≤ 0 ∧ bookingDeposit facility ≤ 0 then return db
  let unitId ← orThrow booking.unitId (.badRequest
    "This facility requires a fee/deposit — please book on behalf of your unit.")
  let charged ← chargeFee env now db booking facility unitId actor
  holdDeposit now charged booking facility unitId actor

structure CreateBookingDto where
  facilityId : Id
  unitId : Option Id
  startAt : Instant
  endAt : Instant

def CreateBookingDto.row (dto : CreateBookingDto) (facility : Facility) (actor : AuthenticatedUser) (id : Id) :
    Booking where
  id := id
  facilityId := facility.id
  condoId := facility.condoId
  unitId := dto.unitId
  userId := actor.id
  startAt := dto.startAt
  endAt := dto.endAt
  status := if facility.requiresApproval then .pending else .confirmed
  fee := 0
  depositHeld := 0
  invoiceId := none
  depositId := none

def assertForUnit (residency : Residency) (actor : AuthenticatedUser) (condoId : Id) : Option Id → Result Unit
  | none => return ()
  | some unitId => do
      assertActsForUnit residency actor unitId condoId
      assertUnitNotAccessRestricted residency actor unitId

def create (env : Env) (residency : Residency) (now : Instant) (db : Db) (actor : AuthenticatedUser)
    (dto : CreateBookingDto) : Result Db := do
  let facility ← orThrow (db.facility? dto.facilityId) (.notFound "Facility not found")
  throwIf (¬ facility.active) (.badRequest "This facility is not accepting bookings")
  assertCondoAccess actor facility.condoId
  validateInterval env now facility dto.startAt dto.endAt
  assertForUnit residency actor facility.condoId dto.unitId
  assertNoConflict db facility dto.startAt dto.endAt none
  let booking := dto.row facility actor db.nextId
  let created := { db with bookings := db.bookings ++ [booking], nextId := db.nextId + 1 }
  if facility.requiresApproval then return created
  settleMoney env now created booking facility actor

def approve (env : Env) (now : Instant) (db : Db) (actor : AuthenticatedUser) (id : Id) : Result Db := do
  let booking ← orThrow (db.booking? id) (.notFound "Booking not found")
  assertManagement actor booking.condoId
  throwIf (booking.status ≠ .pending) (.badRequest "Only pending bookings can be approved")
  let facility ← orThrow (db.facility? booking.facilityId) (.failure "No Facility found")
  assertNoConflict db facility booking.startAt booking.endAt (some booking.id)
  let updated := updateBooking db id fun row => { row with status := .confirmed }
  settleMoney env now updated { booking with status := .confirmed } facility actor

def reject (db : Db) (actor : AuthenticatedUser) (id : Id) : Result Db := do
  let booking ← orThrow (db.booking? id) (.notFound "Booking not found")
  assertManagement actor booking.condoId
  throwIf (booking.status ≠ .pending) (.badRequest "Only pending bookings can be rejected")
  return updateBooking db id fun row => { row with status := .rejected }

def releaseDeposit (now : Instant) (db : Db) (actor : AuthenticatedUser) : Option Id → Result Db
  | none => return db
  | some depositId => return (← refundHeldInTx now db depositId (some actor.id)).1

def voidFee (now : Instant) (db : Db) (actor : AuthenticatedUser) : Option Id → Result Db
  | none => return db
  | some invoiceId => return (← voidUnpaidInvoiceInTx now db invoiceId (some actor.id)).1

def cancel (now : Instant) (db : Db) (actor : AuthenticatedUser) (id : Id) : Result Db := do
  let booking ← orThrow (db.booking? id) (.notFound "Booking not found")
  throwIf (booking.userId ≠ actor.id ∧ ¬ isManagement actor booking.condoId)
    (.forbidden "You cannot cancel this booking")
  throwIf (booking.status = .cancelled ∨ booking.status = .rejected ∨ booking.status = .completed)
    (.badRequest "This booking can no longer be cancelled")
  let cancelled := updateBooking db id fun row => { row with status := .cancelled }
  let released ← releaseDeposit now cancelled actor booking.depositId
  voidFee now released actor booking.invoiceId

inductive BookingRequest
  | create (actor : AuthenticatedUser) (dto : CreateBookingDto)
  | approve (actor : AuthenticatedUser) (id : Id)
  | reject (actor : AuthenticatedUser) (id : Id)
  | cancel (actor : AuthenticatedUser) (id : Id)

def BookingRequest.run (env : Env) (residency : Residency) (now : Instant) (db : Db) :
    BookingRequest → Result Db
  | .create actor dto => Facility.create env residency now db actor dto
  | .approve actor id => Facility.approve env now db actor id
  | .reject actor id => Facility.reject db actor id
  | .cancel actor id => Facility.cancel now db actor id

end SmartResidence.Facility
