import SmartResidence.Foundation.Runs
import SmartResidence.Facility.Bookings
import SmartResidence.Gateway.JsValue

/-!
# `facility.service.ts`
-/

namespace SmartResidence.Facility

open Foundation Billing

/-- `isManagement` of the facility service: staff do not manage facilities. -/
def managesFacilities (user : AuthenticatedUser) (condoId : Id) : Bool :=
  user.roles.any fun r => isSuperAdmin r || decide (r.roleId = .managementAdmin ∧ r.condoId = some condoId)

def assertManagesFacilities (user : AuthenticatedUser) (condoId : Id) : Result Unit :=
  throwIf (¬ managesFacilities user condoId) (.forbidden "Only management can manage facilities for this condo")

structure UpdateFacilityDto where
  name : Option String
  requiresApproval : Option Bool
  bookingFee : Option (Option ℚ)
  depositAmount : Option (Option ℚ)
  openMinute : Option Nat
  closeMinute : Option Nat
  slotMinutes : Option Nat
  maxConcurrent : Option Nat
  active : Option Bool

def UpdateFacilityDto.edited (dto : UpdateFacilityDto) (facility : Facility) : Facility :=
  { facility with
    name := (dto.name.map fun name => String.ofList (trim name.toList)).getD facility.name
    requiresApproval := dto.requiresApproval.getD facility.requiresApproval
    bookingFee := (dto.bookingFee.map (Option.map stored)).getD facility.bookingFee
    depositAmount := (dto.depositAmount.map (Option.map stored)).getD facility.depositAmount
    openMinute := dto.openMinute.getD facility.openMinute
    closeMinute := dto.closeMinute.getD facility.closeMinute
    slotMinutes := dto.slotMinutes.getD facility.slotMinutes
    maxConcurrent := dto.maxConcurrent.getD facility.maxConcurrent
    active := dto.active.getD facility.active }

def validateWindow (openMinute closeMinute : Nat) : Result Unit :=
  throwIf (closeMinute ≤ openMinute) (.badRequest "closeTime must be after openTime")

def updateFacility (db : Db) (actor : AuthenticatedUser) (id : Id) (dto : UpdateFacilityDto) : Result Db := do
  let facility ← orThrow (db.facility? id) (.notFound "Facility not found")
  assertManagesFacilities actor facility.condoId
  validateWindow (dto.openMinute.getD facility.openMinute) (dto.closeMinute.getD facility.closeMinute)
  return { db with facilities := updateBy Facility.id id dto.edited db.facilities }

structure CalendarDay where
  year : Nat
  month : Nat
  day : Nat

def parseDate (value : String) : Result CalendarDay :=
  match value.toList with
  | y :: y' :: y'' :: y''' :: '-' :: m :: m' :: '-' :: d :: d' :: _ =>
      if [y, y', y'', y''', m, m', d, d'].all Char.isDigit then
        .ok ⟨digitsValue [y, y', y'', y'''], digitsValue [m, m'], digitsValue [d, d']⟩
      else .error (.badRequest "date must be YYYY-MM-DD")
  | _ => .error (.badRequest "date must be YYYY-MM-DD")

structure Slot where
  startAt : Instant
  endAt : Instant
  booked : Nat
  remaining : Nat
  available : Bool

structure Availability where
  facilityId : Id
  date : String
  slotMinutes : Nat
  maxConcurrent : Nat
  slots : List Slot

def slotMs (facility : Facility) : Instant := facility.slotMinutes * 60000

def slotAt (facility : Facility) (bookings : List Booking) (now t : Instant) : Slot :=
  let slotEnd := t + slotMs facility
  let booked := bookings.countP fun b => decide (b.startAt < slotEnd ∧ t < b.endAt)
  let remaining := facility.maxConcurrent - booked
  { startAt := t
    endAt := slotEnd
    booked := booked
    remaining := remaining
    available := decide (0 < remaining ∧ now - slotMs facility ≤ t) }

def slotsFrom (facility : Facility) (bookings : List Booking) (now dayEnd t : Instant) : List Slot :=
  if _more : 0 < slotMs facility ∧ t + slotMs facility ≤ dayEnd + 1 then
    slotAt facility bookings now t :: slotsFrom facility bookings now dayEnd (t + slotMs facility)
  else []
termination_by (dayEnd + 1 - t).toNat
decreasing_by
  obtain ⟨positive, fits⟩ := _more
  exact (Int.toNat_lt_toNat (by linarith)).mpr (by linarith)

/-- `localTime` is the instant of a local time in minutes since midnight, in seconds. -/
def availability (localTime : CalendarDay → Nat → ℤ) (now : Instant) (db : Db) (actor : AuthenticatedUser)
    (id : Id) (date : String) : Result Availability := do
  let facility ← orThrow (db.facility? id) (.notFound "Facility not found")
  assertCondoAccess actor facility.condoId
  let day ← parseDate date
  let dayStart := 1000 * localTime day facility.openMinute
  let dayEnd := 1000 * localTime day facility.closeMinute
  let bookings := db.bookings.filter fun b => decide (b.facilityId = id ∧
    (b.status = .pending ∨ b.status = .confirmed) ∧ b.startAt < dayEnd ∧ dayStart < b.endAt)
  return {
    facilityId := id
    date := date
    slotMinutes := facility.slotMinutes
    maxConcurrent := facility.maxConcurrent
    slots := slotsFrom facility bookings now dayEnd dayStart }

/-!
## Concurrent calls of `booking.service.ts`

A call reads its booking and facility before its transaction. All four transactions write the booking, and so exclude
each other.
-/

inductive InFlight
  | creating (actor : AuthenticatedUser) (facility : Facility) (dto : CreateBookingDto)
  | approving (actor : AuthenticatedUser) (booking : Booking) (facility : Facility)
  | rejecting (booking : Booking)
  | cancelling (actor : AuthenticatedUser) (booking : Booking)

def BookingRequest.read (env : Env) (residency : Residency) (now : Instant) (db : Db) :
    BookingRequest → Result InFlight
  | .create actor dto => do
      let facility ← orThrow (db.facility? dto.facilityId) (.notFound "Facility not found")
      throwIf (¬ facility.active) (.badRequest "This facility is not accepting bookings")
      assertCondoAccess actor facility.condoId
      validateInterval env now facility dto.startAt dto.endAt
      assertForUnit residency actor facility.condoId dto.unitId
      return .creating actor facility dto
  | .approve actor id => do
      let booking ← orThrow (db.booking? id) (.notFound "Booking not found")
      assertManagement actor booking.condoId
      throwIf (booking.status ≠ .pending) (.badRequest "Only pending bookings can be approved")
      let facility ← orThrow (db.facility? booking.facilityId) (.failure "No Facility found")
      return .approving actor booking facility
  | .reject actor id => do
      let booking ← orThrow (db.booking? id) (.notFound "Booking not found")
      assertManagement actor booking.condoId
      throwIf (booking.status ≠ .pending) (.badRequest "Only pending bookings can be rejected")
      return .rejecting booking
  | .cancel actor id => do
      let booking ← orThrow (db.booking? id) (.notFound "Booking not found")
      throwIf (booking.userId ≠ actor.id ∧ ¬ isManagement actor booking.condoId)
        (.forbidden "You cannot cancel this booking")
      throwIf (booking.status = .cancelled ∨ booking.status = .rejected ∨ booking.status = .completed)
        (.badRequest "This booking can no longer be cancelled")
      return .cancelling actor booking

/-- `booking.update` of a row that has to be there. -/
def requireBooking (db : Db) (id : Id) : Result Booking :=
  orThrow (db.booking? id) (.failure "Record to update not found.")

def InFlight.commit (env : Env) (now : Instant) (db : Db) : InFlight → Result Db
  | .creating actor facility dto => do
      assertNoConflict db facility dto.startAt dto.endAt none
      let booking := dto.row facility actor db.nextId
      let created := { db with bookings := db.bookings ++ [booking], nextId := db.nextId + 1 }
      if facility.requiresApproval then return created
      settleMoney env now created booking facility actor
  | .approving actor booking facility => do
      assertNoConflict db facility booking.startAt booking.endAt (some booking.id)
      let row ← requireBooking db booking.id
      let updated := updateBooking db booking.id fun row => { row with status := .confirmed }
      settleMoney env now updated { row with status := .confirmed } facility actor
  | .rejecting booking => do
      let _ ← requireBooking db booking.id
      return updateBooking db booking.id fun row => { row with status := .rejected }
  | .cancelling actor booking => do
      let _ ← requireBooking db booking.id
      let cancelled := updateBooking db booking.id fun row => { row with status := .cancelled }
      let released ← releaseDeposit now cancelled actor booking.depositId
      voidFee now released actor booking.invoiceId

theorem orThrow_bind_some {α β : Type} {row : α} {failure : ApiError} {rest : α → Result β} :
    (orThrow (some row) failure >>= rest) = rest row := rfl

theorem run_read_commit (env : Env) (residency : Residency) (now : Instant) (db : Db) (request : BookingRequest) :
    request.run env residency now db = (request.read env residency now db >>= fun call => call.commit env now db) := by
  cases request with
  | create actor dto =>
    simp only [BookingRequest.run, create, BookingRequest.read, InFlight.commit, bind_assoc, pure_bind]
  | approve actor id =>
    simp only [BookingRequest.run, approve, BookingRequest.read, InFlight.commit, bind_assoc, pure_bind]
    cases found : db.booking? id with
    | none => rfl
    | some booking =>
      obtain rfl := (mem_of_findBy found).2
      simp only [requireBooking, found, orThrow_bind_some]
  | reject actor id =>
    simp only [BookingRequest.run, reject, BookingRequest.read, InFlight.commit, bind_assoc, pure_bind]
    cases found : db.booking? id with
    | none => rfl
    | some booking =>
      obtain rfl := (mem_of_findBy found).2
      simp only [requireBooking, found, orThrow_bind_some]
  | cancel actor id =>
    simp only [BookingRequest.run, cancel, BookingRequest.read, InFlight.commit, bind_assoc, pure_bind]
    cases found : db.booking? id with
    | none => rfl
    | some booking =>
      obtain rfl := (mem_of_findBy found).2
      simp only [requireBooking, found, orThrow_bind_some]

structure BookingState where
  db : Db
  calls : List InFlight

inductive BookingEvent
  | read (request : BookingRequest)
  | commit (now : Instant) (call : InFlight)
  | updateFacility (actor : AuthenticatedUser) (id : Id) (dto : UpdateFacilityDto)

inductive BookingStep (env : Env) (residency : Residency) : BookingState → BookingEvent → BookingState → Prop
  | read {db : Db} {calls : List InFlight} {now : Instant} {request : BookingRequest} {call : InFlight}
      (reads : request.read env residency now db = .ok call) :
      BookingStep env residency ⟨db, calls⟩ (.read request) ⟨db, calls ++ [call]⟩
  | commit {db after : Db} {front back : List InFlight} {now : Instant} {call : InFlight}
      (commits : call.commit env now db = .ok after) :
      BookingStep env residency ⟨db, front ++ call :: back⟩ (.commit now call) ⟨after, front ++ back⟩
  | abort {db : Db} {front back : List InFlight} {now : Instant} {call : InFlight} {failure : ApiError}
      (aborts : call.commit env now db = .error failure) :
      BookingStep env residency ⟨db, front ++ call :: back⟩ (.commit now call) ⟨db, front ++ back⟩
  | updateFacility {db after : Db} {calls : List InFlight} {actor : AuthenticatedUser} {id : Id}
      {dto : UpdateFacilityDto} (updates : Facility.updateFacility db actor id dto = .ok after) :
      BookingStep env residency ⟨db, calls⟩ (.updateFacility actor id dto) ⟨after, calls⟩

end SmartResidence.Facility
