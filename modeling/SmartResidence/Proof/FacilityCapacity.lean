import SmartResidence.Facility.BookingCalls
import SmartResidence.Proof.MonthlyBills

/-!
# The capacity of a facility
-/

namespace SmartResidence.Facility

open Foundation Billing List

variable {env : Env} {residency : Residency} {db middle after : Db} {now : Instant}

def isOpen (booking : Booking) : Prop := booking.status = .pending ∨ booking.status = .confirmed

instance (booking : Booking) : Decidable (isOpen booking) := inferInstanceAs (Decidable (_ ∨ _))

def present (facilityId : Id) (t : Instant) (booking : Booking) : Bool :=
  decide (booking.facilityId = facilityId ∧ isOpen booking ∧ booking.startAt ≤ t ∧ t < booking.endAt)

def load (db : Db) (facilityId : Id) (t : Instant) : Nat := db.bookings.countP (present facilityId t)

def WithinCapacity (db : Db) : Prop :=
  ∀ facility ∈ db.facilities, ∀ t, load db facility.id t ≤ facility.maxConcurrent

def KeepsCapacity (state : BookingState) : BookingEvent → Prop
  | .updateFacility _ id dto => ∀ facility ∈ state.db.facility? id, ∀ maximum ∈ dto.maxConcurrent,
      facility.maxConcurrent ≤ maximum
  | _ => True

section

variable {Row Key : Type*} [DecidableEq Key] {key : Row → Key} {rows : List Row} {wanted : Key} {change : Row → Row}

theorem countP_updateBy (pick : Row → Bool) : (updateBy key wanted change rows).countP pick =
    rows.countP fun row => pick (if key row = wanted then change row else row) := by
  unfold updateBy updateWhere
  rw [countP_map]
  refine countP_congr fun row _ => ?_
  simp

theorem countP_updateBy_le (nodup : (rows.map key).Nodup) (pick : Row → Bool) :
    (updateBy key wanted change rows).countP pick ≤
      (rows.countP fun row => pick row && !decide (key row = wanted)) + 1 := by
  rw [countP_updateBy]
  have one : rows.countP (fun row => decide (key row = wanted)) ≤ 1 := by
    have counted := nodup_iff_count_le_one.mp nodup wanted
    rw [List.count, countP_map] at counted
    refine le_trans (le_of_eq (countP_congr fun row _ => ?_)) counted
    simp
  refine le_trans ?_ (Nat.add_le_add_left one _)
  clear one nodup
  induction rows with
  | nil => exact le_rfl
  | cons row rest ih =>
    simp only [countP_cons]
    by_cases same : key row = wanted
    · simp only [same, if_true, decide_true]
      split <;> omega
    · simp only [same, if_false, decide_false, Bool.not_false, Bool.and_true]
      omega

end

/-! ## Settling leaves the calendar -/

structure CalendarEntry where
  id : Id
  facilityId : Id
  status : BookingStatus
  startAt : Instant
  endAt : Instant

def calendarOf (booking : Booking) : CalendarEntry :=
  ⟨booking.id, booking.facilityId, booking.status, booking.startAt, booking.endAt⟩

structure SameCalendar (old new : Db) : Prop where
  facilities : new.facilities = old.facilities
  bookings : new.bookings.map calendarOf = old.bookings.map calendarOf
  grows : old.nextId ≤ new.nextId

namespace SameCalendar

theorem rfl : SameCalendar db db := ⟨Eq.refl _, Eq.refl _, le_rfl⟩

theorem trans (first : SameCalendar db middle) (second : SameCalendar middle after) : SameCalendar db after where
  facilities := second.facilities.trans first.facilities
  bookings := second.bookings.trans first.bookings
  grows := first.grows.trans second.grows

theorem of_commit {change : Change} (commit : Commit db change after) : SameCalendar db after := by
  have grows := commit.nextId_le
  cases commit <;> exact ⟨Eq.refl _, Eq.refl _, grows⟩

theorem updateBooking {id : Id} {change : Booking → Booking} (kept : ∀ row, calendarOf (change row) = calendarOf row) :
    SameCalendar db (updateBooking db id change) where
  facilities := Eq.refl _
  bookings := map_updateWhere _ fun row _ _ => kept row
  grows := le_rfl

theorem load_eq (same : SameCalendar db after) (facilityId : Id) (t : Instant) :
    load after facilityId t = load db facilityId t := by
  have counted : ∀ rows : List Booking, rows.countP (present facilityId t) =
      (rows.map calendarOf).countP fun entry => decide (entry.facilityId = facilityId ∧
        (entry.status = .pending ∨ entry.status = .confirmed) ∧ entry.startAt ≤ t ∧ t < entry.endAt) := by
    intro rows
    rw [countP_map]
    exact Eq.refl _
  unfold load
  rw [counted, counted, same.bookings]

theorem bookingIds (same : SameCalendar db after) (ids : Allocated (db.bookings.map Booking.id) db.nextId) :
    Allocated (after.bookings.map Booking.id) after.nextId := by
  have named : ∀ rows : List Booking, rows.map Booking.id = (rows.map calendarOf).map CalendarEntry.id := by
    intro rows
    rw [map_map]
    exact Eq.refl _
  rw [named, same.bookings, ← named]
  exact ids.mono same.grows

theorem booking_stays (same : SameCalendar db after) {booking : Booking} (found : booking ∈ db.bookings) :
    ∃ row ∈ after.bookings, calendarOf row = calendarOf booking := by
  have mem : calendarOf booking ∈ after.bookings.map calendarOf := by
    rw [same.bookings]
    exact mem_map_of_mem found
  obtain ⟨row, listed, equal⟩ := mem_map.mp mem
  exact ⟨row, listed, equal⟩

theorem booking_origin (same : SameCalendar db after) {booking : Booking} (found : booking ∈ after.bookings) :
    ∃ row ∈ db.bookings, calendarOf row = calendarOf booking := by
  have mem : calendarOf booking ∈ db.bookings.map calendarOf := by
    rw [← same.bookings]
    exact mem_map_of_mem found
  obtain ⟨row, listed, equal⟩ := mem_map.mp mem
  exact ⟨row, listed, equal⟩

end SameCalendar

section

variable {booking : Booking} {facility : Facility} {unitId : Id} {actor : AuthenticatedUser}

theorem chargeFee_calendar (done : chargeFee env now db booking facility unitId actor = .ok after) :
    SameCalendar db after := by
  unfold chargeFee at done
  split at done
  · simp only [bind_eq_ok, pure_eq_ok, Prod.exists] at done
    obtain ⟨invoiced, invoice, create, rfl⟩ := done
    obtain ⟨commit, -⟩ := issueInvoice_commit create
    exact (SameCalendar.of_commit commit).trans (.updateBooking fun _ => rfl)
  · cases done
    exact .rfl

theorem holdDeposit_calendar (done : holdDeposit now db booking facility unitId actor = .ok after) :
    SameCalendar db after := by
  unfold holdDeposit at done
  split at done
  · simp only [bind_eq_ok, pure_eq_ok] at done
    obtain ⟨held, record, rfl⟩ := done
    exact (SameCalendar.of_commit (depositRecordInTx_commit record)).trans (.updateBooking fun _ => rfl)
  · cases done
    exact .rfl

theorem settleMoney_calendar (done : settleMoney env now db booking facility actor = .ok after) :
    SameCalendar db after := by
  simp only [settleMoney] at done
  split at done
  · cases done
    exact .rfl
  · simp only [bind_eq_ok] at done
    obtain ⟨unitId, isUnit, charged, charge, hold⟩ := done
    exact (chargeFee_calendar charge).trans (holdDeposit_calendar hold)

theorem releaseDeposit_calendar {depositId : Option Id} (done : releaseDeposit now db actor depositId = .ok after) :
    SameCalendar db after := by
  cases depositId with
  | none =>
    cases done
    exact .rfl
  | some depositId =>
    simp only [releaseDeposit, bind_eq_ok, pure_eq_ok, Prod.exists] at done
    obtain ⟨_, _, refund, rfl⟩ := done
    rcases refundHeldInTx_commit refund with ⟨rfl, -⟩ | ⟨_, -, commit⟩
    · exact .rfl
    · exact .of_commit commit

theorem voidFee_calendar {invoiceId : Option Id} (done : voidFee now db actor invoiceId = .ok after) :
    SameCalendar db after := by
  cases invoiceId with
  | none =>
    cases done
    exact .rfl
  | some invoiceId =>
    simp only [voidFee, bind_eq_ok, pure_eq_ok, Prod.exists] at done
    obtain ⟨_, _, void, rfl⟩ := done
    rcases voidUnpaidInvoiceInTx_commit void with rfl | ⟨_, -, -, commit⟩
    · exact .rfl
    · exact .of_commit commit

end

def InFlight.Current (db : Db) : InFlight → Prop
  | .creating _ facility _ => ∃ row ∈ db.facilities, row.id = facility.id ∧ facility.maxConcurrent ≤ row.maxConcurrent
  | .approving _ booking facility =>
      (∃ row ∈ db.facilities, row.id = facility.id ∧ facility.maxConcurrent ≤ row.maxConcurrent) ∧
      facility.id = booking.facilityId ∧
      ∃ row ∈ db.bookings, row.id = booking.id ∧ row.facilityId = booking.facilityId ∧ row.startAt = booking.startAt ∧
        row.endAt = booking.endAt
  | .rejecting _ | .cancelling .. => True

structure CapacityState (state : BookingState) : Prop where
  facilityIds : (state.db.facilities.map Facility.id).Nodup
  bookingIds : Allocated (state.db.bookings.map Booking.id) state.db.nextId
  within : WithinCapacity state.db
  current : ∀ call ∈ state.calls, call.Current state.db

structure Succeeds (db after : Db) : Prop where
  facilities : ∀ facility ∈ db.facilities, ∃ row ∈ after.facilities,
    row.id = facility.id ∧ facility.maxConcurrent ≤ row.maxConcurrent
  bookings : ∀ booking ∈ db.bookings, ∃ row ∈ after.bookings, row.id = booking.id ∧
    row.facilityId = booking.facilityId ∧ row.startAt = booking.startAt ∧ row.endAt = booking.endAt

theorem SameCalendar.succeeds (same : SameCalendar db after) : Succeeds db after where
  facilities facility found := ⟨facility, by rw [same.facilities]; exact found, Eq.refl _, le_rfl⟩
  bookings booking found := by
    obtain ⟨row, mem, equal⟩ := same.booking_stays found
    simp only [calendarOf, CalendarEntry.mk.injEq] at equal
    exact ⟨row, mem, equal.1, equal.2.1, equal.2.2.2.1, equal.2.2.2.2⟩

theorem Succeeds.trans (first : Succeeds db middle) (second : Succeeds middle after) : Succeeds db after where
  facilities facility found := by
    obtain ⟨row, listed, same, grown⟩ := first.facilities facility found
    obtain ⟨last, mem, again, later⟩ := second.facilities row listed
    exact ⟨last, mem, again.trans same, grown.trans later⟩
  bookings booking found := by
    obtain ⟨row, listed, id, facilityId, startAt, endAt⟩ := first.bookings booking found
    obtain ⟨last, mem, id', facilityId', startAt', endAt'⟩ := second.bookings row listed
    exact ⟨last, mem, id'.trans id, facilityId'.trans facilityId, startAt'.trans startAt, endAt'.trans endAt⟩

theorem Succeeds.updateBooking {id : Id} {status : BookingStatus} :
    Succeeds db (updateBooking db id fun row => { row with status := status }) where
  facilities facility found := ⟨facility, found, rfl, le_rfl⟩
  bookings booking found := by
    refine ⟨_, mem_updateBy.mpr ⟨booking, found, rfl⟩, ?_⟩
    split <;> exact ⟨rfl, rfl, rfl, rfl⟩

variable {call : InFlight}

theorem InFlight.Current.mono (current : call.Current db) (succeeds : Succeeds db after) : call.Current after := by
  cases call with
  | creating actor facility dto =>
    obtain ⟨row, found, same, tight⟩ := current
    obtain ⟨later, listed, again, grown⟩ := succeeds.facilities row found
    exact ⟨later, listed, again.trans same, tight.trans grown⟩
  | approving actor booking facility =>
    obtain ⟨⟨row, found, same, tight⟩, own, place, isPlace, id, facilityId, startAt, endAt⟩ := current
    obtain ⟨later, listed, again, grown⟩ := succeeds.facilities row found
    obtain ⟨last, mem, id', facilityId', startAt', endAt'⟩ := succeeds.bookings place isPlace
    exact ⟨⟨later, listed, again.trans same, tight.trans grown⟩, own, last, mem, id'.trans id,
      facilityId'.trans facilityId, startAt'.trans startAt, endAt'.trans endAt⟩
  | rejecting booking => trivial
  | cancelling actor booking => trivial

theorem read_current {request : BookingRequest} (reads : request.read env residency now db = .ok call) :
    call.Current db := by
  cases request with
  | create actor dto =>
    simp only [BookingRequest.read, bind_eq_ok, orThrow_eq_ok, pure_eq_ok] at reads
    obtain ⟨facility, found, _, _, _, _, _, _, _, _, rfl⟩ := reads
    exact ⟨facility, (mem_of_findBy found).1, rfl, le_rfl⟩
  | approve actor id =>
    simp only [BookingRequest.read, bind_eq_ok, orThrow_eq_ok, pure_eq_ok] at reads
    obtain ⟨booking, found, _, _, _, _, facility, isFacility, rfl⟩ := reads
    obtain ⟨mem, own⟩ := mem_of_findBy isFacility
    exact ⟨⟨facility, mem, rfl, le_rfl⟩, own, booking, (mem_of_findBy found).1, rfl, rfl, rfl, rfl⟩
  | reject actor id =>
    simp only [BookingRequest.read, bind_eq_ok, pure_eq_ok] at reads
    obtain ⟨booking, _, _, _, _, _, rfl⟩ := reads
    trivial
  | cancel actor id =>
    simp only [BookingRequest.read, bind_eq_ok, pure_eq_ok] at reads
    obtain ⟨booking, _, _, _, _, _, rfl⟩ := reads
    trivial

theorem overlaps_of_present {facility : Facility} {start stop t : Instant} {ignored : Option Id} {booking : Booking}
    (here : present facility.id t booking = true) (other : some booking.id ≠ ignored) (after : start ≤ t)
    (before : t < stop) : overlaps facility start stop ignored booking = true := by
  obtain ⟨own, isOpen, begun, runs⟩ := of_decide_eq_true here
  exact decide_eq_true ⟨own, isOpen, lt_of_le_of_lt begun before, lt_of_le_of_lt after runs, other⟩

theorem load_insert (booking : Booking) (nextId facilityId : Id) (t : Instant) :
    load { db with bookings := db.bookings ++ [booking], nextId := nextId } facilityId t =
      load db facilityId t + if present facilityId t booking then 1 else 0 := by
  unfold load
  rw [countP_append, countP_singleton]

section

variable {facility : Facility}

variable {row : Facility}

theorem load_created {dto : CreateBookingDto} {actor : AuthenticatedUser} (within : WithinCapacity db)
    (found : row ∈ db.facilities) (tight : row.id = facility.id → facility.maxConcurrent ≤ row.maxConcurrent)
    (free : assertNoConflict db facility dto.startAt dto.endAt none = .ok ()) (t : Instant) :
    load { db with bookings := db.bookings ++ [dto.row facility actor db.nextId], nextId := db.nextId + 1 } row.id t ≤
      row.maxConcurrent := by
  rw [load_insert]
  split
  · rename_i here
    obtain ⟨own, _, after, before⟩ := of_decide_eq_true here
    have overlapping : load db row.id t ≤ db.bookings.countP (overlaps facility dto.startAt dto.endAt none) := by
      refine countP_mono_left fun booking _ also => ?_
      rw [← show facility.id = row.id from own] at also
      exact overlaps_of_present also (by simp) after before
    have few := throwIf_eq_ok.mp free
    have fits := tight own.symm
    omega
  · exact within row found t

theorem load_approved {booking : Booking} (ids : (db.bookings.map Booking.id).Nodup) (within : WithinCapacity db)
    (found : row ∈ db.facilities) (tight : row.id = facility.id → facility.maxConcurrent ≤ row.maxConcurrent)
    (own : facility.id = booking.facilityId)
    (place : ∃ place ∈ db.bookings, place.id = booking.id ∧ place.facilityId = booking.facilityId ∧
      place.startAt = booking.startAt ∧ place.endAt = booking.endAt)
    (free : assertNoConflict db facility booking.startAt booking.endAt (some booking.id) = .ok ()) (t : Instant) :
    load (updateBooking db booking.id fun row => { row with status := .confirmed }) row.id t ≤ row.maxConcurrent := by
  obtain ⟨place, isPlace, isId, ofFacility, startAt, endAt⟩ := place
  have few := throwIf_eq_ok.mp free
  by_cases here : booking.facilityId = row.id ∧ booking.startAt ≤ t ∧ t < booking.endAt
  · obtain ⟨ofRow, after, before⟩ := here
    have others : (db.bookings.countP fun other => present row.id t other && !decide (other.id = booking.id)) ≤
        db.bookings.countP (overlaps facility booking.startAt booking.endAt (some booking.id)) := by
      refine countP_mono_left fun other _ also => ?_
      rw [Bool.and_eq_true, ← ofRow, ← own] at also
      exact overlaps_of_present also.1 (by simpa using also.2) after before
    have added : load (updateBooking db booking.id fun row => { row with status := .confirmed }) row.id t ≤
        (db.bookings.countP fun other => present row.id t other && !decide (other.id = booking.id)) + 1 :=
      countP_updateBy_le ids _
    have fits := tight (ofRow.symm.trans own.symm)
    omega
  · refine le_trans ?_ (within row found t)
    unfold load updateBooking
    rw [countP_updateBy]
    refine countP_mono_left fun other mem also => ?_
    split at also
    · rename_i same
      obtain rfl := eq_of_key_eq ids mem isPlace (same.trans isId.symm)
      obtain ⟨ofRow, _, after, before⟩ := of_decide_eq_true also
      exact absurd ⟨ofFacility.symm.trans ofRow, startAt ▸ after, endAt ▸ before⟩ here
    · exact also

theorem load_closed {status : BookingStatus} (closed : status ≠ .pending ∧ status ≠ .confirmed) (id facilityId : Id)
    (t : Instant) : load (updateBooking db id fun row => { row with status := status }) facilityId t ≤
      load db facilityId t := by
  unfold load updateBooking
  rw [countP_updateBy]
  refine countP_mono_left fun other mem also => ?_
  split at also
  · obtain ⟨_, isOpen, _⟩ := of_decide_eq_true also
    exact absurd isOpen (by simp [Facility.isOpen, closed])
  · exact also

end

/-! ## Steps -/

structure Accepts (db after : Db) : Prop where
  facilities : after.facilities = db.facilities
  bookingIds : Allocated (after.bookings.map Booking.id) after.nextId
  within : WithinCapacity after
  succeeds : Succeeds db after

theorem Accepts.settle (accepts : Accepts db middle) (same : SameCalendar middle after) : Accepts db after where
  facilities := same.facilities.trans accepts.facilities
  bookingIds := same.bookingIds accepts.bookingIds
  within facility found t := by
    rw [same.load_eq]
    exact accepts.within facility (same.facilities ▸ found) t
  succeeds := accepts.succeeds.trans same.succeeds

section

variable {calls : List InFlight} (state : CapacityState ⟨db, calls⟩)
include state

theorem CapacityState.tight {facility row : Facility} (found : row ∈ db.facilities)
    (current : ∃ place ∈ db.facilities, place.id = facility.id ∧ facility.maxConcurrent ≤ place.maxConcurrent)
    (same : row.id = facility.id) : facility.maxConcurrent ≤ row.maxConcurrent := by
  obtain ⟨place, mem, isPlace, fits⟩ := current
  obtain rfl := eq_of_key_eq state.facilityIds mem found (isPlace.trans same.symm)
  exact fits

theorem CapacityState.created {facility : Facility} {dto : CreateBookingDto} (actor : AuthenticatedUser)
    (current : ∃ row ∈ db.facilities, row.id = facility.id ∧ facility.maxConcurrent ≤ row.maxConcurrent)
    (free : assertNoConflict db facility dto.startAt dto.endAt none = .ok ()) :
    Accepts db { db with bookings := db.bookings ++ [dto.row facility actor db.nextId], nextId := db.nextId + 1 } where
  facilities := rfl
  bookingIds := state.bookingIds.insert rfl (Nat.lt_succ_self _)
  within _ found t := load_created state.within found (state.tight found current) free t
  succeeds := {
    facilities := fun facility found => ⟨facility, found, rfl, le_rfl⟩
    bookings := fun booking found => ⟨booking, mem_append_left _ found, rfl, rfl, rfl, rfl⟩ }

variable {status : BookingStatus}

theorem CapacityState.statusChanged {id : Id} (fits : ∀ row ∈ db.facilities, ∀ t,
      load (updateBooking db id fun row => { row with status := status }) row.id t ≤ row.maxConcurrent) :
    Accepts db (updateBooking db id fun row => { row with status := status }) where
  facilities := rfl
  bookingIds := state.bookingIds.updateBy le_rfl fun _ => rfl
  within := fits
  succeeds := .updateBooking

theorem CapacityState.closed {id : Id} (closed : status ≠ .pending ∧ status ≠ .confirmed) :
    Accepts db (updateBooking db id fun row => { row with status := status }) :=
  state.statusChanged fun row found t => (load_closed closed id row.id t).trans (state.within row found t)

theorem CapacityState.commit {call : InFlight} (current : call.Current db)
    (commits : call.commit env now db = .ok after) : Accepts db after := by
  cases call with
  | creating actor facility dto =>
    simp only [InFlight.commit, bind_eq_ok] at commits
    obtain ⟨_, free, commits⟩ := commits
    have created := state.created actor current free
    split at commits
    · cases commits
      exact created
    · exact created.settle (settleMoney_calendar commits)
  | approving actor booking facility =>
    simp only [InFlight.commit, bind_eq_ok] at commits
    obtain ⟨_, free, row, _, settled⟩ := commits
    obtain ⟨capacity, own, place⟩ := current
    have fits := fun (row : Facility) (found : row ∈ db.facilities) t =>
      load_approved state.bookingIds.distinct state.within found (state.tight found capacity) own place free t
    exact (state.statusChanged fits).settle (settleMoney_calendar settled)
  | rejecting booking =>
    simp only [InFlight.commit, bind_eq_ok, pure_eq_ok] at commits
    obtain ⟨_, _, rfl⟩ := commits
    exact state.closed (by decide)
  | cancelling actor booking =>
    simp only [InFlight.commit, bind_eq_ok] at commits
    obtain ⟨_, _, released, release, void⟩ := commits
    exact (state.closed (by decide)).settle ((releaseDeposit_calendar release).trans (voidFee_calendar void))

end

theorem updateFacility_succeeds {actor : AuthenticatedUser} {id : Id} {dto : UpdateFacilityDto}
    (ids : (db.facilities.map Facility.id).Nodup)
    (keeps : ∀ facility ∈ db.facility? id, ∀ maximum ∈ dto.maxConcurrent, facility.maxConcurrent ≤ maximum)
    (updates : updateFacility db actor id dto = .ok after) : after.bookings = db.bookings ∧ after.nextId = db.nextId ∧
      (after.facilities.map Facility.id).Nodup ∧ Succeeds db after ∧
      ∀ row ∈ after.facilities, ∃ facility ∈ db.facilities, facility.id = row.id ∧
        facility.maxConcurrent ≤ row.maxConcurrent := by
  simp only [updateFacility, bind_eq_ok, pure_eq_ok] at updates
  obtain ⟨edited, found, _, _, _, _, rfl⟩ := updates
  have grown : ∀ facility ∈ db.facilities, ∀ row, row = (if facility.id = id then dto.edited facility else facility) →
      row.id = facility.id ∧ facility.maxConcurrent ≤ row.maxConcurrent := by
    intro facility listed row rfl
    split
    · rename_i same
      have here : db.facility? id = some facility := same ▸ findBy_of_mem ids listed
      cases asked : dto.maxConcurrent with
      | none => simp [UpdateFacilityDto.edited, asked]
      | some maximum => simpa [UpdateFacilityDto.edited, asked] using keeps facility here maximum asked
    · exact ⟨rfl, le_rfl⟩
  refine ⟨rfl, rfl, ?_, ⟨fun facility listed => ?_, fun booking listed => ⟨booking, listed, rfl, rfl, rfl, rfl⟩⟩, ?_⟩
  · have kept : ∀ row, Facility.id (dto.edited row) = row.id := fun _ => rfl
    rw [map_key_updateBy kept]
    exact ids
  · exact ⟨_, mem_updateBy.mpr ⟨facility, listed, rfl⟩, grown facility listed _ rfl⟩
  · intro row listed
    obtain ⟨facility, mem, same⟩ := mem_updateBy.mp listed
    obtain ⟨id, fits⟩ := grown facility mem row same
    exact ⟨facility, mem, id.symm, fits⟩

theorem mem_others {front back : List InFlight} {other : InFlight} (mem : other ∈ front ++ back) :
    other ∈ front ++ call :: back := by
  rw [mem_append] at mem ⊢
  exact mem.imp_right (mem_cons_of_mem call)

theorem CapacityState.step {before after : BookingState} {event : BookingEvent} (state : CapacityState before)
    (keeps : KeepsCapacity before event) (step : BookingStep env residency before event after) :
    CapacityState after := by
  cases step with
  | read reads =>
    refine ⟨state.facilityIds, state.bookingIds, state.within, fun call mem => ?_⟩
    rcases mem_append.mp mem with earlier | new
    · exact state.current call earlier
    · obtain rfl := mem_singleton.mp new
      exact read_current reads
  | @commit db after front back now call commits =>
    have accepts := state.commit (state.current _ (by simp)) commits
    refine ⟨accepts.facilities ▸ state.facilityIds, accepts.bookingIds, accepts.within, fun other mem => ?_⟩
    exact (state.current other (mem_others mem)).mono accepts.succeeds
  | abort _ =>
    exact ⟨state.facilityIds, state.bookingIds, state.within, fun other mem => state.current other (mem_others mem)⟩
  | @updateFacility db after calls actor id dto updates =>
    obtain ⟨bookings, nextId, ids, succeeds, grown⟩ := updateFacility_succeeds state.facilityIds keeps updates
    refine ⟨ids, bookings ▸ nextId ▸ state.bookingIds, fun row found t => ?_, fun call mem => ?_⟩
    · obtain ⟨facility, listed, same, fits⟩ := grown row found
      have same : load after row.id t = load db facility.id t := by
        unfold load
        rw [bookings, same]
      exact same ▸ (state.within facility listed t).trans fits
    · exact (state.current call mem).mono succeeds

/-- However the calls overlap, no facility ever holds more bookings at an instant than it has places. -/
theorem facility_capacity {finish : BookingState} {log : List BookingEvent}
    (facilityIds : (db.facilities.map Facility.id).Nodup)
    (bookingIds : Allocated (db.bookings.map Booking.id) db.nextId) (within : WithinCapacity db)
    (run : Run (Guarded KeepsCapacity (BookingStep env residency)) ⟨db, []⟩ log finish) :
    WithinCapacity finish.db := by
  have start : CapacityState ⟨db, []⟩ := ⟨facilityIds, bookingIds, within, fun _ member => nomatch member⟩
  exact (run.invariant (fun _ _ _ state move => state.step move.1 move.2) start).within

namespace Sample

theorem hour_reads : ∃ call, (hour 7200000).read Billing.Sample.env everyone 0 hallDb = .ok call ∧
    ∃ booked, call.commit Billing.Sample.env 0 hallDb = .ok booked ∧ booked.bookings.length = 1 := by
  have ends : ((hour 7200000).read Billing.Sample.env everyone 0 hallDb >>= fun call =>
      call.commit Billing.Sample.env 0 hallDb).map (fun booked => booked.bookings.length) = .ok 1 := by
    decide +kernel
  obtain ⟨booked, done, count⟩ := map_eq_ok.mp ends
  obtain ⟨call, read, commit⟩ := bind_eq_ok.mp done
  exact ⟨call, read, booked, commit, count⟩

end Sample

theorem facility_capacity_booked : ∃ booked : Db, booked.bookings.length = 1 ∧ WithinCapacity booked := by
  have empty : Allocated (Sample.hallDb.bookings.map Booking.id) Sample.hallDb.nextId := .nil
  obtain ⟨call, read, booked, commit, count⟩ := Sample.hour_reads
  have reads : Run (Guarded KeepsCapacity (BookingStep Billing.Sample.env Sample.everyone)) ⟨Sample.hallDb, []⟩
      [.read (Sample.hour 7200000)] ⟨Sample.hallDb, [call]⟩ := .single ⟨trivial, .read read⟩
  have commits : BookingStep Billing.Sample.env Sample.everyone ⟨Sample.hallDb, [] ++ call :: []⟩ (.commit 0 call)
      ⟨booked, [] ++ []⟩ := .commit commit
  have keeps : KeepsCapacity ⟨Sample.hallDb, [call]⟩ (.commit 0 call) := trivial
  have run := reads.snoc ⟨keeps, commits⟩
  exact ⟨booked, count, facility_capacity (by decide) empty (fun _ _ _ => Nat.zero_le _) run⟩

end SmartResidence.Facility
