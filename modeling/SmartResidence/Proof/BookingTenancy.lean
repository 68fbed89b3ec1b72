import SmartResidence.Proof.FacilityCapacity

/-!
# The condo of a booking's money
-/

namespace SmartResidence.Facility

open Foundation Billing List

variable {env : Env} {residency : Residency} {db middle after : Db} {now : Instant} {condoId unitId : Id}

structure Written (condoId unitId : Id) (db after : Db) : Prop where
  invoices : ∀ invoice ∈ after.invoices, invoice ∈ db.invoices ∨ invoice.condoId = condoId ∧ invoice.unitId = unitId
  deposits : ∀ deposit ∈ after.deposits, deposit ∈ db.deposits ∨ deposit.condoId = condoId ∧ deposit.unitId = unitId
  receipts : ∀ receipt ∈ after.receipts,
    receipt ∈ db.receipts ∨ receipt.condoId = condoId ∧ receipt.unitId = some unitId
  ledgerEntries : ∀ entry ∈ after.ledgerEntries,
    entry ∈ db.ledgerEntries ∨ entry.condoId = condoId ∧ entry.unitId = some unitId

/-- Whatever `create` accepts of the actor for the unit in the condo is of the unit's own condo, then and at its approval. -/
def BooksWithin (residency : Residency) (actor : AuthenticatedUser) (unit : ResidentialUnit) (condoId : Id) : Prop :=
  ∀ (env : Env) (now : Instant) (db after : Db) (dto : CreateBookingDto) (facility : Facility), unit ∈ db.units →
    db.facility? dto.facilityId = some facility → facility.condoId = condoId → dto.unitId = some unit.id →
    create env residency now db actor dto = .ok after →
    unit.condoId = condoId ∧ Written unit.condoId unit.id db after ∧
      ∀ (approvedAt : Instant) (manager : AuthenticatedUser) (pending approved : Db) (booking : Booking)
        (facility : Facility), pending.booking? db.nextId = some booking → booking.unitId = some unit.id →
        pending.facility? booking.facilityId = some facility → facility.condoId = condoId →
        approve env approvedAt pending manager db.nextId = .ok approved → Written unit.condoId unit.id pending approved

def Admits (residency : Residency) (actor : AuthenticatedUser) (condoId unitId : Id) : Prop :=
  assertCondoAccess actor condoId = .ok () ∧ assertForUnit residency actor condoId (some unitId) = .ok ()

namespace Written

theorem rfl : Written condoId unitId db db :=
  ⟨fun _ => .inl, fun _ => .inl, fun _ => .inl, fun _ => .inl⟩

theorem trans (first : Written condoId unitId db middle) (second : Written condoId unitId middle after) :
    Written condoId unitId db after where
  invoices row mem := (second.invoices row mem).elim (first.invoices row) .inr
  deposits row mem := (second.deposits row mem).elim (first.deposits row) .inr
  receipts row mem := (second.receipts row mem).elim (first.receipts row) .inr
  ledgerEntries row mem := (second.ledgerEntries row mem).elim (first.ledgerEntries row) .inr

theorem updateBooking {id : Id} {change : Booking → Booking} : Written condoId unitId db (updateBooking db id change) :=
  ⟨fun _ => .inl, fun _ => .inl, fun _ => .inl, fun _ => .inl⟩

theorem record {posting : LedgerPosting} (owned : posting.condoId = condoId ∧ posting.unitId = some unitId) :
    Written condoId unitId db (db.record posting) where
  invoices _ := .inl
  deposits _ := .inl
  receipts _ := .inl
  ledgerEntries entry mem := by
    rcases mem_appendPosting mem with old | rfl
    · exact .inl old
    · exact .inr owned

end Written

theorem issueInTx_written {input : IssueReceiptInput} (owned : input.condoId = condoId ∧ input.unitId = some unitId)
    (issued : issueInTx db input = .ok after) : Written condoId unitId db after := by
  simp only [issueInTx, bind_eq_ok, pure_eq_ok] at issued
  obtain ⟨_, _, _, _, _, _, rfl⟩ := issued
  refine ⟨fun _ => .inl, fun _ => .inl, fun receipt mem => ?_, fun _ => .inl⟩
  rcases mem_append.mp mem with old | new
  · exact .inl old
  · obtain rfl := mem_singleton.mp new
    exact .inr owned

theorem issueInvoice_written {draft : InvoiceDraft} {actorUserId : Option Id} {invoice : Invoice}
    (issued : issueInvoice now db draft actorUserId = .ok (after, invoice)) :
    Written draft.condoId draft.unitId db after := by
  obtain ⟨commit, -⟩ := issueInvoice_commit issued
  cases commit with
  | issued =>
    refine ⟨fun row mem => ?_, fun _ => .inl, fun _ => .inl, fun entry mem => ?_⟩
    · rcases mem_append.mp mem with old | new
      · exact .inl old
      · obtain rfl := mem_singleton.mp new
        exact .inr ⟨rfl, rfl⟩
    · rcases mem_appendPostings mem with old | new
      · exact .inl old
      · obtain ⟨index, inside, same⟩ := mem_mapIdx.mp new
        rw [← same]
        exact .inr ⟨rfl, rfl⟩

theorem depositRecordInTx_written {input : RecordDepositInput} (record : depositRecordInTx now db input = .ok after) :
    Written input.condoId input.unitId db after := by
  simp only [depositRecordInTx, bind_eq_ok, pure_eq_ok] at record
  obtain ⟨receipted, issue, rfl⟩ := record
  have created : Written input.condoId input.unitId db
      { db with deposits := db.deposits ++ [input.row now db.nextId], nextId := db.nextId + 1 } := by
    refine ⟨fun _ => .inl, fun deposit mem => ?_, fun _ => .inl, fun _ => .inl⟩
    rcases mem_append.mp mem with old | new
    · exact .inl old
    · obtain rfl := mem_singleton.mp new
      exact .inr ⟨rfl, rfl⟩
  exact (created.trans (issueInTx_written ⟨rfl, rfl⟩ issue)).trans (.record ⟨rfl, rfl⟩)

section

variable {booking : Booking} {facility : Facility} {actor : AuthenticatedUser}

theorem chargeFee_written (done : chargeFee env now db booking facility unitId actor = .ok after) :
    Written facility.condoId unitId db after := by
  unfold chargeFee at done
  split at done
  · simp only [bind_eq_ok, pure_eq_ok, Prod.exists] at done
    obtain ⟨invoiced, invoice, create, rfl⟩ := done
    exact (issueInvoice_written create).trans .updateBooking
  · cases done
    exact .rfl

theorem holdDeposit_written (done : holdDeposit now db booking facility unitId actor = .ok after) :
    Written facility.condoId unitId db after := by
  unfold holdDeposit at done
  split at done
  · simp only [bind_eq_ok, pure_eq_ok] at done
    obtain ⟨held, record, rfl⟩ := done
    exact (depositRecordInTx_written record).trans .updateBooking
  · cases done
    exact .rfl

theorem settleMoney_written (named : booking.unitId = some unitId)
    (done : settleMoney env now db booking facility actor = .ok after) : Written facility.condoId unitId db after := by
  simp only [settleMoney] at done
  split at done
  · cases done
    exact .rfl
  · simp only [bind_eq_ok, orThrow_eq_ok] at done
    obtain ⟨other, isUnit, charged, charge, hold⟩ := done
    obtain rfl := Option.some_inj.mp (named.symm.trans isUnit)
    exact (chargeFee_written charge).trans (holdDeposit_written hold)

theorem create_written {dto : CreateBookingDto} (found : db.facility? dto.facilityId = some facility)
    (named : dto.unitId = some unitId) (done : create env residency now db actor dto = .ok after) :
    Admits residency actor facility.condoId unitId ∧ Written facility.condoId unitId db after := by
  simp only [create, bind_eq_ok, orThrow_eq_ok, named] at done
  obtain ⟨row, read, _, _, _, access, _, _, _, forUnit, _, _, done⟩ := done
  obtain rfl := Option.some_inj.mp (found.symm.trans read)
  refine ⟨⟨access, forUnit⟩, ?_⟩
  have created : Written facility.condoId unitId db
      { db with bookings := db.bookings ++ [dto.row facility actor db.nextId], nextId := db.nextId + 1 } :=
    ⟨fun _ => .inl, fun _ => .inl, fun _ => .inl, fun _ => .inl⟩
  split at done
  · cases done
    exact created
  · exact created.trans (settleMoney_written named done)

theorem approve_written {id : Id} (read : db.booking? id = some booking) (named : booking.unitId = some unitId)
    (found : db.facility? booking.facilityId = some facility) (done : approve env now db actor id = .ok after) :
    Written facility.condoId unitId db after := by
  simp only [approve, bind_eq_ok, orThrow_eq_ok] at done
  obtain ⟨row, isRow, _, _, _, _, place, isPlace, _, _, settle⟩ := done
  obtain rfl := Option.some_inj.mp (read.symm.trans isRow)
  obtain rfl := Option.some_inj.mp (found.symm.trans isPlace)
  exact Written.updateBooking.trans (settleMoney_written named settle)

end

namespace Sample

def openHall (condoId : Id) : Facility := ⟨4, condoId, "Hall", true, true, none, none, 0, 1440, 60, 1⟩

def openHallDb (condoId : Id) (unit : ResidentialUnit) : Db :=
  { hallDb with units := [unit], facilities := [openHall condoId] }

end Sample

theorem returns_bind {α β : Type} {step : Result α} {rest : α → Result β} {value : α} (first : step = .ok value)
    (later : ∃ result, rest value = .ok result) : ∃ result, (step >>= rest) = .ok result := by
  obtain ⟨result, done⟩ := later
  exact ⟨result, bind_eq_ok.mpr ⟨value, first, done⟩⟩

theorem open_hour : validateInterval Billing.Sample.env 0 (Sample.openHall condoId) 0 3600000 = .ok () := by
  have local480 : ∀ t, Billing.Sample.env.localMinute t = 480 := fun _ => rfl
  unfold validateInterval
  rw [bind_eq_ok]
  refine ⟨(), throwIf_eq_ok.mpr (by norm_num), ?_⟩
  rw [bind_eq_ok]
  refine ⟨(), throwIf_eq_ok.mpr (by norm_num), ?_⟩
  rw [bind_eq_ok]
  refine ⟨(), throwIf_eq_ok.mpr (by norm_num [Sample.openHall]), ?_⟩
  rw [local480, local480]
  simp [Sample.openHall]

theorem admitted_creates {actor : AuthenticatedUser} {unit : ResidentialUnit}
    (admits : Admits residency actor condoId unit.id) :
    ∃ after, create Billing.Sample.env residency 0 (Sample.openHallDb condoId unit) actor ⟨4, some unit.id, 0, 3600000⟩ =
      .ok after := by
  obtain ⟨access, forUnit⟩ := admits
  have found : (Sample.openHallDb condoId unit).facility? 4 = some (Sample.openHall condoId) := rfl
  have free : assertNoConflict (Sample.openHallDb condoId unit) (Sample.openHall condoId) 0 3600000 none = .ok () := rfl
  have active : throwIf (¬ (Sample.openHall condoId).active) (.badRequest "This facility is not accepting bookings") =
      .ok () := rfl
  have interval := @open_hour condoId
  refine returns_bind (orThrow_eq_ok.mpr found) (returns_bind active ?_)
  refine returns_bind access (returns_bind interval ?_)
  exact returns_bind forUnit (returns_bind free ⟨_, rfl⟩)

namespace Sample

def foreignUnit : ResidentialUnit := ⟨9, 6, none, none⟩

def foreignDb : Db := { hallDb with units := [⟨7, 5, none, some 3⟩, foreignUnit] }

def manager : AuthenticatedUser := ⟨3, [⟨.managementAdmin, some 5, none⟩]⟩

end Sample

end SmartResidence.Facility
