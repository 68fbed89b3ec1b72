import SmartResidence.Proof.FacilityCapacity

/-!
# The money of a booking
-/

namespace SmartResidence.Facility

open Foundation Billing List

variable {env : Env} {residency : Residency} {db middle after : Db} {now : Instant}

def isClosed (booking : Booking) : Prop := booking.status = .cancelled ∨ booking.status = .rejected

structure Issued where
  invoices : List (Id × Id)
  deposits : List (Id × Id)

def issuedTo (pairs : List (Id × Id)) (bookingId : Id) : List Id :=
  (pairs.filter fun pair => decide (pair.1 = bookingId)).map Prod.snd

def newRows {Row : Type} (key : Row → Id) (old new : List Row) : List Id := (new.drop old.length).map key

def Issued.record (issued : Issued) (bookingId : Id) (db after : Db) : Issued where
  invoices := issued.invoices ++ (newRows Invoice.id db.invoices after.invoices).map (bookingId, ·)
  deposits := issued.deposits ++ (newRows Deposit.id db.deposits after.deposits).map (bookingId, ·)

def InFlight.bookingId (db : Db) : InFlight → Id
  | .creating .. => db.nextId
  | .approving _ booking _ | .rejecting booking | .cancelling _ booking => booking.id

inductive IssuingStep (env : Env) (residency : Residency) :
    BookingState × Issued → BookingEvent → BookingState × Issued → Prop
  | read {before after : BookingState} {issued : Issued} {request : BookingRequest}
      (step : BookingStep env residency before (.read request) after) :
      IssuingStep env residency (before, issued) (.read request) (after, issued)
  | commit {before after : BookingState} {issued : Issued} {now : Instant} {call : InFlight}
      (step : BookingStep env residency before (.commit now call) after) :
      IssuingStep env residency (before, issued) (.commit now call)
        (after, issued.record (call.bookingId before.db) before.db after.db)
  | updateFacility {before after : BookingState} {issued : Issued} {actor : AuthenticatedUser} {id : Id}
      {dto : UpdateFacilityDto} (step : BookingStep env residency before (.updateFacility actor id dto) after) :
      IssuingStep env residency (before, issued) (.updateFacility actor id dto) (after, issued)

structure MoneyFollows (db : Db) (issued : Issued) : Prop where
  released : ∀ booking ∈ db.bookings, isClosed booking → ∀ depositId ∈ issuedTo issued.deposits booking.id,
    ∀ deposit ∈ db.deposit? depositId, depositHeldAmount deposit = 0
  voided : ∀ booking ∈ db.bookings, isClosed booking → ∀ invoiceId ∈ issuedTo issued.invoices booking.id,
    ∀ invoice ∈ db.invoice? invoiceId, isVoidable invoice = false
  once : ∀ booking ∈ db.bookings, booking.status = .confirmed →
    (issuedTo issued.invoices booking.id).length ≤ 1 ∧ (issuedTo issued.deposits booking.id).length ≤ 1

/-- The transaction meets no booking that an overlapping call has closed, or charged, since it was read. -/
def Timely (state : BookingState × Issued) : BookingEvent → Prop
  | .commit _ (.approving _ booking facility) => ∀ row ∈ state.1.db.booking? booking.id, ¬ isClosed row ∧
      (0 < bookingDeposit facility → row.depositId = none ∨ 0 < bookingFee facility ∧ row.invoiceId ≠ none)
  | .commit _ (.rejecting booking) => ∀ row ∈ state.1.db.booking? booking.id,
      isClosed row ∨ row.invoiceId = none ∧ row.depositId = none
  | .commit _ (.cancelling _ booking) => ∀ row ∈ state.1.db.booking? booking.id,
      isClosed row ∨ row.invoiceId = booking.invoiceId ∧ row.depositId = booking.depositId
  | _ => True

section

variable {pairs more : List (Id × Id)} {id other : Id}

theorem mem_issuedTo : other ∈ issuedTo pairs id ↔ (id, other) ∈ pairs := by
  unfold issuedTo
  rw [mem_map]
  constructor
  · rintro ⟨pair, listed, rfl⟩
    obtain ⟨mem, own⟩ := mem_filter.mp listed
    rw [← of_decide_eq_true own]
    exact mem
  · intro mem
    exact ⟨(id, other), mem_filter.mpr ⟨mem, decide_eq_true rfl⟩, rfl⟩

theorem issuedTo_append : issuedTo (pairs ++ more) id = issuedTo pairs id ++ issuedTo more id := by
  unfold issuedTo
  rw [filter_append, map_append]

theorem issuedTo_single : issuedTo [(id, other)] id = [other] := by
  simp [issuedTo]

theorem issuedTo_single_other {wanted : Id} (ne : id ≠ wanted) : issuedTo [(id, other)] wanted = [] := by
  simp [issuedTo, ne]

variable {Row : Type} {key : Row → Id} {old : List Row}

theorem newRows_self : newRows key old old = [] := by
  simp [newRows]

theorem newRows_same {new : List Row} (same : new.map key = old.map key) : newRows key old new = [] := by
  have length : new.length = old.length := by
    rw [← length_map key, same, length_map]
  simp [newRows, length]

theorem newRows_push {row : Row} : newRows key old (old ++ [row]) = [key row] := by
  simp [newRows]

end

def Released (db : Db) (row : Booking) : Prop :=
  (∀ deposit ∈ db.deposits, row.depositId = some deposit.id → depositHeldAmount deposit = 0) ∧
  ∀ invoice ∈ db.invoices, row.invoiceId = some invoice.id → isVoidable invoice = false

def Blocks (db : Db) (row : Booking) : Prop :=
  ∀ invoiceId ∈ row.invoiceId, ∃ invoice ∈ db.invoices, invoice.id = invoiceId ∧ invoice.status ≠ .void ∧
    row.unitId = some invoice.unitId ∧ invoice.periodStart = row.startAt

structure MoneyBooks (db : Db) (issued : Issued) : Prop where
  bookingIds : Allocated (db.bookings.map Booking.id) db.nextId
  invoiceIds : Allocated (db.invoices.map Invoice.id) db.nextId
  depositIds : Allocated (db.deposits.map Deposit.id) db.nextId
  invoicePairs : ∀ pair ∈ issued.invoices, pair.1 < db.nextId ∧ pair.2 < db.nextId
  depositPairs : ∀ pair ∈ issued.deposits, pair.1 < db.nextId ∧ pair.2 < db.nextId
  apart : (issued.invoices.map Prod.snd).Nodup
  invoices : ∀ row ∈ db.bookings, issuedTo issued.invoices row.id = row.invoiceId.toList
  deposits : ∀ row ∈ db.bookings, issuedTo issued.deposits row.id = row.depositId.toList
  blocks : ∀ row ∈ db.bookings, ¬ isClosed row → Blocks db row
  released : ∀ row ∈ db.bookings, isClosed row → Released db row

namespace MoneyBooks

variable {issued : Issued} (books : MoneyBooks db issued)
include books

variable {invoiceId : Id}

theorem invoice_pair {row : Booking} (found : row ∈ db.bookings) (link : row.invoiceId = some invoiceId) :
    (row.id, invoiceId) ∈ issued.invoices := by
  rw [← mem_issuedTo, books.invoices row found, link]
  exact mem_singleton.mpr rfl

theorem deposit_pair {row : Booking} (found : row ∈ db.bookings) {depositId : Id} (link : row.depositId = some depositId) :
    (row.id, depositId) ∈ issued.deposits := by
  rw [← mem_issuedTo, books.deposits row found, link]
  exact mem_singleton.mpr rfl

theorem same_booking {first second : Id} (left : (first, invoiceId) ∈ issued.invoices)
    (right : (second, invoiceId) ∈ issued.invoices) : first = second := by
  have same := inj_on_of_nodup_map books.apart left right rfl
  exact congrArg Prod.fst same

theorem follows : MoneyFollows db issued where
  released booking found closed depositId mem deposit read := by
    obtain ⟨listed, rfl⟩ := mem_of_findBy read
    rw [books.deposits booking found, Option.mem_toList] at mem
    exact (books.released booking found closed).1 deposit listed mem
  voided booking found closed invoiceId mem invoice read := by
    obtain ⟨listed, rfl⟩ := mem_of_findBy read
    rw [books.invoices booking found, Option.mem_toList] at mem
    exact (books.released booking found closed).2 invoice listed mem
  once booking found _ := by
    rw [books.invoices booking found, books.deposits booking found]
    exact ⟨Option.length_toList_le, Option.length_toList_le⟩

end MoneyBooks

/-! ## Charging -/

structure Charged (db after : Db) (row : Booking) : Prop where
  nextId : db.nextId < after.nextId
  free : ∀ unitId, row.unitId = some unitId → db.activePeriodTaken unitId row.startAt none = false
  invoice : ∃ invoice, after.invoices = db.invoices ++ [invoice] ∧ invoice.id = db.nextId ∧
    invoice.status ≠ .void ∧ row.unitId = some invoice.unitId ∧ invoice.periodStart = row.startAt
  deposits : after.deposits = db.deposits
  bookings : ∃ fee, after.bookings = updateBy Booking.id row.id
    (fun booking => { booking with invoiceId := some db.nextId, fee := fee }) db.bookings

structure Held (db after : Db) (id : Id) : Prop where
  nextId : db.nextId < after.nextId
  invoices : after.invoices = db.invoices
  deposit : ∃ deposit, after.deposits = db.deposits ++ [deposit] ∧ deposit.id = db.nextId
  bookings : ∃ amount, after.bookings = updateBy Booking.id id
    (fun booking => { booking with depositId := some db.nextId, depositHeld := amount }) db.bookings

theorem depositHeld_held {condoId unitId id : Id} {amount : ℚ} {held : ℤ}
    (commit : Commit db (.depositHeld condoId unitId amount) middle) :
    Held db (updateBooking middle id fun row => { row with depositId := some db.nextId, depositHeld := held }) id := by
  cases commit with
  | depositHeld grows => exact ⟨grows, rfl, ⟨_, rfl, rfl⟩, held, rfl⟩

section

variable {booking : Booking} {facility : Facility} {unitId : Id} {actor : AuthenticatedUser}

theorem chargeFee_charged (owner : booking.unitId = some unitId)
    (done : chargeFee env now db booking facility unitId actor = .ok after) :
    ¬ 0 < bookingFee facility ∧ after = db ∨ 0 < bookingFee facility ∧ Charged db after booking := by
  unfold chargeFee at done
  split at done
  · rename_i pos
    simp only [bind_eq_ok, pure_eq_ok, Prod.exists] at done
    obtain ⟨invoiced, invoice, create, rfl⟩ := done
    obtain ⟨commit, rfl, -⟩ := issueInvoice_commit create
    cases commit with
    | issued free =>
      refine .inr ⟨pos, Nat.lt_succ_self _, ?_, ⟨_, rfl, rfl, by simp [InvoiceDraft.row], owner, rfl⟩, rfl, _, rfl⟩
      intro other same
      rw [owner, Option.some_inj] at same
      rw [← same]
      exact free
  · rename_i nothing
    exact .inl ⟨nothing, (pure_eq_ok.mp done).symm⟩

theorem holdDeposit_held (done : holdDeposit now db booking facility unitId actor = .ok after) :
    ¬ 0 < bookingDeposit facility ∧ after = db ∨ 0 < bookingDeposit facility ∧ Held db after booking.id := by
  unfold holdDeposit at done
  split at done
  · rename_i pos
    simp only [bind_eq_ok, pure_eq_ok] at done
    obtain ⟨held, record, rfl⟩ := done
    exact .inr ⟨pos, depositHeld_held (depositRecordInTx_commit record)⟩
  · rename_i nothing
    exact .inl ⟨nothing, (pure_eq_ok.mp done).symm⟩

end

namespace MoneyBooks

variable {issued : Issued} (books : MoneyBooks db issued) {row : Booking} (found : row ∈ db.bookings)
include books found

theorem uncharged (opened : ¬ isClosed row) (charged : Charged db after row) : row.invoiceId = none := by
  rw [Option.eq_none_iff_forall_ne_some]
  intro invoiceId link
  obtain ⟨invoice, mem, -, active, owner, period⟩ := books.blocks row found opened invoiceId link
  have free := charged.free invoice.unitId owner
  rw [Db.activePeriodTaken, any_eq_false] at free
  exact free invoice mem (decide_eq_true ⟨rfl, period, active, by simp⟩)

theorem charged (opened : ¬ isClosed row) (charged : Charged db after row) :
    MoneyBooks after (issued.record row.id db after) := by
  have unlinked := books.uncharged found opened charged
  obtain ⟨grows, -, ⟨invoice, invoices, isNew, active, owner, period⟩, deposits, fee, bookings⟩ := charged
  have record : issued.record row.id db after = ⟨issued.invoices ++ [(row.id, db.nextId)], issued.deposits⟩ := by
    unfold Issued.record
    rw [invoices, newRows_push, isNew, deposits, newRows_self, map_nil, append_nil]
    rfl
  have origin := fun new (mem : new ∈ after.bookings) =>
    changed_or_kept books.bookingIds.distinct found (bookings ▸ mem)
  rw [record]
  refine ⟨?_, ?_, deposits ▸ books.depositIds.mono grows.le, ?_, fun pair mem => ?_, ?_, ?_, ?_, ?_, ?_⟩
  · rw [bookings]
    exact books.bookingIds.updateBy grows.le fun _ => rfl
  · rw [invoices]
    exact books.invoiceIds.insert isNew grows
  · intro pair mem
    rcases mem_append.mp mem with old | new
    · exact (books.invoicePairs pair old).imp grows.trans' grows.trans'
    · obtain rfl := mem_singleton.mp new
      exact ⟨(books.bookingIds.below row.id (mem_map_of_mem found)).trans grows, grows⟩
  · exact (books.depositPairs pair mem).imp grows.trans' grows.trans'
  · have fresh : Allocated (issued.invoices.map Prod.snd) db.nextId := ⟨books.apart, fun id mem => by
      obtain ⟨pair, listed, rfl⟩ := mem_map.mp mem
      exact (books.invoicePairs pair listed).2⟩
    rw [map_append]
    exact (fresh.push grows).distinct
  · intro new mem
    obtain rfl | ⟨listed, ne⟩ := origin new mem
    · rw [issuedTo_append, issuedTo_single, books.invoices row found, unlinked]
      rfl
    · rw [issuedTo_append, issuedTo_single_other ne.symm, append_nil, books.invoices new listed]
  · intro new mem
    obtain rfl | ⟨listed, -⟩ := origin new mem
    · exact books.deposits row found
    · exact books.deposits new listed
  · intro new mem still invoiceId link
    rw [invoices]
    obtain rfl | ⟨listed, -⟩ := origin new mem
    · obtain rfl := Option.some_inj.mp link
      exact ⟨invoice, mem_append_right _ (mem_singleton.mpr rfl), isNew, active, owner, period⟩
    · obtain ⟨kept, mem, facts⟩ := books.blocks new listed still invoiceId link
      exact ⟨kept, mem_append_left _ mem, facts⟩
  · intro new mem closed
    obtain rfl | ⟨listed, -⟩ := origin new mem
    · exact absurd closed opened
    · obtain ⟨held, void⟩ := books.released new listed closed
      refine ⟨deposits ▸ held, fun other mem link => ?_⟩
      rcases mem_append.mp (invoices ▸ mem) with kept | last
      · exact void other kept link
      · obtain rfl := mem_singleton.mp last
        exact absurd isNew (books.invoicePairs _ (books.invoice_pair listed link)).2.ne

theorem held (opened : ¬ isClosed row) (unlinked : row.depositId = none) (held : Held db after row.id) :
    MoneyBooks after (issued.record row.id db after) := by
  obtain ⟨grows, invoices, ⟨deposit, deposits, isNew⟩, amount, bookings⟩ := held
  have record : issued.record row.id db after = ⟨issued.invoices, issued.deposits ++ [(row.id, db.nextId)]⟩ := by
    unfold Issued.record
    rw [deposits, newRows_push, isNew, invoices, newRows_self, map_nil, append_nil]
    rfl
  have origin := fun new (mem : new ∈ after.bookings) =>
    changed_or_kept books.bookingIds.distinct found (bookings ▸ mem)
  rw [record]
  refine ⟨?_, invoices ▸ books.invoiceIds.mono grows.le, ?_, fun pair mem => ?_, ?_, books.apart, ?_, ?_, ?_, ?_⟩
  · rw [bookings]
    exact books.bookingIds.updateBy grows.le fun _ => rfl
  · rw [deposits]
    exact books.depositIds.insert isNew grows
  · exact (books.invoicePairs pair mem).imp grows.trans' grows.trans'
  · intro pair mem
    rcases mem_append.mp mem with old | new
    · exact (books.depositPairs pair old).imp grows.trans' grows.trans'
    · obtain rfl := mem_singleton.mp new
      exact ⟨(books.bookingIds.below row.id (mem_map_of_mem found)).trans grows, grows⟩
  · intro new mem
    obtain rfl | ⟨listed, -⟩ := origin new mem
    · exact books.invoices row found
    · exact books.invoices new listed
  · intro new mem
    obtain rfl | ⟨listed, ne⟩ := origin new mem
    · rw [issuedTo_append, issuedTo_single, books.deposits row found, unlinked]
      rfl
    · rw [issuedTo_append, issuedTo_single_other ne.symm, append_nil, books.deposits new listed]
  · intro new mem still
    unfold Blocks
    rw [invoices]
    obtain rfl | ⟨listed, -⟩ := origin new mem
    · exact books.blocks row found opened
    · exact books.blocks new listed still
  · intro new mem closed
    obtain rfl | ⟨listed, -⟩ := origin new mem
    · exact absurd closed opened
    · obtain ⟨none, void⟩ := books.released new listed closed
      refine ⟨fun other mem link => ?_, invoices ▸ void⟩
      rcases mem_append.mp (deposits ▸ mem) with kept | last
      · exact none other kept link
      · obtain rfl := mem_singleton.mp last
        exact absurd isNew (books.depositPairs _ (books.deposit_pair listed link)).2.ne

end MoneyBooks

namespace Issued

variable {issued : Issued} {id : Id}

theorem record_bookings {bookings : List Booking} {nextId : Id} :
    issued.record id db { db with bookings := bookings, nextId := nextId } = issued := by
  unfold record
  rw [newRows_self, newRows_self]
  simp

theorem record_same (invoices : after.invoices.map Invoice.id = db.invoices.map Invoice.id)
    (deposits : after.deposits.map Deposit.id = db.deposits.map Deposit.id) : issued.record id db after = issued := by
  unfold record
  rw [newRows_same invoices, newRows_same deposits]
  simp

theorem record_trans (deposits : middle.deposits = db.deposits) (invoices : after.invoices = middle.invoices) :
    (issued.record id db middle).record id middle after = issued.record id db after := by
  unfold record
  rw [deposits, invoices, newRows_self, newRows_self]
  simp

end Issued

namespace MoneyBooks

variable {issued : Issued} (books : MoneyBooks db issued) {row : Booking} {facility : Facility}
  {actor : AuthenticatedUser}
include books

theorem holdDeposit {unitId : Id} (found : row ∈ db.bookings) (opened : ¬ isClosed row)
    (unlinked : 0 < bookingDeposit facility → row.depositId = none)
    (done : holdDeposit now db row facility unitId actor = .ok after) :
    after.invoices = db.invoices ∧ MoneyBooks after (issued.record row.id db after) := by
  rcases holdDeposit_held done with ⟨-, rfl⟩ | ⟨pos, held⟩
  · rw [Issued.record_same rfl rfl]
    exact ⟨rfl, books⟩
  · exact ⟨held.invoices, books.held found opened (unlinked pos) held⟩

theorem settled (found : row ∈ db.bookings) (opened : ¬ isClosed row)
    (timely : 0 < bookingDeposit facility → row.depositId = none ∨ 0 < bookingFee facility ∧ row.invoiceId ≠ none)
    (done : settleMoney env now db row facility actor = .ok after) :
    MoneyBooks after (issued.record row.id db after) := by
  simp only [settleMoney] at done
  split at done
  · cases done
    rw [Issued.record_same rfl rfl]
    exact books
  · simp only [bind_eq_ok, orThrow_eq_ok] at done
    obtain ⟨unitId, owner, charged, charge, hold⟩ := done
    rcases chargeFee_charged owner charge with ⟨noFee, rfl⟩ | ⟨-, isCharged⟩
    · refine (books.holdDeposit found opened (fun pos => ?_) hold).2
      exact (timely pos).resolve_right fun refused => noFee refused.1
    · have invoiced := books.charged found opened isCharged
      have unlinked := books.uncharged found opened isCharged
      obtain ⟨fee, bookings⟩ := isCharged.bookings
      have mem : { row with invoiceId := some db.nextId, fee := fee } ∈ charged.bookings :=
        bookings ▸ change_mem_updateBy found
      have held := invoiced.holdDeposit mem opened (fun pos =>
        (timely pos).resolve_right fun refused => refused.2 unlinked) hold
      rw [Issued.record_trans isCharged.deposits held.1] at held
      exact held.2

end MoneyBooks

/-! ## Closing -/

structure Relieves (db after : Db) (depositId invoiceId : Option Id) : Prop where
  nextId : db.nextId ≤ after.nextId
  bookings : after.bookings = db.bookings
  depositIds : after.deposits.map Deposit.id = db.deposits.map Deposit.id
  invoiceIds : after.invoices.map Invoice.id = db.invoices.map Invoice.id
  deposits : ∀ new ∈ after.deposits, ∃ old ∈ db.deposits, new.id = old.id ∧
    (depositHeldAmount old = 0 → depositHeldAmount new = 0)
  invoices : ∀ new ∈ after.invoices, ∃ old ∈ db.invoices, new.id = old.id ∧
    (isVoidable old = false → isVoidable new = false)
  others : ∀ old ∈ db.invoices, some old.id ≠ invoiceId → old ∈ after.invoices
  deposit : ∀ new ∈ after.deposits, depositId = some new.id → depositHeldAmount new = 0
  invoice : ∀ new ∈ after.invoices, invoiceId = some new.id → isVoidable new = false

theorem Relieves.rfl : Relieves db db none none where
  nextId := le_rfl
  bookings := Eq.refl _
  depositIds := Eq.refl _
  invoiceIds := Eq.refl _
  deposits new mem := ⟨new, mem, Eq.refl _, id⟩
  invoices new mem := ⟨new, mem, Eq.refl _, id⟩
  others _ mem _ := mem
  deposit _ _ link := nomatch link
  invoice _ _ link := nomatch link

variable {depositId invoiceId : Option Id}

theorem Relieves.trans (first : Relieves db middle depositId none) (second : Relieves middle after none invoiceId) :
    Relieves db after depositId invoiceId where
  nextId := first.nextId.trans second.nextId
  bookings := second.bookings.trans first.bookings
  depositIds := second.depositIds.trans first.depositIds
  invoiceIds := second.invoiceIds.trans first.invoiceIds
  deposits new mem := by
    obtain ⟨row, listed, same, kept⟩ := second.deposits new mem
    obtain ⟨old, found, again, earlier⟩ := first.deposits row listed
    exact ⟨old, found, same.trans again, fun none => kept (earlier none)⟩
  invoices new mem := by
    obtain ⟨row, listed, same, kept⟩ := second.invoices new mem
    obtain ⟨old, found, again, earlier⟩ := first.invoices row listed
    exact ⟨old, found, same.trans again, fun void => kept (earlier void)⟩
  others old mem other := second.others old (first.others old mem (by simp)) other
  deposit new mem link := by
    obtain ⟨row, listed, same, kept⟩ := second.deposits new mem
    exact kept (first.deposit row listed (same ▸ link))
  invoice := second.invoice

theorem nothing_held {old new : Deposit}
    (got : ReturnedDeposit old new (old.refundedAmount + depositHeldAmount old) old.forfeitedAmount) :
    depositHeldAmount new = 0 := by
  have refunded := got.refundedAmount
  have forfeited := got.forfeitedAmount
  rw [← Int.cast_add, stored_intCast] at refunded
  rw [stored_intCast] at forfeited
  simp only [depositHeldAmount, got.amount, refunded]
  omega

section

variable {actor : AuthenticatedUser}

theorem releaseDeposit_relieves {depositId : Option Id} (done : releaseDeposit now db actor depositId = .ok after)
    (ids : (db.deposits.map Deposit.id).Nodup) : Relieves db after depositId none := by
  cases depositId with
  | none =>
    cases done
    exact .rfl
  | some depositId =>
    simp only [releaseDeposit, bind_eq_ok, pure_eq_ok, Prod.exists] at done
    obtain ⟨released, _, refund, rfl⟩ := done
    rcases refundHeldInTx_commit refund with ⟨rfl, nothing⟩ | ⟨deposit, read, commit⟩
    · refine { Relieves.rfl with deposit := fun new mem link => ?_ }
      obtain rfl := Option.some_inj.mp link
      have none := nothing new (findBy_of_mem ids mem)
      exact le_antisymm none (le_max_left 0 _)
    · obtain ⟨found, rfl⟩ := mem_of_findBy read
      cases commit with
      | depositRefunded _ _ _ got keeps grows =>
        refine ⟨grows, rfl, map_key_updateBy keeps, rfl, fun new mem => ?_, fun new mem => ⟨new, mem, rfl, id⟩,
          fun _ mem _ => mem, fun new mem link => ?_, fun _ _ link => by cases link⟩
        · obtain rfl | ⟨kept, -⟩ := changed_or_kept ids found mem
          · exact ⟨deposit, found, keeps deposit, fun _ => nothing_held got⟩
          · exact ⟨new, kept, rfl, id⟩
        · obtain rfl | ⟨-, other⟩ := changed_or_kept ids found mem
          · exact nothing_held got
          · exact absurd (Option.some_inj.mp link).symm other

theorem voidFee_relieves {invoiceId : Option Id} (done : voidFee now db actor invoiceId = .ok after)
    (ids : (db.invoices.map Invoice.id).Nodup) : Relieves db after none invoiceId := by
  cases invoiceId with
  | none =>
    cases done
    exact .rfl
  | some invoiceId =>
    have kept (settled : ∀ invoice ∈ db.invoice? invoiceId, isVoidable invoice = false) :
        Relieves db db none (some invoiceId) := by
      refine { Relieves.rfl with others := fun _ mem _ => mem, invoice := fun new mem link => ?_ }
      obtain rfl := Option.some_inj.mp link
      exact settled new (findBy_of_mem ids mem)
    simp only [voidFee, voidUnpaidInvoiceInTx, bind_eq_ok, pure_eq_ok, Prod.exists] at done
    obtain ⟨voidedDb, _, void, rfl⟩ := done
    split at void
    · rename_i missing
      obtain ⟨rfl, -⟩ := void
      exact kept (by simp [missing])
    · rename_i invoice read
      split at void
      · rename_i isVoid
        obtain ⟨rfl, -⟩ := void
        exact kept (by simp [read, isVoidable, isVoid])
      · split at void
        · rename_i paid
          obtain ⟨rfl, -⟩ := void
          rw [half_lt_cast] at paid
          refine kept fun other same => ?_
          obtain rfl := Option.some_inj.mp (read.symm.trans same)
          rcases paid with part | full
          · simp [isVoidable, part]
          · simp [isVoidable, full]
        · obtain ⟨found, rfl⟩ := mem_of_findBy read
          simp only [bind_eq_ok] at void
          obtain ⟨updated, update, rfl, -⟩ := void
          obtain rfl := updateInvoice_effect update
          have closed : isVoidable (voided now invoice) = false := by simp [isVoidable, voided]
          refine ⟨le_rfl, rfl, rfl, map_key_updateBy fun _ => rfl, fun new mem => ⟨new, mem, rfl, id⟩,
            fun new mem => ?_, fun old mem other => ?_, fun _ _ link => (by cases link), fun new mem link => ?_⟩
          · obtain rfl | ⟨kept, -⟩ := changed_or_kept ids found mem
            · exact ⟨invoice, found, rfl, fun _ => closed⟩
            · exact ⟨new, kept, rfl, id⟩
          · exact mem_updateBy.mpr ⟨old, mem, (if_neg fun same => other (congrArg some same)).symm⟩
          · obtain rfl | ⟨-, other⟩ := changed_or_kept ids found mem
            · exact closed
            · exact absurd (Option.some_inj.mp link).symm other

end

theorem Released.mono {bookings : List Booking} {row : Booking} (released : Released db row)
    (relieves : Relieves { db with bookings := bookings } after depositId invoiceId) : Released after row := by
  refine ⟨fun new mem link => ?_, fun new mem link => ?_⟩
  · obtain ⟨old, found, same, kept⟩ := relieves.deposits new mem
    exact kept (released.1 old found (same ▸ link))
  · obtain ⟨old, found, same, kept⟩ := relieves.invoices new mem
    exact kept (released.2 old found (same ▸ link))

namespace MoneyBooks

variable {issued : Issued} (books : MoneyBooks db issued)
include books

theorem closed {row : Booking} {status : BookingStatus} {depositId invoiceId : Option Id} (found : row ∈ db.bookings)
    (closes : status = .cancelled ∨ status = .rejected) (own : ∀ id ∈ invoiceId, (row.id, id) ∈ issued.invoices)
    (fits : isClosed row ∨ row.invoiceId = invoiceId ∧ row.depositId = depositId)
    (relieves : Relieves (updateBooking db row.id fun row => { row with status := status }) after depositId invoiceId) :
    MoneyBooks after issued := by
  have origin := fun new (mem : new ∈ after.bookings) =>
    changed_or_kept books.bookingIds.distinct found (relieves.bookings ▸ mem)
  have grows : db.nextId ≤ after.nextId := relieves.nextId
  refine ⟨?_, ?_, ?_, fun pair mem => ?_, fun pair mem => ?_, books.apart, fun new mem => ?_, fun new mem => ?_,
    fun new mem still => ?_, fun new mem isClosed => ?_⟩
  · rw [relieves.bookings]
    exact books.bookingIds.updateBy grows fun _ => rfl
  · rw [relieves.invoiceIds]
    exact books.invoiceIds.mono grows
  · rw [relieves.depositIds]
    exact books.depositIds.mono grows
  · exact (books.invoicePairs pair mem).imp grows.trans_lt' grows.trans_lt'
  · exact (books.depositPairs pair mem).imp grows.trans_lt' grows.trans_lt'
  · obtain rfl | ⟨listed, -⟩ := origin new mem
    · exact books.invoices row found
    · exact books.invoices new listed
  · obtain rfl | ⟨listed, -⟩ := origin new mem
    · exact books.deposits row found
    · exact books.deposits new listed
  · obtain rfl | ⟨listed, ne⟩ := origin new mem
    · exact absurd closes still
    · intro id link
      obtain ⟨invoice, kept, rfl, facts⟩ := books.blocks new listed still id link
      refine ⟨invoice, relieves.others invoice kept fun same => ?_, rfl, facts⟩
      exact ne (books.same_booking (books.invoice_pair listed link) (own invoice.id same.symm))
  · obtain rfl | ⟨listed, -⟩ := origin new mem
    · rcases fits with already | ⟨rfl, rfl⟩
      · exact (books.released row found already).mono relieves
      · exact ⟨fun new mem link => relieves.deposit new mem link, fun new mem link => relieves.invoice new mem link⟩
    · exact (books.released new listed isClosed).mono relieves

theorem confirmed {row : Booking} (found : row ∈ db.bookings) (opened : ¬ isClosed row) :
    MoneyBooks (updateBooking db row.id fun row => { row with status := .confirmed }) issued := by
  have origin := fun new (mem : new ∈ (updateBooking db row.id fun row => { row with status := .confirmed }).bookings) =>
    changed_or_kept books.bookingIds.distinct found mem
  refine ⟨books.bookingIds.updateBy le_rfl fun _ => rfl, books.invoiceIds, books.depositIds, books.invoicePairs,
    books.depositPairs, books.apart, fun new mem => ?_, fun new mem => ?_, fun new mem still => ?_,
    fun new mem isClosed => ?_⟩
  · obtain rfl | ⟨listed, -⟩ := origin new mem
    · exact books.invoices row found
    · exact books.invoices new listed
  · obtain rfl | ⟨listed, -⟩ := origin new mem
    · exact books.deposits row found
    · exact books.deposits new listed
  · obtain rfl | ⟨listed, -⟩ := origin new mem
    · exact books.blocks row found opened
    · exact books.blocks new listed still
  · obtain rfl | ⟨listed, -⟩ := origin new mem
    · exact absurd isClosed (by simp [Facility.isClosed])
    · exact books.released new listed isClosed

theorem created {row : Booking} (assigned : row.id = db.nextId) (opened : ¬ isClosed row)
    (unlinked : row.invoiceId = none ∧ row.depositId = none) :
    MoneyBooks { db with bookings := db.bookings ++ [row], nextId := db.nextId + 1 } issued := by
  have grows := Nat.lt_succ_self db.nextId
  have unknown : ∀ pairs : List (Id × Id), (∀ pair ∈ pairs, pair.1 < db.nextId ∧ pair.2 < db.nextId) →
      issuedTo pairs row.id = [] := by
    intro pairs below
    rw [eq_nil_iff_forall_not_mem]
    intro id mem
    have less := (below _ (mem_issuedTo.mp mem)).1
    rw [assigned] at less
    exact lt_irrefl _ less
  have origin : ∀ new ∈ db.bookings ++ [row], new ∈ db.bookings ∨ new = row := fun new mem =>
    (mem_append.mp mem).imp_right mem_singleton.mp
  refine ⟨books.bookingIds.insert assigned grows, books.invoiceIds.mono grows.le, books.depositIds.mono grows.le,
    fun pair mem => (books.invoicePairs pair mem).imp grows.trans' grows.trans',
    fun pair mem => (books.depositPairs pair mem).imp grows.trans' grows.trans', books.apart,
    fun new mem => ?_, fun new mem => ?_, fun new mem still => ?_, fun new mem isClosed => ?_⟩
  · rcases origin new mem with listed | rfl
    · exact books.invoices new listed
    · rw [unknown _ books.invoicePairs, unlinked.1]
      rfl
  · rcases origin new mem with listed | rfl
    · exact books.deposits new listed
    · rw [unknown _ books.depositPairs, unlinked.2]
      rfl
  · rcases origin new mem with listed | rfl
    · exact books.blocks new listed still
    · intro id link
      rw [unlinked.1] at link
      cases link
  · rcases origin new mem with listed | rfl
    · exact books.released new listed isClosed
    · exact absurd isClosed opened

end MoneyBooks

/-! ## Runs -/

def InFlight.Knows (issued : Issued) : InFlight → Prop
  | .cancelling _ booking => ∀ id ∈ booking.invoiceId, (booking.id, id) ∈ issued.invoices
  | _ => True

structure MoneyState (state : BookingState × Issued) : Prop where
  books : MoneyBooks state.1.db state.2
  calls : ∀ call ∈ state.1.calls, call.Knows state.2

variable {call : InFlight}

theorem InFlight.Knows.record {issued : Issued} {id : Id} (knows : call.Knows issued) :
    call.Knows (issued.record id db after) := by
  cases call with
  | cancelling actor booking => exact fun id link => mem_append_left _ (knows id link)
  | creating | approving | rejecting => trivial

theorem MoneyBooks.read {issued : Issued} {request : BookingRequest} (books : MoneyBooks db issued)
    (reads : request.read env residency now db = .ok call) : call.Knows issued := by
  cases request with
  | create actor dto =>
    simp only [BookingRequest.read, bind_eq_ok, pure_eq_ok] at reads
    obtain ⟨_, _, _, _, _, _, _, _, _, _, rfl⟩ := reads
    trivial
  | approve actor id =>
    simp only [BookingRequest.read, bind_eq_ok, pure_eq_ok] at reads
    obtain ⟨_, _, _, _, _, _, _, _, rfl⟩ := reads
    trivial
  | reject actor id =>
    simp only [BookingRequest.read, bind_eq_ok, pure_eq_ok] at reads
    obtain ⟨_, _, _, _, _, _, rfl⟩ := reads
    trivial
  | cancel actor id =>
    simp only [BookingRequest.read, bind_eq_ok, orThrow_eq_ok, pure_eq_ok] at reads
    obtain ⟨booking, found, _, _, _, _, rfl⟩ := reads
    exact fun id link => books.invoice_pair (mem_of_findBy found).1 link

theorem MoneyBooks.commit {issued : Issued} {calls : List InFlight} (books : MoneyBooks db issued)
    (knows : call.Knows issued) (timely : Timely (⟨db, calls⟩, issued) (.commit now call))
    (commits : call.commit env now db = .ok after) : MoneyBooks after (issued.record (call.bookingId db) db after) := by
  cases call with
  | creating actor facility dto =>
    simp only [InFlight.commit, bind_eq_ok] at commits
    obtain ⟨_, _, commits⟩ := commits
    have opened : ¬ isClosed (dto.row facility actor db.nextId) := by
      unfold isClosed CreateBookingDto.row
      split <;> simp
    have created := books.created (Eq.refl (dto.row facility actor db.nextId).id) opened ⟨rfl, rfl⟩
    split at commits
    · cases commits
      rw [Issued.record_bookings]
      exact created
    · exact created.settled (mem_append_right _ (mem_singleton.mpr rfl)) opened (fun _ => .inl rfl) commits
  | approving actor booking facility =>
    simp only [InFlight.commit, requireBooking, bind_eq_ok, orThrow_eq_ok] at commits
    obtain ⟨_, _, row, read, settle⟩ := commits
    obtain ⟨opened, unlinked⟩ := timely row read
    obtain ⟨found, same⟩ := mem_of_findBy read
    rw [← same] at settle
    have confirmed := books.confirmed found opened
    show MoneyBooks after (issued.record booking.id db after)
    rw [← same]
    have isOpen : ¬ isClosed { row with status := .confirmed } := by simp [isClosed]
    have mem : { row with status := .confirmed } ∈
        (updateBooking db row.id fun row => { row with status := .confirmed }).bookings := change_mem_updateBy found
    have settled := confirmed.settled mem isOpen unlinked settle
    exact settled
  | rejecting booking =>
    simp only [InFlight.commit, requireBooking, bind_eq_ok, orThrow_eq_ok, pure_eq_ok] at commits
    obtain ⟨row, read, rfl⟩ := commits
    obtain ⟨found, same⟩ := mem_of_findBy read
    rw [updateBooking, Issued.record_bookings, ← same]
    exact books.closed found (.inr rfl) (by simp) (timely row read) .rfl
  | cancelling actor booking =>
    simp only [InFlight.commit, requireBooking, bind_eq_ok, orThrow_eq_ok] at commits
    obtain ⟨row, read, released, release, void⟩ := commits
    obtain ⟨found, same⟩ := mem_of_findBy read
    have first := releaseDeposit_relieves release books.depositIds.distinct
    have second := voidFee_relieves void (first.invoiceIds ▸ books.invoiceIds.distinct)
    have relieves := first.trans second
    have unchanged : issued.record booking.id db after = issued :=
      Issued.record_same relieves.invoiceIds relieves.depositIds
    show MoneyBooks after (issued.record booking.id db after)
    rw [unchanged]
    rw [← same] at relieves
    exact books.closed found (.inl rfl) (same ▸ knows) (timely row read) relieves

theorem MoneyState.step {before after : BookingState × Issued} {event : BookingEvent} (state : MoneyState before)
    (timely : Timely before event) (step : IssuingStep env residency before event after) : MoneyState after := by
  cases step with
  | read step =>
    cases step with
    | read reads =>
      refine ⟨state.books, fun call mem => ?_⟩
      rcases mem_append.mp mem with earlier | new
      · exact state.calls call earlier
      · obtain rfl := mem_singleton.mp new
        exact state.books.read reads
  | commit step =>
    cases step with
    | commit commits =>
      refine ⟨state.books.commit (state.calls _ (by simp)) timely commits, fun other mem => ?_⟩
      exact (state.calls other (mem_others mem)).record
    | abort _ =>
      refine ⟨?_, fun other mem => (state.calls other (mem_others mem)).record⟩
      rw [Issued.record_same rfl rfl]
      exact state.books
  | updateFacility step =>
    cases step with
    | updateFacility updates =>
      simp only [updateFacility, bind_eq_ok, pure_eq_ok] at updates
      obtain ⟨_, _, _, _, _, _, rfl⟩ := updates
      obtain ⟨bookingIds, invoiceIds, depositIds, invoicePairs, depositPairs, apart, invoices, deposits, blocks,
        released⟩ := state.books
      exact ⟨⟨bookingIds, invoiceIds, depositIds, invoicePairs, depositPairs, apart, invoices, deposits, blocks,
        released⟩, state.calls⟩

/-! ## Closed bookings -/

structure StaysClosed (id : Id) (db : Db) : Prop where
  known : id < db.nextId
  closed : ∀ row ∈ db.bookings, row.id = id → isClosed row

namespace StaysClosed

variable {id : Id}

theorem calendar (stays : StaysClosed id db) (same : SameCalendar db after) : StaysClosed id after where
  known := stays.known.trans_le same.grows
  closed row mem own := by
    obtain ⟨old, listed, equal⟩ := same.booking_origin mem
    simp only [calendarOf, CalendarEntry.mk.injEq] at equal
    have closed := stays.closed old listed (equal.1.trans own)
    rwa [isClosed, equal.2.2.1] at closed

theorem statusChanged (stays : StaysClosed id db) {changed : Id} {status : BookingStatus}
    (fits : changed = id → status = .cancelled ∨ status = .rejected) :
    StaysClosed id (updateBooking db changed fun row => { row with status := status }) where
  known := stays.known
  closed row mem own := by
    obtain ⟨old, listed, rfl⟩ := mem_updateBy.mp mem
    split at own
    · rename_i same
      rw [if_pos same]
      exact fits (same.symm.trans own)
    · rename_i other
      rw [if_neg other]
      exact stays.closed old listed own

theorem commit {issued : Issued} {call : InFlight} {calls : List InFlight} (stays : StaysClosed id db)
    (timely : Timely (⟨db, calls⟩, issued) (.commit now call)) (commits : call.commit env now db = .ok after) :
    StaysClosed id after := by
  cases call with
  | creating actor facility dto =>
    simp only [InFlight.commit, bind_eq_ok] at commits
    obtain ⟨_, _, commits⟩ := commits
    have created : StaysClosed id
        { db with bookings := db.bookings ++ [dto.row facility actor db.nextId], nextId := db.nextId + 1 } := by
      refine ⟨stays.known.trans (Nat.lt_succ_self _), fun row mem own => ?_⟩
      rcases mem_append.mp mem with old | new
      · exact stays.closed row old own
      · obtain rfl := mem_singleton.mp new
        exact absurd own stays.known.ne'
    split at commits
    · cases commits
      exact created
    · exact created.calendar (settleMoney_calendar commits)
  | approving actor booking facility =>
    simp only [InFlight.commit, requireBooking, bind_eq_ok, orThrow_eq_ok] at commits
    obtain ⟨_, _, row, read, settle⟩ := commits
    obtain ⟨found, same⟩ := mem_of_findBy read
    have confirmed : StaysClosed id (updateBooking db booking.id fun row => { row with status := .confirmed }) :=
      stays.statusChanged fun own => absurd (stays.closed row found (same.trans own)) (timely row read).1
    exact confirmed.calendar (settleMoney_calendar settle)
  | rejecting booking =>
    simp only [InFlight.commit, bind_eq_ok, pure_eq_ok] at commits
    obtain ⟨_, _, rfl⟩ := commits
    exact stays.statusChanged fun _ => .inr rfl
  | cancelling actor booking =>
    simp only [InFlight.commit, bind_eq_ok] at commits
    obtain ⟨_, _, released, release, void⟩ := commits
    have cancelled : StaysClosed id (updateBooking db booking.id fun row => { row with status := .cancelled }) :=
      stays.statusChanged fun _ => .inl rfl
    exact (cancelled.calendar (releaseDeposit_calendar release)).calendar (voidFee_calendar void)

theorem step {before after : BookingState × Issued} {event : BookingEvent} (stays : StaysClosed id before.1.db)
    (timely : Timely before event) (step : IssuingStep env residency before event after) :
    StaysClosed id after.1.db := by
  cases step with
  | read step =>
    cases step
    exact stays
  | commit step =>
    cases step with
    | commit commits => exact stays.commit timely commits
    | abort _ => exact stays
  | updateFacility step =>
    cases step with
    | updateFacility updates =>
      simp only [updateFacility, bind_eq_ok, pure_eq_ok] at updates
      obtain ⟨_, _, _, _, _, _, rfl⟩ := updates
      exact ⟨stays.known, stays.closed⟩

end StaysClosed

/-- Money follows the status while no transaction meets a booking that has moved on since it was read. -/
theorem booking_money {before after : BookingState × Issued} {log more : List BookingEvent}
    (noBookings : db.bookings = []) (invoiceIds : Allocated (db.invoices.map Invoice.id) db.nextId)
    (depositIds : Allocated (db.deposits.map Deposit.id) db.nextId)
    (run : Run (Guarded Timely (IssuingStep env residency)) (⟨db, []⟩, ⟨[], []⟩) log before)
    (later : Run (Guarded Timely (IssuingStep env residency)) before more after) :
    MoneyFollows before.1.db before.2 ∧ ∀ booking ∈ before.1.db.bookings, isClosed booking →
      ∀ row ∈ after.1.db.bookings, row.id = booking.id → row.status ≠ .confirmed := by
  have start : MoneyState (⟨db, []⟩, ⟨[], []⟩) := by
    refine ⟨⟨?_, invoiceIds, depositIds, by simp, by simp, List.nodup_nil, ?_, ?_, ?_, ?_⟩, by simp⟩
    · rw [noBookings]
      exact .nil
    all_goals simp [noBookings]
  have state := run.invariant (fun _ _ _ state move => state.step move.1 move.2) start
  refine ⟨state.books.follows, fun booking found closed row member same => ?_⟩
  have stays : StaysClosed booking.id before.1.db := by
    refine ⟨state.books.bookingIds.below _ (List.mem_map_of_mem found), fun other listed own => ?_⟩
    obtain rfl := eq_of_key_eq state.books.bookingIds.distinct listed found own
    exact closed
  have kept : ∀ first event (last : BookingState × Issued), StaysClosed booking.id first.1.db →
      Guarded Timely (IssuingStep env residency) first event last → StaysClosed booking.id last.1.db :=
    fun _ _ _ stays move => stays.step move.1 move.2
  intro confirmed
  have closed := (later.invariant kept stays).closed row member same
  rw [isClosed, confirmed] at closed
  simp at closed

namespace Sample

def lentHallDb : Db := { Billing.Sample.ratedDb with
  facilities := [⟨4, 5, "Hall", true, true, none, some 5000, 0, 1440, 60, 1⟩] }

structure Story where
  creating : InFlight
  booked : Db
  approving : InFlight
  cancelling : InFlight
  confirmed : Db
  cancelled : Db

def hourId : Id := Billing.Sample.ratedDb.nextId

def request (db : Db) (request : BookingRequest) : Result InFlight :=
  request.read Billing.Sample.env everyone 0 db

def commit (db : Db) (call : InFlight) : Result Db := call.commit Billing.Sample.env 0 db

def overlapping : Result Story := do
  let creating ← request lentHallDb (hour 7200000)
  let booked ← commit lentHallDb creating
  let approving ← request booked (.approve Billing.Sample.admin hourId)
  let cancelling ← request booked (.cancel Billing.Sample.admin hourId)
  let confirmed ← commit booked approving
  let cancelled ← commit confirmed cancelling
  return ⟨creating, booked, approving, cancelling, confirmed, cancelled⟩

def holdsDeposit (db : Db) (issued : Issued) : Bool :=
  db.bookings.any fun booking => decide (booking.status = .cancelled) &&
    (issuedTo issued.deposits booking.id).any fun depositId =>
      (db.deposit? depositId).any fun deposit => decide (depositHeldAmount deposit ≠ 0)

theorem holdsDeposit_breaks {issued : Issued} (holds : holdsDeposit db issued = true) : ¬ MoneyFollows db issued := by
  intro follows
  simp only [holdsDeposit, any_eq_true, Bool.and_eq_true, decide_eq_true_eq, Option.any_eq_true] at holds
  obtain ⟨booking, found, cancelled, depositId, mem, deposit, read, held⟩ := holds
  exact held (follows.released booking found (.inl cancelled) depositId mem deposit read)

theorem run_overlapping {story : Story} (done : overlapping = .ok story) : ∃ log,
    Run (IssuingStep Billing.Sample.env everyone) (⟨lentHallDb, []⟩, ⟨[], []⟩) log (⟨story.cancelled, []⟩,
      (((⟨[], []⟩ : Issued).record (story.creating.bookingId lentHallDb) lentHallDb story.booked).record
        (story.approving.bookingId story.booked) story.booked story.confirmed).record
        (story.cancelling.bookingId story.confirmed) story.confirmed story.cancelled) := by
  simp only [overlapping, bind_eq_ok, pure_eq_ok] at done
  obtain ⟨creating, create, booked, book, approving, approve, cancelling, cancel, confirmed, confirm, cancelled, close,
    rfl⟩ := done
  have first : BookingStep Billing.Sample.env everyone ⟨lentHallDb, []⟩ _ ⟨lentHallDb, [creating]⟩ := .read create
  have second : BookingStep Billing.Sample.env everyone ⟨lentHallDb, [creating]⟩ _ ⟨booked, []⟩ :=
    @BookingStep.commit _ _ _ _ [] [] _ _ book
  have third : BookingStep Billing.Sample.env everyone ⟨booked, []⟩ _ ⟨booked, [approving]⟩ := .read approve
  have fourth : BookingStep Billing.Sample.env everyone ⟨booked, [approving]⟩ _ ⟨booked, [approving, cancelling]⟩ :=
    .read cancel
  have fifth : BookingStep Billing.Sample.env everyone ⟨booked, [approving, cancelling]⟩ _ ⟨confirmed, [cancelling]⟩ :=
    @BookingStep.commit _ _ _ _ [] [cancelling] _ _ confirm
  have sixth : BookingStep Billing.Sample.env everyone ⟨confirmed, [cancelling]⟩ _ ⟨cancelled, []⟩ :=
    @BookingStep.commit _ _ _ _ [] [] _ _ close
  exact ⟨_, ((((Run.single (.read first)).snoc (.commit second)).snoc (.read third)).snoc (.read fourth)).snoc
    (.commit fifth) |>.snoc (.commit sixth)⟩

end Sample

theorem booking_money_booked : ∃ state : BookingState × Issued, state.1.db.bookings.length = 1 ∧
    MoneyFollows state.1.db state.2 := by
  obtain ⟨call, read, booked, commit, count⟩ := Sample.hour_reads
  have reads : BookingStep Billing.Sample.env Sample.everyone ⟨Sample.hallDb, []⟩ (.read (Sample.hour 7200000))
      ⟨Sample.hallDb, [call]⟩ := .read read
  have commits : BookingStep Billing.Sample.env Sample.everyone ⟨Sample.hallDb, [call]⟩ (.commit 0 call) ⟨booked, []⟩ :=
    @BookingStep.commit _ _ _ _ [] [] _ _ commit
  have first : Run (Guarded Timely (IssuingStep Billing.Sample.env Sample.everyone)) (⟨Sample.hallDb, []⟩, ⟨[], []⟩)
      [.read (Sample.hour 7200000)] (⟨Sample.hallDb, [call]⟩, ⟨[], []⟩) := .single ⟨trivial, .read reads⟩
  have timely : Timely (⟨Sample.hallDb, [call]⟩, ⟨[], []⟩) (.commit 0 call) := by
    simp only [Sample.hour, BookingRequest.read, bind_eq_ok, pure_eq_ok] at read
    obtain ⟨_, _, _, _, _, _, _, _, _, _, rfl⟩ := read
    trivial
  have run := first.snoc ⟨timely, .commit commits⟩
  have invoiceIds : Allocated (Sample.hallDb.invoices.map Invoice.id) Sample.hallDb.nextId := .nil
  have depositIds : Allocated (Sample.hallDb.deposits.map Deposit.id) Sample.hallDb.nextId := .nil
  exact ⟨_, count, (booking_money rfl invoiceIds depositIds run .done).1⟩

theorem booking_money_overlapping : ¬ ∀ (env : Env) (residency : Residency) (db : Db) (log : List BookingEvent)
    (after : BookingState × Issued), db.bookings = [] → Allocated (db.invoices.map Invoice.id) db.nextId →
    Allocated (db.deposits.map Deposit.id) db.nextId →
    Run (IssuingStep env residency) (⟨db, []⟩, ⟨[], []⟩) log after → MoneyFollows after.1.db after.2 := by
  intro follows
  have ends : Sample.overlapping.map (fun story => Sample.holdsDeposit story.cancelled
      ((((⟨[], []⟩ : Issued).record (story.creating.bookingId Sample.lentHallDb) Sample.lentHallDb story.booked).record
        (story.approving.bookingId story.booked) story.booked story.confirmed).record
        (story.cancelling.bookingId story.confirmed) story.confirmed story.cancelled)) = .ok true := by
    decide +kernel
  obtain ⟨story, done, holds⟩ := map_eq_ok.mp ends
  obtain ⟨log, run⟩ := Sample.run_overlapping done
  have invoiceIds : Allocated (Sample.lentHallDb.invoices.map Invoice.id) Sample.lentHallDb.nextId := .nil
  have depositIds : Allocated (Sample.lentHallDb.deposits.map Deposit.id) Sample.lentHallDb.nextId := .nil
  exact Sample.holdsDeposit_breaks holds (follows _ _ _ _ _ rfl invoiceIds depositIds run)

end SmartResidence.Facility
