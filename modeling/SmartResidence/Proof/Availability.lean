import Mathlib.Tactic.Linarith
import SmartResidence.Facility.BookingCalls
import SmartResidence.Proof.MonthlyBills

/-!
# Accepted bookings and the opening hours

Only the local minutes of the two ends are compared.
-/

namespace SmartResidence.Facility

open Foundation Billing

section

variable (offset : Instant → ℤ)

def dayMs : ℤ := 86400000

def timeOfDay (t : Instant) : ℤ := (t + offset t) % dayMs

def Steady (first last : Instant) : Prop := ∀ t, first ≤ t → t < last → offset t = offset first

def ReadsClock (env : Env) : Prop := ∀ t, (env.localMinute t : ℤ) = timeOfDay offset t / 60000

def OpenAt (facility : Facility) (t : Instant) : Prop :=
  facility.openMinute * 60000 ≤ timeOfDay offset t ∧ timeOfDay offset t ≤ facility.closeMinute * 60000

def OpenThroughout (facility : Facility) (start stop : Instant) : Prop := ∀ t, start ≤ t → t < stop → OpenAt offset facility t

/-- The interval closes in time: from its start, and from each change of the clock in it, to its end or the next change. And no
change sets the clock before the opening time. -/
structure ClosesInTime (facility : Facility) (start stop : Instant) : Prop where
  changes : ∀ first, start < first → first < stop → offset first ≠ offset (first - 1) →
    facility.openMinute * 60000 ≤ timeOfDay offset first
  ends : ∀ first last, start ≤ first → first < last → last ≤ stop → first = start ∨ offset first ≠ offset (first - 1) →
    Steady offset first last → last - first ≤ facility.closeMinute * 60000 - timeOfDay offset first + 1

end

section

variable {offset : Instant → ℤ} {facility : Facility} {start stop t : Instant}

theorem timeOfDay_later {first t : ℤ} (same : offset t = offset first) (later : first ≤ t)
    (fits : timeOfDay offset first + (t - first) < dayMs) : timeOfDay offset t = timeOfDay offset first + (t - first) := by
  unfold timeOfDay dayMs at *
  omega

theorem last_change (offset : Instant → ℤ) {start t : ℤ} (after : start ≤ t) :
    ∃ first, start ≤ first ∧ first ≤ t ∧ (first = start ∨ offset first ≠ offset (first - 1)) ∧
      Steady offset first (t + 1) := by
  have alone : ∀ t : ℤ, Steady offset t (t + 1) := by
    intro t other first last
    rw [le_antisymm (Int.lt_add_one_iff.mp last) first]
  induction t, after using Int.leInduction with
  | base => exact ⟨start, le_rfl, le_rfl, .inl rfl, alone start⟩
  | succ t after ih =>
    obtain ⟨first, begins, before, changed, steady⟩ := ih
    by_cases same : offset (t + 1) = offset t
    · refine ⟨first, begins, by linarith, changed, fun other low high => ?_⟩
      rcases lt_or_eq_of_le (Int.lt_add_one_iff.mp high) with early | rfl
      · exact steady other low early
      · exact same.trans (steady t before (Int.lt_succ t))
    · refine ⟨t + 1, by linarith, le_rfl, .inr ?_, alone (t + 1)⟩
      rwa [Int.add_sub_cancel]

theorem closesInTime_of_open (ofDay : facility.closeMinute < 1440) (opened : OpenThroughout offset facility start stop) :
    ClosesInTime offset facility start stop where
  changes := fun first begins ends _ => (opened first begins.le ends).1
  ends := by
    intro first last begins longer mem _ steady
    have high := (opened first begins (longer.trans_le mem)).2
    by_contra late
    -- The first millisecond after the closing time.
    have past : first ≤ first + (facility.closeMinute * 60000 - timeOfDay offset first) + 1 := by linarith
    have within : first + (facility.closeMinute * 60000 - timeOfDay offset first) + 1 < last := by linarith
    have day : (facility.closeMinute : ℤ) * 60000 + 1 < dayMs := by
      unfold dayMs
      omega
    have time := timeOfDay_later (steady _ past within) past (by linarith)
    have closed := (opened _ (begins.trans past) (within.trans_le mem)).2
    linarith

theorem open_of_closesInTime (ofDay : facility.closeMinute < 1440) (opened : facility.openMinute * 60000 ≤ timeOfDay offset start)
    (closes : ClosesInTime offset facility start stop) : OpenThroughout offset facility start stop := by
  intro t after before
  obtain ⟨first, begins, early, changed, steady⟩ := last_change offset after
  have low : facility.openMinute * 60000 ≤ timeOfDay offset first := by
    rcases changed with rfl | changed
    · exact opened
    · rcases lt_or_eq_of_le begins with later | rfl
      · exact closes.changes first later (early.trans_lt before) changed
      · exact opened
  have inTime := closes.ends first (t + 1) begins (Int.lt_add_one_iff.mpr early) before changed steady
  have day : (facility.closeMinute : ℤ) * 60000 < dayMs := by
    unfold dayMs
    omega
  have time := timeOfDay_later (steady t early (Int.lt_succ t)) early (by linarith)
  unfold OpenAt
  constructor
  · linarith
  · linarith

theorem closesInTime_fixed {ahead : ℤ} (fixed : ∀ t, offset t = ahead) (pos : start < stop) :
    ClosesInTime offset facility start stop ↔ stop - start ≤ facility.closeMinute * 60000 - timeOfDay offset start + 1 := by
  have unchanged : ∀ t, ¬ offset t ≠ offset (t - 1) := fun t changed => changed ((fixed t).trans (fixed (t - 1)).symm)
  constructor
  · intro closes
    exact closes.ends start stop le_rfl pos le_rfl (.inl rfl) fun t _ _ => (fixed t).trans (fixed start).symm
  · intro inTime
    refine ⟨fun first _ _ changed => absurd changed (unchanged first), fun first last _ _ mem begins _ => ?_⟩
    obtain rfl := begins.resolve_right (unchanged first)
    linarith

theorem accepted_opens {env : Env} {now : Instant} (clock : ReadsClock offset env)
    (accepted : validateInterval env now facility start stop = .ok ()) :
    start < stop ∧ facility.openMinute * 60000 ≤ timeOfDay offset start := by
  simp only [validateInterval, bind_eq_ok, throwIf_eq_ok, not_le, not_lt, not_or, exists_const] at accepted
  obtain ⟨pos, -, -, opens, -⟩ := accepted
  have minute : (facility.openMinute : ℤ) ≤ timeOfDay offset start / 60000 := by
    rw [← clock start]
    exact_mod_cast opens
  exact ⟨pos, (Int.le_ediv_iff_mul_le (by norm_num)).mp minute⟩

/-- An accepted booking is within the opening hours exactly if it closes in time. -/
theorem open_throughout_iff {env : Env} {now : Instant} (ofDay : facility.closeMinute < 1440) (clock : ReadsClock offset env)
    (accepted : validateInterval env now facility start stop = .ok ()) :
    OpenThroughout offset facility start stop ↔ ClosesInTime offset facility start stop :=
  ⟨closesInTime_of_open ofDay, open_of_closesInTime ofDay (accepted_opens clock accepted).2⟩

end

namespace Sample

def utc : Env := { Billing.Sample.env with localMinute := fun t => (t / 60000 % 1440).toNat }

theorem utc_clock : ReadsClock (fun _ => 0) utc := by
  intro t
  show ((t / 60000 % 1440).toNat : ℤ) = (t + 0) % 86400000 / 60000
  have whole : ∀ n : ℤ, n / 60000 % 1440 = (n + 0) % 86400000 / 60000 := by
    omega
  rw [← whole t]
  exact Int.toNat_of_nonneg (Int.emod_nonneg _ (by norm_num))

def court : Facility := ⟨4, 5, "Court", true, false, none, none, 480, 1320, 60, 1⟩

def hourMs : Instant := 3600000

theorem court_accepts {start stop : Instant}
    (admits : start < stop ∧ 0 ≤ start ∧ 60 * 60000 ≤ stop - start ∧ 480 ≤ utc.localMinute start ∧ utc.localMinute stop ≤ 1320) :
    validateInterval utc 0 court start stop = .ok () := by
  obtain ⟨pos, future, long, opens, closes⟩ := admits
  simp only [validateInterval, bind_eq_ok, throwIf_eq_ok, not_le, not_lt, not_or, exists_const]
  refine ⟨pos, ?_, long, opens, closes⟩
  linarith

end Sample

theorem night_booked : ∃ start stop, validateInterval Sample.utc 0 Sample.court start stop = .ok () ∧
    ¬ OpenThroughout (fun _ => 0) Sample.court start stop := by
  refine ⟨8 * Sample.hourMs, 34 * Sample.hourMs, Sample.court_accepts (by decide), fun opened => ?_⟩
  have night := (opened (23 * Sample.hourMs) (by decide) (by decide)).2
  exact absurd night (by decide)

theorem open_throughout_morning : OpenThroughout (fun _ => 0) Sample.court (8 * Sample.hourMs) (9 * Sample.hourMs) := by
  refine (open_throughout_iff (by decide) Sample.utc_clock (Sample.court_accepts (by decide))).mpr ?_
  exact (closesInTime_fixed (fun _ => rfl) (by decide)).mpr (by decide)

variable {env : Env} {db : Db} {now : Instant} {facility : Facility}

def Bookable (env : Env) (now : Instant) (db : Db) (facility : Facility) (start stop : Instant) : Prop :=
  validateInterval env now facility start stop = .ok () ∧ assertNoConflict db facility start stop none = .ok ()

def inWindow (env : Env) (facility : Facility) (start stop : Instant) : Prop :=
  facility.openMinute ≤ env.localMinute start ∧ env.localMinute stop ≤ facility.closeMinute

def isFull (db : Db) (facility : Facility) (start stop : Instant) : Prop :=
  facility.maxConcurrent ≤ db.bookings.countP (overlaps facility start stop none)

theorem bookable_iff {start stop : Instant} : Bookable env now db facility start stop ↔
    start < stop ∧ now - 60000 ≤ start ∧ facility.slotMinutes * 60000 ≤ stop - start ∧
      inWindow env facility start stop ∧ ¬ isFull db facility start stop := by
  unfold Bookable validateInterval assertNoConflict inWindow isFull
  simp only [bind_eq_ok, throwIf_eq_ok, not_le, not_lt, not_or, exists_const, and_assoc]

variable {bookings : List Booking} {dayEnd : Instant} {slot : Slot}

theorem mem_slotsFrom {t : Instant} (mem : slot ∈ slotsFrom facility bookings now dayEnd t) :
    ∃ k : ℕ, slot = slotAt facility bookings now (t + k * slotMs facility) ∧ 0 < slotMs facility ∧
      t + k * slotMs facility + slotMs facility ≤ dayEnd + 1 := by
  induction t using slotsFrom.induct facility dayEnd with
  | case1 t more ih =>
    rw [slotsFrom, dif_pos more, List.mem_cons] at mem
    rcases mem with rfl | later
    · exact ⟨0, by simp, more.1, by simpa using more.2⟩
    · obtain ⟨k, same, pos, fits⟩ := ih later
      have next : t + slotMs facility + k * slotMs facility = t + (k + 1 : ℕ) * slotMs facility := by
        push_cast
        ring
      rw [next] at same fits
      exact ⟨k + 1, same, pos, fits⟩
  | case2 t done =>
    rw [slotsFrom, dif_neg done] at mem
    cases mem

variable {id : Id}

theorem booked_eq (db : Db) (own : facility.id = id) {dayStart start stop : Instant} (begins : dayStart ≤ start)
    (ends : stop ≤ dayEnd) :
    (db.bookings.filter fun b => decide (b.facilityId = id ∧ (b.status = .pending ∨ b.status = .confirmed) ∧
      b.startAt < dayEnd ∧ dayStart < b.endAt)).countP (fun b => decide (b.startAt < stop ∧ start < b.endAt)) =
    db.bookings.countP (overlaps facility start stop none) := by
  rw [List.countP_filter]
  refine List.countP_congr fun b _ => ?_
  unfold overlaps
  rw [own, Bool.and_eq_true, decide_eq_true_eq, decide_eq_true_eq, decide_eq_true_eq]
  constructor
  · rintro ⟨⟨first, last⟩, ofFacility, isOpen, _⟩
    exact ⟨ofFacility, isOpen, first, last, by simp⟩
  · rintro ⟨ofFacility, isOpen, first, last, _⟩
    exact ⟨⟨first, last⟩, ofFacility, isOpen, first.trans_le ends, begins.trans_lt last⟩

theorem slot_within {dayStart dayEnd : ℤ} {k : ℕ}
    (fits : 1000 * dayStart + k * slotMs facility + slotMs facility ≤ 1000 * dayEnd + 1) :
    1000 * dayStart + k * slotMs facility + slotMs facility ≤ 1000 * dayEnd := by
  have whole : (k : ℤ) * slotMs facility + slotMs facility = 1000 * ((k + 1) * (facility.slotMinutes * 60)) := by
    unfold slotMs
    ring
  have seconds : dayStart + (k + 1) * (facility.slotMinutes * 60) ≤ dayEnd := by omega
  linarith

theorem availability_slot {localTime : CalendarDay → Nat → ℤ} {actor : AuthenticatedUser} {date : String}
    {shown : Availability} (found : db.facility? id = some facility)
    (answer : availability localTime now db actor id date = .ok shown) (mem : slot ∈ shown.slots) :
    0 < slotMs facility ∧ slot.endAt = slot.startAt + slotMs facility ∧
      (slot.available = true ↔ ¬ isFull db facility slot.startAt slot.endAt ∧ now - slotMs facility ≤ slot.startAt) := by
  simp only [availability, bind_eq_ok, orThrow_eq_ok, pure_eq_ok] at answer
  obtain ⟨row, read, _, _, day, _, rfl⟩ := answer
  obtain rfl := Option.some_inj.mp (found.symm.trans read)
  obtain ⟨k, rfl, pos, fits⟩ := mem_slotsFrom mem
  have begins : 1000 * localTime day facility.openMinute ≤
      1000 * localTime day facility.openMinute + k * slotMs facility := by
    have early : 0 ≤ (k : ℤ) * slotMs facility := mul_nonneg (Int.natCast_nonneg k) pos.le
    linarith
  have booked := booked_eq db (mem_of_findBy found).2 begins (slot_within fits)
  refine ⟨pos, rfl, ?_⟩
  simp only [slotAt, booked, decide_eq_true_eq, isFull]
  rw [Nat.sub_pos_iff_lt, not_le]

/-- A slot is shown as available exactly if it can be booked, unless it has begun more than a minute and less than its
length ago, or the local clock leaves the opening hours during it. -/
theorem availability_bookable {localTime : CalendarDay → Nat → ℤ} {actor : AuthenticatedUser} {id : Id} {date : String}
    {shown : Availability} (found : db.facility? id = some facility)
    (answer : availability localTime now db actor id date = .ok shown) :
    ∀ slot ∈ shown.slots, (slot.available = true ↔ Bookable env now db facility slot.startAt slot.endAt) ↔
      isFull db facility slot.startAt slot.endAt ∨ slot.startAt < now - slotMs facility ∨
        now - 60000 ≤ slot.startAt ∧ inWindow env facility slot.startAt slot.endAt := by
  intro slot member
  obtain ⟨positive, length, shown⟩ := availability_slot found answer member
  have minutes : 60000 ≤ slotMs facility := by
    unfold slotMs at positive ⊢
    have some : 0 < (facility.slotMinutes : ℤ) := by
      by_contra none
      exact absurd positive (not_lt.mpr (mul_nonpos_of_nonpos_of_nonneg (not_lt.mp none) (by norm_num)))
    linarith
  have some : slot.startAt < slot.endAt := by linarith
  have long : (facility.slotMinutes : ℤ) * 60000 ≤ slot.endAt - slot.startAt := by
    unfold slotMs at length
    linarith
  rw [shown, bookable_iff]
  by_cases full : isFull db facility slot.startAt slot.endAt
  · simp only [full, not_true_eq_false, false_and, and_false, true_or]
  · by_cases past : slot.startAt < now - slotMs facility
    · have gone : ¬ now - 60000 ≤ slot.startAt := by linarith
      have begun : ¬ now - slotMs facility ≤ slot.startAt := not_le.mpr past
      simp only [past, gone, begun, and_false, false_and, true_or, or_true]
    · have begun : now - slotMs facility ≤ slot.startAt := not_lt.mp past
      simp only [full, past, some, long, begun, not_false_eq_true, true_and, and_true, false_or, true_iff]

theorem head_mem_slotsFrom {t : Instant} (more : 0 < slotMs facility ∧ t + slotMs facility ≤ dayEnd + 1) :
    slotAt facility bookings now t ∈ slotsFrom facility bookings now dayEnd t := by
  rw [slotsFrom, dif_pos more]
  exact List.mem_cons_self

namespace Sample

def localTime (_ : CalendarDay) (minute : Nat) : ℤ := minute * 60

def hall : Facility := ⟨4, 5, "Hall", true, false, some 2000, none, 0, 1440, 60, 1⟩

theorem first_slot (now : Instant) : ∃ shown,
    availability localTime now hallDb Billing.Sample.admin 4 "2024-01-01" = .ok shown ∧
      ∃ slot ∈ shown.slots, slot.startAt = 0 ∧ slot.endAt = 3600000 := by
  have found : hallDb.facility? 4 = some hall := rfl
  have access : assertCondoAccess Billing.Sample.admin hall.condoId = .ok () := rfl
  have day : parseDate "2024-01-01" = .ok ⟨2024, 1, 1⟩ := by rfl
  refine ⟨⟨4, "2024-01-01", 60, 1, slotsFrom hall [] now (1000 * localTime ⟨2024, 1, 1⟩ hall.closeMinute)
    (1000 * localTime ⟨2024, 1, 1⟩ hall.openMinute)⟩, ?_, ?_⟩
  · unfold availability
    rw [bind_eq_ok]
    refine ⟨hall, orThrow_eq_ok.mpr found, ?_⟩
    rw [bind_eq_ok]
    refine ⟨(), access, ?_⟩
    rw [bind_eq_ok]
    exact ⟨⟨2024, 1, 1⟩, day, rfl⟩
  · refine ⟨_, head_mem_slotsFrom ?_, ?_, ?_⟩
    · norm_num [slotMs, hall, localTime]
    · norm_num [slotAt, hall, localTime]
    · norm_num [slotAt, slotMs, hall, localTime]

end Sample

theorem availability_bookable_hall : ∃ shown, ∃ slot ∈ Availability.slots shown,
    (slot.available = true ↔ Bookable Billing.Sample.env 0 Sample.hallDb Sample.hall slot.startAt slot.endAt) := by
  obtain ⟨shown, answer, slot, member, start, stop⟩ := Sample.first_slot 0
  refine ⟨shown, slot, member, (availability_bookable rfl answer slot member).mpr (.inr (.inr ⟨?_, ?_⟩))⟩
  · rw [start]
    norm_num
  · rw [start, stop]
    exact ⟨Nat.zero_le _, by decide⟩

theorem availability_begun : ¬ ∀ (env : Env) (localTime : CalendarDay → Nat → ℤ) (now : Instant) (db : Db)
    (actor : AuthenticatedUser) (id : Id) (date : String) (shown : Availability) (facility : Facility),
    db.facility? id = some facility → availability localTime now db actor id date = .ok shown →
    ∀ slot ∈ shown.slots, slot.available = true ↔ Bookable env now db facility slot.startAt slot.endAt := by
  intro agrees
  obtain ⟨shown, answer, slot, member, start, stop⟩ := Sample.first_slot 120000
  have found : Sample.hallDb.facility? 4 = some Sample.hall := rfl
  have same := agrees Billing.Sample.env _ _ _ _ _ _ _ _ found answer slot member
  obtain ⟨-, -, isAvailable⟩ := availability_slot found answer member
  rw [isAvailable, bookable_iff, start, stop] at same
  have free : ¬ isFull Sample.hallDb Sample.hall 0 3600000 := Nat.not_succ_le_zero 0
  have begun : (120000 : Instant) - slotMs Sample.hall ≤ 0 := by norm_num [slotMs, Sample.hall]
  have bookable := same.mp ⟨free, begun⟩
  norm_num at bookable

end SmartResidence.Facility
