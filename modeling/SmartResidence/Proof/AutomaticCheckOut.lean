import SmartResidence.Proof.CondoDays
import SmartResidence.Proof.VisitorLifecycle

/-!
# When an open visit is closed
-/

namespace SmartResidence.Visitors

open Foundation Billing List

variable {env : VisitorEnv} {db : VisitorDb} {condoId : Id} {visitor : Visitor} {active row : VisitorCheckIn}
  {closing : Closing} {closings : List Closing} {now : Instant} {zone : Instant → ℤ} {runs : List Instant}

def stayUntil (visitor : Visitor) : Option Instant :=
  if visitor.isWalkIn then none else if visitor.overnight then visitor.expiresAt else none

/-- The end of a visit: its expiry, but not before the check-in, or the midnight that ends the day of the check-in. -/
def Ends (zone : Instant → ℤ) (visitor : Visitor) (checkInAt value : Instant) : Prop :=
  match stayUntil visitor with
  | some stop => value = max stop checkInAt
  | none => IsLeast {t | zone checkInAt < zone t} value

/-- The runs in time: the stay does not expire before the check-in, or the first run on a later day is on the next day. -/
def InTime (zone : Instant → ℤ) (visitor : Visitor) (checkInAt : Instant) (runs : List Instant) : Prop :=
  match stayUntil visitor with
  | some stop => runs = [] ∨ checkInAt ≤ stop
  | none => ∀ now ∈ runs.find? fun now => decide (zone checkInAt < zone now),
      ∀ t, zone checkInAt < zone t → zone now ≤ zone t

def timezoneOf (db : VisitorDb) (condoId : Id) : String :=
  (db.condo? condoId).elim "Asia/Kuala_Lumpur" VisitorCondo.timezone

def sweeps (env : VisitorEnv) (condoId : Id) (runs : List Instant) (db : VisitorDb) : VisitorDb :=
  runs.foldl (fun db now => (autoCloseStaleVisitors env condoId now db).2) db

def checkOutOf (db : VisitorDb) (id : Id) : Option Instant :=
  (findBy VisitorCheckIn.id id db.checkIns).bind VisitorCheckIn.checkOutAt

structure OpenCheckIn (db : VisitorDb) (condoId : Id) (visitor : Visitor) (active : VisitorCheckIn) : Prop where
  visitorIds : (db.visitors.map Visitor.id).Nodup
  checkInIds : (db.checkIns.map VisitorCheckIn.id).Nodup
  member : visitor ∈ db.visitors
  ofCondo : visitor.condoId = condoId
  recorded : active ∈ db.checkIns
  own : active.visitorId = visitor.id
  isOpen : active.checkOutAt = none

def Picked (db : VisitorDb) (visitor : Visitor) (active : VisitorCheckIn) : Prop :=
  visitor.status = .checkedIn ∧ lastCheckIn db visitor.id = some active

/-! ## What a sweep writes -/

def Visitor.leave (visitor : Visitor) : Visitor := { visitor with status := .checkedOut }

def Closing.settle (db : VisitorDb) (closing : Closing) : VisitorDb :=
  { db with
    checkIns := updateBy VisitorCheckIn.id closing.checkInId closing.close db.checkIns
    visitors := updateBy Visitor.id closing.visitorId Visitor.leave db.visitors }

def Closing.Known (db : VisitorDb) (closing : Closing) : Prop :=
  closing.checkInId ∈ db.checkIns.map VisitorCheckIn.id ∧ closing.visitorId ∈ db.visitors.map Visitor.id

def Closing.recordAfter (row : VisitorCheckIn) (closing : Closing) : VisitorCheckIn :=
  if row.id = closing.checkInId then closing.close row else row

def Closing.visitorAfter (visitor : Visitor) (closing : Closing) : Visitor :=
  if visitor.id = closing.visitorId then visitor.leave else visitor

theorem Closing.run_known (known : closing.Known db) : closing.run env db = (.ok (), closing.settle db) := by
  obtain ⟨record, listed, own⟩ := mem_map.mp known.1
  obtain ⟨guest, here, same⟩ := mem_map.mp known.2
  have found : (findBy VisitorCheckIn.id closing.checkInId db.checkIns).isSome := findBy_isSome.mpr ⟨record, listed, own⟩
  have found' : (findBy Visitor.id closing.visitorId db.visitors).isSome := findBy_isSome.mpr ⟨guest, here, same⟩
  obtain ⟨record, reads⟩ := Option.isSome_iff_exists.mp found
  obtain ⟨guest, reads'⟩ := Option.isSome_iff_exists.mp found'
  have closes : closing.closeRecord db =
      .ok { db with checkIns := updateBy VisitorCheckIn.id closing.checkInId closing.close db.checkIns } := by
    rw [Closing.closeRecord, reads]
    rfl
  have leaves : ∀ checkIns, (Ending.update .checkOut).commit env { db with checkIns := checkIns } closing.visitorId =
      .ok { db with checkIns := checkIns, visitors := updateBy Visitor.id closing.visitorId Visitor.leave db.visitors } := by
    intro checkIns
    have required : requireVisitor { db with checkIns := checkIns } closing.visitorId = .ok guest := by
      unfold requireVisitor VisitorDb.visitor?
      rw [reads']
      rfl
    rw [Ending.commit, required]
    rfl
  have rest : ∀ recorded : VisitorCall Unit, recorded db =
      (.ok (), { db with checkIns := updateBy VisitorCheckIn.id closing.checkInId closing.close db.checkIns }) →
      (recorded >>= fun _ => (Ending.update .checkOut).run env closing.visitorId) db = (.ok (), closing.settle db) := by
    intro recorded first
    rw [Call.bind_of_ok first, Ending.run, leaves]
    rfl
  unfold Closing.run
  refine rest _ ?_
  rw [closes]

theorem Closing.Known.settle (known : closing.Known db) (other : Closing) : closing.Known (other.settle db) := by
  have records : (other.settle db).checkIns.map VisitorCheckIn.id = db.checkIns.map VisitorCheckIn.id :=
    map_key_updateBy fun _ => rfl
  have guests : (other.settle db).visitors.map Visitor.id = db.visitors.map Visitor.id := map_key_updateBy fun _ => rfl
  unfold Closing.Known
  rw [records, guests]
  exact known

theorem foldlM_known (known : ∀ closing ∈ closings, closing.Known db) :
    closings.foldlM (fun _ closing => Closing.run env closing) () db = (.ok (), closings.foldl Closing.settle db) := by
  induction closings generalizing db with
  | nil => rfl
  | cons closing closings ih =>
    have first : closing.run env db = (.ok (), closing.settle db) := Closing.run_known (known closing mem_cons_self)
    rw [foldlM_cons, Call.bind_of_ok first]
    exact ih fun other member => (known other (mem_cons_of_mem _ member)).settle closing

theorem foldl_settle_checkIns (closings : List Closing) (db : VisitorDb) :
    (closings.foldl Closing.settle db).checkIns = db.checkIns.map fun row => closings.foldl Closing.recordAfter row := by
  induction closings generalizing db with
  | nil => simp
  | cons closing closings ih =>
    rw [foldl_cons, ih]
    simp only [Closing.settle, updateBy, updateWhere, map_map]
    refine map_congr_left fun row _ => ?_
    simp only [Function.comp_apply, foldl_cons, Closing.recordAfter, decide_eq_true_eq]

theorem foldl_settle_visitors (closings : List Closing) (db : VisitorDb) :
    (closings.foldl Closing.settle db).visitors = db.visitors.map fun visitor => closings.foldl Closing.visitorAfter visitor := by
  induction closings generalizing db with
  | nil => simp
  | cons closing closings ih =>
    rw [foldl_cons, ih]
    simp only [Closing.settle, updateBy, updateWhere, map_map]
    refine map_congr_left fun visitor _ => ?_
    simp only [Function.comp_apply, foldl_cons, Closing.visitorAfter, decide_eq_true_eq]

theorem foldl_settle_condos (closings : List Closing) (db : VisitorDb) :
    (closings.foldl Closing.settle db).condos = db.condos := by
  induction closings generalizing db with
  | nil => rfl
  | cons closing closings ih => rw [foldl_cons, ih]; rfl

variable {Row : Type*}

theorem foldl_keeps {Item Part : Type*} {step : Row → Item → Row} (part : Row → Part)
    (kept : ∀ row item, part (step row item) = part row) (items : List Item) (row : Row) :
    part (items.foldl step row) = part row := by
  induction items generalizing row with
  | nil => rfl
  | cons item items ih => rw [foldl_cons, ih, kept]

section

variable (closings) (row) (visitor)

theorem recordAfter_id : (closings.foldl Closing.recordAfter row).id = row.id :=
  foldl_keeps VisitorCheckIn.id (fun row closing => by unfold Closing.recordAfter; split <;> rfl) closings row

theorem recordAfter_visitorId : (closings.foldl Closing.recordAfter row).visitorId = row.visitorId :=
  foldl_keeps VisitorCheckIn.visitorId (fun row closing => by unfold Closing.recordAfter; split <;> rfl) closings row

theorem visitorAfter_id : (closings.foldl Closing.visitorAfter visitor).id = visitor.id :=
  foldl_keeps Visitor.id (fun visitor closing => by unfold Closing.visitorAfter; split <;> rfl) closings visitor

theorem visitorAfter_condoId : (closings.foldl Closing.visitorAfter visitor).condoId = visitor.condoId :=
  foldl_keeps Visitor.condoId (fun visitor closing => by unfold Closing.visitorAfter; split <;> rfl) closings visitor

variable {closings row visitor}

theorem recordAfter_other (other : ∀ closing ∈ closings, closing.checkInId ≠ row.id) :
    closings.foldl Closing.recordAfter row = row := by
  induction closings with
  | nil => rfl
  | cons closing closings ih =>
    have step : Closing.recordAfter row closing = row := if_neg (other closing mem_cons_self).symm
    rw [foldl_cons, step]
    exact ih fun closing member => other closing (mem_cons_of_mem _ member)

theorem visitorAfter_other (other : ∀ closing ∈ closings, closing.visitorId ≠ visitor.id) :
    closings.foldl Closing.visitorAfter visitor = visitor := by
  induction closings with
  | nil => rfl
  | cons closing closings ih =>
    have step : Closing.visitorAfter visitor closing = visitor := if_neg (other closing mem_cons_self).symm
    rw [foldl_cons, step]
    exact ih fun closing member => other closing (mem_cons_of_mem _ member)

theorem recordAfter_closed {value : Instant} (all : ∀ closing ∈ closings, closing.checkInId = row.id → closing.checkOutAt = value)
    (some' : (∃ closing ∈ closings, closing.checkInId = row.id) ∨ row.checkOutAt = some value) :
    (closings.foldl Closing.recordAfter row).checkOutAt = some value := by
  induction closings generalizing row with
  | nil => simpa using some'
  | cons closing closings ih =>
    have id : (Closing.recordAfter row closing).id = row.id := recordAfter_id row [closing]
    refine ih (fun other member same => all other (mem_cons_of_mem _ member) (same.trans id)) ?_
    by_cases own : closing.checkInId = row.id
    · have step : Closing.recordAfter row closing = closing.close row := if_pos own.symm
      rw [step]
      exact .inr (congrArg some (all closing mem_cons_self own))
    · have step : Closing.recordAfter row closing = row := if_neg (Ne.symm own)
      rw [step]
      refine some'.imp_left fun ⟨other, member, same⟩ => ?_
      rcases mem_cons.mp member with rfl | member
      · exact absurd same own
      · exact ⟨other, member, same⟩

end

theorem visitorAfter_left (some : ∃ closing ∈ closings, closing.visitorId = visitor.id) :
    (closings.foldl Closing.visitorAfter visitor).status = .checkedOut := by
  have left : ∀ (closings : List Closing) (guest : Visitor), guest.status = .checkedOut →
      (closings.foldl Closing.visitorAfter guest).status = .checkedOut := by
    intro closings guest out
    induction closings generalizing guest with
    | nil => exact out
    | cons closing closings ih =>
      refine ih _ ?_
      unfold Closing.visitorAfter
      split
      · rfl
      · exact out
  obtain ⟨closing, member, own⟩ := some
  obtain ⟨before, after, rfl⟩ := append_of_mem member
  have id := visitorAfter_id visitor before
  rw [foldl_append]
  refine left after _ ?_
  rw [Closing.visitorAfter, if_pos (id.trans own.symm)]
  rfl

variable {chosen : Row → Bool} {rows : List Row}

theorem filter_map_kept {change : Row → Row} (same : ∀ row ∈ rows, chosen (change row) = chosen row)
    (kept : ∀ row ∈ rows, chosen row = true → change row = row) :
    (rows.map change).filter chosen = rows.filter chosen := by
  induction rows with
  | nil => rfl
  | cons row rows ih =>
    have rest := ih (fun other member => same other (mem_cons_of_mem _ member))
      fun other member => kept other (mem_cons_of_mem _ member)
    rw [map_cons, filter_cons, filter_cons, same row mem_cons_self, rest]
    split
    · rename_i picked
      rw [kept row mem_cons_self picked]
    · rfl

/-! ## The closings of one run -/

variable {id : Id}

theorem open_of_last (last : lastCheckIn db id = some row) :
    row ∈ db.checkIns ∧ row.visitorId = id ∧ row.checkOutAt = none := by
  obtain ⟨listed, isOpen⟩ := mem_filter.mp (latestBy_mem _ last)
  obtain ⟨recorded, own⟩ := mem_filter.mp listed
  exact ⟨recorded, of_decide_eq_true own, Option.isNone_iff_eq_none.mp isOpen⟩

def closesAt (env : VisitorEnv) (db : VisitorDb) (visitor : Visitor) (checkInAt now : Instant) : Option Instant :=
  resolveAutoCloseAt visitor checkInAt (env.condoDayStart (timezoneOf db visitor.condoId) now) now

theorem mem_autoClosings : closing ∈ autoClosings env db condoId now ↔ ∃ visitor ∈ db.visitors,
    visitor.condoId = condoId ∧ visitor.status = .checkedIn ∧ ∃ active, lastCheckIn db visitor.id = some active ∧
      ∃ closeAt, closesAt env db visitor active.checkInAt now = some closeAt ∧
        closing = ⟨visitor.id, active.id, closeAt, none⟩ := by
  unfold autoClosings
  simp only [mem_filterMap, mem_filter, decide_eq_true_eq, Option.bind_eq_some_iff, Option.map_eq_some_iff]
  constructor
  · rintro ⟨visitor, ⟨member, rfl, inside⟩, active, last, closeAt, resolved, rfl⟩
    exact ⟨visitor, member, rfl, inside, active, last, closeAt, resolved, rfl⟩
  · rintro ⟨visitor, member, rfl, inside, active, last, closeAt, resolved, rfl⟩
    exact ⟨visitor, ⟨member, rfl, inside⟩, active, last, closeAt, resolved, rfl⟩

theorem autoClosings_known (member : closing ∈ autoClosings env db condoId now) : closing.Known db := by
  obtain ⟨visitor, listed, _, _, active, last, closeAt, _, rfl⟩ := mem_autoClosings.mp member
  exact ⟨mem_map_of_mem (open_of_last last).1, mem_map_of_mem listed⟩

def afterRun (env : VisitorEnv) (condoId : Id) (db : VisitorDb) (now : Instant) : VisitorDb :=
  (autoCloseStaleVisitors env condoId now db).2

theorem afterRun_eq (db : VisitorDb) : afterRun env condoId db now = (autoClosings env db condoId now).foldl Closing.settle db := by
  have runs : (autoClosings env db condoId now).foldlM (fun _ closing => Closing.run env closing) () db =
      (.ok (), (autoClosings env db condoId now).foldl Closing.settle db) :=
    foldlM_known fun closing member => autoClosings_known member
  unfold afterRun autoCloseStaleVisitors
  rw [runs]

theorem afterRun_checkIns (db : VisitorDb) : (afterRun env condoId db now).checkIns =
    db.checkIns.map fun row => (autoClosings env db condoId now).foldl Closing.recordAfter row := by
  rw [afterRun_eq, foldl_settle_checkIns]

theorem afterRun_visitors (db : VisitorDb) : (afterRun env condoId db now).visitors =
    db.visitors.map fun visitor => (autoClosings env db condoId now).foldl Closing.visitorAfter visitor := by
  rw [afterRun_eq, foldl_settle_visitors]

theorem afterRun_ids (db : VisitorDb) :
    (afterRun env condoId db now).checkIns.map VisitorCheckIn.id = db.checkIns.map VisitorCheckIn.id ∧
      (afterRun env condoId db now).visitors.map Visitor.id = db.visitors.map Visitor.id := by
  rw [afterRun_checkIns, afterRun_visitors, map_map, map_map]
  exact ⟨map_congr_left fun row _ => recordAfter_id row _, map_congr_left fun visitor _ => visitorAfter_id visitor _⟩

theorem closesAt_afterRun (db : VisitorDb) (later : Instant) {guest : Visitor} {checkInAt : Instant} :
    closesAt env (afterRun env condoId db now) guest checkInAt later = closesAt env db guest checkInAt later := by
  unfold closesAt timezoneOf VisitorDb.condo?
  rw [afterRun_eq, foldl_settle_condos]

theorem OpenCheckIn.of_closing (opened : OpenCheckIn db condoId visitor active)
    (member : closing ∈ autoClosings env db condoId now) (same : closing.checkInId = active.id) :
    Picked db visitor active ∧ closesAt env db visitor active.checkInAt now = some closing.checkOutAt := by
  obtain ⟨guest, listed, _, inside, record, last, closeAt, resolved, rfl⟩ := mem_autoClosings.mp member
  obtain ⟨recorded, own, _⟩ := open_of_last last
  obtain rfl := eq_of_key_eq opened.checkInIds recorded opened.recorded same
  obtain rfl := eq_of_key_eq opened.visitorIds listed opened.member (own.symm.trans opened.own)
  exact ⟨⟨inside, last⟩, resolved⟩

theorem OpenCheckIn.of_visitor (opened : OpenCheckIn db condoId visitor active) (picked : Picked db visitor active)
    (member : closing ∈ autoClosings env db condoId now) (same : closing.visitorId = visitor.id) :
    closesAt env db visitor active.checkInAt now = some closing.checkOutAt := by
  obtain ⟨guest, listed, _, _, record, last, closeAt, resolved, rfl⟩ := mem_autoClosings.mp member
  obtain rfl := eq_of_key_eq opened.visitorIds listed opened.member same
  obtain rfl : record = active := Option.some.inj (last.symm.trans picked.2)
  exact resolved

theorem lastCheckIn_afterRun (distinct : (db.checkIns.map VisitorCheckIn.id).Nodup)
    (none : ∀ closing ∈ autoClosings env db condoId now, closing.visitorId ≠ id) :
    lastCheckIn (afterRun env condoId db now) id = lastCheckIn db id := by
  have records : (afterRun env condoId db now).checkInsOf id = db.checkInsOf id := by
    unfold VisitorDb.checkInsOf
    rw [afterRun_checkIns]
    refine filter_map_kept (fun row _ => by rw [recordAfter_visitorId]) fun row recorded own => ?_
    refine recordAfter_other fun closing member same => none closing member ?_
    obtain ⟨guest, _, _, _, record, last, closeAt, _, rfl⟩ := mem_autoClosings.mp member
    obtain ⟨listed, its, _⟩ := open_of_last last
    obtain rfl := eq_of_key_eq distinct listed recorded same
    exact its.symm.trans (of_decide_eq_true own)
  unfold lastCheckIn
  rw [records]

theorem OpenCheckIn.afterRun (opened : OpenCheckIn db condoId visitor active)
    (kept : ∀ closing ∈ autoClosings env db condoId now, closing.checkInId ≠ active.id) :
    OpenCheckIn (afterRun env condoId db now) condoId ((autoClosings env db condoId now).foldl Closing.visitorAfter visitor) active where
  visitorIds := (afterRun_ids db).2 ▸ opened.visitorIds
  checkInIds := (afterRun_ids db).1 ▸ opened.checkInIds
  member := by
    rw [afterRun_visitors]
    exact mem_map_of_mem opened.member
  ofCondo := (visitorAfter_condoId visitor _).trans opened.ofCondo
  recorded := by
    rw [afterRun_checkIns]
    exact mem_map.mpr ⟨active, opened.recorded, recordAfter_other kept⟩
  own := opened.own.trans (visitorAfter_id visitor _).symm
  isOpen := opened.isOpen

/-! ## Sequences of runs -/

structure Settled (db : VisitorDb) (id : Id) (value : Instant) : Prop where
  checkInIds : (db.checkIns.map VisitorCheckIn.id).Nodup
  closed : ∃ row ∈ db.checkIns, row.id = id ∧ row.checkOutAt = some value

variable {value : Instant}

theorem Settled.checkOutOf (settled : Settled db id value) : checkOutOf db id = some value := by
  obtain ⟨row, recorded, rfl, closed⟩ := settled.closed
  rw [Visitors.checkOutOf, findBy_of_mem settled.checkInIds recorded]
  exact closed

theorem Settled.afterRun (settled : Settled db id value) : Settled (afterRun env condoId db now) id value := by
  obtain ⟨row, recorded, rfl, closed⟩ := settled.closed
  refine ⟨(afterRun_ids db).1 ▸ settled.checkInIds, row, ?_, rfl, closed⟩
  rw [afterRun_checkIns]
  refine mem_map.mpr ⟨row, recorded, recordAfter_other fun closing member same => ?_⟩
  obtain ⟨_, _, _, _, record, last, _, _, rfl⟩ := mem_autoClosings.mp member
  obtain ⟨listed, _, isOpen⟩ := open_of_last last
  obtain rfl := eq_of_key_eq settled.checkInIds listed recorded same
  rw [isOpen] at closed
  cases closed

theorem OpenCheckIn.closes (opened : OpenCheckIn db condoId visitor active) (picked : Picked db visitor active)
    (closes : closesAt env db visitor active.checkInAt now = some value) :
    Settled (Visitors.afterRun env condoId db now) active.id value where
  checkInIds := (afterRun_ids db).1 ▸ opened.checkInIds
  closed := by
    rw [afterRun_checkIns]
    refine ⟨_, mem_map_of_mem opened.recorded, recordAfter_id active _, recordAfter_closed ?_ (.inl ?_)⟩
    · intro closing member same
      exact Option.some.inj ((opened.of_closing member same).2.symm.trans closes)
    · exact ⟨_, mem_autoClosings.mpr ⟨visitor, opened.member, opened.ofCondo, picked.1, active, picked.2, value, closes, rfl⟩, rfl⟩

theorem OpenCheckIn.stays (opened : OpenCheckIn db condoId visitor active) (picked : Picked db visitor active)
    (closes : closesAt env db visitor active.checkInAt now = none) :
    OpenCheckIn (Visitors.afterRun env condoId db now) condoId visitor active ∧
      Picked (Visitors.afterRun env condoId db now) visitor active := by
  have none : ∀ closing ∈ autoClosings env db condoId now, closing.visitorId ≠ visitor.id := by
    intro closing member same
    rw [opened.of_visitor picked member same] at closes
    cases closes
  have kept : ∀ closing ∈ autoClosings env db condoId now, closing.checkInId ≠ active.id := by
    intro closing member same
    rw [(opened.of_closing member same).2] at closes
    cases closes
  have later := opened.afterRun kept
  rw [visitorAfter_other none] at later
  exact ⟨later, picked.1, (lastCheckIn_afterRun opened.checkInIds none).trans picked.2⟩

theorem OpenCheckIn.unpicked (opened : OpenCheckIn db condoId visitor active) (unpicked : ¬ Picked db visitor active) :
    ∃ later, OpenCheckIn (Visitors.afterRun env condoId db now) condoId later active ∧
      ¬ Picked (Visitors.afterRun env condoId db now) later active := by
  have kept : ∀ closing ∈ autoClosings env db condoId now, closing.checkInId ≠ active.id :=
    fun closing member same => unpicked (opened.of_closing member same).1
  refine ⟨_, opened.afterRun kept, fun ⟨inside, last⟩ => ?_⟩
  by_cases left : ∃ closing ∈ autoClosings env db condoId now, closing.visitorId = visitor.id
  · rw [visitorAfter_left left] at inside
    cases inside
  · push Not at left
    rw [visitorAfter_other left] at inside last
    exact unpicked ⟨inside, (lastCheckIn_afterRun opened.checkInIds left).symm.trans last⟩

theorem sweeps_cons (now : Instant) (runs : List Instant) :
    sweeps env condoId (now :: runs) db = sweeps env condoId runs (afterRun env condoId db now) := rfl

theorem checkOutOf_open (opened : OpenCheckIn db condoId visitor active) : checkOutOf db active.id = none := by
  rw [checkOutOf, findBy_of_mem opened.checkInIds opened.recorded]
  exact opened.isOpen

theorem sweeps_settled (settled : Settled db id value) (runs : List Instant) :
    checkOutOf (sweeps env condoId runs db) id = some value := by
  induction runs generalizing db with
  | nil => exact settled.checkOutOf
  | cons now runs ih =>
    exact ih settled.afterRun

theorem sweeps_picked (opened : OpenCheckIn db condoId visitor active) (picked : Picked db visitor active) (runs : List Instant) :
    checkOutOf (sweeps env condoId runs db) active.id =
      runs.findSome? fun now => closesAt env db visitor active.checkInAt now := by
  induction runs generalizing db with
  | nil => exact checkOutOf_open opened
  | cons now runs ih =>
    rw [sweeps_cons, List.findSome?_cons]
    cases closes : closesAt env db visitor active.checkInAt now with
    | some value => exact sweeps_settled (opened.closes picked closes) runs
    | none =>
      obtain ⟨opened, picked⟩ := opened.stays picked closes
      rw [ih opened picked]
      simp only [closesAt_afterRun]

theorem sweeps_unpicked (opened : OpenCheckIn db condoId visitor active) (unpicked : ¬ Picked db visitor active)
    (runs : List Instant) : checkOutOf (sweeps env condoId runs db) active.id = none := by
  induction runs generalizing db visitor with
  | nil => exact checkOutOf_open opened
  | cons now runs ih =>
    obtain ⟨later, opened, unpicked⟩ : ∃ later, OpenCheckIn (afterRun env condoId db now) condoId later active ∧
        ¬ Picked (afterRun env condoId db now) later active := opened.unpicked unpicked
    exact ih opened unpicked

/-! ## Times of closing -/

theorem resolveAutoCloseAt_eq (visitor : Visitor) (checkInAt dayStart now : Instant) :
    resolveAutoCloseAt visitor checkInAt dayStart now = match stayUntil visitor with
      | some stop => if now < stop then none else some stop
      | none => if checkInAt < dayStart then some dayStart else none := by
  unfold resolveAutoCloseAt stayUntil
  by_cases walkIn : visitor.isWalkIn = true
  · simp only [walkIn, if_true]
  · by_cases overnight : visitor.overnight = true
    · cases expires : visitor.expiresAt <;> simp [walkIn, overnight]
    · simp [overnight]

theorem lt_dayStart_iff {checkInAt start : Instant} (mono : Monotone zone) (least : IsLeast {t | zone t = zone now} start) :
    checkInAt < start ↔ zone checkInAt < zone now := by
  have begins : zone start = zone now := least.1
  constructor
  · intro before
    refine lt_of_le_of_ne (begins ▸ mono before.le) fun same => ?_
    exact absurd (least.2 same) (not_le.mpr before)
  · intro earlier
    exact mono.reflect_lt (begins.symm ▸ earlier)

theorem findSome?_choice {Answer : Type*} (chosen : Instant → Bool) (answer : Instant → Answer) (runs : List Instant) :
    (runs.findSome? fun now => if chosen now then some (answer now) else none) = (runs.find? chosen).map answer := by
  induction runs with
  | nil => rfl
  | cons now runs ih =>
    rw [List.findSome?_cons, List.find?_cons]
    cases picked : chosen now <;> simp [ih]

theorem find?_of_within {part : List Row} {row : Row} (start : part <+: rows) (found : part.find? chosen = some row) :
    rows.find? chosen = some row := by
  obtain ⟨rest, rfl⟩ := start
  rw [List.find?_append, found]
  rfl

theorem ends_after {checkInAt : Instant} (mono : Monotone zone) (ends : Ends zone visitor checkInAt value) :
    checkInAt ≤ value := by
  unfold Ends at ends
  cases until? : stayUntil visitor with
  | some stop =>
    rw [until?] at ends
    exact ends ▸ le_max_right _ _
  | none =>
    rw [until?] at ends
    exact (mono.reflect_lt ends.1).le

section

variable {checkInAt : Instant}

theorem timed_iff {stop : Instant} (until? : stayUntil visitor = some stop) (after : ∀ now ∈ runs, checkInAt ≤ now) :
    (∀ done, done <+: runs → ∀ value, (done.find? fun now => !decide (now < stop)).map (fun _ => stop) = some value ↔
        Ends zone visitor checkInAt value ∧ ∃ now ∈ done, value ≤ now) ↔ InTime zone visitor checkInAt runs := by
  simp only [Ends, InTime, until?]
  constructor
  · intro sensible
    cases runs with
    | nil => exact .inl rfl
    | cons now runs =>
      have first := after now mem_cons_self
      by_cases late : stop < checkInAt
      · have closes : ([now].find? fun now => !decide (now < stop)).map (fun _ => stop) = some stop := by
          have reached : ¬ now < stop := not_lt.mpr (late.le.trans first)
          simp [reached]
        have same := ((sensible [now] ⟨runs, rfl⟩ stop).mp closes).1
        rw [max_eq_right late.le] at same
        exact absurd same late.ne
      · exact .inr (not_lt.mp late)
  · intro inTime done start value
    have found : (done.find? fun now => !decide (now < stop)).isSome ↔ ∃ now ∈ done, stop ≤ now := by
      simp
    rcases inTime with rfl | before
    · obtain rfl := prefix_nil.mp start
      simp
    · rw [max_eq_left before, Option.map_eq_some_iff]
      constructor
      · rintro ⟨now, isFirst, rfl⟩
        exact ⟨rfl, found.mp (Option.isSome_iff_exists.mpr ⟨now, isFirst⟩)⟩
      · rintro ⟨rfl, reached⟩
        obtain ⟨now, isFirst⟩ := Option.isSome_iff_exists.mp (found.mpr reached)
        exact ⟨now, isFirst, rfl⟩

theorem day_iff (until? : stayUntil visitor = none) (mono : Monotone zone) {start : Instant → Instant}
    (starts : ∀ now, IsLeast {t | zone t = zone now} (start now)) : (∀ done, done <+: runs → ∀ value,
      (done.find? fun now => decide (zone checkInAt < zone now)).map start = some value ↔
        Ends zone visitor checkInAt value ∧ ∃ now ∈ done, value ≤ now) ↔ InTime zone visitor checkInAt runs := by
  simp only [Ends, InTime, until?]
  constructor
  · intro sensible now isFirst t later
    have closes : (runs.find? fun now => decide (zone checkInAt < zone now)).map start = some (start now) := by
      rw [isFirst]
      rfl
    obtain ⟨_, least⟩ := ((sensible runs (prefix_refl _) (start now)).mp closes).1
    have begins : zone (start now) = zone now := (starts now).1
    rw [← begins]
    exact mono (least later)
  · intro inTime done begun value
    rw [Option.map_eq_some_iff]
    constructor
    · rintro ⟨now, isFirst, rfl⟩
      have later : zone checkInAt < zone now := by simpa using List.find?_some isFirst
      have begins : zone (start now) = zone now := (starts now).1
      have later' : zone checkInAt < zone (start now) := begins.symm ▸ later
      refine ⟨⟨later', fun t after => ?_⟩, now, mem_of_find?_eq_some isFirst, (starts now).2 rfl⟩
      have next := inTime now (find?_of_within begun isFirst) t after
      rcases next.lt_or_eq with before | same
      · exact (mono.reflect_lt (begins.symm ▸ before)).le
      · exact (starts now).2 same.symm
    · rintro ⟨⟨later, least⟩, now, member, reached⟩
      have found : (done.find? fun now => decide (zone checkInAt < zone now)).isSome := by
        rw [List.find?_isSome]
        exact ⟨now, member, decide_eq_true (lt_of_lt_of_le later (mono reached))⟩
      obtain ⟨first, isFirst⟩ := Option.isSome_iff_exists.mp found
      refine ⟨first, isFirst, ?_⟩
      have after : zone checkInAt < zone first := by simpa using List.find?_some isFirst
      have begins : zone (start first) = zone first := (starts first).1
      have after' : zone checkInAt < zone (start first) := begins.symm ▸ after
      have next := inTime first (find?_of_within begun isFirst) value later
      refine le_antisymm ?_ (least after')
      rcases next.lt_or_eq with before | same
      · exact (mono.reflect_lt (begins.symm ▸ before)).le
      · exact (starts first).2 same.symm

end

/-- After each part of the runs, the check-out is at the end of the visit if a run has taken place since then. -/
def ClosedInTime (env : VisitorEnv) (zone : Instant → ℤ) (db : VisitorDb) (visitor : Visitor) (active : VisitorCheckIn)
    (runs : List Instant) : Prop :=
  ∀ done, done <+: runs → ∀ value, checkOutOf (sweeps env visitor.condoId done db) active.id = some value ↔
    Ends zone visitor active.checkInAt value ∧ ∃ now ∈ done, value ≤ now

open Classical in
/-- An open check-in is closed at the end of its visit just if the runs are in time; where a visitor has another open check-in
or is not inside, it is not closed at all. -/
theorem automatic_checkOut (mono : Monotone zone)
    (starts : ∀ now, IsLeast {t | zone t = zone now} (env.condoDayStart (timezoneOf db condoId) now))
    (opened : OpenCheckIn db condoId visitor active) (after : ∀ now ∈ runs, active.checkInAt ≤ now) :
    (∀ value, Ends zone visitor active.checkInAt value → active.checkInAt ≤ value) ∧
      (ClosedInTime env zone db visitor active runs ↔
        if Picked db visitor active then InTime zone visitor active.checkInAt runs
        else ∀ value, Ends zone visitor active.checkInAt value → ∀ now ∈ runs, now < value) := by
  obtain rfl := opened.ofCondo
  refine ⟨fun value => ends_after mono, ?_⟩
  unfold ClosedInTime
  split
  · rename_i picked
    simp only [sweeps_picked opened picked, closesAt, resolveAutoCloseAt_eq]
    cases until? : stayUntil visitor with
    | some stop =>
        have form : ∀ now : Instant, (if now < stop then none else some stop) = if !decide (now < stop) then some stop else none := by
          intro now
          by_cases early : now < stop <;> simp [early]
        simp only [form, findSome?_choice]
        exact timed_iff until? after
    | none =>
        have form : ∀ now, (if active.checkInAt < env.condoDayStart (timezoneOf db visitor.condoId) now
            then some (env.condoDayStart (timezoneOf db visitor.condoId) now) else none) =
              if decide (zone active.checkInAt < zone now) then some (env.condoDayStart (timezoneOf db visitor.condoId) now)
              else none := by
          intro now
          simp only [lt_dayStart_iff mono (starts now), decide_eq_true_eq]
        simp only [form, findSome?_choice]
        exact day_iff until? mono starts
  · rename_i unpicked
    simp only [sweeps_unpicked opened unpicked, reduceCtorEq, false_iff, not_and, not_exists, not_le]
    constructor
    · intro never value ends now member
      exact never runs (List.prefix_refl _) value ends now member
    · intro early done begun value ends now member
      exact early value ends now (begun.subset member)

namespace Sample

def dayGuest : Visitor where
  id := 10
  condoId := 1
  visitType := .preReg
  unitId := some 1
  hostUserId := some 1
  name := "Lim"
  identification := none
  phone := none
  vehiclePlate := none
  overnight := false
  expectedAt := 0
  expectedDurationMins := none
  qrCode := none
  qrPayload := none
  accessCode := none
  expiresAt := none
  approvalDeadline := none
  status := .checkedIn
  approvedByUserId := none
  approvedAt := none
  cancelledAt := none
  createdAt := 0

def dayCheckIn : VisitorCheckIn := ⟨11, 10, 0, 2, none, none⟩

def inside : VisitorDb := { start.db with visitors := [dayGuest], checkIns := [dayCheckIn], nextId := 12 }

theorem inside_open : OpenCheckIn inside 1 dayGuest dayCheckIn :=
  ⟨by decide, by decide, mem_singleton_self _, rfl, mem_singleton_self _, rfl, rfl⟩

theorem zone_mono : Monotone (fixedZone 0) := (fixedZone_days (by decide) (by decide)).mono

theorem zone_starts (now : Instant) :
    IsLeast {t | fixedZone 0 t = fixedZone 0 now} (Sample.env.condoDayStart (timezoneOf inside 1) now) := by
  have begins : Sample.env.condoDayStart (timezoneOf inside 1) now = fixedZone 0 now * msPerDay := by
    unfold fixedZone
    rw [Int.add_zero]
    rfl
  rw [begins]
  constructor
  · show (fixedZone 0 now * msPerDay + 0) / msPerDay = fixedZone 0 now
    rw [Int.add_zero]
    exact Int.mul_ediv_cancel _ (by decide)
  · intro (t : ℤ) same
    have same' : (t + 0) / msPerDay = fixedZone 0 now := same
    rw [← same', Int.add_zero]
    exact Int.ediv_mul_le t (by decide)

end Sample

theorem automatic_checkOut_next_day :
    ClosedInTime Sample.env (fixedZone 0) Sample.inside Sample.dayGuest Sample.dayCheckIn [90000000] := by
  refine (automatic_checkOut Sample.zone_mono Sample.zone_starts Sample.inside_open (by decide)).2.mpr ?_
  rw [if_pos ⟨rfl, by decide +kernel⟩]
  intro now found t later
  have same : 90000000 = now := Option.some.inj found
  rw [← same]
  exact Int.add_one_le_iff.mpr later

theorem automatic_checkOut_late : ¬ ∀ (env : VisitorEnv) (zone : Instant → ℤ) (db : VisitorDb) (visitor : Visitor)
    (active : VisitorCheckIn) (runs : List Instant), Monotone zone →
    (∀ now, IsLeast {t | zone t = zone now} (env.condoDayStart (timezoneOf db visitor.condoId) now)) →
    OpenCheckIn db visitor.condoId visitor active → Picked db visitor active → (∀ now ∈ runs, active.checkInAt ≤ now) →
    runs.Pairwise (· < ·) → ClosedInTime env zone db visitor active runs := by
  intro sensible
  have closed := sensible Sample.env (fixedZone 0) Sample.inside Sample.dayGuest Sample.dayCheckIn [180000000] Sample.zone_mono
    Sample.zone_starts Sample.inside_open ⟨rfl, by decide +kernel⟩ (by decide) (List.pairwise_singleton _ _)
  have written : checkOutOf (sweeps Sample.env 1 [180000000] Sample.inside) 11 = some 172800000 := by decide +kernel
  have ends := ((closed _ (List.prefix_refl _) 172800000).mp written).1
  have first : (86400000 : ℤ) ∈ {t | fixedZone 0 0 < fixedZone 0 t} := by
    show fixedZone 0 0 < fixedZone 0 86400000
    decide
  exact absurd (ends.2 first) (by decide)

end SmartResidence.Visitors
