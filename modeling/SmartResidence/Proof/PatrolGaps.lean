import Mathlib.Tactic.Linarith
import SmartResidence.Safety.PatrolService

/-!
# Gaps of patrols

A scan that is dated ahead hides a gap until its time has come, and a scan that is dated before the last notification
takes the flag back although the gap goes on.
-/

namespace SmartResidence.Safety

open Foundation Billing Settings Parcels List

variable {now : Instant} {db : PatrolDb} {notes : List PatrolNote} {checkpoint : PatrolCheckpoint} {interval : ℤ}

def lastVisit (now : Instant) (db : PatrolDb) (checkpoint : PatrolCheckpoint) : Instant :=
  ((latestBy PatrolScan.scannedAt ((db.scansOf checkpoint.id).filter fun scan => decide (scan.scannedAt ≤ now))).map
    PatrolScan.scannedAt).getD checkpoint.createdAt

/-- The sweep takes a checkpoint for overdue exactly when its last visit is more than the interval ago. -/
def TreatsRightly (world : PatrolWorld) (event : PatrolEvent) : Prop :=
  event.call = .sweep → ∀ checkpoint ∈ world.db.checkpoints, checkpoint.active = true →
    ∀ interval, checkpoint.intervalMs = some interval →
      (isCheckpointOverdue checkpoint (world.db.lastScanAt checkpoint.id) event.now = true ↔
        interval < event.now - lastVisit event.now world.db checkpoint)

def NothingHidden (world : PatrolWorld) (event : PatrolEvent) : Prop :=
  event.call = .sweep → ∀ checkpoint ∈ world.db.checkpoints, checkpoint.active = true →
    ∀ interval, checkpoint.intervalMs = some interval →
      (∃ scan ∈ world.db.scansOf checkpoint.id, event.now < scan.scannedAt) →
        event.now - lastVisit event.now world.db checkpoint ≤ interval

theorem intervalMs_pos (timed : checkpoint.intervalMs = some interval) : 0 < interval := by
  obtain ⟨minutes, kept, rfl⟩ := Option.map_eq_some_iff.mp timed
  obtain ⟨-, nonzero⟩ := Option.filter_eq_some_iff.mp kept
  have pos : 0 < minutes := Nat.pos_of_ne_zero (of_decide_eq_true nonzero)
  unfold msPerMinute
  omega

theorem isCheckpointOverdue_iff {lastScanAt : Option Instant} (timed : checkpoint.intervalMs = some interval) :
    isCheckpointOverdue checkpoint lastScanAt now = true ↔
      checkpoint.active = true ∧ interval < now - lastScanAt.getD checkpoint.createdAt := by
  unfold isCheckpointOverdue
  rw [timed]
  cases checkpoint.active with
  | false => simp
  | true => simp

theorem lastVisit_eq (none : ∀ scan ∈ db.scansOf checkpoint.id, scan.scannedAt ≤ now) :
    lastVisit now db checkpoint = (db.lastScanAt checkpoint.id).getD checkpoint.createdAt := by
  unfold lastVisit PatrolDb.lastScanAt PatrolDb.lastScan
  rw [filter_eq_self.mpr fun scan mem => decide_eq_true (none scan mem)]

theorem le_lastScanAt {scan : PatrolScan} (mem : scan ∈ db.scansOf checkpoint.id) :
    ∃ last, db.lastScanAt checkpoint.id = some last ∧ scan.scannedAt ≤ last := by
  unfold PatrolDb.lastScanAt PatrolDb.lastScan
  cases latest : latestBy PatrolScan.scannedAt (db.scansOf checkpoint.id) with
  | none =>
    rw [(latestBy_eq_none _).mp latest] at mem
    cases mem
  | some last => exact ⟨_, rfl, le_latestBy _ latest mem⟩

variable {world : PatrolWorld} {event : PatrolEvent}

theorem treatsRightly_iff : TreatsRightly world event ↔ NothingHidden world event := by
  refine forall_congr' fun _ => forall₂_congr fun checkpoint _ => forall_congr' fun active => forall₂_congr fun interval timed => ?_
  rw [isCheckpointOverdue_iff timed]
  by_cases ahead : ∃ scan ∈ world.db.scansOf checkpoint.id, event.now < scan.scannedAt
  · obtain ⟨scan, mem, after⟩ := ahead
    obtain ⟨last, same, le⟩ := le_lastScanAt mem
    have pos := intervalMs_pos timed
    have silent : ¬ (checkpoint.active = true ∧
        interval < event.now - (world.db.lastScanAt checkpoint.id).getD checkpoint.createdAt) := by
      rw [same, Option.getD_some]
      rintro ⟨-, late⟩
      linarith
    rw [iff_false_left silent, not_lt]
    exact ⟨fun visited _ => visited, fun visited => visited ⟨scan, mem, after⟩⟩
  · have none : ∀ scan ∈ world.db.scansOf checkpoint.id, scan.scannedAt ≤ event.now := by
      intro scan mem
      by_contra after
      exact ahead ⟨scan, mem, not_le.mp after⟩
    rw [lastVisit_eq none]
    exact ⟨fun _ found => absurd found ahead, fun _ => and_iff_right active⟩

/-- Two overdue events of a checkpoint with no scan of a later time between them are an interval apart. -/
def Apart (db : PatrolDb) (notes : List PatrolNote) : Prop :=
  ∀ checkpoint ∈ db.checkpoints, ∀ interval, checkpoint.intervalMs = some interval →
    ∀ early between late firstScan first secondScan second,
      notes = early ++ .overdue checkpoint.id firstScan first :: between ++ .overdue checkpoint.id secondScan second :: late →
      (∀ scanId scannedAt, PatrolNote.scanned checkpoint.id scanId scannedAt ∈ between → scannedAt ≤ first) →
        first + interval ≤ second

/--
A scan that takes back the flag of a checkpoint comes an interval after the flag, or is not dated before it. A millisecond
is no matter: the next gap is then found after an interval all the same.
-/
def TimelyScan (world : PatrolWorld) (event : PatrolEvent) : Prop :=
  ∀ actor dto, event.call = .scan actor dto → ∀ checkpoint ∈ world.db.checkpoints, checkpoint.code = trimText dto.code →
    ∀ interval, checkpoint.intervalMs = some interval → ∀ notified, checkpoint.lastOverdueNotifiedAt = some notified →
      ∀ scannedAt, dto.instant event.now = some scannedAt → notified ≤ scannedAt + 1 ∨ notified + interval ≤ event.now

def Remembered (clock : Instant) (db : PatrolDb) (checkpoint : PatrolCheckpoint) (interval : ℤ) (at' : Instant) : Prop :=
  (∃ notified, checkpoint.lastOverdueNotifiedAt = some notified ∧ at' ≤ notified) ∨ at' + interval ≤ clock ∨
    ∃ scan ∈ db.scansOf checkpoint.id, at' ≤ scan.scannedAt + 1

def SpacedFor (interval : ℤ) (id : Id) (first second : PatrolNote) : Prop :=
  ∀ firstScan one secondScan two, first = .overdue id firstScan one → second = .overdue id secondScan two → one + interval ≤ two

structure Spaced (world : PatrolWorld) : Prop where
  distinct : (world.db.checkpoints.map PatrolCheckpoint.id).Nodup
  past : ∀ id last at', PatrolNote.overdue id last at' ∈ world.notes → at' ≤ world.clock
  remembered : ∀ checkpoint ∈ world.db.checkpoints, ∀ interval, checkpoint.intervalMs = some interval →
    ∀ last at', PatrolNote.overdue checkpoint.id last at' ∈ world.notes → Remembered world.clock world.db checkpoint interval at'
  apart : ∀ checkpoint ∈ world.db.checkpoints, ∀ interval, checkpoint.intervalMs = some interval →
    world.notes.Pairwise (SpacedFor interval checkpoint.id)

theorem Spaced.apart_notes (spaced : Spaced world) : Apart world.db world.notes := by
  intro checkpoint mem interval timed early between late firstScan first secondScan second split _
  have pairs := spaced.apart checkpoint mem interval timed
  rw [split, append_assoc] at pairs
  have tail := (pairwise_cons.mp (pairwise_append.mp pairs).2.1).1
  exact tail _ (mem_append_right _ mem_cons_self) _ _ _ _ rfl rfl

theorem Spaced.later {clock : Instant} (spaced : Spaced ⟨clock, db, notes⟩) (passed : clock ≤ now) : Spaced ⟨now, db, notes⟩ where
  distinct := spaced.distinct
  past id last at' mem := (spaced.past id last at' mem).trans passed
  remembered checkpoint mem interval timed last at' noted := by
    rcases spaced.remembered checkpoint mem interval timed last at' noted with flag | over' | scan
    · exact .inl flag
    · exact .inr (.inl (le_trans over' passed))
    · exact .inr (.inr scan)
  apart := spaced.apart

variable {at' : Instant}

theorem gap_of_newlyOverdue (timed : checkpoint.intervalMs = some interval)
    (due : newlyOverdue now (db.lastScanAt checkpoint.id) checkpoint = true)
    (remembered : Remembered now db checkpoint interval at') : at' + interval ≤ now := by
  unfold newlyOverdue at due
  rw [Bool.and_eq_true, Bool.not_eq_true', isCheckpointOverdue_iff timed, timed, Option.getD_some] at due
  obtain ⟨⟨-, late⟩, unflagged⟩ := due
  rcases remembered with ⟨notified, flag, le⟩ | passed | ⟨scan, mem, le⟩
  · rw [flag, Option.any_some, decide_eq_false_iff_not] at unflagged
    linarith
  · exact passed
  · obtain ⟨last, same, before⟩ := le_lastScanAt mem
    rw [same] at late
    have step : interval + 1 ≤ now - last := late
    linarith

theorem spaced_flag (spaced : Spaced ⟨now, db, notes⟩) (mem : checkpoint ∈ db.checkpoints)
    (due : newlyOverdue now (db.lastScanAt checkpoint.id) checkpoint = true) :
    Spaced ⟨now, { db with checkpoints := updateBy PatrolCheckpoint.id checkpoint.id (PatrolCheckpoint.flag now) db.checkpoints },
      notes ++ [.overdue checkpoint.id (db.lastScanAt checkpoint.id) now]⟩ where
  distinct := by
    have kept : ∀ row, (PatrolCheckpoint.flag now row).id = row.id := fun _ => rfl
    simpa only [map_key_updateBy kept] using spaced.distinct
  past id last at' noted := by
    rcases mem_append.mp noted with old | new
    · exact spaced.past id last at' old
    · cases mem_singleton.mp new
      exact le_refl now
  remembered other listed interval timed last at' noted := by
    rcases changed_or_kept spaced.distinct mem listed with rfl | ⟨kept, ne⟩
    · refine .inl ⟨now, rfl, ?_⟩
      rcases mem_append.mp noted with old | new
      · exact spaced.past _ last at' old
      · cases mem_singleton.mp new
        exact le_refl now
    · rcases mem_append.mp noted with old | new
      · exact spaced.remembered other kept interval timed last at' old
      · exact absurd (PatrolNote.overdue.inj (mem_singleton.mp new)).1 ne
  apart other listed interval timed := by
    rw [pairwise_append]
    rcases changed_or_kept spaced.distinct mem listed with rfl | ⟨kept, ne⟩
    · have own : checkpoint.intervalMs = some interval := timed
      refine ⟨spaced.apart checkpoint mem interval own, pairwise_singleton _ _, fun earlier noted new only => ?_⟩
      obtain rfl := mem_singleton.mp only
      rintro firstScan one secondScan two rfl same
      obtain ⟨-, -, rfl⟩ := PatrolNote.overdue.inj same
      exact gap_of_newlyOverdue own due (spaced.remembered checkpoint mem interval own _ _ noted)
    · refine ⟨spaced.apart other kept interval timed, pairwise_singleton _ _, fun earlier _ new only => ?_⟩
      obtain rfl := mem_singleton.mp only
      rintro firstScan one secondScan two rfl same
      exact absurd (PatrolNote.overdue.inj same).1.symm ne

theorem spaced_sweep {reads : List (PatrolCheckpoint × Option Instant)} (spaced : Spaced ⟨now, db, notes⟩)
    (nodup : (reads.map fun read => read.1.id).Nodup)
    (current : ∀ read ∈ reads, read.1 ∈ db.checkpoints ∧ read.2 = db.lastScanAt read.1.id) :
    Spaced ⟨now, (reads.foldl (flagOverdue now) (db, notes)).1, (reads.foldl (flagOverdue now) (db, notes)).2⟩ := by
  induction reads generalizing db notes with
  | nil => exact spaced
  | cons read reads ih =>
    obtain ⟨⟨mem, last⟩, rest⟩ := forall_mem_cons.mp current
    obtain ⟨fresh, nodup⟩ := nodup_cons.mp nodup
    rw [foldl_cons]
    unfold flagOverdue
    split
    · rename_i due
      rw [last] at due ⊢
      refine ih (spaced_flag spaced mem due) nodup fun other listed => ⟨mem_updateBy.mpr ⟨other.1, (rest other listed).1, ?_⟩, (rest other listed).2⟩
      rw [if_neg fun same => fresh (mem_map.mpr ⟨other, listed, same⟩)]
    · exact ih spaced nodup rest

theorem flagOverdue_foldl (now : Instant) (reads : List (PatrolCheckpoint × Option Instant)) (outcome : PatrolOutcome) (earlier : List PatrolNote) :
    reads.foldl (flagOverdue now) (outcome.1, earlier ++ outcome.2) =
      ((reads.foldl (flagOverdue now) outcome).1, earlier ++ (reads.foldl (flagOverdue now) outcome).2) := by
  induction reads generalizing outcome with
  | nil => rfl
  | cons read reads ih =>
    have step : flagOverdue now (outcome.1, earlier ++ outcome.2) read =
        ((flagOverdue now outcome read).1, earlier ++ (flagOverdue now outcome read).2) := by
      unfold flagOverdue
      split
      · simp
      · rfl
    rw [foldl_cons, step, ih, foldl_cons]

theorem spaced_detectOverdue (spaced : Spaced world) (passed : world.clock ≤ now) :
    Spaced (world.after now (detectOverdue now world.db)) := by
  let reads := (watched world.db).map fun checkpoint => (checkpoint, world.db.lastScanAt checkpoint.id)
  have nodup : (reads.map fun read => read.1.id).Nodup := by
    have ids : (watched world.db).map PatrolCheckpoint.id = reads.map fun read => read.1.id := by
      simp [reads]
    rw [← ids]
    exact spaced.distinct.sublist (filter_sublist.map _)
  have current : ∀ read ∈ reads, read.1 ∈ world.db.checkpoints ∧ read.2 = world.db.lastScanAt read.1.id := by
    intro read mem
    obtain ⟨checkpoint, listed, rfl⟩ := mem_map.mp mem
    exact ⟨(mem_filter.mp listed).1, rfl⟩
  have swept := spaced_sweep (spaced.later passed) nodup current
  have shifted := flagOverdue_foldl now reads (world.db, []) world.notes
  rw [append_nil] at shifted
  rw [shifted] at swept
  exact swept

variable {actor : AuthenticatedUser} {dto : PatrolScanDto} {outcome : PatrolOutcome}

theorem scan_spec (scanned : scan now actor dto db = .ok outcome) :
    ∃ checkpoint row scannedAt, findBy PatrolCheckpoint.code (trimText dto.code) db.checkpoints = some checkpoint ∧
      dto.instant now = some scannedAt ∧ row.checkpointId = checkpoint.id ∧ row.scannedAt = scannedAt ∧
      outcome = ({ db with nextId := db.nextId + 1, scans := db.scans ++ [row], checkpoints :=
                             if checkpoint.lastOverdueNotifiedAt.isSome then
                               updateBy PatrolCheckpoint.id checkpoint.id PatrolCheckpoint.unflag db.checkpoints
                             else db.checkpoints }, [.scanned checkpoint.id row.id scannedAt]) := by
  simp only [scan, bind_eq_ok, throwIf_eq_ok, orThrow_eq_ok, pure_eq_ok, assertGuardOrManagement, exists_const] at scanned
  obtain ⟨checkpoint, found, -, -, scannedAt, dated, rfl⟩ := scanned
  exact ⟨checkpoint, _, scannedAt, found, dated, rfl, rfl, rfl⟩

theorem unflagged_or_kept {other : PatrolCheckpoint} (nodup : (db.checkpoints.map PatrolCheckpoint.id).Nodup)
    (mem : checkpoint ∈ db.checkpoints) (listed : other ∈ if checkpoint.lastOverdueNotifiedAt.isSome then
      updateBy PatrolCheckpoint.id checkpoint.id PatrolCheckpoint.unflag db.checkpoints else db.checkpoints) :
    other = checkpoint.unflag ∨ other ∈ db.checkpoints ∧ other.id ≠ checkpoint.id := by
  split at listed
  · exact changed_or_kept nodup mem listed
  · rename_i unflagged
    by_cases same : other.id = checkpoint.id
    · obtain rfl := eq_of_key_eq nodup listed mem same
      rw [Option.not_isSome_iff_eq_none] at unflagged
      refine .inl ?_
      unfold PatrolCheckpoint.unflag
      rw [← unflagged]
    · exact .inr ⟨listed, same⟩

theorem Remembered.scanned {row : PatrolScan} {checkpoints : List PatrolCheckpoint} {nextId : Nat}
    (remembered : Remembered now db checkpoint interval at') :
    Remembered now { db with nextId := nextId, scans := db.scans ++ [row], checkpoints := checkpoints } checkpoint interval at' := by
  rcases remembered with flag | passed | ⟨scan, mem, le⟩
  · exact .inl flag
  · exact .inr (.inl passed)
  · refine .inr (.inr ⟨scan, ?_, le⟩)
    obtain ⟨listed, own⟩ := mem_filter.mp mem
    exact mem_filter.mpr ⟨mem_append_left _ listed, own⟩

theorem spaced_scan (spaced : Spaced world) (passed : world.clock ≤ event.now) (called : event.call = .scan actor dto)
    (timely : TimelyScan world event) (scanned : scan event.now actor dto world.db = .ok outcome) :
    Spaced (world.after event.now outcome) := by
  obtain ⟨checkpoint, row, scannedAt, found, dated, own, stamped, rfl⟩ := scan_spec scanned
  obtain ⟨mem, coded⟩ := mem_of_findBy found
  have old {id : Id} {last : Option Instant} {at' : Instant}
      (noted : PatrolNote.overdue id last at' ∈ world.notes ++ [PatrolNote.scanned checkpoint.id row.id scannedAt]) :
      PatrolNote.overdue id last at' ∈ world.notes :=
    (mem_append.mp noted).resolve_right fun new => nomatch mem_singleton.mp new
  have before := spaced.later passed
  constructor
  · have ids : ∀ row, PatrolCheckpoint.id (PatrolCheckpoint.unflag row) = row.id := fun _ => rfl
    unfold PatrolWorld.after
    split
    · rw [map_key_updateBy ids]
      exact spaced.distinct
    · exact spaced.distinct
  · exact fun id last at' noted => before.past id last at' (old noted)
  · intro other listed interval timed last at' noted
    rcases unflagged_or_kept spaced.distinct mem listed with rfl | ⟨kept, -⟩
    · have remembered := before.remembered checkpoint mem interval timed last at' (old noted)
      rcases remembered with ⟨notified, flag, le⟩ | late | ⟨scan, among, le⟩
      · rcases timely actor dto called checkpoint mem coded interval timed notified flag scannedAt dated with after | late
        · refine .inr (.inr ⟨row, ?_, ?_⟩)
          · exact mem_filter.mpr ⟨mem_append_right _ mem_cons_self, decide_eq_true own⟩
          · rw [stamped]
            exact le.trans after
        · refine .inr (.inl ?_)
          show at' + interval ≤ event.now
          linarith
      · exact .inr (.inl late)
      · exact Remembered.scanned (.inr (.inr ⟨scan, among, le⟩))
    · exact (before.remembered other kept interval timed last at' (old noted)).scanned
  · intro other listed interval timed
    have earlier : world.notes.Pairwise (SpacedFor interval other.id) := by
      rcases unflagged_or_kept spaced.distinct mem listed with rfl | ⟨kept, -⟩
      · exact spaced.apart checkpoint mem interval timed
      · exact spaced.apart other kept interval timed
    refine pairwise_append.mpr ⟨earlier, pairwise_singleton _ _, fun first _ second new => ?_⟩
    obtain rfl := mem_singleton.mp new
    intro _ _ _ _ _ same
    cases same

theorem spaced_step {before after : PatrolWorld} (spaced : Spaced before)
    (step : Guarded TimelyScan PatrolStep before event after) : Spaced after := by
  obtain ⟨timely, passed, rfl⟩ := step
  unfold PatrolWorld.next
  split
  · exact spaced_detectOverdue spaced passed
  · rename_i actor dto called
    split
    · rename_i outcome scanned
      exact spaced_scan spaced passed called timely scanned
    · unfold PatrolWorld.after
      rw [append_nil]
      exact spaced.later passed

/--
The runs whose sweeps treat the checkpoints rightly are those in which no scan that is dated ahead hides a gap. Where the
scans are timely, no gap is reported again within the interval.
-/
theorem patrol_gaps {start finish : PatrolWorld} {events : List PatrolEvent} (fresh : start.notes = [])
    (distinct : (start.db.checkpoints.map PatrolCheckpoint.id).Nodup) :
    (Run (Guarded TreatsRightly PatrolStep) start events finish ↔ Run (Guarded NothingHidden PatrolStep) start events finish) ∧
      (Run (Guarded TimelyScan PatrolStep) start events finish → Apart finish.db finish.notes) := by
  constructor
  · have same : TreatsRightly = NothingHidden := by
      funext world event
      exact propext treatsRightly_iff
    rw [same]
  · intro run
    have initial : Spaced start := by
      constructor
      · exact distinct
      · intro id last at' noted
        rw [fresh] at noted
        cases noted
      · intro checkpoint member interval timed last at' noted
        rw [fresh] at noted
        cases noted
      · intro checkpoint member interval timed
        rw [fresh]
        exact List.Pairwise.nil
    have spaced : Spaced finish := run.invariant (fun _ _ _ spaced step => spaced_step spaced step) initial
    exact spaced.apart_notes

namespace Sample

def stairs : PatrolCheckpoint := ⟨1, 1, "Stairs", "PTRL-1", true, some 30, none, 0⟩

def patrols : PatrolWorld := ⟨0, ⟨5, [(7, "Ali")], [stairs], []⟩, []⟩

def patrolGuard : AuthenticatedUser := ⟨7, [⟨.securityGuard, some 1, none⟩]⟩

def scannedOn (now : Instant) (scannedAt : Option Instant) (source : PatrolScanSource) : PatrolEvent :=
  ⟨now, .scan patrolGuard ⟨"PTRL-1", none, some source, scannedAt.map some⟩⟩

def sweptAt (now : Instant) : PatrolEvent := ⟨now, .sweep⟩

def ahead : PatrolEvent := scannedOn 0 (some 86400000) .online

def late : PatrolEvent := sweptAt 2000000

def synced : PatrolEvent := scannedOn 2100000 (some 100000) .offline

def again : PatrolEvent := sweptAt 2200000

end Sample

theorem patrol_gap_hidden :
    (∃ event after, Run PatrolStep Sample.patrols [Sample.ahead] (Sample.patrols.next Sample.ahead) ∧
      PatrolStep (Sample.patrols.next Sample.ahead) event after ∧ ¬ TreatsRightly (Sample.patrols.next Sample.ahead) event) ∧
    ∃ finish, Run PatrolStep Sample.patrols [Sample.late, Sample.synced, Sample.again] finish ∧ ¬ Apart finish.db finish.notes := by
  constructor
  · refine ⟨Sample.late, _, .single ⟨by decide, rfl⟩, ⟨by decide +kernel, rfl⟩, fun right => ?_⟩
    have listed : Sample.stairs ∈ (Sample.patrols.next Sample.ahead).db.checkpoints := by decide +kernel
    have late := (right rfl Sample.stairs listed rfl 1800000 rfl).mpr (by decide +kernel)
    revert late
    decide +kernel
  · let second := (Sample.patrols.next Sample.late).next Sample.synced
    refine ⟨second.next Sample.again, .cons ⟨by decide, rfl⟩ (.cons ⟨by decide +kernel, rfl⟩ (.single ⟨by decide +kernel, rfl⟩)), fun apart => ?_⟩
    have listed : { Sample.stairs with lastOverdueNotifiedAt := some 2200000 } ∈ (second.next Sample.again).db.checkpoints := by
      decide +kernel
    have notes : (second.next Sample.again).notes =
        [] ++ .overdue 1 none 2000000 :: [.scanned 1 5 100000] ++ .overdue 1 (some 100000) 2200000 :: [] := by decide +kernel
    have gap := apart _ listed 1800000 rfl _ _ _ _ _ _ _ notes fun scanId scannedAt member => ?_
    · revert gap
      decide
    · obtain ⟨-, -, rfl⟩ := PatrolNote.scanned.inj (List.mem_singleton.mp member)
      decide

theorem patrols_run {condition : PatrolWorld → PatrolEvent → Prop} {start : PatrolWorld} {events : List PatrolEvent}
    (meets : Run.Meets (fun world event => condition world event ∧ world.clock ≤ event.now) PatrolWorld.next start events) :
    Run (Guarded condition PatrolStep) start events (events.foldl PatrolWorld.next start) :=
  (Run.guarded_of_foldl meets).mono fun _ _ _ ⟨⟨met, ordered⟩, same⟩ => ⟨met, ordered, same⟩

theorem patrol_gap_reported : ∃ events finish, Run (Guarded TreatsRightly PatrolStep) Sample.patrols events finish ∧
    Apart finish.db finish.notes ∧
    finish.notes = [.scanned 1 5 1000, .overdue 1 (some 1000) 2000000, .overdue 1 (some 1000) 4000000] := by
  let events : List PatrolEvent := [Sample.scannedOn 1000 Option.none .online, Sample.late, Sample.again, Sample.sweptAt 4000000]
  have past (world : PatrolWorld) (event : PatrolEvent) (none : ∀ scan ∈ world.db.scans, scan.scannedAt ≤ event.now) :
      NothingHidden world event := by
    rintro _ checkpoint _ _ interval _ ⟨scan, member, after⟩
    exact absurd (none scan (List.mem_filter.mp member).1) (not_le.mpr after)
  have unhidden : Run (Guarded NothingHidden PatrolStep) Sample.patrols events (events.foldl PatrolWorld.next Sample.patrols) := by
    apply patrols_run
    exact ⟨⟨past _ _ (by decide +kernel), by decide +kernel⟩, ⟨past _ _ (by decide +kernel), by decide +kernel⟩,
      ⟨past _ _ (by decide +kernel), by decide +kernel⟩, ⟨past _ _ (by decide +kernel), by decide +kernel⟩, trivial⟩
  have timely : Run (Guarded TimelyScan PatrolStep) Sample.patrols events (events.foldl PatrolWorld.next Sample.patrols) := by
    have unflagged : TimelyScan Sample.patrols (Sample.scannedOn 1000 Option.none .online) := by
      intro _ _ _ checkpoint member _ _ _ notified flag
      obtain rfl := List.mem_singleton.mp member
      cases flag
    have swept (world : PatrolWorld) (now : Instant) : TimelyScan world (Sample.sweptAt now) := fun _ _ called => nomatch called
    apply patrols_run
    exact ⟨⟨unflagged, by decide +kernel⟩, ⟨swept _ _, by decide +kernel⟩, ⟨swept _ _, by decide +kernel⟩,
      ⟨swept _ _, by decide +kernel⟩, trivial⟩
  exact ⟨events, _, (patrol_gaps rfl (by decide)).1.mpr unhidden, (patrol_gaps rfl (by decide)).2 timely, by decide +kernel⟩

end SmartResidence.Safety
