import SmartResidence.Proof.CondoDays
import SmartResidence.Safety.PatrolService

/-!
# Two starts of a day

The patrols shift the clock by the offset in force now and cut it off at midnight; the visitors search for the first instant
of the day. Where the offset changes, the two part.
-/

namespace SmartResidence.Safety

open Foundation Billing Visitors

structure TimeZone where
  minutes : Instant → ℤ
  behind : ∀ t, -720 ≤ minutes t
  ahead : ∀ t, minutes t ≤ 840

namespace TimeZone

variable (zone : TimeZone)

def offset (t : Instant) : ℤ := zone.minutes t * msPerMinute

def day (t : Instant) : ℤ := (t + zone.offset t) / msPerDay

def midnight (now : Instant) : Instant := zone.day now * msPerDay - zone.offset now

end TimeZone

variable {zone : TimeZone} {now : Instant}

theorem zonedStartOfDay_eq : zonedStartOfDay zone.offset now = zone.midnight now := by
  -- Whole minutes are whole seconds, so that nothing is cut off between the two clocks.
  have seconds : ∀ t minutes : ℤ, (t + minutes * 60000) / 1000 * 1000 - t / 1000 * 1000 = minutes * 60000 := by
    omega
  have whole : (now + zone.offset now) / 1000 * 1000 - now / 1000 * 1000 = zone.offset now := seconds now (zone.minutes now)
  unfold zonedStartOfDay wholeSeconds TimeZone.midnight TimeZone.day msPerDay
  dsimp only
  rw [whole]

def searchEnds (dayKey : List Char) : Except String (Option Instant × Option Instant) := do
  let (year, month, day) ← parseDayKey dayKey
  return (dateUtc year (month - 1) (day - 1), dateUtc year (month - 1) (day + 2))

def LeadsTo (days : Instant → ℤ) (dayKey : List Char) (target : Instant) : Prop :=
  match searchEnds dayKey with
  | .ok (low, some high) => ∃ first, low = some first ∧ first ≤ target ∧ target ≤ max first high ∧
      ∀ asked ∈ probes target first high, (zonedDayKey days asked < dayKey ↔ asked < target)
  | .ok (low, none) => low = some target
  | .error _ => False

theorem zonedMidnightUtc_eq_iff {days : Instant → ℤ} {dayKey : List Char} {target : Instant} :
    zonedMidnightUtc days dayKey = .ok (some target) ↔ LeadsTo days dayKey target := by
  have search : ∀ low high, bisect (fun mid => decide (zonedDayKey days mid < dayKey)) low high = target ↔
      low ≤ target ∧ target ≤ max low high ∧
        ∀ asked ∈ probes target low high, (zonedDayKey days asked < dayKey ↔ asked < target) := by
    intro low high
    rw [bisect_eq_iff]
    simp
  unfold zonedMidnightUtc LeadsTo searchEnds
  cases parseDayKey dayKey with
  | error message => exact iff_of_false nofun id
  | ok date =>
    obtain ⟨year, month, day⟩ := date
    dsimp only [bind, Except.bind, pure, Except.pure]
    cases dateUtc year (month - 1) (day - 1) with
    | none => cases dateUtc year (month - 1) (day + 2) <;> simp
    | some low => cases dateUtc year (month - 1) (day + 2) <;> simp [search]

def scansOn (zone : TimeZone) (now : Instant) (db : PatrolDb) (checkpointId : Id) : List PatrolScan :=
  (db.scansOf checkpointId).filter fun scan => decide (zone.day scan.scannedAt = zone.day now)

def countedScans (zone : TimeZone) (now : Instant) (db : PatrolDb) (checkpointId : Id) : List PatrolScan :=
  (db.scansOf checkpointId).filter fun scan => decide (zonedStartOfDay zone.offset now ≤ scan.scannedAt)

structure DayStartsAgree (zone : TimeZone) (now : Instant) (checkpoints : List PatrolCheckpoint) (db : PatrolDb) : Prop where
  searched : zonedMidnightUtc zone.day (zonedDayKey zone.day now) = .ok (some (zonedStartOfDay zone.offset now))
  first : IsLeast {t | zone.day t = zone.day now} (zonedStartOfDay zone.offset now)
  past : zonedStartOfDay zone.offset now ≤ now
  exact' : ∀ checkpoint ∈ checkpoints, countedScans zone now db checkpoint.id = scansOn zone now db checkpoint.id
  counted : (withStatus zone.offset now checkpoints db).map CheckpointStatus.scansToday =
    checkpoints.map fun checkpoint => (scansOn zone now db checkpoint.id).length

structure SteadyDay (zone : TimeZone) (now : Instant) : Prop where
  shown : zone.offset now ≤ zone.offset (zone.midnight now) ∧ zone.offset (zone.midnight now) < zone.offset now + msPerDay
  fresh : ∀ t < zone.midnight now, zone.day t ≠ zone.day now
  leads : LeadsTo zone.day (zonedDayKey zone.day now) (zone.midnight now)

def NoOtherDay (zone : TimeZone) (now : Instant) (checkpoints : List PatrolCheckpoint) (db : PatrolDb) : Prop :=
  ∀ checkpoint ∈ checkpoints, ∀ scan ∈ db.scansOf checkpoint.id, zone.midnight now ≤ scan.scannedAt →
    zone.day scan.scannedAt = zone.day now

theorem midnight_le : zone.midnight now ≤ now := by
  have floor : ∀ t shift : ℤ, (t + shift) / msPerDay * msPerDay - shift ≤ t := by
    unfold msPerDay
    omega
  exact floor now (zone.offset now)

theorem day_midnight_iff : zone.day (zone.midnight now) = zone.day now ↔
    zone.offset now ≤ zone.offset (zone.midnight now) ∧ zone.offset (zone.midnight now) < zone.offset now + msPerDay := by
  have local' : zone.midnight now + zone.offset (zone.midnight now) =
      zone.day now * msPerDay + (zone.offset (zone.midnight now) - zone.offset now) := by
    rw [TimeZone.midnight]
    ring
  rw [TimeZone.day, local']
  unfold msPerDay
  omega

theorem isLeast_midnight_iff : IsLeast {t | zone.day t = zone.day now} (zone.midnight now) ↔
    zone.day (zone.midnight now) = zone.day now ∧ ∀ t < zone.midnight now, zone.day t ≠ zone.day now := by
  apply and_congr_right'
  constructor
  · intro least t before same
    exact absurd (least same) (not_le.mpr before)
  · intro fresh t same
    exact not_lt.mp fun before => fresh t before same

theorem day_starts (zone : TimeZone) (now : Instant) (checkpoints : List PatrolCheckpoint) (db : PatrolDb) :
    DayStartsAgree zone now checkpoints db ↔ SteadyDay zone now ∧ NoOtherDay zone now checkpoints db := by
  constructor
  · rintro ⟨searched, first, -, same, -⟩
    rw [zonedStartOfDay_eq] at searched first
    obtain ⟨shown, fresh⟩ := isLeast_midnight_iff.mp first
    refine ⟨⟨day_midnight_iff.mp shown, fresh, zonedMidnightUtc_eq_iff.mp searched⟩, ?_⟩
    intro checkpoint listed scan member after
    have counts : scan ∈ countedScans zone now db checkpoint.id :=
      List.mem_filter.mpr ⟨member, decide_eq_true (zonedStartOfDay_eq ▸ after)⟩
    rw [same checkpoint listed] at counts
    exact of_decide_eq_true (List.mem_filter.mp counts).2
  · rintro ⟨⟨shown, fresh, leads⟩, others⟩
    have first := isLeast_midnight_iff.mpr ⟨day_midnight_iff.mpr shown, fresh⟩
    have same : ∀ checkpoint ∈ checkpoints, countedScans zone now db checkpoint.id = scansOn zone now db checkpoint.id := by
      intro checkpoint listed
      unfold countedScans scansOn
      apply List.filter_congr
      intro scan member
      rw [zonedStartOfDay_eq]
      apply decide_eq_decide.mpr
      exact ⟨others checkpoint listed scan member, fun today => first.2 today⟩
    constructor
    · rw [zonedStartOfDay_eq]
      exact zonedMidnightUtc_eq_iff.mpr leads
    · rw [zonedStartOfDay_eq]
      exact first
    · rw [zonedStartOfDay_eq]
      exact midnight_le
    · exact same
    · unfold withStatus
      rw [List.map_map]
      apply List.map_congr_left
      intro checkpoint listed
      rw [← same checkpoint listed]
      rfl

theorem TimeZone.zoneDays (mono : Monotone zone.day) (steps : ∀ t, zone.day (t + 1) ≤ zone.day t + 1) : ZoneDays zone.day := by
  refine ⟨mono, steps, fun t => ?_⟩
  have near : ∀ t minutes : ℤ, -720 ≤ minutes → minutes ≤ 840 →
      (t + minutes * msPerMinute) / msPerDay * msPerDay - 14 * msPerHour ≤ t ∧
        t < ((t + minutes * msPerMinute) / msPerDay + 1) * msPerDay + 14 * msPerHour := by
    unfold msPerDay msPerMinute msPerHour
    omega
  exact near t (zone.minutes t) (zone.behind t) (zone.ahead t)

theorem steadyDay_iff (days : ZoneDays zone.day) (first : firstFound ≤ zone.day now) (last : zone.day now ≤ lastFound) :
    SteadyDay zone now ↔ zone.offset (zone.midnight now - 1) ≤ zone.offset now ∧
      zone.offset now ≤ zone.offset (zone.midnight now) ∧ zone.offset (zone.midnight now) < zone.offset now + msPerDay := by
  obtain ⟨boundary, found, least, reached⟩ := zonedMidnightUtc_found days first last
  have before : zone.day (zone.midnight now - 1) < zone.day now ↔ zone.offset (zone.midnight now - 1) ≤ zone.offset now := by
    have local' : zone.midnight now - 1 + zone.offset (zone.midnight now - 1) =
        zone.day now * msPerDay + (zone.offset (zone.midnight now - 1) - zone.offset now - 1) := by
      rw [TimeZone.midnight]
      ring
    have minute : ∀ day there here : ℤ, (day * msPerDay + (there * msPerMinute - here * msPerMinute - 1)) / msPerDay < day ↔
        there * msPerMinute ≤ here * msPerMinute := by
      unfold msPerDay
      omega
    rw [TimeZone.day, local']
    exact minute _ _ _
  constructor
  · rintro ⟨shown, fresh, leads⟩
    refine ⟨before.mp ?_, shown⟩
    have earlier := days.mono (show zone.midnight now - 1 ≤ zone.midnight now by linarith)
    rw [day_midnight_iff.mpr shown] at earlier
    exact lt_of_le_of_ne earlier (fresh _ (by linarith))
  · rintro ⟨behind, shown⟩
    have same : boundary = zone.midnight now := by
      have start := (reached (zone.midnight now)).mp (day_midnight_iff.mpr shown).ge
      have notYet := (not_congr (reached (zone.midnight now - 1))).mp (not_le.mpr (before.mpr behind))
      linarith [not_le.mp notYet, Int.add_one_le_of_lt (not_le.mp notYet)]
    rw [same] at found least
    exact ⟨shown, (isLeast_midnight_iff.mp least).2, zonedMidnightUtc_eq_iff.mp found⟩

theorem steadyDay_of_fixed (fixed : ∀ t, zone.minutes t = zone.minutes now) (first : firstFound ≤ zone.day now)
    (last : zone.day now ≤ lastFound) : SteadyDay zone now := by
  have offsets : ∀ t, zone.offset t = zone.offset now := fun t => congrArg (· * msPerMinute) (fixed t)
  have days : zone.day = fixedZone (zone.offset now) := by
    funext t
    rw [TimeZone.day, offsets t]
    rfl
  have mono : ZoneDays zone.day := by
    rw [days]
    have behind := zone.behind now
    have ahead := zone.ahead now
    apply fixedZone_days
    · unfold TimeZone.offset msPerMinute msPerHour
      linarith
    · unfold TimeZone.offset msPerMinute msPerHour
      linarith
  rw [steadyDay_iff mono first last, offsets, offsets (zone.midnight now)]
  exact ⟨le_rfl, le_rfl, lt_add_of_pos_right _ (by decide)⟩

namespace Sample

def summer : TimeZone where
  minutes t := if t < 20541 * msPerDay + 60 * msPerMinute then 60 else 120
  behind t := by split <;> decide
  ahead t := by split <;> decide

def noon : Instant := 20541 * msPerDay + 600 * msPerMinute

end Sample

open Sample in
theorem day_start_early : ¬ ∀ zone now checkpoints db, DayStartsAgree zone now checkpoints db := by
  intro agree
  have first := (agree summer noon [] ⟨0, [], [], []⟩).first.1
  have evening : summer.day (zonedStartOfDay summer.offset noon) = 20540 := by decide
  have today : summer.day noon = 20541 := by decide
  have same : summer.day (zonedStartOfDay summer.offset noon) = summer.day noon := first
  rw [evening, today] at same
  cases same

end SmartResidence.Safety
