import SmartResidence.Proof.VisitorRows

/-!
# Parking slots of a night

A stay that is approved by itself is counted in its transaction. One that management approves is not.
-/

namespace SmartResidence.Visitors

open Foundation Billing List

def parks (calendar : LocalCalendar) (condoId : Id) (arrival : Instant) (visitor : Visitor) : Bool :=
  let night := nightRangeForArrival calendar arrival
  decide (visitor.condoId = condoId ∧ visitor.overnight = true ∧ visitor.status ∈ [VisitorStatus.approved, .checkedIn] ∧
    night.1 ≤ visitor.expectedAt ∧ visitor.expectedAt < night.2)

def parked (env : VisitorEnv) (db : VisitorDb) (condoId : Id) (arrival : Instant) : Nat :=
  db.visitors.countP (parks env.calendar condoId arrival)

def slots (env : VisitorEnv) (db : VisitorDb) (condoId : Id) : Nat := (settingsOf env db condoId).overnightSlotsPerNight

def Roomy (env : VisitorEnv) (db : VisitorDb) : Prop := ∀ condoId arrival, parked env db condoId arrival ≤ slots env db condoId

def HasRoom (env : VisitorEnv) (before : VisitorState) : VisitorEvent → Prop
  | .proceed _ (.ending visitorId ending) => ending.status ∈ [some VisitorStatus.approved, some .checkedIn] →
      ∀ visitor ∈ before.db.visitors, visitor.id = visitorId → visitor.overnight = true →
        visitor.status ∈ [VisitorStatus.approved, .checkedIn] ∨
          visitor.status = .pendingManagementApproval ∧
            parked env before.db visitor.condoId visitor.expectedAt < slots env before.db visitor.condoId
  | _ => True

section

variable {env : VisitorEnv} {now : Instant} {db after : VisitorDb} {call : InFlight} {visitor row : Visitor}
  {condoId : Id} {arrival : Instant}

theorem parks_iff : parks env.calendar condoId arrival visitor = true ↔ visitor.condoId = condoId ∧
    visitor.overnight = true ∧ visitor.status ∈ [VisitorStatus.approved, .checkedIn] ∧
      env.calendar.day visitor.expectedAt = env.calendar.day arrival := by
  unfold parks nightRangeForArrival startOfLocalDay
  simp only [decide_eq_true_eq, LocalCalendar.day_mem_iff]
  have one : env.calendar.day arrival ≤ env.calendar.day visitor.expectedAt ∧
      env.calendar.day visitor.expectedAt < env.calendar.day arrival + 1 ↔
        env.calendar.day visitor.expectedAt = env.calendar.day arrival := by omega
  rw [one]

theorem holdsSlot_iff : holdsSlot env.calendar condoId arrival visitor = true ↔ visitor.condoId = condoId ∧
    visitor.overnight = true ∧ visitor.status ∈ [VisitorStatus.approved, .pendingManagementApproval, .checkedIn] ∧
      env.calendar.day visitor.expectedAt = env.calendar.day arrival := by
  unfold holdsSlot nightRangeForArrival startOfLocalDay
  simp only [decide_eq_true_eq, LocalCalendar.day_mem_iff]
  have one : env.calendar.day arrival ≤ env.calendar.day visitor.expectedAt ∧
      env.calendar.day visitor.expectedAt < env.calendar.day arrival + 1 ↔
        env.calendar.day visitor.expectedAt = env.calendar.day arrival := by omega
  rw [one]

theorem parked_congr (same : env.calendar.day visitor.expectedAt = env.calendar.day arrival) :
    parked env db condoId visitor.expectedAt = parked env db condoId arrival := by
  unfold parked parks nightRangeForArrival startOfLocalDay
  rw [same]

theorem holdsSlot_of_parks (parking : parks env.calendar condoId arrival visitor = true) :
    holdsSlot env.calendar condoId arrival visitor = true := by
  obtain ⟨own, overnight, status, night⟩ := parks_iff.mp parking
  refine holdsSlot_iff.mpr ⟨own, overnight, ?_, night⟩
  simp only [mem_cons] at status ⊢
  tauto

def Asked (env : VisitorEnv) (db : VisitorDb) : InFlight → Prop
  | .staying draft _ _ settings => settings = settingsOf env db draft.condoId ∧
      (draft.status ∈ [VisitorStatus.approved, .checkedIn] → isHolidayAuto env.calendar settings draft.expectedAt = true)
  | .counting draft _ _ settings snapshot since => settings = settingsOf env db draft.condoId ∧
      (draft.status ∈ [VisitorStatus.approved, .checkedIn] →
        isHolidayAuto env.calendar settings draft.expectedAt = true) ∧
      since ≤ db.nextId ∧ ∀ visitor ∈ db.visitors, visitor.id < since →
        holdsSlot env.calendar draft.condoId draft.expectedAt visitor = true →
        ∃ old ∈ snapshot, old.id = visitor.id ∧ holdsSlot env.calendar draft.condoId draft.expectedAt old = true
  | _ => True

def HeldBefore (env : VisitorEnv) (db after : VisitorDb) : Prop :=
  ∀ condoId arrival, ∀ visitor ∈ after.visitors, holdsSlot env.calendar condoId arrival visitor = true →
    db.nextId ≤ visitor.id ∨
      ∃ old ∈ db.visitors, old.id = visitor.id ∧ holdsSlot env.calendar condoId arrival old = true

theorem Asked.mono (asked : Asked env db call) (others : Surroundings db after) (held : HeldBefore env db after) :
    Asked env after call := by
  have settings : ∀ condoId, settingsOf env after condoId = settingsOf env db condoId := by
    intro condoId
    unfold settingsOf VisitorDb.condo?
    rw [others.condos]
  cases call with
  | staying draft accessCode checkedAt asked' => exact ⟨asked.1.trans (settings _).symm, asked.2⟩
  | counting draft accessCode checkedAt asked' snapshot since =>
    obtain ⟨same, auto, below, shown⟩ := asked
    refine ⟨same.trans (settings _).symm, auto, below.trans others.grows, fun visitor mem early holds => ?_⟩
    rcases held _ _ visitor mem holds with new | ⟨old, listed, id, held⟩
    · exact absurd (below.trans new) (Nat.not_le.mpr early)
    · obtain ⟨seen, here, own, also⟩ := shown old listed (id ▸ early) held
      exact ⟨seen, here, own.trans id, also⟩
  | ending visitorId ending => trivial
  | registering draft accessCode => trivial
  | walkingIn guardId walkIn => trivial
  | leaving visitorId guardId => trivial
  | closing visit visits => trivial
  | closed visit visits => trivial

theorem heldBefore_rfl (same : after.visitors = db.visitors) : HeldBefore env db after := by
  intro condoId arrival visitor mem holds
  exact .inr ⟨visitor, same ▸ mem, rfl, holds⟩

theorem heldBefore_expire {pick : Visitor → Bool}
    (visitors : after.visitors = updateWhere pick Visitor.expire db.visitors) : HeldBefore env db after := by
  intro condoId arrival visitor mem holds
  rw [visitors] at mem
  obtain ⟨old, listed, rfl⟩ := mem_updateWhere.mp mem
  split at holds
  · obtain ⟨-, -, status, -⟩ := holdsSlot_iff.mp holds
    exact absurd status (by simp [Visitor.expire])
  · rename_i kept
    rw [if_neg kept]
    exact .inr ⟨old, listed, rfl, holds⟩

variable {ending : Ending}

theorem Ending.status_ne_pending : ending.status ≠ some .pendingManagementApproval := by
  cases ending with
  | update decision => cases decision <;> simp [Ending.status, Decision.status]
  | expire message => simp [Ending.status]
  | letIn guardId now approves => simp [Ending.status]

variable {visitorId : Id} {before : VisitorState}

theorem parks_before (mem : visitor ∈ before.db.visitors) (id : visitor.id = visitorId)
    (room : HasRoom env before (.proceed now (.ending visitorId ending)))
    (parking : parks env.calendar condoId arrival (ending.change env visitor) = true) :
    parks env.calendar condoId arrival visitor = true ∨ holdsSlot env.calendar condoId arrival visitor = true ∧
      parked env before.db condoId arrival < slots env before.db condoId := by
  have place : SameVisit visitor (ending.change env visitor) := Ending.sameVisit
  obtain ⟨own, overnight, status, night⟩ := parks_iff.mp parking
  rw [place.condoId] at own
  rw [place.overnight] at overnight
  rw [place.expectedAt] at night
  rw [Ending.change_status] at status
  cases written : ending.status with
  | none =>
    rw [written] at status
    exact .inl (parks_iff.mpr ⟨own, overnight, status, night⟩)
  | some next =>
    have raised : ending.status ∈ [some VisitorStatus.approved, some .checkedIn] := by
      simp only [written, mem_cons, not_mem_nil, Option.some.injEq] at status ⊢
      exact status
    rcases room raised visitor mem id overnight with inside | ⟨waiting, free⟩
    · exact .inl (parks_iff.mpr ⟨own, overnight, inside, night⟩)
    · rw [parked_congr night, own] at free
      exact .inr ⟨holdsSlot_iff.mpr ⟨own, overnight, by simp [waiting], night⟩, free⟩

theorem heldBefore_write (room : HasRoom env before (.proceed now (.ending visitorId ending)))
    (visitors : after.visitors = updateBy Visitor.id visitorId (ending.change env) before.db.visitors) :
    HeldBefore env before.db after := by
  intro condoId arrival visitor mem holds
  rw [visitors] at mem
  obtain ⟨old, listed, rfl⟩ := mem_updateBy.mp mem
  by_cases same : old.id = visitorId
  · rw [if_pos same] at holds ⊢
    refine .inr ⟨old, listed, Ending.change_id.symm, ?_⟩
    obtain ⟨own, overnight, status, night⟩ := holdsSlot_iff.mp holds
    by_cases inside : (ending.change env old).status ∈ [VisitorStatus.approved, .checkedIn]
    · rcases parks_before listed same room (parks_iff.mpr ⟨own, overnight, inside, night⟩) with parking | ⟨held, -⟩
      · exact holdsSlot_of_parks parking
      · exact held
    · have waits : (ending.change env old).status = .pendingManagementApproval := by
        simp only [mem_cons] at status inside
        tauto
      have place : SameVisit old (ending.change env old) := Ending.sameVisit
      rw [Ending.change_status] at waits
      have waited : old.status = .pendingManagementApproval := by
        cases written : ending.status with
        | none => rwa [written] at waits
        | some next =>
          rw [written] at waits
          obtain rfl : next = .pendingManagementApproval := waits
          exact absurd written Ending.status_ne_pending
      rw [place.condoId] at own
      rw [place.overnight] at overnight
      rw [place.expectedAt] at night
      exact holdsSlot_iff.mpr ⟨own, overnight, by simp [waited], night⟩
  · rw [if_neg same] at holds ⊢
    exact .inr ⟨old, listed, rfl, holds⟩

theorem heldBefore_insert (new : row.id = db.nextId) (visitors : after.visitors = db.visitors ++ [row]) :
    HeldBefore env db after := by
  intro condoId arrival visitor mem holds
  rw [visitors] at mem
  rcases mem_append.mp mem with old | added
  · exact .inr ⟨visitor, old, rfl, holds⟩
  · obtain rfl := mem_singleton.mp added
    exact .inl new.ge

theorem roomy_of_le (roomy : Roomy env db) (others : Surroundings db after)
    (fewer : ∀ condoId arrival, parked env after condoId arrival ≤ parked env db condoId arrival ∨
      parked env after condoId arrival ≤ slots env db condoId) : Roomy env after := by
  intro condoId arrival
  have same : slots env after condoId = slots env db condoId := by
    unfold slots settingsOf VisitorDb.condo?
    rw [others.condos]
  rw [same]
  exact (fewer condoId arrival).elim (fun less => less.trans (roomy condoId arrival)) fun within => within

theorem parked_le_snapshot {draft : Visitor} {accessCode : String} {checkedAt : Instant}
    {settings : CondoVisitorSettings} {snapshot : List Visitor} {since : Nat}
    (ids : Allocated (db.visitors.map Visitor.id) db.nextId)
    (asked : Asked env db (.counting draft accessCode checkedAt settings snapshot since))
    (fresh : outdated env db draft since = false) : parked env db draft.condoId draft.expectedAt ≤
      countOvernightSlots env.calendar snapshot draft.condoId draft.expectedAt := by
  refine countP_le_of_keys ids.distinct fun visitor mem parking => ?_
  refine asked.2.2.2 visitor mem ?_ (holdsSlot_of_parks parking)
  by_contra late
  obtain ⟨own, overnight, -, night⟩ := of_decide_eq_true parking
  have newer : outdated env db draft since = true :=
    any_eq_true.mpr ⟨visitor, mem, decide_eq_true ⟨Nat.le_of_not_lt late, overnight, own, night⟩⟩
  rw [fresh] at newer
  cases newer

end

structure Capacity (env : VisitorEnv) (state : VisitorState) : Prop where
  tidy : Tidy state
  roomy : Roomy env state.db
  asked : ∀ call ∈ state.calls, Asked env state.db call

section

variable {env : VisitorEnv} {now : Instant} {db after : VisitorDb} {call : InFlight} {rest more front back : List InFlight}

variable {before : VisitorState}

theorem room_of_writes {visitorId : Id} {ending : Ending} (room : HasRoom env before (.proceed now call))
    (writes : call.writes = some (visitorId, ending)) :
    HasRoom env before (.proceed now (.ending visitorId ending)) := by
  cases call with
  | ending id write =>
    cases writes
    exact room
  | closed visit visits =>
    cases writes
    exact fun raised => absurd raised (by simp [Ending.status, Decision.status])
  | registering draft accessCode => cases writes
  | staying draft accessCode checkedAt settings => cases writes
  | counting draft accessCode checkedAt settings snapshot since => cases writes
  | walkingIn guardId walkIn => cases writes
  | leaving id guardId => cases writes
  | closing visit visits => cases writes

theorem room_of_inserts {draft : Visitor} (ids : Allocated (db.visitors.map Visitor.id) db.nextId)
    (asked : Asked env db call) (day : call.Day) (inserts : call.inserts = some draft) (settled : call.Settled env db)
    (overnight : draft.overnight = true) (status : draft.status ∈ [VisitorStatus.approved, .checkedIn]) :
    parked env db draft.condoId draft.expectedAt < slots env db draft.condoId := by
  have never : draft.overnight = false → False := fun day => by
    rw [day] at overnight
    cases overnight
  cases call with
  | registering other accessCode =>
    cases inserts
    exact (never day).elim
  | walkingIn guardId walkIn =>
    cases walkIn with
    | waits other =>
      cases inserts
      exact (never day).elim
    | enters other =>
      cases inserts
      exact (never day).elim
  | counting other accessCode checkedAt settings snapshot since =>
    cases inserts
    obtain ⟨fresh, outcome, resolved⟩ := settled
    have shown := parked_le_snapshot ids asked fresh
    have auto := asked.2.1 status
    rcases overnightOutcome_eq_ok resolved with ⟨-, working⟩ | ⟨-, -, free⟩
    · rw [auto] at working
      cases working
    · rw [asked.1] at free
      exact shown.trans_lt free
  | ending id write => cases inserts
  | staying other accessCode checkedAt settings => cases inserts
  | leaving id guardId => cases inserts
  | closing visit visits => cases inserts
  | closed visit visits => cases inserts

theorem roomy_change {calls : List InFlight} (ids : Allocated (db.visitors.map Visitor.id) db.nextId)
    (roomy : Roomy env db) (asked : Asked env db call) (day : call.Day) (others : Surroundings db after)
    (room : HasRoom env ⟨db, calls⟩ (.proceed now call)) (change : RowChange env now db call after) :
    Roomy env after ∧ HeldBefore env db after := by
  cases change with
  | keeps visitors =>
    refine ⟨roomy_of_le roomy others fun condoId arrival => .inl ?_, heldBefore_rfl visitors⟩
    unfold parked
    rw [visitors]
  | @writes visitorId ending writes visitors =>
    have room := room_of_writes room writes
    refine ⟨roomy_of_le roomy others fun condoId arrival => ?_, heldBefore_write room visitors⟩
    unfold parked
    rw [visitors]
    rcases countP_updateBy ids.distinct with fewer | ⟨visitor, mem, same, after, before, more⟩
    · exact .inl fewer
    · rcases parks_before mem same room after with parking | ⟨-, free⟩
      · rw [before] at parking
        cases parking
      · exact .inr (more.trans_le free)
  | @inserts draft row inserts settled new visitors grows =>
    refine ⟨roomy_of_le roomy others fun condoId arrival => ?_, heldBefore_insert new.id visitors⟩
    unfold parked
    rw [visitors, countP_append]
    by_cases parking : parks env.calendar condoId arrival row = true
    · obtain ⟨own, overnight, status, night⟩ := parks_iff.mp parking
      rw [new.condoId] at own
      rw [new.overnight] at overnight
      rw [new.status] at status
      rw [new.expectedAt] at night
      have free := room_of_inserts ids asked day inserts settled overnight status
      rw [parked_congr night, own] at free
      right
      rw [countP_singleton, if_pos parking]
      exact free
    · simp [parking]

theorem InFlight.Begun.asked (begun : call.Begun env now db) : Asked env db call := by
  cases call with
  | staying draft accessCode checkedAt settings =>
    obtain ⟨same, user, dto, drafted, overnight⟩ := begun
    have facts := createDraft_ok drafted
    refine ⟨same, fun status => ?_⟩
    rw [same, facts.expectedAt]
    rcases facts.night (facts.overnight ▸ overnight) with ⟨waits, -⟩ | ⟨-, auto, -⟩
    · simp [waits] at status
    · exact auto
  | counting draft accessCode checkedAt settings snapshot since => exact begun.elim
  | walkingIn guardId walkIn => trivial
  | registering draft accessCode => trivial
  | ending visitorId write => trivial
  | leaving visitorId guardId => trivial
  | closing visit visits => trivial
  | closed visit visits => trivial

theorem InFlight.Plain.asked (plain : call.Plain) : Asked env db call := by
  cases call with
  | staying draft accessCode checkedAt settings => exact plain.elim
  | counting draft accessCode checkedAt settings snapshot since => exact plain.elim
  | walkingIn guardId walkIn => trivial
  | registering draft accessCode => trivial
  | ending visitorId write => trivial
  | leaving visitorId guardId => trivial
  | closing visit visits => trivial
  | closed visit visits => trivial

theorem proceed_asked (asked : Asked env db call) (proceeds : call.proceed env now db = .ok (after, rest)) :
    ∀ other ∈ rest, Asked env after other := by
  intro other mem
  rcases proceed_rest proceeds other mem with plain | ⟨rfl, _, _, _, _, ⟨rfl, rfl⟩ | ⟨⟨_, _, rfl⟩, rfl⟩⟩
  · exact plain.asked
  · exact ⟨asked.1, asked.2, le_rfl, fun visitor listed _ holds => ⟨visitor, listed, rfl, holds⟩⟩
  · exact ⟨asked.1, asked.2.1⟩

theorem Capacity.step {later : VisitorState} {event : VisitorEvent} (capacity : Capacity env before)
    (room : HasRoom env before event) (step : VisitorStep env before event later) : Capacity env later := by
  obtain ⟨tidy, others⟩ := capacity.tidy.step step
  have kept : ∀ {calls : List InFlight}, HeldBefore env before.db later.db →
      (∀ call ∈ calls, call ∈ before.calls) → ∀ call ∈ calls, Asked env later.db call := by
    intro calls held known call mem
    exact (capacity.asked call (known call mem)).mono others held
  cases step with
  | expireApprovals =>
    refine ⟨tidy, roomy_of_le capacity.roomy others fun condoId arrival => .inl ?_,
      kept (heldBefore_expire rfl) fun _ mem => mem⟩
    exact countP_updateWhere_le fun visitor _ _ parking => by simp [parks, Visitor.expire] at parking
  | expirePasses =>
    refine ⟨tidy, roomy_of_le capacity.roomy others fun condoId arrival => .inl ?_,
      kept (heldBefore_expire rfl) fun _ mem => mem⟩
    exact countP_updateWhere_le fun visitor _ _ parking => by simp [parks, Visitor.expire] at parking
  | policies =>
    exact ⟨tidy, roomy_of_le capacity.roomy others fun _ _ => .inl le_rfl, kept (heldBefore_rfl rfl) fun _ mem => mem⟩
  | begin begins =>
    refine ⟨tidy, capacity.roomy, fun call mem => ?_⟩
    rcases mem_append.mp mem with old | new
    · exact capacity.asked call old
    · exact (begin_begun begins call new).asked
  | @proceed db after front back rest now call proceeds =>
    have here : call ∈ front ++ call :: back := by simp
    have ids := capacity.tidy.ids
    obtain ⟨change, -⟩ := proceed_rows ids proceeds
    have asked := capacity.asked call here
    obtain ⟨roomy, held⟩ := roomy_change ids capacity.roomy asked (capacity.tidy.days call here) others room change
    refine ⟨tidy, roomy, fun other mem => ?_⟩
    simp only [mem_append] at mem
    rcases mem with (early | new) | late
    · exact kept held (fun _ mem => mem_append_left _ mem) other early
    · exact proceed_asked asked proceeds other new
    · exact kept held (fun _ mem => mem_append_right _ (mem_cons_of_mem _ mem)) other late
  | abort aborts =>
    refine ⟨tidy, capacity.roomy, fun call mem => capacity.asked call ?_⟩
    rcases mem_append.mp mem with early | late
    · exact mem_append_left _ early
    · exact mem_append_right _ (mem_cons_of_mem _ late)

end

/-- While every update finds a free slot, no night is sold twice; and a new stay is refused for want of a slot on a night
without approval only, when as many visitors as there are slots are approved, checked in or waiting. -/
theorem overnight_capacity {env : VisitorEnv} {start finish : VisitorState} {events : List VisitorEvent}
    (ids : Allocated (start.db.visitors.map Visitor.id) start.db.nextId) (quiet : start.calls = [])
    (roomy : Roomy env start.db) (run : Run (Guarded (HasRoom env) (VisitorStep env)) start events finish) :
    Roomy env finish.db ∧ ∀ now condoId arrival,
      (∃ failure, overnightOutcome env.calendar now (settingsOf env finish.db condoId) finish.db.visitors condoId arrival =
          .error failure) ↔
        isHolidayAuto env.calendar (settingsOf env finish.db condoId) arrival = true ∧
          slots env finish.db condoId ≤ countOvernightSlots env.calendar finish.db.visitors condoId arrival := by
  have none : ∀ call ∈ start.calls, call.Day ∧ Asked env start.db call := by
    rw [quiet]
    exact fun _ member => nomatch member
  have begins : Capacity env start := ⟨⟨ids, fun call member => (none call member).1⟩, roomy, fun call member => (none call member).2⟩
  refine ⟨(run.invariant (fun _ _ _ capacity move => capacity.step move.1 move.2) begins).roomy, fun now condoId arrival => ?_⟩
  unfold overnightOutcome resolveOvernightOutcome slots
  by_cases auto : isHolidayAuto env.calendar (settingsOf env finish.db condoId) arrival = true
  · by_cases full : (settingsOf env finish.db condoId).overnightSlotsPerNight ≤
        countOvernightSlots env.calendar finish.db.visitors condoId arrival
    · simp [auto, full]
    · simp [auto, full]
  · simp [auto]

namespace Sample

def stay (arrival : Instant) : CreateVisitorDto :=
  ⟨1, "Tan", none, "012-345 6789", none, some "WXY 1234", none, true, arrival, none, none⟩

def friday : Instant := 86400000 + 20 * 3600000
def saturday : Instant := 2 * 86400000 + 20 * 3600000

theorem start_ids : Allocated (start.db.visitors.map Visitor.id) start.db.nextId := .nil

end Sample

theorem overnight_capacity_oversold : ∃ events finish, Initial Sample.start ∧
    Run (VisitorStep Sample.env) Sample.start events finish ∧ ¬ Roomy Sample.env finish.db := by
  have ends : (Sample.start.schedule Sample.env [
      .begin 0 (.create Sample.owner (Sample.stay Sample.friday) "AAAAAA"), .proceed 0 0, .proceed 0 0,
      .begin 0 (.create Sample.owner (Sample.stay Sample.friday) "BBBBBB"), .proceed 0 0, .proceed 0 0,
      .begin 1 (.approveOvernight 10 Sample.manager "AAAAAA"), .proceed 1 0,
      .begin 1 (.approveOvernight 11 Sample.manager "BBBBBB"), .proceed 1 0]).map
        (fun state => (parked Sample.env state.db 1 Sample.friday, slots Sample.env state.db 1)) = some (2, 1) := by
    decide +kernel
  obtain ⟨finish, scheduled, figures⟩ := Option.map_eq_some_iff.mp ends
  obtain ⟨two, one⟩ := Prod.mk.inj figures
  obtain ⟨events, run⟩ := schedule_run scheduled
  refine ⟨events, finish, Sample.start_initial, run, fun roomy => ?_⟩
  have within := roomy 1 Sample.friday
  rw [two, one] at within
  exact absurd within (by decide)

theorem overnight_capacity_saturday : ∃ db,
    create Sample.env 0 "AAAAAA" Sample.start.db Sample.owner (Sample.stay Sample.saturday) = .ok db ∧
      parked Sample.env db 1 Sample.saturday = 1 ∧ Roomy Sample.env db := by
  have sold : (create Sample.env 0 "AAAAAA" Sample.start.db Sample.owner (Sample.stay Sample.saturday)).map (fun db =>
      parked Sample.env db 1 Sample.saturday) = .ok 1 := by
    decide +kernel
  obtain ⟨db, created, one⟩ := map_eq_ok.mp sold
  obtain ⟨draft, settings, -, -, first, second, third⟩ := create_steps Sample.start_ids rfl created
  have early : HasRoom Sample.env Sample.start
      (.begin 0 (.create Sample.owner (Sample.stay Sample.saturday) "AAAAAA")) := trivial
  have waits : ∀ state, HasRoom Sample.env state (.proceed 0 (.staying draft "AAAAAA" 0 settings)) := fun _ => trivial
  have counts : ∀ state, HasRoom Sample.env state (.proceed 0 (.counting draft "AAAAAA" 0 settings
      Sample.start.db.visitors Sample.start.db.nextId)) := fun _ => trivial
  have roomy : Roomy Sample.env Sample.start.db := fun _ _ => Nat.zero_le _
  have begun : Run (Guarded (HasRoom Sample.env) (VisitorStep Sample.env)) Sample.start _ _ := .single ⟨early, first⟩
  have ended := (begun.snoc ⟨waits _, second⟩).snoc ⟨counts _, third⟩
  exact ⟨db, created, one, (overnight_capacity Sample.start_ids rfl roomy ended).1⟩

end SmartResidence.Visitors
