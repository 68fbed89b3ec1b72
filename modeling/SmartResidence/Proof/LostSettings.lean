import SmartResidence.Foundation.Runs
import SmartResidence.Settings.SettingsWriters

/-!
# Lost settings

A write puts back what it read of the other sections, and a billing run the settings of its start.
-/

namespace SmartResidence.Settings

open Foundation Billing Threads Access List

inductive Part
  | visitor | accessRestriction | graceDays | assigneePools | automation | runRecord

def Part.name : Part → String
  | .visitor => "visitor"
  | .accessRestriction => "accessRestriction"
  | .graceDays | .assigneePools => "helpdesk"
  | .automation | .runRecord => "billingAutomation"

def SettingsRequest.part : SettingsRequest → Part
  | .updateVisitorSettings .. => .visitor
  | .updateAccessRestriction .. => .accessRestriction
  | .updateSlaSettings .. => .graceDays
  | .updateAutoAssignment .. => .assigneePools
  | .updateBillingAutomation .. => .automation

def SettingsFlight.part : SettingsFlight → Part
  | .writing _ request _ _ => request.part
  | .running .. | .recording .. => .runRecord

@[ext]
structure Parts where
  sections : String → Option Json
  helpdesk : HelpdeskSettings
  automation : Option StoredAutomation

def partsOf (settings : Json) : Parts :=
  ⟨fun name => settings.record.lookup name, parseHelpdeskSettings settings, parseAutomationSettings settings⟩

def Part.takeHelpdesk (part : Part) (new old : HelpdeskSettings) : HelpdeskSettings :=
  match part with
  | .graceDays =>
      { old with
        resolutionConfirmationGraceDays := new.resolutionConfirmationGraceDays
        grace_bounds := new.grace_bounds }
  | .assigneePools =>
      { old with
        autoAssignment := new.autoAssignment.map fun auto =>
          { auto with
            priorityPools := old.autoAssignment.bind AutoAssignment.priorityPools
            mlEnabled := old.autoAssignment.any AutoAssignment.mlEnabled } }
  | _ => old

def Part.takeAutomation (part : Part) (new old : Option StoredAutomation) : Option StoredAutomation :=
  match part with
  | .automation => new.bind fun new => old.map fun old => ⟨new.settings, old.run⟩
  | .runRecord => new.bind fun new => old.map fun old => ⟨old.settings, new.run⟩
  | _ => old

def Part.take (part : Part) (new old : Parts) : Parts where
  sections := Function.update old.sections part.name (new.sections part.name)
  helpdesk := part.takeHelpdesk new.helpdesk old.helpdesk
  automation := part.takeAutomation new.automation old.automation

structure Tracked where
  state : SettingsState
  last : Id → Parts

def SettingsFlight.note (last : Id → Parts) (flight : SettingsFlight) : Id → Parts :=
  match flight.written with
  | some (condoId, settings) => Function.update last condoId (flight.part.take (partsOf settings) (last condoId))
  | none => last

def Tracked.note (before : Tracked) : SettingsEvent → Id → Parts
  | .write place => (before.state.flights[place]?).elim before.last (SettingsFlight.note before.last)
  | _ => before.last

def Tracked.next (env : SettingsEnv) (before : Tracked) (event : SettingsEvent) : Option Tracked :=
  (before.state.next env event).map fun state => ⟨state, before.note event⟩

def TrackedStep (env : SettingsEnv) (before : Tracked) (event : SettingsEvent) (after : Tracked) : Prop :=
  before.next env event = some after

def NothingLost (tracked : Tracked) : Prop :=
  ∀ condo ∈ tracked.state.db.condos, partsOf condo.settings = tracked.last condo.id

def Part.Agrees (part : Part) (read now : Parts) : Prop :=
  (∀ name, name ≠ part.name → read.sections name = now.sections name) ∧
    match part with
    | .visitor | .accessRestriction => True
    | .graceDays =>
        read.helpdesk.autoAssignment = now.helpdesk.autoAssignment ∧
          read.helpdesk.mlPriorityEnabled = now.helpdesk.mlPriorityEnabled
    | .assigneePools =>
        read.helpdesk.resolutionConfirmationGraceDays = now.helpdesk.resolutionConfirmationGraceDays ∧
          read.helpdesk.mlPriorityEnabled = now.helpdesk.mlPriorityEnabled ∧
          read.helpdesk.autoAssignment.bind AutoAssignment.priorityPools =
            now.helpdesk.autoAssignment.bind AutoAssignment.priorityPools ∧
          read.helpdesk.autoAssignment.any AutoAssignment.mlEnabled = now.helpdesk.autoAssignment.any AutoAssignment.mlEnabled
    | .automation => read.automation.map StoredAutomation.run = now.automation.map StoredAutomation.run
    | .runRecord => read.automation.map StoredAutomation.settings = now.automation.map StoredAutomation.settings

def SettingsFlight.seen : SettingsFlight → Parts
  | .writing _ _ read _ => partsOf read
  | .running _ settings => { partsOf .null with automation := some settings }
  | .recording _ settings _ read => { partsOf read with automation := some settings }

def UpToDate (before : Tracked) : SettingsEvent → Prop
  | .write place => ∀ flight ∈ before.state.flights[place]?, ∀ condoId settings, flight.written = some (condoId, settings) →
      ∀ condo ∈ before.state.db.condos, condo.id = condoId → flight.part.Agrees flight.seen (partsOf condo.settings)
  | _ => True

/-! ## What a flight writes -/

section

variable {env : SettingsEnv} {now : Instant} {db : SettingsDb} {condo : ThreadCondo} {request : SettingsRequest}
  {read written : Json} {fields : List (String × Json)} {name : String} {value : Json}

theorem helpdesk_congr (same : read.record.lookup "helpdesk" = written.record.lookup "helpdesk") :
    parseHelpdeskSettings read = parseHelpdeskSettings written := by
  have get : read.get "helpdesk" = written.get "helpdesk" := congrArg (·.getD .null) same
  ext1
  all_goals
    unfold parseHelpdeskSettings
    simp only [get]

theorem automation_congr (same : read.record.lookup "billingAutomation" = written.record.lookup "billingAutomation") :
    parseAutomationSettings read = parseAutomationSettings written := by
  have get : read.get "billingAutomation" = written.get "billingAutomation" := congrArg (·.getD .null) same
  unfold parseAutomationSettings
  rw [get]

structure Merges (part : Part) (read written : Parts) : Prop where
  others : ∀ name, name ≠ part.name → written.sections name = read.sections name
  helpdesk : written.helpdesk = part.takeHelpdesk written.helpdesk read.helpdesk
  automation : written.automation = part.takeAutomation written.automation read.automation

theorem merges_assign (part : Part)
    (helpdesk : part.name = "helpdesk" → parseHelpdeskSettings (.object (assign part.name value fields)) =
        part.takeHelpdesk (parseHelpdeskSettings (.object (assign part.name value fields)))
          (parseHelpdeskSettings (.object fields)))
    (automation : part.name = "billingAutomation" → parseAutomationSettings (.object (assign part.name value fields)) =
        part.takeAutomation (parseAutomationSettings (.object (assign part.name value fields)))
          (parseAutomationSettings (.object fields))) :
    Merges part (partsOf (.object fields)) (partsOf (.object (assign part.name value fields))) := by
  have others : ∀ name, name ≠ part.name → (assign part.name value fields).lookup name = fields.lookup name :=
    fun _ => lookup_assign_other
  constructor
  case others => exact others
  case helpdesk =>
    by_cases own : part.name = "helpdesk"
    · exact helpdesk own
    · have kept : part.takeHelpdesk = fun _ old => old := by
        cases part with
        | graceDays => exact absurd rfl own
        | assigneePools => exact absurd rfl own
        | visitor => rfl
        | accessRestriction => rfl
        | automation => rfl
        | runRecord => rfl
      rw [kept]
      exact helpdesk_congr (others _ fun same => own same.symm)
  case automation =>
    by_cases own : part.name = "billingAutomation"
    · exact automation own
    · have kept : part.takeAutomation = fun _ old => old := by
        cases part with
        | automation => exact absurd rfl own
        | runRecord => exact absurd rfl own
        | visitor => rfl
        | accessRestriction => rfl
        | graceDays => rfl
        | assigneePools => rfl
      rw [kept]
      exact automation_congr (others _ fun same => own same.symm)

theorem merged_merges (stored : condo.settings = .object fields) (done : request.merged env now db condo = .ok written) :
    (∃ fields, written = .object fields) ∧ Merges request.part (partsOf condo.settings) (partsOf written) := by
  cases request with
  | updateVisitorSettings user dto =>
    cases done
    rw [stored]
    refine ⟨⟨_, rfl⟩, merges_assign .visitor ?_ ?_⟩
    · exact fun never => absurd never (by decide)
    · exact fun never => absurd never (by decide)
  | updateAccessRestriction user dto =>
    cases done
    refine ⟨⟨_, rfl⟩, merges_assign .accessRestriction ?_ ?_⟩
    · exact fun never => absurd never (by decide)
    · exact fun never => absurd never (by decide)
  | updateSlaSettings user dto =>
    simp only [SettingsRequest.merged, bind_eq_ok, pure_eq_ok] at done
    obtain ⟨_, -, rfl⟩ := done
    rw [stored]
    refine ⟨⟨_, rfl⟩, merges_assign .graceDays (fun _ => ?_) fun never => absurd never (by decide)⟩
    show parseHelpdeskSettings (.object (assign "helpdesk" _ fields)) = Part.takeHelpdesk .graceDays
      (parseHelpdeskSettings (.object (assign "helpdesk" _ fields))) _
    rw [parse_helpdesk]
    unfold UpdateSlaPoliciesDto.patch
    split <;> rfl
  | updateAutoAssignment user dto =>
    simp only [SettingsRequest.merged, bind_eq_ok, pure_eq_ok] at done
    obtain ⟨_, -, rfl⟩ := done
    rw [stored]
    refine ⟨⟨_, rfl⟩, merges_assign .assigneePools (fun _ => ?_) fun never => absurd never (by decide)⟩
    show parseHelpdeskSettings (.object (assign "helpdesk" _ fields)) = Part.takeHelpdesk .assigneePools
      (parseHelpdeskSettings (.object (assign "helpdesk" _ fields))) _
    rw [parse_helpdesk]
    rfl
  | updateBillingAutomation dto =>
    simp only [SettingsRequest.merged, bind_eq_ok, pure_eq_ok, orThrow_eq_ok] at done
    obtain ⟨current, parsed, rfl⟩ := done
    rw [stored] at parsed ⊢
    refine ⟨⟨_, rfl⟩, merges_assign .automation (fun never => absurd never (by decide)) fun _ => ?_⟩
    show parseAutomationSettings (.object (assign "billingAutomation" _ fields)) = Part.takeAutomation .automation
      (parseAutomationSettings (.object (assign "billingAutomation" _ fields))) _
    rw [parse_automation, parsed]
    rfl

variable {part : Part}

theorem takeHelpdesk_congr {now : Json} {new : HelpdeskSettings} (agrees : part.Agrees (partsOf read) (partsOf now)) :
    part.takeHelpdesk new (parseHelpdeskSettings read) = part.takeHelpdesk new (parseHelpdeskSettings now) := by
  obtain ⟨sections, own⟩ := agrees
  cases part with
  | visitor => exact helpdesk_congr (sections "helpdesk" (by decide))
  | accessRestriction => exact helpdesk_congr (sections "helpdesk" (by decide))
  | automation => exact helpdesk_congr (sections "helpdesk" (by decide))
  | runRecord => exact helpdesk_congr (sections "helpdesk" (by decide))
  | graceDays =>
    obtain ⟨pools, suggestions⟩ := own
    ext1
    · rfl
    · exact pools
    · exact suggestions
  | assigneePools =>
    obtain ⟨grace, suggestions, priorityPools, mlEnabled⟩ := own
    ext1
    · exact grace
    · show new.autoAssignment.map _ = new.autoAssignment.map _
      simp only [partsOf] at priorityPools mlEnabled
      rw [priorityPools, mlEnabled]
    · exact suggestions

theorem takeAutomation_congr {now : Json} {new : Option StoredAutomation}
    (agrees : part.Agrees (partsOf read) (partsOf now)) :
    part.takeAutomation new (parseAutomationSettings read) = part.takeAutomation new (parseAutomationSettings now) := by
  obtain ⟨sections, own⟩ := agrees
  cases part with
  | visitor => exact automation_congr (sections "billingAutomation" (by decide))
  | accessRestriction => exact automation_congr (sections "billingAutomation" (by decide))
  | graceDays => exact automation_congr (sections "billingAutomation" (by decide))
  | assigneePools => exact automation_congr (sections "billingAutomation" (by decide))
  | automation =>
    have runs : (parseAutomationSettings read).map StoredAutomation.run =
        (parseAutomationSettings now).map StoredAutomation.run := own
    have split : ∀ old : Option StoredAutomation, Part.takeAutomation .automation new old =
        new.bind fun new => (old.map StoredAutomation.run).map fun run => ⟨new.settings, run⟩ := by
      intro old
      cases old <;> rfl
    rw [split, split, runs]
  | runRecord =>
    have configured : (parseAutomationSettings read).map StoredAutomation.settings =
        (parseAutomationSettings now).map StoredAutomation.settings := own
    have split : ∀ old : Option StoredAutomation, Part.takeAutomation .runRecord new old =
        new.bind fun new => (old.map StoredAutomation.settings).map fun settings => ⟨settings, new.run⟩ := by
      intro old
      cases old <;> rfl
    rw [split, split, configured]

def SettingsFlight.Sound : SettingsFlight → Prop
  | .writing _ request read written =>
      (∃ fields, written = .object fields) ∧ Merges request.part (partsOf read) (partsOf written)
  | .running .. => True
  | .recording _ _ _ read => ∃ fields, read = .object fields

theorem written_parts {flight : SettingsFlight} {condoId : Id} {now settings : Json} (sound : flight.Sound)
    (writes : flight.written = some (condoId, settings)) (agrees : flight.part.Agrees flight.seen (partsOf now)) :
    (∃ fields, settings = .object fields) ∧ partsOf settings = flight.part.take (partsOf settings) (partsOf now) := by
  have sections {part : Part} {read : Parts}
      (others : ∀ name, name ≠ part.name → (partsOf settings).sections name = read.sections name)
      (agree : ∀ name, name ≠ part.name → read.sections name = (partsOf now).sections name) :
      (partsOf settings).sections = (part.take (partsOf settings) (partsOf now)).sections := by
    funext name
    show _ = Function.update (partsOf now).sections part.name ((partsOf settings).sections part.name) name
    by_cases own : name = part.name
    · rw [own, Function.update_self]
    · rw [Function.update_of_ne own, others name own, agree name own]
  cases flight with
  | running condoId settings => cases writes
  | writing id request read written =>
    cases writes
    obtain ⟨object, merges⟩ := sound
    refine ⟨object, ?_⟩
    ext1
    · exact sections merges.others agrees.1
    · exact merges.helpdesk.trans (takeHelpdesk_congr agrees)
    · exact merges.automation.trans (takeAutomation_congr agrees)
  | recording id stored result read =>
    obtain ⟨fields, rfl⟩ := sound
    cases writes
    refine ⟨⟨_, rfl⟩, ?_⟩
    have agrees : Part.Agrees .runRecord { partsOf (.object fields) with automation := some stored } (partsOf now) := agrees
    have others : ∀ name, name ≠ "billingAutomation" →
        (assign "billingAutomation" ({ stored with run := result.record } : StoredAutomation).toJson fields).lookup name =
          fields.lookup name := fun _ => lookup_assign_other
    ext1
    · exact @sections .runRecord (partsOf (.object fields)) others agrees.1
    · exact helpdesk_congr ((others "helpdesk" (by decide)).trans (agrees.1 "helpdesk" (by decide)))
    · have configured : some stored.settings = (parseAutomationSettings now).map StoredAutomation.settings := agrees.2
      obtain ⟨current, parsed, same⟩ := Option.map_eq_some_iff.mp configured.symm
      show parseAutomationSettings (.object (assign "billingAutomation" _ fields)) = Part.takeAutomation .runRecord
        (parseAutomationSettings (.object (assign "billingAutomation" _ fields))) (parseAutomationSettings now)
      rw [parse_automation, parsed]
      show _ = some (⟨current.settings, _⟩ : StoredAutomation)
      rw [same]

end

/-! ## Runs -/

structure Tracked.Sound (tracked : Tracked) : Prop where
  distinct : (tracked.state.db.condos.map ThreadCondo.id).Nodup
  objects : ∀ condo ∈ tracked.state.db.condos, ∃ fields, condo.settings = .object fields
  flights : ∀ flight ∈ tracked.state.flights, flight.Sound
  kept : NothingLost tracked

section

variable {env : SettingsEnv} {before after : Tracked} {event : SettingsEvent}

variable {condoId : Id} {flight : SettingsFlight}

theorem begin_sound {now : Instant} {request : SettingsRequest} (sound : before.Sound)
    (begins : request.begin env now before.state.db condoId = .ok flight) : flight.Sound := by
  simp only [SettingsRequest.begin, bind_eq_ok, pure_eq_ok, orThrow_eq_ok] at begins
  obtain ⟨_, -, condo, found, written, merged, rfl⟩ := begins
  obtain ⟨fields, stored⟩ := sound.objects condo (mem_of_findBy found).1
  exact merged_merges stored merged

theorem write_sound {place : Nat} {settings : Json} (sound : before.Sound)
    (here : before.state.flights[place]? = some flight) (writes : flight.written = some (condoId, settings))
    (current : UpToDate before (.write place)) :
    Tracked.Sound ⟨⟨before.state.db.write condoId settings, before.state.flights.eraseIdx place⟩,
      before.note (.write place)⟩ := by
  have known := sound.flights flight (mem_of_getElem? here)
  have noted : before.note (.write place) =
      Function.update before.last condoId (flight.part.take (partsOf settings) (before.last condoId)) := by
    unfold Tracked.note
    simp only [here, Option.elim_some]
    unfold SettingsFlight.note
    rw [writes]
  have written : ∀ condo ∈ before.state.db.condos, condo.id = condoId → (∃ fields, settings = .object fields) ∧
        partsOf settings = flight.part.take (partsOf settings) (partsOf condo.settings) :=
    fun condo mem own => written_parts known writes (current flight here condoId settings writes condo mem own)
  constructor
  case distinct =>
    show ((updateBy ThreadCondo.id condoId _ before.state.db.condos).map ThreadCondo.id).Nodup
    rw [map_key_updateBy]
    · exact sound.distinct
    · exact fun _ => rfl
  case objects =>
    intro condo mem
    obtain ⟨old, listed, rfl⟩ := mem_updateBy.mp mem
    split
    · rename_i own
      exact (written old listed own).1
    · exact sound.objects old listed
  case flights => exact fun next mem => sound.flights next (mem_of_mem_eraseIdx mem)
  case kept =>
    intro condo mem
    obtain ⟨old, listed, rfl⟩ := mem_updateBy.mp mem
    rw [noted]
    split
    · rename_i own
      show partsOf settings = Function.update before.last condoId _ old.id
      rw [own, Function.update_self, ← own, ← sound.kept old listed]
      exact (written old listed own).2
    · rename_i other
      show partsOf old.settings = Function.update before.last condoId _ old.id
      rw [Function.update_of_ne other]
      exact sound.kept old listed

theorem step_sound (sound : before.Sound) (current : UpToDate before event) (step : TrackedStep env before event after) :
    after.Sound := by
  obtain ⟨state, moved, rfl⟩ := Option.map_eq_some_iff.mp step
  have kept {flights : List SettingsFlight} (known : ∀ flight ∈ flights, flight.Sound) :
      Tracked.Sound ⟨{ before.state with flights := flights }, before.last⟩ :=
    ⟨sound.distinct, sound.objects, known, sound.kept⟩
  have launched {begun : Result SettingsFlight} (launches : before.state.launch begun = some state)
      (known : ∀ flight, begun = .ok flight → flight.Sound) : Tracked.Sound ⟨state, before.last⟩ := by
    unfold SettingsState.launch at launches
    split at launches
    · rename_i flight
      cases launches
      refine kept fun other mem => ?_
      rcases mem_append.mp mem with old | new
      · exact sound.flights other old
      · rw [mem_singleton.mp new]
        exact known flight rfl
    · cases launches
  unfold SettingsState.next at moved
  cases event with
  | begin now condoId request =>
    exact launched moved fun flight begins => begin_sound sound begins
  | beginRun condoId =>
    refine launched moved fun flight begins => ?_
    simp only [beginRun, bind_eq_ok, pure_eq_ok] at begins
    obtain ⟨_, -, _, -, _, -, rfl⟩ := begins
    trivial
  | generated place result =>
    simp only at moved
    split at moved
    · split at moved
      · rename_i condo found
        cases moved
        refine kept fun flight mem => ?_
        rcases mem_append.mp mem with old | new
        · exact sound.flights flight (mem_of_mem_eraseIdx old)
        · rw [mem_singleton.mp new]
          exact sound.objects condo (mem_of_findBy found).1
      · cases moved
        exact kept fun flight mem => sound.flights flight (mem_of_mem_eraseIdx mem)
    · cases moved
  | write place =>
    simp only at moved
    split at moved
    · rename_i condoId settings writes
      cases moved
      obtain ⟨flight, here, writes⟩ := Option.bind_eq_some_iff.mp writes
      exact write_sound sound here writes current
    · cases moved
  | abort place =>
    cases moved
    exact kept fun flight mem => sound.flights flight (mem_of_mem_eraseIdx mem)

end

structure Initial (tracked : Tracked) : Prop where
  distinct : (tracked.state.db.condos.map ThreadCondo.id).Nodup
  objects : ∀ condo ∈ tracked.state.db.condos, ∃ fields, condo.settings = .object fields
  flights : tracked.state.flights = []
  last : NothingLost tracked

/-- While each write is up to date, no part of a column is lost. -/
theorem settings_kept (env : SettingsEnv) {start finish : Tracked} {events : List SettingsEvent} (initial : Initial start)
    (run : Run (Guarded UpToDate (TrackedStep env)) start events finish) : NothingLost finish := by
  have sound : start.Sound := by
    constructor
    case distinct => exact initial.distinct
    case objects => exact initial.objects
    case flights =>
      rw [initial.flights]
      exact fun flight member => absurd member List.not_mem_nil
    case kept => exact initial.last
  have steps : ∀ before event after, before.Sound → Guarded UpToDate (TrackedStep env) before event after → after.Sound :=
    fun _ _ _ sound move => step_sound sound move.1 move.2
  exact (run.invariant steps sound).kept

theorem Part.agrees_self (part : Part) (parts : Parts) : part.Agrees parts parts := by
  refine ⟨fun _ _ => rfl, ?_⟩
  cases part with
  | visitor => trivial
  | accessRestriction => trivial
  | graceDays => exact ⟨rfl, rfl⟩
  | assigneePools => exact ⟨rfl, rfl, rfl, rfl⟩
  | automation => exact rfl
  | runRecord => exact rfl

namespace Sample

def plainEnv : SettingsEnv where
  access := ⟨fun _ => none⟩
  holidays := ⟨fun _ _ => []⟩
  uuid := toString
  acceptableMaxMins := fun priority _ => recommendedResolutionMins priority

def column : Json := .object [("billingAutomation", .object [("enabled", .bool true)])]

def billed : Tracked := ⟨⟨⟨[⟨1, column⟩], [], []⟩, []⟩, fun _ => partsOf column⟩

theorem billed_initial : Initial billed := by
  have only : ∀ condo ∈ billed.state.db.condos, condo = ⟨1, column⟩ := fun _ mem => mem_singleton.mp mem
  constructor
  case distinct => exact nodup_singleton 1
  case objects =>
    intro condo mem
    rw [only condo mem]
    exact ⟨_, rfl⟩
  case flights => rfl
  case last =>
    intro condo mem
    rw [only condo mem]
    rfl

def disables : SettingsRequest := .updateBillingAutomation ⟨some false, none, none, none, none, none⟩

def march : RunResult := ⟨"2026-03-01", "2026-03-01", "2026-03-31", 1, 0, 0⟩

def disabledMeanwhile : List SettingsEvent :=
  [.beginRun 1, .begin 0 1 disables, .write 1, .generated 0 march, .write 0]

def switches (tracked : Tracked) : Option Bool × Option Bool :=
  ((tracked.state.db.condo? 1).bind fun condo =>
      (parseAutomationSettings condo.settings).map fun stored => stored.settings.enabled,
    (tracked.last 1).automation.map fun stored => stored.settings.enabled)

end Sample

theorem automation_reverted : ∃ events finish, Initial Sample.billed ∧
    Run (TrackedStep Sample.plainEnv) Sample.billed events finish ∧ ¬ NothingLost finish := by
  have ends : (Sample.disabledMeanwhile.foldlM (Tracked.next Sample.plainEnv) Sample.billed).map Sample.switches =
      some (some true, some false) := by
    decide +kernel
  obtain ⟨finish, folds, figures⟩ := Option.map_eq_some_iff.mp ends
  refine ⟨_, finish, Sample.billed_initial, .of_foldlM folds, fun kept => ?_⟩
  obtain ⟨column, manager⟩ := Prod.mk.inj figures
  obtain ⟨condo, found, enabled⟩ := Option.bind_eq_some_iff.mp column
  obtain ⟨member, own⟩ := mem_of_findBy found
  have same := congrArg Parts.automation (kept condo member)
  rw [own] at same
  rw [← same] at manager
  have both := manager.symm.trans enabled
  cases both

theorem settings_kept_alone : ∃ events finish, Run (TrackedStep Sample.plainEnv) Sample.billed events finish ∧
    Sample.switches finish = (some false, some false) ∧ NothingLost finish := by
  have ends : ((Sample.billed.next Sample.plainEnv (.begin 0 1 Sample.disables)).bind fun middle =>
      (middle.next Sample.plainEnv (.write 0)).map Sample.switches) = some (some false, some false) := by
    decide +kernel
  obtain ⟨middle, begun, ends⟩ := Option.bind_eq_some_iff.mp ends
  obtain ⟨finish, written, figures⟩ := Option.map_eq_some_iff.mp ends
  have current : UpToDate middle (.write 0) := by
    intro flight here condoId settings writes condo member own
    obtain ⟨state, launches, rfl⟩ := Option.map_eq_some_iff.mp begun
    simp only [SettingsState.next, SettingsState.launch] at launches
    split at launches
    · rename_i first begins
      obtain rfl := Option.some.inj launches
      obtain rfl : first = flight := Option.some.inj here
      simp only [SettingsRequest.begin, bind_eq_ok, pure_eq_ok, orThrow_eq_ok] at begins
      obtain ⟨_, -, read, found, _, -, rfl⟩ := begins
      obtain rfl := List.mem_singleton.mp member
      obtain rfl := List.mem_singleton.mp (mem_of_findBy found).1
      exact Part.agrees_self _ _
    · cases launches
  have early : UpToDate Sample.billed (.begin 0 1 Sample.disables) := trivial
  have run : Run (Guarded UpToDate (TrackedStep Sample.plainEnv)) Sample.billed _ finish :=
    (Run.single ⟨early, begun⟩).snoc ⟨current, written⟩
  exact ⟨_, finish, run.guard_forgotten, figures, settings_kept Sample.plainEnv Sample.billed_initial run⟩

end SmartResidence.Settings
