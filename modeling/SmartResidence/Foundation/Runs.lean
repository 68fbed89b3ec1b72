import Mathlib.Data.List.Basic

/-!
# Runs of a labelled step relation
-/

namespace SmartResidence.Foundation

variable {State Event : Type*}

/-- `Run step start events finish`: the events, taken in order, lead from `start` to `finish`. -/
inductive Run (step : State → Event → State → Prop) (start : State) : List Event → State → Prop
  | done : Run step start [] start
  | snoc {events : List Event} {before after : State} {event : Event} :
      Run step start events before → step before event after →
      Run step start (events ++ [event]) after

def Guarded (condition : State → Event → Prop) (step : State → Event → State → Prop) :
    State → Event → State → Prop :=
  fun before event after => condition before event ∧ step before event after

namespace Run

variable {step : State → Event → State → Prop} {start middle finish : State}
  {events first last : List Event}

variable {event : Event}

theorem single (move : step start event finish) : Run step start [event] finish := by
  exact Run.snoc .done move

theorem trans (run : Run step start first middle) (rest : Run step middle last finish) :
    Run step start (first ++ last) finish := by
  induction rest with
  | done => simpa using run
  | snoc _ move ih => simpa only [List.append_assoc] using Run.snoc ih move

theorem cons (move : step start event middle) (rest : Run step middle last finish) :
    Run step start (event :: last) finish := by
  exact trans (single move) rest

theorem of_foldlM {next : State → Event → Option State} (folds : events.foldlM next start = some finish) :
    Run (fun before event after => next before event = some after) start events finish := by
  induction events generalizing start with
  | nil =>
    cases folds
    exact .done
  | cons event events ih =>
    obtain ⟨middle, moved, rest⟩ := Option.bind_eq_some_iff.mp folds
    exact cons moved (ih rest)

variable {next : State → Event → State}

theorem of_foldl (start : State) (events : List Event) :
    Run (fun before event after => next before event = after) start events (events.foldl next start) := by
  induction events generalizing start with
  | nil => exact .done
  | cons event events ih => exact cons rfl (ih (next start event))

def Meets (condition : State → Event → Prop) (next : State → Event → State) : State → List Event → Prop
  | _, [] => True
  | start, event :: events => condition start event ∧ Meets condition next (next start event) events

instance decidableMeets {condition : State → Event → Prop} [∀ state event, Decidable (condition state event)]
    {next : State → Event → State} : ∀ start events, Decidable (Meets condition next start events)
  | _, [] => inferInstanceAs (Decidable True)
  | start, event :: events =>
      have : Decidable (Meets condition next (next start event) events) := decidableMeets (next start event) events
      inferInstanceAs (Decidable (condition start event ∧ Meets condition next (next start event) events))

variable {condition : State → Event → Prop}

theorem guarded_of_foldl {start : State} {events : List Event} (meets : Meets condition next start events) :
    Run (Guarded condition fun before event after => next before event = after) start events (events.foldl next start) := by
  induction events generalizing start with
  | nil => exact .done
  | cons event events ih => exact cons ⟨meets.1, rfl⟩ (ih meets.2)

variable {Inv : State → Prop}

theorem invariant (kept : ∀ before event after, Inv before → step before event after → Inv after) (initial : Inv start)
    (run : Run step start events finish) : Inv finish := by
  induction run with
  | done => exact initial
  | snoc _ move ih => exact kept _ _ _ ih move

theorem invariant_on (good : Event → Prop)
    (kept : ∀ before event after, good event → Inv before → step before event after → Inv after) (initial : Inv start)
    (run : Run step start events finish) (all : ∀ event ∈ events, good event) : Inv finish := by
  induction run with
  | done => exact initial
  | snoc _ move ih =>
    have earlier := ih fun event mem => all event (List.mem_append_left _ mem)
    exact kept _ _ _ (all _ (List.mem_append_right _ (List.mem_singleton.mpr rfl))) earlier move

theorem history_invariant {Inv : List Event → State → Prop}
    (kept : ∀ log before event after, Inv log before → step before event after → Inv (log ++ [event]) after)
    (initial : Inv [] start) (run : Run step start events finish) : Inv events finish := by
  induction run with
  | done => exact initial
  | snoc _ move ih => exact kept _ _ _ _ ih move

theorem mono {weaker : State → Event → State → Prop}
    (implies : ∀ before event after, step before event after → weaker before event after)
    (run : Run step start events finish) : Run weaker start events finish := by
  induction run with
  | done => exact .done
  | snoc _ move ih => exact .snoc ih (implies _ _ _ move)

theorem guard_forgotten (run : Run (Guarded condition step) start events finish) : Run step start events finish :=
  run.mono fun _ _ _ move => move.2

end Run

end SmartResidence.Foundation
