import Mathlib.Logic.Basic

/-!
# Calls that write and may throw

What a call has written stays when it throws.
-/

namespace SmartResidence.Foundation

def Call (State Failure Value : Type) : Type := State → Except Failure Value × State

variable {State Failure Value Other : Type}

namespace Call

instance : Monad (Call State Failure) where
  pure value state := (.ok value, state)
  bind call rest state :=
    match call state with
    | (.ok value, after) => rest value after
    | (.error failure, after) => (.error failure, after)

def throw (failure : Failure) : Call State Failure Value := fun state => (.error failure, state)

def ofResult (result : Except Failure Value) : Call State Failure Value := fun state => (result, state)

def read (look : State → Value) : Call State Failure Value := fun state => (.ok (look state), state)

def write (change : State → State) : Call State Failure Unit := fun state => (.ok (), change state)

def attempt (call : Call State Failure Value) : Call State Failure (Except Failure Value) :=
  fun state => (.ok (call state).1, (call state).2)

def Keeps (Inv : State → Prop) (call : Call State Failure Value) : Prop := ∀ state, Inv state → Inv (call state).2

section

variable {Inv : State → Prop} {call : Call State Failure Value}

theorem keeps_pure (value : Value) : Keeps Inv (pure value : Call State Failure Value) := fun _ inv => inv

theorem keeps_throw (failure : Failure) : Keeps Inv (throw failure : Call State Failure Value) := fun _ inv => inv

theorem keeps_ofResult (result : Except Failure Value) : Keeps Inv (ofResult result : Call State Failure Value) :=
  fun _ inv => inv

theorem keeps_read (look : State → Value) : Keeps Inv (read look : Call State Failure Value) := fun _ inv => inv

variable {rest : Value → Call State Failure Other}

theorem bind_apply {state : State} : (call >>= rest) state = match call state with
    | (.ok value, after) => rest value after
    | (.error failure, after) => (.error failure, after) := rfl

theorem keeps_bind (first : Keeps Inv call) (others : ∀ value, Keeps Inv (rest value)) : Keeps Inv (call >>= rest) := by
  intro state inv
  have kept := first state inv
  rw [bind_apply]
  rcases run : call state with ⟨failure | value, after⟩
  · rwa [run] at kept
  · rw [run] at kept
    exact others value after kept

theorem keeps_read_bind {look : State → Value} (kept : ∀ state, Inv state → Inv (rest (look state) state).2) :
    Keeps Inv (read look >>= rest) := kept

theorem keeps_attempt (first : Keeps Inv call) : Keeps Inv (attempt call) := first

end

variable {rest : Value → Call State Failure Other} {after : State}

theorem bind_eq_ok {call : Call State Failure Value} {state : State} {result : Other} :
    (call >>= rest) state = (.ok result, after) ↔
      ∃ value middle, call state = (.ok value, middle) ∧ rest value middle = (.ok result, after) := by
  rw [bind_apply]
  rcases call state with ⟨failure | value, middle⟩
  · simp
  · simp only [Prod.mk.injEq, Except.ok.injEq]
    exact ⟨fun rest => ⟨value, middle, ⟨rfl, rfl⟩, rest⟩, fun ⟨_, _, ⟨same, also⟩, rest⟩ => same ▸ also ▸ rest⟩

variable {failure : Failure}

theorem bind_eq_error {call : Call State Failure Value} {state : State}
    (thrown : (call >>= rest) state = (.error failure, after)) : call state = (.error failure, after) ∨
      ∃ value middle, call state = (.ok value, middle) ∧ rest value middle = (.error failure, after) := by
  revert thrown
  rw [bind_apply]
  rcases call state with ⟨first | value, middle⟩
  · simpa using same
  · intro thrown
    exact .inr ⟨value, middle, rfl, thrown⟩

theorem bind_of_ok {call : Call State Failure Value} {state : State} {value : Value}
    (returned : call state = (.ok value, after)) : (call >>= rest) state = rest value after := by
  rw [bind_apply]
  rw [returned]

theorem bind_of_error {call : Call State Failure Value} {state : State} (thrown : call state = (.error failure, after)) :
    (call >>= rest) state = (.error failure, after) := by
  rw [bind_apply]
  rw [thrown]

theorem read_bind {look : State → Value} {state : State} : (read look >>= rest) state = rest (look state) state := rfl

theorem ofResult_bind {result : Except Failure Value} {state : State} :
    (ofResult result >>= rest) state = match result with
      | .ok value => rest value state
      | .error failure => (.error failure, state) := by
  cases result <;> rfl

theorem attempt_bind {call : Call State Failure Value} {rest : Except Failure Value → Call State Failure Other}
    {state : State} : (attempt call >>= rest) state = rest (call state).1 (call state).2 := rfl

theorem bind_pure_state {call : Call State Failure Value} {make : Value → Other} {state : State} :
    ((call >>= fun value => pure (make value)) state).2 = (call state).2 := by
  show (match call state with
    | (.ok value, after) => (.ok (make value), after)
    | (.error failure, after) => (.error failure, after) : Except Failure Other × State).2 = _
  rcases call state with ⟨failure | value, after⟩ <;> rfl

def Ensures (returned : Value → State → Prop) (thrown : Failure → State → Prop) (call : Call State Failure Value) (state : State) : Prop :=
  match call state with
  | (.ok value, after) => returned value after
  | (.error failure, after) => thrown failure after

section

variable {returned stronger : Value → State → Prop} {thrown harder : Failure → State → Prop} {call : Call State Failure Value} {state : State}

theorem ensures_read_bind {look : State → Value} {finally' : Other → State → Prop} {rest : Value → Call State Failure Other}
    (holds : Ensures finally' thrown (rest (look state)) state) : Ensures finally' thrown (read look >>= rest) state := holds

theorem ensures_ofResult {result : Except Failure Value} (returns : ∀ value, result = .ok value → returned value state)
    (throws : ∀ failure, result = .error failure → thrown failure state) :
    Ensures returned thrown (ofResult result : Call State Failure Value) state := by
  cases result with
  | ok value => exact returns value rfl
  | error failure => exact throws failure rfl

theorem ensures_bind {rest : Value → Call State Failure Other} {finally' : Other → State → Prop}
    (first : Ensures (fun value after => Ensures finally' thrown (rest value) after) thrown call state) :
    Ensures finally' thrown (call >>= rest) state := by
  unfold Ensures at first ⊢
  show match (match call state with
    | (.ok value, after) => rest value after
    | (.error failure, after) => (.error failure, after)) with
    | (.ok value, after) => finally' value after
    | (.error failure, after) => thrown failure after
  rcases run : call state with ⟨failure | value, after⟩
  · rwa [run] at first
  · rwa [run] at first

theorem Ensures.mono (holds : Ensures stronger harder call state) (returns : ∀ value after, stronger value after → returned value after)
    (throws : ∀ failure after, harder failure after → thrown failure after) : Ensures returned thrown call state := by
  unfold Ensures at holds ⊢
  rcases run : call state with ⟨failure | value, after⟩
  · rw [run] at holds
    exact throws failure after holds
  · rw [run] at holds
    exact returns value after holds

end

end Call

end SmartResidence.Foundation
