import SmartResidence.Foundation.Calls

/-!
# Statements that abort a transaction

A statement that fails aborts its transaction, also when what it throws is caught: no later statement is executed,
and the transaction is rolled back at its end.
-/

namespace SmartResidence.Foundation

inductive Program (State Failure Value : Type) : Type 1
  | stop (result : Except Failure Value)
  | sql {Reply : Type} (statement : Call State Failure Reply)
      (next : Except Failure Reply → Program State Failure Value)

variable {State Failure Value Other : Type}

namespace Program

def bind (program : Program State Failure Value) (rest : Value → Program State Failure Other) :
    Program State Failure Other :=
  match program with
  | stop (.ok value) => rest value
  | stop (.error failure) => stop (.error failure)
  | sql statement next => sql statement fun reply => (next reply).bind rest

instance : Monad (Program State Failure) where
  pure value := stop (.ok value)
  bind := bind

def throw (failure : Failure) : Program State Failure Value := stop (.error failure)

def query (look : State → Value) : Program State Failure Value := sql (Call.read look) stop

def statement (call : Call State Failure Value) : Program State Failure Value := sql call stop

def attempt : Program State Failure Value → Program State Failure (Except Failure Value)
  | stop result => stop (.ok result)
  | sql statement next => sql statement fun reply => (next reply).attempt

def alone : Program State Failure Value → Call State Failure Value
  | stop result => Call.ofResult result
  | sql statement next => fun state => (next (statement state).1).alone (statement state).2

theorem alone_query (look : State → Value) : (query look : Program State Failure Value).alone = Call.read look := rfl

theorem alone_statement (call : Call State Failure Value) : (statement call).alone = call := rfl

theorem alone_bind (program : Program State Failure Value) (rest : Value → Program State Failure Other) :
    (program >>= rest).alone = program.alone >>= fun value => (rest value).alone := by
  show (program.bind rest).alone = _
  induction program with
  | stop result => cases result <;> rfl
  | sql statement next ih =>
    funext state
    show ((next (statement state).1).bind rest).alone (statement state).2 = _
    rw [ih]
    rfl

theorem alone_attempt (program : Program State Failure Value) : program.attempt.alone = Call.attempt program.alone := by
  induction program with
  | stop result => rfl
  | sql statement next ih =>
    funext state
    show (next (statement state).1).attempt.alone (statement state).2 = _
    rw [ih]
    rfl

structure Client (State : Type) where
  state : State
  made : Nat
  aborted : Bool

variable (others : Nat → State → State) (refusal : Failure)

def ask {Reply : Type} (call : Call State Failure Reply) (client : Client State) :
    Except Failure Reply × Client State :=
  let reached := others client.made client.state
  if client.aborted then (.error refusal, ⟨reached, client.made + 1, true⟩)
  else match call reached with
    | (.ok reply, after) => (.ok reply, ⟨after, client.made + 1, false⟩)
    | (.error failure, _) => (.error failure, ⟨reached, client.made + 1, true⟩)

def exec : Program State Failure Value → Client State → Except Failure Value × Client State
  | stop result, client => (result, client)
  | sql statement next, client =>
      (next (ask others refusal statement client).1).exec (ask others refusal statement client).2

theorem aborted_stays (program : Program State Failure Value) {client : Client State} (aborted : client.aborted = true) :
    (program.exec others refusal client).2.aborted = true := by
  induction program generalizing client with
  | stop result => exact aborted
  | sql statement next ih =>
    apply ih
    simp [ask, aborted]

def Clears : Program State Failure Value → Nat → State → (Except Failure Value → Nat → State → Prop) → Prop
  | stop result, made, state, goal => goal result made state
  | sql statement next, made, state, goal =>
      match statement (others made state) with
      | (.ok reply, after) => (next (.ok reply)).Clears (made + 1) after goal
      | (.error _, _) => False

variable {made : Nat} {state : State} {goal : Except Failure Value → Nat → State → Prop}

theorem clears_iff_exec {program : Program State Failure Value} : program.Clears others made state goal ↔
      (program.exec others refusal ⟨state, made, false⟩).2.aborted = false ∧
        goal (program.exec others refusal ⟨state, made, false⟩).1 (program.exec others refusal ⟨state, made, false⟩).2.made
          (program.exec others refusal ⟨state, made, false⟩).2.state := by
  induction program generalizing made state with
  | stop result => simp [Clears, exec]
  | sql statement next ih =>
    unfold Clears exec ask
    simp only [if_false]
    rcases statement (others made state) with ⟨failure | reply, after⟩
    · simp [aborted_stays]
    · exact ih _

variable {others}

theorem clears_query {look : State → Value} : (query look : Program State Failure Value).Clears others made state goal ↔
      goal (.ok (look (others made state))) (made + 1) (others made state) := Iff.rfl

variable {call : Call State Failure Value} {after : State}

theorem clears_statement_of_ok {value : Value} (got : call (others made state) = (.ok value, after)) :
    (statement call).Clears others made state goal ↔ goal (.ok value) (made + 1) after := by
  unfold statement Clears
  rw [got]
  rfl

theorem clears_statement_of_error {failure : Failure} (thrown : call (others made state) = (.error failure, after)) :
    (statement call).Clears others made state goal ↔ False := by
  unfold statement Clears
  rw [thrown]

variable {rest : Value → Program State Failure Other}

theorem clears_bind {program : Program State Failure Value} {goal : Except Failure Other → Nat → State → Prop} :
    (program >>= rest).Clears others made state goal ↔ program.Clears others made state fun result later after =>
      match result with
      | .ok value => (rest value).Clears others later after goal
      | .error failure => goal (.error failure) later after := by
  show (program.bind rest).Clears others made state goal ↔ _
  induction program generalizing made state with
  | stop result => cases result <;> rfl
  | sql statement next ih =>
    unfold bind Clears
    rcases statement (others made state) with ⟨failure | reply, after⟩
    · rfl
    · exact ih _

theorem clears_congr {program : Program State Failure Value} {first second : Except Failure Value → Nat → State → Prop}
    (same : ∀ result later after, first result later after ↔ second result later after) :
    program.Clears others made state first ↔ program.Clears others made state second := by
  have equal : first = second := by
    funext result later after
    exact propext (same result later after)
  rw [equal]

theorem clears_bind_silent {program : Program State Failure Value}
    (silent : ∀ value later after, (rest value).Clears others later after fun _ _ _ => True) :
    (program >>= rest).Clears others made state (fun _ _ _ => True) ↔
      program.Clears others made state fun _ _ _ => True := by
  rw [clears_bind]
  apply clears_congr
  intro result later after
  cases result with
  | error failure => rfl
  | ok value => exact iff_of_true (silent value later after) trivial

theorem clears_attempt {program : Program State Failure Value}
    {goal : Except Failure (Except Failure Value) → Nat → State → Prop} :
    program.attempt.Clears others made state goal ↔
      program.Clears others made state fun result later after => goal (.ok result) later after := by
  induction program generalizing made state with
  | stop result => rfl
  | sql statement next ih =>
    unfold attempt Clears
    rcases statement (others made state) with ⟨failure | reply, after⟩
    · rfl
    · exact ih _

end Program

/-- Steps on the main tables, which may throw, and asides: programs on the same client whose results nobody reads. -/
inductive Transaction (Main Failure Side Value : Type) : Type 1
  | stop (result : Except Failure Value)
  | step {Reply : Type} (call : Main → Except Failure (Main × Reply))
      (next : Reply → Transaction Main Failure Side Value)
  | aside (side : Side) (next : Transaction Main Failure Side Value)

namespace Transaction

variable {Main Side SideFailure Ignored : Type}

def bind (transaction : Transaction Main Failure Side Value) (rest : Value → Transaction Main Failure Side Other) :
    Transaction Main Failure Side Other :=
  match transaction with
  | stop (.ok value) => rest value
  | stop (.error failure) => stop (.error failure)
  | step call next => step call fun reply => (next reply).bind rest
  | aside side next => aside side (next.bind rest)

instance : Monad (Transaction Main Failure Side) where
  pure value := stop (.ok value)
  bind := bind

def look (read : Main → Value) : Transaction Main Failure Side Value := step (fun main => .ok (main, read main)) (stop ∘ .ok)

def call (run : Main → Except Failure (Main × Value)) : Transaction Main Failure Side Value := step run (stop ∘ .ok)

def change (run : Main → Except Failure Main) : Transaction Main Failure Side Unit :=
  step (fun main => (run main).map fun after => (after, ())) (stop ∘ .ok)

def beside (side : Side) : Transaction Main Failure Side Unit := aside side (stop (.ok ()))

def alone (others : Nat → Main → Main) : Transaction Main Failure Side Value → Nat → Main → Except Failure (Main × Value)
  | stop result, _, main => result.map fun value => (main, value)
  | step call next, steps, main =>
      match call (others steps main) with
      | .error failure => .error failure
      | .ok (after, reply) => (next reply).alone others (steps + 1) after
  | aside _ next, steps, main => next.alone others steps main

def unposted (transaction : Transaction Main Failure Side Value) (main : Main) : Except Failure (Main × Value) :=
  transaction.alone (fun _ tables => tables) 0 main

theorem alone_still (transaction : Transaction Main Failure Side Value) (steps : Nat) (main : Main) :
    transaction.alone (fun _ tables => tables) steps main = transaction.unposted main := by
  unfold unposted
  induction transaction generalizing steps main with
  | stop result => rfl
  | step call next ih =>
    unfold alone
    rcases call main with failure | ⟨after, reply⟩
    · rfl
    · exact (ih reply (steps + 1) after).trans (ih reply (0 + 1) after).symm
  | aside side next ih => exact ih steps main

theorem unposted_bind (transaction : Transaction Main Failure Side Value)
    (rest : Value → Transaction Main Failure Side Other) (main : Main) :
    (transaction >>= rest).unposted main = transaction.unposted main >>= fun done => (rest done.2).unposted done.1 := by
  show (transaction.bind rest).alone _ 0 main = transaction.alone _ 0 main >>= _
  generalize 0 = steps
  induction transaction generalizing steps main with
  | stop result =>
    cases result with
    | error failure => rfl
    | ok value => exact alone_still _ _ _
  | step call next ih =>
    unfold bind alone
    rcases call main with failure | ⟨after, reply⟩
    · rfl
    · exact ih reply after (steps + 1)
  | aside side next ih => exact ih main steps

theorem unposted_look (read : Main → Value) (main : Main) :
    (look read : Transaction Main Failure Side Value).unposted main = .ok (main, read main) := rfl

theorem unposted_call (run : Main → Except Failure (Main × Value)) (main : Main) :
    (call run : Transaction Main Failure Side Value).unposted main = run main := by
  unfold unposted call alone
  rcases run main with failure | ⟨after, value⟩ <;> rfl

theorem unposted_change (run : Main → Except Failure Main) (main : Main) :
    (change run : Transaction Main Failure Side Unit).unposted main = (run main).map fun after => (after, ()) := by
  unfold unposted change alone
  dsimp only
  rcases run main with failure | after <;> rfl

structure Progress (Main State : Type) where
  main : Main
  steps : Nat
  state : State
  asides : Nat
  aborted : Bool

inductive Rollback (Failure : Type)
  | thrown (failure : Failure)
  | aborted

variable (program : Side → Program State SideFailure Ignored) (others : Nat → Main → Main)
  (around : Nat → Nat → State → State) (refusal : SideFailure)

def afterAside (side : Side) (progress : Progress Main State) : Progress Main State :=
  let client := ((program side).exec (around progress.asides) refusal ⟨progress.state, 0, progress.aborted⟩).2
  { progress with state := client.state, asides := progress.asides + 1, aborted := client.aborted }

def exec : Transaction Main Failure Side Value → Progress Main State →
    Except (Rollback Failure) (Progress Main State × Value)
  | stop (.error failure), _ => .error (.thrown failure)
  | stop (.ok value), progress => if progress.aborted then .error .aborted else .ok (progress, value)
  | step call next, progress =>
      if progress.aborted then .error .aborted
      else match call (others progress.steps progress.main) with
        | .error failure => .error (.thrown failure)
        | .ok (after, reply) => (next reply).exec { progress with main := after, steps := progress.steps + 1 }
  | aside side next, progress => next.exec (afterAside program around refusal side progress)

def Along (condition : Nat → Side → State → Prop) : Transaction Main Failure Side Value → Progress Main State → Prop
  | stop _, _ => True
  | step call next, progress =>
      match call (others progress.steps progress.main) with
      | .error _ => True
      | .ok (after, reply) => (next reply).Along condition { progress with main := after, steps := progress.steps + 1 }
  | aside side next, progress => condition progress.asides side progress.state ∧
      next.Along condition (afterAside program around refusal side progress)

variable {progress : Progress Main State}

theorem exec_aborted (transaction : Transaction Main Failure Side Value) (aborted : progress.aborted = true) :
    (transaction.exec program others around refusal progress).isOk = false := by
  induction transaction generalizing progress with
  | stop result => cases result <;> simp [exec, aborted, Except.toBool]
  | step call next ih => simp [exec, aborted, Except.toBool]
  | aside side next ih => exact ih (Program.aborted_stays _ _ _ aborted)

theorem commits_iff (transaction : Transaction Main Failure Side Value) (idle : progress.aborted = false) :
    (transaction.exec program others around refusal progress).isOk = true ↔
      (transaction.alone others progress.steps progress.main).isOk = true ∧
        transaction.Along program others around refusal
          (fun asides side state => (program side).Clears (around asides) 0 state fun _ _ _ => True) progress := by
  induction transaction generalizing progress with
  | stop result => cases result <;> simp [exec, alone, Along, idle, Except.toBool, Except.map]
  | step call next ih =>
    unfold exec alone Along
    rw [if_neg (ne_true_of_eq_false idle)]
    rcases call (others progress.steps progress.main) with failure | ⟨after, reply⟩
    · simp [Except.toBool]
    · exact ih reply idle
  | aside side next ih =>
    unfold exec Along
    rw [Program.clears_iff_exec (around progress.asides) refusal]
    have aborts : (afterAside program around refusal side progress).aborted = ((program side).exec
        (around progress.asides) refusal ⟨progress.state, 0, false⟩).2.aborted := by
      rw [← idle]
      rfl
    rw [← aborts]
    rcases left : (afterAside program around refusal side progress).aborted with _ | _
    · rw [ih left]
      simp only [true_and]
      rfl
    · simp [exec_aborted program others around refusal next left]

theorem along_congr {first second : Nat → Side → State → Prop} (same : ∀ asides side state,
    first asides side state ↔ second asides side state) (transaction : Transaction Main Failure Side Value)
    (progress : Progress Main State) : transaction.Along program others around refusal first progress ↔
      transaction.Along program others around refusal second progress := by
  have equal : first = second := by
    funext asides side state
    exact propext (same asides side state)
  rw [equal]

end Transaction

end SmartResidence.Foundation
