import Mathlib.Data.Fintype.Basic
import Mathlib.Logic.Function.Basic
import SmartResidence.Foundation.Runs

/-!
# Transactions under READ COMMITTED

A session sends one SQL statement after the other. A statement sees what is committed and what its
own transaction has written. It waits until nobody else holds the locks it takes, and these are kept
until the transaction ends.
-/

namespace SmartResidence.Foundation

inductive Script (State Token Label Failure Value : Type)
  | stop (result : Except Failure Value)
  | act (label : Option Label) (locks : State → List Token) (effect : State → State → State)
      (next : State → Script State Token Label Failure Value)
  | fresh (used : State → ℕ → Bool) (token : ℕ → Token)
      (next : ℕ → Script State Token Label Failure Value)
  | commit (next : Script State Token Label Failure Value)
  | rollback (next : Script State Token Label Failure Value)

variable {State Token Label Failure Value Other Index : Type}

namespace Script

def andThen (script : Script State Token Label Failure Value)
    (rest : Except Failure Value → Script State Token Label Failure Other) :
    Script State Token Label Failure Other :=
  match script with
  | .stop result => rest result
  | .act label locks effect next => .act label locks effect fun view => (next view).andThen rest
  | .fresh used token next => .fresh used token fun choice => (next choice).andThen rest
  | .commit next => .commit (next.andThen rest)
  | .rollback next => .rollback (next.andThen rest)

instance : Monad (Script State Token Label Failure) where
  pure value := .stop (.ok value)
  bind script rest := script.andThen fun
    | .ok value => rest value
    | .error failure => .stop (.error failure)

def throw (failure : Failure) : Script State Token Label Failure Value := .stop (.error failure)

def statement (label : Option Label) (locks : State → List Token) (effect : State → State → State)
    (look : State → Except Failure Value) : Script State Token Label Failure Value :=
  .act label locks effect fun view => .stop (look view)

def read (look : State → Value) : Script State Token Label Failure Value :=
  statement none (fun _ => []) (fun _ => id) fun view => .ok (look view)

def write (locks : List Token) (change : State → State) : Script State Token Label Failure Unit :=
  statement none (fun _ => locks) (fun _ => change) fun _ => .ok ()

def newId (used : State → ℕ → Bool) (token : ℕ → Token) : Script State Token Label Failure ℕ :=
  .fresh used token fun choice => .stop (.ok choice)

/-- `$transaction`: all writes of the body or, when it throws, none. -/
def transaction (body : Script State Token Label Failure Value) :
    Script State Token Label Failure Value :=
  body.andThen fun
    | .ok value => .commit (.stop (.ok value))
    | .error failure => .rollback (.stop (.error failure))

end Script

structure Standing (State Token : Type) where
  pending : State → State
  held : List Token
  seen : State

namespace Standing

variable (standing : Standing State Token)

def idle (committed : State) : Standing State Token := ⟨id, [], committed⟩

def wrote (now : State) (locks : List Token) (change : State → State) : Standing State Token :=
  ⟨change ∘ standing.pending, locks ++ standing.held, now⟩

end Standing

structure Session (State Token Label Failure Value : Type) where
  script : Script State Token Label Failure Value
  standing : Standing State Token

namespace Session

variable (session : Session State Token Label Failure Value) (committed : State) (choice : ℕ)

def start (script : Script State Token Label Failure Value) :
    Session State Token Label Failure Value :=
  ⟨script, .idle committed⟩

def ready : Bool :=
  match session.script with
  | .stop _ => false
  | .fresh used _ _ => ! used (session.standing.pending committed) choice
  | _ => true

def done : Bool :=
  match session.script with
  | .stop (.ok _) => true
  | _ => false

def takes : List Token :=
  match session.script with
  | .act _ locks _ _ => locks (session.standing.pending committed)
  | .fresh _ token _ => [token choice]
  | _ => []

def advance : State × Session State Token Label Failure Value :=
  let view := session.standing.pending committed
  match session.script with
  | .stop _ => (committed, session)
  | .act _ locks effect next =>
      (committed, ⟨next view, session.standing.wrote committed (locks view) (effect view)⟩)
  | .fresh _ token next => (committed, ⟨next choice, session.standing.wrote committed [token choice] id⟩)
  | .commit next => (view, .start view next)
  | .rollback next => (committed, .start committed next)

def Meets (condition : Label → State → State → Prop) : Prop :=
  match session.script with
  | .act (some label) _ _ _ => condition label session.standing.seen committed
  | _ => True

instance (condition : Label → State → State → Prop)
    [∀ label before now, Decidable (condition label before now)] :
    Decidable (session.Meets committed condition) :=
  match session with
  | ⟨.act (some label) _ _ _, standing⟩ => inferInstanceAs (Decidable (condition label standing.seen _))
  | ⟨.act none _ _ _, _⟩ => .isTrue trivial
  | ⟨.stop _, _⟩ => .isTrue trivial
  | ⟨.fresh _ _ _, _⟩ => .isTrue trivial
  | ⟨.commit _, _⟩ => .isTrue trivial
  | ⟨.rollback _, _⟩ => .isTrue trivial

end Session

structure System (Index State Token Label Failure Value : Type) where
  committed : State
  session : Index → Session State Token Label Failure Value

inductive Event (Index Failure : Type)
  | move (who : Index) (choice : ℕ)
  | abort (who : Index) (failure : Failure)

namespace System

variable [DecidableEq Index] (system : System Index State Token Label Failure Value)

def start (committed : State) (scripts : Index → Script State Token Label Failure Value) :
    System Index State Token Label Failure Value :=
  ⟨committed, fun who => .start committed (scripts who)⟩

def moved (who : Index) (choice : ℕ) : System Index State Token Label Failure Value :=
  let next := (system.session who).advance system.committed choice
  ⟨next.1, Function.update system.session who next.2⟩

def aborted (who : Index) (failure : Failure) : System Index State Token Label Failure Value :=
  ⟨system.committed,
    Function.update system.session who (.start system.committed (.stop (.error failure)))⟩

def Permitted (who : Index) (choice : ℕ) : Prop :=
  ∀ other, other ≠ who → ∀ token ∈ (system.session who).takes system.committed choice,
    token ∉ (system.session other).standing.held

inductive Step : System Index State Token Label Failure Value → Event Index Failure →
    System Index State Token Label Failure Value → Prop
  | move {system : System Index State Token Label Failure Value} {who : Index} {choice : ℕ} :
      (system.session who).ready system.committed choice = true → system.Permitted who choice →
      Step system (.move who choice) (system.moved who choice)
  | abort {system : System Index State Token Label Failure Value} {who : Index} {failure : Failure} :
      Step system (.abort who failure) (system.aborted who failure)

def Meets (condition : Label → State → State → Prop) : Event Index Failure → Prop
  | .move who _ => (system.session who).Meets system.committed condition
  | .abort _ _ => True

omit [DecidableEq Index] in
theorem meets_true {event : Event Index Failure} : system.Meets (fun _ _ _ => True) event := by
  cases event with
  | move who choice =>
    rw [Meets, Session.Meets]
    split
    · trivial
    · trivial
  | abort who failure => trivial

section

variable [Fintype Index] [DecidableEq Token]

instance (condition : Label → State → State → Prop)
    [∀ label before now, Decidable (condition label before now)] (event : Event Index Failure) :
    Decidable (system.Meets condition event) :=
  match event with
  | .move who _ => inferInstanceAs (Decidable ((system.session who).Meets system.committed condition))
  | .abort _ _ => .isTrue trivial

instance (who : Index) (choice : ℕ) : Decidable (system.Permitted who choice) :=
  inferInstanceAs (Decidable (∀ other, other ≠ who → _))

def next? : Event Index Failure → Option (System Index State Token Label Failure Value)
  | .move who choice =>
      if (system.session who).ready system.committed choice = true ∧ system.Permitted who choice then
        some (system.moved who choice)
      else none
  | .abort who failure => some (system.aborted who failure)

def play (check : System Index State Token Label Failure Value → Event Index Failure → Bool)
    (system : System Index State Token Label Failure Value) :
    List (Event Index Failure) → Option (System Index State Token Label Failure Value)
  | [] => some system
  | event :: rest =>
      if check system event then (system.next? event).bind fun next => play check next rest else none

theorem step_of_next? {event : Event Index Failure}
    {after : System Index State Token Label Failure Value} (next : system.next? event = some after) :
    Step system event after := by
  cases event with
  | move who choice =>
    rw [next?, Option.ite_none_right_eq_some, Option.some.injEq] at next
    obtain ⟨⟨ready, permitted⟩, rfl⟩ := next
    exact .move ready permitted
  | abort who failure =>
    cases next
    exact .abort

theorem run_of_play
    {check : System Index State Token Label Failure Value → Event Index Failure → Bool}
    {events : List (Event Index Failure)} {system after : System Index State Token Label Failure Value}
    (played : play check system events = some after) :
    Run (Guarded (fun before event => check before event = true) Step) system events after := by
  induction events generalizing system with
  | nil =>
    cases played
    exact .done
  | cons event rest ih =>
    rw [play, Option.ite_none_right_eq_some, Option.bind_eq_some_iff] at played
    obtain ⟨passed, next, step, later⟩ := played
    exact .cons ⟨passed, step_of_next? system step⟩ (ih later)

end

end System

/-! ## Disciplines -/

structure Discipline (State Token : Type) where
  Inv : State → Prop
  Grows : State → State → Prop
  Same : Token → State → State → Prop
  grows_refl : ∀ state, Grows state state
  grows_trans : ∀ {first second third}, Grows first second → Grows second third → Grows first third
  same_refl : ∀ token state, Same token state state
  same_trans : ∀ {token first second third}, Same token first second → Same token second third →
    Same token first third

namespace Discipline

variable (discipline : Discipline State Token)

structure Rely (held : List Token) (before after : State) : Prop where
  inv : discipline.Inv after
  grows : discipline.Grows before after
  same : ∀ token ∈ held, discipline.Same token before after

structure Guarantee (held : List Token) (before after : State) : Prop where
  inv : discipline.Inv after
  grows : discipline.Grows before after
  same : ∀ token ∉ held, discipline.Same token before after

section

variable {discipline} {held : List Token} {before middle after : State}

theorem Rely.refl (inv : discipline.Inv before) : discipline.Rely held before before :=
  ⟨inv, discipline.grows_refl _, fun token _ => discipline.same_refl token _⟩

theorem Rely.trans (first : discipline.Rely held before middle)
    (second : discipline.Rely held middle after) : discipline.Rely held before after :=
  ⟨second.inv, discipline.grows_trans first.grows second.grows,
    fun token mem => discipline.same_trans (first.same token mem) (second.same token mem)⟩

theorem Rely.mono {fewer : List Token} (rely : discipline.Rely held before after)
    (subset : fewer ⊆ held) : discipline.Rely fewer before after :=
  ⟨rely.inv, rely.grows, fun token mem => rely.same token (subset mem)⟩

theorem Guarantee.refl (inv : discipline.Inv before) : discipline.Guarantee held before before :=
  ⟨inv, discipline.grows_refl _, fun token _ => discipline.same_refl token _⟩

theorem Guarantee.trans (first : discipline.Guarantee held before middle)
    (second : discipline.Guarantee held middle after) : discipline.Guarantee held before after :=
  ⟨second.inv, discipline.grows_trans first.grows second.grows,
    fun token free => discipline.same_trans (first.same token free) (second.same token free)⟩

theorem Guarantee.mono {more : List Token} (guarantee : discipline.Guarantee held before after)
    (subset : held ⊆ more) : discipline.Guarantee more before after :=
  ⟨guarantee.inv, guarantee.grows, fun token free => guarantee.same token fun mem => free (subset mem)⟩

theorem Guarantee.rely {other : List Token} (guarantee : discipline.Guarantee held before after)
    (apart : ∀ token ∈ other, token ∉ held) : discipline.Rely other before after :=
  ⟨guarantee.inv, guarantee.grows, fun token mem => guarantee.same token (apart token mem)⟩

end

variable (condition : Label → State → State → Prop)

/-- Whatever the others do meanwhile, each commit keeps the discipline, and the script stops with a
result that fits. Statements are assumed to meet the condition. -/
def Safe (post : Except Failure Value → Standing State Token → Prop) :
    Script State Token Label Failure Value → Standing State Token → Prop
  | .stop result, standing => post result standing
  | .act label locks effect next, standing =>
      ∀ now, discipline.Rely standing.held standing.seen now →
        (∀ name, label = some name → condition name standing.seen now) →
        Safe post (next (standing.pending now))
          (standing.wrote now (locks (standing.pending now)) (effect (standing.pending now)))
  | .fresh used token next, standing =>
      ∀ now, discipline.Rely standing.held standing.seen now →
        ∀ choice, used (standing.pending now) choice = false →
          Safe post (next choice) (standing.wrote now [token choice] id)
  | .commit next, standing =>
      ∀ now, discipline.Rely standing.held standing.seen now →
        discipline.Guarantee standing.held now (standing.pending now) ∧
          Safe post next (.idle (standing.pending now))
  | .rollback next, standing =>
      ∀ now, discipline.Rely standing.held standing.seen now → Safe post next (.idle now)

def Upon (wanted : Value → Standing State Token → Prop) :
    Except Failure Value → Standing State Token → Prop
  | .ok value, standing => wanted value standing
  | .error _, _ => True

def Within (allowed : Failure → Prop) (wanted : Value → Standing State Token → Prop) :
    Except Failure Value → Standing State Token → Prop
  | .ok value, standing => wanted value standing
  | .error failure, _ => allowed failure

section

variable {discipline condition} {post : Except Failure Other → Standing State Token → Prop}
  {standing : Standing State Token}

variable {script : Script State Token Label Failure Value}

theorem safe_andThen {rest : Except Failure Value → Script State Token Label Failure Other} :
    discipline.Safe condition post (script.andThen rest) standing ↔
      discipline.Safe condition (fun result => discipline.Safe condition post (rest result)) script
        standing := by
  induction script generalizing standing with
  | stop result => exact Iff.rfl
  | act label locks effect next ih =>
    exact forall_congr' fun now => forall_congr' fun _ => forall_congr' fun _ => ih _
  | fresh used token next ih =>
    exact forall_congr' fun now => forall_congr' fun _ => forall_congr' fun choice => forall_congr' fun _ => ih _
  | commit next ih =>
    exact forall_congr' fun now => forall_congr' fun _ => and_congr_right fun _ => ih
  | rollback next ih => exact forall_congr' fun now => forall_congr' fun _ => ih

theorem Safe.mono {script : Script State Token Label Failure Other}
    {weaker : Except Failure Other → Standing State Token → Prop}
    (safe : discipline.Safe condition post script standing)
    (implies : ∀ result standing, post result standing → weaker result standing) :
    discipline.Safe condition weaker script standing := by
  induction script generalizing standing with
  | stop result => exact implies _ _ safe
  | act label locks effect next ih => exact fun now rely met => ih _ (safe now rely met)
  | fresh used token next ih => exact fun now rely choice free => ih _ (safe now rely choice free)
  | commit next ih => exact fun now rely => ⟨(safe now rely).1, ih (safe now rely).2⟩
  | rollback next ih => exact fun now rely => ih (safe now rely)

variable {wanted : Other → Standing State Token → Prop}

variable {rest : Value → Script State Token Label Failure Other}

theorem safe_bind (safe : discipline.Safe condition
      (Upon fun value after => discipline.Safe condition (Upon wanted) (rest value) after)
      script standing) : discipline.Safe condition (Upon wanted) (script >>= rest) standing := by
  refine safe_andThen.mpr (safe.mono fun result after fits => ?_)
  cases result with
  | ok value => exact fits
  | error failure => exact trivial

theorem safe_pure {value : Other} (fits : wanted value standing) : discipline.Safe condition (Upon wanted)
      (pure value : Script State Token Label Failure Other) standing := fits

variable {label : Option Label} {locks : State → List Token} {effect : State → State → State}
  {look : State → Except Failure Other}

theorem safe_statement (fits : ∀ now, discipline.Rely standing.held standing.seen now →
      (∀ name, label = some name → condition name standing.seen now) →
      ∀ value, look (standing.pending now) = .ok value →
        wanted value (standing.wrote now (locks (standing.pending now)) (effect (standing.pending now)))) :
    discipline.Safe condition (Upon wanted) (Script.statement label locks effect look) standing := by
  intro now rely met
  rw [Safe]
  cases result : look (standing.pending now) with
  | ok value => exact fits now rely met value result
  | error failure => exact trivial

theorem safe_read {look : State → Other} (fits : ∀ now, discipline.Rely standing.held standing.seen now →
      wanted (look (standing.pending now)) (standing.wrote now [] id)) : discipline.Safe condition (Upon wanted)
      (Script.read look : Script State Token Label Failure Other) standing :=
  fun now rely _ => fits now rely

theorem safe_write {wanted : Unit → Standing State Token → Prop} {locks : List Token} {change : State → State}
    (fits : ∀ now, discipline.Rely standing.held standing.seen now → wanted () (standing.wrote now locks change)) :
    discipline.Safe condition (Upon wanted)
      (Script.write locks change : Script State Token Label Failure Unit) standing :=
  fun now rely _ => fits now rely

theorem safe_newId {wanted : ℕ → Standing State Token → Prop} {used : State → ℕ → Bool} {token : ℕ → Token}
    (fits : ∀ now, discipline.Rely standing.held standing.seen now →
      ∀ choice, used (standing.pending now) choice = false → wanted choice (standing.wrote now [token choice] id)) :
    discipline.Safe condition (Upon wanted) (Script.newId used token : Script State Token Label Failure ℕ) standing :=
  fun now rely choice free => fits now rely choice free

variable {body : Script State Token Label Failure Other}

theorem safe_transaction (safe : discipline.Safe condition
      (Upon fun value after => ∀ now, discipline.Rely after.held after.seen now →
        discipline.Guarantee after.held now (after.pending now) ∧
          wanted value (.idle (after.pending now))) body standing) :
    discipline.Safe condition (Upon wanted) (Script.transaction body) standing := by
  refine safe_andThen.mpr (safe.mono fun result after fits => ?_)
  cases result with
  | ok value => exact fits
  | error failure => exact fun now _ => trivial

variable {allowed : Failure → Prop}

theorem within_bind (safe : discipline.Safe condition
      (Within allowed fun value after => discipline.Safe condition (Within allowed wanted) (rest value) after)
      script standing) : discipline.Safe condition (Within allowed wanted) (script >>= rest) standing := by
  refine safe_andThen.mpr (safe.mono fun result after fits => ?_)
  cases result with
  | ok value => exact fits
  | error failure => exact fits

theorem within_statement (fits : ∀ now, discipline.Rely standing.held standing.seen now →
      Within allowed (fun value _ => wanted value
          (standing.wrote now (locks (standing.pending now)) (effect (standing.pending now))))
        (look (standing.pending now)) standing) :
    discipline.Safe condition (Within allowed wanted) (Script.statement label locks effect look)
      standing := by
  intro now rely _
  have result := fits now rely
  rw [Safe]
  cases value : look (standing.pending now) with
  | ok value => rwa [value] at result
  | error failure => rwa [value] at result

theorem within_stop {result : Except Failure Other} (fits : Within allowed wanted result standing) :
    discipline.Safe condition (Within allowed wanted) (.stop result) standing := fits

theorem within_read {look : State → Other} (fits : ∀ now, discipline.Rely standing.held standing.seen now →
      wanted (look (standing.pending now)) (standing.wrote now [] id)) :
    discipline.Safe condition (Within allowed wanted)
      (Script.read look : Script State Token Label Failure Other) standing :=
  fun now rely _ => fits now rely

theorem within_write {wanted : Unit → Standing State Token → Prop} {locks : List Token} {change : State → State}
    (fits : ∀ now, discipline.Rely standing.held standing.seen now → wanted () (standing.wrote now locks change)) :
    discipline.Safe condition (Within allowed wanted)
      (Script.write locks change : Script State Token Label Failure Unit) standing :=
  fun now rely _ => fits now rely

theorem within_transaction (safe : discipline.Safe condition
      (Within allowed fun value after => ∀ now, discipline.Rely after.held after.seen now →
        discipline.Guarantee after.held now (after.pending now) ∧
          wanted value (.idle (after.pending now))) body standing) :
    discipline.Safe condition (Within allowed wanted) (Script.transaction body) standing := by
  refine safe_andThen.mpr (safe.mono fun result after fits => ?_)
  cases result with
  | ok value => exact fits
  | error failure => exact fun now _ => fits

end

/-! ## What a transaction has written so far -/

structure Extends (before after : Standing State Token) (change : State → State) : Prop where
  pending : after.pending = change ∘ before.pending
  held : before.held ⊆ after.held
  rely : discipline.Rely before.held before.seen after.seen

namespace Extends

variable {discipline} {before middle after : Standing State Token} {first second : State → State}

theorem trans (left : discipline.Extends before middle first) (right : discipline.Extends middle after second) :
    discipline.Extends before after (second ∘ first) where
  pending := by rw [right.pending, left.pending, Function.comp_assoc]
  held := List.Subset.trans left.held right.held
  rely := left.rely.trans (right.rely.mono left.held)

theorem wrote {now : State} {locks : List Token} {change : State → State}
    (rely : discipline.Rely before.held before.seen now) :
    discipline.Extends before (before.wrote now locks change) change where
  pending := rfl
  held := List.subset_append_right locks before.held
  rely := rely

end Extends

def Sound (standing : Standing State Token) : Prop :=
  ∀ now, discipline.Rely standing.held standing.seen now →
    discipline.Guarantee standing.held now (standing.pending now)

def Neutral (change : State → State) : Prop :=
  ∀ state, discipline.Inv state → discipline.Guarantee [] state (change state)

section

variable {discipline} {before after : Standing State Token} {change : State → State}

theorem sound_idle {standing : Standing State Token} (idle : standing.pending = id) : discipline.Sound standing := by
  intro now rely
  rw [idle]
  exact .refl rely.inv

theorem Extends.sound (extended : discipline.Extends before after change)
    (keeps : ∀ now, discipline.Rely before.held before.seen now →
      discipline.Guarantee after.held now (change (before.pending now))) : discipline.Sound after := by
  intro now rely
  rw [extended.pending]
  exact keeps now (extended.rely.trans (rely.mono extended.held))

theorem safe_committing {condition : Label → State → State → Prop}
    {wanted : Other → Standing State Token → Prop} {standing : Standing State Token}
    {body : Script State Token Label Failure Other}
    (safe : discipline.Safe condition (Upon fun _ after => discipline.Sound after) body standing)
    (fits : ∀ value committed, wanted value (.idle committed)) :
    discipline.Safe condition (Upon wanted) (Script.transaction body) standing := by
  apply safe_transaction
  refine safe.mono fun result after sound => ?_
  cases result with
  | ok value => exact fun now rely => ⟨sound now rely, fits value _⟩
  | error failure => exact trivial

theorem neutral_id : discipline.Neutral id := fun _ inv => .refl inv

theorem Neutral.comp {other : State → State} (second : discipline.Neutral other)
    (first : discipline.Neutral change) : discipline.Neutral (other ∘ change) :=
  fun state inv => (first state inv).trans (second _ (first state inv).inv)

def Quietly (discipline : Discipline State Token) (before after : Standing State Token) : Prop :=
  ∃ change, discipline.Neutral change ∧ discipline.Extends before after change

theorem Quietly.wrote {now : State} {locks : List Token} (neutral : discipline.Neutral change)
    (rely : discipline.Rely before.held before.seen now) : Quietly discipline before (before.wrote now locks change) :=
  ⟨change, neutral, Extends.wrote rely⟩

theorem Quietly.trans {middle : Standing State Token} (first : Quietly discipline before middle)
    (second : Quietly discipline middle after) : Quietly discipline before after := by
  obtain ⟨early, earlyNeutral, earlier⟩ := first
  obtain ⟨late, lateNeutral, later⟩ := second
  exact ⟨late ∘ early, lateNeutral.comp earlyNeutral, earlier.trans later⟩

theorem Sound.quietly (sound : discipline.Sound before) (quiet : Quietly discipline before after) :
    discipline.Sound after := by
  obtain ⟨change, neutral, extended⟩ := quiet
  intro now rely
  have earlier := sound now (extended.rely.trans (rely.mono extended.held))
  rw [extended.pending]
  exact (earlier.mono extended.held).trans ((neutral _ earlier.inv).mono (List.nil_subset _))

end

/-! ## Every run -/

section

variable {discipline condition} [DecidableEq Index]
  {system after : System Index State Token Label Failure Value}
  {post : Index → Except Failure Value → Standing State Token → Prop}

structure Obeyed (condition : Label → State → State → Prop)
    (post : Index → Except Failure Value → Standing State Token → Prop)
    (system : System Index State Token Label Failure Value) : Prop where
  inv : discipline.Inv system.committed
  apart : ∀ one other, one ≠ other → ∀ token ∈ (system.session one).standing.held,
    token ∉ (system.session other).standing.held
  rely : ∀ who, discipline.Rely (system.session who).standing.held (system.session who).standing.seen
    system.committed
  safe : ∀ who, discipline.Safe condition (post who) (system.session who).script
    (system.session who).standing

namespace Obeyed

variable (obeyed : discipline.Obeyed condition post system)
include obeyed

variable {who : Index}

theorem update {committed : State} {session : Session State Token Label Failure Value} (inv : discipline.Inv committed)
    (others : ∀ other, other ≠ who → discipline.Rely (system.session other).standing.held system.committed committed)
    (apart : ∀ other, other ≠ who → ∀ token ∈ session.standing.held,
      token ∉ (system.session other).standing.held) (seen : session.standing.seen = committed)
    (safe : discipline.Safe condition (post who) session.script session.standing) :
    discipline.Obeyed condition post ⟨committed, Function.update system.session who session⟩ where
  inv := inv
  apart := by
    intro one other ne token
    dsimp only
    by_cases first : one = who
    · subst first
      rw [Function.update_self, Function.update_of_ne ne.symm]
      exact apart other ne.symm token
    · rw [Function.update_of_ne first]
      by_cases second : other = who
      · subst second
        rw [Function.update_self]
        exact fun mem held => apart one first token held mem
      · rw [Function.update_of_ne second]
        exact obeyed.apart one other ne token
  rely := by
    intro one
    dsimp only
    by_cases first : one = who
    · subst first
      rw [Function.update_self, seen]
      exact .refl inv
    · rw [Function.update_of_ne first]
      exact (obeyed.rely one).trans (others one first)
  safe := by
    intro one
    dsimp only
    by_cases first : one = who
    · subst first
      rw [Function.update_self]
      exact safe
    · rw [Function.update_of_ne first]
      exact obeyed.safe one

theorem statement {session : Session State Token Label Failure Value}
    (apart : ∀ other, other ≠ who → ∀ token ∈ session.standing.held,
      token ∉ (system.session other).standing.held) (seen : session.standing.seen = system.committed)
    (safe : discipline.Safe condition (post who) session.script session.standing) :
    discipline.Obeyed condition post ⟨system.committed, Function.update system.session who session⟩ :=
  obeyed.update obeyed.inv (fun _ _ => .refl obeyed.inv) apart seen safe

omit [DecidableEq Index] in
theorem apart_wrote {now : State} {locks : List Token} {change : State → State}
    (free : ∀ other, other ≠ who → ∀ token ∈ locks, token ∉ (system.session other).standing.held) :
    ∀ other, other ≠ who → ∀ token ∈ ((system.session who).standing.wrote now locks change).held,
      token ∉ (system.session other).standing.held := by
  intro other ne token mem
  rcases List.mem_append.mp mem with taken | kept
  · exact free other ne token taken
  · exact obeyed.apart who other ne.symm token kept

theorem moved {choice : ℕ} (ready : (system.session who).ready system.committed choice = true)
    (permitted : system.Permitted who choice) (met : (system.session who).Meets system.committed condition) :
    discipline.Obeyed condition post (system.moved who choice) := by
  have rely := obeyed.rely who
  have safe := obeyed.safe who
  simp only [System.moved, Session.advance]
  simp only [System.Permitted, Session.takes] at permitted
  simp only [Session.ready] at ready
  simp only [Session.Meets] at met
  cases script : (system.session who).script with
  | stop result => simp [script] at ready
  | act label locks effect next =>
    rw [script] at safe permitted met
    refine obeyed.statement (obeyed.apart_wrote permitted) rfl (safe _ rely fun name named => ?_)
    subst named
    exact met
  | fresh used token next =>
    rw [script] at safe permitted ready
    refine obeyed.statement (obeyed.apart_wrote permitted) rfl (safe _ rely choice ?_)
    simpa using ready
  | commit next =>
    rw [script] at safe
    obtain ⟨guarantee, later⟩ := safe _ rely
    refine obeyed.update guarantee.inv (fun other ne => guarantee.rely ?_)
      (fun _ _ _ mem => nomatch mem) rfl later
    exact obeyed.apart other who ne
  | rollback next =>
    rw [script] at safe
    exact obeyed.statement (fun _ _ _ mem => nomatch mem) rfl (safe _ rely)

theorem aborted {failure : Failure} (given : post who (.error failure) (.idle system.committed)) :
    discipline.Obeyed condition post (system.aborted who failure) :=
  obeyed.statement (fun _ _ _ mem => nomatch mem) rfl given

theorem step {event : Event Index Failure}
    (given : ∀ who failure, event = .abort who failure → ∀ state, post who (.error failure) (.idle state))
    (met : system.Meets condition event) (step : System.Step system event after) :
    discipline.Obeyed condition post after := by
  cases step with
  | move ready permitted => exact obeyed.moved ready permitted met
  | abort => exact obeyed.aborted (given _ _ rfl _)

end Obeyed

omit [DecidableEq Index] in
variable {scripts : Index → Script State Token Label Failure Value}

theorem obeyed_start {committed : State} (inv : discipline.Inv committed)
    (safe : ∀ who, discipline.Safe condition (post who) (scripts who) (.idle committed)) :
    discipline.Obeyed condition post (System.start committed scripts) where
  inv := inv
  apart := fun _ _ _ _ mem => nomatch mem
  rely := fun _ => .refl inv
  safe := safe

variable {events : List (Event Index Failure)}

theorem obeyed_of_run {committed : State} (inv : discipline.Inv committed)
    (safe : ∀ who, discipline.Safe condition (post who) (scripts who) (.idle committed))
    (given : ∀ who failure, Event.abort who failure ∈ events → ∀ state, post who (.error failure) (.idle state))
    (run : Run (Guarded (fun before event => System.Meets before condition event) System.Step)
      (System.start committed scripts) events after) : discipline.Obeyed condition post after := by
  refine run.invariant_on (fun event => ∀ who failure, event = .abort who failure →
    ∀ state, post who (.error failure) (.idle state)) ?_ (obeyed_start inv safe) ?_
  · exact fun _ _ _ fits obeyed move => obeyed.step fits move.1 move.2
  · rintro event mem who failure rfl
    exact given who failure mem

theorem inv_of_run {committed : State} (inv : discipline.Inv committed)
    (safe : ∀ who, discipline.Safe condition (Upon fun _ _ => True) (scripts who) (.idle committed))
    (run : Run (Guarded (fun before event => System.Meets before condition event) System.Step)
      (System.start committed scripts) events after) : discipline.Inv after.committed :=
  (obeyed_of_run inv safe (fun _ _ _ _ => trivial) run).inv

end

end Discipline

end SmartResidence.Foundation
