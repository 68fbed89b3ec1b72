import SmartResidence.Foundation.ReadCommitted

/-!
# Scripts that may be committed after each statement

Where each write keeps the discipline by itself, nothing has to be said about the writes before it.
-/

namespace SmartResidence.Foundation

variable {State Token Label Failure Value Other Ghost : Type}

namespace Discipline

def Steady (discipline : Discipline State Token) (condition : Label → State → State → Prop)
    (script : Script State Token Label Failure Value) : Prop :=
  ∀ standing, discipline.Sound standing →
    discipline.Safe condition (Upon fun _ after => discipline.Sound after) script standing

variable {discipline : Discipline State Token} {condition : Label → State → State → Prop}
  {before after : Standing State Token} {change : State → State}

variable {now : State} {locks : List Token}

theorem Sound.wrote (sound : discipline.Sound before) (rely : discipline.Rely before.held before.seen now)
    (keeps : ∀ later, discipline.Rely (locks ++ before.held) now later →
      discipline.Guarantee before.held later (before.pending later) →
        discipline.Guarantee (locks ++ before.held) (before.pending later) (change (before.pending later))) :
    discipline.Sound (before.wrote now locks change) := by
  intro later grown
  have earlier := sound later (rely.trans (grown.mono (List.subset_append_right _ _)))
  exact (earlier.mono (List.subset_append_right _ _)).trans (keeps later grown earlier)

theorem Sound.neutral (sound : discipline.Sound before) (rely : discipline.Rely before.held before.seen now)
    (neutral : discipline.Neutral change) : discipline.Sound (before.wrote now locks change) :=
  sound.quietly (.wrote neutral rely)

section

variable {script : Script State Token Label Failure Value}

theorem steady_stop (result : Except Failure Value) :
    discipline.Steady condition (.stop result : Script State Token Label Failure Value) := by
  intro standing sound
  cases result with
  | ok value => exact sound
  | error failure => exact trivial

theorem steady_pure (value : Value) :
    discipline.Steady condition (pure value : Script State Token Label Failure Value) :=
  steady_stop (.ok value)

theorem steady_bind {rest : Value → Script State Token Label Failure Other}
    (first : discipline.Steady condition script) (others : ∀ value, discipline.Steady condition (rest value)) :
    discipline.Steady condition (script >>= rest) := by
  intro standing sound
  refine safe_bind ((first standing sound).mono fun result after fits => ?_)
  cases result with
  | ok value => exact others value after fits
  | error failure => exact trivial

theorem steady_statement {label : Option Label} {locks : State → List Token}
    {effect : State → State → State} {look : State → Except Failure Value}
    (neutral : ∀ view, discipline.Neutral (effect view)) :
    discipline.Steady condition (Script.statement label locks effect look) := by
  intro standing sound
  exact safe_statement fun now rely _ _ _ => sound.neutral rely (neutral _)

theorem steady_read (look : State → Value) :
    discipline.Steady condition (Script.read look : Script State Token Label Failure Value) :=
  steady_statement fun _ => neutral_id

theorem steady_write (locks : List Token) (neutral : discipline.Neutral change) :
    discipline.Steady condition (Script.write locks change : Script State Token Label Failure Unit) :=
  steady_statement fun _ => neutral

theorem steady_newId (used : State → ℕ → Bool) (token : ℕ → Token) :
    discipline.Steady condition (Script.newId used token : Script State Token Label Failure ℕ) := by
  intro standing sound
  exact safe_newId fun now rely _ _ => sound.neutral rely neutral_id

theorem steady_transaction (steady : discipline.Steady condition script) :
    discipline.Steady condition (Script.transaction script) := by
  intro standing sound
  exact safe_committing (steady standing sound) fun _ _ => sound_idle rfl

theorem Steady.safe (steady : discipline.Steady condition script) (idle : before.pending = id) :
    discipline.Safe condition (Upon fun _ _ => True) script before := by
  refine (steady before (sound_idle idle)).mono fun result after _ => ?_
  cases result with
  | ok value => exact trivial
  | error failure => exact trivial

end

end Discipline

namespace Script

def beside : Script State Token Label Failure Value → Script (State × Ghost) Token Other Failure Value
  | .stop result => .stop result
  | .act _ locks effect next =>
      .act none (fun both => locks both.1) (fun view both => (effect view.1 both.1, both.2))
        fun view => (next view.1).beside
  | .fresh used token next => .fresh (fun both => used both.1) token fun choice => (next choice).beside
  | .commit next => .commit next.beside
  | .rollback next => .rollback next.beside

end Script

namespace Discipline

def beside (discipline : Discipline State Token) (good : Ghost → Prop) : Discipline (State × Ghost) Token where
  Inv both := discipline.Inv both.1 ∧ good both.2
  Grows before after := discipline.Grows before.1 after.1
  Same token before after := discipline.Same token before.1 after.1
  grows_refl both := discipline.grows_refl both.1
  grows_trans := discipline.grows_trans
  same_refl token both := discipline.same_refl token both.1
  same_trans := discipline.same_trans

variable {discipline : Discipline State Token} {good : Ghost → Prop} {held : List Token}
  {condition : Other → State × Ghost → State × Ghost → Prop}

theorem Rely.one {before after : State × Ghost} (rely : (discipline.beside good).Rely held before after) :
    discipline.Rely held before.1 after.1 :=
  ⟨rely.inv.1, rely.grows, rely.same⟩

theorem Guarantee.beside {before : State × Ghost} {after : State} (kept : good before.2)
    (guarantee : discipline.Guarantee held before.1 after) :
    (discipline.beside good).Guarantee held before (after, before.2) :=
  ⟨⟨guarantee.inv, kept⟩, guarantee.grows, guarantee.same⟩

structure Beside (one : Standing State Token) (both : Standing (State × Ghost) Token) : Prop where
  pending : ∀ state, both.pending state = (one.pending state.1, state.2)
  held : both.held = one.held
  seen : both.seen.1 = one.seen

variable {one : Standing State Token} {both : Standing (State × Ghost) Token}

theorem Beside.wrote (along : Beside one both) (now : State × Ghost) (locks : List Token) (change : State → State) :
    Beside (one.wrote now.1 locks change) (both.wrote now locks fun both => (change both.1, both.2)) where
  pending state := by simp only [Standing.wrote, Function.comp_apply, along.pending]
  held := by simp only [Standing.wrote, along.held]
  seen := rfl

theorem safe_beside {script : Script State Token Label Failure Value} (along : Beside one both)
    (safe : discipline.Safe (fun _ _ _ => True) (Upon fun _ _ => True) script one) :
    (discipline.beside good).Safe condition (Upon fun _ _ => True) script.beside both := by
  have relied : ∀ {both : Standing (State × Ghost) Token} {one : Standing State Token}, Beside one both →
      ∀ now, (discipline.beside good).Rely both.held both.seen now → discipline.Rely one.held one.seen now.1 := by
    intro both one along now rely
    have first := rely.one
    rwa [along.held, along.seen] at first
  induction script generalizing one both with
  | stop result =>
    cases result with
    | ok value => exact trivial
    | error failure => exact trivial
  | act label locks effect next ih =>
    intro now rely _
    have later := safe now.1 (relied along now rely) fun _ _ => trivial
    rw [along.pending]
    exact ih _ (along.wrote now _ _) later
  | fresh used token next ih =>
    intro now rely choice unused
    rw [along.pending] at unused
    exact ih _ (along.wrote now [token choice] id) (safe now.1 (relied along now rely) choice unused)
  | commit next ih =>
    intro now rely
    obtain ⟨guarantee, later⟩ := safe now.1 (relied along now rely)
    rw [along.pending]
    rw [← along.held] at guarantee
    exact ⟨.beside rely.inv.2 guarantee, ih ⟨fun _ => rfl, rfl, rfl⟩ later⟩
  | rollback next ih =>
    intro now rely
    exact ih ⟨fun _ => rfl, rfl, rfl⟩ (safe now.1 (relied along now rely))

end Discipline

end SmartResidence.Foundation
