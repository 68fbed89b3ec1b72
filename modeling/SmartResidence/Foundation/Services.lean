import Mathlib.Data.List.Perm.Basic
import SmartResidence.Foundation.Runs

/-!
# Services whose calls take several steps

A call reads in one step and writes in a later one. In between, other calls take their steps.
-/

namespace SmartResidence.Foundation

open List

variable {Time Db Request Flight Note : Type}

structure Outcome (Db Flight Note : Type) where
  db : Db
  flights : List Flight
  notes : List Note

namespace Outcome

def ended (db : Db) : Outcome Db Flight Note := ⟨db, [], []⟩

def reads (db : Db) (flights : List Flight) : Outcome Db Flight Note := ⟨db, flights, []⟩

variable {Failure Value : Type}

def ofRead (db : Db) (read : Except Failure Value) (flight : Value → Flight) : Outcome Db Flight Note :=
  match read with
  | .ok value => reads db [flight value]
  | .error _ => ended db

def ofWrite (db : Db) (written : Except Failure Db) (notes : List Note) : Outcome Db Flight Note :=
  match written with
  | .ok after => ⟨after, [], notes⟩
  | .error _ => ended db

def thenGo (db : Db) (written : Except Failure Db) (flights : Db → List Flight) (notes : List Note) : Outcome Db Flight Note :=
  match written with
  | .ok after => ⟨after, flights after, notes⟩
  | .error _ => ended db

structure Within (Change : Db → Db → Prop) (Said : Db → Note → Prop) (Left : Flight → Prop) (db : Db)
    (outcome : Outcome Db Flight Note) : Prop where
  change : Change db outcome.db
  notes : ∀ note ∈ outcome.notes, Said outcome.db note
  flights : ∀ flight ∈ outcome.flights, Left flight

section

variable {Change : Db → Db → Prop} {Said : Db → Note → Prop} {Left : Flight → Prop} {db after : Db} {flights : List Flight}
  {notes : List Note}

theorem Within.mono {Change' : Db → Db → Prop} {Said' : Db → Note → Prop} {Left' : Flight → Prop} {outcome : Outcome Db Flight Note}
    (within : Within Change Said Left db outcome) (change : Change db outcome.db → Change' db outcome.db)
    (said : ∀ note, Said outcome.db note → Said' outcome.db note) (left : ∀ flight, Left flight → Left' flight) :
    Within Change' Said' Left' db outcome :=
  ⟨change within.change, fun note mem => said note (within.notes note mem),
    fun flight mem => left flight (within.flights flight mem)⟩

theorem within_silent (change : Change db after) (left : ∀ flight ∈ flights, Left flight) :
    Within Change Said Left db ⟨after, flights, []⟩ :=
  ⟨change, (fun _ none => nomatch none), left⟩

theorem within_last (change : Change db after) (said : ∀ note ∈ notes, Said after note) :
    Within Change Said Left db ⟨after, [], notes⟩ :=
  ⟨change, said, fun _ none => nomatch none⟩

theorem within_ended (same : Change db db) : Within Change Said Left db (.ended db) :=
  within_silent same fun _ none => nomatch none

theorem within_one {flight : Flight} (change : Change db after) (left : Left flight) :
    Within Change Said Left db ⟨after, [flight], []⟩ := by
  refine within_silent change fun own only => ?_
  obtain rfl := mem_singleton.mp only
  exact left

theorem within_note {note : Note} (change : Change db after) (said : Said after note) :
    Within Change Said Left db ⟨after, [], [note]⟩ := by
  refine within_last change fun own only => ?_
  obtain rfl := mem_singleton.mp only
  exact said

theorem within_ofRead {read : Except Failure Value} {flight : Value → Flight} (same : Change db db)
    (left : ∀ value, read = .ok value → Left (flight value)) : Within Change Said Left db (.ofRead db read flight) := by
  cases read with
  | error _ => exact within_ended same
  | ok value => exact within_one same (left value rfl)

variable {written : Except Failure Db}

theorem within_thenGo {flights : Db → List Flight} (same : Change db db)
    (kept : ∀ after, written = .ok after → Within Change Said Left db ⟨after, flights after, notes⟩) :
    Within Change Said Left db (.thenGo db written flights notes) := by
  cases written with
  | error _ => exact within_ended same
  | ok after => exact kept after rfl

theorem within_ofWrite (same : Change db db)
    (kept : ∀ after, written = .ok after → Within Change Said Left db ⟨after, [], notes⟩) :
    Within Change Said Left db (.ofWrite db written notes) := by
  cases written with
  | error _ => exact within_ended same
  | ok after => exact kept after rfl

end

end Outcome

structure Service (Time Db Request Flight Note : Type) where
  begin : Time → Request → Db → Outcome Db Flight Note
  proceed : Time → Flight → Db → Outcome Db Flight Note

structure World (Db Flight Note : Type) where
  db : Db
  flights : List Flight
  notes : List Note

inductive CallEvent (Time Request : Type)
  | begin (now : Time) (request : Request)
  | proceed (now : Time) (place : Nat)

namespace World

def after (world : World Db Flight Note) (rest : List Flight) (outcome : Outcome Db Flight Note) : World Db Flight Note :=
  ⟨outcome.db, rest ++ outcome.flights, world.notes ++ outcome.notes⟩

def next (service : Service Time Db Request Flight Note) (world : World Db Flight Note) :
    CallEvent Time Request → World Db Flight Note
  | .begin now request => world.after world.flights (service.begin now request world.db)
  | .proceed now place =>
      match world.flights[place]? with
      | some flight => world.after (world.flights.eraseIdx place) (service.proceed now flight world.db)
      | none => world

def run (service : Service Time Db Request Flight Note) (world : World Db Flight Note)
    (events : List (CallEvent Time Request)) : World Db Flight Note :=
  events.foldl (fun world event => world.next service event) world

def idle (db : Db) : World Db Flight Note := ⟨db, [], []⟩

end World

namespace Service

variable (service : Service Time Db Request Flight Note)

def Step (before : World Db Flight Note) (event : CallEvent Time Request) (after : World Db Flight Note) : Prop :=
  before.next service event = after

structure Condition (Time Db Request Flight : Type) where
  begin : Time → Request → Db → Prop
  proceed : Time → Flight → Db → Prop

def Condition.later (proceed : Time → Flight → Db → Prop) : Condition Time Db Request Flight := ⟨fun _ _ _ => True, proceed⟩

def Condition.At (condition : Condition Time Db Request Flight) (world : World Db Flight Note) : CallEvent Time Request → Prop
  | .begin now request => condition.begin now request world.db
  | .proceed now place => ∀ flight, world.flights[place]? = some flight → condition.proceed now flight world.db

instance (condition : Condition Time Db Request Flight) [∀ now request db, Decidable (condition.begin now request db)]
    [∀ now flight db, Decidable (condition.proceed now flight db)] (world : World Db Flight Note) :
    ∀ event, Decidable (condition.At world event)
  | .begin now request => inferInstanceAs (Decidable (condition.begin now request world.db))
  | .proceed now place => inferInstanceAs (Decidable (∀ flight ∈ world.flights[place]?, condition.proceed now flight world.db))

structure Holds (Inv : Db → List Note → Prop) (Sound : Flight → Prop) (world : World Db Flight Note) : Prop where
  inv : Inv world.db world.notes
  sound : ∀ flight ∈ world.flights, Sound flight

variable {service} {condition : Condition Time Db Request Flight} {Inv : Db → List Note → Prop} {Sound : Flight → Prop}

theorem Holds.idle {db : Db} (inv : Inv db []) : Holds Inv Sound (World.idle db) := ⟨inv, fun _ none => nomatch none⟩

def Keeps (Inv : Db → List Note → Prop) (Sound : Flight → Prop) (notes : List Note) (outcome : Outcome Db Flight Note) : Prop :=
  Inv outcome.db (notes ++ outcome.notes) ∧ ∀ flight ∈ outcome.flights, Sound flight

theorem keeps_ended {db : Db} {notes : List Note} (inv : Inv db notes) : Keeps Inv Sound notes (.ended db) :=
  ⟨(append_nil notes).symm ▸ inv, fun _ none => nomatch none⟩

theorem keeps_reads {db : Db} {notes : List Note} {flights : List Flight} (inv : Inv db notes)
    (sound : ∀ flight ∈ flights, Sound flight) : Keeps Inv Sound notes (.reads db flights) :=
  ⟨(append_nil notes).symm ▸ inv, sound⟩

variable {Failure Value : Type} {db : Db} {notes more : List Note}

theorem keeps_ofRead {read : Except Failure Value} {flight : Value → Flight} (inv : Inv db notes)
    (sound : ∀ value, read = .ok value → Sound (flight value)) : Keeps Inv Sound notes (.ofRead db read flight) := by
  cases read with
  | error _ => exact keeps_ended inv
  | ok value =>
    refine keeps_reads inv fun own only => ?_
    obtain rfl := mem_singleton.mp only
    exact sound value rfl

theorem keeps_ofWrite {written : Except Failure Db} (inv : Inv db notes)
    (kept : ∀ after, written = .ok after → Inv after (notes ++ more)) : Keeps Inv Sound notes (.ofWrite db written more) := by
  cases written with
  | error _ => exact keeps_ended inv
  | ok after => exact ⟨kept after rfl, fun _ none => nomatch none⟩

theorem Holds.after {world : World Db Flight Note} {rest : List Flight} {outcome : Outcome Db Flight Note}
    (kept : Keeps Inv Sound world.notes outcome) (others : ∀ flight ∈ rest, Sound flight) :
    Holds Inv Sound (world.after rest outcome) := by
  refine ⟨kept.1, fun flight mem => ?_⟩
  rcases mem_append.mp mem with old | new
  · exact others flight old
  · exact kept.2 flight new

section

variable (begins : ∀ now request db notes, Inv db notes → condition.begin now request db →
    Keeps Inv Sound notes (service.begin now request db))
  (proceeds : ∀ now flight db notes, Inv db notes → Sound flight → condition.proceed now flight db →
    Keeps Inv Sound notes (service.proceed now flight db))

include begins proceeds

theorem holds_step {before after : World Db Flight Note} {event : CallEvent Time Request} (holds : Holds Inv Sound before)
    (step : Guarded condition.At service.Step before event after) : Holds Inv Sound after := by
  obtain ⟨meets, rfl⟩ := step
  cases event with
  | begin now request => exact .after (begins now request before.db before.notes holds.inv meets) holds.sound
  | proceed now place =>
    show Holds Inv Sound (match before.flights[place]? with
      | some flight => before.after (before.flights.eraseIdx place) (service.proceed now flight before.db)
      | none => before)
    cases found : before.flights[place]? with
    | none => exact holds
    | some flight =>
      have own := holds.sound flight (mem_of_getElem? found)
      exact .after (proceeds now flight before.db before.notes holds.inv own (meets flight found))
        fun other mem => holds.sound other (mem_of_mem_eraseIdx mem)

theorem holds_run {start finish : World Db Flight Note} {events : List (CallEvent Time Request)}
    (holds : Holds Inv Sound start) (run : Run (Guarded condition.At service.Step) start events finish) :
    Holds Inv Sound finish :=
  run.invariant (fun _ _ _ => holds_step begins proceeds) holds

end

theorem run_reached (service : Service Time Db Request Flight Note) (world : World Db Flight Note)
    (events : List (CallEvent Time Request)) : Run service.Step world events (world.run service events) :=
  .of_foldl world events

theorem guarded_reached {allowed : World Db Flight Note → CallEvent Time Request → Prop} {world : World Db Flight Note}
    {events : List (CallEvent Time Request)}
    (meets : Run.Meets allowed (fun world event => world.next service event) world events) :
    Run (Guarded allowed service.Step) world events (world.run service events) :=
  .guarded_of_foldl meets

section

variable {Good : World Db Flight Note → Prop} {allowed : World Db Flight Note → CallEvent Time Request → Prop}
  (begins : ∀ world now request, Good world → allowed world (.begin now request) →
    Good (world.after world.flights (service.begin now request world.db)))
  (proceeds : ∀ world now place flight rest, Good world → allowed world (.proceed now place) →
    world.flights[place]? = some flight → world.flights.Perm (flight :: rest) →
    Good (world.after rest (service.proceed now flight world.db)))

include begins proceeds

theorem good_step {before after : World Db Flight Note} {event : CallEvent Time Request} (good : Good before)
    (step : Guarded allowed service.Step before event after) : Good after := by
  obtain ⟨meets, rfl⟩ := step
  cases event with
  | begin now request => exact begins before now request good meets
  | proceed now place =>
    show Good (match before.flights[place]? with
      | some flight => before.after (before.flights.eraseIdx place) (service.proceed now flight before.db)
      | none => before)
    cases found : before.flights[place]? with
    | none => exact good
    | some flight =>
      obtain ⟨mem, same⟩ := List.getElem?_eq_some_iff.mp found
      have parts : before.flights.Perm (flight :: before.flights.eraseIdx place) :=
        same ▸ (getElem_cons_eraseIdx_perm mem).symm
      exact proceeds before now place flight _ good meets found parts

theorem good_run {start finish : World Db Flight Note} {events : List (CallEvent Time Request)}
    (good : Good start) (run : Run (Guarded allowed service.Step) start events finish) : Good finish :=
  run.invariant (fun _ _ _ => good_step begins proceeds) good

end

section

variable {Ticket : Type} (held : Flight → Option Ticket) (used : Note → Option Ticket)

def tickets (notes : List Note) (flights : List Flight) : List Ticket :=
  notes.filterMap used ++ flights.filterMap held

variable {world : World Db Flight Note} {rest : List Flight} (outcome : Outcome Db Flight Note) {own : List Ticket}

theorem tickets_moved (parts : (world.flights.filterMap held).Perm (own ++ rest.filterMap held)) :
    ∃ others, (tickets held used world.notes world.flights).Perm (own ++ others) ∧
      (tickets held used (world.after rest outcome).notes (world.after rest outcome).flights).Perm
        (tickets held used outcome.notes outcome.flights ++ others) := by
  classical
  refine ⟨world.notes.filterMap used ++ rest.filterMap held, ?_, ?_⟩
  · have moved := parts.append_left (world.notes.filterMap used)
    refine moved.trans ?_
    rw [perm_iff_count]
    simp only [count_append]
    omega
  · rw [perm_iff_count]
    simp only [tickets, World.after, filterMap_append, count_append]
    omega

theorem held_parts {flight : Flight} (same : world.flights.Perm (flight :: rest)) :
    (world.flights.filterMap held).Perm ((held flight).toList ++ rest.filterMap held) := by
  have parts := same.filterMap held
  cases own : held flight with
  | none => simpa [own] using parts
  | some ticket => simpa [own] using parts

theorem tickets_kept (parts : (world.flights.filterMap held).Perm (own ++ rest.filterMap held))
    (fewer : (tickets held used outcome.notes outcome.flights).Subperm own) :
    (tickets held used (world.after rest outcome).notes (world.after rest outcome).flights).Subperm
      (tickets held used world.notes world.flights) := by
  obtain ⟨others, before, after⟩ := tickets_moved held used outcome parts
  have less := (subperm_append_right others).mpr fewer
  exact after.subperm.trans (less.trans before.symm.subperm)

theorem tickets_drawn {ticket : Ticket} (parts : (world.flights.filterMap held).Perm (rest.filterMap held))
    (one : tickets held used outcome.notes outcome.flights = [ticket]) :
    (tickets held used (world.after rest outcome).notes (world.after rest outcome).flights).Perm
      (ticket :: tickets held used world.notes world.flights) := by
  have none : (world.flights.filterMap held).Perm ([] ++ rest.filterMap held) := parts
  obtain ⟨others, before, after⟩ := tickets_moved held used outcome none
  rw [one] at after
  exact after.trans (before.symm.cons ticket)

end

end Service

end SmartResidence.Foundation
