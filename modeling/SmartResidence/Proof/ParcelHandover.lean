import Mathlib.Tactic.Linarith
import SmartResidence.Parcels.ParcelService

/-!
# A parcel is handed over once

Neither the update of a collect nor that of a sweep looks at the parcel again.
-/

namespace SmartResidence.Parcels

open Foundation Billing Settings List

/-- Which event may come after which: a parcel is collected once, not overdue after it, and not overdue twice in a day. -/
def InOrder : ParcelNote → ParcelNote → Prop
  | .collected first _ _, .collected second _ _ => first ≠ second
  | .collected first _ _, .overdue second _ => first ≠ second
  | .overdue first at', .overdue second later => first = second → at' + dayMs ≤ later
  | _, _ => True

def StaysCollected (before after : ParcelDb) : Prop :=
  ∀ parcel ∈ before.parcels, parcel.status = .collected → ∃ row ∈ after.parcels, row.id = parcel.id ∧
    row.status = .collected ∧ row.collectedAt = parcel.collectedAt ∧ row.collectedByUserId = parcel.collectedByUserId

structure HandedOver (start finish : World ParcelDb ParcelFlight ParcelNote) : Prop where
  stays : StaysCollected start.db finish.db
  events : finish.notes.Pairwise InOrder

def StillDue (_ : Instant) (flight : ParcelFlight) (db : ParcelDb) : Prop :=
  match flight with
  | .collecting _ parcel _ => ∀ row, db.parcel? parcel.id = some row → row.status ≠ .collected
  | .sweeping _ [] => True
  | .sweeping start (candidate :: _) => alreadyNotified start candidate = false →
      ∀ row, db.parcel? candidate.id = some row → row.status ≠ .collected ∧ alreadyNotified start row = false

def stillDue : Service.Condition Instant ParcelDb ParcelRequest ParcelFlight := .later StillDue

structure Recorded (db : ParcelDb) (notes : List ParcelNote) : Prop where
  ids : Allocated (db.parcels.map Parcel.id) db.nextId
  collected : ∀ id userId at', .collected id userId at' ∈ notes → ∃ row ∈ db.parcels, row.id = id ∧ row.status = .collected
  overdue : ∀ id at', .overdue id at' ∈ notes →
    ∃ row ∈ db.parcels, row.id = id ∧ ∃ last, row.lastOverdueNotifiedAt = some last ∧ at' ≤ last
  events : notes.Pairwise InOrder

section

variable {db : ParcelDb} {notes : List ParcelNote} {row : Parcel}

theorem StaysCollected.refl : StaysCollected db db := fun parcel mem done => ⟨parcel, mem, rfl, done, rfl, rfl⟩

theorem StaysCollected.trans {first middle last : ParcelDb} (one : StaysCollected first middle)
    (two : StaysCollected middle last) : StaysCollected first last := by
  intro parcel mem done
  obtain ⟨row, listed, own, still, at', by'⟩ := one parcel mem done
  obtain ⟨later, stored, same, kept, atLater, byLater⟩ := two row listed still
  exact ⟨later, stored, same.trans own, kept, atLater.trans at', byLater.trans by'⟩

variable {note : ParcelNote}

theorem pairwise_concat (events : notes.Pairwise InOrder) (follows : ∀ earlier ∈ notes, InOrder earlier note) :
    (notes ++ [note]).Pairwise InOrder := by
  rw [pairwise_append]
  refine ⟨events, pairwise_singleton _ _, fun earlier mem last only => ?_⟩
  obtain rfl := mem_singleton.mp only
  exact follows earlier mem

theorem recorded_insert {make : Id → Parcel} (recorded : Recorded db notes) (named : ∀ id, (make id).id = id) :
    Recorded (db.insertParcel make) (notes ++ [.received db.nextId]) ∧ StaysCollected db (db.insertParcel make) := by
  refine ⟨⟨recorded.ids.insert (named _) (Nat.lt_succ_self _), fun id userId at' mem => ?_, fun id at' mem => ?_, ?_⟩, ?_⟩
  · rcases mem_append.mp mem with old | new
    · obtain ⟨row, stored, kept⟩ := recorded.collected id userId at' old
      exact ⟨row, mem_append_left _ stored, kept⟩
    · cases mem_singleton.mp new
  · rcases mem_append.mp mem with old | new
    · obtain ⟨row, stored, kept⟩ := recorded.overdue id at' old
      exact ⟨row, mem_append_left _ stored, kept⟩
    · cases mem_singleton.mp new
  · refine pairwise_concat recorded.events fun earlier _ => ?_
    cases earlier <;> trivial
  · intro parcel mem done
    exact ⟨parcel, mem_append_left _ mem, rfl, done, rfl, rfl⟩

variable {change : Parcel → Parcel}

theorem recorded_update (recorded : Recorded db notes) (found : db.parcel? row.id = some row)
    (named : ∀ parcel, (change parcel).id = parcel.id) (waiting : row.status ≠ .collected)
    (last : ∀ earlier, row.lastOverdueNotifiedAt = some earlier →
      ∃ later, (change row).lastOverdueNotifiedAt = some later ∧ earlier ≤ later)
    (follows : ∀ earlier ∈ notes, InOrder earlier note)
    (ownCollected : ∀ id userId at', note = .collected id userId at' → id = row.id ∧ (change row).status = .collected)
    (ownOverdue : ∀ id at', note = .overdue id at' → id = row.id ∧ (change row).lastOverdueNotifiedAt = some at') :
    Recorded (db.updateParcel row.id change) (notes ++ [note]) ∧ StaysCollected db (db.updateParcel row.id change) := by
  obtain ⟨stored, -⟩ := mem_of_findBy found
  have own : change row ∈ (db.updateParcel row.id change).parcels := change_mem_updateBy stored
  have other {parcel : Parcel} (mem : parcel ∈ db.parcels) (ne : parcel.id ≠ row.id) :
      parcel ∈ (db.updateParcel row.id change).parcels :=
    mem_updateBy.mpr ⟨parcel, mem, (if_neg ne).symm⟩
  refine ⟨⟨recorded.ids.updateBy (le_refl _) named, fun id userId at' mem => ?_, fun id at' mem => ?_,
    pairwise_concat recorded.events follows⟩, fun parcel mem done => ?_⟩
  · rcases mem_append.mp mem with old | new
    · obtain ⟨parcel, listed, same, done⟩ := recorded.collected id userId at' old
      refine ⟨parcel, other listed fun here => ?_, same, done⟩
      obtain rfl := eq_of_key_eq recorded.ids.distinct listed stored here
      exact waiting done
    · obtain ⟨same, done⟩ := ownCollected id userId at' (mem_singleton.mp new).symm
      exact ⟨change row, own, (named row).trans same.symm, done⟩
  · rcases mem_append.mp mem with old | new
    · obtain ⟨parcel, listed, same, latest, set, reached⟩ := recorded.overdue id at' old
      by_cases here : parcel.id = row.id
      · obtain rfl := eq_of_key_eq recorded.ids.distinct listed stored here
        obtain ⟨later, kept, grows⟩ := last latest set
        exact ⟨_, own, (named _).trans same, later, kept, reached.trans grows⟩
      · exact ⟨parcel, other listed here, same, latest, set, reached⟩
    · obtain ⟨same, set⟩ := ownOverdue id at' (mem_singleton.mp new).symm
      exact ⟨change row, own, (named row).trans same.symm, at', set, le_refl _⟩
  · refine ⟨parcel, other mem fun here => ?_, rfl, done, rfl, rfl⟩
    obtain rfl := eq_of_key_eq recorded.ids.distinct mem stored here
    exact waiting done

variable {start : ParcelDb} {now : Instant} {flight : ParcelFlight}

def Handed (start db : ParcelDb) (notes : List ParcelNote) : Prop := Recorded db notes ∧ StaysCollected start db

theorem Handed.of_step {after : ParcelDb} {more : List ParcelNote} (handed : Handed start db notes)
    (step : Recorded after (notes ++ more) ∧ StaysCollected db after) : Handed start after (notes ++ more) :=
  ⟨step.1, handed.2.trans step.2⟩

theorem begin_keeps {request : ParcelRequest} (handed : Handed start db notes) :
    Service.Keeps (Handed start) (fun _ => True) notes (beginParcel now request db) := by
  cases request with
  | create user dto =>
    unfold beginParcel
    dsimp only
    split
    · rename_i after created
      simp only [createParcel, bind_eq_ok, throwIf_eq_ok, pure_eq_ok, exists_const] at created
      obtain ⟨-, -, -, -, rfl⟩ := created
      exact ⟨handed.of_step (recorded_insert handed.1 fun _ => rfl), fun _ _ => trivial⟩
    · exact Service.keeps_ended handed
  | collect user id sent =>
    unfold beginParcel
    dsimp only
    split
    · exact Service.keeps_reads handed fun _ _ => trivial
    · exact Service.keeps_ended handed
  | detectOverdue => exact Service.keeps_reads handed fun _ _ => trivial

variable {earlier : ParcelNote}

theorem collected_follows (recorded : Recorded db notes) (found : db.parcel? row.id = some row)
    (waiting : row.status ≠ .collected) {userId : Id} (mem : earlier ∈ notes) :
    InOrder earlier (.collected row.id userId now) := by
  cases earlier with
  | received _ => trivial
  | overdue _ _ => trivial
  | collected id by' at' =>
    rintro rfl
    obtain ⟨parcel, listed, same, done⟩ := recorded.collected _ _ _ mem
    obtain rfl := eq_of_key_eq recorded.ids.distinct listed (mem_of_findBy found).1 same
    exact waiting done

theorem overdue_follows (recorded : Recorded db notes) (found : db.parcel? row.id = some row)
    (waiting : row.status ≠ .collected) (due : alreadyNotified now row = false) (mem : earlier ∈ notes) :
    InOrder earlier (.overdue row.id now) := by
  cases earlier with
  | received _ => trivial
  | collected id by' at' =>
    rintro rfl
    obtain ⟨parcel, listed, same, done⟩ := recorded.collected _ _ _ mem
    obtain rfl := eq_of_key_eq recorded.ids.distinct listed (mem_of_findBy found).1 same
    exact waiting done
  | overdue id at' =>
    rintro rfl
    obtain ⟨parcel, listed, same, last, set, reached⟩ := recorded.overdue _ _ mem
    obtain rfl := eq_of_key_eq recorded.ids.distinct listed (mem_of_findBy found).1 same
    unfold alreadyNotified at due
    rw [set, Option.any_some, decide_eq_false_iff_not] at due
    linarith

theorem write_keeps {id : Id} {flights : List ParcelFlight} (handed : Handed start db notes)
    (writes : ∀ row, db.parcel? id = some row → id = row.id →
      Recorded (db.updateParcel row.id change) (notes ++ [note]) ∧ StaysCollected db (db.updateParcel row.id change)) :
    Service.Keeps (Handed start) (fun _ => True) notes (db.write id change flights note) := by
  unfold ParcelDb.write
  split
  · rename_i row found
    obtain ⟨-, rfl⟩ := mem_of_findBy found
    exact ⟨handed.of_step (writes row found rfl), fun _ _ => trivial⟩
  · exact Service.keeps_ended handed

theorem proceed_keeps (handed : Handed start db notes) (due : StillDue now flight db) :
    Service.Keeps (Handed start) (fun _ => True) notes (proceedParcel now flight db) := by
  cases flight with
  | collecting user parcel sent =>
    refine write_keeps handed fun row found same => ?_
    have waiting := due row found
    rw [same] at found ⊢
    refine recorded_update handed.1 found (fun _ => rfl) waiting (fun earlier set => ⟨earlier, set, le_refl _⟩)
      (fun earlier mem => collected_follows handed.1 found waiting mem) (fun id userId at' own => ?_) fun id at' own => ?_
    · cases own
      exact ⟨rfl, rfl⟩
    · cases own
  | sweeping start candidates =>
    cases candidates with
    | nil => exact Service.keeps_ended handed
    | cons candidate rest =>
      unfold proceedParcel
      dsimp only
      split
      · exact Service.keeps_reads handed fun _ _ => trivial
      · rename_i unnotified
        refine write_keeps handed fun row found same => ?_
        obtain ⟨waiting, again⟩ := due (Bool.eq_false_iff.mpr unnotified) row found
        rw [same] at found ⊢
        refine recorded_update handed.1 found (fun _ => rfl) waiting (fun earlier set => ⟨start, rfl, ?_⟩)
          (fun earlier mem => overdue_follows handed.1 found waiting again mem) (fun id userId at' own => ?_)
          fun id at' own => ?_
        · unfold alreadyNotified at again
          rw [set, Option.any_some, decide_eq_false_iff_not] at again
          have day : 0 ≤ dayMs := by decide
          linarith
        · cases own
        · cases own
          exact ⟨rfl, rfl⟩

end

section

variable {initial : ParcelDb} {start finish : World ParcelDb ParcelFlight ParcelNote}
  {early late : List (CallEvent Instant ParcelRequest)}

theorem handed_run {from' : ParcelDb} (holds : Service.Holds (Handed from') (fun _ => True) start)
    (run : Run (Guarded stillDue.At parcelService.Step) start late finish) :
    Service.Holds (Handed from') (fun _ => True) finish :=
  Service.holds_run (fun _ _ _ _ handed _ => begin_keeps handed) (fun _ _ _ _ handed _ due => proceed_keeps handed due) holds run

/-- In runs whose updates find the parcel as due as it was read, a parcel is collected once and stays so. -/
theorem parcels_handed_over (empty : initial.parcels = [])
    (reached : Run (Guarded stillDue.At parcelService.Step) (World.idle initial) early start)
    (run : Run (Guarded stillDue.At parcelService.Step) start late finish) : HandedOver start finish := by
  have recorded : Recorded initial [] := by
    have ids : Allocated (initial.parcels.map Parcel.id) initial.nextId := by
      rw [empty]
      exact Allocated.nil
    exact ⟨ids, (fun _ _ _ none => nomatch none), (fun _ _ none => nomatch none), List.Pairwise.nil⟩
  have first := handed_run (.idle ⟨recorded, StaysCollected.refl⟩) reached
  have second : Service.Holds (Handed start.db) (fun _ => True) finish :=
    handed_run ⟨⟨first.inv.1, StaysCollected.refl⟩, first.sound⟩ run
  exact ⟨second.inv.2, second.inv.1.events⟩

end

namespace Sample

def post : ParcelDb := ⟨1, [⟨1, 1⟩], []⟩

def guard' : AuthenticatedUser := ⟨7, [⟨.securityGuard, some 1, none⟩]⟩

def delivered : ParcelRequest := .create guard' ⟨1, 1, "Owner", none, none, none, none⟩

def handedOut : List (CallEvent Instant ParcelRequest) :=
  [.begin 0 delivered, .begin (4 * dayMs) .detectOverdue, .begin (4 * dayMs) (.collect guard' 1 none), .proceed (4 * dayMs) 1]

def swept : List (CallEvent Instant ParcelRequest) := [.proceed (4 * dayMs + 1) 0]

def collected : World ParcelDb ParcelFlight ParcelNote := (World.idle post).run parcelService handedOut

end Sample

theorem parcel_taken_back : ∃ initial early late start finish, initial.parcels = [] ∧
    Run parcelService.Step (World.idle initial) early start ∧ Run parcelService.Step start late finish ∧
    ¬ HandedOver start finish := by
  have status : Sample.collected.db.parcels.map Parcel.status = [.collected] := by
    decide +kernel
  have later : (Sample.collected.run parcelService Sample.swept).db.parcels.map
      Parcel.status = [.overdue] := by decide +kernel
  refine ⟨Sample.post, _, _, _, _, rfl, Service.run_reached _ _ Sample.handedOut,
    Service.run_reached _ Sample.collected Sample.swept, fun handed => ?_⟩
  obtain ⟨parcel, only, done⟩ := List.map_eq_singleton_iff.mp status
  have member : parcel ∈ Sample.collected.db.parcels := only ▸ List.mem_singleton_self parcel
  obtain ⟨row, listed, -, still, -⟩ := handed.stays parcel member done
  have flagged : row.status ∈ (Sample.collected.run parcelService Sample.swept).db.parcels.map Parcel.status :=
    List.mem_map_of_mem listed
  rw [later, List.mem_singleton, still] at flagged
  cases flagged

theorem parcels_handed_over_once : ∃ start finish, finish.db.parcels.map Parcel.status = [.collected] ∧
    HandedOver start finish := by
  let events : List (CallEvent Instant ParcelRequest) :=
    [.begin 0 Sample.delivered, .begin 5 (.collect Sample.guard' 1 none), .proceed 6 0]
  have status : ((World.idle Sample.post).run parcelService events).db.parcels.map Parcel.status = [.collected] := by
    decide +kernel
  have ready : ((World.idle Sample.post).run parcelService (events.take 2)).db.parcels.map Parcel.status = [.notified] := by
    decide +kernel
  have due : Run.Meets stillDue.At (fun world event => world.next parcelService event) (World.idle Sample.post) events := by
    refine ⟨trivial, trivial, fun flight found => ?_, trivial⟩
    obtain rfl := Option.some.inj found
    intro row listed
    have member : row.status ∈ ((World.idle Sample.post).run parcelService (events.take 2)).db.parcels.map Parcel.status :=
      List.mem_map_of_mem (mem_of_findBy listed).1
    rw [ready, List.mem_singleton] at member
    rw [member]
    exact fun done => nomatch done
  exact ⟨_, _, status, parcels_handed_over rfl .done (Service.guarded_reached due)⟩

end SmartResidence.Parcels
