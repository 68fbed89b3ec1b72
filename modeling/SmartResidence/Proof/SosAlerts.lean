import SmartResidence.Safety.SosService

/-!
# An alert is closed once

The updates go by the id of the alert alone.
-/

namespace SmartResidence.Safety

open Foundation Billing List

abbrev SosWorld : Type := World SosDb SosFlight SosNote

def SosStatus.closed (status : SosStatus) : Prop := status = .resolved ∨ status = .cancelled

def SosNote.answer : SosNote → Option (Id × SosStatus)
  | .raised _ _ => none
  | .acknowledged id _ => some (id, .acknowledged)
  | .resolved id _ => some (id, .resolved)
  | .cancelled id _ _ => some (id, .cancelled)

structure ClosesOnce (start finish : SosWorld) : Prop where
  final : ∀ alert ∈ start.db.alerts, alert.status.closed → ∃ row ∈ finish.db.alerts, row.id = alert.id ∧ row.status = alert.status
  once : (finish.notes.filterMap SosNote.answer).Nodup
  notBoth : ∀ alert ∈ finish.db.alerts, alert.resolvedAt = none ∨ alert.cancelledAt = none
  listed : ∀ actor condoId listing, listForCondo actor condoId finish.db = .ok listing →
    ∀ alert ∈ finish.db.alerts, alert.condoId = condoId → ¬ alert.status.closed → alert ∈ listing.active

def StillOpen (_ : Instant) (flight : SosFlight) (db : SosDb) : Prop :=
  match flight with
  | .acknowledging _ alert => ∀ row, db.alert? alert.id = some row → row.status = .active
  | .resolving _ alert _ => ∀ row, db.alert? alert.id = some row → row.status ∈ openStatuses
  | .cancelling _ alert => ∀ row, db.alert? alert.id = some row → row.status ∈ openStatuses

def stillOpen : Service.Condition Instant SosDb SosRequest SosFlight := .later StillOpen

/-! ## The dates of an alert -/

def SosAlert.answeredAt (alert : SosAlert) : SosStatus → Option Instant
  | .active => none
  | .acknowledged => alert.acknowledgedAt
  | .resolved => alert.resolvedAt
  | .cancelled => alert.cancelledAt

structure SosAlert.Dated (alert : SosAlert) : Prop where
  acknowledged : alert.acknowledgedAt ≠ none → alert.status ≠ .active
  resolved : alert.resolvedAt ≠ none → alert.status = .resolved
  cancelled : alert.cancelledAt ≠ none → alert.status = .cancelled

def SosStatus.admits (status : SosStatus) : SosStatus → Prop
  | .active => False
  | .acknowledged => status = .active
  | .resolved => status ∈ openStatuses
  | .cancelled => status ∈ openStatuses

structure Coherent (db : SosDb) : Prop where
  ids : Allocated (db.alerts.map SosAlert.id) db.nextId
  dated : ∀ alert ∈ db.alerts, alert.Dated

structure Recorded (db : SosDb) (notes : List SosNote) : Prop extends Coherent db where
  answered : ∀ id answer, (id, answer) ∈ notes.filterMap SosNote.answer →
    ∃ alert ∈ db.alerts, alert.id = id ∧ alert.answeredAt answer ≠ none
  once : (notes.filterMap SosNote.answer).Nodup

def StaysClosed (before after : SosDb) : Prop := ∀ alert ∈ before.alerts, alert.status.closed → alert ∈ after.alerts

section

variable {alert : SosAlert} {answer : SosStatus}

variable {status : SosStatus}

theorem open_iff : status ∈ openStatuses ↔ ¬ status.closed := by
  cases status <;> simp [openStatuses, SosStatus.closed]

theorem SosAlert.Dated.unanswered (dated : alert.Dated) (admits : alert.status.admits answer) : alert.answeredAt answer = none := by
  by_contra given
  cases answer with
  | active => exact admits
  | acknowledged => exact dated.acknowledged given admits
  | resolved =>
    have status := dated.resolved given
    rw [status] at admits
    exact open_iff.mp admits (.inl rfl)
  | cancelled =>
    have status := dated.cancelled given
    rw [status] at admits
    exact open_iff.mp admits (.inr rfl)

theorem open_of_admits (admits : status.admits answer) : ¬ status.closed := by
  cases answer with
  | active => exact admits.elim
  | acknowledged =>
    rintro (done | done) <;> exact absurd (admits.symm.trans done) (by decide)
  | resolved => exact open_iff.mp admits
  | cancelled => exact open_iff.mp admits

structure Answers (answer : SosStatus) (before after : SosAlert) : Prop where
  id : after.id = before.id
  dated : after.Dated
  given : after.answeredAt answer ≠ none
  kept : ∀ other, before.answeredAt other ≠ none → after.answeredAt other ≠ none

variable {now : Instant} {actorId : Id}

theorem answers_acknowledge (dated : alert.Dated) (admits : alert.status.admits .acknowledged) :
    Answers .acknowledged alert (alert.acknowledge now actorId) := by
  have active : alert.status = .active := admits
  have open' : alert.status ∈ openStatuses := by
    rw [active]
    exact mem_cons_self
  have unresolved : alert.answeredAt .resolved = none := dated.unanswered open'
  have uncancelled : alert.answeredAt .cancelled = none := dated.unanswered open'
  refine ⟨rfl, ⟨?_, fun given => absurd unresolved given, fun given => absurd uncancelled given⟩, ?_, fun other given => ?_⟩
  · exact fun _ same => nomatch same
  · exact fun none => nomatch none
  · cases other with
    | acknowledged => exact fun none => nomatch none
    | _ => exact given

theorem answers_resolve {resolutionNote : Option String} (dated : alert.Dated) (admits : alert.status.admits .resolved) :
    Answers .resolved alert (alert.resolve now actorId resolutionNote) := by
  have uncancelled : alert.answeredAt .cancelled = none := dated.unanswered admits
  refine ⟨rfl, ⟨?_, fun _ => rfl, fun given => absurd uncancelled given⟩, ?_, fun other given => ?_⟩
  · exact fun _ same => nomatch same
  · exact fun none => nomatch none
  · cases other with
    | resolved => exact fun none => nomatch none
    | _ => exact given

theorem answers_cancel (dated : alert.Dated) (admits : alert.status.admits .cancelled) :
    Answers .cancelled alert (alert.cancel now) := by
  have unresolved : alert.answeredAt .resolved = none := dated.unanswered admits
  refine ⟨rfl, ⟨?_, fun given => absurd unresolved given, fun _ => rfl⟩, ?_, fun other given => ?_⟩
  · exact fun _ same => nomatch same
  · exact fun none => nomatch none
  · cases other with
    | cancelled => exact fun none => nomatch none
    | _ => exact given

theorem dated_raised {dto : RaiseSosDto} {id : Id} : (dto.row now actorId id).Dated :=
  ⟨fun given => absurd rfl given, fun given => absurd rfl given, fun given => absurd rfl given⟩

end

/-! ## The steps -/

section

variable {db after start : SosDb} {notes : List SosNote} {now : Instant} {note : SosNote} {answer : SosStatus}

theorem StaysClosed.trans {first middle last : SosDb} (one : StaysClosed first middle) (two : StaysClosed middle last) :
    StaysClosed first last :=
  fun alert mem done => two alert (one alert mem done) done

def Kept (start db : SosDb) (notes : List SosNote) : Prop := Recorded db notes ∧ StaysClosed start db

theorem raise_kept {actor : AuthenticatedUser} {dto : RaiseSosDto} (kept : Kept start db notes)
    (raised : raise now actor dto db = .ok after) : Kept start after (notes ++ [.raised db.nextId actor.id]) := by
  obtain ⟨recorded, closed⟩ := kept
  have written : after = { db with alerts := db.alerts ++ [dto.row now actor.id db.nextId], nextId := db.nextId + 1 } := by
    unfold raise at raised
    cases unit : dto.unitId with
    | none =>
      simp only [unit, bind_eq_ok] at raised
      obtain ⟨_, -, _, -, rfl⟩ := raised
      rfl
    | some unitId =>
      simp only [unit, bind_eq_ok, pure_eq_ok] at raised
      obtain ⟨_, -, _, -, rfl⟩ := raised
      rfl
  subst written
  have events : (notes ++ [SosNote.raised db.nextId actor.id]).filterMap SosNote.answer = notes.filterMap SosNote.answer := by
    simp [SosNote.answer]
  refine ⟨⟨⟨recorded.ids.insert rfl (Nat.lt_succ_self _), fun alert mem => ?_⟩, fun id answer given => ?_, ?_⟩, ?_⟩
  · rcases mem_append.mp mem with old | new
    · exact recorded.dated alert old
    · obtain rfl := mem_singleton.mp new
      exact dated_raised
  · rw [events] at given
    obtain ⟨alert, listed, own, set⟩ := recorded.answered id answer given
    exact ⟨alert, mem_append_left _ listed, own, set⟩
  · rw [events]
    exact recorded.once
  · exact closed.trans fun alert mem _ => mem_append_left _ mem

theorem write_kept {id : Id} {change : SosAlert → SosAlert} (kept : Kept start db notes) (told : note.answer = some (id, answer))
    (admits : ∀ row, db.alert? id = some row → row.status.admits answer)
    (answers : ∀ row : SosAlert, row.Dated → row.status.admits answer → Answers answer row (change row))
    (named : ∀ row, (change row).id = row.id) (written : db.write id change = .ok after) : Kept start after (notes ++ [note]) := by
  obtain ⟨recorded, closed⟩ := kept
  simp only [SosDb.write, bind_eq_ok, orThrow_eq_ok, pure_eq_ok] at written
  obtain ⟨row, found, rfl⟩ := written
  obtain ⟨stored, rfl⟩ := mem_of_findBy found
  have answered := answers row (recorded.dated row stored) (admits row found)
  have events : (notes ++ [note]).filterMap SosNote.answer = notes.filterMap SosNote.answer ++ [(row.id, answer)] := by
    simp [told]
  have other {alert : SosAlert} (mem : alert ∈ db.alerts) (ne : alert.id ≠ row.id) :
      alert ∈ updateBy SosAlert.id row.id change db.alerts := mem_updateBy.mpr ⟨alert, mem, (if_neg ne).symm⟩
  refine ⟨⟨⟨recorded.ids.updateBy (le_refl _) named, fun alert mem => ?_⟩, fun id answer given => ?_, ?_⟩, ?_⟩
  · rcases changed_or_kept recorded.ids.distinct stored mem with rfl | ⟨old, -⟩
    · exact answered.dated
    · exact recorded.dated alert old
  · rw [events] at given
    rcases mem_append.mp given with old | new
    · obtain ⟨alert, listed, own, set⟩ := recorded.answered id answer old
      by_cases same : alert.id = row.id
      · obtain rfl := eq_of_key_eq recorded.ids.distinct listed stored same
        exact ⟨change alert, change_mem_updateBy stored, (named alert).trans own, answered.kept answer set⟩
      · exact ⟨alert, other listed same, own, set⟩
    · cases mem_singleton.mp new
      exact ⟨change row, change_mem_updateBy stored, named row, answered.given⟩
  · rw [events, nodup_append]
    refine ⟨recorded.once, nodup_singleton _, fun earlier mem last only same => ?_⟩
    obtain rfl := mem_singleton.mp only
    obtain ⟨alert, listed, own, set⟩ := recorded.answered row.id answer (same ▸ mem)
    obtain rfl := eq_of_key_eq recorded.ids.distinct listed stored own
    exact set ((recorded.dated alert stored).unanswered (admits alert found))
  · refine closed.trans fun alert mem done => other mem fun same => ?_
    obtain rfl := eq_of_key_eq recorded.ids.distinct mem stored same
    exact open_of_admits (admits alert found) done

theorem begin_kept {request : SosRequest} (kept : Kept start db notes) :
    Service.Keeps (Kept start) (fun _ => True) notes (beginSos now request db) := by
  cases request with
  | raise actor dto => exact Service.keeps_ofWrite kept fun after raised => raise_kept kept raised
  | acknowledge actor id => exact Service.keeps_ofRead kept fun _ _ => trivial
  | resolve actor id resolutionNote => exact Service.keeps_ofRead kept fun _ _ => trivial
  | cancel actor id => exact Service.keeps_ofRead kept fun _ _ => trivial

theorem proceed_kept {flight : SosFlight} (kept : Kept start db notes) (still : StillOpen now flight db) :
    Service.Keeps (Kept start) (fun _ => True) notes (proceedSos now flight db) := by
  cases flight with
  | acknowledging actor alert =>
    exact Service.keeps_ofWrite kept fun after written =>
      write_kept kept rfl still (fun _ dated admits => answers_acknowledge dated admits) (fun _ => rfl) written
  | resolving actor alert resolutionNote =>
    exact Service.keeps_ofWrite kept fun after written =>
      write_kept kept rfl still (fun _ dated admits => answers_resolve dated admits) (fun _ => rfl) written
  | cancelling actor alert =>
    exact Service.keeps_ofWrite kept fun after written =>
      write_kept kept rfl still (fun _ dated admits => answers_cancel dated admits) (fun _ => rfl) written

end

theorem listed_active {actor : AuthenticatedUser} {condoId : Id} {db : SosDb} {listing : SosListing}
    (lists : listForCondo actor condoId db = .ok listing) {alert : SosAlert} (mem : alert ∈ db.alerts)
    (own : alert.condoId = condoId) (waiting : ¬ alert.status.closed) : alert ∈ listing.active := by
  simp only [listForCondo, bind_eq_ok, pure_eq_ok] at lists
  obtain ⟨_, -, rfl⟩ := lists
  have pick := open_iff.mpr waiting
  simp [mem, own, pick]

section

variable {initial : SosDb} {start finish : SosWorld} {early late : List (CallEvent Instant SosRequest)}

theorem kept_run {origin : SosDb} (holds : Service.Holds (Kept origin) (fun _ => True) start)
    (run : Run (Guarded stillOpen.At sosService.Step) start late finish) : Service.Holds (Kept origin) (fun _ => True) finish :=
  Service.holds_run (fun _ _ _ _ kept _ => begin_kept kept) (fun _ _ _ _ kept _ still => proceed_kept kept still) holds run

/-- In runs whose updates find the alert as open as it was read, alerts close once. -/
theorem alerts_close_once (coherent : Coherent initial)
    (reached : Run (Guarded stillOpen.At sosService.Step) (World.idle initial) early start)
    (run : Run (Guarded stillOpen.At sosService.Step) start late finish) : ClosesOnce start finish := by
  have recorded : Recorded initial [] := ⟨coherent, (fun _ _ none => nomatch none), List.nodup_nil⟩
  have first := kept_run (.idle ⟨recorded, fun _ member _ => member⟩) reached
  have second : Service.Holds (Kept start.db) (fun _ => True) finish :=
    kept_run ⟨⟨first.inv.1, fun _ member _ => member⟩, first.sound⟩ run
  obtain ⟨recorded, closed⟩ := second.inv
  refine ⟨fun alert member done => ⟨alert, closed alert member done, rfl, rfl⟩, recorded.once, fun alert member => ?_,
    fun _ _ _ lists _ member own waiting => listed_active lists member own waiting⟩
  by_contra both
  obtain ⟨resolved, cancelled⟩ := not_or.mp both
  have dated := recorded.dated alert member
  exact absurd ((dated.resolved resolved).symm.trans (dated.cancelled cancelled)) (by decide)

end

namespace Sample

def quiet : SosDb := ⟨1, [], [], []⟩

def guard' : AuthenticatedUser := ⟨7, [⟨.securityGuard, some 1, none⟩]⟩

def resident : AuthenticatedUser := ⟨2, [⟨.tenant, some 1, some 1⟩]⟩

def answered : List (CallEvent Instant SosRequest) :=
  [.begin 0 (.raise resident ⟨1, none, none, none⟩), .begin 1 (.acknowledge guard' 1), .begin 2 (.resolve guard' 1 none), .proceed 3 1]

def reopened : List (CallEvent Instant SosRequest) := [.proceed 4 0]

def handled : List (CallEvent Instant SosRequest) :=
  [.begin 0 (.raise resident ⟨1, none, none, none⟩), .begin 1 (.acknowledge guard' 1), .proceed 2 0]

def closed : SosWorld := (World.idle quiet).run sosService answered

theorem quiet_coherent : Coherent quiet := ⟨Allocated.nil, fun _ none => nomatch none⟩

end Sample

theorem alert_reopened : ∃ initial early late start finish, Coherent initial ∧
    Run sosService.Step (World.idle initial) early start ∧ Run sosService.Step start late finish ∧ ¬ ClosesOnce start finish := by
  have status : Sample.closed.db.alerts.map SosAlert.status = [.resolved] := by decide +kernel
  have later : (Sample.closed.run sosService Sample.reopened).db.alerts.map SosAlert.status = [.acknowledged] := by decide +kernel
  refine ⟨Sample.quiet, _, _, _, _, Sample.quiet_coherent, Service.run_reached _ _ Sample.answered,
    Service.run_reached _ Sample.closed Sample.reopened, fun closes => ?_⟩
  obtain ⟨alert, only, done⟩ := List.map_eq_singleton_iff.mp status
  have member : alert ∈ Sample.closed.db.alerts := only ▸ List.mem_singleton_self alert
  obtain ⟨row, listed, -, same⟩ := closes.final alert member (.inl done)
  have flagged : row.status ∈ (Sample.closed.run sosService Sample.reopened).db.alerts.map SosAlert.status :=
    List.mem_map_of_mem listed
  rw [later, List.mem_singleton, same, done] at flagged
  cases flagged

theorem alert_acknowledged : ∃ start finish : SosWorld, finish.db.alerts.map SosAlert.status = [.acknowledged] ∧
    ClosesOnce start finish := by
  have status : ((World.idle Sample.quiet).run sosService Sample.handled).db.alerts.map SosAlert.status = [.acknowledged] := by
    decide +kernel
  have still : Run.Meets stillOpen.At (fun world event => world.next sosService event) (World.idle Sample.quiet) Sample.handled := by
    refine ⟨trivial, trivial, fun flight found => ?_, trivial⟩
    obtain rfl := Option.some.inj found
    intro row listed
    cases listed
    rfl
  exact ⟨_, _, status, alerts_close_once Sample.quiet_coherent .done (Service.guarded_reached still)⟩

end SmartResidence.Safety
