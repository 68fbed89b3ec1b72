import SmartResidence.Defects.DefectService

/-!
# The history of a defect is a path of its transitions

Both updates trust the status, and `transition` also the times, that were read before the transaction.
-/

namespace SmartResidence.Defects

open Foundation Billing List

structure Move where
  source : DefectStatus
  target : DefectStatus
  time : Instant
  deriving DecidableEq

def DefectUpdate.move? (update : DefectUpdate) : Option Move :=
  match update.statusFrom, update.statusTo with
  | some source, some target => some ⟨source, target, update.createdAt⟩
  | _, _ => none

def DefectDb.moves (db : DefectDb) (id : Id) : List Move :=
  db.updates.filterMap fun update => if update.defectId = id then update.move? else none

inductive LegalPath : List Move → DefectStatus → Prop
  | raised : LegalPath [] .new
  | move {path : List Move} {source target : DefectStatus} {time : Instant} (legal : LegalPath path source)
      (allowed : target ∈ validTransitions source) : LegalPath (path ++ [⟨source, target, time⟩]) target

def lastAt (status : DefectStatus) (path : List Move) : Option Instant :=
  ((path.filter fun move => decide (move.target = status)).getLast?).map Move.time

structure Told (path : List Move) (defect : Defect) : Prop where
  legal : LegalPath path defect.status
  resolvedAt : defect.resolvedAt = lastAt .resolved path
  closedAt : defect.closedAt = lastAt .closed path

def HistoriesLegal (db : DefectDb) : Prop := ∀ defect ∈ db.defects, Told (db.moves defect.id) defect

def AsRead (_ : Instant) (flight : DefectFlight) (db : DefectDb) : Prop :=
  match flight with
  | .commenting _ _ _ _ => True
  | .transitioning _ read dto => ∀ row, db.defect? read.id = some row → row.status = read.status ∧
      (dto.status ≠ .resolved → row.resolvedAt = read.resolvedAt) ∧ (dto.status ≠ .closed → row.closedAt = read.closedAt)
  | .triaging _ _ items dto => ∀ read ∈ items, nextStatus dto read ≠ none →
      ∀ row, db.defect? read.id = some row → row.status = read.status

def asRead : Service.Condition Instant DefectDb DefectRequest DefectFlight := .later AsRead

def Checked : DefectFlight → Prop
  | .commenting _ _ _ _ => True
  | .transitioning _ read dto => canTransitionDefect read.status dto.status
  | .triaging _ _ items _ => (items.map Defect.id).Nodup

structure Chronicle (db : DefectDb) : Prop where
  ids : Allocated (db.defects.map Defect.id) db.nextId
  unheard : ∀ id, db.nextId ≤ id → db.moves id = []
  told : HistoriesLegal db

section

variable {db after : DefectDb} {row read : Defect} {path : List Move} {now : Instant} {user : AuthenticatedUser}

theorem lastAt_concat {status : DefectStatus} {move : Move} :
    lastAt status (path ++ [move]) = if move.target = status then some move.time else lastAt status path := by
  unfold lastAt
  by_cases here : move.target = status
  · simp [here]
  · simp [here]

variable {target : DefectStatus}

theorem Told.move {moved : Defect} (told : Told path row) (allowed : target ∈ validTransitions row.status)
    (status : moved.status = target)
    (resolvedAt : moved.resolvedAt = if target = .resolved then some now else row.resolvedAt)
    (closedAt : moved.closedAt = if target = .closed then some now else row.closedAt) :
    Told (path ++ [⟨row.status, target, now⟩]) moved := by
  refine ⟨?_, ?_, ?_⟩
  · rw [status]
    exact told.legal.move allowed
  · rw [lastAt_concat, resolvedAt, told.resolvedAt]
  · rw [lastAt_concat, closedAt, told.closedAt]

variable {update : DefectUpdate} {id : Id}

theorem moves_insertUpdate : (db.insertUpdate update).moves id =
    db.moves id ++ if update.defectId = id then update.move?.toList else [] := by
  unfold DefectDb.moves DefectDb.insertUpdate
  by_cases here : update.defectId = id
  · cases told : update.move? <;> simp [here, told]
  · simp [here]

theorem allowed_of_canTransition {source : DefectStatus} (can : canTransitionDefect source target) :
    target ∈ validTransitions source := by
  unfold canTransitionDefect at can
  split at can
  · cases can
  · exact of_decide_eq_true can

theorem Chronicle.insert {make : Id → Defect} (chronicle : Chronicle db) (named : ∀ id, (make id).id = id)
    (raised : ∀ id, Told [] (make id)) : Chronicle (db.insertDefect make) := by
  refine ⟨chronicle.ids.insert (named _) (Nat.lt_succ_self _), fun id beyond => ?_, fun defect mem => ?_⟩
  · exact chronicle.unheard id (Nat.le_of_succ_le beyond)
  · show Told (db.moves defect.id) defect
    rcases mem_append.mp mem with old | new
    · exact chronicle.told defect old
    · obtain rfl := mem_singleton.mp new
      rw [named, chronicle.unheard db.nextId (le_refl _)]
      exact raised _

theorem Chronicle.write {change : Defect → Defect} (chronicle : Chronicle db)
    (written : db.writeDefect id change update = .ok after) (own : update.defectId = id)
    (named : ∀ defect, (change defect).id = defect.id)
    (told : ∀ row, db.defect? id = some row → Told (db.moves id) row → Told (db.moves id ++ update.move?.toList) (change row)) :
    Chronicle after := by
  simp only [DefectDb.writeDefect, bind_eq_ok, orThrow_eq_ok, pure_eq_ok] at written
  obtain ⟨row, found, rfl⟩ := written
  obtain ⟨stored, rfl⟩ := mem_of_findBy found
  have other {id : Id} (ne : row.id ≠ id) : ((db.updateDefect row.id change).insertUpdate update).moves id = db.moves id := by
    rw [moves_insertUpdate, own, if_neg ne, append_nil]
    rfl
  refine ⟨chronicle.ids.updateBy (le_refl _) named, fun id beyond => ?_, fun defect mem => ?_⟩
  · have below : row.id < db.nextId := chronicle.ids.below _ (mem_map_of_mem stored)
    rw [other (ne_of_lt (lt_of_lt_of_le below beyond))]
    exact chronicle.unheard id beyond
  · rcases changed_or_kept chronicle.ids.distinct stored mem with rfl | ⟨kept, ne⟩
    · rw [named, moves_insertUpdate, if_pos own]
      exact told row found (chronicle.told row stored)
    · rw [other ne.symm]
      exact chronicle.told defect kept

theorem Chronicle.comment (chronicle : Chronicle db) (silent : update.move? = none) :
    Chronicle (db.insertUpdate update) := by
  have same (id : Id) : (db.insertUpdate update).moves id = db.moves id := by
    rw [moves_insertUpdate, silent, Option.toList_none, ite_self, append_nil]
  refine ⟨chronicle.ids, fun id beyond => ?_, fun defect mem => ?_⟩
  · rw [same]
    exact chronicle.unheard id beyond
  · rw [same]
    exact chronicle.told defect mem

theorem Chronicle.report {reports : List DefectReport} (chronicle : Chronicle db) :
    Chronicle { db with reports := reports, nextId := db.nextId + 1 } :=
  ⟨chronicle.ids.mono (Nat.le_succ _), fun id beyond => chronicle.unheard id (Nat.le_of_succ_le beyond), chronicle.told⟩

variable {unit : DefectUnit} {userId : Id} {reportId : Option Id}

theorem Chronicle.raise {text : DefectText} (chronicle : Chronicle db) :
    Chronicle (db.insertDefect (newDefect unit userId reportId text)) :=
  chronicle.insert (fun _ => rfl) fun _ => ⟨.raised, rfl, rfl⟩

theorem Chronicle.raiseAll (items : List DefectText) (chronicle : Chronicle db) :
    Chronicle (items.foldl (fun db text => db.insertDefect (newDefect unit userId reportId text)) db) := by
  induction items generalizing db with
  | nil => exact chronicle
  | cons text rest ih => exact ih chronicle.raise

theorem Chronicle.transition {dto : TransitionDefectDto} (chronicle : Chronicle db)
    (can : canTransitionDefect read.status dto.status) (fresh : AsRead now (.transitioning user read dto) db)
    (written : db.transition now user read dto = .ok after) : Chronicle after := by
  refine chronicle.write written rfl (fun _ => rfl) fun row found told => ?_
  obtain ⟨status, resolvedAt, closedAt⟩ := fresh row found
  rw [← status] at can ⊢
  refine told.move (allowed_of_canTransition can) rfl ?_ ?_
  · show (if dto.status = .resolved then some now else read.resolvedAt) = _
    split
    · rfl
    · rename_i ne
      exact (resolvedAt ne).symm
  · show (if dto.status = .closed then some now else read.closedAt) = _
    split
    · rfl
    · rename_i ne
      exact (closedAt ne).symm

variable {dto : BulkUpdateReportItemsDto}

theorem Chronicle.triage (chronicle : Chronicle db)
    (fresh : nextStatus dto read ≠ none → ∀ row, db.defect? read.id = some row → row.status = read.status)
    (written : db.triage now user dto read = .ok after) : Chronicle after := by
  unfold DefectDb.triage at written
  dsimp only at written
  split at written
  · cases written
    exact chronicle
  · refine chronicle.write written rfl (fun _ => rfl) fun row found told => ?_
    cases moved : nextStatus dto read with
    | none =>
      unfold Defect.triage
      rw [moved]
      show Told (_ ++ []) _
      rw [append_nil]
      exact ⟨told.legal, told.resolvedAt, told.closedAt⟩
    | some status =>
      have same := fresh (by rw [moved]; exact Option.some_ne_none status) row found
      have can : canTransitionDefect row.status status := by
        obtain ⟨-, may⟩ := Option.filter_eq_some_iff.mp moved
        rw [same]
        exact (Bool.and_eq_true_iff.mp may).2
      unfold Defect.triage
      rw [moved, ← same]
      exact told.move (allowed_of_canTransition can) rfl (by simp) (by simp)

theorem defect?_triage (written : db.triage now user dto read = .ok after) (other : id ≠ read.id) :
    after.defect? id = db.defect? id := by
  unfold DefectDb.triage at written
  dsimp only at written
  split at written
  · cases written
    rfl
  · simp only [DefectDb.writeDefect, bind_eq_ok, pure_eq_ok] at written
    obtain ⟨_, -, rfl⟩ := written
    refine findBy_updateWhere_other (fun _ => rfl) fun row _ picked => ?_
    rw [of_decide_eq_true picked]
    exact other.symm

theorem Chronicle.triageAll {items : List Defect} (chronicle : Chronicle db) (nodup : (items.map Defect.id).Nodup)
    (fresh : ∀ read ∈ items, nextStatus dto read ≠ none → ∀ row, db.defect? read.id = some row → row.status = read.status)
    (written : items.foldlM (DefectDb.triage now user dto) db = .ok after) : Chronicle after := by
  induction items generalizing db with
  | nil =>
    cases written
    exact chronicle
  | cons read rest ih =>
    rw [foldlM_cons, bind_eq_ok] at written
    obtain ⟨next, first, written⟩ := written
    obtain ⟨outside, nodup⟩ := nodup_cons.mp nodup
    refine ih (chronicle.triage (fresh read (mem_cons_self ..)) first) nodup (fun item mem moves row found => ?_) written
    have other : item.id ≠ read.id := fun same => outside (same ▸ mem_map_of_mem mem)
    rw [defect?_triage first other] at found
    exact fresh item (mem_cons_of_mem _ mem) moves row found

end

section

variable {db initial : DefectDb} {notes : List DefectNote} {now : Instant} {flight : DefectFlight} {request : DefectRequest}
  {finish : World DefectDb DefectFlight DefectNote} {events : List (CallEvent Instant DefectRequest)}

theorem begin_keeps (now : Instant) (chronicle : Chronicle db) :
    Service.Keeps (fun db _ => Chronicle db) Checked notes (beginDefect now request db) := by
  cases request with
  | create user unitId text =>
    refine Service.keeps_ofWrite chronicle fun after created => ?_
    simp only [createDefect, bind_eq_ok, pure_eq_ok] at created
    obtain ⟨unit, -, rfl⟩ := created
    exact chronicle.raise
  | createReport user unitId items =>
    refine Service.keeps_ofWrite chronicle fun after created => ?_
    simp only [createReport, bind_eq_ok, throwIf_eq_ok, pure_eq_ok, exists_const] at created
    obtain ⟨-, unit, -, rfl⟩ := created
    exact chronicle.report.raiseAll items
  | addUpdate user id message isInternal => exact Service.keeps_ofRead chronicle fun _ _ => trivial
  | transition user id dto =>
    refine Service.keeps_ofRead chronicle fun read checked => ?_
    simp only [readTransition, assertDefectAccess, bind_eq_ok, throwIf_eq_ok, pure_eq_ok, exists_const] at checked
    obtain ⟨_, -, -, can, rfl⟩ := checked
    exact not_not.mp can
  | bulkUpdateItems user reportId dto =>
    refine Service.keeps_ofRead chronicle fun items checked => ?_
    simp only [readBulk, bind_eq_ok, throwIf_eq_ok, pure_eq_ok, exists_const] at checked
    obtain ⟨_, -, -, -, rfl⟩ := checked
    exact chronicle.ids.distinct.sublist (filter_sublist.map _)

theorem proceed_keeps (chronicle : Chronicle db) (checked : Checked flight) (fresh : AsRead now flight db) :
    Service.Keeps (fun db _ => Chronicle db) Checked notes (proceedDefect now flight db) := by
  cases flight with
  | commenting user read message isInternal => exact ⟨chronicle.comment rfl, fun _ none => nomatch none⟩
  | transitioning user read dto => exact Service.keeps_ofWrite chronicle fun after written => chronicle.transition checked fresh written
  | triaging user reportId items dto => exact Service.keeps_ofWrite chronicle fun after written => chronicle.triageAll checked fresh written

/-- In runs whose transactions find the defects as they were read, every defect has a legal history. -/
theorem histories_legal (raised : initial.defects = []) (silent : initial.updates = [])
    (run : Run (Guarded asRead.At defectService.Step) (World.idle initial) events finish) : HistoriesLegal finish.db := by
  have start : Chronicle initial := by
    refine ⟨?_, fun id _ => ?_, fun defect member => ?_⟩
    · rw [raised]
      exact Allocated.nil
    · unfold DefectDb.moves
      rw [silent]
      rfl
    · rw [raised] at member
      exact nomatch member
  have holds : Service.Holds (fun db _ => Chronicle db) Checked finish :=
    Service.holds_run (fun now _ _ _ chronicle _ => begin_keeps now chronicle)
      (fun _ _ _ _ chronicle checked fresh => proceed_keeps chronicle checked fresh) (.idle start) run
  exact holds.inv.told

end

theorem LegalPath.of_concat {path : List Move} {move : Move} {status : DefectStatus} (legal : LegalPath (path ++ [move]) status) :
    LegalPath path move.source ∧ move.target = status := by
  generalize all : path ++ [move] = whole at legal
  cases legal with
  | raised => exact absurd all (by simp)
  | move legal allowed =>
    obtain ⟨rfl, only⟩ := append_inj' all rfl
    obtain rfl := (List.cons.inj only).1
    exact ⟨legal, rfl⟩

namespace Sample

def site : DefectDb := ⟨1, [⟨1, 1⟩], [], [], []⟩

def manager : AuthenticatedUser := ⟨9, [⟨.managementAdmin, some 1, none⟩]⟩

def leak : DefectRequest := .create manager 1 ⟨"Plumbing", "MEDIUM", "Leak", "A pipe leaks", none⟩

def move (status : DefectStatus) : DefectRequest := .transition manager 1 ⟨status, none, none⟩

def overtaken : List (CallEvent Instant DefectRequest) :=
  [.begin 0 leak, .begin 1 (move .assigned), .begin 1 (move .ack), .proceed 2 0, .proceed 3 0]

def resolved : List (CallEvent Instant DefectRequest) := [.begin 0 leak, .begin 1 (move .resolved), .proceed 2 0]

end Sample

theorem history_forks : ∃ initial events finish, initial.defects = [] ∧ initial.updates = [] ∧
    Run defectService.Step (World.idle initial) events finish ∧ ¬ HistoriesLegal finish.db := by
  refine ⟨Sample.site, _, _, rfl, rfl, Service.run_reached _ _ Sample.overtaken, fun legal => ?_⟩
  have ids : ((World.idle Sample.site).run defectService Sample.overtaken).db.defects.map Defect.id = [1] := by decide +kernel
  have forked : ((World.idle Sample.site).run defectService Sample.overtaken).db.moves 1 =
      [⟨.new, .assigned, 2⟩] ++ [⟨.new, .ack, 3⟩] := by decide +kernel
  obtain ⟨defect, only, own⟩ := List.map_eq_singleton_iff.mp ids
  have told := legal defect (only ▸ List.mem_singleton_self defect)
  rw [own, forked] at told
  obtain ⟨assigned, -⟩ := told.legal.of_concat
  have first : LegalPath ([] ++ [⟨.new, .assigned, 2⟩]) .new := assigned
  obtain ⟨-, target⟩ := first.of_concat
  cases target

theorem history_resolved : ∃ finish : World DefectDb DefectFlight DefectNote, finish.db.defects.map Defect.status = [.resolved] ∧ HistoriesLegal finish.db := by
  have status : ((World.idle Sample.site).run defectService Sample.resolved).db.defects.map Defect.status = [.resolved] := by
    decide +kernel
  have ready : ((World.idle Sample.site).run defectService (Sample.resolved.take 2)).db.defects.map
      (fun defect => (defect.status, defect.closedAt)) = [(.new, none)] := by decide +kernel
  have fresh : Run.Meets asRead.At (fun world event => world.next defectService event) (World.idle Sample.site)
      Sample.resolved := by
    refine ⟨trivial, trivial, fun flight found => ?_, trivial⟩
    obtain rfl := Option.some.inj found
    intro row listed
    have member : (row.status, row.closedAt) ∈ ((World.idle Sample.site).run defectService
        (Sample.resolved.take 2)).db.defects.map (fun defect => (defect.status, defect.closedAt)) :=
      List.mem_map_of_mem (mem_of_findBy listed).1
    rw [ready, List.mem_singleton] at member
    obtain ⟨status, closedAt⟩ := Prod.mk.inj member
    exact ⟨status, fun other => absurd rfl other, fun _ => closedAt⟩
  exact ⟨_, status, histories_legal rfl rfl (Service.guarded_reached fresh)⟩

end SmartResidence.Defects
