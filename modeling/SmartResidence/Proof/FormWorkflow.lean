import SmartResidence.Forms.FormsService
import SmartResidence.Proof.VisitorLifecycle

/-!
# The workflow of a form submission

Every write is an update by id, long after the status was checked.
-/

namespace SmartResidence.Forms

open Foundation Billing Visitors List

def Decided (status : FormSubmissionStatus) : Prop := status = .approved ∨ status = .rejected ∨ status = .cancelled

def approvals (notes : List FormsNote) : List Id :=
  notes.filterMap fun
    | .approved id => some id
    | _ => none

structure Follows (row later : FormSubmission) : Prop where
  decided : Decided row.status →
    later.status = row.status ∧ later.accessCode = row.accessCode ∧ later.qrPayload = row.qrPayload
  answers : row.status ≠ .draft → later.answers = row.answers

structure WorkflowKept (start finish : World FormsDb FormsFlight FormsNote) : Prop where
  follows : ∀ id row, start.db.submission? id = some row → ∃ later, finish.db.submission? id = some later ∧ Follows row later
  codes : ∀ row ∈ finish.db.submissions, row.accessCode ≠ none ∨ row.qrPayload ≠ none → row.status = .approved
  once : (approvals finish.notes).Nodup
  approved : ∀ id ∈ approvals finish.notes, ∃ row, finish.db.submission? id = some row ∧ row.status = .approved

def StillOpen (_ : Instant) (flight : FormsFlight) (db : FormsDb) : Prop :=
  match flight with
  | .saving read _ _ => ∀ row, db.submission? read.id = some row → row.status = .draft
  | .cancelling read => ∀ row, db.submission? read.id = some row → cancellable row.status
  | .allocating _ _ _ _ => True
  | .approving _ read _ | .rejecting _ read _ => ∀ row, db.submission? read.id = some row → row.status = .submitted

def stillOpen : Service.Condition Instant FormsDb FormsRequest FormsFlight := .later StillOpen

def Stays (before after : FormsDb) : Prop :=
  ∀ row ∈ before.submissions, ∃ later ∈ after.submissions, later.id = row.id ∧ (Decided row.status → later = row) ∧
    (row.status ≠ .draft → later.status ≠ .draft ∧ later.answers = row.answers)

structure Recorded (db : FormsDb) (notes : List FormsNote) : Prop where
  ids : Allocated (db.submissions.map FormSubmission.id) db.nextId
  codes : ∀ row ∈ db.submissions, row.accessCode = none ∧ row.qrPayload = none ∨ row.status = .approved
  once : (approvals notes).Nodup
  approved : ∀ id ∈ approvals notes, ∃ row ∈ db.submissions, row.id = id ∧ row.status = .approved

def Followed (start db : FormsDb) (notes : List FormsNote) : Prop := Recorded db notes ∧ Stays start db

section

variable {env : FormsEnv} {start db after : FormsDb} {notes more : List FormsNote} {id : Id}
  {change : FormSubmission → FormSubmission}

theorem Stays.refl : Stays db db := fun row mem => ⟨row, mem, rfl, fun _ => rfl, fun left => ⟨left, rfl⟩⟩

theorem Stays.trans {first middle last : FormsDb} (one : Stays first middle) (two : Stays middle last) : Stays first last := by
  intro row mem
  obtain ⟨next, listed, own, kept, left⟩ := one row mem
  obtain ⟨later, stored, same, still, on⟩ := two next listed
  refine ⟨later, stored, same.trans own, fun decided => ?_, fun submitted => ?_⟩
  · obtain rfl := kept decided
    exact still decided
  · obtain ⟨out, answers⟩ := left submitted
    obtain ⟨outside, answersLater⟩ := on out
    exact ⟨outside, answersLater.trans answers⟩

theorem Followed.insert {make : Id → FormSubmission} (followed : Followed start db notes) (named : ∀ id, (make id).id = id)
    (fresh : ∀ id, (make id).accessCode = none ∧ (make id).qrPayload = none) (silent : approvals more = []) :
    Followed start (db.insertSubmission make) (notes ++ more) := by
  obtain ⟨recorded, stays⟩ := followed
  have same : approvals (notes ++ more) = approvals notes := by
    unfold approvals at silent ⊢
    rw [filterMap_append, silent, append_nil]
  refine ⟨⟨recorded.ids.insert (named _) (Nat.lt_succ_self _), fun row mem => ?_, same ▸ recorded.once, fun id told => ?_⟩,
    stays.trans fun row mem => ⟨row, mem_append_left _ mem, rfl, fun _ => rfl, fun left => ⟨left, rfl⟩⟩⟩
  · rcases mem_append.mp mem with old | new
    · exact recorded.codes row old
    · obtain rfl := mem_singleton.mp new
      exact .inl (fresh _)
  · rw [same] at told
    obtain ⟨row, listed, approved⟩ := recorded.approved id told
    exact ⟨row, mem_append_left _ listed, approved⟩

theorem Followed.write (followed : Followed start db notes) (written : db.writeSubmission id change = .ok after)
    (named : ∀ row, (change row).id = row.id) (waiting : ∀ row, db.submission? id = some row → ¬ Decided row.status)
    (answers : ∀ row, db.submission? id = some row → row.status ≠ .draft →
      (change row).status ≠ .draft ∧ (change row).answers = row.answers)
    (codes : ∀ row, row.accessCode = none ∧ row.qrPayload = none →
      (change row).accessCode = none ∧ (change row).qrPayload = none ∨ (change row).status = .approved)
    (told : approvals more = [] ∨ approvals more = [id] ∧ ∀ row, (change row).status = .approved) :
    Followed start after (notes ++ more) := by
  obtain ⟨recorded, stays⟩ := followed
  simp only [FormsDb.writeSubmission, bind_eq_ok, orThrow_eq_ok, pure_eq_ok] at written
  obtain ⟨row, found, rfl⟩ := written
  have undecided := waiting row found
  obtain ⟨stored, rfl⟩ := mem_of_findBy found
  have own : change row ∈ (db.updateSubmission row.id change).submissions := change_mem_updateBy stored
  have other {row' : FormSubmission} (mem : row' ∈ db.submissions) (ne : row'.id ≠ row.id) :
      row' ∈ (db.updateSubmission row.id change).submissions :=
    mem_updateBy.mpr ⟨row', mem, (if_neg ne).symm⟩
  have before : ∀ id ∈ approvals notes, id ≠ row.id ∧
      ∃ row' ∈ (db.updateSubmission row.id change).submissions, row'.id = id ∧ row'.status = .approved := by
    intro id mem
    obtain ⟨row', listed, same, approved⟩ := recorded.approved id mem
    have ne : row'.id ≠ row.id := by
      intro here
      obtain rfl := eq_of_key_eq recorded.ids.distinct listed stored here
      exact undecided (.inl approved)
    exact ⟨same ▸ ne, row', other listed ne, same, approved⟩
  have all : approvals (notes ++ more) = approvals notes ++ approvals more := filterMap_append
  refine ⟨⟨recorded.ids.updateBy (le_refl _) named, fun new mem => ?_, ?_, ?_⟩, stays.trans fun old mem => ?_⟩
  · rcases changed_or_kept recorded.ids.distinct stored mem with rfl | ⟨kept, _⟩
    · rcases recorded.codes row stored with none | approved
      · exact codes row none
      · exact absurd (.inl approved) undecided
    · exact recorded.codes new kept
  · rw [all]
    rcases told with silent | ⟨only, _⟩
    · rw [silent, append_nil]
      exact recorded.once
    · rw [only, nodup_append]
      refine ⟨recorded.once, nodup_singleton _, fun id mem last here => ?_⟩
      rw [mem_singleton.mp here]
      exact (before id mem).1
  · rw [all]
    intro id mem
    rcases mem_append.mp mem with old | new
    · exact (before id old).2
    · rcases told with silent | ⟨only, approved⟩
      · rw [silent] at new
        cases new
      · rw [only, mem_singleton] at new
        exact ⟨change row, own, (named row).trans new.symm, approved row⟩
  · by_cases here : old.id = row.id
    · obtain rfl := eq_of_key_eq recorded.ids.distinct mem stored here
      exact ⟨change old, own, named old, fun decided => absurd decided undecided, answers old found⟩
    · exact ⟨old, other mem here, rfl, fun _ => rfl, fun left => ⟨left, rfl⟩⟩

variable {now : Instant} {request : FormsRequest} {flight : FormsFlight}

theorem Followed.decide (followed : Followed start db notes) (written : db.writeSubmission id change = .ok after)
    (named : ∀ row, (change row).id = row.id) (waiting : ∀ row, db.submission? id = some row → ¬ Decided row.status)
    (decided : ∀ row, Decided (change row).status) (answers : ∀ row, (change row).answers = row.answers)
    (codes : ∀ row, row.accessCode = none ∧ row.qrPayload = none →
      (change row).accessCode = none ∧ (change row).qrPayload = none ∨ (change row).status = .approved)
    (told : approvals more = [] ∨ approvals more = [id] ∧ ∀ row, (change row).status = .approved) :
    Followed start after (notes ++ more) := by
  refine followed.write written named waiting (fun row _ _ => ⟨fun draft => ?_, answers row⟩) codes told
  have settled := decided row
  rw [draft] at settled
  rcases settled with no | no | no <;> cases no

variable {status : FormSubmissionStatus}

theorem not_decided_of_submitted (submitted : status = .submitted) : ¬ Decided status := by
  rw [submitted]
  rintro (no | no | no) <;> cases no

theorem not_decided_of_cancellable (cancellable : cancellable status) : ¬ Decided status := by
  intro decided
  rcases of_decide_eq_true cancellable with rfl | rfl <;> rcases decided with no | no | no <;> cases no

theorem begin_keeps (followed : Followed start db notes) :
    Service.Keeps (Followed start) (fun _ => True) notes (beginForms now request db) := by
  cases request with
  | createSubmission actor dto =>
    refine Service.keeps_ofWrite followed fun after created => ?_
    simp only [createSubmission, bind_eq_ok, pure_eq_ok] at created
    obtain ⟨template, -, -, -, -, -, -, -, -, -, rfl⟩ := created
    refine followed.insert (fun _ => rfl) (fun _ => ⟨rfl, rfl⟩) ?_
    cases dto.submit <;> rfl
  | updateSubmission actor id dto => exact Service.keeps_ofRead followed fun _ _ => trivial
  | cancelSubmission actor id => exact Service.keeps_ofRead followed fun _ _ => trivial
  | approveSubmission actor id draws => exact Service.keeps_ofRead followed fun _ _ => trivial
  | rejectSubmission actor id note => exact Service.keeps_ofRead followed fun _ _ => trivial

theorem proceed_keeps (followed : Followed start db notes) (waiting : StillOpen now flight db) :
    Service.Keeps (Followed start) (fun _ => True) notes (proceedForms env now flight db) := by
  cases flight with
  | saving read answers submit =>
    refine Service.keeps_ofWrite followed fun after written => ?_
    refine followed.write written (fun _ => rfl) (fun row found decided => ?_) (fun row found left => ?_) (fun row none => .inl none)
      (.inl ?_)
    · rw [waiting row found] at decided
      rcases decided with no | no | no <;> cases no
    · exact absurd (waiting row found) left
    · cases submit <;> rfl
  | cancelling read =>
    refine Service.keeps_ofWrite followed fun after written => ?_
    exact followed.decide written (fun _ => rfl) (fun row found => not_decided_of_cancellable (waiting row found))
      (fun _ => .inr (.inr rfl)) (fun _ => rfl) (fun _ none => .inl none) (.inl rfl)
  | allocating actor read draws attempt =>
    unfold proceedForms
    dsimp only
    split
    · exact Service.keeps_reads followed fun _ _ => trivial
    · split
      · exact Service.keeps_reads followed fun _ _ => trivial
      · exact Service.keeps_ended followed
  | approving actor read permit =>
    refine Service.keeps_ofWrite followed fun after written => ?_
    simp only [FormsDb.approve, bind_eq_ok, throwIf_eq_ok, exists_const] at written
    exact followed.decide written.2 (fun _ => rfl) (fun row found => not_decided_of_submitted (waiting row found))
      (fun _ => .inl rfl) (fun _ => rfl) (fun _ _ => .inr rfl) (.inr ⟨rfl, fun _ => rfl⟩)
  | rejecting actor read note =>
    refine Service.keeps_ofWrite followed fun after written => ?_
    exact followed.decide written (fun _ => rfl) (fun row found => not_decided_of_submitted (waiting row found))
      (fun _ => .inr (.inl rfl)) (fun _ => rfl) (fun _ none => .inl none) (.inl rfl)

end

section

variable {env : FormsEnv} {initial : FormsDb} {start finish : World FormsDb FormsFlight FormsNote}
  {early late : List (CallEvent Instant FormsRequest)}

theorem followed_run {from' : FormsDb} (holds : Service.Holds (Followed from') (fun _ => True) start)
    (run : Run (Guarded stillOpen.At (formsService env).Step) start late finish) :
    Service.Holds (Followed from') (fun _ => True) finish :=
  Service.holds_run (fun _ _ _ _ followed _ => begin_keeps followed) (fun _ _ _ _ followed _ waiting => proceed_keeps followed waiting)
    holds run

/-- In runs whose writes find the submission as undecided as it was read, the workflow is kept. -/
theorem workflow_kept (empty : initial.submissions = [])
    (reached : Run (Guarded stillOpen.At (formsService env).Step) (World.idle initial) early start)
    (run : Run (Guarded stillOpen.At (formsService env).Step) start late finish) : WorkflowKept start finish := by
  have recorded : Recorded initial [] := by
    refine ⟨?_, fun row member => ?_, List.nodup_nil, fun _ none => nomatch none⟩
    · rw [empty]
      exact Allocated.nil
    · rw [empty] at member
      exact nomatch member
  have first := followed_run (.idle ⟨recorded, Stays.refl⟩) reached
  have second : Service.Holds (Followed start.db) (fun _ => True) finish :=
    followed_run ⟨⟨first.inv.1, Stays.refl⟩, first.sound⟩ run
  obtain ⟨last, stays⟩ := second.inv
  refine ⟨fun id row found => ?_, fun row member permit => ?_, last.once, fun id told => ?_⟩
  · obtain ⟨stored, rfl⟩ := mem_of_findBy found
    obtain ⟨later, listed, same, kept, left⟩ := stays row stored
    refine ⟨later, same ▸ findBy_of_mem last.ids.distinct listed, fun decided => ?_, fun submitted => (left submitted).2⟩
    obtain rfl := kept decided
    exact ⟨rfl, rfl, rfl⟩
  · rcases last.codes row member with ⟨code, payload⟩ | approved
    · exact (permit.elim (absurd code) (absurd payload))
    · exact approved
  · obtain ⟨row, listed, rfl, approved⟩ := last.approved id told
    exact ⟨row, findBy_of_mem last.ids.distinct listed, approved⟩

end

namespace Sample

def env : FormsEnv := { Visitors.Sample.env with legacyDate := fun _ => none }

def template : FormTemplate := ⟨1, 1, .custom, "Request", [⟨"workScope", "textarea", "Scope", true, none⟩], true, 0⟩

def office : FormsDb := ⟨10, [⟨1, 1, "A-1"⟩], [⟨5, "Owner"⟩], [template], [], []⟩

def owner : AuthenticatedUser := ⟨5, [⟨.unitOwner, some 1, some 1⟩]⟩

def manager : AuthenticatedUser := ⟨9, [⟨.managementAdmin, some 1, none⟩]⟩

def asked : FormsRequest := .createSubmission owner ⟨1, 1, some [("workScope", .string "Tiles")], true⟩

def withdrawn : List (CallEvent Instant FormsRequest) :=
  [.begin 0 asked, .begin 1 (.approveSubmission manager 10 fun _ => ""), .begin 2 (.cancelSubmission owner 10), .proceed 2 1]

def approved : List (CallEvent Instant FormsRequest) := [.proceed 3 0]

def accepted : List (CallEvent Instant FormsRequest) :=
  [.begin 0 asked, .begin 1 (.approveSubmission manager 10 fun _ => ""), .proceed 2 0]

end Sample

def FormsDb.states (db : FormsDb) : List (Id × FormSubmissionStatus) := db.submissions.map fun row => (row.id, row.status)

theorem state_of_found {db : FormsDb} {id : Id} {row : FormSubmission} (found : db.submission? id = some row) :
    (id, row.status) ∈ db.states := by
  obtain ⟨stored, rfl⟩ := mem_of_findBy found
  exact mem_map_of_mem (f := fun row : FormSubmission => (row.id, row.status)) stored

theorem cancelled_approved : ∃ env initial early late start finish, initial.submissions = [] ∧
    Run (formsService env).Step (World.idle initial) early start ∧ Run (formsService env).Step start late finish ∧
    ¬ WorkflowKept start finish := by
  let service := formsService Sample.env
  let start := (World.idle Sample.office).run service Sample.withdrawn
  have cancelled : start.db.states = [(10, .cancelled)] := by decide +kernel
  have later : (start.run service Sample.approved).db.states = [(10, .approved)] := by decide +kernel
  refine ⟨Sample.env, Sample.office, _, _, _, _, rfl, Service.run_reached service _ Sample.withdrawn,
    Service.run_reached service start Sample.approved, fun kept => ?_⟩
  obtain ⟨row, only, state⟩ := List.map_eq_singleton_iff.mp cancelled
  obtain ⟨id, status⟩ := Prod.mk.inj state
  have found : start.db.submission? 10 = some row := by
    unfold FormsDb.submission? findBy
    rw [only]
    exact List.find?_cons_of_pos (by simp [id])
  obtain ⟨row', found', follows⟩ := kept.follows 10 row found
  have same := (follows.decided (.inr (.inr status))).1
  have listed := state_of_found found'
  rw [later, same, status] at listed
  cases List.mem_singleton.mp listed

theorem accepted_once : ∃ start finish, finish.db.states = [(10, .approved)] ∧ approvals finish.notes = [10] ∧
    WorkflowKept start finish := by
  let service := formsService Sample.env
  let finish := (World.idle Sample.office).run service Sample.accepted
  have state : finish.db.states = [(10, .approved)] := by decide +kernel
  have told : approvals finish.notes = [10] := by decide +kernel
  have ready : ((World.idle Sample.office).run service (Sample.accepted.take 2)).db.states = [(10, .submitted)] := by
    decide +kernel
  have waiting : Run.Meets stillOpen.At (fun world event => world.next service event) (World.idle Sample.office) Sample.accepted := by
    refine ⟨trivial, trivial, fun flight found => ?_, trivial⟩
    obtain rfl := Option.some.inj found
    intro row listed
    have member : (_, row.status) ∈ ((World.idle Sample.office).run service (Sample.accepted.take 2)).db.states :=
      state_of_found listed
    rw [ready, List.mem_singleton] at member
    exact (Prod.mk.inj member).2
  exact ⟨_, finish, state, told, workflow_kept rfl .done (Service.guarded_reached waiting)⟩

end SmartResidence.Forms
