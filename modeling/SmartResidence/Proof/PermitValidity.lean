import SmartResidence.Proof.FormWorkflow
import SmartResidence.Proof.PassIdentity

/-!
# The days and the passes of a gate permit

The window of a permit runs from midnight UTC to the end of a day of the server, and a date that cannot be read leaves it open.
-/

namespace SmartResidence.Forms

open Foundation Billing Visitors

def permits : PassTable FormSubmission :=
  ⟨FormSubmission.id, FormSubmission.condoId, FormSubmission.accessCode, FormSubmission.qrPayload, fun _ => none⟩

def answeredDay (answers : Body) (key : String) : Option ℤ :=
  match field answers key with
  | some (.string text) => isoDay (trim text.toList)
  | _ => none

def InAnsweredDays (condo : LocalCalendar) (answers : Body) (now : Instant) : Prop :=
  ∃ first last, answeredDay answers "startDate" = some first ∧ answeredDay answers "endDate" = some last ∧
    first ≤ condo.day now ∧ condo.day now ≤ last

def PermitsSafe (env : VisitorEnv) (condo : LocalCalendar) (db : FormsDb) (actor : GateUser) (pass : String) : Prop :=
  ∀ now shown, verifyPermit env now actor pass db = .ok shown → shown.valid = true →
    ∃ row ∈ db.submissions, row.id = shown.id ∧ InAnsweredDays condo row.answers now ∧
      permits.Owns env shown.condoId (normalizePassInput pass) row

structure Presentable (db : FormsDb) (actor : GateUser) (row : FormSubmission) : Prop where
  active : actor.activeCondoId = some row.condoId
  access : isGuard actor.toAuthenticatedUser row.condoId ∨ isManagement actor.toAuthenticatedUser row.condoId
  template : ∃ template, db.template? row.templateId = some template ∧ isPermitFormKind template.kind
  texts : ∃ contractor scope, stringAnswer row.answers "contractorCompany" = .ok contractor ∧
    stringAnswer row.answers "workScope" = .ok scope
  approved : row.status = .approved

def LeadsTo (env : VisitorEnv) (db : FormsDb) (normalized : String) (row : FormSubmission) : Prop :=
  permits.NamedById env normalized row ∨ permits.MissedById env db.submissions normalized ∧
    (permits.NamedByPayload env normalized row ∨ permits.MissedByPayload env db.submissions normalized ∧
      (row.qrPayload = some normalized ∨
        (∀ other ∈ db.submissions, other.qrPayload ≠ some normalized) ∧ row.accessCode = some normalized))

def Opens (row : FormSubmission) : Prop :=
  ∀ from' until', row.permitValidFrom = some from' → row.permitValidUntil = some until' → from' ≤ until'

def WindowInDays (condo : LocalCalendar) (row : FormSubmission) : Prop :=
  ∃ first last from' until', answeredDay row.answers "startDate" = some first ∧ answeredDay row.answers "endDate" = some last ∧
    row.permitValidFrom = some from' ∧ row.permitValidUntil = some until' ∧
    condo.hour first 0 ≤ from' ∧ until' < condo.hour (last + 1) 0

structure PermitBound (env : VisitorEnv) (condo : LocalCalendar) (db : FormsDb) (normalized : String) (row : FormSubmission) :
    Prop where
  days : LeadsTo env db normalized row → WindowInDays condo row
  payload : permits.MissedById env db.submissions normalized → permits.NamedByPayload env normalized row →
    permits.Identifies env normalized row

def Covers (row : FormSubmission) (now : Instant) : Prop :=
  (∀ from', row.permitValidFrom = some from' → from' ≤ now) ∧ ∀ until', row.permitValidUntil = some until' → now ≤ until'

section

variable {env : VisitorEnv} {now : Instant} {db : FormsDb} {actor : GateUser} {pass normalized : String} {row : FormSubmission}
  {condoId : Id} {condo : LocalCalendar}

theorem permitMessage_none : permitMessage now row = none ↔ row.status = .approved ∧ Covers row now := by
  have early : (row.permitValidFrom.any fun from' => decide (now < from')) = true ↔
      ∃ from', row.permitValidFrom = some from' ∧ now < from' := by
    rw [Option.any_eq_true]
    simp
  have late : (row.permitValidUntil.any fun until' => decide (until' < now)) = true ↔
      ∃ until', row.permitValidUntil = some until' ∧ until' < now := by
    rw [Option.any_eq_true]
    simp
  unfold permitMessage
  split
  · rename_i other
    exact ⟨fun some => (nomatch some), fun both => absurd both.1 other⟩
  · rename_i approved
    split
    · rename_i soon
      obtain ⟨from', set, before⟩ := early.mp soon
      exact ⟨fun some => (nomatch some), fun both => absurd (both.2.1 from' set) (not_le.mpr before)⟩
    · rename_i begun
      split
      · rename_i gone
        obtain ⟨until', set, after⟩ := late.mp gone
        exact ⟨fun some => (nomatch some), fun both => absurd (both.2.2 until' set) (not_le.mpr after)⟩
      · rename_i lasts
        refine ⟨fun _ => ⟨not_not.mp approved, fun from' set => ?_, fun until' set => ?_⟩, fun _ => rfl⟩
        · exact not_lt.mp fun before => begun (early.mpr ⟨from', set, before⟩)
        · exact not_lt.mp fun after => lasts (late.mpr ⟨until', set, after⟩)

theorem lookupPermit_chain : lookupPermit env db condoId normalized =
    chain (findById env FormSubmission.id db.submissions normalized)
      (findByPayload env FormSubmission.id FormSubmission.condoId db.submissions normalized)
      (permitByStored db condoId normalized) := by
  unfold lookupPermit
  cases findById env FormSubmission.id db.submissions normalized with
  | error failure => rfl
  | ok found =>
    cases found with
    | some row => rfl
    | none =>
      cases findByPayload env FormSubmission.id FormSubmission.condoId db.submissions normalized with
      | error failure => rfl
      | ok found => cases found <;> rfl

theorem lookupPermit_some (unique : permits.Unique db.submissions) :
    lookupPermit env db condoId normalized = .ok (some row) ↔ row ∈ db.submissions ∧
      (permits.NamedById env normalized row ∨ permits.MissedById env db.submissions normalized ∧
        (permits.NamedByPayload env normalized row ∨ permits.MissedByPayload env db.submissions normalized ∧
          (row.qrPayload = some normalized ∨ (∀ other ∈ db.submissions, other.qrPayload ≠ some normalized) ∧
            row.accessCode = some normalized ∧ row.condoId = condoId))) := by
  rw [lookupPermit_chain]
  exact chain_some unique (payload_or_code_some unique)

theorem resolves_iff (unique : permits.Unique db.submissions) :
    resolvePermitPass env db pass row.condoId = .ok (some row) ↔
      row ∈ db.submissions ∧ LeadsTo env db (normalizePassInput pass) row := by
  unfold resolvePermitPass
  rw [lookupPermit_some unique]
  simp only [LeadsTo, and_true]

variable {shown : FormPermitVerify}

theorem toPermitVerify_ok {template : FormTemplate} :
    toPermitVerify now db template row = .ok shown →
      shown.id = row.id ∧ shown.condoId = row.condoId ∧ shown.valid = (permitMessage now row).isNone ∧
        ∃ contractor scope, stringAnswer row.answers "contractorCompany" = .ok contractor ∧
          stringAnswer row.answers "workScope" = .ok scope := by
  intro told
  obtain ⟨contractor, read, told⟩ := bind_eq_ok.mp told
  obtain ⟨scope, written, told⟩ := bind_eq_ok.mp told
  cases told
  exact ⟨rfl, rfl, rfl, contractor, scope, read, written⟩

theorem verifyPermit_ok : verifyPermit env now actor pass db = .ok shown ↔
    ∃ row template, actor.activeCondoId = some row.condoId ∧
      (isGuard actor.toAuthenticatedUser row.condoId ∨ isManagement actor.toAuthenticatedUser row.condoId) ∧
      resolvePermitPass env db pass row.condoId = .ok (some row) ∧ db.template? row.templateId = some template ∧
      isPermitFormKind template.kind ∧ toPermitVerify now db template row = .ok shown := by
  unfold verifyPermit guardCondoId assertGuardOrManagement requireTemplate
  simp only [bind_eq_ok, orThrow_eq_ok, throwIf_eq_ok, exists_const, not_not]
  constructor
  · rintro ⟨scope, active, access, found, resolved, row, rfl, rfl, template, stored, kind, told⟩
    refine ⟨row, template, active, ?_, resolved, stored, kind, told⟩
    by_contra neither
    exact access ⟨fun guard => neither (.inl guard), fun manager => neither (.inr manager)⟩
  · rintro ⟨row, template, active, access, resolved, stored, kind, told⟩
    exact ⟨row.condoId, active, fun neither => access.elim neither.1 neither.2, some row, resolved, row, rfl, rfl, template, stored,
      kind, told⟩

theorem shown_valid (unique : permits.Unique db.submissions) (told : verifyPermit env now actor pass db = .ok shown)
    (valid : shown.valid = true) :
    ∃ row ∈ db.submissions, row.id = shown.id ∧ row.condoId = shown.condoId ∧ Presentable db actor row ∧
      LeadsTo env db (normalizePassInput pass) row ∧ Covers row now := by
  obtain ⟨row, template, active, access, resolved, stored, kind, told⟩ := verifyPermit_ok.mp told
  obtain ⟨mem, leads⟩ := (resolves_iff unique).mp resolved
  obtain ⟨id, condo, same, texts⟩ := toPermitVerify_ok told
  rw [same, Option.isNone_iff_eq_none, permitMessage_none] at valid
  exact ⟨row, mem, id.symm, condo.symm, ⟨active, access, ⟨template, stored, kind⟩, texts, valid.1⟩, leads, valid.2⟩

theorem valid_shown (unique : permits.Unique db.submissions) (mem : row ∈ db.submissions)
    (presentable : Presentable db actor row) (leads : LeadsTo env db (normalizePassInput pass) row) (covers : Covers row now) :
    ∃ shown, verifyPermit env now actor pass db = .ok shown ∧ shown.valid = true ∧ shown.id = row.id ∧
      shown.condoId = row.condoId := by
  obtain ⟨template, stored, kind⟩ := presentable.template
  obtain ⟨contractor, scope, read, written⟩ := presentable.texts
  have told : ∃ shown, toPermitVerify now db template row = .ok shown := by
    exact ⟨_, bind_eq_ok.mpr ⟨contractor, read, bind_eq_ok.mpr ⟨scope, written, rfl⟩⟩⟩
  obtain ⟨shown, told⟩ := told
  obtain ⟨id, condo, same, -⟩ := toPermitVerify_ok told
  refine ⟨shown, verifyPermit_ok.mpr ⟨row, template, presentable.active, presentable.access,
    (resolves_iff unique).mpr ⟨mem, leads⟩, stored, kind, told⟩, ?_, id, condo⟩
  rw [same, Option.isNone_iff_eq_none, permitMessage_none]
  exact ⟨presentable.approved, covers⟩

end

section

variable {row : FormSubmission} {condo : LocalCalendar} {now : Instant}

variable {day : ℤ}

theorem le_day_iff : day ≤ condo.day now ↔ condo.hour day 0 ≤ now := by
  have mem : condo.hour day 0 ≤ now ∧ now < condo.hour (condo.day now + 1) 0 ↔
      day ≤ condo.day now ∧ condo.day now < condo.day now + 1 := condo.day_mem_iff
  have ends := condo.ends now
  constructor
  · exact fun le => (mem.mpr ⟨le, Int.lt_succ _⟩).1
  · exact fun le => (mem.mp ⟨le, ends⟩).1

theorem day_le_iff : condo.day now ≤ day ↔ now < condo.hour (day + 1) 0 := by
  rw [← not_le (a := condo.hour (day + 1) 0), ← le_day_iff, not_le, Int.lt_add_one_iff]

theorem exists_covered (opens : Opens row) : ∃ now, Covers row now := by
  unfold Covers
  cases validFrom : row.permitValidFrom with
  | some from' =>
    refine ⟨from', fun other same => (Option.some.inj same).symm.le, fun until' set => ?_⟩
    exact opens from' until' validFrom set
  | none =>
    cases row.permitValidUntil with
    | some until' => exact ⟨until', fun _ never => (nomatch never), fun other same => (Option.some.inj same).le⟩
    | none => exact ⟨0, fun _ never => (nomatch never), fun _ never => nomatch never⟩

theorem windowInDays_of_covered (opens : Opens row) (mem : ∀ now, Covers row now → InAnsweredDays condo row.answers now) :
    WindowInDays condo row := by
  obtain ⟨some', covers⟩ := exists_covered opens
  obtain ⟨first, last, start, stop, -, -⟩ := mem some' covers
  have within : ∀ now, Covers row now → condo.hour first 0 ≤ now ∧ now < condo.hour (last + 1) 0 := by
    intro now covered
    obtain ⟨first', last', start', stop', after, before⟩ := mem now covered
    obtain rfl := Option.some.inj (start.symm.trans start')
    obtain rfl := Option.some.inj (stop.symm.trans stop')
    exact ⟨le_day_iff.mp after, day_le_iff.mp before⟩
  obtain ⟨from', validFrom⟩ : ∃ from', row.permitValidFrom = some from' := by
    cases validFrom : row.permitValidFrom with
    | some from' => exact ⟨from', rfl⟩
    | none =>
      -- With no start, an instant before the first day is covered.
      have early : Covers row (min some' (condo.hour first 0 - 1)) := by
        refine ⟨fun from' set => ?_, fun until' set => (min_le_left _ _).trans (covers.2 until' set)⟩
        rw [validFrom] at set
        cases set
      have after := (within _ early).1.trans (min_le_right _ _)
      exact absurd after (by linarith)
  obtain ⟨until', validUntil⟩ : ∃ until', row.permitValidUntil = some until' := by
    cases validUntil : row.permitValidUntil with
    | some until' => exact ⟨until', rfl⟩
    | none =>
      have late : Covers row (max some' (condo.hour (last + 1) 0)) := by
        refine ⟨fun from' set => (covers.1 from' set).trans (le_max_left _ _), fun until' set => ?_⟩
        rw [validUntil] at set
        cases set
      exact absurd ((le_max_right _ _).trans_lt (within _ late).2) (lt_irrefl _)
  have order := opens from' until' validFrom validUntil
  have begins : Covers row from' := by
    refine ⟨fun other set => ?_, fun other set => ?_⟩
    · exact (Option.some.inj (set.symm.trans validFrom)).le
    · exact order.trans (Option.some.inj (validUntil.symm.trans set)).le
  have ends : Covers row until' := by
    refine ⟨fun other set => ?_, fun other set => ?_⟩
    · exact (Option.some.inj (set.symm.trans validFrom)).le.trans order
    · exact (Option.some.inj (validUntil.symm.trans set)).le
  exact ⟨first, last, from', until', start, stop, validFrom, validUntil, (within _ begins).1, (within _ ends).2⟩

theorem inAnsweredDays_of_window (window : WindowInDays condo row) (covers : Covers row now) :
    InAnsweredDays condo row.answers now := by
  obtain ⟨first, last, from', until', start, stop, validFrom, validUntil, after, before⟩ := window
  refine ⟨first, last, start, stop, le_day_iff.mpr ?_, day_le_iff.mpr ?_⟩
  · exact after.trans (covers.1 from' validFrom)
  · exact (covers.2 until' validUntil).trans_lt before

theorem opens_of_covered (covers : Covers row now) : Opens row :=
  fun from' until' start stop => (covers.1 from' start).trans (covers.2 until' stop)

end

namespace Sample

def gate : FormsEnv := { Visitors.Sample.passEnv with legacyDate := fun _ => none }

def renovation : FormTemplate :=
  ⟨1, 1, .renovation, "Renovation permit", [⟨"startDate", "date", "Work start date", true, none⟩,
    ⟨"endDate", "date", "Expected completion date", true, none⟩], true, 2⟩

def works : FormsDb := { office with templates := [renovation] }

def permitted (start stop : String) : List (CallEvent Instant FormsRequest) :=
  [.begin 0 (.createSubmission owner ⟨1, 1, some [("startDate", .string start), ("endDate", .string stop)], true⟩),
    .begin 1 (.approveSubmission manager 10 fun _ => "ABCDEF"), .proceed 2 0, .proceed 3 0]

def permit (start stop : String) : World FormsDb FormsFlight FormsNote :=
  (World.idle works).run (formsService gate) (permitted start stop)

end Sample

def FormSubmission.window (row : FormSubmission) : Id × Option ℤ × Option ℤ × Option Instant × Option Instant :=
  (row.id, answeredDay row.answers "startDate", answeredDay row.answers "endDate", row.permitValidFrom, row.permitValidUntil)

theorem unique_singleton {rows : List FormSubmission} {row : FormSubmission} (only : rows = [row]) : permits.Unique rows := by
  have one : ∀ row ∈ rows, ∀ other ∈ rows, row = other := by simp [only]
  refine ⟨by simp [only], fun row mem other listed _ _ _ => one row mem other listed,
    fun row mem other listed _ _ _ => one row mem other listed,
    fun row mem other listed _ _ _ _ => one row mem other listed⟩

end SmartResidence.Forms
