import SmartResidence.EInvoice.EInvoiceService
import SmartResidence.Proof.BilledDocuments

/-!
# One document at LHDN for an invoice

A submission that LHDN accepts leaves a status that stands, if all of its answers are heard.
-/

namespace SmartResidence.EInvoice

open Foundation Billing List

abbrev EInvoiceWorld : Type := World EInvoiceDb EInvoiceFlight EInvoiceNote

/-- The status of the invoice is pending or valid, or is about to be: its submission is not yet stored. -/
def Shown (world : EInvoiceWorld) (invoiceId : Id) : Prop :=
  (∃ row, world.db.row? invoiceId = some row ∧ row.status.stands) ∨
    ∃ submission uuid result, .storing submission (some uuid) result ∈ world.flights ∧ submission.invoiceId = invoiceId ∧
      result.status.stands

structure OneLiveDocument (world : EInvoiceWorld) : Prop where
  one : (world.db.registered.map Registered.invoiceId).Nodup
  shown : ∀ row ∈ world.db.registered, Shown world row.invoiceId

/-! ## Submissions that are heard -/

def pollsArrive (poll : Nat → Fetched PollBody) : (left attempt : Nat) → Bool
  | 0, _ => true
  | left + 1, attempt =>
      match poll attempt with
      | .replied body => body.final || pollsArrive poll left (attempt + 1)
      | .thrown _ | .refused _ => false

def SubmissionAnswers.heard (answers : SubmissionAnswers) : Bool :=
  match answers.reply with
  | .replied body => decide (body ≠ .unreadable) &&
      (body.submissionUid.isNone || pollsArrive answers.poll statusPollAttempts 0) && answers.details.arrives
  | .thrown _ | .refused _ => false

section

variable {answers : SubmissionAnswers} {ctx : MyInvoisSubmitContext} {environment : EInvoiceEnvironment}
  {uuid submissionUid : String} {last : LastSeen}

theorem not_invalid {status : EInvoiceStatus} (stands : status.stands = true) : status ≠ .invalid := by
  rintro rfl
  cases stands

theorem pollAttempts_stands (submissionUid : String) {poll : Nat → Fetched PollBody}
    (honest : ∀ attempt body, poll attempt = .replied body → body.status.stands ∧ body.error = none) {left attempt : Nat}
    (known : last.uuid.isSome) (stands : last.status.stands) (arrive : pollsArrive poll left attempt = true) :
    ∃ seen, pollAttempts poll submissionUid left attempt last = .ok seen ∧ seen.uuid.isSome ∧ seen.status.stands := by
  induction left generalizing attempt last with
  | zero => exact ⟨last, rfl, known, stands⟩
  | succ left ih =>
    unfold pollsArrive at arrive
    unfold pollAttempts
    cases answer : poll attempt with
    | thrown message => simp [answer] at arrive
    | refused message => simp [answer] at arrive
    | replied body =>
      obtain ⟨favourable, errorless⟩ := honest attempt body answer
      have kept : (last.after body).uuid.isSome := by
        unfold LastSeen.after
        simp [known]
      simp only [errorless]
      by_cases final : body.final = true
      · rw [if_pos final]
        exact ⟨_, rfl, kept, favourable⟩
      · rw [if_neg final]
        simp only [answer, Bool.or_eq_true] at arrive
        exact ih kept favourable (arrive.resolve_left final)

theorem details_arrive {Body : Type} {fetched : Fetched Body} (arrives : fetched.arrives = true) :
    ∃ body, fetched = .replied body := by
  cases fetched with
  | thrown message => cases arrives
  | refused message => cases arrives
  | replied body => exact ⟨body, rfl⟩

theorem afterDetails_stands (submissionUid : String) (accepted : answers.accepted.isSome) (arrives : answers.details.arrives = true)
    (known : last.uuid.isSome) (stands : last.status.stands) :
    ∃ seen, afterDetails answers.details submissionUid last = .ok seen ∧ seen.status.stands := by
  obtain ⟨body, replied⟩ := details_arrive arrives
  obtain ⟨favourable, errorless⟩ := answers.details_honest body accepted replied
  obtain ⟨uuid, own⟩ := Option.isSome_iff_exists.mp known
  refine ⟨⟨uuid, body.longId.or last.longId, mapMyInvoisStatus body.status⟩, ?_, favourable⟩
  unfold afterDetails
  simp only [own, replied]
  rw [if_neg (not_invalid stands)]
  show (if body.validationErrors = [] then _ else _) = _
  rw [if_pos errorless]
  rfl

theorem pollSubmission_stands (accepted : answers.accepted.isSome) (polls : pollsArrive answers.poll statusPollAttempts 0 = true)
    (arrives : answers.details.arrives = true) {longId : Option String} :
    (Submitting.result (pollSubmission answers environment submissionUid (some uuid) longId)).status.stands := by
  have honest (attempt : Nat) (body : PollBody) (replied : answers.poll attempt = .replied body) :=
    answers.poll_honest attempt body accepted replied
  have submitted : mapMyInvoisStatus (some "submitted") = .pending := by decide +kernel
  have initial : (LastSeen.mk (some uuid) longId (mapMyInvoisStatus (some "submitted"))).status.stands := by
    rw [submitted]
    rfl
  obtain ⟨polled, first, known, stands⟩ := pollAttempts_stands submissionUid honest rfl initial polls
  obtain ⟨seen, second, final⟩ := afterDetails_stands submissionUid accepted arrives known stands
  unfold pollSubmission
  simp only [first, second, bind, Except.bind]
  exact final

theorem postDocument_stands (accepted : answers.accepted = some uuid) (heard : answers.heard = true) :
    (postDocument answers environment).result.status.stands := by
  have some' : answers.accepted.isSome := Option.isSome_iff_exists.mpr ⟨uuid, accepted⟩
  unfold SubmissionAnswers.heard at heard
  unfold postDocument
  cases replied : answers.reply with
  | thrown message => simp [replied] at heard
  | refused message => simp [replied] at heard
  | replied body =>
    simp only [replied, Bool.and_eq_true, Bool.or_eq_true, decide_eq_true_eq] at heard
    obtain ⟨⟨readable, polls⟩, arrives⟩ := heard
    obtain ⟨none, longId, more, mem⟩ := (answers.reply_honest uuid body accepted replied).resolve_left readable
    have parsed : parseSubmissionResponse body = ⟨body.submissionUid, some uuid, longId, .pending, .none⟩ := by
      unfold parseSubmissionResponse
      rw [none, mem]
    dsimp only
    rw [parsed]
    unfold followUp
    cases given : body.submissionUid with
    | some submissionUid =>
      rw [given] at polls
      exact pollSubmission_stands some' (polls.resolve_left (by simp)) arrives
    | none =>
      obtain ⟨details, answer⟩ := details_arrive arrives
      have favourable := (answers.details_honest details some' answer).1
      rw [answer]
      exact favourable

theorem submit_stands {env : MyInvoisEnv} {moment : EInvoiceMoment} (registers : (moment.submission.registers ctx).isSome)
    (heard : moment.submission.heard = true) : (Delegating.submit env moment ctx).status.stands := by
  unfold SubmissionAnswers.registers reachesLhdn at registers
  split at registers
  · rename_i reached
    obtain ⟨sent, full⟩ := reached
    simp only [Bool.and_eq_true, decide_eq_true_eq] at sent
    obtain ⟨production, usable⟩ := sent
    have complete : ctx.credentials.any MyInvoisCredentials.complete = true := by
      unfold resolveProviderId at production
      split at production
      · rename_i both
        exact both.2
      · cases production
    obtain ⟨uuid, accepted⟩ := Option.isSome_iff_exists.mp registers
    unfold Delegating.submit
    rw [production]
    unfold Production.submit
    rw [if_neg (by simp [full]), if_neg (by simp [complete]), if_neg (by simp [usable])]
    exact postDocument_stands accepted heard
  · cases registers

end

/-! ## Steps -/

/-- LHDN accepts a submission only for an invoice without a document there, and is heard; and whatever else is recorded, LHDN
has no document of the invoice. -/
def Settled : Service.Condition EInvoiceMoment EInvoiceDb EInvoiceRequest EInvoiceFlight := .later fun moment flight db =>
  match flight with
  | .sending submission => (moment.submission.registers submission.ctx).isSome →
      db.Clear submission.invoiceId ∧ moment.submission.heard = true
  | .storing submission none _ => db.Clear submission.invoiceId
  | .recording cancellation _ _ => db.Clear cancellation.invoiceId
  | _ => True

def EInvoiceFlight.Fine : EInvoiceFlight → Prop
  | .storing _ (some _) result => result.status.stands
  | _ => True

structure Documented (world : EInvoiceWorld) : Prop where
  live : OneLiveDocument world
  fine : ∀ flight ∈ world.flights, flight.Fine

def EInvoiceFlight.stores : EInvoiceFlight → Option Id
  | .storing submission (some _) _ => some submission.invoiceId
  | _ => none

section

variable {db : EInvoiceDb} {now : Instant} {submission : Submission} {result : MyInvoisSubmitResult} {invoiceId other : Id}

theorem row_store : ∃ row, (db.store now submission result).row? submission.invoiceId = some row ∧
    row.status = result.status := by
  have kept (row : EInvoiceRow) : (row.submitted now submission result).invoiceId = row.invoiceId := rfl
  refine ⟨_, findBy_upsertBy_self rfl kept, ?_⟩
  cases findBy EInvoiceRow.invoiceId submission.invoiceId db.eInvoices with
  | none => rfl
  | some row => rfl

theorem row_store_other (ne : other ≠ submission.invoiceId) :
    (db.store now submission result).row? other = db.row? other :=
  findBy_upsertBy_other rfl (fun _ => rfl) ne

theorem row_write_other {change : EInvoiceRow → EInvoiceRow} (kept : ∀ row, (change row).invoiceId = row.invoiceId)
    (ne : other ≠ invoiceId) : (db.write invoiceId change).row? other = db.row? other := by
  unfold EInvoiceDb.write EInvoiceDb.row?
  rw [findBy_updateBy kept]
  cases found : findBy EInvoiceRow.invoiceId other db.eInvoices with
  | none => rfl
  | some row =>
    have apart : row.invoiceId ≠ invoiceId := (mem_of_findBy found).2 ▸ ne
    simp [apart]

end

section

variable {env : MyInvoisEnv} {moment : EInvoiceMoment} {world : EInvoiceWorld} {rest : List EInvoiceFlight}
  {outcome : EInvoiceOutcome}

theorem Documented.go (documented : Documented world) (others : ∀ own ∈ rest, own ∈ world.flights)
    (fewer : outcome.db.registered.Sublist world.db.registered)
    (stay : ∀ row ∈ outcome.db.registered, ∀ own ∈ world.flights, own.stores = some row.invoiceId → own ∈ rest)
    (kept : ∀ row ∈ outcome.db.registered, ∀ own, world.db.row? row.invoiceId = some own →
      outcome.db.row? row.invoiceId = some own)
    (fine : ∀ flight ∈ outcome.flights, flight.Fine) : Documented (world.after rest outcome) := by
  refine ⟨⟨documented.live.one.sublist (fewer.map _), fun row mem => ?_⟩, fun own mem => ?_⟩
  · rcases documented.live.shown row (fewer.subset mem) with
      ⟨own, found, stands⟩ | ⟨submission, uuid, result, listed, home, stands⟩
    · exact .inl ⟨own, kept row mem own found, stands⟩
    · have there := stay row mem _ listed (congrArg some home)
      exact .inr ⟨submission, uuid, result, mem_append_left _ there, home, stands⟩
  · rcases mem_append.mp mem with old | new
    · exact documented.fine own (others own old)
    · exact fine own new

theorem begin_documented (documented : Documented world) (moment : EInvoiceMoment) {request : EInvoiceRequest} :
    Documented (world.after world.flights (beginEInvoice moment request world.db)) := by
  have reads {flights : List EInvoiceFlight} (fine : ∀ flight ∈ flights, flight.Fine) :
      Documented (world.after world.flights (.reads world.db flights)) :=
    documented.go (fun _ there => there) (.refl _) (fun _ _ _ there _ => there) (fun _ _ _ found => found) fine
  have ends : Documented (world.after world.flights (.ended world.db)) := reads fun _ none => nomatch none
  have opens {Value : Type} {read : Result Value} {flight : Value → EInvoiceFlight} (fine : ∀ value, (flight value).Fine) :
      Documented (world.after world.flights (.ofRead world.db read flight)) := by
    cases read with
    | error failure => exact ends
    | ok value => exact reads (forall_mem_singleton.mpr (fine value))
  cases request with
  | submit actor invoiceId => exact opens fun _ => trivial
  | cancel actor invoiceId reason => exact opens fun _ => trivial
  | processSubmitJob invoiceId => exact opens fun _ => trivial
  | invoiceIssued invoiceId =>
    dsimp only [beginEInvoice]
    unfold onInvoiceIssued
    cases world.db.loadInvoice invoiceId with
    | error failure => exact ends
    | ok loaded =>
      dsimp only
      split
      · exact reads (forall_mem_singleton.mpr trivial)
      · exact ends

section

variable {flight : EInvoiceFlight}

section

variable (documented : Documented world)
include documented

theorem Documented.pass (parts : world.flights.Perm (flight :: rest))
    (none : flight.stores = none) (fewer : outcome.db.registered.Sublist world.db.registered)
    (kept : ∀ row ∈ outcome.db.registered, ∀ own, world.db.row? row.invoiceId = some own →
      outcome.db.row? row.invoiceId = some own)
    (fine : ∀ flight ∈ outcome.flights, flight.Fine) : Documented (world.after rest outcome) := by
  refine documented.go (fun _ there => parts.mem_iff.mpr (mem_cons_of_mem _ there)) fewer (fun row _ own there stores => ?_)
    kept fine
  rcases mem_cons.mp (parts.mem_iff.mp there) with rfl | left
  · exact nomatch none.symm.trans stores
  · exact left

theorem Documented.reads (parts : world.flights.Perm (flight :: rest))
    (none : flight.stores = none) {flights : List EInvoiceFlight} (fine : ∀ flight ∈ flights, flight.Fine) :
    Documented (world.after rest (.reads world.db flights)) :=
  documented.pass parts none (.refl _) (fun _ _ _ found => found) fine

theorem Documented.ends (parts : world.flights.Perm (flight :: rest))
    (none : flight.stores = none) : Documented (world.after rest (.ended world.db)) :=
  documented.reads parts none fun _ none => nomatch none

theorem Documented.ofRead (parts : world.flights.Perm (flight :: rest))
    (none : flight.stores = none) {Value : Type} {read : Result Value} {next : Value → EInvoiceFlight}
    (fine : ∀ value, (next value).Fine) : Documented (world.after rest (.ofRead world.db read next)) := by
  cases read with
  | error failure => exact documented.ends parts none
  | ok value => exact documented.reads parts none (forall_mem_singleton.mpr (fine value))

theorem Documented.send (parts : world.flights.Perm (flight :: rest))
    (none : flight.stores = none) {submission : Submission} {uuid : String} {result : MyInvoisSubmitResult}
    (clear : world.db.Clear submission.invoiceId) (stands : result.status.stands) : Documented (world.after rest
      (.reads (world.db.register submission.invoiceId (some uuid)) [.storing submission (some uuid) result])) := by
  have own : EInvoiceFlight.storing submission (some uuid) result ∈ rest ++ [.storing submission (some uuid) result] :=
    mem_append_right _ mem_cons_self
  refine ⟨⟨?_, fun row mem => ?_⟩, fun other mem => ?_⟩
  · show ((world.db.registered ++ [Registered.mk submission.invoiceId uuid]).map Registered.invoiceId).Nodup
    rw [map_append, nodup_append]
    refine ⟨documented.live.one, nodup_singleton _, fun held there new only same => ?_⟩
    obtain ⟨row, listed, own⟩ := mem_map.mp there
    have other : new = submission.invoiceId := mem_singleton.mp only
    exact clear row listed ((own.trans same).trans other)
  · rcases mem_append.mp mem with old | new
    · rcases documented.live.shown row old with ⟨stored, found, fair⟩ | ⟨storing, id, kept, listed, home, fair⟩
      · exact .inl ⟨stored, found, fair⟩
      · refine .inr ⟨storing, id, kept, ?_, home, fair⟩
        rcases mem_cons.mp (parts.mem_iff.mp listed) with rfl | left
        · cases none
        · exact mem_append_left _ left
    · obtain rfl := mem_singleton.mp new
      exact .inr ⟨submission, uuid, result, own, rfl, stands⟩
  · rcases mem_append.mp mem with old | new
    · exact documented.fine other (parts.mem_iff.mpr (mem_cons_of_mem _ old))
    · obtain rfl := mem_singleton.mp new
      exact stands

theorem Documented.store {submission : Submission} {uuid : String} {result : MyInvoisSubmitResult}
    (parts : world.flights.Perm (.storing submission (some uuid) result :: rest)) {now : Instant} {notes : List EInvoiceNote} :
    Documented (world.after rest ⟨world.db.store now submission result, [], notes⟩) := by
  have stands : result.status.stands := documented.fine _ (parts.mem_iff.mpr mem_cons_self)
  refine ⟨⟨documented.live.one, fun row mem => ?_⟩, fun own mem => ?_⟩
  · by_cases same : row.invoiceId = submission.invoiceId
    · have written : ∃ own, (world.db.store now submission result).row? submission.invoiceId = some own ∧
          own.status = result.status := row_store
      obtain ⟨stored, found, status⟩ := written
      refine .inl ⟨stored, ?_, ?_⟩
      · rw [same]
        exact found
      · rw [status]
        exact stands
    · rcases documented.live.shown row mem with ⟨stored, found, fair⟩ | ⟨storing, id, kept, listed, home, fair⟩
      · exact .inl ⟨stored, (row_store_other same).trans found, fair⟩
      · refine .inr ⟨storing, id, kept, ?_, home, fair⟩
        rcases mem_cons.mp (parts.mem_iff.mp listed) with named | left
        · cases named
          exact absurd home.symm same
        · exact mem_append_left _ left
  · have left := (mem_append.mp mem).resolve_right not_mem_nil
    exact documented.fine own (parts.mem_iff.mpr (mem_cons_of_mem _ left))

theorem proceed_documented (parts : world.flights.Perm (flight :: rest))
    (settled : Settled.proceed moment flight world.db) :
    Documented (world.after rest (proceedEInvoice env moment flight world.db)) := by
  cases flight with
  | checking submission => exact documented.ofRead parts rfl fun _ => trivial
  | sending submission =>
    dsimp only [proceedEInvoice]
    cases registers : moment.submission.registers submission.ctx with
    | none =>
      have same : world.db.register submission.invoiceId none = world.db := by
        show { world.db with registered := world.db.registered ++ [] } = _
        rw [append_nil]
      rw [same]
      exact documented.reads parts rfl (forall_mem_singleton.mpr trivial)
    | some uuid =>
      have accepted : (moment.submission.registers submission.ctx).isSome := by rw [registers]; rfl
      obtain ⟨clear, heard⟩ := settled accepted
      exact documented.send parts rfl clear (submit_stands accepted heard)
  | storing submission registered result =>
    cases registered with
    | none =>
      have clear : world.db.Clear submission.invoiceId := settled
      exact documented.pass parts rfl (.refl _) (fun row mem _ found => (row_store_other (clear row mem)).trans found)
        fun _ none => nomatch none
    | some uuid => exact documented.store parts
  | looking cancellation =>
    dsimp only [proceedEInvoice]
    split
    · exact documented.reads parts rfl (forall_mem_singleton.mpr trivial)
    · exact documented.ends parts rfl
    · exact documented.ends parts rfl
  | cancelling cancellation uuid environment =>
    exact documented.pass parts rfl filter_sublist (fun _ _ _ found => found) (forall_mem_singleton.mpr trivial)
  | recording cancellation uuid result =>
    have clear : world.db.Clear cancellation.invoiceId := settled
    refine documented.pass parts rfl (.refl _) (fun row mem own found => ?_) fun _ none => nomatch none
    have same : (world.db.write cancellation.invoiceId (EInvoiceRow.recorded moment.now result)).row? row.invoiceId =
      world.db.row? row.invoiceId := row_write_other (fun _ => rfl) (clear row mem)
    exact same.trans found
  | issued invoiceId condoId config =>
    dsimp only [proceedEInvoice]
    split
    · exact documented.ends parts rfl
    · split
      · exact documented.reads parts rfl (forall_mem_singleton.mpr trivial)
      · exact documented.reads parts rfl (forall_mem_singleton.mpr trivial)
  | queued invoiceId => exact documented.ofRead parts rfl fun _ => trivial
  | creating invoiceId condoId environment =>
    dsimp only [proceedEInvoice]
    split
    · exact documented.ends parts rfl
    · refine documented.pass parts rfl (.refl _) (fun row _ own found => ?_) fun _ none => nomatch none
      show findBy EInvoiceRow.invoiceId row.invoiceId (world.db.eInvoices ++ [_]) = some own
      have stored : findBy EInvoiceRow.invoiceId row.invoiceId world.db.eInvoices = some own := found
      rw [findBy_append, stored]
      rfl

end

end

end

section

variable {env : MyInvoisEnv} {initial : EInvoiceDb} {events : List (CallEvent EInvoiceMoment EInvoiceRequest)}
  {finish : EInvoiceWorld}

end

instance (moment : EInvoiceMoment) (request : EInvoiceRequest) (db : EInvoiceDb) : Decidable (Settled.begin moment request db) :=
  inferInstanceAs (Decidable True)

instance (moment : EInvoiceMoment) (db : EInvoiceDb) : ∀ flight, Decidable (Settled.proceed moment flight db)
  | .sending submission => inferInstanceAs (Decidable ((moment.submission.registers submission.ctx).isSome →
      db.Clear submission.invoiceId ∧ moment.submission.heard = true))
  | .storing submission none _ => inferInstanceAs (Decidable (db.Clear submission.invoiceId))
  | .recording cancellation _ _ => inferInstanceAs (Decidable (db.Clear cancellation.invoiceId))
  | .checking _ | .storing _ (some _) _ | .looking _ | .cancelling _ _ _ | .issued _ _ _ | .queued _ | .creating _ _ _ =>
      inferInstanceAs (Decidable True)

namespace Sample

def taxEnv : MyInvoisEnv := ⟨fun number => number⟩

def administrator : AuthenticatedUser := ⟨1, [⟨.superAdmin, none, none⟩]⟩

def unsubmitted : EInvoiceDb :=
  { condos := [⟨1, serviceTax, some ⟨some "client", some "secret"⟩⟩], invoices := [⟨1, 1, 1, monthly⟩], eInvoices := []
    registered := [] }

def validated (uuid : String) : SubmissionAnswers where
  accepted := some uuid
  reply := .replied ⟨some "S1", [some ⟨some uuid, none⟩], []⟩
  poll _ := .replied ⟨some "Valid", []⟩
  details := .replied ⟨some "L1", some "Valid", []⟩
  reply_honest := by
    rintro _ _ ⟨⟩ ⟨⟩
    exact .inr ⟨rfl, none, [], rfl⟩
  poll_honest := by
    rintro _ _ - ⟨⟩
    decide +kernel
  details_honest := by
    rintro _ - ⟨⟩
    decide +kernel

def unheard (uuid : String) : SubmissionAnswers where
  accepted := some uuid
  reply := .replied ⟨some "S1", [some ⟨some uuid, none⟩], []⟩
  poll _ := .refused "Submission status poll failed (503)"
  details := .thrown "fetch failed"
  reply_honest := by
    rintro _ _ ⟨⟩ ⟨⟩
    exact .inr ⟨rfl, none, [], rfl⟩
  poll_honest := fun _ _ _ refused => nomatch refused
  details_honest := fun _ _ thrown => nomatch thrown

def accepting (submission : SubmissionAnswers) : EInvoiceMoment :=
  ⟨0, "R1", "R2", submission, ⟨true, .replied ⟨none, some "Cancelled", none⟩⟩⟩

def submittedTwice : List (CallEvent EInvoiceMoment EInvoiceRequest) :=
  let first := accepting (unheard "D1")
  let second := accepting (validated "D2")
  [.begin first (.submit administrator 1), .proceed first 0, .proceed first 0, .proceed first 0,
    .begin second (.submit administrator 1), .proceed second 0, .proceed second 0]

def cancelledBetween : List (CallEvent EInvoiceMoment EInvoiceRequest) :=
  let first := accepting (validated "D1")
  let second := accepting (validated "D2")
  [.begin first (.invoiceIssued 1), .proceed first 0, .proceed first 0, .proceed first 0, .proceed first 0, .proceed first 0,
    .begin first (.cancel administrator 1 none), .proceed first 0, .proceed first 0, .proceed first 0,
    .begin second (.submit administrator 1), .proceed second 0, .proceed second 0, .proceed second 0]

theorem unsubmitted_live : OneLiveDocument (World.idle unsubmitted) := ⟨nodup_nil, fun _ none => nomatch none⟩

end Sample

end SmartResidence.EInvoice
