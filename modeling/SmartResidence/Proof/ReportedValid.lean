import SmartResidence.EInvoice.MyInvoisHttp

/-!
# What stands behind a reported VALID

A submission ends with an error text just if it reads an answer as a refusal. Everything else that an answer tells of a
rejection is lost, and so is a word around "valid".
-/

namespace SmartResidence.EInvoice.Http

open Foundation Billing Settings List

def MeansValid (text : String) : Prop := text.toLower = "valid"

def MeansRejected (text : String) : Prop := includes text.toLower "invalid" = true ∨ includes text.toLower "reject" = true

def Shows (value : Json) (key : String) : Prop := ∃ content, field key value = some content ∧ truthy content = true

def TellsRejected (value : Json) (key : String) : Prop := ∃ text, field key value = some (.string text) ∧ MeansRejected text

def ValidationError (entry : Json) : Prop := Shows entry "error" ∨ Shows entry "message"

def Reports (exchange : Exchange) : Prop :=
  match exchange with
  | (_, .failed _ _) => False
  | (request, .response status body) => okStatus status = false ∨
      match request with
      | .accessToken => False
      | .submission => readArray body "rejectedDocuments" ≠ []
      | .submissionStatus _ => TellsRejected body "overallStatus" ∨ TellsRejected body "status" ∨
          ∃ row ∈ readArray body "documentSummary", TellsRejected row "status" ∨ Shows row "errorMessage" ∨ Shows row "error"
      | .documentDetails _ => TellsRejected body "status" ∨ ∃ entry ∈ readArray body "validationResults", ValidationError entry

structure Confirms (body : Json) : Prop where
  valid : ∃ text, readString body ["status"] = some text ∧ MeansValid text
  clean : ∀ entry ∈ readArray body "validationResults", ¬ ValidationError entry

def Failed (result : MyInvoisSubmitResult) : Prop := result.status = .invalid ∧ ∃ text, result.error = some text ∧ text ≠ ""

structure Backed (run : Submission) : Prop where
  confirmed : run.result.status = .valid → run.result.uuid ≠ "" ∧ ∃ before status body after,
    run.calls = before ++ (.documentDetails run.result.uuid, .response status body) :: after ∧
      (∀ exchange ∈ after, exchange.1 ≠ .documentDetails run.result.uuid) ∧ okStatus status = true ∧ Confirms body
  told : (∃ exchange ∈ run.calls, Reports exchange) → Failed run.result
  bounded : run.calls.length ≤ 2 * (statusPollAttempts + 2)

variable (network : Network)

def IsPoll (exchange : Exchange) : Prop := ∃ submissionUid, exchange.1 = .submissionStatus submissionUid

def Refuses (polled : Prop) (exchange : Exchange) : Prop :=
  match exchange with
  | (_, .failed _ _) => True
  | (request, .response status body) => okStatus status = false ∨
      match request with
      | .accessToken => readString body ["access_token"] = none
      | .submission =>
          let parsed := parseSubmissionResponse (readSubmission network body)
          parsed.status = .invalid ∨ parsed.submissionUid = none ∧ parsed.uuid = none
      | .submissionStatus _ => (readSubmissionStatus body).error ≠ none
      | .documentDetails _ => polled ∧ (readDocumentDetails body).validationErrors ≠ []

def PlainWord (exchange : Exchange) : Prop :=
  match exchange with
  | (.submissionStatus _, .response _ body) => (readSubmissionStatus body).status ≠ .valid
  | (.documentDetails _, .response _ body) => mapMyInvoisStatus (readDocumentDetails body).status = .valid →
      ∃ text, readString body ["status"] = some text ∧ MeansValid text
  | _ => True

/-- The answers refuse the document in a way that is read, or tell of no rejection at all and end with a plain word. -/
def Readable (calls : List Exchange) : Prop :=
  (∃ exchange ∈ calls, Refuses network (∃ poll ∈ calls, IsPoll poll) exchange) ∨
    (∀ exchange ∈ calls, ¬ Reports exchange) ∧ ∀ last ∈ calls.getLast?, PlainWord last

/-! ## The requests -/

variable {network}

variable {exchange : Exchange}

theorem Refuses.mono {polled more : Prop} (refuses : Refuses network polled exchange) (implies : polled → more) :
    Refuses network more exchange := by
  obtain ⟨request, answer⟩ := exchange
  cases answer with
  | failed message text => trivial
  | response status body =>
    refine Or.imp_right (fun refused => ?_) refuses
    cases request with
    | documentDetails uuid => exact ⟨implies refused.1, refused.2⟩
    | accessToken | submission | submissionStatus submissionUid => exact refused

structure Going (network : Network) (most : Nat) (calls : List Exchange) : Prop where
  bounded : calls.length ≤ most
  accepted : ∀ exchange ∈ calls, ¬ Refuses network True exchange

structure Ended (network : Network) (most : Nat) (result : MyInvoisSubmitResult) (after : Connection) : Prop where
  failed : Failed result
  refused : ∃ exchange ∈ after.calls, Refuses network (∃ poll ∈ after.calls, IsPoll poll) exchange
  bounded : after.calls.length ≤ most

variable {fewer : Nat} {result : MyInvoisSubmitResult} {after : Connection}

theorem Ended.weaken {most : Nat} (ended : Ended network fewer result after) (le : fewer ≤ most) :
    Ended network most result after :=
  ⟨ended.failed, ended.refused, ended.bounded.trans le⟩

theorem failed_caught {message : String} (text : message ≠ "") : Failed (caught message) := ⟨rfl, message, rfl, text⟩

theorem readString_text {value : Json} {keys : List String} {text : String} (read : readString value keys = some text) : text ≠ "" := by
  unfold readString at read
  split at read
  · split at read
    · cases read
    · rename_i nonempty
      cases read
      exact nonempty
  · cases read

variable {first : Option String}

theorem or_text {second : Option String} (one : ∀ text, first = some text → text ≠ "")
    (two : ∀ text, second = some text → text ≠ "") (text : String) (read : first.or second = some text) :
    text ≠ "" := by
  cases first with
  | none => exact two text read
  | some other => exact one text read

theorem getD_text {printed : String} (one : ∀ text, first = some text → text ≠ "") (other : printed ≠ "") :
    first.getD printed ≠ "" := by
  cases first with
  | none => exact other
  | some text => exact one text rfl

theorem parseApiError_text (body : Json) : parseApiError network body ≠ "" := by
  have message : ∀ text, ((readString body ["message"]).or (readString body ["error", "message"])).or
      (readString body ["error", "details", "0", "message"]) = some text → text ≠ "" :=
    or_text (or_text (fun _ => readString_text) fun _ => readString_text) fun _ => readString_text
  unfold parseApiError
  split
  · split
    · rename_i text shown
      rintro rfl
      exact shown rfl
    · exact getD_text message (network.stringify_text _)
  · exact getD_text message (network.stringify_text _)

variable {most : Nat} {connection : Connection} {credentials : MyInvoisCredentials}

variable {earlier : List Exchange}

theorem ended_last {cached : Option CachedToken} (bounded : earlier.length ≤ most) (failed : Failed result)
    (refuses : Refuses network False exchange) : Ended network (most + 1) result ⟨earlier ++ [exchange], cached⟩ where
  failed := failed
  refused := ⟨exchange, mem_append_right _ mem_cons_self, refuses.mono False.elim⟩
  bounded := by
    rw [length_append]
    exact Nat.succ_le_succ bounded

theorem going_concat (going : Going network most earlier) (accepted : ¬ Refuses network True exchange) :
    Going network (most + 1) (earlier ++ [exchange]) where
  bounded := by
    rw [length_append]
    exact Nat.succ_le_succ going.bounded
  accepted := by
    intro other mem
    rcases mem_append.mp mem with old | new
    · exact going.accepted other old
    · rw [mem_singleton.mp new]
      exact accepted

theorem fetch_ensures (request : Request) {got : Nat × Json → Connection → Prop} {thrown : MyInvoisSubmitResult → Connection → Prop}
    (responds : ∀ status body, got (status, body)
      { connection with calls := connection.calls ++ [(request, .response status body)] })
    (fails : ∀ message text, thrown (caught message) { connection with calls := connection.calls ++ [(request, .failed message text)] }) :
    Call.Ensures got thrown (fetchImpl network request) connection := by
  unfold Call.Ensures fetchImpl
  cases network.answer connection.calls.length with
  | failed message text => exact fails message text
  | response status body => exact responds status body

structure Tokened (network : Network) (most : Nat) (earlier calls : List Exchange) : Prop where
  going : Going network (most + 1) calls
  kept : ∀ exchange ∈ earlier, exchange ∈ calls
  only : ∀ exchange ∈ calls, exchange ∈ earlier ∨ exchange.1 = .accessToken

theorem token_ensures (usable : credentials.usable = true) (going : Going network most connection.calls) :
    Call.Ensures (fun _ after => Tokened network most connection.calls after.calls) (Ended network (most + 1))
      (fetchMyInvoisAccessToken network credentials) connection := by
  unfold fetchMyInvoisAccessToken
  rw [if_neg (not_not.mpr usable)]
  refine Call.ensures_read_bind ?_
  split
  · exact ⟨⟨going.bounded.trans (Nat.le_succ _), going.accepted⟩, fun _ mem => mem, fun _ => .inl⟩
  · refine Call.ensures_bind (fetch_ensures _ (fun status json => ?_) fun message text => ?_)
    · dsimp only
      split
      · rename_i bad
        have refuses : Refuses network False (.accessToken, .response status json) := .inl (Bool.eq_false_iff.mpr bad)
        exact ended_last going.bounded (failed_caught (parseApiError_text json)) refuses
      · rename_i good
        split
        · rename_i missing
          exact ended_last going.bounded (failed_caught (by decide)) (.inr missing)
        · rename_i accessToken found
          have accepted : ¬ Refuses network True (.accessToken, .response status json) := by
            rintro (bad | missing)
            · exact good (fun fine => absurd (fine.symm.trans bad) (by decide))
            · exact absurd (found.symm.trans missing) (by simp)
          refine ⟨going_concat going accepted, fun _ mem => mem_append_left _ mem, fun exchange mem => ?_⟩
          rcases mem_append.mp mem with old | new
          · exact .inl old
          · rw [mem_singleton.mp new]
            exact .inr rfl
    · exact ended_last going.bounded (failed_caught text) trivial

structure Answered (network : Network) (most : Nat) (earlier : List Exchange) (request : Request) (body : Json) (after : Connection) :
    Prop where
  answered : ∃ before status, after.calls = before ++ [(request, .response status body)] ∧ okStatus status = true ∧
    Going network (most + 1) before
  kept : ∀ exchange ∈ earlier, exchange ∈ after.calls
  only : ∀ exchange ∈ after.calls, exchange ∈ earlier ∨ exchange.1 = .accessToken ∨ exchange.1 = request

theorem authorized_ensures {request : Request} {refused : String → MyInvoisSubmitResult} (usable : credentials.usable = true)
    (going : Going network most connection.calls) (fails : ∀ message, message ≠ "" → Failed (refused message)) :
    Call.Ensures (Answered network most connection.calls request) (Ended network (most + 2)) (authorized network credentials request refused) connection := by
  refine Call.ensures_bind ((token_ensures usable going).mono (fun _ after tokened => ?_) fun _ _ ended => ended.weaken (Nat.le_succ _))
  refine Call.ensures_bind (fetch_ensures _ (fun status body => ?_) fun message text => ?_)
  · dsimp only
    split
    · rename_i fine
      refine ⟨⟨after.calls, status, rfl, fine, tokened.going⟩,
        fun exchange mem => mem_append_left _ (tokened.kept exchange mem), fun exchange mem => ?_⟩
      rcases mem_append.mp mem with old | new
      · exact (tokened.only exchange old).imp_right .inl
      · rw [mem_singleton.mp new]
        exact .inr (.inr rfl)
    · rename_i bad
      exact ended_last tokened.going.bounded (fails _ (parseApiError_text body)) (.inl (Bool.eq_false_iff.mpr bad))
  · exact ended_last tokened.going.bounded (failed_caught text) trivial

variable {body : Json}

theorem readSubmissionStatus_text {doc : DocumentSummary} (first : (readSubmissionStatus body).doc = some doc) :
    (∀ uuid, doc.uuid = some uuid → uuid ≠ "") ∧ ∀ error, doc.error = some error → error ≠ "" := by
  obtain ⟨row, -, rfl⟩ := mem_map.mp (mem_of_head? first)
  exact ⟨fun _ => readString_text, or_text (fun _ => readString_text) fun _ => readString_text⟩

theorem pollError_text {error : String} (found : (readSubmissionStatus body).error = some error) : error ≠ "" := by
  obtain ⟨doc, first, own⟩ := Option.bind_eq_some_iff.mp found
  exact (readSubmissionStatus_text first).2 error own

def Named (last : LastSeen) : Prop := ∀ uuid, last.uuid = some uuid → uuid ≠ ""

variable {last : LastSeen}

theorem named_after (named : Named last) (body : Json) : Named (last.after (readSubmissionStatus body)) := by
  intro uuid same
  refine or_text (fun text found => ?_) named uuid same
  obtain ⟨doc, first, own⟩ := Option.bind_eq_some_iff.mp found
  exact (readSubmissionStatus_text first).1 text own

structure Polled (network : Network) (most : Nat) (last : LastSeen) (after : Connection) : Prop where
  going : Going network most after.calls
  named : Named last
  ends : ∃ before submissionUid status body, after.calls = before ++ [(.submissionStatus submissionUid, .response status body)] ∧
    last.status = (readSubmissionStatus body).status

theorem Polled.weaken {most : Nat} (polled : Polled network fewer last after) (le : fewer ≤ most) :
    Polled network most last after :=
  ⟨⟨polled.going.bounded.trans le, polled.going.accepted⟩, polled.named, polled.ends⟩

variable {submissionUid : String}

theorem pollAttempts_ensures {left : Nat} (usable : credentials.usable = true)
    (going : Going network most connection.calls) (named : Named last)
    (polled : left = 0 → Polled network most last connection) :
    Call.Ensures (Polled network (most + 2 * left)) (Ended network (most + 2 * left))
      (pollAttempts network credentials submissionUid left last) connection := by
  induction left generalizing most connection last with
  | zero => exact polled rfl
  | succ left ih =>
    have later : most + 2 ≤ most + 2 * (left + 1) := by omega
    refine Call.ensures_bind ((authorized_ensures usable going ?_).mono (fun body after answered => ?_) fun _ _ ended => ended.weaken later)
    · exact fun message text => ⟨rfl, message, rfl, text⟩
    obtain ⟨before, status, split, fine, tokened⟩ := answered.answered
    dsimp only
    split
    · rename_i error found
      obtain ⟨calls, cached⟩ := after
      obtain rfl : calls = _ := split
      have refuses : Refuses network False (.submissionStatus submissionUid, .response status body) :=
        .inr (fun none => absurd (found.symm.trans none) (by simp))
      exact (ended_last tokened.bounded ⟨rfl, error, rfl, pollError_text found⟩ refuses).weaken later
    · rename_i clean
      have accepted : ¬ Refuses network True (.submissionStatus submissionUid, .response status body) := by
        rintro (bad | error)
        · exact absurd (fine.symm.trans bad) (by decide)
        · exact error clean
      have reached : Polled network (most + 2) (last.after (readSubmissionStatus body)) after :=
        ⟨split ▸ going_concat tokened accepted, named_after named body, before, submissionUid, status, body, split, rfl⟩
      split
      · exact reached.weaken later
      · have rest := ih reached.going reached.named fun _ => reached
        have same : most + 2 + 2 * left = most + 2 * (left + 1) := by omega
        rw [← same]
        exact rest

/-! ## Whole submissions -/

inductive LastWord (result : MyInvoisSubmitResult) (calls : List Exchange) : Prop
  | polled (before : List Exchange) (submissionUid : String) (status : Nat) (body : Json)
      (split : calls = before ++ [(.submissionStatus submissionUid, .response status body)])
      (same : result.status = (readSubmissionStatus body).status) (unnamed : result.status = .valid → result.uuid = "")
  | detailed (before : List Exchange) (status : Nat) (body : Json)
      (split : calls = before ++ [(.documentDetails result.uuid, .response status body)]) (fine : okStatus status = true)
      (named : result.uuid ≠ "") (same : result.status = mapMyInvoisStatus (readDocumentDetails body).status)

structure Completed (network : Network) (most : Nat) (result : MyInvoisSubmitResult) (after : Connection) : Prop where
  silent : result.error = none
  accepted : ∀ exchange ∈ after.calls, ¬ Refuses network (∃ poll ∈ after.calls, IsPoll poll) exchange
  bounded : after.calls.length ≤ most
  last : LastWord result after.calls

theorem Going.unrefused {calls : List Exchange} (going : Going network most calls) (polled : Prop) :
    ∀ exchange ∈ calls, ¬ Refuses network polled exchange :=
  fun exchange mem refuses => going.accepted exchange mem (refuses.mono fun _ => trivial)

variable {uuid : String}

theorem details_ensures {got : DetailsBody → Connection → Prop} (usable : credentials.usable = true)
    (going : Going network most connection.calls)
    (responds : ∀ body after, Answered network most connection.calls (.documentDetails uuid) body after → got (readDocumentDetails body) after) :
    Call.Ensures got (Ended network (most + 2)) (fetchDocumentDetails network credentials uuid) connection := by
  refine Call.ensures_bind ((authorized_ensures usable going fun _ => failed_caught).mono (fun body after answered => ?_) fun _ _ ended => ended)
  exact responds body after answered

theorem joined_text {separator first : String} {rest : List String} (text : first ≠ "") : separator.intercalate (first :: rest) ≠ "" := by
  induction rest generalizing first with
  | nil => exact text
  | cons next rest ih =>
    have step : separator.intercalate (first :: next :: rest) = separator.intercalate ((first ++ separator ++ next) :: rest) := rfl
    apply ih
    intro empty
    rw [String.append_eq_empty_iff, String.append_eq_empty_iff] at empty
    exact text empty.1.1

theorem validationErrors_text (body : Json) : ∀ error ∈ (readDocumentDetails body).validationErrors, error ≠ "" := by
  intro error mem
  obtain ⟨entry, -, read⟩ := mem_filterMap.mp mem
  exact or_text (fun _ => readString_text) (fun _ => readString_text) error read

variable {environment : EInvoiceEnvironment}

theorem pollSubmission_ensures {initialUuid initialLongId : Option String} (usable : credentials.usable = true)
    (going : Going network most connection.calls) (named : ∀ uuid, initialUuid = some uuid → uuid ≠ "") :
    Call.Ensures (Completed network (most + 2 * statusPollAttempts + 2)) (Ended network (most + 2 * statusPollAttempts + 2))
      (pollSubmission network credentials environment submissionUid initialUuid initialLongId) connection := by
  have initial : Named ⟨initialUuid, initialLongId, mapMyInvoisStatus (some "submitted")⟩ := named
  refine Call.ensures_bind ((pollAttempts_ensures usable going initial fun none => absurd none (by decide)).mono (fun last after polled => ?_)
    fun _ _ ended => ended.weaken (by omega))
  obtain ⟨before, uid, status, body, split, told⟩ := polled.ends
  have silent : ∀ validationUrl, (last.uuid = none ∨ last.status = .invalid) →
      Completed network (most + 2 * statusPollAttempts + 2)
        ⟨last.uuid.getD "", last.longId, some submissionUid, last.status, validationUrl, validationUrl, none⟩ after := by
    intro validationUrl why
    refine ⟨rfl, polled.going.unrefused _, polled.going.bounded.trans (by omega), .polled before uid status body split told fun valid => ?_⟩
    rcases why with none | invalid
    · exact congrArg (Option.getD · "") none
    · exact absurd (valid.symm.trans invalid) (by decide)
  unfold afterDetails
  refine Call.ensures_bind ?_
  split
  · rename_i unnamed
    exact silent _ (.inl unnamed)
  · rename_i uuid found
    split
    · rename_i invalid
      exact silent _ (.inr invalid)
    · refine Call.ensures_bind (details_ensures usable polled.going fun body after answered => ?_)
      obtain ⟨earlier, status, rest, fine, tokened⟩ := answered.answered
      split
      · rename_i clean
        refine ⟨rfl, ?_, ?_, .detailed earlier status body rest fine (polled.named uuid found) rfl⟩
        · have accepted : ¬ Refuses network True (.documentDetails uuid, .response status body) := by
            rintro (bad | ⟨-, errors⟩)
            · exact absurd (fine.symm.trans bad) (by decide)
            · exact errors clean
          rw [rest]
          exact (going_concat tokened accepted).unrefused _
        · rw [rest, length_append]
          exact Nat.succ_le_succ tokened.bounded
      · rename_i errors
        obtain ⟨error, more, mem⟩ := exists_cons_of_ne_nil errors
        have text : error ≠ "" := validationErrors_text body error (mem ▸ mem_cons_self)
        have poll : ∃ poll ∈ after.calls, IsPoll poll := by
          refine ⟨_, answered.kept _ (split ▸ mem_append_right _ mem_cons_self), uid, rfl⟩
        refine ⟨⟨rfl, _, rfl, mem ▸ joined_text text⟩, ⟨(.documentDetails uuid, .response status body), ?_, .inr ⟨poll, errors⟩⟩, ?_⟩
        · rw [rest]
          exact mem_append_right _ mem_cons_self
        · rw [rest, length_append]
          exact Nat.succ_le_succ tokened.bounded

theorem rejection_text (first : Json) : rejection network first ≠ "" :=
  getD_text (or_text (fun _ => readString_text) fun _ => readString_text) (network.stringify_text _)

theorem parsed_error (invalid : (parseSubmissionResponse (readSubmission network body)).status = .invalid) :
    ∃ text, (parseSubmissionResponse (readSubmission network body)).error = some text ∧ text ≠ "" := by
  unfold parseSubmissionResponse at invalid ⊢
  split
  · exact ⟨_, rfl, by decide⟩
  · rename_i error more rejected
    have mem : some error ∈ (readSubmission network body).rejectedDocuments := rejected ▸ mem_cons_self
    obtain ⟨first, -, read⟩ := mem_map.mp mem
    split at read
    · cases read
      exact ⟨_, rfl, rejection_text first⟩
    · cases read
  · split
    · exact ⟨_, rfl, by decide⟩
    · rename_i rejected _ _ _ accepted
      rw [rejected] at invalid
      simp only [accepted] at invalid
      cases invalid
    · exact ⟨_, rfl, by decide⟩

theorem parsed_uuid (read : (parseSubmissionResponse (readSubmission network body)).uuid = some uuid) : uuid ≠ "" := by
  unfold parseSubmissionResponse at read
  split at read
  · cases read
  · cases read
  · split at read
    · cases read
    · rename_i doc more accepted
      have mem : some doc ∈ (readSubmission network body).acceptedDocuments := accepted ▸ mem_cons_self
      obtain ⟨first, -, own⟩ := mem_map.mp mem
      split at own
      · cases own
        exact readString_text read
      · cases own
    · cases read

theorem followUp_ensures (usable : credentials.usable = true)
    (answered : Answered network 0 [] .submission body connection) :
    Call.Ensures (Completed network (2 * (statusPollAttempts + 2))) (Ended network (2 * (statusPollAttempts + 2)))
      (followUp network credentials environment (parseSubmissionResponse (readSubmission network body))) connection := by
  obtain ⟨before, status, split', fine, tokened⟩ := answered.answered
  have bounded : connection.calls.length ≤ 2 := by
    rw [split', length_append]
    exact Nat.succ_le_succ tokened.bounded
  have last : (Request.submission, HttpAnswer.response status body) ∈ connection.calls :=
    split' ▸ mem_append_right _ mem_cons_self
  unfold followUp
  split
  · rename_i invalid
    obtain ⟨text, error, nonempty⟩ := parsed_error invalid
    exact ⟨⟨rfl, text, error, nonempty⟩, ⟨_, last, .inr (.inl invalid)⟩, bounded.trans (by decide)⟩
  · rename_i pending
    split
    · rename_i submissionUid identified
      have accepted : ¬ Refuses network True (.submission, .response status body) := by
        rintro (bad | invalid | ⟨missing, -⟩)
        · exact absurd (fine.symm.trans bad) (by decide)
        · exact pending invalid
        · exact absurd (identified.symm.trans missing) (by simp)
      have going : Going network 2 connection.calls := split' ▸ going_concat tokened accepted
      exact pollSubmission_ensures usable going fun _ => parsed_uuid
    · rename_i uuid unidentified own
      have accepted : ¬ Refuses network True (.submission, .response status body) := by
        rintro (bad | invalid | ⟨-, missing⟩)
        · exact absurd (fine.symm.trans bad) (by decide)
        · exact pending invalid
        · exact absurd (own.symm.trans missing) (by simp)
      have going : Going network 2 connection.calls := split' ▸ going_concat tokened accepted
      refine Call.ensures_bind ((details_ensures usable going fun body after details => ?_).mono (fun _ _ done => done)
        fun _ _ ended => ended.weaken (by decide))
      obtain ⟨earlier, status', rest, good, tokened'⟩ := details.answered
      have unpolled : ¬ ∃ poll ∈ after.calls, IsPoll poll := by
        rintro ⟨poll, mem, submissionUid, polls⟩
        rcases details.only poll mem with old | token | own'
        · rcases answered.only poll old with none | token | posted
          · cases none
          · cases polls.symm.trans token
          · cases polls.symm.trans posted
        · cases polls.symm.trans token
        · cases polls.symm.trans own'
      refine ⟨rfl, fun exchange mem refuses => ?_, ?_, .detailed earlier status' body rest good (parsed_uuid own) rfl⟩
      · rw [rest] at mem
        rcases mem_append.mp mem with old | new
        · exact tokened'.accepted exchange old (refuses.mono fun _ => trivial)
        · rw [mem_singleton.mp new] at refuses
          rcases refuses with bad | ⟨polled, -⟩
          · exact absurd (good.symm.trans bad) (by decide)
          · exact unpolled polled
      · rw [rest, length_append]
        exact (Nat.succ_le_succ tokened'.bounded).trans (by decide)
    · rename_i unidentified unnamed
      exact ⟨failed_caught (by decide), ⟨_, last, .inr (.inr ⟨unidentified, unnamed⟩)⟩, bounded.trans (by decide)⟩

def Ends (network : Network) (result : MyInvoisSubmitResult) (after : Connection) : Prop :=
  Failed result ∧ after.calls = [] ∨ Ended network (2 * (statusPollAttempts + 2)) result after ∨
    Completed network (2 * (statusPollAttempts + 2)) result after

theorem submitOnline_ensures (network : Network) (ctx : MyInvoisSubmitContext) (cached : Option CachedToken) :
    Call.Ensures (Ends network) (Ends network) (submitOnline network ctx) ⟨[], cached⟩ := by
  unfold submitOnline
  split
  · refine .inl ⟨⟨rfl, _, rfl, fun empty => ?_⟩, rfl⟩
    unfold missingFields at empty
    rw [String.append_eq_empty_iff] at empty
    exact absurd empty.1 (by decide)
  · split
    · exact .inl ⟨failed_caught (by decide), rfl⟩
    · rename_i credentials found
      unfold postDocument
      by_cases usable : credentials.usable = true
      · have start : Going network 0 (⟨[], cached⟩ : Connection).calls := ⟨le_refl 0, fun _ none => nomatch none⟩
        have le : 0 + 2 ≤ 2 * (statusPollAttempts + 2) := by decide
        refine Call.ensures_bind ((authorized_ensures usable start fun _ => failed_caught).mono (fun body after answered => ?_)
          fun _ _ ended => .inr (.inl (ended.weaken le)))
        exact (followUp_ensures usable answered).mono (fun _ _ completed => .inr (.inr completed)) fun _ _ ended => .inr (.inl ended)
      · unfold authorized fetchMyInvoisAccessToken
        rw [if_pos usable]
        exact .inl ⟨failed_caught (by decide), rfl⟩

theorem submit_ends (network : Network) (ctx : MyInvoisSubmitContext) (cached : Option CachedToken) :
    ∃ after, after.calls = (submit network ctx cached).calls ∧ Ends network (submit network ctx cached).result after := by
  have ensures := submitOnline_ensures network ctx cached
  refine ⟨(submitOnline network ctx ⟨[], cached⟩).2, rfl, ?_⟩
  unfold Call.Ensures at ensures
  unfold submit
  rcases run : submitOnline network ctx ⟨[], cached⟩ with ⟨result | result, after⟩
  · rw [run] at ensures
    exact ensures
  · rw [run] at ensures
    exact ensures

/-! ## What a submission is backed by -/

theorem not_failed_of_silent (silent : result.error = none) : ¬ Failed result := by
  rintro ⟨-, text, error, -⟩
  exact absurd (silent.symm.trans error) (by simp)

theorem failed_not_valid (failed : Failed result) : result.status ≠ .valid := fun valid =>
  absurd (failed.1.symm.trans valid) (by decide)

theorem getLast?_concat {Row : Type} (before : List Row) (row : Row) : (before ++ [row]).getLast? = some row := by simp

theorem confirmed_iff {run : Submission} (last : LastWord run.result run.calls) (clean : ∀ exchange ∈ run.calls, ¬ Reports exchange) :
    (run.result.status = .valid → run.result.uuid ≠ "" ∧ ∃ before status body after,
      run.calls = before ++ (.documentDetails run.result.uuid, .response status body) :: after ∧
        (∀ exchange ∈ after, exchange.1 ≠ .documentDetails run.result.uuid) ∧ okStatus status = true ∧ Confirms body) ↔
      ∀ last ∈ run.calls.getLast?, PlainWord last := by
  cases last with
  | polled before submissionUid status body split same unnamed =>
    rw [split, getLast?_concat]
    constructor
    · rintro confirmed last ⟨⟩
      intro valid
      have told : run.result.status = .valid := same.trans valid
      exact (confirmed told).1 (unnamed told)
    · intro plain valid
      exact absurd (same.symm.trans valid) (plain _ rfl)
  | detailed before status body split fine named same =>
    have unreported : ¬ Reports (.documentDetails run.result.uuid, .response status body) :=
      clean _ (split ▸ mem_append_right _ mem_cons_self)
    have errorless : ∀ entry ∈ readArray body "validationResults", ¬ ValidationError entry := fun entry mem error =>
      unreported (.inr (.inr ⟨entry, mem, error⟩))
    constructor
    · intro confirmed last found
      rw [split, getLast?_concat] at found
      obtain rfl := Option.mem_some_iff.mp found
      intro valid
      obtain ⟨-, earlier, status', body', after, parts, rest, -, confirms⟩ := confirmed (same.trans valid)
      have ends := congrArg List.getLast? (split.symm.trans parts)
      rw [getLast?_concat] at ends
      rcases eq_nil_or_concat after with rfl | ⟨more, final, rfl⟩
      · rw [getLast?_concat] at ends
        cases ends
        exact confirms.valid
      · rw [concat_eq_append, ← cons_append, ← append_assoc, getLast?_concat] at ends
        have own : final = (.documentDetails run.result.uuid, .response status body) := (Option.some.inj ends).symm
        refine absurd ?_ (rest final (by simp))
        rw [own]
    · intro plain valid
      refine ⟨named, before, status, body, [], split, (fun _ none => nomatch none), fine, ?_, errorless⟩
      rw [split, getLast?_concat] at plain
      exact plain _ rfl (same.symm.trans valid)

/--
For every sequence of answers, a submission is backed by them just if each rejection among them is read, or there is none
and the last answer states a validity in so many words.
-/
theorem submission_backed (network : Network) (ctx : MyInvoisSubmitContext) (cached : Option CachedToken) :
    Backed (submit network ctx cached) ↔ Readable network (submit network ctx cached).calls := by
  obtain ⟨after, same, ends⟩ := submit_ends network ctx cached
  unfold Readable
  rw [← same]
  rcases ends with ⟨failed, none⟩ | ended | completed
  · rw [none]
    refine iff_of_true ⟨fun valid => absurd valid (failed_not_valid failed), fun _ => failed, ?_⟩ ?_
    · rw [← same, none]
      exact Nat.zero_le _
    · exact .inr ⟨(fun _ listed => nomatch listed), fun _ listed => nomatch listed⟩
  · refine iff_of_true ⟨fun valid => absurd valid (failed_not_valid ended.failed), fun _ => ended.failed, ?_⟩ (.inl ended.refused)
    exact same ▸ ended.bounded
  · have unrefused : ¬ ∃ exchange ∈ after.calls, Refuses network (∃ poll ∈ after.calls, IsPoll poll) exchange := by
      rintro ⟨exchange, member, refuses⟩
      exact completed.accepted exchange member refuses
    have last := same ▸ completed.last
    rw [or_iff_right unrefused, same]
    constructor
    · intro backed
      have clean : ∀ exchange ∈ (submit network ctx cached).calls, ¬ Reports exchange := fun exchange member reports =>
        not_failed_of_silent completed.silent (backed.told ⟨exchange, member, reports⟩)
      exact ⟨clean, (confirmed_iff last clean).mp backed.confirmed⟩
    · rintro ⟨clean, plain⟩
      refine ⟨(confirmed_iff last clean).mpr plain, ?_, same ▸ completed.bounded⟩
      rintro ⟨exchange, member, reports⟩
      exact absurd reports (clean exchange member)

namespace Sample

def lhdnParty : EInvoiceDocumentParty :=
  ⟨"C1", "MC Residensi", none, none, some "81100", none, none, none, ⟨["Jalan 1"], "Kuala Lumpur", "50000", "WP", "MYS"⟩⟩

def lhdnDocument : EInvoiceDocument :=
  ⟨"1.1", "01", "INV-1", 0, "MYR", lhdnParty, lhdnParty, [⟨1, "Maintenance", 1, 100, 100, "06", 0, 0⟩], 100, 0, 100, 100⟩

def live : MyInvoisSubmitContext := ⟨lhdnDocument, .production, some ⟨some "id", some "secret"⟩⟩

def cachedToken : CachedToken := ⟨"token", 3600000⟩

def answering (bodies : List Json) : Network where
  answer n := .response 200 (bodies.getD n .null)
  now _ := 0
  stringify _ := "error"
  stringify_text _ := by decide

def accepted : Json := .object [("submissionUid", .string "S1"), ("acceptedDocuments", .array [])]

def overall : Network := answering [accepted, .object [("overallStatus", .string "Valid")]]

def unread : Network := answering
  [.object [("acceptedDocuments", .array [.object [("uuid", .string "D1")]])],
    .object [("status", .string "Partially valid"), ("validationResults", .array [.object [("error", .string "TIN")]])]]

end Sample

theorem validity_unbacked : ¬ Backed (submit Sample.overall Sample.live (some Sample.cachedToken)) ∧
    ¬ Backed (submit Sample.unread Sample.live (some Sample.cachedToken)) := by
  constructor
  · intro backed
    have valid : (submit Sample.overall Sample.live (some Sample.cachedToken)).result.status = .valid := by decide +kernel
    have named := (backed.confirmed valid).1
    revert named
    decide +kernel
  · intro backed
    have valid : (submit Sample.unread Sample.live (some Sample.cachedToken)).result.status = .valid := by decide +kernel
    have calls : (submit Sample.unread Sample.live (some Sample.cachedToken)).calls =
        [(.submission, Sample.unread.answer 0), (.documentDetails "D1", Sample.unread.answer 1)] := by with_unfolding_all rfl
    refine failed_not_valid (backed.told ⟨(.documentDetails "D1", Sample.unread.answer 1), ?_, ?_⟩) valid
    · rw [calls]
      exact List.mem_cons_of_mem _ List.mem_cons_self
    · exact .inr (.inr ⟨.object [("error", .string "TIN")], List.mem_cons_self, .inl ⟨_, rfl, rfl⟩⟩)

end SmartResidence.EInvoice.Http
