import SmartResidence.Billing.Sessions
import SmartResidence.Billing.Operations

/-!
# What the shared scripts write
-/

namespace SmartResidence.Billing

open Foundation Foundation.Discipline

namespace Sql

variable {discipline : Discipline Db Lock} {condition : Statement → Db → Db → Prop}
  {standing : Standing Db Lock}

theorem safe_check {Value : Type} {wanted : Value → Standing Db Lock → Prop} {result : Result Value}
    (fits : ∀ value, result = .ok value → wanted value standing) :
    discipline.Safe condition (Upon wanted) (check result) standing := by
  cases result with
  | ok value => exact fits value rfl
  | error failure => exact trivial

variable {wanted : Unit → Standing Db Lock → Prop}

theorem safe_record {posting : LedgerPosting} (fits : ∀ now, discipline.Rely standing.held standing.seen now →
      wanted () (standing.wrote now (keyLocks [posting]) fun db => db.record posting)) :
    discipline.Safe condition (Upon wanted) (record posting) standing :=
  safe_write fits

theorem safe_issueInTx {wanted : Id → Standing Db Lock → Prop} {input : IssueReceiptInput}
    (fits : ∀ id seen locks after, discipline.Rely standing.held standing.seen seen →
      (standing.pending seen).usesId id = false →
      discipline.Extends (standing.wrote seen (.newId id :: locks) fun db => db) after
        (fun db => db.addReceipt (receiptRow input id)) → wanted id after) :
    discipline.Safe condition (Upon wanted) (issueInTx input) standing := by
  apply safe_bind
  refine safe_read fun condoSeen condoRely => ?_
  apply safe_bind
  refine safe_check fun _ _ => ?_
  apply safe_bind
  refine safe_write fun numberSeen numberRely => ?_
  apply safe_bind
  refine safe_newId fun seen rely id unused => ?_
  apply safe_bind
  refine safe_statement fun now later _ _ _ => ?_
  have earlier : discipline.Rely standing.held standing.seen seen :=
    (condoRely.trans numberRely).trans (rely.mono (List.subset_append_right _ _))
  exact safe_pure (fits id seen [.receiptNumbers input.condoId] _ earlier unused (.wrote later))

theorem safe_insertPayment {wanted : Id → Standing Db Lock → Prop} {row : Id → Payment}
    (fits : ∀ id seen now, discipline.Rely standing.held standing.seen seen →
      (standing.pending seen).usesId id = false →
      discipline.Rely (.newId id :: standing.held) seen now →
      wanted id (standing.wrote now [.payment id, .newId id] fun db => db.addPayment (row id))) :
    discipline.Safe condition (Upon wanted) (insertPayment row) standing := by
  apply safe_bind
  refine safe_newId fun seen rely id unused => ?_
  apply safe_bind
  exact safe_write fun now later => safe_pure (fits id seen now rely unused later)

theorem safe_updatePayments {wanted : ℕ → Standing Db Lock → Prop} {pick : Payment → Bool}
    {change : Payment → Payment}
    (fits : ∀ now (matching : List Payment), discipline.Rely standing.held standing.seen now →
      (∀ row, row ∈ matching ↔ row ∈ (standing.pending now).payments ∧ pick row = true) →
      wanted matching.length (standing.wrote now (matching.map fun row => .payment row.id)
        fun db => db.updatePayments (fun row => decide (row.id ∈ matching.map Payment.id)) change)) :
    discipline.Safe condition (Upon wanted) (updatePayments pick change) standing := by
  refine safe_statement fun now rely _ count counted => ?_
  rw [Except.ok.injEq, List.countP_eq_length_filter] at counted
  rw [← counted]
  exact fits now _ rely fun row => List.mem_filter

theorem safe_updateAdvancePayments {wanted : ℕ → Standing Db Lock → Prop} {pick : AdvancePayment → Bool}
    {change : AdvancePayment → AdvancePayment}
    (fits : ∀ now (matching : List AdvancePayment), discipline.Rely standing.held standing.seen now →
      (∀ row, row ∈ matching ↔ row ∈ (standing.pending now).advancePayments ∧ pick row = true) →
      wanted matching.length (standing.wrote now (matching.map fun row => .advancePayment row.id)
        fun db => db.updateAdvancePayments
          (fun row => decide (row.id ∈ matching.map AdvancePayment.id)) change)) :
    discipline.Safe condition (Upon wanted) (updateAdvancePayments pick change) standing := by
  refine safe_statement fun now rely _ count counted => ?_
  rw [Except.ok.injEq, List.countP_eq_length_filter] at counted
  rw [← counted]
  exact fits now _ rely fun row => List.mem_filter

theorem safe_consumeCredit {unitId : Id} {amount : ℤ} (fits : ∀ now, discipline.Rely standing.held standing.seen now →
      hasCredit unitId amount (standing.pending now) = true →
      wanted () (standing.wrote now [.unitAccount unitId] fun db => db.incrementCredit unitId (- amount))) :
    discipline.Safe condition (Upon wanted) (consumeCredit unitId amount) standing := by
  refine safe_statement fun now rely _ _ enough => ?_
  rw [throwIf_eq_ok, Bool.not_eq_false] at enough
  rw [if_pos enough]
  exact fits now rely enough

section

variable {wanted : Unit → Standing Db Lock → Prop}

theorem quiet_record {posting : LedgerPosting} (neutral : discipline.Neutral fun db => db.record posting)
    (fits : ∀ after, Quietly discipline standing after → wanted () after) :
    discipline.Safe condition (Upon wanted) (record posting) standing :=
  safe_write fun _ rely => fits _ (.wrote neutral rely)

variable (receipts : ∀ receipt, discipline.Neutral fun db => db.addReceipt receipt)
  (shares : ∀ invoice paymentId occurredAt actorUserId allocations, discipline.Neutral fun db =>
    db.recordMany (List.map (paymentPosting invoice paymentId occurredAt actorUserId) allocations))

include receipts in
theorem quiet_issueInTx {input : IssueReceiptInput} {wanted : Id → Standing Db Lock → Prop}
    (fits : ∀ id after, Quietly discipline standing after → wanted id after) :
    discipline.Safe condition (Upon wanted) (issueInTx input) standing :=
  safe_issueInTx fun id _ _ after rely _ issued =>
    fits id after ((Quietly.wrote neutral_id rely).trans ⟨_, receipts _, issued⟩)

include shares in
theorem quiet_recordPaymentAllocation {invoiceId paymentId : Id} {amount : ℤ} {occurredAt : Instant}
    {actorUserId : Option Id} (fits : ∀ after, Quietly discipline standing after → wanted () after) :
    discipline.Safe condition (Upon wanted)
      (recordPaymentAllocation invoiceId paymentId amount occurredAt actorUserId) standing := by
  unfold recordPaymentAllocation
  apply safe_bind
  refine safe_read fun seen rely => ?_
  have read : Quietly discipline standing (standing.wrote seen [] id) := .wrote neutral_id rely
  split
  · exact safe_pure (fits _ read)
  · exact safe_write fun now later => fits _ (read.trans (.wrote (shares _ _ _ _ _) later))

include receipts shares

theorem quiet_bookPayment {now : Instant} {invoice : Invoice} {paymentId : Id} {actorUserId : Option Id}
    (fits : ∀ after, Quietly discipline standing after → wanted () after) :
    discipline.Safe condition (Upon wanted) (bookPayment now invoice paymentId actorUserId) standing := by
  apply safe_bind
  refine safe_read fun seen rely => ?_
  have read : Quietly discipline standing (standing.wrote seen [] id) := .wrote neutral_id rely
  split
  · exact safe_pure (fits _ read)
  · apply safe_bind
    refine quiet_recordPaymentAllocation shares fun after booked => ?_
    split
    · exact safe_pure (fits _ (read.trans booked))
    · apply safe_bind
      exact quiet_issueInTx receipts fun _ after issued => safe_pure (fits _ ((read.trans booked).trans issued))

theorem quiet_settleInvoice {now : Instant} {invoiceId paymentId : Id} {actorUserId : Option Id}
    (invoices : ∀ id change, discipline.Neutral fun db => db.changeInvoice id change)
    (fits : ∀ after, Quietly discipline standing after → wanted () after) :
    discipline.Safe condition (Upon wanted) (settleInvoice now invoiceId paymentId actorUserId)
      standing := by
  apply safe_bind
  refine safe_read fun summed first => ?_
  apply safe_bind
  refine safe_statement fun looked second _ _ _ => ?_
  have read : Quietly discipline standing ((standing.wrote summed [] id).wrote looked [] id) :=
    (Quietly.wrote neutral_id first).trans (.wrote neutral_id second)
  split
  · exact safe_pure (fits _ read)
  · apply safe_bind
    refine safe_statement fun written third _ _ _ => ?_
    refine quiet_bookPayment receipts shares fun after booked => fits _ (Quietly.trans ?_ booked)
    exact read.trans (.wrote (invoices _ _) third)

end

end Sql

def schedule (env : Env) (log : List Request) (scripts : Fin 2 → Sql Unit)
    (check : System (Fin 2) Db Lock Statement ApiError Unit → Event (Fin 2) ApiError → Bool)
    (events : List (Event (Fin 2) ApiError)) :
    Result (Db × System (Fin 2) Db Lock Statement ApiError Unit) := do
  let start ← runAll env (fun _ _ => true) Sample.db log
  let finish ← orThrow ((System.start start scripts).play check events) (.failure "Not a schedule")
  return (start, finish)

theorem run_of_schedule {env : Env} {log : List Request} {scripts : Fin 2 → Sql Unit}
    {check : System (Fin 2) Db Lock Statement ApiError Unit → Event (Fin 2) ApiError → Bool}
    {events : List (Event (Fin 2) ApiError)} {start : Db} {finish : System (Fin 2) Db Lock Statement ApiError Unit}
    (scheduled : schedule env log scripts check events = .ok (start, finish)) :
    Reachable env start ∧ Run (Guarded (fun before event => check before event = true) System.Step)
      (System.start start scripts) events finish := by
  simp only [schedule, bind_eq_ok, orThrow_eq_ok] at scheduled
  obtain ⟨_, ran, _, played, rfl, rfl⟩ := scheduled
  exact ⟨⟨Sample.db, log, Sample.db_fresh, completes_of_runAll ran⟩, System.run_of_play played⟩

def moves (who : Fin 2) (choice count : ℕ) : List (Event (Fin 2) ApiError) :=
  List.replicate count (.move who choice)

end SmartResidence.Billing
