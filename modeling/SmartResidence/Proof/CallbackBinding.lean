import SmartResidence.Gateway.Callback
import SmartResidence.Proof.Requests

/-!
# Which payment a gateway callback settles
-/

namespace SmartResidence.Billing

open Foundation

variable {env : Env} {db after : Db} {provider : PaymentProvider} {body : Body} {now : Instant}
  {target row : CallbackTarget} {ref : String} {reported : ℚ}

def adapterRef (body : Body) : PaymentProvider → Result String
  | .ipay88 => textOr (field body "RefNo") ""
  | .razer => textOr (field body "orderid") ""
  | .duitnowQr => textOr ((field body "billRef").or ((field body "refNo").or (field body "orderid"))) ""
  | .tng => textOr ((field body "orderid").or (field body "orderId")) ""
  | .stripe | .fpx | .manual => .ok ""

theorem verifySigned_ref {opts : WebhookVerifyOptions} {status : String} {success : List String}
    {signatureOf : Body → String → Result String} {verified : Verified}
    (done : verifySigned opts ref status success signatureOf = .ok (some verified)) : verified.providerRef = ref := by
  simp only [verifySigned] at done
  split at done
  · simp at done
  · split at done
    · split at done <;> simp at done
      rw [← done]
    · simp only [bind_eq_ok] at done
      obtain ⟨_, _, _, _, done⟩ := done
      split at done <;> simp at done
      rw [← done]

theorem verifyWebhook_ref {verify : Env → WebhookVerifyOptions → Result (Option Verified)}
    {opts : WebhookVerifyOptions} {verified : Verified} (adapter : adapterFor provider = some verify)
    (done : verify env opts = .ok (some verified)) : adapterRef opts.body provider = .ok verified.providerRef := by
  cases provider with
  | stripe =>
    cases adapter
    simp only [stripeVerifyWebhook] at done
    split at done <;> simp at done
  | fpx =>
    cases adapter
    simp at done
  | ipay88 =>
    cases adapter
    simp only [ipay88VerifyWebhook] at done
    split at done
    · simp at done
    · simp only [bind_eq_ok] at done
      obtain ⟨_, _, _, _, refNo, read, _, _, _, _, _, _, _, _, done⟩ := done
      split at done <;> simp at done
      rw [adapterRef, read, ← done]
  | razer =>
    cases adapter
    simp only [fiuuVerifyWebhook] at done
    split at done
    · simp at done
    · simp only [bind_eq_ok] at done
      obtain ⟨_, _, orderid, read, _, _, _, _, _, _, _, _, _, _, _, _, _, _, done⟩ := done
      split at done <;> simp at done
      rw [adapterRef, read, ← done]
  | duitnowQr =>
    cases adapter
    simp only [duitnowVerifyWebhook, bind_eq_ok] at done
    obtain ⟨billRef, read, _, _, done⟩ := done
    rw [adapterRef, read, verifySigned_ref done]
  | tng =>
    cases adapter
    simp only [tngVerifyWebhook, bind_eq_ok] at done
    obtain ⟨orderid, read, _, _, done⟩ := done
    rw [adapterRef, read, verifySigned_ref done]
  | manual => cases adapter

theorem verifyCallback_ref {condoId : Id} {verified : Verified}
    (done : verifyCallback env db provider body condoId = .ok (some verified)) :
    adapterRef body provider = .ok verified.providerRef := by
  rw [verifyCallback] at done
  split at done
  · simp at done
  · rename_i adapter
    exact verifyWebhook_ref adapter done

/-- What a callback has passed before it settles, the row being the one its reference leads to: the
credentials that verified it are those of the row's condo, and the amount is compared with the row's. -/
structure Accepted (env : Env) (db : Db) (provider : PaymentProvider) (body : Body)
    (target : CallbackTarget) : Prop where
  lookup : ∃ ref, callbackRef body = .ok ref ∧ ref ≠ "" ∧ findCallbackTarget env db ref = some target
  sameProvider : target.provider = provider
  verified : ∃ condoId verified, target.condoId? db = some condoId ∧
    verifyCallback env db provider body condoId = .ok (some verified) ∧ verified.succeeded = true
  amount : ∃ reported, reportedAmount env body target.amount = .ok (some reported) ∧
    |reported - target.amount| ≤ 1

theorem outcomeAction_settle {verified : Verified} :
    outcomeAction env body target verified = .ok (.settle row ref reported) ↔
      row = target ∧ ref = verified.providerRef ∧ verified.succeeded = true ∧
        reportedAmount env body target.amount = .ok (some reported) ∧ |reported - target.amount| ≤ 1 := by
  cases succeeded : verified.succeeded with
  | false =>
    simp only [outcomeAction, succeeded, if_true, bind_eq_ok, pure_eq_ok, reduceCtorEq, and_false, exists_false,
      false_and]
  | true =>
    simp only [outcomeAction, succeeded, Bool.true_eq_false, if_false, bind_eq_ok, true_and]
    constructor
    · rintro ⟨amount, read, done⟩
      cases amount with
      | none => simp at done
      | some amount =>
        simp only [pure_eq_ok] at done
        split at done
        · cases done
        · rename_i close
          cases done
          exact ⟨rfl, rfl, read, not_lt.mp close⟩
    · rintro ⟨rfl, rfl, read, close⟩
      exact ⟨some reported, read, by simp [not_lt.mpr close]⟩

theorem decideCallback_settle : decideCallback env db provider body = .ok (.settle target ref reported) ↔
    ∃ callerRef condoId verified, callbackRef body = .ok callerRef ∧ callerRef ≠ "" ∧
      findCallbackTarget env db callerRef = some target ∧ target.provider = provider ∧
      target.condoId? db = some condoId ∧
      verifyCallback env db provider body condoId = .ok (some verified) ∧
      outcomeAction env body target verified = .ok (.settle target ref reported) := by
  simp only [decideCallback, bind_eq_ok]
  constructor
  · rintro ⟨callerRef, called, done⟩
    split at done
    · simp at done
    · rename_i named
      split at done
      · simp at done
      · rename_i found lookup
        split at done
        · simp at done
        · rename_i same
          split at done
          · simp at done
          · rename_i condoId condo
            simp only [bind_eq_ok] at done
            obtain ⟨verified, verify, done⟩ := done
            cases verified with
            | none => simp at done
            | some verified =>
              obtain ⟨rfl, _⟩ := outcomeAction_settle.mp done
              exact ⟨callerRef, condoId, verified, called, named, lookup, not_not.mp same, condo, verify, done⟩
  · rintro ⟨callerRef, condoId, verified, called, named, lookup, same, condo, verify, done⟩
    refine ⟨callerRef, called, ?_⟩
    simp only [named, if_false, lookup, same, not_true, condo, bind_eq_ok, ne_eq]
    exact ⟨some verified, verify, done⟩

theorem Accepted.unique (first : Accepted env db provider body row)
    (second : Accepted env db provider body target) : row = target := by
  obtain ⟨ref, called, _, lookup⟩ := first.lookup
  obtain ⟨other, also, _, found⟩ := second.lookup
  rw [called, Except.ok.injEq] at also
  rw [← also, lookup] at found
  exact Option.some.inj found

theorem Accepted.settles (accepted : Accepted env db provider body target)
    (field : adapterRef body provider = .ok ref) :
    ∃ reported, decideCallback env db provider body = .ok (.settle target ref reported) := by
  obtain ⟨callerRef, called, named, lookup⟩ := accepted.lookup
  obtain ⟨condoId, verified, condo, verify, succeeded⟩ := accepted.verified
  obtain ⟨reported, read, close⟩ := accepted.amount
  have same := verifyCallback_ref verify
  rw [field, Except.ok.injEq] at same
  exact ⟨reported, decideCallback_settle.mpr ⟨callerRef, condoId, verified, called, named, lookup,
    accepted.sameProvider, condo, verify, outcomeAction_settle.mpr ⟨rfl, same, succeeded, read, close⟩⟩⟩

theorem accepted_of_settle
    (decided : decideCallback env db provider body = .ok (.settle target ref reported)) :
    Accepted env db provider body target ∧ adapterRef body provider = .ok ref := by
  obtain ⟨callerRef, condoId, verified, called, named, lookup, same, condo, verify, outcome⟩ :=
    decideCallback_settle.mp decided
  obtain ⟨_, rfl, succeeded, read, close⟩ := outcomeAction_settle.mp outcome
  exact ⟨⟨⟨callerRef, called, named, lookup⟩, same, ⟨condoId, verified, condo, verify, succeeded⟩,
    ⟨reported, read, close⟩⟩, verifyCallback_ref verify⟩

/-! ## What an action moves -/

def CallbackTarget.status : CallbackTarget → PaymentStatus
  | .payment row => row.status
  | .advance row => row.status

def CallbackTarget.settled (env : Env) (db : Db) (ref : String) : CallbackTarget → Option CallbackTarget
  | .payment _ => (findPaymentByProviderRef env db ref).map .payment
  | .advance _ => (findAdvancePaymentByProviderRef env db ref).map .advance

def Moved (db after : Db) : CallbackTarget → Prop
  | .payment row => row ∈ db.payments ∧ row.status ≠ .succeeded ∧
      ∃ new ∈ after.payments, new.id = row.id ∧ new.status = .succeeded
  | .advance row => row ∈ db.advancePayments ∧ row.status ≠ .succeeded ∧
      ∃ new ∈ after.advancePayments, new.id = row.id ∧ new.status = .succeeded

structure NothingMoves (db after : Db) : Prop where
  payments : ∀ new ∈ after.payments, new.status = .succeeded → new.id < db.nextId →
    ∃ old ∈ db.payments, old.id = new.id ∧ old.status = .succeeded
  advances : ∀ new ∈ after.advancePayments, new.status = .succeeded → new.id < db.nextId →
    ∃ old ∈ db.advancePayments, old.id = new.id ∧ old.status = .succeeded

theorem NothingMoves.refl : NothingMoves db db :=
  ⟨fun new mem status _ => ⟨new, mem, rfl, status⟩, fun new mem status _ => ⟨new, mem, rfl, status⟩⟩

theorem NothingMoves.not_moved (nothing : NothingMoves db after) (wf : WellFormed db) : ¬ Moved db after row := by
  cases row with
  | payment row =>
    rintro ⟨mem, before, new, found, same, status⟩
    obtain ⟨old, inside, also, succeeded⟩ := nothing.payments new found status
      (same ▸ wf.payment_id_lt mem)
    rw [wf.payment_unique inside mem (also.trans same)] at succeeded
    exact before succeeded
  | advance row =>
    rintro ⟨mem, before, new, found, same, status⟩
    obtain ⟨old, inside, also, succeeded⟩ := nothing.advances new found status
      (same ▸ wf.advance_id_lt mem)
    rw [eq_of_key_eq wf.advanceIds.distinct inside mem (also.trans same)] at succeeded
    exact before succeeded

theorem nothingMoves_payments {pick : Payment → Bool} {change : Payment → Payment}
    (quiet : ∀ row, (change row).status = .succeeded → row.status = .succeeded ∧ (change row).id = row.id) :
    NothingMoves db (db.updatePayments pick change) := by
  refine ⟨fun new mem status _ => ?_, fun new mem status _ => ⟨new, mem, rfl, status⟩⟩
  obtain ⟨old, inside, rfl⟩ := mem_updateWhere.mp mem
  split at status
  · rename_i own
    rw [if_pos own]
    exact ⟨old, inside, (quiet old status).2.symm, (quiet old status).1⟩
  · rename_i other
    rw [if_neg other]
    exact ⟨old, inside, rfl, status⟩

theorem nothingMoves_advances {pick : AdvancePayment → Bool} {change : AdvancePayment → AdvancePayment}
    (quiet : ∀ row, (change row).status = .succeeded → row.status = .succeeded ∧ (change row).id = row.id) :
    NothingMoves db (db.updateAdvancePayments pick change) := by
  refine ⟨fun new mem status _ => ⟨new, mem, rfl, status⟩, fun new mem status _ => ?_⟩
  obtain ⟨old, inside, rfl⟩ := mem_updateWhere.mp mem
  split at status
  · rename_i own
    rw [if_pos own]
    exact ⟨old, inside, (quiet old status).2.symm, (quiet old status).1⟩
  · rename_i other
    rw [if_neg other]
    exact ⟨old, inside, rfl, status⟩

theorem nothingMoves_failed {status : String} : NothingMoves db (markPaymentFailed env now db ref status) ∧
      NothingMoves db (markAdvancePaymentFailed env now db ref status) := by
  constructor
  · rw [markPaymentFailed]
    split
    · exact .refl
    · exact nothingMoves_payments fun row status => by cases status
  · rw [markAdvancePaymentFailed]
    split
    · exact .refl
    · exact nothingMoves_advances fun row status => by cases status

theorem nothingMoves_flagged {expected : ℚ} : NothingMoves db (flagPaymentForReview env now db ref reported expected) ∧
      NothingMoves db (flagAdvancePaymentForReview env now db ref reported expected) := by
  constructor
  · rw [flagPaymentForReview]
    split
    · exact .refl
    · split
      · exact .refl
      · exact nothingMoves_payments fun row status => ⟨status, rfl⟩
  · rw [flagAdvancePaymentForReview]
    split
    · exact .refl
    · split
      · exact .refl
      · exact nothingMoves_advances fun row status => ⟨status, rfl⟩

/-! ## Settling moves the pending row its reference leads to -/

theorem moved_confirmed {payment : Payment} {later : ℤ} (wf : WellFormed db)
    (commit : Commit db (.confirmed payment later) after) (mem : payment ∈ db.payments) :
    Moved db after row ↔ row = .payment payment := by
  cases commit with
  | @confirmed now _ invoice _ _ _ pending =>
    constructor
    · intro moved
      cases row with
      | payment row =>
        obtain ⟨inside, before, new, found, same, status⟩ := moved
        rcases succeeded_confirming found status with old | own
        · rw [wf.payment_unique old inside same] at status
          exact absurd status before
        · rw [wf.payment_unique inside mem (same.symm.trans own)]
      | advance row =>
        obtain ⟨inside, before, new, found, same, status⟩ := moved
        rw [eq_of_key_eq wf.advanceIds.distinct found inside same] at status
        exact absurd status before
    · rintro rfl
      refine ⟨mem, by simp [pending], succeed now payment, ?_, rfl, rfl⟩
      refine mem_updateWhere.mpr ⟨succeed now payment, mem_updateWhere.mpr ⟨payment, mem, ?_⟩, ?_⟩
      · simp [isPending, pending]
      · simp [succeed]

theorem moved_markPaymentSucceeded (wf : WellFormed db) (done : markPaymentSucceeded env now db ref = .ok after) :
    Moved db after row ↔ ∃ payment, row = .payment payment ∧ payment.status = .pending ∧
      findPaymentByProviderRef env db ref = some payment := by
  rw [markPaymentSucceeded] at done
  split at done
  · rename_i none
    cases done
    simp [NothingMoves.refl.not_moved wf, none]
  · rename_i payment found
    have mem := findPaymentByProviderRef_mem found
    have still : after = db → payment.status ≠ .pending → (Moved db after row ↔
        ∃ other, row = .payment other ∧ other.status = .pending ∧ some payment = some other) := by
      rintro rfl other
      simp only [NothingMoves.refl.not_moved wf, false_iff]
      rintro ⟨_, _, pending, same⟩
      exact other (Option.some.inj same ▸ pending)
    rw [found]
    split at done
    · rename_i succeeded
      exact still (pure_eq_ok.mp done).symm (by simp [succeeded])
    · rcases confirmPaymentInTx_commit wf mem done with ⟨same, other⟩ | ⟨pending, commit⟩
      · exact still same other
      · rw [moved_confirmed wf commit mem]
        constructor
        · rintro rfl
          exact ⟨payment, rfl, pending, rfl⟩
        · rintro ⟨_, rfl, _, same⟩
          rw [Option.some.inj same]

structure OldRows (db after : Db) : Prop where
  advances : after.advancePayments = db.advancePayments
  payments : ∀ row ∈ after.payments, row.id < db.nextId → row ∈ db.payments
  grows : db.nextId ≤ after.nextId

theorem oldRows_of_credits {owned : Invoice → Prop} {condoId : Id} {credits : List Change}
    (run : Run Commit db credits after) (of : CreditsOf owned condoId credits) : OldRows db after := by
  refine run.invariant_on (fun change => ∃ invoice amount, change = .creditApplied invoice condoId amount)
    (fun before change next good holds commit => ?_) ⟨rfl, fun _ found _ => found, le_rfl⟩
    fun change mem => ?_
  · obtain ⟨invoice, amount, rfl⟩ := good
    have grows := commit.nextId_le
    cases commit with
    | creditApplied =>
      refine ⟨holds.advances, fun row found old => ?_, holds.grows.trans grows⟩
      rcases List.mem_append.mp found with earlier | new
      · exact holds.payments row earlier old
      · rw [List.mem_singleton.mp new] at old
        exact absurd (lt_of_lt_of_le old holds.grows) (lt_irrefl _)
  · obtain ⟨invoice, amount, _, rfl⟩ := of change mem
    exact ⟨invoice, amount, rfl⟩

theorem moved_advanceConfirmed {middle : Db} {advance : AdvancePayment} (wf : WellFormed db)
    (commit : Commit db (.advanceConfirmed advance) middle) (old : OldRows middle after) :
    Moved db after row ↔ row = .advance advance := by
  have grows := commit.nextId_le
  cases commit with
  | @advanceConfirmed now _ _ _ mem pending =>
    constructor
    · intro moved
      cases row with
      | payment row =>
        obtain ⟨inside, before, new, found, same, status⟩ := moved
        have below : new.id < db.nextId := same ▸ wf.payment_id_lt inside
        have earlier : new ∈ db.payments := old.payments new found (lt_of_lt_of_le below grows)
        rw [wf.payment_unique earlier inside same] at status
        exact absurd status before
      | advance row =>
        obtain ⟨inside, before, new, found, same, status⟩ := moved
        rw [old.advances] at found
        obtain ⟨earlier, listed, rfl⟩ := mem_updateWhere.mp found
        split at status
        · rename_i own
          rw [if_pos own] at same
          have isAdvance := (of_decide_eq_true own).1
          rw [eq_of_key_eq wf.advanceIds.distinct inside mem (same.symm.trans isAdvance)]
        · rename_i other
          rw [if_neg other] at same
          rw [eq_of_key_eq wf.advanceIds.distinct listed inside same] at status
          exact absurd status before
    · rintro rfl
      refine ⟨mem, by simp [pending], succeedAdvance now advance, ?_, rfl, rfl⟩
      rw [old.advances]
      exact mem_updateWhere.mpr ⟨advance, mem, by simp [isPendingAdvance, pending]⟩

theorem moved_markAdvancePaymentSucceeded (wf : WellFormed db)
    (done : markAdvancePaymentSucceeded env now db ref = .ok after) :
    Moved db after row ↔ ∃ advance, row = .advance advance ∧ advance.status = .pending ∧
      findAdvancePaymentByProviderRef env db ref = some advance := by
  rw [markAdvancePaymentSucceeded] at done
  split at done
  · rename_i none
    cases done
    simp [NothingMoves.refl.not_moved wf, none]
  · rename_i advance found
    have still : after = db → advance.status ≠ .pending → (Moved db after row ↔
        ∃ other, row = .advance other ∧ other.status = .pending ∧ some advance = some other) := by
      rintro rfl other
      simp only [NothingMoves.refl.not_moved wf, false_iff]
      rintro ⟨_, _, pending, same⟩
      exact other (Option.some.inj same ▸ pending)
    rw [found]
    split at done
    · rename_i succeeded
      exact still (pure_eq_ok.mp done).symm (by simp [succeeded])
    · simp only [bind_eq_ok, Prod.exists] at done
      obtain ⟨confirmed, result, confirm, rest⟩ := done
      rcases confirmAdvanceInTx_commit wf (findAdvancePaymentByProviderRef_mem found) confirm with
        ⟨rfl, rfl, other⟩ | ⟨updated, rfl, pending, _, _, commit⟩
      · exact still (pure_eq_ok.mp rest).symm other
      · obtain ⟨credits, run, of⟩ := applyCreditToOutstanding_commits (commit.wellFormed wf) rest
        rw [moved_advanceConfirmed wf commit (oldRows_of_credits run of)]
        constructor
        · rintro rfl
          exact ⟨advance, rfl, pending, rfl⟩
        · rintro ⟨_, rfl, _, same⟩
          rw [Option.some.inj same]

theorem moved_performAction (wf : WellFormed db) {action : CallbackAction}
    (done : performAction env now db action = .ok after) :
    Moved db after row ↔ ∃ target ref reported, action = .settle target ref reported ∧
      target.settled env db ref = some row ∧ row.status = .pending := by
  have still : NothingMoves db after → (∀ target ref reported, action ≠ .settle target ref reported) →
      (Moved db after row ↔ ∃ target ref reported, action = .settle target ref reported ∧
        target.settled env db ref = some row ∧ row.status = .pending) := by
    intro nothing other
    simp only [nothing.not_moved wf, false_iff]
    rintro ⟨target, ref, reported, same, _⟩
    exact other target ref reported same
  cases action with
  | ignore | hold =>
    cases done
    exact still .refl (by simp)
  | fail target ref status =>
    cases target with
    | payment => exact still (pure_eq_ok.mp done ▸ nothingMoves_failed.1) (by simp)
    | advance => exact still (pure_eq_ok.mp done ▸ nothingMoves_failed.2) (by simp)
  | review target ref reported =>
    cases target with
    | payment => exact still (pure_eq_ok.mp done ▸ nothingMoves_flagged.1) (by simp)
    | advance => exact still (pure_eq_ok.mp done ▸ nothingMoves_flagged.2) (by simp)
  | settle target ref reported =>
    cases target with
    | payment payment =>
      rw [moved_markPaymentSucceeded wf done]
      constructor
      · rintro ⟨found, rfl, pending, lookup⟩
        exact ⟨_, _, _, rfl, by simp [CallbackTarget.settled, lookup], pending⟩
      · rintro ⟨_, _, _, same, lookup, pending⟩
        cases same
        obtain ⟨found, isFound, rfl⟩ := Option.map_eq_some_iff.mp lookup
        exact ⟨found, rfl, pending, isFound⟩
    | advance advance =>
      rw [moved_markAdvancePaymentSucceeded wf done]
      constructor
      · rintro ⟨found, rfl, pending, lookup⟩
        exact ⟨_, _, _, rfl, by simp [CallbackTarget.settled, lookup], pending⟩
      · rintro ⟨_, _, _, same, lookup, pending⟩
        cases same
        obtain ⟨found, isFound, rfl⟩ := Option.map_eq_some_iff.mp lookup
        exact ⟨found, rfl, pending, isFound⟩

theorem settled_of_reference (called : callbackRef body = .ok ref)
    (accepted : Accepted env db provider body target) : target.settled env db ref = some target := by
  obtain ⟨callerRef, also, _, lookup⟩ := accepted.lookup
  obtain rfl := Except.ok.inj (called.symm.trans also)
  rw [findCallbackTarget] at lookup
  split at lookup
  · rename_i found
    rw [← Option.some.inj lookup, CallbackTarget.settled, found]
    rfl
  · obtain ⟨advance, found, rfl⟩ := Option.map_eq_some_iff.mp lookup
    rw [CallbackTarget.settled, found]
    rfl

namespace Sample

def twoCondos : Db :=
  { Sample.db with
    condos := [⟨5, settings⟩, ⟨6, settings⟩]
    units := [⟨7, 5, none, none⟩, ⟨8, 6, none, none⟩]
    gatewayConnections := [⟨5, .duitnowQr, .live, true, some [("webhookSecret", "s5")]⟩,
      ⟨6, .duitnowQr, .live, true, some [("webhookSecret", "s6")]⟩] }

def twoQrCodes : List Request :=
  [⟨0, .create admin invoice⟩, ⟨0, .createPayment admin 0 .duitnowQr⟩,
    ⟨0, .create admin { invoice with unitId := 8 }⟩, ⟨0, .createPayment admin 2 .duitnowQr⟩]

def firstBillRef : String := "111111111111411181111111111111"

def secondBillRef : String := "333333333333433383333333333333"

def signedCallback (billRef : String) : Body :=
  [("billRef", .string billRef), ("amount", .string "100.00"), ("status", .string "SUCCESS"),
    ("signature", .string ("s5" ++ billRef ++ "||100.00|MYR|SUCCESS"))]

end Sample

end SmartResidence.Billing
