import SmartResidence.Proof.Statement
import SmartResidence.Proof.DepositConservation

/-!
# What a deposit does to the statement of its unit
-/

namespace SmartResidence.Billing

open Foundation

variable {env : Env} {db after : Db} {request : Request} {unitId : Id}

def Op.OnDeposit : Op → Prop
  | .depositRecord _ _ | .depositRecordInTx _ | .refundHeldInTx _ _ | .depositRefund _ _ _ => True
  | _ => False

def Op.refund (db : Db) : Op → Option (Deposit × ℚ)
  | .refundHeldInTx depositId _ =>
      (db.deposit? depositId).map fun deposit => (deposit, (depositHeldAmount deposit : ℚ))
  | .depositRefund _ depositId dto =>
      if dto.forfeit then none
      else (db.deposit? depositId).map fun deposit => (deposit, (refundFigures deposit dto).amount)
  | _ => none

theorem totalOutstanding_moved {change : Change} (commit : Commit db change after)
    (wf : WellFormed db) : ∃ postings, Posts db change postings ∧ ∀ unitId,
      (unitStatement after unitId).totalOutstanding =
        (unitStatement db unitId).totalOutstanding + sumBy (statementAmount unitId) postings := by
  obtain ⟨postings, posts, moved⟩ := commit.ledgerSum_moved wf
  refine ⟨postings, posts, fun unitId => ?_⟩
  rw [totalOutstanding_eq, totalOutstanding_eq]
  exact moved (statementAmount unitId) fun posting zero => by simp [statementAmount, signed, zero]

variable {amount : ℚ}

theorem totalOutstanding_recorded {condoId unit : Id} (commit : Commit db (.depositHeld condoId unit amount) after)
    (wf : WellFormed db) :
    (unitStatement after unitId).totalOutstanding = (unitStatement db unitId).totalOutstanding := by
  obtain ⟨postings, posts, moved⟩ := totalOutstanding_moved commit wf
  rw [moved]
  cases posts with
  | depositHeld => simp [statementAmount, depositHeldPosting]

variable {deposit : Deposit}

theorem totalOutstanding_forfeited (commit : Commit db (.depositForfeited deposit amount) after) (wf : WellFormed db) :
    (unitStatement after unitId).totalOutstanding = (unitStatement db unitId).totalOutstanding := by
  obtain ⟨postings, posts, moved⟩ := totalOutstanding_moved commit wf
  rw [moved]
  cases posts with
  | depositForfeited =>
    simp only [sumBy_cons, statementAmount, depositPosting, signed, stored_neg]
    split <;> simp

theorem totalOutstanding_refunded (commit : Commit db (.depositRefunded deposit amount) after) (wf : WellFormed db) :
    (unitStatement after unitId).totalOutstanding = (unitStatement db unitId).totalOutstanding +
      if deposit.unitId = unitId then stored amount else 0 := by
  obtain ⟨postings, posts, moved⟩ := totalOutstanding_moved commit wf
  rw [moved]
  cases posts with
  | depositRefunded => simp [statementAmount, depositPosting, signed, stored_neg]

theorem stored_eq_zero_iff (pos : 0 < amount) : stored amount = 0 ↔ amount < 1 / 2 := by
  have nonneg : 0 ≤ stored amount := roundHalfAway_nonneg pos.le
  have small := @stored_le_iff amount 0 pos.le
  rw [Int.cast_zero, zero_add] at small
  rw [← small]
  omega

theorem Commit.refunded_pos {after : Db} (commit : Commit db (.depositRefunded deposit amount) after) : 0 < amount := by
  cases commit with
  | depositRefunded _ pos => exact pos

theorem statements_refunded_iff (commit : Commit db (.depositRefunded deposit amount) after) (wf : WellFormed db) :
    (∀ unitId, (unitStatement after unitId).totalOutstanding =
      (unitStatement db unitId).totalOutstanding) ↔ amount < 1 / 2 := by
  have moved := fun unitId => @totalOutstanding_refunded db after unitId _ _ commit wf
  rw [← stored_eq_zero_iff commit.refunded_pos]
  constructor
  · intro same
    have own := moved deposit.unitId
    rw [same, if_pos rfl] at own
    omega
  · intro nothing unitId
    rw [moved, nothing]
    simp

/-- A deposit operation leaves every statement as it is, unless it refunds half a sen or more. -/
theorem deposit_neutral_iff (reachable : Reachable env db) (deposit : request.op.OnDeposit)
    (done : Completes env db request after) :
    (∀ unitId, (unitStatement after unitId).totalOutstanding =
      (unitStatement db unitId).totalOutstanding) ↔ ∀ refund ∈ request.op.refund db, refund.2 < 1 / 2 := by
  have wellFormed := reachable.wellFormed
  obtain ⟨now, op⟩ := request
  cases op with
  | depositRecord actor dto =>
      simp only [Completes, Request.run, Billing.depositRecord, bind_eq_ok] at done
      obtain ⟨unit, _, _, _, _, _, record⟩ := done
      have same := fun unitId =>
        @totalOutstanding_recorded db after unitId _ _ _ (depositRecordInTx_commit record) wellFormed
      simpa [Op.refund] using same
  | depositRecordInTx input =>
      have same := fun unitId =>
        @totalOutstanding_recorded db after unitId _ _ _ (depositRecordInTx_commit done) wellFormed
      simpa [Op.refund] using same
  | refundHeldInTx depositId actorUserId =>
      obtain ⟨⟨_, _⟩, op, same⟩ := bind_eq_ok.mp done
      obtain rfl := pure_eq_ok.mp same
      rcases refundHeldInTx_commit op with ⟨rfl, nothing⟩ | ⟨deposit, read, commit⟩
      · refine iff_of_true (fun _ => rfl) fun refund member => ?_
        obtain ⟨deposit, read, rfl⟩ := Option.map_eq_some_iff.mp member
        have small : (depositHeldAmount deposit : ℚ) ≤ 0 := by exact_mod_cast nothing deposit read
        linarith
      · rw [statements_refunded_iff commit wellFormed]
        simp [Op.refund, read]
  | depositRefund actor depositId dto =>
      obtain ⟨deposit, read, _, commit⟩ := depositRefund_commit done
      rw [RefundDepositDto.change] at commit
      split at commit
      · rename_i forfeit
        have same := fun unitId => @totalOutstanding_forfeited db after unitId _ _ commit wellFormed
        simpa [Op.refund, forfeit] using same
      · rename_i refund
        rw [statements_refunded_iff commit wellFormed]
        simp [Op.refund, read, refund]
  | _ => exact deposit.elim

theorem deposit_neutral_forfeited : ∃ db after request, Reachable Sample.env db ∧
    Completes Sample.env db request after ∧ (∀ unitId, (unitStatement after unitId).totalOutstanding =
      (unitStatement db unitId).totalOutstanding) ∧ db.ledgerEntries ≠ after.ledgerEntries := by
  let record : Request := ⟨0, .depositRecord Sample.admin ⟨7, none, 5000, none, by decide +kernel⟩⟩
  let forfeit : Request := ⟨1, .depositRefund Sample.admin 0 ⟨some 2000, true, by decide +kernel⟩⟩
  have ends : (record.run Sample.env Sample.db >>= fun db => (forfeit.run Sample.env db).map fun after =>
      (db.ledgerEntries.length, after.ledgerEntries.length)) = .ok (1, 3) := by
    decide +kernel
  obtain ⟨db, recorded, ends⟩ := bind_eq_ok.mp ends
  obtain ⟨after, forfeited, lengths⟩ := map_eq_ok.mp ends
  have reachable : Reachable Sample.env db := ⟨_, _, Sample.db_fresh, .single recorded⟩
  have neutral := @deposit_neutral_iff _ _ _ forfeit reachable trivial forfeited
  refine ⟨db, after, forfeit, reachable, forfeited, ?_, fun same => ?_⟩
  · exact neutral.mpr (by simp [forfeit, Op.refund])
  · rw [same] at lengths
    simp only [Prod.mk.injEq] at lengths
    omega

theorem deposit_neutral_broken : ¬ ∀ (env : Env) (db after : Db) (request : Request), Reachable env db →
    request.op.OnDeposit → Completes env db request after → ∀ unitId,
      (unitStatement after unitId).totalOutstanding = (unitStatement db unitId).totalOutstanding := by
  intro neutral
  let record : Request := ⟨0, .depositRecord Sample.admin ⟨7, none, 5000, none, by decide +kernel⟩⟩
  let refund : Request := ⟨1, .depositRefund Sample.admin 0 ⟨some 2000, false, by decide +kernel⟩⟩
  have ends : (record.run Sample.env Sample.db >>= fun db => (refund.run Sample.env db).map fun after =>
      ((unitStatement db 7).totalOutstanding, (unitStatement after 7).totalOutstanding)) =
        .ok (0, 2000) := by
    decide +kernel
  obtain ⟨db, recorded, ends⟩ := bind_eq_ok.mp ends
  obtain ⟨after, refunded, figures⟩ := map_eq_ok.mp ends
  have reachable : Reachable Sample.env db := ⟨_, _, Sample.db_fresh, .single recorded⟩
  have same := neutral Sample.env db after refund reachable trivial refunded 7
  simp only [Prod.mk.injEq] at figures
  omega

end SmartResidence.Billing
