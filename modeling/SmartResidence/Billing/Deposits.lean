import SmartResidence.Billing.Ledger

/-!
# `deposit.service.ts`
-/

namespace SmartResidence.Billing

open Foundation

def depositHeldAmount (deposit : Deposit) : ℤ :=
  max 0 (deposit.amount - deposit.refundedAmount - deposit.forfeitedAmount)

def assertDepositManagement (user : AuthenticatedUser) (condoId : Id) : Result Unit :=
  throwIf (¬ user.roles.any fun r => decide (r.roleId = .superAdmin) ||
      decide (r.roleId = .managementAdmin ∧ r.condoId = some condoId))
    (.forbidden "Only management can manage deposits for this condo")

structure RecordDepositInput where
  condoId : Id
  unitId : Id
  userId : Option Id
  amount : ℚ
  paidAt : Option Instant
  recordedByUserId : Option Id

def RecordDepositInput.row (input : RecordDepositInput) (now : Instant) (id : Id) : Deposit where
  id := id
  condoId := input.condoId
  unitId := input.unitId
  userId := input.userId
  amount := stored input.amount
  refundedAmount := 0
  forfeitedAmount := 0
  status := .held
  paidAt := input.paidAt.getD now
  refundedAt := none
  recordedByUserId := input.recordedByUserId

def depositHeldPosting (now : Instant) (input : RecordDepositInput) (depositId : Id) :
    LedgerPosting where
  condoId := input.condoId
  unitId := some input.unitId
  fund := .deposit
  type := .deposit
  amount := stored input.amount
  idempotencyKey := some (.depositHeld depositId)
  source := .deposit depositId
  occurredAt := now
  createdByUserId := input.recordedByUserId

/-- Records a held deposit; the new row has the id `db.nextId`. -/
def depositRecordInTx (now : Instant) (db : Db) (input : RecordDepositInput) : Result Db := do
  let created := { db with
    deposits := db.deposits ++ [input.row now db.nextId]
    nextId := db.nextId + 1 }
  let receipted ← issueInTx created {
    condoId := input.condoId
    kind := .deposit
    amount := input.amount
    issuedToUserId := input.userId
    unitId := some input.unitId
    paymentId := none
    depositId := some db.nextId }
  return receipted.record (depositHeldPosting now input db.nextId)

structure RecordDepositDto where
  unitId : Id
  userId : Option Id
  amount : ℚ
  paidAt : Option Instant
  amount_nonneg : 0 ≤ amount

def depositRecord (now : Instant) (db : Db) (actor : AuthenticatedUser) (dto : RecordDepositDto) :
    Result Db := do
  let unit ← orThrow (db.unit? dto.unitId) (.notFound "Unit not found")
  assertDepositManagement actor unit.condoId
  throwIf (dto.amount ≤ 0) (.badRequest "Deposit amount must be greater than zero")
  depositRecordInTx now db {
    condoId := unit.condoId
    unitId := unit.id
    userId := dto.userId
    amount := dto.amount
    paidAt := dto.paidAt
    recordedByUserId := some actor.id }

def depositPosting (now : Instant) (deposit : Deposit) (actorUserId : Option Id) (fund : LedgerFund)
    (type : LedgerEntryType) (amount : ℚ) (key : IdempotencyKey) : LedgerPosting where
  condoId := deposit.condoId
  unitId := some deposit.unitId
  fund := fund
  type := type
  amount := stored amount
  idempotencyKey := some key
  source := .deposit deposit.id
  occurredAt := now
  createdByUserId := actorUserId

def Db.updateDeposit (db : Db) (id : Id) (change : Deposit → Deposit) : Db :=
  { db with deposits := updateBy Deposit.id id change db.deposits }

def refundReceipt (deposit : Deposit) (amount : ℚ) : IssueReceiptInput where
  condoId := deposit.condoId
  kind := .refund
  amount := amount
  issuedToUserId := deposit.userId
  unitId := some deposit.unitId
  paymentId := none
  depositId := none

def refundHeldInTx (now : Instant) (db : Db) (depositId : Id) (actorUserId : Option Id) :
    Result (Db × ℤ) :=
  match db.deposit? depositId with
  | none => return (db, 0)
  | some deposit => do
      let held := depositHeldAmount deposit
      if (held : ℚ) ≤ 1 / 2 then return (db, 0)
      let refunded := deposit.refundedAmount + held
      let updated := db.updateDeposit depositId fun row =>
        { row with refundedAmount := refunded, status := .refunded, refundedAt := some now }
      let receipted ← issueInTx updated (refundReceipt deposit held)
      return (receipted.record (depositPosting now deposit actorUserId .deposit .refund (-held)
        (.depositRefund depositId refunded)), held)

structure RefundDepositDto where
  amount : Option ℚ
  forfeit : Bool
  amount_nonneg : 0 ≤ amount.getD 0

structure RefundFigures where
  amount : ℚ
  newRefunded : ℚ
  newForfeited : ℚ
  remaining : ℚ

def refundFigures (deposit : Deposit) (dto : RefundDepositDto) : RefundFigures :=
  let amount := dto.amount.getD (depositHeldAmount deposit)
  let newRefunded := deposit.refundedAmount + if dto.forfeit then 0 else amount
  let newForfeited := deposit.forfeitedAmount + if dto.forfeit then amount else 0
  ⟨amount, newRefunded, newForfeited, deposit.amount - newRefunded - newForfeited⟩

def refundStatus (figures : RefundFigures) : DepositStatus :=
  if figures.remaining ≤ 1 / 2 then
    if 0 < figures.newForfeited ∧ figures.newRefunded ≤ 1 / 2 then .forfeited else .refunded
  else .partiallyRefunded

def refundedRow (now : Instant) (figures : RefundFigures) (row : Deposit) : Deposit :=
  { row with
    refundedAmount := stored figures.newRefunded
    forfeitedAmount := stored figures.newForfeited
    status := refundStatus figures
    refundedAt := if figures.remaining ≤ 1 / 2 then some now else row.refundedAt }

/-- The transaction of `refund` on a deposit read before it. -/
def refundInTx (now : Instant) (db : Db) (actorId : Id) (deposit : Deposit) (dto : RefundDepositDto) :
    Result Db := do
  let figures := refundFigures deposit dto
  let updated := db.updateDeposit deposit.id (refundedRow now figures)
  if dto.forfeit then
    let reclassified := updated.record (depositPosting now deposit (some actorId) .deposit .adjustment
      (- figures.amount) (.depositForfeitLiability deposit.id figures.newForfeited))
    return reclassified.record (depositPosting now deposit (some actorId) .general .adjustment
      figures.amount (.depositForfeitIncome deposit.id figures.newForfeited))
  let receipted ← issueInTx updated (refundReceipt deposit figures.amount)
  return receipted.record (depositPosting now deposit (some actorId) .deposit .refund
    (- figures.amount) (.depositRefund deposit.id figures.newRefunded))

def depositRefund (now : Instant) (db : Db) (actor : AuthenticatedUser) (id : Id)
    (dto : RefundDepositDto) : Result Db := do
  let deposit ← orThrow (db.deposit? id) (.notFound "Deposit not found")
  assertDepositManagement actor deposit.condoId
  throwIf (depositHeldAmount deposit ≤ 0) (.badRequest "Nothing left to refund on this deposit")
  throwIf ((refundFigures deposit dto).amount ≤ 0)
    (.badRequest "Refund amount must be greater than zero")
  throwIf ((refundFigures deposit dto).amount > (depositHeldAmount deposit : ℚ) + 1 / 2)
    (.badRequest "Refund exceeds the held balance")
  refundInTx now db actor.id deposit dto

end SmartResidence.Billing
