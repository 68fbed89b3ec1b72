import SmartResidence.Accounting.GlPosting
import SmartResidence.Foundation.Runs

/-!
# `vendor-bill.service.ts`

The reads, updates and postings of concurrent calls are separate steps.
-/

namespace SmartResidence.Procurement

open Foundation Billing Accounting

inductive VendorBillStatus
  | draft | approved | paid | void
  deriving DecidableEq

structure Vendor where
  id : Id
  condoId : Id
  deriving DecidableEq

structure VendorBill where
  id : Id
  condoId : Id
  vendorId : Id
  billNumber : String
  billDate : Instant
  dueDate : Instant
  amount : ℤ
  fund : LedgerFund
  status : VendorBillStatus
  approvedByUserId : Option Id
  approvedAt : Option Instant
  paidAt : Option Instant
  glJournalEntryId : Option Id
  deriving DecidableEq

structure ProcurementDb where
  nextId : Id
  vendors : List Vendor
  bills : List VendorBill
  gl : GlDb

inductive ProcurementError
  | badRequest (message : String)
  | notFound (message : String)
  | forbidden (message : String)
  | uniqueViolation
  deriving DecidableEq

abbrev Outcome := Except ProcurementError

namespace ProcurementDb

variable (db : ProcurementDb)

def bill? (id : Id) : Option VendorBill := findBy VendorBill.id id db.bills

def vendor? (id : Id) : Option Vendor := findBy Vendor.id id db.vendors

def numberTaken (condoId : Id) (billNumber : String) (except : Option Id) : Bool :=
  db.bills.any fun bill => decide (bill.condoId = condoId ∧ bill.billNumber = billNumber ∧ some bill.id ≠ except)

def updateBill (id : Id) (change : VendorBill → VendorBill) : ProcurementDb :=
  { db with bills := updateBy VendorBill.id id change db.bills }

end ProcurementDb

def isManagement (user : AuthenticatedUser) (condoId : Id) : Bool :=
  user.roles.any fun r => decide ((r.roleId = .superAdmin ∨ r.roleId = .managementAdmin ∨
    r.roleId = .managementStaff) ∧ (r.roleId = .superAdmin ∨ r.condoId = some condoId))

def isManagementAdmin (user : AuthenticatedUser) (condoId : Id) : Bool :=
  user.roles.any fun r => decide ((r.roleId = .superAdmin ∨ r.roleId = .managementAdmin) ∧
    (r.roleId = .superAdmin ∨ r.condoId = some condoId))

def refuseIf (condition : Bool) (failure : ProcurementError) : Outcome Unit :=
  if condition then .error failure else .ok ()

def assertManagement (user : AuthenticatedUser) (condoId : Id) : Outcome Unit :=
  refuseIf (!isManagement user condoId) (.forbidden "Management access required")

def assertVendorBillFund (fund : LedgerFund) : Outcome Unit :=
  refuseIf (decide (fund = .deposit)) (.badRequest "Invalid fund for vendor bill")

/-- `requireVendor`, and that the vendor is one of the condo. -/
def requireVendorOf (db : ProcurementDb) (condoId vendorId : Id) : Outcome Unit :=
  match db.vendor? vendorId with
  | none => .error (.notFound "Vendor not found")
  | some vendor => refuseIf (decide (vendor.condoId ≠ condoId)) (.badRequest "Vendor belongs to a different condo")

def requireBill (db : ProcurementDb) (id : Id) : Outcome VendorBill :=
  match db.bill? id with
  | none => .error (.notFound "Vendor bill not found")
  | some bill => .ok bill

structure CreateVendorBillDto where
  condoId : Id
  vendorId : Id
  billNumber : String
  billDate : Instant
  dueDate : Instant
  amount : ℚ
  fund : LedgerFund
  amount_ge : 1 ≤ amount

structure UpdateVendorBillDto where
  vendorId : Option Id
  billNumber : Option String
  billDate : Option Instant
  dueDate : Option Instant
  amount : Option ℚ
  fund : Option LedgerFund
  amount_ge : ∀ value ∈ amount, 1 ≤ value

def trimmed (text : String) : String := String.ofList (trim text.toList)

def CreateVendorBillDto.row (dto : CreateVendorBillDto) (id : Id) : VendorBill where
  id := id
  condoId := dto.condoId
  vendorId := dto.vendorId
  billNumber := trimmed dto.billNumber
  billDate := dto.billDate
  dueDate := dto.dueDate
  amount := stored dto.amount
  fund := dto.fund
  status := .draft
  approvedByUserId := none
  approvedAt := none
  paidAt := none
  glJournalEntryId := none

def create (db : ProcurementDb) (user : AuthenticatedUser) (dto : CreateVendorBillDto) : Outcome ProcurementDb := do
  assertManagement user dto.condoId
  assertVendorBillFund dto.fund
  requireVendorOf db dto.condoId dto.vendorId
  refuseIf (db.numberTaken dto.condoId (trimmed dto.billNumber) none) .uniqueViolation
  return { db with bills := db.bills ++ [dto.row db.nextId], nextId := db.nextId + 1 }

def UpdateVendorBillDto.edited (dto : UpdateVendorBillDto) (bill : VendorBill) : VendorBill :=
  { bill with
    vendorId := dto.vendorId.getD bill.vendorId
    billNumber := (dto.billNumber.map trimmed).getD bill.billNumber
    billDate := dto.billDate.getD bill.billDate
    dueDate := dto.dueDate.getD bill.dueDate
    amount := (dto.amount.map stored).getD bill.amount
    fund := dto.fund.getD bill.fund }

inductive BillCall
  | update (user : AuthenticatedUser) (id : Id) (dto : UpdateVendorBillDto)
  | approve (user : AuthenticatedUser) (id : Id)
  | markPaid (user : AuthenticatedUser) (id : Id)
  | voidBill (user : AuthenticatedUser) (id : Id)

inductive InFlight
  | editing (id : Id) (dto : UpdateVendorBillDto)
  | approving (userId id : Id)
  | accruing (userId : Id) (bill : VendorBill)
  | paying (userId : Id) (existing : VendorBill)
  | settling (id : Id) (paidAt : Instant) (journalEntryId : Option Id)
  | voiding (id : Id)

def BillCall.read (db : ProcurementDb) : BillCall → Outcome InFlight
  | .update user id dto => do
      let existing ← requireBill db id
      assertManagement user existing.condoId
      refuseIf (decide (existing.status ≠ .draft)) (.badRequest "Only draft bills can be edited")
      match dto.fund with
      | none => pure ()
      | some fund => assertVendorBillFund fund
      match dto.vendorId with
      | none => pure ()
      | some vendorId => requireVendorOf db existing.condoId vendorId
      return .editing id dto
  | .approve user id => do
      let existing ← requireBill db id
      assertManagement user existing.condoId
      refuseIf (!isManagementAdmin user existing.condoId)
        (.forbidden "Only management admin can approve vendor bills")
      refuseIf (decide (existing.status ≠ .draft)) (.badRequest "Only draft bills can be approved")
      return .approving user.id id
  | .markPaid user id => do
      let existing ← requireBill db id
      assertManagement user existing.condoId
      refuseIf (!isManagementAdmin user existing.condoId)
        (.forbidden "Only management admin can mark vendor bills paid")
      refuseIf (decide (existing.status ≠ .approved)) (.badRequest "Only approved bills can be marked paid")
      return .paying user.id existing
  | .voidBill user id => do
      let existing ← requireBill db id
      assertManagement user existing.condoId
      refuseIf (!isManagementAdmin user existing.condoId)
        (.forbidden "Only management admin can void vendor bills")
      refuseIf (decide (existing.status = .paid)) (.badRequest "Paid bills cannot be voided")
      refuseIf (decide (existing.status = .void)) (.badRequest "Bill is already void")
      return .voiding id

def accrualOpts (userId : Id) (bill : VendorBill) : PostVendorBillOpts where
  vendorBillId := bill.id
  condoId := bill.condoId
  entryDate := bill.billDate
  amount := bill.amount
  fund := bill.fund
  actorUserId := some userId

def paymentOpts (now : Instant) (userId : Id) (bill : VendorBill) : PostVendorBillOpts where
  vendorBillId := bill.id
  condoId := bill.condoId
  entryDate := now
  amount := bill.amount
  fund := bill.fund
  actorUserId := some userId

def InFlight.advance (env : Env) (now : Instant) (db : ProcurementDb) : InFlight → ProcurementDb × Option InFlight
  | .editing id dto =>
      match db.bill? id with
      | none => (db, none)
      | some bill =>
          let edited := dto.edited bill
          if db.numberTaken edited.condoId edited.billNumber (some id) then (db, none)
          else (db.updateBill id dto.edited, none)
  | .approving userId id =>
      let approve (bill : VendorBill) : VendorBill :=
        { bill with status := .approved, approvedByUserId := some userId, approvedAt := some now }
      match db.bill? id with
      | none => (db, none)
      | some bill => (db.updateBill id approve, some (.accruing userId (approve bill)))
  | .accruing userId bill =>
      ({ db with gl := (postVendorBillApproved env (accrualOpts userId bill) db.gl).2 }, none)
  | .paying userId existing =>
      let posted := postVendorBillPaid env (paymentOpts now userId existing) db.gl
      let entryId := match posted.1 with
        | .ok (some entry) => some entry.id
        | _ => none
      ({ db with gl := posted.2 }, some (.settling existing.id now entryId))
  | .settling id paidAt journalEntryId =>
      (db.updateBill id fun bill =>
        { bill with
          status := .paid
          paidAt := some paidAt
          glJournalEntryId := journalEntryId.or bill.glJournalEntryId }, none)
  | .voiding id => (db.updateBill id fun bill => { bill with status := .void }, none)

structure BillState where
  db : ProcurementDb
  calls : List InFlight

inductive BillEvent
  | create (user : AuthenticatedUser) (dto : CreateVendorBillDto)
  | read (call : BillCall)
  | advance (now : Instant) (call : InFlight)

inductive BillStep (env : Env) : BillState → BillEvent → BillState → Prop
  | create {db after : ProcurementDb} {calls : List InFlight} {user : AuthenticatedUser} {dto : CreateVendorBillDto}
      (created : Procurement.create db user dto = .ok after) :
      BillStep env ⟨db, calls⟩ (.create user dto) ⟨after, calls⟩
  | read {db : ProcurementDb} {calls : List InFlight} {call : BillCall} {inFlight : InFlight}
      (reads : call.read db = .ok inFlight) :
      BillStep env ⟨db, calls⟩ (.read call) ⟨db, calls ++ [inFlight]⟩
  | advance {db : ProcurementDb} {front back : List InFlight} (now : Instant) (call : InFlight) :
      BillStep env ⟨db, front ++ call :: back⟩ (.advance now call)
        ⟨(call.advance env now db).1, front ++ (call.advance env now db).2.toList ++ back⟩

end SmartResidence.Procurement
