import SmartResidence.Gateway.JsValue
import SmartResidence.Foundation.Doubles
import SmartResidence.Foundation.ReadCommitted

/-!
# Invoice and receipt numbers in `billing.service.ts` and `receipt.service.ts`
-/

namespace SmartResidence.Billing

open Foundation

inductive NumberKind
  | invoice
  | receipt
  deriving DecidableEq

/-- The unique columns of a `BillingNumberSequence`. -/
structure SequenceKey where
  condoId : Id
  kind : NumberKind
  year : ℕ
  deriving DecidableEq

structure NumberedRow (Owner : Type) where
  condoId : Id
  number : String
  issuedBy : Option Owner

structure NumberDb (Owner : Type) where
  invoices : List (NumberedRow Owner)
  receipts : List (NumberedRow Owner)
  lastNumber : SequenceKey → Option ℤ

inductive NumberLock
  | sequence (key : SequenceKey)
  | number (kind : NumberKind) (condoId : Id) (number : String)
  deriving DecidableEq

inductive NumberError
  | notInt
  | integerOutOfRange
  | uniqueViolation
  | aborted
  deriving DecidableEq

abbrev NumberScript (Owner : Type) := Script (NumberDb Owner) NumberLock Empty NumberError

variable {Owner : Type}

namespace NumberDb

variable (db : NumberDb Owner)

def rows : NumberKind → List (NumberedRow Owner)
  | .invoice => db.invoices
  | .receipt => db.receipts

def insert (kind : NumberKind) (row : NumberedRow Owner) : NumberDb Owner :=
  match kind with
  | .invoice => { db with invoices := db.invoices ++ [row] }
  | .receipt => { db with receipts := db.receipts ++ [row] }

def setLast (key : SequenceKey) (last : ℤ) : NumberDb Owner :=
  { db with lastNumber := Function.update db.lastNumber key (some last) }

def taken (kind : NumberKind) (condoId : Id) (number : String) : Bool :=
  (db.rows kind).any fun row => decide (row.condoId = condoId ∧ row.number = number)

end NumberDb

def intText (n : ℤ) : List Char :=
  if n < 0 then '-' :: Nat.toDigits 10 n.natAbs else Nat.toDigits 10 n.natAbs

def padStart (width : ℕ) (text : List Char) : List Char :=
  List.replicate (width - text.length) '0' ++ text

def numberStem (stem : String) (year : ℕ) : List Char :=
  stem.toList ++ '-' :: (Nat.toDigits 10 year ++ ['-'])

def numberText (stem : String) (year : ℕ) (last : ℤ) : String :=
  String.ofList (numberStem stem year ++ padStart 6 (intText last))

/-- `Number` of what follows the stem, when it is finite. -/
def suffixOf (stem : List Char) (number : String) : Option ℚ :=
  (numberOf (String.ofList (number.toList.drop stem.length))).bind double

/-- `maxExistingNumberSuffix` and `maxExistingReceiptSuffix`. -/
def maxExistingSuffix (rows : List (NumberedRow Owner)) (condoId : Id) (stem : List Char) : ℚ :=
  let started := rows.filter fun row => decide (row.condoId = condoId ∧ stem <+: row.number.toList)
  (started.filterMap fun row => suffixOf stem row.number).foldl max 0

def intArgument : Option ℚ → Except NumberError ℤ
  | none => .error .notInt
  | some value =>
      if value.den = 1 ∧ - 2 ^ 31 ≤ value.num ∧ value.num < 2 ^ 31 then .ok value.num else .error .notInt

def upserted (created : ℤ) : Option ℤ → ℤ
  | some last => last + 1
  | none => created

def upsertSequence (key : SequenceKey) (created : ℤ) : NumberScript Owner ℤ :=
  Script.statement none (fun _ => [.sequence key])
    (fun _ db => db.setLast key (upserted created (db.lastNumber key))) fun view =>
      if upserted created (view.lastNumber key) < 2 ^ 31 then .ok (upserted created (view.lastNumber key))
      else .error .integerOutOfRange

def updateSequence (key : SequenceKey) (last : ℤ) : NumberScript Owner Unit :=
  Script.write [.sequence key] fun db => db.setLast key last

def nextNumber (kind : NumberKind) (condoId : Id) (stem : String) (year : ℕ) :
    NumberScript Owner String := do
  let existingMax ← Script.read fun db => maxExistingSuffix (db.rows kind) condoId (numberStem stem year)
  let created ← Script.stop (intArgument (double (existingMax + 1)))
  let last ← upsertSequence ⟨condoId, kind, year⟩ created
  if (last : ℚ) ≤ existingMax then
    updateSequence ⟨condoId, kind, year⟩ created
    return numberText stem year created
  else return numberText stem year last

def nextInvoiceNumber (condoId : Id) (year : ℕ) : NumberScript Owner String :=
  nextNumber .invoice condoId "INV" year

def nextReceiptNumber (condoId : Id) (stem : String) (year : ℕ) : NumberScript Owner String :=
  nextNumber .receipt condoId stem year

inductive NumberRequest
  | invoice (condoId : Id) (year : ℕ)
  | receipt (condoId : Id) (stem : String) (year : ℕ)

namespace NumberRequest

def kind : NumberRequest → NumberKind
  | .invoice _ _ => .invoice
  | .receipt _ _ _ => .receipt

def condoId : NumberRequest → Id
  | .invoice condoId _ => condoId
  | .receipt condoId _ _ => condoId

def stem : NumberRequest → String
  | .invoice _ _ => "INV"
  | .receipt _ stem _ => stem

def year : NumberRequest → ℕ
  | .invoice _ year => year
  | .receipt _ _ year => year

def nextNumber : NumberRequest → NumberScript Owner String
  | .invoice condoId year => nextInvoiceNumber condoId year
  | .receipt condoId stem year => nextReceiptNumber condoId stem year

end NumberRequest

structure IssuedNumber where
  kind : NumberKind
  condoId : Id
  number : String
  deriving DecidableEq

def insertNumbered (owner : Owner) (issued : IssuedNumber) : NumberScript Owner Unit :=
  Script.statement none (fun _ => [.number issued.kind issued.condoId issued.number])
    (fun _ db => db.insert issued.kind ⟨issued.condoId, issued.number, some owner⟩) fun view =>
      if view.taken issued.kind issued.condoId issued.number then .error .uniqueViolation else .ok ()

def issueEach (owner : Owner) : List NumberRequest → NumberScript Owner (List IssuedNumber)
  | [] => return []
  | request :: rest => do
      let number ← request.nextNumber
      insertNumbered owner ⟨request.kind, request.condoId, number⟩
      let later ← issueEach owner rest
      return ⟨request.kind, request.condoId, number⟩ :: later

def issueInTransaction (owner : Owner) (requests : List NumberRequest) :
    NumberScript Owner (List IssuedNumber) :=
  Script.transaction (issueEach owner requests)

end SmartResidence.Billing
