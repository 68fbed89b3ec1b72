import SmartResidence.Access.AccessRestriction

/-!
# Views of the arrears: `ledger.service.ts`, `unit-search.ts`
-/

namespace SmartResidence.Access

open Foundation Billing Settings

structure UnitLabelInput where
  identifier : Option String
  blockName : Option String

/-- Letter case of JavaScript: `toLowerCase`, and the letters that are one to a regular expression with the flag `i`. -/
structure LetterCase where
  toLowerCase : String → String
  sameLetter : Char → Char → Bool

def isLabelGap (c : Char) : Bool := c = '-' || c = '·' || isSpace c

def isLineEnd (c : Char) : Bool := c ∈ ['\n', '\r', '\u2028', '\u2029']

/-- `/^([A-Za-z0-9]+)[-·\s]+(.+)$/`. If the gap reaches the end, its last character is the rest. -/
def parseCompositeUnitLabel (term : List Char) : Option (List Char × List Char) :=
  let block := term.takeWhile Char.isAlphanum
  let tail := term.dropWhile Char.isAlphanum
  let gap := tail.takeWhile isLabelGap
  let rest := tail.dropWhile isLabelGap
  let (gap, rest) := if rest = [] then (gap.dropLast, gap.getLast?.toList) else (gap, rest)
  if block = [] ∨ gap = [] ∨ rest = [] ∨ rest.any isLineEnd then none
  else if trim rest = [] then none
  else some (trim block, trim rest)

def LetterCase.startsWith (letters : LetterCase) : List Char → List Char → Bool
  | [], c :: _ => isLabelGap c
  | b :: block, c :: text => letters.sameLetter b c && letters.startsWith block text
  | _, [] => false

def identifierIncludesBlock (letters : LetterCase) (block identifier : String) : Bool :=
  let trimmed := trim identifier.toList
  ((parseCompositeUnitLabel trimmed).any fun composite =>
    letters.toLowerCase (String.ofList composite.1) = letters.toLowerCase block) ||
  letters.startsWith block.toList trimmed

/-- `A-04-3`, without a block that the identifier repeats. -/
def formatCompactUnitLabel (letters : LetterCase) (unit : UnitLabelInput) : String :=
  let block := (unit.blockName.map trimText).getD ""
  let identifier := (unit.identifier.map trimText).getD ""
  if identifier = "" then block
  else if block = "" ∨ identifierIncludesBlock letters block identifier then identifier
  else block ++ "-" ++ identifier

/-- `'0-30'`, `'31-60'`, `'61-90'` and `'90+'`. -/
inductive AgeBucket
  | days30
  | days60
  | days90
  | over90
  deriving DecidableEq

def AgeBucket.all : List AgeBucket := [.days30, .days60, .days90, .over90]

def ageBucket (days : ℤ) : AgeBucket :=
  if days ≤ 30 then .days30 else if days ≤ 60 then .days60 else if days ≤ 90 then .days90 else .over90

structure ArrearsAgingBucket where
  bucket : AgeBucket
  amount : ℤ
  count : Nat
  deriving DecidableEq

structure ArrearsAging where
  buckets : List ArrearsAgingBucket
  totalOutstanding : ℤ
  unitsInArrears : Nat
  invoicesInArrears : Nat
  deriving DecidableEq

structure AgingTotals where
  amount : AgeBucket → ℤ
  count : AgeBucket → Nat
  totalOutstanding : ℤ
  invoicesInArrears : Nat
  unitsInArrears : Finset Id

def AgingTotals.note (now : Instant) (totals : AgingTotals) (invoice : ArrearsInvoice) : AgingTotals :=
  if ¬ invoice.owed then totals
  else
    let key := ageBucket (invoice.daysPastDue now)
    { amount := Function.update totals.amount key (totals.amount key + invoice.outstanding)
      count := Function.update totals.count key (totals.count key + 1)
      totalOutstanding := totals.totalOutstanding + invoice.outstanding
      invoicesInArrears := totals.invoicesInArrears + 1
      unitsInArrears := insert invoice.unitId totals.unitsInArrears }

def arrearsInvoices (db : AccessDb) (condoId : Id) : List ArrearsInvoice :=
  db.invoices.filter fun invoice => decide (invoice.condoId = condoId ∧ invoice.status ∈ arrearsStatuses)

def arrearsAging (now : Instant) (db : AccessDb) (condoId : Id) : ArrearsAging :=
  let totals := (arrearsInvoices db condoId).foldl (AgingTotals.note now) ⟨fun _ => 0, fun _ => 0, 0, 0, ∅⟩
  { buckets := AgeBucket.all.map fun bucket => ⟨bucket, totals.amount bucket, totals.count bucket⟩
    totalOutstanding := totals.totalOutstanding
    unitsInArrears := totals.unitsInArrears.card
    invoicesInArrears := totals.invoicesInArrears }

structure ArrearsBook extends AccessDb where
  number : Id → String
  unitLabelOf : Id → UnitLabelInput

structure ArrearsExportRow where
  unitLabel : String
  invoiceNumber : String
  dueDate : Instant
  daysOverdue : ℤ
  bucket : AgeBucket
  total : ℤ
  amountPaid : ℤ
  outstanding : ℤ
  deriving DecidableEq

def arrearsExportRow (letters : LetterCase) (now : Instant) (book : ArrearsBook) (invoice : ArrearsInvoice) :
    ArrearsExportRow :=
  let daysOverdue := max 0 (invoice.daysPastDue now)
  { unitLabel := formatCompactUnitLabel letters (book.unitLabelOf invoice.unitId)
    invoiceNumber := book.number invoice.id
    dueDate := invoice.dueDate
    daysOverdue := daysOverdue
    bucket := ageBucket daysOverdue
    total := invoice.total
    amountPaid := invoice.amountPaid
    outstanding := invoice.outstanding }

def exportedBefore (collate : String → String → Bool) (book : ArrearsBook) (first second : ArrearsInvoice) : Bool :=
  let one := (book.unitLabelOf first.unitId).identifier.getD ""
  let two := (book.unitLabelOf second.unitId).identifier.getD ""
  if one = two then decide (first.dueDate ≤ second.dueDate) else collate one two

def arrearsExportRows (letters : LetterCase) (collate : String → String → Bool) (now : Instant) (book : ArrearsBook)
    (condoId : Id) : List ArrearsExportRow :=
  ((arrearsInvoices book.toAccessDb condoId).mergeSort (exportedBefore collate book)).filterMap fun invoice =>
    if ¬ invoice.owed then none else some (arrearsExportRow letters now book invoice)

structure RestrictedUnits where
  items : List UnitAccessRestriction
  total : Nat
  eligibleArrearsCount : Nat

def listedBefore (first second : UnitAccessRestriction) : Bool :=
  if first.active = second.active then decide (second.outstandingAmount ≤ first.outstandingAmount) else first.active

def listUnits (env : AccessEnv) (now : Instant) (db : AccessDb) (user : AuthenticatedUser) (condoId : Id) :
    Result RestrictedUnits := do
  assertCondoManagement user condoId
  let condo ← requireCondo db condoId
  let settings := parseAccessRestrictionSettings env condo.settings
  let rows := (existingOf db condoId).mergeSort listedBefore
  let eligible := (computeCondoArrears now db condoId).filter (qualifies settings)
  return ⟨rows, rows.length, eligible.length⟩

end SmartResidence.Access
