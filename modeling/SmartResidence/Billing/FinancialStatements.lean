import SmartResidence.Billing.Ledger

/-!
# The financial reports of `ledger.service.ts`
-/

namespace SmartResidence.Billing

open Foundation

def statementFundLabel : LedgerFund → String
  | .maintenance => "Maintenance fund"
  | .sinkingFund => "Sinking fund"
  | .deposit => "Deposits held"
  | .general => "General fund"

structure FinancialStatementLineItem where
  label : String
  amount : ℤ
  deriving DecidableEq

structure FinancialStatementSection where
  title : String
  lines : List FinancialStatementLineItem
  total : ℤ
  deriving DecidableEq

structure BalanceSheetReport where
  asOf : Instant
  assets : FinancialStatementSection
  liabilities : FinancialStatementSection
  funds : FinancialStatementSection
  totalAssets : ℤ
  totalLiabilitiesAndFunds : ℤ
  deriving DecidableEq

def fundBalanceAsOf (db : Db) (condoId : Id) (asOf : Instant) (fund : LedgerFund) : ℤ :=
  sumBy (fun entry => entry.amount) (db.ledgerEntries.filter fun entry =>
    decide (entry.condoId = condoId ∧ entry.fund = fund ∧ entry.type ≠ .charge ∧ entry.occurredAt ≤ asOf))

def fundBalancesAsOf (db : Db) (condoId : Id) (asOf : Instant) : List (LedgerFund × ℤ) :=
  ledgerFunds.map fun fund => (fund, mathRound (fundBalanceAsOf db condoId asOf fund))

def outstandingAsOf (db : Db) (asOf : Instant) (invoice : Invoice) : ℤ :=
  invoice.total - sumBy Payment.amount (db.payments.filter fun payment =>
    decide (payment.invoiceId = invoice.id ∧ payment.status = .succeeded ∧
      ∃ paidAt ∈ payment.paidAt, paidAt ≤ asOf))

def receivableInvoices (db : Db) (condoId : Id) (asOf : Instant) : List Invoice :=
  db.invoices.filter fun invoice => decide (invoice.condoId = condoId ∧
    (∃ issuedAt ∈ invoice.issuedAt, issuedAt ≤ asOf) ∧ invoice.status ≠ .draft ∧ invoice.status ≠ .void)

def receivablesAsOf (db : Db) (condoId : Id) (asOf : Instant) : ℤ :=
  let total := sumBy (fun invoice =>
    if (outstandingAsOf db asOf invoice : ℚ) > 1 / 2 then outstandingAsOf db asOf invoice else 0)
    (receivableInvoices db condoId asOf)
  mathRound total

def creditLiability (db : Db) (condoId : Id) : ℤ :=
  sumBy UnitAccount.creditBalance (db.unitAccounts.filter fun account => decide (account.condoId = condoId))

def lineIfOwed (label : String) (amount : ℤ) : List FinancialStatementLineItem :=
  if (amount : ℚ) > 1 / 2 then [⟨label, amount⟩] else []

def sectionOf (title : String) (lines : List FinancialStatementLineItem) : FinancialStatementSection where
  title := title
  lines := lines.map fun line => { line with amount := mathRound line.amount }
  total := mathRound (sumBy FinancialStatementLineItem.amount lines : ℤ)

def balanceSheet (db : Db) (condoId : Id) (asOf : Instant) : BalanceSheetReport :=
  let fundBalances := fundBalancesAsOf db condoId asOf
  let balanceOf (fund : LedgerFund) : ℤ := match findBy Prod.fst fund fundBalances with
    | some pair => pair.2
    | none => 0
  let depositHeld := balanceOf .deposit
  let assets := sectionOf "Assets"
    (lineIfOwed "Amount due from proprietors (receivables)" (receivablesAsOf db condoId asOf) ++
      lineIfOwed ("Cash — " ++ statementFundLabel .deposit) depositHeld)
  let liabilities := sectionOf "Liabilities"
    (lineIfOwed (statementFundLabel .deposit) depositHeld ++
      lineIfOwed "Unit prepayment credits" (creditLiability db condoId))
  let funds := sectionOf "Funds"
    (([.maintenance, .sinkingFund, .general].map fun fund =>
      (⟨statementFundLabel fund, balanceOf fund⟩ : FinancialStatementLineItem)).filter
        fun line => line.amount ≠ 0)
  { asOf := asOf
    assets := assets
    liabilities := liabilities
    funds := funds
    totalAssets := assets.total
    totalLiabilitiesAndFunds := mathRound (liabilities.total + funds.total : ℤ) }

structure FundSummaryRow where
  fund : LedgerFund
  openingBalance : ℤ
  collections : ℤ
  chargesIssued : ℤ
  adjustments : ℤ
  closingBalance : ℤ
  deriving DecidableEq

structure FundSummaryReport where
  start : Instant
  stop : Instant
  funds : List FundSummaryRow
  deriving DecidableEq

/-- The maps of `fundSummary`, with a value for every fund. -/
structure FundTotals where
  opening : LedgerFund → ℤ
  closing : LedgerFund → ℤ
  collections : LedgerFund → ℤ
  chargesIssued : LedgerFund → ℤ
  adjustments : LedgerFund → ℤ

def tally (counts : Bool) (totals : LedgerFund → ℤ) (entry : LedgerEntry) : LedgerFund → ℤ :=
  fun fund => if counts ∧ fund = entry.fund then totals fund + entry.amount else totals fund

def contributesToFundCash (type : LedgerEntryType) : Bool := decide (type ≠ .charge)

def inPeriod (start stop : Instant) (entry : LedgerEntry) : Bool :=
  decide (start ≤ entry.occurredAt ∧ entry.occurredAt ≤ stop)

def summaryStep (start stop : Instant) (totals : FundTotals) (entry : LedgerEntry) : FundTotals where
  collections := tally (decide (entry.type = .payment) && inPeriod start stop entry) totals.collections entry
  chargesIssued := tally (decide (entry.type = .charge) && inPeriod start stop entry) totals.chargesIssued entry
  adjustments := tally (decide (entry.type = .adjustment) && inPeriod start stop entry) totals.adjustments entry
  opening := tally (contributesToFundCash entry.type && decide (entry.occurredAt < start)) totals.opening entry
  closing := tally (contributesToFundCash entry.type && decide (entry.occurredAt ≤ stop)) totals.closing entry

def condoLedger (db : Db) (condoId : Id) : List LedgerEntry :=
  (db.ledgerEntries.filter fun entry => decide (entry.condoId = condoId)).insertionSort
    fun a b => a.occurredAt ≤ b.occurredAt

def fundSummary (db : Db) (condoId : Id) (start stop : Instant) : FundSummaryReport :=
  let zero : LedgerFund → ℤ := fun _ => 0
  let totals := (condoLedger db condoId).foldl (summaryStep start stop) ⟨zero, zero, zero, zero, zero⟩
  { start := start
    stop := stop
    funds := ledgerFunds.map fun fund =>
      { fund := fund
        openingBalance := mathRound (totals.opening fund)
        collections := mathRound (totals.collections fund)
        chargesIssued := mathRound (totals.chargesIssued fund)
        adjustments := mathRound (totals.adjustments fund)
        closingBalance := mathRound (totals.closing fund) } }

structure IncomeExpenseFundRow where
  fund : LedgerFund
  collections : ℤ
  charges : ℤ
  deriving DecidableEq

structure IncomeExpenseCategoryRow where
  code : String
  description : String
  fund : LedgerFund
  charges : ℤ
  collections : ℤ
  deriving DecidableEq

structure IncomeExpenseReport where
  start : Instant
  stop : Instant
  byFund : List IncomeExpenseFundRow
  byCategory : List IncomeExpenseCategoryRow
  deriving DecidableEq

structure PeriodTotals where
  collections : LedgerFund → ℤ
  charges : LedgerFund → ℤ
  chargeInvoiceIds : List Id

def addInvoiceId (ids : List Id) (source : LedgerSource) : List Id :=
  match source with
  | .invoice id => if id ∈ ids then ids else ids ++ [id]
  | _ => ids

def periodStep (totals : PeriodTotals) (entry : LedgerEntry) : PeriodTotals :=
  if entry.type = .payment then { totals with collections := tally true totals.collections entry }
  else { totals with
    charges := tally true totals.charges entry
    chargeInvoiceIds := addInvoiceId totals.chargeInvoiceIds entry.source }

def periodEntries (db : Db) (condoId : Id) (start stop : Instant) : List LedgerEntry :=
  db.ledgerEntries.filter fun entry =>
    decide (entry.condoId = condoId ∧ (entry.type = .payment ∨ entry.type = .charge)) && inPeriod start stop entry

def fundName : LedgerFund → List Char
  | .maintenance => "MAINTENANCE".toList
  | .sinkingFund => "SINKING_FUND".toList
  | .deposit => "DEPOSIT".toList
  | .general => "GENERAL".toList

/-- The rows of the `categoryMap` under their keys. -/
abbrev CategoryMap := List (List Char × IncomeExpenseCategoryRow)

def mergeCategory (existing row : IncomeExpenseCategoryRow) : IncomeExpenseCategoryRow :=
  { existing with
    charges := existing.charges + row.charges
    collections := existing.collections + row.collections }

def addCategory (categories : CategoryMap) (key : List Char) (row : IncomeExpenseCategoryRow) : CategoryMap :=
  match categories with
  | [] => [(key, row)]
  | (other, existing) :: rest =>
      if other = key then (other, mergeCategory existing row) :: rest
      else (other, existing) :: addCategory rest key row

def chargeCategory (line : InvoiceLine) : IncomeExpenseCategoryRow :=
  ⟨line.code, line.description, fundOfCode line.code, line.amount, 0⟩

def memoIncludes (memo : Option String) (word : String) : Bool :=
  match memo with
  | some text => includes text.toList word.toList
  | none => false

def paymentCode (memo : Option String) : String :=
  if memoIncludes memo "Sinking" ∨ memoIncludes memo "sinking" then "SINKING"
  else if memoIncludes memo "Maintenance" ∨ memoIncludes memo "maintenance" then "MAINT"
  else "PAYMENT"

def paymentCategory (memo : LedgerEntry → Option String) (entry : LedgerEntry) : IncomeExpenseCategoryRow :=
  ⟨paymentCode (memo entry), (memo entry).getD "Payment", entry.fund, 0, entry.amount⟩

/-- `${fund}:${code}`, with `:pay` for a payment. -/
def categoryKey (row : IncomeExpenseCategoryRow) (suffix : List Char) : List Char :=
  fundName row.fund ++ ':' :: (row.code.toList ++ suffix)

def chargedLines (db : Db) (chargeInvoiceIds : List Id) : List InvoiceLine :=
  (db.invoices.filter fun invoice => decide (invoice.id ∈ chargeInvoiceIds)).flatMap Invoice.lines

def categoryMap (memo : LedgerEntry → Option String) (lines : List InvoiceLine) (entries : List LedgerEntry) :
    CategoryMap :=
  let charged := lines.foldl (fun categories line =>
    addCategory categories (categoryKey (chargeCategory line) []) (chargeCategory line)) []
  (entries.filter fun entry => decide (entry.type = .payment)).foldl (fun categories entry =>
    addCategory categories (categoryKey (paymentCategory memo entry) ":pay".toList) (paymentCategory memo entry)) charged

def roundCategory (row : IncomeExpenseCategoryRow) : IncomeExpenseCategoryRow :=
  { row with charges := mathRound row.charges, collections := mathRound row.collections }

def incomeExpense (memo : LedgerEntry → Option String) (db : Db) (condoId : Id) (start stop : Instant) :
    IncomeExpenseReport :=
  let entries := periodEntries db condoId start stop
  let totals := entries.foldl periodStep ⟨fun _ => 0, fun _ => 0, []⟩
  let categories := categoryMap memo (chargedLines db totals.chargeInvoiceIds) entries
  { start := start
    stop := stop
    byFund := ledgerFunds.map fun fund =>
      ⟨fund, mathRound (totals.collections fund), mathRound (totals.charges fund)⟩
    byCategory := (categories.map fun pair => roundCategory pair.2).insertionSort
      fun a b => b.charges + b.collections ≤ a.charges + a.collections }

structure ProfitLossLine extends FinancialStatementLineItem where
  code : Option String
  deriving DecidableEq

structure ProfitLossSection where
  title : String
  lines : List ProfitLossLine
  total : ℤ
  deriving DecidableEq

structure ProfitLossReport where
  start : Instant
  stop : Instant
  fund : Option LedgerFund
  fundLabel : String
  income : ProfitLossSection
  expenses : ProfitLossSection
  netSurplus : ℤ
  deriving DecidableEq

def periodAdjustments (db : Db) (condoId : Id) (start stop : Instant) (fundFilter : Option LedgerFund) :
    List LedgerEntry :=
  db.ledgerEntries.filter fun entry => decide (entry.condoId = condoId ∧ entry.type = .adjustment ∧
    ∀ fund ∈ fundFilter, entry.fund = fund) && inPeriod start stop entry

def matchesFund (fundFilter : Option LedgerFund) (fund : LedgerFund) : Bool :=
  decide (∀ wanted ∈ fundFilter, fund = wanted)

def profitLossLines (rows : List IncomeExpenseCategoryRow) (fundFilter : Option LedgerFund)
    (figure : IncomeExpenseCategoryRow → ℤ) (label : String) (adjusted : ℤ) : List ProfitLossLine :=
  let lines : List ProfitLossLine :=
    (rows.filter fun row => matchesFund fundFilter row.fund && decide (0 < figure row)).map fun row =>
      ⟨⟨row.description, figure row⟩, some row.code⟩
  let others : List ProfitLossLine := (lineIfOwed label adjusted).map fun line => ⟨line, none⟩
  (lines ++ others).insertionSort fun a b => b.amount ≤ a.amount

def profitLossSection (title : String) (lines : List ProfitLossLine) : ProfitLossSection where
  title := title
  lines := lines.map fun line => { line with amount := mathRound line.amount }
  total := mathRound (sumBy (fun line => line.amount) lines : ℤ)

def profitLoss (memo : LedgerEntry → Option String) (db : Db) (condoId : Id) (start stop : Instant)
    (fundFilter : Option LedgerFund) : ProfitLossReport :=
  let rows := (incomeExpense memo db condoId start stop).byCategory
  let adjustments := periodAdjustments db condoId start stop fundFilter
  let otherIncome := sumBy (fun entry => entry.amount) (adjustments.filter fun entry => decide (0 < entry.amount))
  let negativeAdjustments :=
    sumBy (fun entry => |entry.amount|) (adjustments.filter fun entry => decide (entry.amount < 0))
  let income := profitLossSection "Income"
    (profitLossLines rows fundFilter IncomeExpenseCategoryRow.collections "Other income (adjustments)" otherIncome)
  let expenses := profitLossSection "Expenditure"
    (profitLossLines rows fundFilter IncomeExpenseCategoryRow.charges "Adjustments (reductions)" negativeAdjustments)
  { start := start
    stop := stop
    fund := fundFilter
    fundLabel := match fundFilter with
      | some fund => statementFundLabel fund
      | none => "All funds"
    income := income
    expenses := expenses
    netSurplus := mathRound (income.total - expenses.total : ℤ) }

end SmartResidence.Billing
