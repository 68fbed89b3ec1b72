import SmartResidence.Billing.Schema
import SmartResidence.Foundation.Doubles

/-!
# `document-builder.ts`, and `buildDocument` of the e-invoice service

A `number` is a double here: the amounts are in ringgit, and sums of them are rounded at each step.
-/

namespace SmartResidence.EInvoice

open Foundation Billing

def epsilon : ℚ := 1 / 2 ^ 52

def roundedSen (n : ℚ) : ℤ := roundHalfUp (nearest (nearest (n + epsilon) * 100))

def round2 (n : ℚ) : ℚ := nearest (roundedSen n / 100)

def numberOr (value otherwise : ℚ) : ℚ := if value = 0 then otherwise else value

def textOr (text otherwise : String) : String := if text = "" then otherwise else text

def textOrNone (text : Option String) : Option String := text.filter fun text => decide (text ≠ "")

inductive EInvoiceEnvironment
  | sandbox | production
  deriving DecidableEq

structure EInvoiceConfig where
  enabled : Bool
  environment : EInvoiceEnvironment
  autoSubmitOnIssue : Bool
  supplierTin : String
  supplierName : String
  registrationNo : String
  sstRegistrationNo : String
  msicCode : String
  businessActivityDescription : String
  addressLine1 : String
  addressLine2 : String
  city : String
  postcode : String
  state : String
  countryCode : String
  supplierEmail : String
  supplierPhone : String
  defaultTaxType : String
  defaultTaxRate : ℚ
  rate_nonneg : 0 ≤ defaultTaxRate
  rate_le : defaultTaxRate ≤ 100

structure EInvoiceDocumentAddress where
  lines : List String
  city : String
  postcode : String
  state : String
  countryCode : String
  deriving DecidableEq

structure EInvoiceDocumentParty where
  tin : String
  name : String
  registrationNo : Option String
  sstRegistrationNo : Option String
  msicCode : Option String
  businessActivityDescription : Option String
  email : Option String
  phone : Option String
  address : EInvoiceDocumentAddress
  deriving DecidableEq

structure EInvoiceDocumentLine where
  id : Nat
  description : String
  quantity : ℚ
  unitPrice : ℚ
  lineAmount : ℚ
  taxType : String
  taxRate : ℚ
  taxAmount : ℚ
  deriving DecidableEq

structure EInvoiceDocument where
  eInvoiceVersion : String
  eInvoiceTypeCode : String
  invoiceNumber : String
  issuedAt : Instant
  documentCurrencyCode : String
  supplier : EInvoiceDocumentParty
  buyer : EInvoiceDocumentParty
  lines : List EInvoiceDocumentLine
  taxExclusiveAmount : ℚ
  taxAmount : ℚ
  taxInclusiveAmount : ℚ
  totalPayableAmount : ℚ
  deriving DecidableEq

def lhdnGeneralPublicTin : String := "EI00000000010"

structure EInvoiceBuilderLine where
  description : String
  quantity : ℚ
  unitPrice : ℚ
  amount : ℚ

structure EInvoiceBuilderBuyer where
  name : String
  tin : Option String
  registrationNo : Option String
  email : Option String
  phone : Option String
  addressLines : List String
  city : Option String
  postcode : Option String
  state : Option String
  countryCode : Option String

structure EInvoiceBuilderInput where
  invoiceNumber : String
  issuedAt : Instant
  currencyCode : String
  config : EInvoiceConfig
  lines : List EInvoiceBuilderLine
  buyer : EInvoiceBuilderBuyer

def buildSupplierParty (config : EInvoiceConfig) : EInvoiceDocumentParty where
  tin := config.supplierTin
  name := config.supplierName
  registrationNo := textOrNone config.registrationNo
  sstRegistrationNo := textOrNone config.sstRegistrationNo
  msicCode := textOrNone config.msicCode
  businessActivityDescription := textOrNone config.businessActivityDescription
  email := textOrNone config.supplierEmail
  phone := textOrNone config.supplierPhone
  address :=
    { lines := [config.addressLine1, config.addressLine2].filter fun line => decide (line ≠ "")
      city := config.city, postcode := config.postcode, state := config.state
      countryCode := textOr config.countryCode "MYS" }

def buildBuyerParty (buyer : EInvoiceBuilderBuyer) : EInvoiceDocumentParty where
  tin := (textOrNone buyer.tin).getD lhdnGeneralPublicTin
  name := buyer.name
  registrationNo := textOrNone buyer.registrationNo
  sstRegistrationNo := none
  msicCode := none
  businessActivityDescription := none
  email := textOrNone buyer.email
  phone := textOrNone buyer.phone
  address :=
    { lines := buyer.addressLines.filter fun line => decide (line ≠ "")
      city := buyer.city.getD "", postcode := buyer.postcode.getD "", state := buyer.state.getD ""
      countryCode := (textOrNone buyer.countryCode).getD "MYS" }

def lineTax (taxRate lineAmount : ℚ) : ℚ := round2 (nearest (nearest (lineAmount * taxRate) / 100))

def buildLine (taxRate : ℚ) (taxType : String) (index : Nat) (line : EInvoiceBuilderLine) : EInvoiceDocumentLine :=
  let lineAmount := round2 line.amount
  { id := index + 1, description := line.description, quantity := numberOr line.quantity 1, unitPrice := round2 line.unitPrice
    lineAmount := lineAmount, taxType := taxType, taxRate := taxRate, taxAmount := lineTax taxRate lineAmount }

def buildEInvoiceDocument (input : EInvoiceBuilderInput) : EInvoiceDocument :=
  let taxRate := numberOr input.config.defaultTaxRate 0
  let taxType := textOr input.config.defaultTaxType "06"
  let lines := input.lines.mapIdx (buildLine taxRate taxType)
  let taxExclusiveAmount := round2 (runningSum 0 (lines.map EInvoiceDocumentLine.lineAmount))
  let taxAmount := round2 (runningSum 0 (lines.map EInvoiceDocumentLine.taxAmount))
  let taxInclusiveAmount := round2 (nearest (taxExclusiveAmount + taxAmount))
  { eInvoiceVersion := "1.0", eInvoiceTypeCode := "01", invoiceNumber := input.invoiceNumber, issuedAt := input.issuedAt
    documentCurrencyCode := textOr input.currencyCode "MYR", supplier := buildSupplierParty input.config
    buyer := buildBuyerParty input.buyer, lines := lines, taxExclusiveAmount := taxExclusiveAmount, taxAmount := taxAmount
    taxInclusiveAmount := taxInclusiveAmount, totalPayableAmount := taxInclusiveAmount }

def validateEInvoiceDocument (doc : EInvoiceDocument) : List String :=
  (if doc.supplier.tin = "" then ["Supplier TIN"] else []) ++
    (if doc.supplier.name = "" then ["Supplier name"] else []) ++
    (if doc.supplier.msicCode = none then ["MSIC business code"] else []) ++
    (if doc.supplier.address.countryCode = "" then ["Supplier country"] else []) ++
    (if doc.invoiceNumber = "" then ["Invoice number"] else []) ++
    if doc.lines = [] then ["At least one line item"] else []

/-- A row of `invoice_lines`: four decimals for quantity and price, two for the amount, none below zero. -/
structure BilledLine where
  description : String
  quantity : ℕ
  unitPrice : ℕ
  amount : ℕ
  amount_fits : amount < 10 ^ 14

structure InvoiceOwner where
  name : String
  email : Option String
  phone : Option String

structure BilledInvoice where
  number : String
  issuedAt : Option Instant
  createdAt : Instant
  currencyCode : String
  lines : List BilledLine
  total : ℕ
  total_fits : total < 10 ^ 14
  owner : Option InvoiceOwner
  unitLabel : String

def numberOf (units scale : ℕ) : ℚ := nearest (units / scale)

def BilledLine.toBuilder (line : BilledLine) : EInvoiceBuilderLine :=
  ⟨line.description, numberOf line.quantity 10000, numberOf line.unitPrice 10000, numberOf line.amount 100⟩

def BilledInvoice.buyer (invoice : BilledInvoice) : EInvoiceBuilderBuyer where
  name := textOr ((invoice.owner.map InvoiceOwner.name).getD "") ("Unit " ++ invoice.unitLabel)
  tin := none
  registrationNo := none
  email := invoice.owner.bind InvoiceOwner.email
  phone := invoice.owner.bind InvoiceOwner.phone
  addressLines := []
  city := none
  postcode := none
  state := none
  countryCode := none

def buildDocument (invoice : BilledInvoice) (config : EInvoiceConfig) : EInvoiceDocument :=
  buildEInvoiceDocument {
    invoiceNumber := invoice.number
    issuedAt := invoice.issuedAt.getD invoice.createdAt
    currencyCode := invoice.currencyCode
    config := config
    lines := invoice.lines.map BilledLine.toBuilder
    buyer := invoice.buyer }

end SmartResidence.EInvoice
