import Mathlib.Algebra.Order.BigOperators.Group.List
import SmartResidence.EInvoice.DocumentBuilder

/-!
# E-invoices and what was billed

The document adds a tax that nobody was billed, and rounds prices again.
-/

namespace SmartResidence.EInvoice

open Foundation Billing List

def toSen (number : ℚ) : ℤ := roundHalfUp (100 * number)

structure StatesBilled (invoice : BilledInvoice) (doc : EInvoiceDocument) : Prop where
  exclusive : toSen doc.taxExclusiveAmount = (doc.lines.map fun line => toSen line.lineAmount).sum
  tax : toSen doc.taxAmount = (doc.lines.map fun line => toSen line.taxAmount).sum
  payable : toSen doc.totalPayableAmount = invoice.total
  lines : ∀ line ∈ doc.lines, round2 (nearest (line.quantity * line.unitPrice)) = line.lineAmount

def sen (amount : ℤ) : ℚ := nearest (amount / 100)

def taxSen (taxRate : ℚ) (line : BilledLine) : ℤ := roundedSen (nearest (nearest (sen line.amount * taxRate) / 100))

def SumExact (amounts : List ℤ) : Prop := toSen (round2 (runningSum 0 (amounts.map sen))) = amounts.sum

def BilledLine.Priced (line : BilledLine) : Prop :=
  round2 (nearest (numberOr (numberOf line.quantity 10000) 1 * round2 (numberOf line.unitPrice 10000))) = sen line.amount

/-- No sum drifts, the taxes are just what the lines leave of the total, and the prices are good to the sen. -/
structure Untaxed (invoice : BilledInvoice) (config : EInvoiceConfig) : Prop where
  amounts : SumExact (invoice.lines.map fun line => (line.amount : ℤ))
  taxes : SumExact (invoice.lines.map (taxSen config.defaultTaxRate))
  leftover : (invoice.lines.map (taxSen config.defaultTaxRate)).sum =
    invoice.total - (invoice.lines.map fun line => (line.amount : ℤ)).sum
  priced : ∀ line ∈ invoice.lines, line.Priced

/-! ## Rounding to the sen -/

section

variable {number : ℚ} {amount : ℤ}

theorem toSen_near (near : |number - amount / 100| < 1 / 200) : toSen number = amount := by
  refine roundHalfUp_near ?_
  obtain ⟨low, high⟩ := abs_lt.mp near
  rw [abs_lt]
  constructor <;> linarith

section

variable (small : |(amount : ℚ)| ≤ 2 * 10 ^ 14)
include small

theorem roundedSen_near (near : |number - amount / 100| ≤ 1 / 1000) : roundedSen number = amount := by
  obtain ⟨least, most⟩ := abs_le.mp small
  obtain ⟨low, high⟩ := abs_le.mp near
  have tiny : epsilon = 1 / 2 ^ 52 := rfl
  have size : |number + epsilon| ≤ 2 * 10 ^ 12 + 1 := by
    rw [abs_le]
    constructor <;> linarith
  obtain ⟨below, above⟩ := abs_le.mp (nearest_within size)
  rw [tiny] at below above
  have scaled : |nearest (number + epsilon) * 100| ≤ 2 * 10 ^ 14 + 200 := by
    rw [abs_le, tiny]
    constructor <;> linarith
  obtain ⟨lower, higher⟩ := abs_le.mp (nearest_within scaled)
  rw [tiny] at lower higher
  refine roundHalfUp_near ?_
  rw [abs_lt, tiny]
  constructor <;> linarith

theorem sen_near : |sen amount - amount / 100| ≤ 1 / 4000 := by
  have size : |(amount : ℚ) / 100| ≤ 2 * 10 ^ 12 := by
    rw [abs_div]
    linarith
  have error := nearest_within size
  exact error.trans (by norm_num)

theorem toSen_sen : toSen (sen amount) = amount := by
  have near := sen_near small
  exact toSen_near (by linarith)

theorem roundedSen_sen : roundedSen (sen amount) = amount := by
  have near := sen_near small
  exact roundedSen_near small (by linarith)

theorem round2_sen : round2 (sen amount) = sen amount := by
  unfold round2
  rw [roundedSen_sen small]
  rfl

end

theorem sen_nonneg (nonneg : 0 ≤ amount) : 0 ≤ sen amount := by
  have cast : (0 : ℚ) ≤ amount := by exact_mod_cast nonneg
  exact nearest_nonneg (by linarith)

theorem roundedSen_nonneg (nonneg : 0 ≤ number) : 0 ≤ roundedSen number := by
  have shifted : 0 ≤ number + epsilon := add_nonneg nonneg (by norm_num [epsilon])
  have scaled := nearest_nonneg (mul_nonneg (nearest_nonneg shifted) (by norm_num : (0 : ℚ) ≤ 100))
  unfold roundedSen
  rw [le_roundHalfUp_iff]
  linarith

theorem roundedSen_le (nonneg : 0 ≤ number) : (roundedSen number : ℚ) ≤ 103 * number + 3 := by
  have tiny : epsilon = 1 / 2 ^ 52 := rfl
  have shifted : 0 ≤ number + epsilon := add_nonneg nonneg (by norm_num [epsilon])
  have first := nearest_le shifted
  have second := nearest_le (mul_nonneg (nearest_nonneg shifted) (by norm_num : (0 : ℚ) ≤ 100))
  have third := roundHalfUp_le_add_half (nearest (nearest (number + epsilon) * 100))
  rw [tiny] at first
  unfold roundedSen
  rw [tiny] at second third ⊢
  linarith

theorem le_roundedSen (nonneg : 0 ≤ number) : 98 * number - 3 ≤ roundedSen number := by
  have tiny : epsilon = 1 / 2 ^ 52 := rfl
  have shifted : 0 ≤ number + epsilon := add_nonneg nonneg (by norm_num [epsilon])
  have first := le_nearest shifted
  have second := le_nearest (mul_nonneg (nearest_nonneg shifted) (by norm_num : (0 : ℚ) ≤ 100))
  have third := sub_half_le_roundHalfUp (nearest (nearest (number + epsilon) * 100))
  rw [tiny] at first
  unfold roundedSen
  rw [tiny] at second third ⊢
  linarith

theorem le_toSen_sen (nonneg : 0 ≤ amount) : (99 / 100 : ℚ) * amount - 2 ≤ toSen (sen amount) := by
  have cast : (0 : ℚ) ≤ amount := by exact_mod_cast nonneg
  have first := le_nearest (x := amount / 100) (by linarith)
  have second := sub_half_le_roundHalfUp (100 * sen amount)
  unfold toSen
  unfold sen at second ⊢
  linarith

end

/-! ## Sums -/

section

variable {first second : ℤ} {total : ℕ}

theorem abs_small {amount : ℤ} (nonneg : 0 ≤ amount) (small : (amount : ℚ) ≤ 2 * 10 ^ 14) : |(amount : ℚ)| ≤ 2 * 10 ^ 14 := by
  rw [abs_of_nonneg (by exact_mod_cast nonneg)]
  exact small

theorem small_of_toSen {amount : ℤ} (nonneg : 0 ≤ amount) (little : (toSen (sen amount) : ℚ) ≤ 10 ^ 14) :
    (amount : ℚ) ≤ 102 / 100 * 10 ^ 14 := by
  have least := le_toSen_sen nonneg
  linarith

theorem payable_sum (nonneg : 0 ≤ first) (also : 0 ≤ second) (small : ((first + second : ℤ) : ℚ) ≤ 2 * 10 ^ 14) :
    toSen (round2 (nearest (sen first + sen second))) = first + second := by
  push_cast at small
  have some : (0 : ℚ) ≤ first := by exact_mod_cast nonneg
  have more : (0 : ℚ) ≤ second := by exact_mod_cast also
  have one := sen_near (abs_small nonneg (by linarith))
  have two := sen_near (abs_small also (by linarith))
  have high := (abs_le.mp one).2
  have higher := (abs_le.mp two).2
  have error := nearest_add_error (sen_nonneg nonneg) (sen_nonneg also) one two
  have both : |((first + second : ℤ) : ℚ)| ≤ 2 * 10 ^ 14 := abs_small (by omega) (by push_cast; exact small)
  have rounded : roundedSen (nearest (sen first + sen second)) = first + second := by
    refine roundedSen_near both ?_
    have split : ((first + second : ℤ) : ℚ) / 100 = first / 100 + second / 100 := by
      push_cast
      ring
    rw [split]
    linarith
  have same : round2 (nearest (sen first + sen second)) = sen (first + second) := by
    unfold round2
    rw [rounded]
    rfl
  rw [same, toSen_sen both]

theorem small_of_payable (nonneg : 0 ≤ first) (also : 0 ≤ second)
    (little : (toSen (round2 (nearest (sen first + sen second))) : ℚ) ≤ 10 ^ 14) : ((first + second : ℤ) : ℚ) ≤ 2 * 10 ^ 14 := by
  have some : (0 : ℚ) ≤ first := by exact_mod_cast nonneg
  have more : (0 : ℚ) ≤ second := by exact_mod_cast also
  have sums : 0 ≤ sen first + sen second := add_nonneg (sen_nonneg nonneg) (sen_nonneg also)
  have rounded := small_of_toSen (roundedSen_nonneg (nearest_nonneg sums)) little
  have scaled := le_roundedSen (nearest_nonneg sums)
  have added := le_nearest sums
  have one := le_nearest (x := first / 100) (by linarith)
  have two := le_nearest (x := second / 100) (by linarith)
  change _ ≤ sen first at one
  change _ ≤ sen second at two
  push_cast
  linarith

theorem payable_iff {exclusive tax : ℚ} {amounts taxes : ℤ} (nonneg : 0 ≤ exclusive) (also : 0 ≤ tax)
    (reads : toSen (round2 exclusive) = amounts) (too : toSen (round2 tax) = taxes) (fits : total < 10 ^ 14) :
    toSen (round2 (nearest (round2 exclusive + round2 tax))) = total ↔ taxes = total - amounts := by
  have limit : (total : ℚ) ≤ 10 ^ 14 := by exact_mod_cast fits.le
  have one : 0 ≤ roundedSen exclusive := roundedSen_nonneg nonneg
  have two : 0 ≤ roundedSen tax := roundedSen_nonneg also
  change toSen (sen (roundedSen exclusive)) = amounts at reads
  change toSen (sen (roundedSen tax)) = taxes at too
  change toSen (round2 (nearest (sen (roundedSen exclusive) + sen (roundedSen tax)))) = total ↔ _
  have read (small : ((roundedSen exclusive + roundedSen tax : ℤ) : ℚ) ≤ 2 * 10 ^ 14) :
      amounts = roundedSen exclusive ∧ taxes = roundedSen tax := by
    push_cast at small
    have some : (0 : ℚ) ≤ roundedSen exclusive := by exact_mod_cast one
    have more : (0 : ℚ) ≤ roundedSen tax := by exact_mod_cast two
    rw [toSen_sen (abs_small one (by linarith))] at reads
    rw [toSen_sen (abs_small two (by linarith))] at too
    exact ⟨reads.symm, too.symm⟩
  constructor
  · intro paid
    have small := small_of_payable one two (by rw [paid]; exact_mod_cast limit)
    obtain ⟨rfl, rfl⟩ := read small
    rw [payable_sum one two small] at paid
    omega
  · intro leftover
    have amounts_nonneg : 0 ≤ toSen (sen (roundedSen exclusive)) := by
      have number := sen_nonneg one
      unfold toSen
      rw [le_roundHalfUp_iff]
      linarith
    have taxes_nonneg : 0 ≤ toSen (sen (roundedSen tax)) := by
      have number := sen_nonneg two
      unfold toSen
      rw [le_roundHalfUp_iff]
      linarith
    have some : (0 : ℚ) ≤ amounts := by exact_mod_cast reads ▸ amounts_nonneg
    have more : (0 : ℚ) ≤ taxes := by exact_mod_cast too ▸ taxes_nonneg
    have sum : (taxes : ℚ) = total - amounts := by exact_mod_cast leftover
    have little := small_of_toSen one (by rw [reads]; linarith)
    have less := small_of_toSen two (by rw [too]; linarith)
    rw [toSen_sen (abs_small one (by linarith))] at reads
    rw [toSen_sen (abs_small two (by linarith))] at too
    subst reads too
    rw [payable_sum one two (by push_cast; linarith)]
    omega

theorem runningSum_error {step size : ℚ} (pos : 0 ≤ step) (enough : 2 * ((size + 1) / 2 ^ 53 + 1 / 2 ^ 60) ≤ step) {amounts : List ℤ}
    (nonneg : ∀ amount ∈ amounts, 0 ≤ amount) {start before error : ℚ} (above : 0 ≤ start) (near : |start - before| ≤ error)
    (bounded : before + (amounts.sum : ℚ) / 100 ≤ size) (room : error + amounts.length * step ≤ 1 / 1000) :
    |runningSum start (amounts.map sen) - (before + (amounts.sum : ℚ) / 100)| ≤ error + amounts.length * step := by
  induction amounts generalizing start before error with
  | nil => simpa [runningSum] using near
  | cons amount rest ih =>
    have mine : (0 : ℚ) ≤ amount := by exact_mod_cast nonneg amount mem_cons_self
    have others : (0 : ℚ) ≤ rest.sum := by
      exact_mod_cast sum_nonneg fun other mem => nonneg other (mem_cons_of_mem _ mem)
    obtain ⟨low, high⟩ := abs_le.mp near
    rw [sum_cons] at bounded ⊢
    rw [length_cons] at room ⊢
    rw [Int.cast_add] at bounded ⊢
    rw [Nat.cast_add, Nat.cast_one] at room ⊢
    have unit : |sen amount - amount / 100| ≤ amount / 100 / 2 ^ 53 + 1 / 2 ^ 60 := nearest_error_nonneg (by linarith)
    obtain ⟨below, least⟩ := abs_le.mp unit
    have read : 0 ≤ sen amount := sen_nonneg (by exact_mod_cast mine)
    obtain ⟨lower, higher⟩ := abs_le.mp (nearest_error_nonneg (add_nonneg above read))
    have tail : 0 ≤ rest.length * step := mul_nonneg (Nat.cast_nonneg _) pos
    have closer : |nearest (start + sen amount) - (before + amount / 100)| ≤ error + step := by
      rw [abs_le]
      constructor <;> linarith
    have rest_error := ih (fun other mem => nonneg other (mem_cons_of_mem _ mem))
      (nearest_nonneg (add_nonneg above read)) closer (by linarith) (by linarith)
    have target : before + ((amount : ℚ) + rest.sum) / 100 = before + amount / 100 + rest.sum / 100 := by ring
    have budget : error + ((rest.length : ℚ) + 1) * step = error + step + rest.length * step := by ring
    rw [target, budget]
    exact rest_error

theorem sumExact_of_small {amounts : List ℤ} (nonneg : ∀ amount ∈ amounts, 0 ≤ amount)
    (small : amounts.length * (amounts.sum + 200) ≤ 2 ^ 47) : SumExact amounts := by
  have sum_nonneg : 0 ≤ amounts.sum := sum_nonneg nonneg
  have cast : (0 : ℚ) ≤ amounts.sum := by exact_mod_cast sum_nonneg
  have budget : (amounts.length : ℚ) * (amounts.sum + 200) ≤ 2 ^ 47 := by exact_mod_cast small
  have lines : (0 : ℚ) ≤ amounts.length := Nat.cast_nonneg _
  have fits : |(amounts.sum : ℚ)| ≤ 2 * 10 ^ 14 := by
    refine abs_small sum_nonneg ?_
    cases amounts with
    | nil => norm_num
    | cons amount rest =>
      have one : (1 : ℚ) ≤ (amount :: rest).length := by
        rw [length_cons]
        push_cast
        linarith [(Nat.cast_nonneg rest.length : (0 : ℚ) ≤ rest.length)]
      have least := mul_le_mul_of_nonneg_right one (by linarith : (0 : ℚ) ≤ ((amount :: rest).sum : ℚ) + 200)
      linarith
  have error : |runningSum 0 (amounts.map sen) - (0 + (amounts.sum : ℚ) / 100)| ≤
      0 + (amounts.length : ℚ) * (2 * (((amounts.sum : ℚ) / 100 + 1) / 2 ^ 53 + 1 / 2 ^ 60)) :=
    runningSum_error (by linarith) (le_refl _) nonneg (le_refl 0) (by norm_num) (by linarith) (by linarith)
  rw [zero_add] at error
  unfold SumExact round2
  rw [roundedSen_near fits (by linarith)]
  exact toSen_sen fits

end

/-! ## The document -/

section

variable {invoice : BilledInvoice} {config : EInvoiceConfig} {taxRate : ℚ} {line : BilledLine}

theorem amount_small (line : BilledLine) : |(((line.amount : ℕ) : ℤ) : ℚ)| ≤ 2 * 10 ^ 14 := by
  have fits : (line.amount : ℚ) ≤ 10 ^ 14 := by exact_mod_cast line.amount_fits.le
  refine abs_small (Int.natCast_nonneg _) ?_
  push_cast
  linarith

theorem tax_nonneg (rate : 0 ≤ taxRate) : 0 ≤ nearest (nearest (sen line.amount * taxRate) / 100) := by
  have amount : 0 ≤ sen line.amount := sen_nonneg (Int.natCast_nonneg _)
  exact nearest_nonneg (div_nonneg (nearest_nonneg (mul_nonneg amount rate)) (by norm_num))

theorem taxSen_nonneg (rate : 0 ≤ taxRate) : 0 ≤ taxSen taxRate line := roundedSen_nonneg (tax_nonneg rate)

theorem taxSen_small (rate : 0 ≤ taxRate) (percent : taxRate ≤ 100) : |(taxSen taxRate line : ℚ)| ≤ 2 * 10 ^ 14 := by
  refine abs_small (taxSen_nonneg rate) ?_
  have fits : (line.amount : ℚ) ≤ 10 ^ 14 := by exact_mod_cast line.amount_fits.le
  have amount : 0 ≤ sen line.amount := sen_nonneg (Int.natCast_nonneg _)
  have first : sen line.amount ≤ 101 / 100 * ((line.amount : ℚ) / 100) + 1 / 100 := by
    have most := nearest_le (x := (line.amount : ℚ) / 100) (by linarith)
    exact most
  have product : sen line.amount * taxRate ≤ sen line.amount * 100 := mul_le_mul_of_nonneg_left percent amount
  have second := nearest_le (mul_nonneg amount rate)
  have third := nearest_le (div_nonneg (nearest_nonneg (mul_nonneg amount rate)) (by norm_num : (0 : ℚ) ≤ 100))
  have unrounded : 0 ≤ nearest (nearest (sen line.amount * taxRate) / 100) := tax_nonneg rate
  have rounded := roundedSen_le unrounded
  unfold taxSen
  linarith

theorem numberOr_zero (value : ℚ) : numberOr value 0 = value := by
  unfold numberOr
  split
  · exact Eq.symm ‹_›
  · rfl

theorem lineAmount_eq (taxType : String) (index : Nat) : (buildLine taxRate taxType index line.toBuilder).lineAmount = sen line.amount := by
  have number : line.toBuilder.amount = sen line.amount := by
    simp [BilledLine.toBuilder, numberOf, sen]
  show round2 line.toBuilder.amount = _
  rw [number, round2_sen (amount_small line)]

theorem taxAmount_eq (taxType : String) (index : Nat) :
    (buildLine taxRate taxType index line.toBuilder).taxAmount = sen (taxSen taxRate line) := by
  show lineTax taxRate (buildLine taxRate taxType index line.toBuilder).lineAmount = _
  rw [lineAmount_eq]
  rfl

theorem map_document_lines {Value : Type} {show_line : EInvoiceDocumentLine → Value} {shown : BilledLine → Value}
    (same : ∀ index line, show_line (buildLine config.defaultTaxRate (textOr config.defaultTaxType "06") index
      (BilledLine.toBuilder line)) = shown line) :
    (buildDocument invoice config).lines.map show_line = invoice.lines.map shown := by
  have rate := numberOr_zero config.defaultTaxRate
  refine ext_getElem ?_ fun index first second => ?_
  · simp [buildDocument, buildEInvoiceDocument]
  · simp only [buildDocument, buildEInvoiceDocument, rate, getElem_map, getElem_mapIdx]
    exact same _ _

theorem document_amounts : (buildDocument invoice config).lines.map EInvoiceDocumentLine.lineAmount =
    (invoice.lines.map fun line => (line.amount : ℤ)).map sen := by
  rw [map_map]
  exact map_document_lines fun _ _ => lineAmount_eq _ _

theorem document_taxes : (buildDocument invoice config).lines.map EInvoiceDocumentLine.taxAmount =
    (invoice.lines.map (taxSen config.defaultTaxRate)).map sen := by
  rw [map_map]
  exact map_document_lines fun _ _ => taxAmount_eq _ _

theorem document_exclusive : (buildDocument invoice config).taxExclusiveAmount =
    round2 (runningSum 0 ((invoice.lines.map fun line => (line.amount : ℤ)).map sen)) := by
  have amounts : (buildDocument invoice config).lines.map EInvoiceDocumentLine.lineAmount = _ := document_amounts
  rw [← amounts]
  rfl

theorem document_tax : (buildDocument invoice config).taxAmount =
    round2 (runningSum 0 ((invoice.lines.map (taxSen config.defaultTaxRate)).map sen)) := by
  rw [← document_taxes]
  rfl

theorem runningSum_nonneg {amounts : List ℤ} (nonneg : ∀ amount ∈ amounts, 0 ≤ amount) {start : ℚ} (above : 0 ≤ start) :
    0 ≤ runningSum start (amounts.map sen) := by
  induction amounts generalizing start with
  | nil => exact above
  | cons amount rest ih =>
    have added := nearest_nonneg (add_nonneg above (sen_nonneg (nonneg amount mem_cons_self)))
    exact ih (fun other mem => nonneg other (mem_cons_of_mem _ mem)) added

theorem exclusive_iff : toSen (buildDocument invoice config).taxExclusiveAmount =
      ((buildDocument invoice config).lines.map fun line => toSen line.lineAmount).sum ↔
    SumExact (invoice.lines.map fun line => (line.amount : ℤ)) := by
  have lines : (buildDocument invoice config).lines.map (fun line => toSen line.lineAmount) =
      invoice.lines.map fun line => (line.amount : ℤ) :=
    map_document_lines fun index line => by rw [lineAmount_eq, toSen_sen (amount_small line)]
  rw [lines, document_exclusive]
  rfl

theorem tax_iff : toSen (buildDocument invoice config).taxAmount =
      ((buildDocument invoice config).lines.map fun line => toSen line.taxAmount).sum ↔
    SumExact (invoice.lines.map (taxSen config.defaultTaxRate)) := by
  have lines : (buildDocument invoice config).lines.map (fun line => toSen line.taxAmount) =
      invoice.lines.map (taxSen config.defaultTaxRate) :=
    map_document_lines fun index line => by rw [taxAmount_eq, toSen_sen (taxSen_small config.rate_nonneg config.rate_le)]
  rw [lines, document_tax]
  rfl

theorem document_payable_iff (amounts : SumExact (invoice.lines.map fun line => (line.amount : ℤ)))
    (taxes : SumExact (invoice.lines.map (taxSen config.defaultTaxRate))) :
    toSen (buildDocument invoice config).totalPayableAmount = invoice.total ↔
      (invoice.lines.map (taxSen config.defaultTaxRate)).sum =
        invoice.total - (invoice.lines.map fun line => (line.amount : ℤ)).sum := by
  have payable : (buildDocument invoice config).totalPayableAmount =
      round2 (nearest ((buildDocument invoice config).taxExclusiveAmount + (buildDocument invoice config).taxAmount)) := rfl
  rw [payable, document_exclusive, document_tax]
  refine payable_iff (runningSum_nonneg ?_ (le_refl 0)) (runningSum_nonneg ?_ (le_refl 0)) amounts taxes invoice.total_fits
  · intro amount mem
    obtain ⟨line, -, rfl⟩ := mem_map.mp mem
    exact Int.natCast_nonneg _
  · intro amount mem
    obtain ⟨line, -, rfl⟩ := mem_map.mp mem
    exact taxSen_nonneg config.rate_nonneg

theorem document_lines_iff : (∀ line ∈ (buildDocument invoice config).lines,
      round2 (nearest (line.quantity * line.unitPrice)) = line.lineAmount) ↔ ∀ line ∈ invoice.lines, line.Priced := by
  have lines : (buildDocument invoice config).lines.map (fun line => round2 (nearest (line.quantity * line.unitPrice)) = line.lineAmount) =
      invoice.lines.map BilledLine.Priced := by
    refine map_document_lines fun index line => ?_
    rw [lineAmount_eq]
    rfl
  rw [← forall_mem_map (P := fun stated => stated), lines, forall_mem_map]

end

namespace Sample

def fee : BilledLine := ⟨"Monthly maintenance fee", 10000, 1000000, 10000, by norm_num⟩

def monthly : BilledInvoice :=
  { number := "INV-2025-000001", issuedAt := some 0, createdAt := 0, currencyCode := "MYR", lines := [fee], total := 10000
    total_fits := by norm_num, owner := none, unitLabel := "A-1-1" }

def serviceTax : EInvoiceConfig :=
  { enabled := true, environment := .production, autoSubmitOnIssue := true, supplierTin := "C1234567890", supplierName := "JMB"
    registrationNo := "", sstRegistrationNo := "", msicCode := "68109", businessActivityDescription := "", addressLine1 := ""
    addressLine2 := "", city := "", postcode := "", state := "", countryCode := "MYS", supplierEmail := "", supplierPhone := ""
    defaultTaxType := "02", defaultTaxRate := 6, rate_nonneg := by norm_num, rate_le := by norm_num }

theorem taxSen_fee : taxSen serviceTax.defaultTaxRate fee = 600 := by
  have hundred : sen fee.amount = 100 := by
    have exact := nearest_natCast (n := 100) (by norm_num)
    norm_num [sen, fee]
    exact_mod_cast exact
  have product : nearest (sen fee.amount * serviceTax.defaultTaxRate) = 600 := by
    have exact := nearest_natCast (n := 600) (by norm_num)
    rw [hundred]
    norm_num [serviceTax]
    exact_mod_cast exact
  have tax : nearest (nearest (sen fee.amount * serviceTax.defaultTaxRate) / 100) = 6 := by
    have exact := nearest_natCast (n := 6) (by norm_num)
    rw [product]
    norm_num
    exact_mod_cast exact
  unfold taxSen
  rw [tax]
  exact roundedSen_near (by norm_num) (by norm_num)

end Sample

end SmartResidence.EInvoice
