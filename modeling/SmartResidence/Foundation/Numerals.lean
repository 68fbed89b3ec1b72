import Mathlib.Algebra.Order.Field.Rat
import Mathlib.Data.String.Basic
import Mathlib.Tactic.FieldSimp
import Mathlib.Tactic.Linarith
import Mathlib.Tactic.NormNum
import Mathlib.Tactic.Ring

/-!
# Decimal numerals and their values
-/

namespace SmartResidence.Foundation

open List

def digitsValue (digits : List Char) : Nat := Nat.ofDigitChars 10 digits 0

def exponentDigits (digits : List Char) : Option Nat :=
  if digits ≠ [] ∧ digits.all Char.isDigit then some (digitsValue digits) else none

def signedExponent : List Char → Option ℤ
  | '+' :: digits => (exponentDigits digits).map Int.ofNat
  | '-' :: digits => (exponentDigits digits).map fun value : Nat => - (value : ℤ)
  | digits => (exponentDigits digits).map Int.ofNat

def exponentPart : List Char → Option ℤ
  | [] => some 0
  | letter :: rest => if letter = 'e' ∨ letter = 'E' then signedExponent rest else none

def fractionPart : List Char → List Char × List Char
  | '.' :: rest => (rest.takeWhile Char.isDigit, rest.dropWhile Char.isDigit)
  | rest => ([], rest)

def unsignedDecimal (text : List Char) : Option ℚ :=
  let whole := text.takeWhile Char.isDigit
  let (fraction, rest) := fractionPart (text.dropWhile Char.isDigit)
  if whole = [] ∧ fraction = [] then none
  else (exponentPart rest).map fun exponent : ℤ =>
    (digitsValue (whole ++ fraction) : ℚ) * 10 ^ (exponent - fraction.length)

def signedDecimal : List Char → Option ℚ
  | '+' :: text => unsignedDecimal text
  | '-' :: text => (unsignedDecimal text).map fun value => - value
  | text => unsignedDecimal text

/-- A number by its significant digits: `0.d₁d₂… · 10 ^ point`, zero having none. -/
structure Numeral where
  negative : Bool
  digits : List Char
  point : ℤ
  isDigit : ∀ c ∈ digits, c.isDigit = true
  first : digits.head? ≠ some '0'
  last : digits.getLast? ≠ some '0'
  zero : digits = [] → negative = false ∧ point = 0

namespace Numeral

def magnitude (n : Numeral) : ℚ := (digitsValue n.digits : ℚ) * 10 ^ (n.point - n.digits.length)

def value (n : Numeral) : ℚ := if n.negative then - n.magnitude else n.magnitude

end Numeral

def exponentText (exponent : ℤ) : List Char :=
  'e' :: (if 0 ≤ exponent then '+' else '-') :: Nat.toDigits 10 exponent.natAbs

def digitsText (digits : List Char) (point : ℤ) : List Char :=
  if digits = [] then ['0']
  else if (digits.length : ℤ) ≤ point ∧ point ≤ 21 then
    digits ++ List.replicate (point - digits.length).toNat '0'
  else if 0 < point ∧ point ≤ 21 then digits.take point.toNat ++ '.' :: digits.drop point.toNat
  else if - 6 < point ∧ point ≤ 0 then '0' :: '.' :: (List.replicate (- point).toNat '0' ++ digits)
  else if digits.length = 1 then digits ++ exponentText (point - 1)
  else digits.take 1 ++ '.' :: digits.drop 1 ++ exponentText (point - 1)

def Numeral.text (n : Numeral) : List Char :=
  if n.negative then '-' :: digitsText n.digits n.point else digitsText n.digits n.point

theorem digitsValue_append (first second : List Char) :
    digitsValue (first ++ second) = 10 ^ second.length * digitsValue first + digitsValue second := by
  rw [digitsValue, Nat.ofDigitChars_append, Nat.ofDigitChars_eq_ofDigitChars_zero]
  rfl

theorem digitsValue_zeros (count : Nat) : digitsValue (List.replicate count '0') = 0 := by
  simp [digitsValue]

structure EndsDigits (rest : List Char) (exponent : ℤ) : Prop where
  noDigit : rest.takeWhile Char.isDigit = []
  noPoint : fractionPart rest = ([], rest)
  exponent : exponentPart rest = some exponent

theorem endsDigits_nil : EndsDigits [] 0 := ⟨rfl, rfl, rfl⟩

section

variable {whole rest : List Char} {exponent : ℤ} (ends : EndsDigits rest exponent)
include ends

theorem EndsDigits.takeWhile_eq (digits : ∀ c ∈ whole, c.isDigit = true) :
    (whole ++ rest).takeWhile Char.isDigit = whole := by
  rw [takeWhile_append_of_pos digits, ends.noDigit, append_nil]

theorem EndsDigits.dropWhile_eq (digits : ∀ c ∈ whole, c.isDigit = true) :
    (whole ++ rest).dropWhile Char.isDigit = rest := by
  have both := takeWhile_append_dropWhile (p := Char.isDigit) (l := rest)
  rw [ends.noDigit, nil_append] at both
  rw [dropWhile_append_of_pos digits, both]

theorem unsignedDecimal_whole (isWhole : ∀ c ∈ whole, c.isDigit = true) (some : whole ≠ []) :
    unsignedDecimal (whole ++ rest) = Option.some ((digitsValue whole : ℚ) * 10 ^ exponent) := by
  simp [unsignedDecimal, ends.takeWhile_eq isWhole, ends.dropWhile_eq isWhole, ends.noPoint, ends.exponent, some]

end

theorem zeros_isDigit (count : Nat) : ∀ c ∈ List.replicate count '0', c.isDigit = true := by
  intro c mem
  rw [eq_of_mem_replicate mem]
  rfl

theorem signedDecimal_of_unsigned {text : List Char} {value : ℚ}
    (read : unsignedDecimal text = some value) : signedDecimal text = some value := by
  unfold signedDecimal
  split
  · simp [unsignedDecimal, fractionPart] at read
  · simp [unsignedDecimal, fractionPart] at read
  · exact read

theorem digitsValue_cons (c : Char) (digits : List Char) :
    digitsValue (c :: digits) = 10 ^ digits.length * (c.toNat - 48) + digitsValue digits := by
  have split := digitsValue_append [c] digits
  have own : digitsValue [c] = c.toNat - 48 := by simp [digitsValue, Nat.ofDigitChars_cons]
  rw [own] at split
  exact split

theorem digitsValue_lt {digits : List Char} (isDigit : ∀ c ∈ digits, c.isDigit = true) :
    digitsValue digits < 10 ^ digits.length := by
  induction digits with
  | nil => simp [digitsValue]
  | cons c digits ih =>
    have rest := ih fun other mem => isDigit other (mem_cons_of_mem _ mem)
    have bounds := Char.isDigit_iff_toNat.mp (isDigit c mem_cons_self)
    have digit : c.toNat - 48 ≤ 9 := by
      have last : c.toNat ≤ 57 := bounds.2
      omega
    have scaled := Nat.mul_le_mul_left (10 ^ digits.length) digit
    rw [digitsValue_cons, length_cons]
    omega

variable {first second : List Char}

theorem digits_lt_iff (same : first.length = second.length) (isDigit : ∀ c ∈ first, c.isDigit = true)
    (isDigit' : ∀ c ∈ second, c.isDigit = true) : first < second ↔ digitsValue first < digitsValue second := by
  induction first generalizing second with
  | nil =>
    rw [length_nil, eq_comm, length_eq_zero_iff] at same
    simp [same]
  | cons c first ih =>
    cases second with
    | nil => simp at same
    | cons d second =>
      have lengths : first.length = second.length := by simpa using same
      have tails := ih lengths (fun other mem => isDigit other (mem_cons_of_mem _ mem))
        fun other mem => isDigit' other (mem_cons_of_mem _ mem)
      have low := digitsValue_lt fun other mem => isDigit other (mem_cons_of_mem _ mem)
      have low' := digitsValue_lt fun other mem => isDigit' other (mem_cons_of_mem _ mem)
      have least : 48 ≤ c.toNat := (Char.isDigit_iff_toNat.mp (isDigit c mem_cons_self)).1
      have least' : 48 ≤ d.toNat := (Char.isDigit_iff_toNat.mp (isDigit' d mem_cons_self)).1
      rw [cons_lt_cons_iff, tails, digitsValue_cons, digitsValue_cons, lengths]
      rw [lengths] at low
      rcases lt_trichotomy c.toNat d.toNat with before | equal | after
      · have smaller : c < d := before
        have step := Nat.mul_le_mul_left (10 ^ second.length) (by omega : c.toNat - 48 + 1 ≤ d.toNat - 48)
        rw [Nat.mul_add] at step
        simp only [smaller, true_or, true_iff]
        omega
      · have equal' : c = d := Char.toNat_inj.mp equal
        subst equal'
        simp
      · have larger : d < c := after
        have step := Nat.mul_le_mul_left (10 ^ second.length) (by omega : d.toNat - 48 + 1 ≤ c.toNat - 48)
        rw [Nat.mul_add] at step
        simp only [larger.not_gt, larger.ne', false_and, or_self, false_iff]
        omega

theorem digits_inj (same : first.length = second.length) (isDigit : ∀ c ∈ first, c.isDigit = true)
    (isDigit' : ∀ c ∈ second, c.isDigit = true) : first = second ↔ digitsValue first = digitsValue second := by
  have before := digits_lt_iff same isDigit isDigit'
  have after := digits_lt_iff same.symm isDigit' isDigit
  constructor
  · intro equal
    rw [equal]
  · intro equal
    rcases lt_trichotomy first second with less | equal' | greater
    · exact absurd equal (before.mp less).ne
    · exact equal'
    · exact absurd equal.symm (after.mp greater).ne

theorem append_lt_append_iff (same : first.length = second.length) (rest rest' : List Char) :
    first ++ rest < second ++ rest' ↔ first < second ∨ first = second ∧ rest < rest' := by
  induction first generalizing second with
  | nil =>
    rw [length_nil, eq_comm, length_eq_zero_iff] at same
    simp [same]
  | cons c first ih =>
    cases second with
    | nil => simp at same
    | cons d second =>
      rw [cons_append, cons_append, cons_lt_cons_iff, cons_lt_cons_iff, ih (by simpa using same), List.cons.injEq]
      tauto

end SmartResidence.Foundation
