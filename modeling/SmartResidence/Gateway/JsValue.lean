import SmartResidence.Billing.Schema
import SmartResidence.Foundation.Numerals

/-!
# Values of a request body

Numbers are exact: they are neither rounded nor do they overflow.
-/

namespace SmartResidence.Billing

open Foundation

inductive JsValue
  | null
  | bool (value : Bool)
  | number (value : Numeral)
  | string (value : String)
  | array (items : List JsValue)
  | object (fields : List (String × JsValue))

abbrev Body := List (String × JsValue)

/-- A field that is neither missing nor `null`; `a ?? b` is `a.or b`. -/
def field (body : Body) (name : String) : Option JsValue :=
  match body.find? fun pair => decide (pair.1 = name) with
  | none => none
  | some (_, .null) => none
  | some (_, value) => some value

def isTrue : Option JsValue → Bool
  | some (.bool true) => true
  | _ => false

def notPrimitive : ApiError := .failure "Cannot convert object to primitive value"

mutual

/-- `String(value)`. A `toString` of the body's own is not callable. -/
def JsValue.text : JsValue → Result String
  | .null => .ok "null"
  | .bool value => .ok (if value then "true" else "false")
  | .number value => .ok (String.ofList value.text)
  | .string value => .ok value
  | .array items => (itemTexts items).map fun texts => String.intercalate "," texts
  | .object fields =>
      if fields.any fun pair => decide (pair.1 = "toString") then .error notPrimitive
      else .ok "[object Object]"

def itemTexts : List JsValue → Result (List String)
  | [] => .ok []
  | .null :: rest => (itemTexts rest).map fun texts => "" :: texts
  | item :: rest => do
      let text ← item.text
      let texts ← itemTexts rest
      return text :: texts

end

/-- `String(value ?? '')`, or with another text for what is missing. -/
def textOr (value : Option JsValue) (missing : String) : Result String :=
  match value with
  | none => .ok missing
  | some value => value.text

def isSpace (c : Char) : Bool :=
  c ∈ ['\t', '\n', '\x0b', '\x0c', '\r', ' ', '\u00a0', '\u1680', '\u2000', '\u2001', '\u2002',
    '\u2003', '\u2004', '\u2005', '\u2006', '\u2007', '\u2008', '\u2009', '\u200a', '\u2028', '\u2029',
    '\u202f', '\u205f', '\u3000', '\ufeff']

def trim (text : List Char) : List Char :=
  ((text.dropWhile isSpace).reverse.dropWhile isSpace).reverse

def hexDigitValue (c : Char) : Option Nat :=
  if c.isDigit then some (c.toNat - '0'.toNat)
  else if 'a' ≤ c ∧ c ≤ 'f' then some (c.toNat - 'a'.toNat + 10)
  else if 'A' ≤ c ∧ c ≤ 'F' then some (c.toNat - 'A'.toNat + 10)
  else none

def radixValue (base : Nat) (digits : List Char) : Option ℚ :=
  if digits = [] then none
  else (digits.foldlM (fun value c => do
    let digit ← hexDigitValue c
    if digit < base then some (base * value + digit) else none) 0).map fun value : Nat => (value : ℚ)

def numberOf (text : String) : Option ℚ :=
  match trim text.toList with
  | [] => some 0
  | '0' :: 'x' :: digits | '0' :: 'X' :: digits => radixValue 16 digits
  | '0' :: 'o' :: digits | '0' :: 'O' :: digits => radixValue 8 digits
  | '0' :: 'b' :: digits | '0' :: 'B' :: digits => radixValue 2 digits
  | numeral => signedDecimal numeral

def JsValue.toNumber : JsValue → Result (Option ℚ)
  | .null => .ok (some 0)
  | .bool value => .ok (some (if value then 1 else 0))
  | .number value => .ok (some value.value)
  | .string value => .ok (numberOf value)
  | value => value.text.map numberOf

/-- `Number(value ?? Number.NaN)`, when it is finite. -/
def numberOrNaN : Option JsValue → Result (Option ℚ)
  | none => .ok none
  | some value => value.toNumber

end SmartResidence.Billing
