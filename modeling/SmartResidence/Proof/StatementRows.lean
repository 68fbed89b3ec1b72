import Mathlib.Tactic.IntervalCases
import SmartResidence.Accounting.BankReconciliation
import SmartResidence.Proof.NumberTexts

/-!
# Bank statements are read back from their CSV
-/

namespace SmartResidence.Accounting

open Foundation Billing List

variable {engine : List Char → Option Instant} {written : List Char → Option ℤ} {text cell rest cur : List Char}

def calendarDay (year month day : ℕ) : Option ℤ :=
  let first : ℤ := 12 * (year - 1970) + (month - 1)
  if 1 ≤ month ∧ month ≤ 12 ∧ 1 ≤ day ∧ day ≤ monthLength first then some (monthStart first + day - 1) else none

def writtenDay (written : List Char → Option ℤ) (cell : List Char) : Option ℤ :=
  let s := trim cell
  match isoParts s with
  | some (year, month, day) => calendarDay year month day
  | none =>
      match dmyParts s with
      | some (d, m, y) => calendarDay (digitsValue y) (digitsValue m) (digitsValue d)
      | none => written s

def dateCell (rawLine : List Char) : List Char := (parseCsvLine (trim rawLine)).headD []

structure Dated (written : List Char → Option ℤ) (rawLine : List Char) (row : ParsedBankRow) : Prop where
  date : ∃ instant ∈ row.date, writtenDay written (dateCell rawLine) = some (instant / msPerDay)
  amount : ∃ number, double number = some row.amount

def NamesDay (engine : List Char → Option Instant) (written : List Char → Option ℤ) (cell : List Char) : Prop :=
  let s := trim cell
  if (isoParts s).isSome ∨ (dmyParts s).isSome then (writtenDay written cell).isSome
  else ∀ instant ∈ engine s, written s = some (instant / msPerDay)

def IsEntry (i : ℕ) (rawLine : List Char) : Prop :=
  ∃ date description amount more, parseCsvLine (trim rawLine) = date :: description :: amount :: more ∧
    ¬ (i = 0 ∧ isHeader date) ∧ trim description ≠ [] ∧ (parseAmount amount).isSome

/-- The cells of a row: an ISO date that there is, a trimmed description in one line, and a decimal number. -/
structure StatementRow where
  date : String
  day : ℤ
  description : String
  amountText : String
  amount : ℚ
  isDate : ∃ year month dayOfMonth,
    isoParts date.toList = some (year, month, dayOfMonth) ∧ calendarDay year month dayOfMonth = some day
  trimmed : trim description.toList = description.toList
  described : description ≠ ""
  oneLine : '\n' ∉ description.toList
  isAmount : ∃ number, signedDecimal amountText.toList = some number ∧ double number = some amount

def StatementRow.cells (row : StatementRow) : List String := [row.date, row.description, row.amountText]

def StatementRow.parsed (row : StatementRow) : ParsedBankRow := ⟨some (row.day * msPerDay), row.description, row.amount⟩

/-! ## Quotes and lines -/

variable {p : Char → Bool}

theorem dropWhile_of_head (first : ∀ c ∈ text.head?, p c = false) : text.dropWhile p = text := by
  cases text with
  | nil => rfl
  | cons c rest => rw [dropWhile_cons, if_neg (by simp [first c rfl])]

theorem trim_eq_self (first : ∀ c ∈ text.head?, isSpace c = false) (last : ∀ c ∈ text.getLast?, isSpace c = false) :
    trim text = text := by
  rw [trim, dropWhile_of_head first, dropWhile_of_head, reverse_reverse]
  rwa [List.head?_reverse]

theorem cellsFrom_quoted (cell : List Char) (cur : List Char) (closed : rest.head? ≠ some '\x22') :
    cellsFrom true cur (cell.flatMap (fun c => if c = '\x22' then ['\x22', '\x22'] else [c]) ++ '\x22' :: rest) =
      cellsFrom false (cur ++ cell) rest := by
  induction cell generalizing cur with
  | nil =>
    rw [append_nil]
    show cellsFrom true cur ('\x22' :: rest) = _
    cases rest with
    | nil => simp [cellsFrom]
    | cons next more =>
      have other : next ≠ '\x22' := fun same => closed (congrArg some same)
      rw [cellsFrom]
      intro later same
      exact other (List.cons.inj same).1
  | cons c cell ih =>
    have stepped := ih (cur ++ [c])
    rw [append_assoc, singleton_append] at stepped
    rw [← stepped, flatMap_cons, append_assoc]
    by_cases quote : c = '\x22'
    · rw [quote]
      rfl
    · rw [if_neg quote, singleton_append]
      rw [cellsFrom] <;> intros <;> contradiction

theorem cellsFrom_open (cur rest : List Char) : cellsFrom false cur ('\x22' :: rest) = cellsFrom true cur rest := by
  rw [cellsFrom]

theorem cellsFrom_comma (cur rest : List Char) : cellsFrom false cur (',' :: rest) = cur :: cellsFrom false [] rest := by
  rw [cellsFrom]

theorem parseCsvLine_cell (cell : List Char) (closed : rest.head? ≠ some '\x22') :
    parseCsvLine (quoted cell ++ rest) = cellsFrom false cell rest := by
  unfold parseCsvLine quoted
  rw [cons_append, append_assoc, singleton_append, cellsFrom_open, cellsFrom_quoted cell [] closed]
  rfl

theorem parseCsvLine_quoted (cell : List Char) (cells : List (List Char)) :
    parseCsvLine ([','].intercalate ((cell :: cells).map quoted)) = cell :: cells := by
  induction cells generalizing cell with
  | nil =>
    rw [map_singleton, intercalate_singleton, ← append_nil (quoted cell), parseCsvLine_cell cell (by simp), cellsFrom]
  | cons next cells ih =>
    rw [map_cons, map_cons, intercalate_cons_cons, append_assoc, parseCsvLine_cell cell (by simp)]
    exact congrArg (cell :: ·) (ih next)

theorem splitLines_intercalate {lines : List (List Char)} (some : lines ≠ []) (whole : ∀ line ∈ lines, '\n' ∉ line)
    (ends : ∀ line ∈ lines, line.getLast? ≠ Option.some '\r') : splitLines (['\n'].intercalate lines) = lines := by
  have kept : lines.dropLast.map dropReturn = lines.dropLast := by
    conv_rhs => rw [← map_id lines.dropLast]
    refine map_congr_left fun line mem => ?_
    rw [dropReturn, if_neg (ends line (mem_of_mem_dropLast mem))]
    rfl
  unfold splitLines
  rw [splitOn_intercalate '\n' whole some]
  dsimp only
  rw [kept, List.getLast?_eq_some_getLast some]
  exact dropLast_append_getLast some

section

variable {parts : List (List Char)} {sep : List Char} {c : Char}

theorem head?_intercalate (some : parts ≠ []) (heads : ∀ part ∈ parts, part.head? = Option.some c) :
    (sep.intercalate parts).head? = Option.some c := by
  cases parts with
  | nil => exact absurd rfl some
  | cons part parts =>
    have head := heads part mem_cons_self
    cases parts with
    | nil => rwa [intercalate_singleton]
    | cons next parts => rw [intercalate_cons_cons, append_assoc, List.head?_append, head, Option.some_or]

theorem getLast?_intercalate (some : parts ≠ []) (lasts : ∀ part ∈ parts, part.getLast? = Option.some c) :
    (sep.intercalate parts).getLast? = Option.some c := by
  induction parts with
  | nil => exact absurd rfl some
  | cons part parts ih =>
    cases parts with
    | nil =>
      rw [intercalate_singleton]
      exact lasts part mem_cons_self
    | cons next parts =>
      have last := ih (cons_ne_nil next parts) fun other mem => lasts other (mem_cons_of_mem part mem)
      rw [intercalate_cons_cons, List.getLast?_append, last, Option.some_or]

theorem not_mem_intercalate (apart : c ∉ sep) (none : ∀ part ∈ parts, c ∉ part) : c ∉ sep.intercalate parts := by
  induction parts with
  | nil => exact not_mem_nil
  | cons part parts ih =>
    have own := none part mem_cons_self
    cases parts with
    | nil => rwa [intercalate_singleton]
    | cons next parts =>
      have later := ih fun other mem => none other (mem_cons_of_mem part mem)
      rw [intercalate_cons_cons, mem_append, mem_append]
      tauto

end

theorem head?_quoted (cell : List Char) : (quoted cell).head? = some '\x22' := rfl

theorem getLast?_quoted (cell : List Char) : (quoted cell).getLast? = some '\x22' := by
  unfold quoted
  rw [← cons_append, List.getLast?_append]
  rfl

theorem not_mem_quoted (none : '\n' ∉ cell) : '\n' ∉ quoted cell := by
  intro mem
  have inside : '\n' ∈ cell.flatMap fun c => if c = '\x22' then ['\x22', '\x22'] else [c] := by
    simpa [quoted] using mem
  obtain ⟨c, found, same⟩ := mem_flatMap.mp inside
  split at same
  · simp at same
  · rw [mem_singleton] at same
    exact none (same ▸ found)

def rowText (row : List String) : List Char := [','].intercalate (row.map fun cell => quoted cell.toList)

section

variable {row : List String} (filled : row ≠ [])

include filled in
theorem head?_rowText : (rowText row).head? = some '\x22' := by
  refine head?_intercalate (by simpa using filled) fun part mem => ?_
  obtain ⟨cell, _, rfl⟩ := mem_map.mp mem
  exact head?_quoted _

include filled in
theorem getLast?_rowText : (rowText row).getLast? = some '\x22' := by
  refine getLast?_intercalate (by simpa using filled) fun part mem => ?_
  obtain ⟨cell, _, rfl⟩ := mem_map.mp mem
  exact getLast?_quoted _

theorem not_mem_rowText (whole : ∀ cell ∈ row, '\n' ∉ cell.toList) : '\n' ∉ rowText row := by
  refine not_mem_intercalate (by decide) fun part mem => ?_
  obtain ⟨cell, own, rfl⟩ := mem_map.mp mem
  exact not_mem_quoted (whole cell own)

include filled in
theorem trim_rowText : trim (rowText row) = rowText row := by
  refine trim_eq_self (fun c head => ?_) fun c last => ?_
  · rw [head?_rowText filled] at head
    cases head
    decide
  · rw [getLast?_rowText filled] at last
    cases last
    decide

end

theorem csvLines_buildCsv {rows : List (List String)} (some : rows ≠ []) (filled : ∀ row ∈ rows, row ≠ [])
    (whole : ∀ row ∈ rows, ∀ cell ∈ row, '\n' ∉ cell.toList) : csvLines (buildCsv rows) = (rows.map rowText).zipIdx := by
  have nonempty : rows.map rowText ≠ [] := by simpa using some
  have heads : ∀ line ∈ rows.map rowText, line.head? = Option.some '\x22' :=
    forall_mem_map.mpr fun row listed => head?_rowText (filled row listed)
  have lasts : ∀ line ∈ rows.map rowText, line.getLast? = Option.some '\x22' :=
    forall_mem_map.mpr fun row listed => getLast?_rowText (filled row listed)
  have lines : ∀ line ∈ rows.map rowText, '\n' ∉ line :=
    forall_mem_map.mpr fun row listed => not_mem_rowText (whole row listed)
  unfold csvLines
  rw [show (buildCsv rows).toList = ['\n'].intercalate (rows.map rowText) from String.toList_ofList, trim_eq_self,
    splitLines_intercalate nonempty lines]
  · intro line mem
    rw [lasts line mem]
    decide
  · intro c head
    rw [head?_intercalate nonempty heads] at head
    cases head
    decide
  · intro c last
    rw [getLast?_intercalate nonempty lasts] at last
    cases last
    decide

/-! ## Amounts -/

def decimalChars : List Char := ['0', '1', '2', '3', '4', '5', '6', '7', '8', '9', '.', 'e', 'E', '+', '-']

theorem mem_decimalChars {c : Char} (digit : c.isDigit = true) : c ∈ decimalChars := by
  have low : '0'.toNat ≤ c.toNat ∧ c.toNat ≤ '9'.toNat := by
    simpa [Char.isDigit, UInt32.le_iff_toNat_le] using digit
  have code := Char.ofNat_toNat c
  obtain ⟨least, most⟩ : 48 ≤ c.toNat ∧ c.toNat ≤ 57 := low
  interval_cases value : c.toNat <;> rw [← code] <;> decide

theorem decimalChars_of_digits {digits : List Char} (all : ∀ c ∈ digits, c.isDigit = true) : ∀ c ∈ digits, c ∈ decimalChars :=
  fun c mem => mem_decimalChars (all c mem)

theorem exponentDigits_chars {n : ℕ} (read : exponentDigits text = some n) : ∀ c ∈ text, c ∈ decimalChars := by
  unfold exponentDigits at read
  split at read
  · rename_i digits
    exact decimalChars_of_digits (all_eq_true.mp digits.2)
  · cases read

variable {exponent : ℤ}

theorem signedExponent_chars (read : signedExponent text = some exponent) : ∀ c ∈ text, c ∈ decimalChars := by
  unfold signedExponent at read
  split at read
  · obtain ⟨n, digits, _⟩ := Option.map_eq_some_iff.mp read
    exact forall_mem_cons.mpr ⟨by decide, exponentDigits_chars digits⟩
  · obtain ⟨n, digits, _⟩ := Option.map_eq_some_iff.mp read
    exact forall_mem_cons.mpr ⟨by decide, exponentDigits_chars digits⟩
  · obtain ⟨n, digits, _⟩ := Option.map_eq_some_iff.mp read
    exact exponentDigits_chars digits

theorem exponentPart_chars (read : exponentPart text = some exponent) : ∀ c ∈ text, c ∈ decimalChars := by
  cases text with
  | nil => nofun
  | cons letter rest =>
    rw [exponentPart] at read
    split at read
    · rename_i isE
      refine forall_mem_cons.mpr ⟨?_, signedExponent_chars read⟩
      rcases isE with rfl | rfl <;> decide
    · cases read

variable {value : ℚ}

theorem unsignedDecimal_chars (read : unsignedDecimal text = some value) : ∀ c ∈ text, c ∈ decimalChars := by
  have digits : ∀ part : List Char, ∀ c ∈ part.takeWhile Char.isDigit, c ∈ decimalChars :=
    fun part =>
    decimalChars_of_digits (all_eq_true.mp all_takeWhile)
  unfold unsignedDecimal at read
  dsimp only at read
  split at read
  · cases read
  · obtain ⟨exponent, isExponent, _⟩ := Option.map_eq_some_iff.mp read
    have behind : ∀ c ∈ text.dropWhile Char.isDigit, c ∈ decimalChars := by
      generalize text.dropWhile Char.isDigit = part at isExponent
      unfold fractionPart at isExponent
      split at isExponent
      · rename_i rest
        refine forall_mem_cons.mpr ⟨by decide, ?_⟩
        rw [← takeWhile_append_dropWhile (p := Char.isDigit) (l := rest)]
        exact forall_mem_append.mpr ⟨digits rest, exponentPart_chars isExponent⟩
      · exact exponentPart_chars isExponent
    rw [← takeWhile_append_dropWhile (p := Char.isDigit) (l := text)]
    exact forall_mem_append.mpr ⟨digits text, behind⟩

theorem signedDecimal_chars (read : signedDecimal text = some value) : ∀ c ∈ text, c ∈ decimalChars := by
  unfold signedDecimal at read
  split at read
  · exact forall_mem_cons.mpr ⟨by decide, unsignedDecimal_chars read⟩
  · obtain ⟨magnitude, unsigned, _⟩ := Option.map_eq_some_iff.mp read
    exact forall_mem_cons.mpr ⟨by decide, unsignedDecimal_chars unsigned⟩
  · exact unsignedDecimal_chars read

theorem decimal_all (chars : ∀ c ∈ text, c ∈ decimalChars) (all : decimalChars.all p = true) : ∀ c ∈ text, p c = true :=
  fun c mem => all_eq_true.mp all c (chars c mem)

theorem trim_decimal (chars : ∀ c ∈ text, c ∈ decimalChars) : trim text = text := by
  have solid : ∀ c ∈ text, isSpace c = false := by
    intro c mem
    have all := decimal_all (p := fun c => !isSpace c) chars (by decide) c mem
    simpa using all
  exact trim_eq_self (fun c head => solid c (mem_of_mem_head? head)) fun c last => solid c (mem_of_getLast? last)

theorem parseAmount_decimal (read : signedDecimal text = some value) : parseAmount text = double value := by
  have chars := signedDecimal_chars read
  have quiet : ∀ c ∈ text, (!isAmountNoise c) = true := decimal_all chars (by decide)
  have trimmed : trim text = text := trim_decimal chars
  have some : text ≠ [] := by
    rintro rfl
    cases read
  have number : numberOf (String.ofList text) = Option.some value := by
    unfold numberOf
    rw [String.toList_ofList, trimmed]
    split
    · exact absurd rfl some
    · exact absurd (chars 'x' (by simp)) (by decide)
    · exact absurd (chars 'X' (by simp)) (by decide)
    · exact absurd (chars 'o' (by simp)) (by decide)
    · exact absurd (chars 'O' (by simp)) (by decide)
    · exact absurd (chars 'b' (by simp)) (by decide)
    · exact absurd (chars 'B' (by simp)) (by decide)
    · exact read
  unfold parseAmount
  rw [filter_eq_self.mpr quiet, trimmed]
  rw [if_neg some, number]
  rfl

/-! ## Dates -/

theorem dateParse_day {year month day : ℕ} {named : ℤ} (parts : isoParts text = some (year, month, day))
    (isDay : calendarDay year month day = some named) : dateParse engine text = some (named * msPerDay) := by
  unfold calendarDay at isDay
  dsimp only at isDay
  split at isDay
  · rename_i mem
    cases isDay
    have short := (monthLength_bounds (12 * (year - 1970) + (month - 1))).2
    rw [dateParse, parts]
    dsimp only
    rw [if_pos ⟨mem.1, mem.2.1, mem.2.2.1, by omega⟩]
    rfl
  · cases isDay

variable {y m d : List Char}

theorem isoParts_joined (digits : ∀ c ∈ y ++ (m ++ d), c.isDigit = true) (ofYear : y.length = 4)
    (ofMonth : m.length = 2) (ofDay : d.length = 2) :
    isoParts (y ++ '-' :: (m ++ '-' :: d)) = some (digitsValue y, digitsValue m, digitsValue d) := by
  obtain ⟨e, f, rfl⟩ := length_eq_two.mp ofMonth
  obtain ⟨g, h, rfl⟩ := length_eq_two.mp ofDay
  match y, ofYear with
  | [a, b, c, k], _ =>
    show (if _ then _ else _) = _
    rw [if_pos]
    exact all_eq_true.mpr digits

theorem isoParts_chars {parts : ℕ × ℕ × ℕ} (iso : isoParts text = some parts) : ∀ c ∈ text, c ∈ decimalChars := by
  unfold isoParts at iso
  split at iso
  · split at iso
    · rename_i digits
      intro c mem
      by_cases dash : c = '-'
      · rw [dash]
        decide
      · refine mem_decimalChars (all_eq_true.mp digits c ?_)
        simp only [mem_cons] at mem ⊢
        tauto
    · cases iso
  · cases iso

theorem isoParts_dmy (parts : dmyParts text = some (d, m, y)) :
    isoParts (y ++ '-' :: (padStart 2 m ++ '-' :: padStart 2 d)) = some (digitsValue y, digitsValue m, digitsValue d) := by
  have padded : ∀ digits : List Char, digits.length = 1 ∨ digits.length = 2 → (padStart 2 digits).length = 2 := by
    intro digits short
    rw [padStart, length_append, length_replicate]
    omega
  have value : ∀ digits : List Char, digitsValue (padStart 2 digits) = digitsValue digits := by
    intro digits
    rw [padStart, digitsValue_append, digitsValue_zeros, mul_zero, zero_add]
  have all : ∀ digits : List Char, (∀ c ∈ digits, c.isDigit = true) → ∀ c ∈ padStart 2 digits, c.isDigit = true :=
    fun digits own => forall_mem_append.mpr ⟨zeros_isDigit _, own⟩
  have taken : ∀ part : List Char, ∀ c ∈ part.takeWhile Char.isDigit, c.isDigit = true :=
    fun part => all_eq_true.mp all_takeWhile
  unfold dmyParts at parts
  dsimp only at parts
  split at parts
  · cases parts
  · split at parts
    · cases parts
    · split at parts
      · rename_i shape
        cases parts
        obtain ⟨_, _, shortDay, shortMonth, ofYear, digits⟩ := shape
        have joined := isoParts_joined (forall_mem_append.mpr ⟨all_eq_true.mp digits,
          forall_mem_append.mpr ⟨all _ (taken _), all _ (taken _)⟩⟩) ofYear (padded _ shortMonth) (padded _ shortDay)
        rwa [value, value] at joined
      · cases parts

theorem isHeader_decimal (chars : ∀ c ∈ text, c ∈ decimalChars) : isHeader text = false := by
  have letters : ∀ c ∈ text.map Char.toLower, c ≠ 'd' ∧ c ≠ 't' := by
    have all := decimal_all (p := fun c => c.toLower != 'd' && c.toLower != 't') chars (by decide)
    exact forall_mem_map.mpr fun c mem => by simpa using all c mem
  unfold isHeader includes
  rw [Bool.or_eq_false_iff, decide_eq_false_iff_not, decide_eq_false_iff_not]
  constructor
  · intro inside
    exact (letters 'd' (inside.subset (by simp))).1 rfl
  · intro inside
    exact (letters 't' (inside.subset (by simp))).2 rfl

theorem date_iff {date : Option Instant} (read : parseDate engine cell = some date) :
    (∃ instant ∈ date, writtenDay written cell = some (instant / msPerDay)) ↔ NamesDay engine written cell := by
  have dated : ∀ built parts, isoParts built = some parts → dateParse engine built = date →
      ((∃ instant ∈ date, calendarDay parts.1 parts.2.1 parts.2.2 = some (instant / msPerDay)) ↔
        (calendarDay parts.1 parts.2.1 parts.2.2).isSome) := by
    intro built parts iso same
    constructor
    · rintro ⟨instant, _, named⟩
      rw [named]
      rfl
    · intro isDay
      obtain ⟨day, named⟩ := Option.isSome_iff_exists.mp isDay
      refine ⟨day * msPerDay, same ▸ dateParse_day iso named, ?_⟩
      rw [named, Int.mul_ediv_cancel _ (by decide : msPerDay ≠ 0)]
  unfold parseDate at read
  unfold NamesDay writtenDay
  dsimp only at read ⊢
  rcases iso : isoParts (trim cell) with _ | parts
  · rw [iso] at read
    rcases dmy : dmyParts (trim cell) with _ | ⟨d, m, y⟩
    · rw [dmy] at read
      obtain ⟨instant, engineRead, rfl⟩ := Option.map_eq_some_iff.mp read
      rw [dateParse, iso] at engineRead
      simp [engineRead]
    · rw [dmy] at read
      exact dated _ _ (isoParts_dmy dmy) (Option.some.inj read)
  · rw [iso] at read
    exact dated _ _ iso (Option.some.inj read)

/-! ## Rows -/

theorem parseRow_rowText (row : StatementRow) (i : ℕ) : parseRow engine i (rowText row.cells) = some row.parsed := by
  obtain ⟨year, month, dayOfMonth, iso, isDay⟩ := row.isDate
  obtain ⟨number, decimal, rounded⟩ := row.isAmount
  have chars := isoParts_chars iso
  have line : parseCsvLine (rowText row.cells) = [row.date.toList, row.description.toList, row.amountText.toList] :=
    parseCsvLine_quoted row.date.toList [row.description.toList, row.amountText.toList]
  have someCells : row.cells ≠ [] := cons_ne_nil _ _
  have filled : rowText row.cells ≠ [] := by
    intro empty
    have head := head?_rowText someCells
    rw [empty] at head
    cases head
  have date : parseDate engine row.date.toList = some (some (row.day * msPerDay)) := by
    unfold parseDate
    rw [trim_decimal chars, if_pos (by rw [iso]; rfl), dateParse_day iso isDay]
  have described : row.description.toList ≠ [] := fun empty => row.described (String.toList_eq_nil_iff.mp empty)
  unfold parseRow
  rw [trim_rowText someCells]
  rw [if_neg filled, line]
  dsimp only
  rw [isHeader_decimal chars, if_neg (by simp), date, parseAmount_decimal decimal, rounded]
  dsimp only
  rw [row.trimmed, if_neg described, String.ofList_toList]
  rfl

theorem parse_build (rows : List StatementRow) :
    parseBankCsv engine (buildCsv (rows.map StatementRow.cells)) = rows.map StatementRow.parsed := by
  by_cases none : rows = []
  · rw [none]
    rfl
  · have whole : ∀ cells ∈ rows.map StatementRow.cells, ∀ cell ∈ cells, '\n' ∉ cell.toList := by
      have plain : '\n' ∉ decimalChars := by decide
      rw [forall_mem_map]
      intro row _ cell mem
      obtain ⟨_, _, _, iso, _⟩ := row.isDate
      obtain ⟨_, decimal, _⟩ := row.isAmount
      rcases mem_cons.mp mem with rfl | mem
      · exact fun inside => plain (isoParts_chars iso _ inside)
      · rcases mem_cons.mp mem with rfl | mem
        · exact row.oneLine
        · rw [mem_singleton.mp mem]
          exact fun inside => plain (signedDecimal_chars decimal _ inside)
    have filled : ∀ cells ∈ rows.map StatementRow.cells, cells ≠ [] :=
      forall_mem_map.mpr fun row _ => cons_ne_nil _ _
    unfold parseBankCsv
    rw [csvLines_buildCsv (by simpa using none) filled whole, map_map, zipIdx_map, filterMap_map]
    refine (filterMap_congr (g := fun entry : StatementRow × ℕ => some entry.1.parsed) fun entry _ => ?_).trans ?_
    · exact parseRow_rowText entry.1 entry.2
    · rw [filterMap_eq_map', ← Function.comp_def, ← map_map, zipIdx_map_fst]

example : ∃ row : StatementRow, row.cells = ["2024-02-29", "Fee, \"late\"", "-50.00"] ∧
    row.parsed = ⟨some 1709164800000, "Fee, \"late\"", -50⟩ := by
  refine ⟨⟨"2024-02-29", 19782, "Fee, \"late\"", "-50.00", -50, ⟨2024, 2, 29, ?_⟩, ?_, ?_, ?_, -50, ?_⟩, rfl, rfl⟩ <;>
    decide +kernel

theorem namesDay_of_unread (unread : parseDate engine cell = none) : NamesDay engine written cell := by
  unfold parseDate at unread
  unfold NamesDay
  dsimp only at unread ⊢
  rcases iso : isoParts (trim cell) with _ | parts
  · rw [iso] at unread
    rcases dmy : dmyParts (trim cell) with _ | ⟨d, m, y⟩
    · rw [dmy] at unread
      have silent := Option.map_eq_none_iff.mp unread
      rw [dateParse, iso] at silent
      simp [silent]
    · rw [dmy] at unread
      cases unread
  · rw [iso] at unread
    cases unread

section

variable {i : ℕ} {rawLine : List Char} {row : ParsedBankRow}

theorem mem_parseRow : row ∈ parseRow engine i rawLine ↔
    ∃ date description amount more, parseCsvLine (trim rawLine) = date :: description :: amount :: more ∧
      ¬ (i = 0 ∧ isHeader date) ∧ parseDate engine date = some row.date ∧ parseAmount amount = some row.amount ∧
        trim description ≠ [] ∧ row.description = String.ofList (trim description) := by
  unfold parseRow
  dsimp only
  constructor
  · intro read
    split at read
    · cases read
    · split at read
      · rename_i date description amount more cells
        split at read
        · cases read
        · rename_i header
          split at read
          · rename_i isDate isAmount
            split at read
            · cases read
            · rename_i described
              cases read
              exact ⟨date, description, amount, more, cells, header, isDate, isAmount, described, rfl⟩
          · cases read
      · cases read
  · rintro ⟨date, description, amount, more, cells, header, isDate, isAmount, described, same⟩
    have filled : trim rawLine ≠ [] := by
      intro empty
      rw [empty] at cells
      cases cells
    rw [if_neg filled, cells]
    dsimp only
    rw [if_neg header, isDate, isAmount]
    dsimp only
    rw [if_neg described, ← same]
    rfl

theorem row_iff : (∀ row ∈ parseRow engine i rawLine, Dated written rawLine row) ↔
    (IsEntry i rawLine → NamesDay engine written (dateCell rawLine)) := by
  constructor
  · rintro dated ⟨date, description, amount, more, cells, header, described, isAmount⟩
    obtain ⟨number, read⟩ := Option.isSome_iff_exists.mp isAmount
    have named : dateCell rawLine = date := by rw [dateCell, cells, headD_cons]
    rw [named]
    cases isDate : parseDate engine date with
    | none => exact namesDay_of_unread isDate
    | some found =>
      have row := dated ⟨found, String.ofList (trim description), number⟩
        (mem_parseRow.mpr ⟨date, description, amount, more, cells, header, isDate, read, described, rfl⟩)
      exact (date_iff isDate).mp (named ▸ row.date)
  · intro names row mem
    obtain ⟨date, description, amount, more, cells, header, isDate, read, described, _⟩ := mem_parseRow.mp mem
    have named : dateCell rawLine = date := by rw [dateCell, cells, headD_cons]
    have entry : IsEntry i rawLine := by
      refine ⟨date, description, amount, more, cells, header, described, ?_⟩
      rw [read]
      rfl
    refine ⟨(date_iff (named.symm ▸ isDate)).mpr (names entry), ?_⟩
    unfold parseAmount at read
    dsimp only at read
    split at read
    · cases read
    · obtain ⟨number, _, rounded⟩ := Option.bind_eq_some_iff.mp read
      exact ⟨number, rounded⟩

end

/-- What is written is read back, and of any text the rows have the dates of their cells just if the entries name days
that there are, the engine reading texts in other formats as the days they name. -/
theorem statement_rows (engine : List Char → Option Instant) (written : List Char → Option ℤ) :
    (∀ rows : List StatementRow,
      parseBankCsv engine (buildCsv (rows.map StatementRow.cells)) = rows.map StatementRow.parsed) ∧
    ∀ csv, (∀ line ∈ csvLines csv, ∀ row ∈ parseRow engine line.2 line.1, Dated written line.1 row) ↔
      ∀ line ∈ csvLines csv, IsEntry line.2 line.1 → NamesDay engine written (dateCell line.1) :=
  ⟨parse_build, fun _ => forall₂_congr fun _ _ => row_iff⟩

theorem statement_undated : ¬ ∀ line ∈ csvLines "2024-13-45,Fee,1.00",
    ∀ row ∈ parseRow (fun _ => none) line.2 line.1, Dated (fun _ => none) line.1 row := by
  intro dated
  have read : parseBankCsv (fun _ => none) "2024-13-45,Fee,1.00" = [⟨none, "Fee", 1⟩] := by
    decide +kernel
  have listed : ⟨none, "Fee", 1⟩ ∈ parseBankCsv (fun _ => none) "2024-13-45,Fee,1.00" := by
    rw [read]
    exact List.mem_singleton_self _
  obtain ⟨line, found, isRow⟩ := List.mem_filterMap.mp listed
  obtain ⟨_, none, _⟩ := (dated line found _ isRow).date
  cases none

end SmartResidence.Accounting
