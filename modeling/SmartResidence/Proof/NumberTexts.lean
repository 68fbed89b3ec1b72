import SmartResidence.Billing.Numbering

/-!
# Numbers are told apart by their texts
-/

namespace SmartResidence.Billing

open Foundation List

variable {Owner : Type} {n year : ℕ} {stem : String} {text : List Char}

theorem isDigit_toDigits : ∀ c ∈ Nat.toDigits 10 n, c.isDigit = true :=
  fun _ mem => Nat.isDigit_of_mem_toDigits (by decide) (by decide) mem

theorem dash_toDigits : '-' ∉ Nat.toDigits 10 n := by
  intro mem
  have digit := isDigit_toDigits _ mem
  revert digit
  decide

theorem intText_natCast : intText n = Nat.toDigits 10 n := by
  rw [intText, if_neg (by omega), Int.natAbs_natCast]

variable {width : ℕ}

theorem isDigit_padStart : ∀ c ∈ padStart width (Nat.toDigits 10 n), c.isDigit = true := by
  intro c mem
  rcases mem_append.mp mem with zero | digit
  · exact zeros_isDigit _ c zero
  · exact isDigit_toDigits c digit

theorem digitsValue_padStart : digitsValue (padStart width (Nat.toDigits 10 n)) = n := by
  rw [padStart, digitsValue_append, digitsValue_zeros, mul_zero, zero_add, digitsValue, Nat.ofDigitChars_ten_toDigits]

theorem isSpace_of_isDigit {c : Char} (digit : c.isDigit = true) : isSpace c = false := by
  rw [Bool.eq_false_iff]
  intro space
  simp only [isSpace, mem_cons, not_mem_nil, or_false, decide_eq_true_eq] at space
  rcases space with rfl | rfl | rfl | rfl | rfl | rfl | rfl | rfl | rfl | rfl | rfl | rfl | rfl | rfl | rfl |
    rfl | rfl | rfl | rfl | rfl | rfl | rfl | rfl | rfl | rfl <;> revert digit <;> decide

theorem dropWhile_isSpace (digits : ∀ c ∈ text, c.isDigit = true) : text.dropWhile isSpace = text := by
  cases text with
  | nil => rfl
  | cons c rest => rw [dropWhile_cons, if_neg (by simp [isSpace_of_isDigit (digits c (by simp))])]

theorem trim_digits (digits : ∀ c ∈ text, c.isDigit = true) : trim text = text := by
  have backwards : ∀ c ∈ text.reverse, c.isDigit = true := fun c mem => digits c (mem_reverse.mp mem)
  rw [trim, dropWhile_isSpace digits, dropWhile_isSpace backwards, reverse_reverse]

theorem numberOf_digits (digits : ∀ c ∈ text, c.isDigit = true) (some : text ≠ []) :
    numberOf (String.ofList text) = Option.some (digitsValue text : ℚ) := by
  have letter : ∀ c rest, text = '0' :: c :: rest → c.isDigit = true :=
    fun c rest same => digits c (by simp [same])
  have read := unsignedDecimal_whole endsDigits_nil digits some
  rw [append_nil, zpow_zero, mul_one] at read
  rw [numberOf, String.toList_ofList, trim_digits digits]
  split
  · exact absurd rfl some
  all_goals first
    | exact absurd (letter _ _ rfl) (by decide)
    | exact signedDecimal_of_unsigned read

theorem toList_numberText : (numberText stem year n).toList =
    numberStem stem year ++ padStart 6 (Nat.toDigits 10 n) := by
  rw [numberText, String.toList_ofList, intText_natCast]

theorem startsWith_numberText : numberStem stem year <+: (numberText stem year n).toList := by
  rw [toList_numberText]
  exact prefix_append _ _

theorem suffixOf_numberText (small : n < 2 ^ 53) :
    suffixOf (numberStem stem year) (numberText stem year n) = some (n : ℚ) := by
  have nonempty : padStart 6 (Nat.toDigits 10 n) ≠ [] := by
    simp [padStart]
  rw [suffixOf, toList_numberText, drop_left, numberOf_digits isDigit_padStart nonempty,
    digitsValue_padStart, Option.bind_some, double_natCast small]

variable {front : List Char}

theorem takeWhile_dash {rest : List Char} (none : '-' ∉ front) :
    (front ++ '-' :: rest).takeWhile (fun c => decide (c ≠ '-')) = front := by
  have other : ∀ c ∈ front, decide (c ≠ '-') = true :=
    fun c mem => decide_eq_true fun same => none (same ▸ mem)
  rw [takeWhile_append_of_pos other]
  simp

theorem split_last {first second back : List Char} (left : '-' ∉ front) (right : '-' ∉ back)
    (same : first ++ '-' :: front = second ++ '-' :: back) : first = second ∧ front = back := by
  have reversed := congrArg List.reverse same
  simp only [reverse_append, reverse_cons, append_assoc, singleton_append] at reversed
  have fronts := congrArg (List.takeWhile fun c => decide (c ≠ '-')) reversed
  rw [takeWhile_dash (by simpa using left), takeWhile_dash (by simpa using right)] at fronts
  have ends := reverse_injective fronts
  rw [ends] at same
  exact ⟨append_cancel_right same, ends⟩

theorem numberText_injective {otherStem : String} {otherYear other : ℕ}
    (same : numberText stem year n = numberText otherStem otherYear other) :
    stem = otherStem ∧ year = otherYear ∧ n = other := by
  have dash : ∀ m : ℕ, '-' ∉ padStart 6 (Nat.toDigits 10 m) := by
    intro m mem
    have digit := isDigit_padStart _ mem
    revert digit
    decide
  have texts := congrArg String.toList same
  simp only [toList_numberText, numberStem, append_assoc, cons_append, nil_append] at texts
  simp only [← cons_append, ← append_assoc] at texts
  obtain ⟨stems, digits⟩ := split_last (dash n) (dash other) texts
  obtain ⟨front, years⟩ := split_last dash_toDigits dash_toDigits stems
  refine ⟨String.toList_injective front, ?_, ?_⟩
  · have values := congrArg digitsValue years
    rwa [digitsValue, digitsValue, Nat.ofDigitChars_ten_toDigits, Nat.ofDigitChars_ten_toDigits] at values
  · have values := congrArg digitsValue digits
    rwa [digitsValue_padStart, digitsValue_padStart] at values

theorem le_foldl_max {values : List ℚ} {start value : ℚ} (below : value ≤ start ∨ value ∈ values) :
    value ≤ values.foldl max start := by
  induction values generalizing start with
  | nil => simpa using below
  | cons head values ih =>
    apply ih
    rcases below with old | mem
    · exact .inl (old.trans (le_max_left _ _))
    · rcases mem_cons.mp mem with rfl | later
      · exact .inl (le_max_right _ _)
      · exact .inr later

variable {rows : List (NumberedRow Owner)}

theorem maxExistingSuffix_nonneg {condoId : Id} {stem : List Char} : 0 ≤ maxExistingSuffix rows condoId stem := by
  exact le_foldl_max (.inl le_rfl)

theorem le_maxExistingSuffix {row : NumberedRow Owner} (mem : row ∈ rows) (number : row.number = numberText stem year n)
    (small : n < 2 ^ 53) : (n : ℚ) ≤ maxExistingSuffix rows row.condoId (numberStem stem year) := by
  refine le_foldl_max (.inr (mem_filterMap.mpr ⟨row, mem_filter.mpr ⟨mem, ?_⟩, ?_⟩))
  · rw [number]
    exact decide_eq_true ⟨rfl, startsWith_numberText⟩
  · rw [number]
    exact suffixOf_numberText small

end SmartResidence.Billing
