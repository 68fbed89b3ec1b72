import SmartResidence.Visitors.VisitorService
import Mathlib.Data.List.DropRight

/-!
# Normalized passes

A pass that is looked up as an id is the lower-case text of that id.
-/

namespace SmartResidence.Visitors

open Foundation Billing List

section

variable {text : List Char} {c : Char}

theorem toLower_of_not_upper (lower : ¬ (c.val ≥ 'A'.val ∧ c.val ≤ 'Z'.val)) : c.toLower = c := dif_neg lower

theorem toLower_of_upper (upper : c.val ≥ 'A'.val ∧ c.val ≤ 'Z'.val) :
    c.toLower.toNat = c.toNat + 32 ∧ 65 ≤ c.toNat ∧ c.toNat ≤ 90 := by
  have same : c.toLower.val = c.val + ('a'.val - 'A'.val) := by
    unfold Char.toLower
    rw [dif_pos upper]
  obtain ⟨low, high⟩ := upper
  show c.toLower.val.toNat = c.val.toNat + 32 ∧ 65 ≤ c.val.toNat ∧ c.val.toNat ≤ 90
  simp only [same, UInt32.le_iff_toNat_le, UInt32.toNat_add, UInt32.toNat_sub] at low high ⊢
  have first : ('A'.val).toNat = 65 := rfl
  have lowered : ('a'.val).toNat = 97 := rfl
  have last : ('Z'.val).toNat = 90 := rfl
  omega

theorem toLower_toLower : c.toLower.toLower = c.toLower := by
  by_cases upper : c.val ≥ 'A'.val ∧ c.val ≤ 'Z'.val
  · apply toLower_of_not_upper
    intro still
    have first := toLower_of_upper upper
    have second := toLower_of_upper still
    omega
  · rw [toLower_of_not_upper upper, toLower_of_not_upper upper]

theorem isSpace_codes (space : isSpace c = true) : ¬ (65 ≤ c.toNat ∧ c.toNat ≤ 122) := by
  have none : ∀ c ∈ ['\t', '\n', '\x0b', '\x0c', '\r', ' ', '\u00a0', '\u1680', '\u2000', '\u2001', '\u2002',
      '\u2003', '\u2004', '\u2005', '\u2006', '\u2007', '\u2008', '\u2009', '\u200a', '\u2028', '\u2029',
      '\u202f', '\u205f', '\u3000', '\ufeff'], ¬ (65 ≤ c.toNat ∧ c.toNat ≤ 122) := by
    simp only [forall_mem_cons]
    simp
  exact none c (of_decide_eq_true space)

theorem isSpace_toLower : isSpace c.toLower = isSpace c := by
  by_cases upper : c.val ≥ 'A'.val ∧ c.val ≤ 'Z'.val
  · have codes := toLower_of_upper upper
    have before : isSpace c = false := by
      refine Bool.eq_false_iff.mpr fun space => isSpace_codes space ?_
      omega
    have after : isSpace c.toLower = false := by
      refine Bool.eq_false_iff.mpr fun space => isSpace_codes space ?_
      omega
    rw [before, after]
  · rw [toLower_of_not_upper upper]

theorem trim_map_toLower : trim (text.map Char.toLower) = (trim text).map Char.toLower := by
  have blind : isSpace ∘ Char.toLower = isSpace := funext fun _ => isSpace_toLower
  unfold trim
  rw [dropWhile_map, ← map_reverse, dropWhile_map, blind, map_reverse]

theorem trim_trim : trim (trim text) = trim text := by
  have whole : ∀ rest : List Char, (rest = [] ∨ ∃ first more, rest = first :: more ∧ isSpace first = false) →
      (trim rest).dropWhile isSpace = trim rest := by
    rintro rest (rfl | ⟨first, more, rfl, solid⟩)
    · rfl
    · have last : trim (first :: more) = first :: (more.reverse.dropWhile isSpace).reverse := by
        unfold trim
        rw [dropWhile_cons_of_neg (by simp [solid]), reverse_cons, dropWhile_append]
        split
        · rename_i all
          rw [dropWhile_cons_of_neg (by simp [solid]), isEmpty_iff.mp all]
          rfl
        · simp
      rw [last, dropWhile_cons_of_neg (by simp [solid])]
  have solid : text.dropWhile isSpace = [] ∨
      ∃ first more, text.dropWhile isSpace = first :: more ∧ isSpace first = false := by
    cases rest : text.dropWhile isSpace with
    | nil => exact .inl rfl
    | cons first more =>
      have head := head_dropWhile_not isSpace (l := text) (by simp [rest])
      simpa [rest] using head
  have once : trim (text.dropWhile isSpace) = trim text := by
    unfold trim
    rw [dropWhile_idempotent]
  have kept : (trim text).dropWhile isSpace = trim text := once ▸ whole _ solid
  have again : trim (trim text) = (((trim text).dropWhile isSpace).reverse.dropWhile isSpace).reverse := rfl
  rw [again, kept]
  unfold trim
  rw [reverse_reverse, dropWhile_idempotent]

theorem isUuid_length (uuid : isUuid text = true) : 8 < text.length := by
  have parts : ['-'].intercalate (text.splitOn '-') = text := intercalate_splitOn '-'
  unfold isUuid at uuid
  split at uuid
  · rename_i first second version third kind fourth last split
    simp only [Bool.and_eq_true, decide_eq_true_eq] at uuid
    rw [← parts, split]
    simp [uuid.1.1]
  · cases uuid

theorem normalized_uuid {pass : String} (uuid : isVisitorId (normalizePassInput pass) = true) :
    .ofList ((trim (normalizePassInput pass).toList).map Char.toLower) = normalizePassInput pass := by
  unfold isVisitorId at uuid
  unfold normalizePassInput at uuid ⊢
  dsimp only at uuid ⊢
  split
  · simp only [String.toList_ofList, trim_map_toLower, trim_trim, map_map]
    exact congrArg String.ofList (map_congr_left fun c _ => toLower_toLower)
  · rename_i other
    rw [if_neg other] at uuid
    split at uuid
    · rename_i short
      have long := isUuid_length uuid
      rw [String.toList_ofList] at long
      have most : (trim ((trim pass.toList).map Char.toUpper)).length ≤ 8 := by
        have shorter : ∀ rest : List Char, (trim rest).length ≤ rest.length := by
          intro rest
          unfold trim
          rw [length_reverse]
          exact (length_dropWhile_le _ _).trans (by simpa using length_dropWhile_le isSpace rest)
        exact (shorter _).trans (by simpa using short.1)
      omega
    · rw [String.toList_ofList, trim_trim] at uuid
      exact absurd uuid other

end

end SmartResidence.Visitors
