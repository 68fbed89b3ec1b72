import Mathlib.Data.List.Perm.Basic

/-!
# Rule lists in which the last rule that applies decides

A list is made of blocks. It is the union of its blocks when no two of them disagree.
-/

namespace SmartResidence.Foundation

open List

variable {Rule Query : Type*} (applies : Rule → Query → Bool) (permits : Rule → Bool)

def verdict (rules : List Rule) (query : Query) : Option Bool :=
  (rules.reverse.find? fun rule => applies rule query).map permits

theorem verdict_append (first last : List Rule) (query : Query) : verdict applies permits (first ++ last) query =
      (verdict applies permits last query).or (verdict applies permits first query) := by
  unfold verdict
  rw [reverse_append, List.find?_append]
  cases last.reverse.find? fun rule => applies rule query <;> rfl

variable {permitted : Bool}

theorem rule_of_verdict {rules : List Rule} {query : Query}
    (decided : verdict applies permits rules query = some permitted) :
    ∃ rule ∈ rules, applies rule query = true ∧ permits rule = permitted := by
  obtain ⟨rule, found, rfl⟩ := Option.map_eq_some_iff.mp decided
  exact ⟨rule, mem_reverse.mp (mem_of_find?_eq_some found), by simpa using List.find?_some found, rfl⟩

def Agree (blocks : List (List Rule)) : Prop :=
  ∀ one ∈ blocks, ∀ other ∈ blocks, ∀ query, verdict applies permits one query = some true →
    verdict applies permits other query ≠ some false

variable {applies permits} {blocks others : List (List Rule)} {query : Query}

theorem block_of_verdict (decided : verdict applies permits blocks.flatten query = some permitted) :
    ∃ block ∈ blocks, verdict applies permits block query = some permitted := by
  induction blocks with
  | nil => cases decided
  | cons block blocks ih =>
    rw [flatten_cons, verdict_append, Option.or_eq_some_iff] at decided
    rcases decided with later | ⟨-, own⟩
    · obtain ⟨found, mem, same⟩ := ih later
      exact ⟨found, mem_cons_of_mem _ mem, same⟩
    · exact ⟨block, mem_cons_self, own⟩

variable {block : List Rule}

theorem verdict_isSome (mem : block ∈ blocks) (decided : (verdict applies permits block query).isSome) :
    (verdict applies permits blocks.flatten query).isSome := by
  induction blocks with
  | nil => nomatch mem
  | cons head blocks ih =>
    rw [flatten_cons, verdict_append, Option.isSome_or]
    rcases mem_cons.mp mem with rfl | later
    · rw [decided, Bool.or_true]
    · rw [ih later, Bool.true_or]

theorem Agree.permitted_iff (agree : Agree applies permits blocks) :
    verdict applies permits blocks.flatten query = some true ↔
      ∃ block ∈ blocks, verdict applies permits block query = some true := by
  refine ⟨block_of_verdict, fun ⟨block, mem, permitted⟩ => ?_⟩
  have decided : (verdict applies permits blocks.flatten query).isSome := by
    apply verdict_isSome mem
    rw [permitted]
    rfl
  obtain ⟨outcome, found⟩ := Option.isSome_iff_exists.mp decided
  cases outcome with
  | true => exact found
  | false =>
    obtain ⟨other, also, forbidden⟩ := block_of_verdict found
    exact absurd forbidden (agree block mem other also query permitted)

theorem Agree.subset (agree : Agree applies permits blocks) (sub : others ⊆ blocks) : Agree applies permits others :=
  fun one mem other also => agree one (sub mem) other (sub also)

theorem verdict_concat (decided : verdict applies permits block query = some permitted) :
    verdict applies permits (blocks ++ [block]).flatten query = some permitted := by
  rw [flatten_append, verdict_append]
  simp [decided]

end SmartResidence.Foundation
