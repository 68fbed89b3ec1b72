import Mathlib.Data.List.Nodup
import Mathlib.Data.List.Perm.Subperm
import Mathlib.Order.Basic
import Mathlib.Tactic.Linarith

/-!
# Trees grown from rows and the lists of their children
-/

namespace SmartResidence.Foundation

open List

inductive Rose (Row : Type)
  | node (row : Row) (children : List (Rose Row))

variable {Row : Type}

mutual

def Rose.rows : Rose Row → List Row
  | .node row children => row :: rowsOf children

def rowsOf : List (Rose Row) → List Row
  | [] => []
  | tree :: trees => tree.rows ++ rowsOf trees

end

def grow (childrenOf : Row → List Row) : ℕ → Row → Rose Row
  | 0, row => .node row []
  | depth + 1, row => .node row ((childrenOf row).map (grow childrenOf depth))

def generation (childrenOf : Row → List Row) (roots : List Row) : ℕ → List Row
  | 0 => roots
  | depth + 1 => (generation childrenOf roots depth).flatMap childrenOf

variable {childrenOf : Row → List Row} {rows roots : List Row} {row : Row}

theorem generation_children (childrenOf : Row → List Row) (roots : List Row) (depth : ℕ) :
    generation childrenOf (roots.flatMap childrenOf) depth = generation childrenOf roots (depth + 1) := by
  induction depth with
  | zero => rfl
  | succ depth ih =>
    show (generation childrenOf (roots.flatMap childrenOf) depth).flatMap childrenOf = _
    rw [ih]
    rfl

theorem rowsOf_append (trees more : List (Rose Row)) : rowsOf (trees ++ more) = rowsOf trees ++ rowsOf more := by
  induction trees with
  | nil => rfl
  | cons tree trees ih =>
    show tree.rows ++ rowsOf (trees ++ more) = tree.rows ++ rowsOf trees ++ rowsOf more
    rw [ih, append_assoc]

theorem rowsOf_grow_succ (depth : ℕ) (roots : List Row) : (rowsOf (roots.map (grow childrenOf (depth + 1)))).Perm
      (roots ++ rowsOf ((roots.flatMap childrenOf).map (grow childrenOf depth))) := by
  induction roots with
  | nil => exact .refl _
  | cons root roots ih =>
    rw [flatMap_cons, map_append, rowsOf_append]
    show (root :: rowsOf ((childrenOf root).map (grow childrenOf depth)) ++
      rowsOf (roots.map (grow childrenOf (depth + 1)))).Perm (root :: (roots ++ _))
    refine .cons root ((ih.append_left _).trans ?_)
    rw [← append_assoc, ← append_assoc]
    exact perm_append_comm.append_right _

theorem rowsOf_grow (depth : ℕ) (roots : List Row) : (rowsOf (roots.map (grow childrenOf depth))).Perm
    ((List.range (depth + 1)).flatMap (generation childrenOf roots)) := by
  induction depth generalizing roots with
  | zero =>
    have single : rowsOf (roots.map (grow childrenOf 0)) = roots := by
      induction roots with
      | nil => rfl
      | cons root roots ih =>
        show root :: rowsOf (roots.map (grow childrenOf 0)) = root :: roots
        rw [ih]
    rw [single]
    simp [generation]
  | succ depth ih =>
    refine (rowsOf_grow_succ depth roots).trans ?_
    rw [range_succ_eq_map, flatMap_cons, flatMap_map]
    refine List.Perm.append_left roots ((ih _).trans ?_)
    rw [funext fun below => generation_children childrenOf roots below]

structure Forest (childrenOf : Row → List Row) (rows roots : List Row) : Prop where
  roots_sublist : roots.Sublist rows
  distinct : rows.Nodup
  children_sublist : ∀ parent, (childrenOf parent).Sublist rows
  one_parent : ∀ parent ∈ rows, ∀ other ∈ rows, ∀ child ∈ childrenOf parent, child ∈ childrenOf other → parent = other
  topmost : ∀ root ∈ roots, ∀ parent ∈ rows, root ∉ childrenOf parent

namespace Forest

variable (forest : Forest childrenOf rows roots)
include forest

theorem generation_subset (depth : ℕ) : generation childrenOf roots depth ⊆ rows := by
  cases depth with
  | zero => exact forest.roots_sublist.subset
  | succ depth =>
    intro row mem
    obtain ⟨parent, _, below⟩ := mem_flatMap.mp mem
    exact (forest.children_sublist parent).subset below

theorem nodup_generation (depth : ℕ) : (generation childrenOf roots depth).Nodup := by
  induction depth with
  | zero => exact forest.distinct.sublist forest.roots_sublist
  | succ depth ih =>
    refine nodup_flatMap.mpr ⟨fun parent _ => forest.distinct.sublist (forest.children_sublist parent), ?_⟩
    refine ih.imp_of_mem fun first second ne child below also => ne ?_
    have known := forest.generation_subset depth
    exact forest.one_parent _ (known first) _ (known second) child below also

theorem depth_unique {first second : ℕ} (mem : row ∈ generation childrenOf roots first)
    (also : row ∈ generation childrenOf roots second) : first = second := by
  induction first generalizing second row with
  | zero =>
    cases second with
    | zero => rfl
    | succ second =>
      obtain ⟨parent, above, below⟩ := mem_flatMap.mp also
      exact absurd below (forest.topmost row mem parent (forest.generation_subset second above))
  | succ first ih =>
    obtain ⟨parent, above, below⟩ := mem_flatMap.mp mem
    have known := forest.generation_subset first above
    cases second with
    | zero => exact absurd below (forest.topmost row also parent known)
    | succ second =>
      obtain ⟨other, otherAbove, otherBelow⟩ := mem_flatMap.mp also
      have same := forest.one_parent parent known other (forest.generation_subset second otherAbove) row below otherBelow
      rw [ih above (same ▸ otherAbove)]

theorem nodup_generations (count : ℕ) : ((List.range count).flatMap (generation childrenOf roots)).Nodup := by
  refine nodup_flatMap.mpr ⟨fun depth _ => forest.nodup_generation depth, ?_⟩
  refine nodup_range.imp fun ne row mem also => ?_
  exact ne (forest.depth_unique mem also)

omit forest in
theorem le_length_generations {depth count : ℕ} (within : count ≤ depth + 1)
    (inside : row ∈ generation childrenOf roots depth) :
    count ≤ ((List.range count).flatMap (generation childrenOf roots)).length := by
  -- Above a row of a generation there is one of each earlier generation.
  have above : ∀ earlier ≤ depth, generation childrenOf roots earlier ≠ [] := by
    induction depth generalizing row count with
    | zero =>
      intro earlier before
      rw [Nat.le_zero.mp before]
      exact ne_nil_of_mem inside
    | succ depth ih =>
      intro earlier before
      rcases Nat.le_succ_iff.mp before with lower | rfl
      · obtain ⟨parent, mem, _⟩ := mem_flatMap.mp inside
        exact ih le_rfl mem earlier lower
      · exact ne_nil_of_mem inside
  induction count with
  | zero => exact Nat.zero_le _
  | succ count ih =>
    have longer := ih (Nat.le_of_succ_le within)
    have some := length_pos_iff.mpr (above count (Nat.le_of_succ_le_succ within))
    rw [range_succ, flatMap_append, length_append, flatMap_singleton]
    omega

theorem depth_lt {depth : ℕ} (inside : row ∈ generation childrenOf roots depth) : depth < rows.length := by
  have long := le_length_generations le_rfl inside
  have subset : (List.range (depth + 1)).flatMap (generation childrenOf roots) ⊆ rows := by
    intro other mem
    obtain ⟨earlier, _, listed⟩ := mem_flatMap.mp mem
    exact forest.generation_subset earlier listed
  have short := ((forest.nodup_generations (depth + 1)).subperm subset).length_le
  omega

theorem grow_enough {depth : ℕ} (enough : rows.length ≤ depth) :
    roots.map (grow childrenOf depth) = roots.map (grow childrenOf rows.length) := by
  have same : ∀ more above, ∀ row ∈ generation childrenOf roots above, rows.length ≤ more + above →
      grow childrenOf (more + 1) row = grow childrenOf more row := by
    intro more
    induction more with
    | zero =>
      intro above row mem deep
      have := forest.depth_lt mem
      omega
    | succ more ih =>
      intro above row mem deep
      show Rose.node row _ = Rose.node row _
      congr 1
      refine map_congr_left fun child below => ih (above + 1) child ?_ (by omega)
      exact mem_flatMap.mpr ⟨row, mem, below⟩
  induction depth, enough using Nat.le_induction with
  | base => rfl
  | succ depth enough ih =>
    rw [← ih]
    exact map_congr_left fun root top => same depth 0 root top (Nat.le_add_right_of_le enough)

theorem lists_once (rank : Row → ℕ) (ranked : ∀ parent ∈ rows, ∀ child ∈ childrenOf parent, rank parent < rank child)
    (placed : ∀ row ∈ rows, row ∈ roots ∨ ∃ parent ∈ rows, row ∈ childrenOf parent) :
    (rowsOf (roots.map (grow childrenOf rows.length))).Nodup ∧
      ∀ row, row ∈ rowsOf (roots.map (grow childrenOf rows.length)) ↔ row ∈ rows := by
  have listed : (rowsOf (roots.map (grow childrenOf rows.length))).Perm _ := rowsOf_grow rows.length roots
  refine ⟨listed.nodup_iff.mpr (forest.nodup_generations _), fun row => ?_⟩
  rw [listed.mem_iff, mem_flatMap]
  constructor
  · rintro ⟨depth, _, inside⟩
    exact forest.generation_subset depth inside
  · intro mem
    have reached : ∃ depth, row ∈ generation childrenOf roots depth := by
      induction bound : rank row using Nat.strong_induction_on generalizing row with
      | _ bound ih =>
        rcases placed row mem with top | ⟨parent, known, below⟩
        · exact ⟨0, top⟩
        · have lower := ranked parent known row below
          obtain ⟨depth, inside⟩ := ih (rank parent) (bound ▸ lower) parent known rfl
          exact ⟨depth + 1, mem_flatMap.mpr ⟨parent, inside, below⟩⟩
    obtain ⟨depth, inside⟩ := reached
    refine ⟨depth, mem_range.mpr ?_, inside⟩
    exact Nat.lt_succ_of_lt (forest.depth_lt inside)

end Forest

end SmartResidence.Foundation
