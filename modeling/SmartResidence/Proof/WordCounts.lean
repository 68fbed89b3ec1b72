import Mathlib.Algebra.BigOperators.Group.List.Lemmas
import Mathlib.Algebra.BigOperators.Ring.Finset
import Mathlib.Algebra.BigOperators.Ring.List
import Mathlib.Algebra.Order.Field.Basic
import Mathlib.Data.Finset.Card
import Mathlib.Logic.Function.Iterate
import Mathlib.Tactic.FieldSimp
import Mathlib.Tactic.Linarith
import SmartResidence.Threads.NaiveBayes

/-!
# What the models count

The trained model is a function of the words of each class. The vocabulary, however, is counted sample by sample, and the
weights are taken by the number of samples, not of words.
-/

namespace SmartResidence.Threads

open Foundation Billing List

section

variable {Key : Type*} [DecidableEq Key] {lists : List (List Key)}

theorem card_flatten_le : lists.flatten.toFinset.card ≤ (lists.map fun keys => keys.toFinset.card).sum := by
  induction lists with
  | nil => simp
  | cons keys lists ih =>
    rw [flatten_cons, toFinset_append]
    exact (Finset.card_union_le _ _).trans (Nat.add_le_add_left ih _)

theorem sum_card_eq_iff : (lists.map fun keys => keys.toFinset.card).sum = lists.flatten.toFinset.card ↔ lists.Pairwise List.Disjoint := by
  induction lists with
  | nil => simp
  | cons keys lists ih =>
    have both := Finset.card_union_add_card_inter keys.toFinset lists.flatten.toFinset
    have le : lists.flatten.toFinset.card ≤ (lists.map fun keys => keys.toFinset.card).sum := card_flatten_le
    have apart : (keys.toFinset ∩ lists.flatten.toFinset).card = 0 ↔ ∀ other ∈ lists, keys.Disjoint other := by
      rw [Finset.card_eq_zero, ← Finset.disjoint_iff_inter_eq_empty, disjoint_toFinset_iff_disjoint]
      constructor
      · exact fun apart other mem key own listed => apart own (mem_flatten_of_mem mem listed)
      · intro apart key own listed
        obtain ⟨other, mem, also⟩ := mem_flatten.mp listed
        exact apart other mem own also
    rw [flatten_cons, toFinset_append, map_cons, sum_cons, pairwise_cons, ← ih, ← apart]
    omega

end

section

variable {Label : Type} [DecidableEq Label]

def classSamples (samples : List (TrainingSample Label)) (label : Label) : List (TrainingSample Label) :=
  samples.filter fun sample => decide (sample.label = label)

def classTokens (samples : List (TrainingSample Label)) (label : Label) : List String :=
  (classSamples samples label).flatMap TrainingSample.tokens

def vocabulary (samples : List (TrainingSample Label)) (label : Label) : List String := (classTokens samples label).dedup

def IsToken (token : String) : Prop := 2 < token.toList.length ∧ ∀ c ∈ token.toList, isTokenChar c = true

structure CountsExactly (inherited : Inherited) (words : String → Prop) (samples : List (TrainingSample Label))
    (model : TrainedModel Label) : Prop where
  counts : ∀ label token, ((model.wordCounts label).lookup token).getD (.number 0) = .number ((classTokens samples label).count token)
  vocabulary : ∀ label, model.vocabularySize label = (vocabulary samples label).length
  weights : ∀ label, model.classCounts label ≠ 0 → ∀ token, words token → ∃ weight, model.weight inherited label token = some weight ∧ weight ≤ 1
  total : ∀ label, model.classCounts label ≠ 0 → ∃ weight : String → ℚ,
    (∀ token ∈ Threads.vocabulary samples label, model.weight inherited label token = some (weight token)) ∧
      ((Threads.vocabulary samples label).map weight).sum ≤ 1

def Reordered (samples others : List (TrainingSample Label)) : Prop :=
  ∃ middle, List.Forall₂ (fun one two : TrainingSample Label => one.label = two.label ∧ one.tokens.Perm two.tokens) samples middle ∧
    middle.Perm others

structure Alike (first second : TrainedModel Label) : Prop where
  classCounts : ∀ label, first.classCounts label = second.classCounts label
  wordCounts : ∀ label token, (first.wordCounts label).lookup token = (second.wordCounts label).lookup token
  vocabularySize : ∀ label, first.vocabularySize label = second.vocabularySize label
  totalSamples : first.totalSamples = second.totalSamples

def TrainsExactly (inherited : Inherited) (words : String → Prop) (trainer : List (TrainingSample Label) → Option (TrainedModel Label))
    (samples : List (TrainingSample Label)) : Prop :=
  ∀ model, trainer samples = some model → CountsExactly inherited words samples model ∧
    ∀ others again, Reordered samples others → trainer others = some again → Alike model again

def Sparse (samples : List (TrainingSample Label)) : Prop :=
  ∀ label, ((classSamples samples label).map TrainingSample.tokens).Pairwise List.Disjoint ∧
    (classTokens samples label).length ≤ (classSamples samples label).length

variable {inherited : Inherited} {samples : List (TrainingSample Label)} {model : TrainedModel Label} {label : Label} {token : String}

def bump (inherited : Inherited) (bag : WordBag) (token : String) : WordBag :=
  assign token (bag.read inherited token).increment bag

theorem tally_bag (tokens : List String) (tally : Tally) :
    (tokens.foldl (Tally.add inherited) tally).bag = tokens.foldl (bump inherited) tally.bag := by
  induction tokens generalizing tally with
  | nil => rfl
  | cons token tokens ih => exact ih (tally.add inherited token)

theorem tally_vocabularySize (tokens : List String) (tally : Tally) :
    (tokens.foldl (Tally.add inherited) tally).vocabularySize =
      tally.vocabularySize + (tokens.toFinset \ tally.seen.toFinset).card := by
  induction tokens generalizing tally with
  | nil => simp
  | cons token tokens ih =>
    rw [foldl_cons, ih, toFinset_cons]
    by_cases seen : token ∈ tally.seen
    · have known : token ∈ tally.seen.toFinset := mem_toFinset.mpr seen
      simp [Tally.add, seen, Finset.insert_sdiff_of_mem _ known]
    · have fresh : token ∉ tally.seen.toFinset := fun mem => seen (mem_toFinset.mp mem)
      have own : insert token tokens.toFinset \ tally.seen.toFinset =
          insert token (tokens.toFinset \ insert token tally.seen.toFinset) := by
        ext other
        grind
      have new : token ∉ tokens.toFinset \ insert token tally.seen.toFinset := by simp
      rw [own]
      simp [Tally.add, seen]
      ring

theorem classSamples_cons (sample : TrainingSample Label) : classSamples (sample :: samples) label =
    if sample.label = label then sample :: classSamples samples label else classSamples samples label := by
  unfold classSamples
  by_cases own : sample.label = label
  · simp [own]
  · simp [own]

theorem learn_foldl : (samples.foldl (TrainedModel.learn inherited) model).classCounts label =
      model.classCounts label + (classSamples samples label).length ∧
    (samples.foldl (TrainedModel.learn inherited) model).wordCounts label =
      (classTokens samples label).foldl (bump inherited) (model.wordCounts label) ∧
    (samples.foldl (TrainedModel.learn inherited) model).vocabularySize label =
      model.vocabularySize label + ((classSamples samples label).map fun sample => sample.tokens.toFinset.card).sum ∧
    (samples.foldl (TrainedModel.learn inherited) model).totalSamples = model.totalSamples := by
  induction samples generalizing model with
  | nil => simp [classTokens, classSamples]
  | cons sample samples ih =>
    obtain ⟨classes, words, sizes, total⟩ := @ih (model.learn inherited sample)
    rw [foldl_cons, classes, words, sizes, total]
    unfold classTokens
    rw [classSamples_cons]
    by_cases own : sample.label = label
    · subst own
      rw [if_pos rfl, flatMap_cons, foldl_append, length_cons, map_cons, sum_cons]
      simp only [TrainedModel.learn, Function.update_self, tally_bag, tally_vocabularySize, toFinset_nil, Finset.sdiff_empty]
      refine ⟨?_, trivial, ?_, trivial⟩
      · ring
      · ring
    · have other : label ≠ sample.label := Ne.symm own
      simp [TrainedModel.learn, other, own]

/-! ## What a model holds -/

def counted (inherited : Inherited) (token : String) (occurrences : Nat) : WordCount :=
  WordCount.increment^[occurrences] (unassigned inherited token)

theorem read_bag (tokens : List String) : WordBag.read inherited (tokens.foldl (bump inherited) []) token =
    counted inherited token (tokens.count token) := by
  have gathers : WordBag.read inherited (tokens.foldl (bump inherited) []) token =
      (tokens.filter fun other => decide (other = token)).foldl (fun count _ => WordCount.increment count) (unassigned inherited token) :=
    lookup_gathered id (unassigned inherited) (fun count _ => WordCount.increment count) tokens
  rw [foldl_const, ← countP_eq_length_filter] at gathers
  exact gathers

theorem lookup_bag (tokens : List String) : (tokens.foldl (bump inherited) []).lookup token =
    if token ∈ tokens then some (counted inherited token (tokens.count token)) else none := by
  have keys : token ∈ (tokens.foldl (bump inherited) []).map Prod.fst ↔ token ∈ tokens.map id :=
    mem_keys_gathered id (unassigned inherited) (fun count _ => WordCount.increment count) tokens
  rw [map_id] at keys
  have reads : WordBag.read inherited (tokens.foldl (bump inherited) []) token = counted inherited token (tokens.count token) :=
    read_bag tokens
  unfold WordBag.read at reads
  cases found : (tokens.foldl (bump inherited) []).lookup token with
  | none =>
    have missing : token ∉ tokens := fun mem => by
      obtain ⟨entry, listed, own⟩ := mem_map.mp (keys.mpr mem)
      have other := lookup_eq_none_iff.mp found entry listed
      simp [own] at other
    rw [if_neg missing]
  | some value =>
    have mem : token ∈ tokens := keys.mp (mem_map_of_mem (mem_of_lookup found))
    rw [found, Option.getD_some] at reads
    rw [if_pos mem, reads]

theorem counted_number (own : inherited token = none) (occurrences : Nat) :
    counted inherited token occurrences = .number occurrences := by
  unfold counted
  induction occurrences with
  | zero => simp [unassigned, own]
  | succ occurrences ih => rw [Function.iterate_succ_apply', ih, WordCount.increment]

variable {value : String}

theorem counted_text (shown : inherited token = some value) (occurrences : Nat) :
    ∃ text, counted inherited token occurrences = .text text := by
  unfold counted
  induction occurrences with
  | zero => exact ⟨value, by simp [unassigned, shown]⟩
  | succ occurrences ih =>
    obtain ⟨text, same⟩ := ih
    exact ⟨text ++ "1", by rw [Function.iterate_succ_apply', same, WordCount.increment]⟩

structure Learned (inherited : Inherited) (samples : List (TrainingSample Label)) (model : TrainedModel Label) : Prop where
  classCounts : ∀ label, model.classCounts label = (classSamples samples label).length
  wordCounts : ∀ label, model.wordCounts label = (classTokens samples label).foldl (bump inherited) []
  vocabularySize : ∀ label, model.vocabularySize label =
    ((classSamples samples label).map fun sample => sample.tokens.toFinset.card).sum
  totalSamples : model.totalSamples = samples.length

theorem learned_of_train (trained : train inherited samples = some model) : samples ≠ [] ∧ Learned inherited samples model := by
  unfold train at trained
  split at trained
  · cases trained
  · rename_i nonempty
    cases trained
    refine ⟨nonempty, fun label => ?_, fun label => ?_, fun label => ?_, ?_⟩
    · exact learn_foldl.1.trans (Nat.zero_add _)
    · exact learn_foldl.2.1
    · exact learn_foldl.2.2.1.trans (Nat.zero_add _)
    · cases samples with
      | nil => rfl
      | cons sample samples => exact (@learn_foldl _ _ _ _ _ sample.label).2.2.2

section

variable (learned : Learned inherited samples model)
include learned

theorem weight_number (own : inherited token = none) : model.weight inherited label token =
      some (((classTokens samples label).count token + 1 : ℚ) / (model.classCounts label + max 1 (model.vocabularySize label) : ℚ)) := by
  unfold TrainedModel.weight
  rw [learned.wordCounts, read_bag, counted_number own]

theorem weight_text (shown : inherited token = some value) : model.weight inherited label token = none := by
  obtain ⟨text, same⟩ := counted_text shown ((classTokens samples label).count token)
  unfold TrainedModel.weight
  rw [learned.wordCounts, read_bag, same]

theorem counts_iff :
    (∀ label token, ((model.wordCounts label).lookup token).getD (.number 0) = .number ((classTokens samples label).count token)) ↔
      ∀ label, ∀ token ∈ classTokens samples label, inherited token = none := by
  constructor
  · intro counts label token mem
    have stored := counts label token
    rw [learned.wordCounts, lookup_bag, if_pos mem] at stored
    by_contra shown
    obtain ⟨value, shown⟩ := Option.ne_none_iff_exists'.mp shown
    obtain ⟨text, same⟩ := counted_text shown ((classTokens samples label).count token)
    rw [same] at stored
    cases stored
  · intro own label token
    rw [learned.wordCounts, lookup_bag]
    split
    · rename_i mem
      rw [Option.getD_some, counted_number (own label token mem)]
    · rename_i missing
      rw [Option.getD_none, count_eq_zero_of_not_mem missing]

theorem vocabulary_iff : model.vocabularySize label = (vocabulary samples label).length ↔
      ((classSamples samples label).map TrainingSample.tokens).Pairwise List.Disjoint := by
  have same : (vocabulary samples label).length = ((classSamples samples label).map TrainingSample.tokens).flatten.toFinset.card := by
    rfl
  rw [learned.vocabularySize, ← sum_card_eq_iff, map_map]
  rfl

end

theorem sum_weights (tokens : List String) (denominator : ℚ) :
    (tokens.dedup.map fun token => (tokens.count token + 1 : ℚ) / denominator).sum = (tokens.length + tokens.dedup.length : ℚ) / denominator := by
  have occurrences : (tokens.dedup.map fun token => (tokens.count token : ℚ)).sum = tokens.length := by
    rw [← sum_map_count_dedup_eq_length tokens, Nat.cast_list_sum, map_map]
    rfl
  have ones : (tokens.dedup.map fun _ => (1 : ℚ)).sum = tokens.dedup.length := by simp
  simp only [div_eq_mul_inv]
  rw [sum_map_mul_right, sum_map_add, occurrences, ones]

theorem alike_of_perm {others : List (TrainingSample Label)} {again : TrainedModel Label} (learned : Learned inherited samples model)
    (relearned : Learned inherited others again) (reordered : Reordered samples others) : Alike model again := by
  obtain ⟨middle, matched, perm⟩ := reordered
  have classes (label : Label) : (classSamples samples label).length = (classSamples middle label).length ∧
      (classTokens samples label).Perm (classTokens middle label) ∧
      ((classSamples samples label).map fun sample => sample.tokens.toFinset.card).sum =
        ((classSamples middle label).map fun sample => sample.tokens.toFinset.card).sum := by
    clear perm learned
    induction matched with
    | nil => exact ⟨rfl, List.Perm.refl _, rfl⟩
    | @cons one two rest others same _ ih =>
      obtain ⟨sizes, tokens, sums⟩ := ih
      unfold classTokens at tokens ⊢
      rw [classSamples_cons, classSamples_cons, same.1]
      split
      · refine ⟨congrArg Nat.succ sizes, ?_, ?_⟩
        · exact same.2.append tokens
        · rw [map_cons, map_cons, sum_cons, sum_cons, sums, toFinset_eq_of_perm _ _ same.2]
      · exact ⟨sizes, tokens, sums⟩
  have again' (label : Label) : (classSamples middle label).Perm (classSamples others label) := perm.filter _
  constructor
  · intro label
    rw [learned.classCounts, relearned.classCounts, (classes label).1, (again' label).length_eq]
  · intro label token
    have tokens : (classTokens samples label).Perm (classTokens others label) :=
      (classes label).2.1.trans ((again' label).flatMap_right _)
    rw [learned.wordCounts, relearned.wordCounts, lookup_bag, lookup_bag, tokens.count_eq]
    simp only [tokens.mem_iff]
  · intro label
    rw [learned.vocabularySize, relearned.vocabularySize, (classes label).2.2]
    exact ((again' label).map _).sum_eq
  · rw [learned.totalSamples, relearned.totalSamples, matched.length_eq, perm.length_eq]

/-! ## When a model is exact -/

def denominator (model : TrainedModel Label) (label : Label) : ℚ := model.classCounts label + max 1 (model.vocabularySize label)

omit [DecidableEq Label] in
theorem denominator_pos : 0 < denominator model label := by
  unfold denominator
  positivity

theorem total_iff (learned : Learned inherited samples model) (size : model.vocabularySize label = (vocabulary samples label).length)
    (own : ∀ token ∈ classTokens samples label, inherited token = none) :
    (∃ weight : String → ℚ, (∀ token ∈ vocabulary samples label, model.weight inherited label token = some (weight token)) ∧
      ((vocabulary samples label).map weight).sum ≤ 1) ↔ (classTokens samples label).length ≤ (classSamples samples label).length := by
  have weights : ∀ token ∈ vocabulary samples label, model.weight inherited label token =
      some (((classTokens samples label).count token + 1 : ℚ) / denominator model label) := fun token mem =>
    weight_number learned (own token (mem_dedup.mp mem))
  have sum := sum_weights (classTokens samples label) (denominator model label)
  have bound : ((classTokens samples label).length + (vocabulary samples label).length : ℚ) / denominator model label ≤ 1 ↔
      (classTokens samples label).length ≤ (classSamples samples label).length := by
    rw [div_le_one denominator_pos]
    unfold denominator
    rw [learned.classCounts]
    norm_cast
    cases empty : (vocabulary samples label).length with
    | zero =>
      have none : classTokens samples label = [] := (dedup_eq_nil _).mp (length_eq_zero_iff.mp empty)
      simp [none]
    | succ size => omega
  rw [← bound]
  constructor
  · rintro ⟨weight, given, le⟩
    have same : (vocabulary samples label).map weight = (vocabulary samples label).map fun token =>
        ((classTokens samples label).count token + 1 : ℚ) / denominator model label :=
      map_congr_left fun token mem => Option.some.inj ((given token mem).symm.trans (weights token mem))
    rw [same] at le
    exact sum.symm.le.trans le
  · exact fun le => ⟨_, weights, sum.le.trans le⟩

theorem weight_le_one (fewer : (classTokens samples label).length ≤ (classSamples samples label).length)
    (learned : Learned inherited samples model) :
    ((classTokens samples label).count token + 1 : ℚ) / denominator model label ≤ 1 := by
  rw [div_le_one denominator_pos]
  unfold denominator
  rw [learned.classCounts]
  have occurrences : (classTokens samples label).count token ≤ (classSamples samples label).length := count_le_length.trans fewer
  norm_cast
  omega

variable {words : String → Prop}

theorem trainsExactly_iff (plain : ∀ token, words token → inherited token = none) :
    TrainsExactly inherited words (train inherited) samples ↔
      Sparse samples ∧ ∀ label, ∀ token ∈ classTokens samples label, inherited token = none := by
  cases trained : train inherited samples with
  | none =>
    have empty : samples = [] := by
      unfold train at trained
      split at trained
      · assumption
      · cases trained
    subst empty
    exact ⟨fun _ => ⟨fun _ => ⟨List.Pairwise.nil, le_refl _⟩, fun _ _ mem => nomatch mem⟩, fun _ _ none => nomatch none⟩
  | some model =>
    obtain ⟨-, learned⟩ := learned_of_train trained
    constructor
    · intro exact'
      obtain ⟨counts, sizes, -, total⟩ := (exact' model trained).1
      have own := (counts_iff learned).mp counts
      refine ⟨fun label => ⟨(vocabulary_iff learned).mp (sizes label), ?_⟩, own⟩
      by_cases sampled : model.classCounts label = 0
      · rw [learned.classCounts] at sampled
        unfold classTokens
        rw [length_eq_zero_iff.mp sampled]
        exact le_refl _
      · exact (total_iff learned (sizes label) (own label)).mp (total label sampled)
    · rintro ⟨sparse, own⟩ model' again
      obtain rfl : model = model' := Option.some.inj (trained.symm.trans again)
      have sizes (label : Label) := (vocabulary_iff learned).mpr (sparse label).1
      refine ⟨⟨(counts_iff learned).mpr own, sizes, ?_, ?_⟩, fun others model' reordered retrained => ?_⟩
      · exact fun label _ token word => ⟨_, weight_number learned (plain token word), weight_le_one (sparse label).2 learned⟩
      · exact fun label _ => (total_iff learned (sizes label) (own label)).mpr (sparse label).2
      · exact alike_of_perm learned (learned_of_train retrained).2 reordered

theorem not_trainsExactly (word : words token) (shown : inherited token = some value) :
    TrainsExactly inherited words (train inherited) samples ↔ samples = [] := by
  constructor
  · intro exact'
    by_contra nonempty
    have trained : ∃ model, train inherited samples = some model := ⟨_, if_neg nonempty⟩
    obtain ⟨model, trained⟩ := trained
    obtain ⟨-, learned⟩ := learned_of_train trained
    obtain ⟨sample, mem⟩ := exists_mem_of_ne_nil samples nonempty
    have sampled : model.classCounts sample.label ≠ 0 := by
      rw [learned.classCounts]
      exact (length_pos_of_mem (mem_filter.mpr ⟨mem, decide_eq_true rfl⟩)).ne'
    obtain ⟨weight, given, -⟩ := (exact' model trained).1.weights sample.label sampled token word
    rw [weight_text learned shown] at given
    cases given
  · rintro rfl model none
    cases none

end

/-! ## The tokens of texts -/

theorem mem_splitOnP {p : Char → Bool} {text piece : List Char} {c : Char} (mem : piece ∈ text.splitOnP p) (inside : c ∈ piece) :
    c ∈ text ∧ p c = false := by
  induction text generalizing piece with
  | nil =>
    rw [splitOnP_nil, mem_singleton] at mem
    rw [mem] at inside
    cases inside
  | cons first text ih =>
    have rest {other : List Char} (listed : other ∈ text.splitOnP p) (own : c ∈ other) : c ∈ first :: text ∧ p c = false :=
      (ih listed own).imp_left (mem_cons_of_mem _)
    rw [splitOnP_cons_eq_if_modifyHead] at mem
    split at mem
    · rcases mem_cons.mp mem with rfl | listed
      · cases inside
      · exact rest listed inside
    · rename_i kept
      obtain ⟨head, tail, pieces⟩ := exists_cons_of_ne_nil (splitOnP_ne_nil p text)
      rw [pieces] at mem
      rcases mem_cons.mp mem with rfl | listed
      · rcases mem_cons.mp inside with rfl | own
        · exact ⟨mem_cons_self, Bool.eq_false_iff.mpr kept⟩
        · exact rest (pieces ▸ mem_cons_self) own
      · exact rest (pieces ▸ mem_cons_of_mem _ listed) inside

variable {toLowerCase : String → String}

theorem isToken_of_mem {text token : String} (mem : token ∈ tokenize toLowerCase text) : IsToken token := by
  obtain ⟨piece, kept, rfl⟩ := mem_map.mp mem
  obtain ⟨listed, long⟩ := mem_filter.mp kept
  unfold IsToken
  rw [String.toList_ofList]
  refine ⟨of_decide_eq_true long, fun c inside => ?_⟩
  obtain ⟨found, solid⟩ := mem_splitOnP listed inside
  obtain ⟨old, -, rfl⟩ := mem_map.mp found
  split at solid
  · rename_i either
    rw [if_pos either]
    rcases (Bool.or_eq_true _ _).mp either with own | space
    · exact own
    · exact absurd (space.symm.trans solid) (by decide)
  · exact absurd solid (by decide)

theorem ofObject_eq_none {token : String} (word : IsToken token) (other : token ≠ "constructor") : ofObject token = none := by
  have foreign : objectMethods.all (fun name => decide (name = "constructor") || name.toList.any fun c => !isTokenChar c) = true := by
    decide +kernel
  unfold ofObject
  split
  · rename_i mem
    rcases (Bool.or_eq_true _ _).mp (all_eq_true.mp foreign token mem) with same | strange
    · exact absurd (of_decide_eq_true same) other
    · obtain ⟨c, inside, not⟩ := any_eq_true.mp strange
      rw [word.2 c inside] at not
      cases not
  · rfl

theorem isToken_constructor : IsToken "constructor" := by
  constructor
  · decide +kernel
  · exact all_eq_true.mp (by decide +kernel)

theorem constructor_inherited : ∃ value, ofObject "constructor" = some value := ⟨_, rfl⟩

def categoryCounts (trainedAt : String) (samples : List (TrainingSample ThreadCategory)) : Option (TrainedModel ThreadCategory) :=
  (trainAssignmentCategoryModel samples trainedAt).map AssignmentCategoryModel.toTrainedModel

theorem categoryCounts_eq (trainedAt : String) : categoryCounts trainedAt = train ofObject := by
  funext samples
  unfold categoryCounts trainAssignmentCategoryModel
  rw [Option.map_map]
  exact Option.map_id'

theorem mem_classTokens {Label : Type} [DecidableEq Label] {texts : List (Label × String)} {token : String} :
    (∃ label, token ∈ classTokens (samplesOf toLowerCase texts) label) ↔ ∃ text ∈ texts, token ∈ tokenize toLowerCase text.2 := by
  simp only [classTokens, classSamples, samplesOf, mem_flatMap, mem_filter, mem_map, decide_eq_true_eq]
  constructor
  · rintro ⟨label, sample, ⟨⟨text, listed, rfl⟩, -⟩, mem⟩
    exact ⟨text, listed, mem⟩
  · rintro ⟨text, listed, mem⟩
    exact ⟨text.1, _, ⟨⟨text, listed, rfl⟩, rfl⟩, mem⟩

/--
The priority model is exact just for samples without repeated words. The category model never is, since every class shows
the inherited constructor; but for that word, it is exact in the same cases.
-/
theorem words_counted (toLowerCase : String → String) (trainedAt : String) (titles : List (ThreadPriority × String))
    (texts : List (ThreadCategory × String)) :
    (TrainsExactly ofMap IsToken trainNaiveBayes (samplesOf toLowerCase titles) ↔ Sparse (samplesOf toLowerCase titles)) ∧
    (TrainsExactly ofObject IsToken (categoryCounts trainedAt) (samplesOf toLowerCase texts) ↔ texts = []) ∧
    (TrainsExactly ofObject (fun token => IsToken token ∧ token ≠ "constructor") (categoryCounts trainedAt) (samplesOf toLowerCase texts) ↔
      Sparse (samplesOf toLowerCase texts) ∧ ∀ text ∈ texts, "constructor" ∉ tokenize toLowerCase text.2) := by
  rw [categoryCounts_eq]
  refine ⟨?_, ?_, ?_⟩
  · have plain : ∀ token, IsToken token → ofMap token = none := fun _ _ => rfl
    exact (trainsExactly_iff plain).trans (and_iff_left fun _ _ _ => rfl)
  · obtain ⟨value, shown⟩ := constructor_inherited
    exact (not_trainsExactly isToken_constructor shown).trans List.map_eq_nil_iff
  · rw [trainsExactly_iff fun token word => ofObject_eq_none word.1 word.2]
    refine and_congr_right fun _ => ⟨fun own text listed member => ?_, fun none label token member => ?_⟩
    · obtain ⟨label, inside⟩ := mem_classTokens.mpr ⟨text, listed, member⟩
      obtain ⟨value, shown⟩ := constructor_inherited
      exact absurd ((own label _ inside).symm.trans shown) (nomatch ·)
    · obtain ⟨text, listed, inside⟩ := mem_classTokens.mp ⟨label, member⟩
      refine ofObject_eq_none (isToken_of_mem inside) ?_
      rintro rfl
      exact none text listed inside

namespace Sample

def leaks : List (ThreadPriority × String) := [(.high, "water leak"), (.high, "water pump")]

def builders : List (ThreadCategory × String) := [(.security, "constructor")]

end Sample

theorem words_miscounted : ¬ TrainsExactly ofMap IsToken trainNaiveBayes (samplesOf id Sample.leaks) ∧
    ¬ TrainsExactly ofObject IsToken (categoryCounts "") (samplesOf id Sample.builders) := by
  constructor
  · intro exact'
    have size := (exact' _ rfl).1.vocabulary .high
    revert size
    decide +kernel
  · intro exact'
    have count := (exact' _ rfl).1.counts .security "constructor"
    revert count
    decide +kernel

end SmartResidence.Threads
