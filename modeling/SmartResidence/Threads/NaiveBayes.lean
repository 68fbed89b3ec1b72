import Mathlib.Data.Rat.Defs
import Mathlib.Algebra.Order.Field.Rat
import SmartResidence.Threads.Schema

/-!
# `naive-bayes-text.ts` and `assignment-category-model.ts`

Both models are trained by the same loop. One keeps the words of a class in a `Map`, the other in an object, which also
shows the properties that it inherits. The scores, which are sums of logarithms, are left out.
-/

namespace SmartResidence.Threads

open Foundation Billing

def isTokenChar (c : Char) : Bool := decide ('a' ≤ c ∧ c ≤ 'z') || decide ('0' ≤ c ∧ c ≤ '9')

def tokenize (toLowerCase : String → String) (text : String) : List String :=
  let spaced := (toLowerCase text).toList.map fun c => if isTokenChar c || isSpace c then c else ' '
  ((spaced.splitOnP isSpace).filter fun token => decide (2 < token.length)).map String.ofList

/-- A number, or the text that `+` makes of a function. -/
inductive WordCount
  | number (count : Nat)
  | text (value : String)
  deriving DecidableEq

def WordCount.increment : WordCount → WordCount
  | .number count => .number (count + 1)
  | .text value => .text (value ++ "1")

abbrev WordBag : Type := List (String × WordCount)

abbrev Inherited : Type := String → Option String

def ofMap : Inherited := fun _ => none

def objectMethods : List String :=
  ["constructor", "hasOwnProperty", "isPrototypeOf", "propertyIsEnumerable", "toLocaleString", "toString", "valueOf",
    "__defineGetter__", "__defineSetter__", "__lookupGetter__", "__lookupSetter__"]

/-- The property `__proto__` is left out: no token has an underscore. -/
def ofObject : Inherited := fun key =>
  if key ∈ objectMethods then
    some ("function " ++ (if key = "constructor" then "Object" else key) ++ "() \x7b [native code] \x7d")
  else none

/-- What stands for a word without an own entry: `?? 0`, or an inherited function. -/
def unassigned (inherited : Inherited) (token : String) : WordCount := ((inherited token).map WordCount.text).getD (.number 0)

/-- `bag.get(token) ?? 0`, and `bag[token] ?? 0` -/
def WordBag.read (inherited : Inherited) (bag : WordBag) (token : String) : WordCount :=
  (bag.lookup token).getD (unassigned inherited token)

structure TrainingSample (Label : Type) where
  label : Label
  tokens : List String

structure TrainedModel (Label : Type) where
  classCounts : Label → Nat
  wordCounts : Label → WordBag
  vocabularySize : Label → Nat
  totalSamples : Nat

structure Tally where
  bag : WordBag
  seen : List String
  vocabularySize : Nat

def Tally.add (inherited : Inherited) (tally : Tally) (token : String) : Tally where
  bag := assign token (tally.bag.read inherited token).increment tally.bag
  seen := if token ∈ tally.seen then tally.seen else token :: tally.seen
  vocabularySize := if token ∈ tally.seen then tally.vocabularySize else tally.vocabularySize + 1

section

variable {Label : Type} [DecidableEq Label] (inherited : Inherited)

def TrainedModel.learn (model : TrainedModel Label) (sample : TrainingSample Label) : TrainedModel Label :=
  let tally := sample.tokens.foldl (Tally.add inherited) ⟨model.wordCounts sample.label, [], model.vocabularySize sample.label⟩
  { model with
    classCounts := Function.update model.classCounts sample.label (model.classCounts sample.label + 1)
    wordCounts := Function.update model.wordCounts sample.label tally.bag
    vocabularySize := Function.update model.vocabularySize sample.label tally.vocabularySize }

def train (samples : List (TrainingSample Label)) : Option (TrainedModel Label) :=
  if samples = [] then none
  else some (samples.foldl (TrainedModel.learn inherited) ⟨fun _ => 0, fun _ => [], fun _ => 0, samples.length⟩)

/-- `(count + 1) / (classCount + vocab)`; of a text there is no number. -/
def TrainedModel.weight (model : TrainedModel Label) (label : Label) (token : String) : Option ℚ :=
  match (model.wordCounts label).read inherited token with
  | .number count => some ((count + 1 : ℚ) / (model.classCounts label + max 1 (model.vocabularySize label) : ℚ))
  | .text _ => none

end

def trainNaiveBayes (samples : List (TrainingSample ThreadPriority)) : Option (TrainedModel ThreadPriority) := train ofMap samples

structure AssignmentCategoryModel extends TrainedModel ThreadCategory where
  version : Nat
  trainedAt : String

def trainAssignmentCategoryModel (samples : List (TrainingSample ThreadCategory)) (trainedAt : String) :
    Option AssignmentCategoryModel :=
  (train ofObject samples).map fun model => { model with version := 1, trainedAt := trainedAt }

def samplesOf {Label : Type} (toLowerCase : String → String) (texts : List (Label × String)) : List (TrainingSample Label) :=
  texts.map fun text => ⟨text.1, tokenize toLowerCase text.2⟩

end SmartResidence.Threads
