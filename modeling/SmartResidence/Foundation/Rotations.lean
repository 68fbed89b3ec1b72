import Mathlib.Data.List.Nodup
import Mathlib.Data.List.Rotate

/-!
# Rotations

Choices that go round a list, from somewhere on.
-/

namespace SmartResidence.Foundation

open List

variable {Key : Type*} {order choices : List Key} {key : Key}

def GoesRound (order choices : List Key) : Prop :=
  ∃ start, ∀ i < choices.length, choices[i]? = order[(start + i) % order.length]?

theorem GoesRound.nil : GoesRound order [] := ⟨0, fun _ none => absurd none (Nat.not_lt_zero _)⟩

theorem GoesRound.first (mem : key ∈ order) : GoesRound order [key] := by
  obtain ⟨place, inside, found⟩ := mem_iff_getElem.mp mem
  refine ⟨place, fun i small => ?_⟩
  obtain rfl : i = 0 := by simpa using small
  rw [Nat.add_zero, Nat.mod_eq_of_lt inside, List.getElem?_eq_getElem inside, found]
  rfl

theorem GoesRound.turn (round : GoesRound order choices) (long : order.length ≤ choices.length) :
    ∃ start, choices.take order.length = order.rotate start ∧ GoesRound order (choices.drop order.length) := by
  obtain ⟨start, entries⟩ := round
  refine ⟨start, ext_getElem? fun i => ?_, start, fun i mem => ?_⟩
  · by_cases mem : i < order.length
    · rw [List.getElem?_take_of_lt mem, entries i (mem.trans_le long), List.getElem?_rotate mem, Nat.add_comm]
    · rw [List.getElem?_eq_none (by simp; omega), List.getElem?_eq_none (by rw [length_rotate]; omega)]
  · rw [length_drop] at mem
    rw [List.getElem?_drop, entries _ (by omega)]
    have same : start + (order.length + i) = start + i + order.length := by omega
    rw [same, Nat.add_mod_right]

variable [DecidableEq Key]

theorem GoesRound.count_eq (round : GoesRound order choices) (nodup : order.Nodup) (mem : key ∈ order) {turns : Nat}
    (whole : choices.length = order.length * turns) : choices.count key = turns := by
  induction turns generalizing choices with
  | zero =>
    rw [Nat.mul_zero, length_eq_zero_iff] at whole
    rw [whole, count_nil]
  | succ turns ih =>
    rw [Nat.mul_succ] at whole
    obtain ⟨start, first, later⟩ := round.turn (by omega)
    have rest := ih later (by rw [length_drop]; omega)
    rw [← take_append_drop order.length choices, count_append, first, rest,
      (rotate_perm order start).count_eq, count_eq_one_of_mem nodup mem, Nat.add_comm]

theorem GoesRound.next {last next : Key} (round : GoesRound order (choices ++ [last])) (nodup : order.Nodup)
    (follows : order[(order.idxOf last + 1) % order.length]? = some next) : GoesRound order (choices ++ [last] ++ [next]) := by
  obtain ⟨start, entries⟩ := round
  have own := entries choices.length (by simp)
  rw [List.getElem?_concat_length] at own
  obtain ⟨mem, found⟩ := List.getElem?_eq_some_iff.mp own.symm
  have place : order.idxOf last = (start + choices.length) % order.length := by
    rw [← found]
    exact nodup.idxOf_getElem _ mem
  refine ⟨start, fun i small => ?_⟩
  rw [length_append, length_singleton] at small
  rcases Nat.lt_succ_iff_lt_or_eq.mp small with before | rfl
  · rw [List.getElem?_append_left before]
    exact entries i before
  · rw [place, Nat.mod_add_mod] at follows
    rw [List.getElem?_concat_length, length_append, length_singleton, ← follows, Nat.add_assoc]

end SmartResidence.Foundation
