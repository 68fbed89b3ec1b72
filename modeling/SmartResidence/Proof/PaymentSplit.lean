import SmartResidence.Accounting.PostingTransactions
import SmartResidence.Proof.FundSettlement

/-!
# How exactly a payment is split
-/

namespace SmartResidence.Billing

open Foundation List

variable {lines : List InvoiceLine} {amount : ℤ}

structure ExactSplit (entries : List LedgerEntry) (amount : ℤ) : Prop where
  funds : (entries.map fun entry => entry.fund).Nodup
  positive : ∀ entry ∈ entries, 0 < entry.amount
  total : sumBy (fun entry => entry.amount) entries = amount

def fundsOf (lines : List InvoiceLine) : List LedgerFund := (lines.map fun line => fundOfCode line.code).eraseDups

/-- Of three funds the last is asked nothing, and the exact share of the first is an odd number of half sen. -/
def RoundsUpTwice (lines : List InvoiceLine) (amount : ℤ) : Prop :=
  0 < lineTotal lines ∧ ∃ first second last, fundsOf lines = [first, second, last] ∧ codeTotal lines last = 0 ∧
    ∃ n, 2 * (amount * codeTotal lines first) = (2 * n + 1) * lineTotal lines

theorem addToFund_funds (byFund : List (LedgerFund × ℤ)) (fund : LedgerFund) (amount : ℤ) :
    (addToFund byFund fund amount).map Prod.fst =
      byFund.map Prod.fst ++ if fund ∈ byFund.map Prod.fst then [] else [fund] := by
  induction byFund with
  | nil => rfl
  | cons pair rest ih =>
    obtain ⟨other, total⟩ := pair
    rw [addToFund]
    by_cases same : other = fund
    · simp [same]
    · have apart : ¬ fund = other := fun equal => same equal.symm
      rw [if_neg same, map_cons, ih, map_cons, cons_append]
      simp only [mem_cons, apart, false_or]

theorem fundsOf_eq (lines : List InvoiceLine) : fundsOf lines = (linesByFund lines).map Prod.fst := by
  induction lines using List.reverseRecOn with
  | nil => rfl
  | append_singleton lines line ih =>
    rw [linesByFund_concat, addToFund_funds, ← ih]
    unfold fundsOf
    rw [map_append, eraseDups_append]
    by_cases mem : fundOfCode line.code ∈ lines.map fun line => fundOfCode line.code
    · rw [if_pos (mem_eraseDups.mpr mem)]
      simp only [map_singleton, List.removeAll, filter_cons, elem_eq_mem, mem]
      rfl
    · rw [if_neg fun inside => mem (mem_eraseDups.mp inside)]
      simp only [map_singleton, List.removeAll, filter_cons, elem_eq_mem, mem]
      rfl

theorem linesByFund_total {fund : LedgerFund} {total : ℤ} (mem : (fund, total) ∈ linesByFund lines) :
    total = codeTotal lines fund := by
  rw [← sumBy_inFund_linesByFund]
  exact (sumBy_own Prod.snd (linesByFund_nodup lines) mem).symm

theorem codeTotal_nonneg (nonneg : ∀ line ∈ lines, 0 ≤ line.amount) (fund : LedgerFund) : 0 ≤ codeTotal lines fund := by
  refine sumBy_nonneg _ fun line mem => ?_
  split
  · exact nonneg line mem
  · exact le_rfl

theorem fundsOf_length (lines : List InvoiceLine) : (fundsOf lines).length ≤ 3 := by
  have nodup := fundsOf_eq lines ▸ linesByFund_nodup lines
  have known : fundsOf lines ⊆ [.maintenance, .sinkingFund, .general] := by
    intro fund mem
    rw [fundsOf_eq] at mem
    obtain ⟨line, _, rfl⟩ := mem_linesByFund_code mem
    unfold fundOfCode
    split
    · simp
    · split <;> simp
  exact (nodup.subperm known).length_le

/-! ## Rounded shares -/

section

variable {total first second last : ℤ}

theorem share_bounds (amount : ℤ) (positive : 0 < total) (part : ℤ) :
    total * (2 * mathRound ((amount : ℚ) * part / total) - 1) ≤ 2 * (amount * part) ∧
      2 * (amount * part) < total * (2 * mathRound ((amount : ℚ) * part / total) + 1) := by
  have whole : (0 : ℚ) < total := by exact_mod_cast positive
  have lower := le_roundHalfUp_iff.mp (le_refl (mathRound ((amount : ℚ) * part / total)))
  have upper := roundHalfUp_le_iff.mp (le_refl (mathRound ((amount : ℚ) * part / total)))
  generalize mathRound ((amount : ℚ) * part / total) = share at lower upper ⊢
  rw [le_div_iff₀ whole] at lower
  rw [div_lt_iff₀ whole] at upper
  constructor
  · have cast : (total : ℚ) * (2 * share - 1) ≤ 2 * (amount * part) := by linarith
    exact_mod_cast cast
  · have cast : 2 * ((amount : ℚ) * part) < total * (2 * share + 1) := by linarith
    exact_mod_cast cast

theorem share_nonneg (positive : 0 < total) (pays : 0 ≤ amount) {part : ℤ} (nonneg : 0 ≤ part) :
    0 ≤ mathRound ((amount : ℚ) * part / total) := by
  have upper := (share_bounds amount positive part).2
  by_contra negative
  nlinarith [mul_nonneg pays nonneg]

theorem share_le (positive : 0 < total) (pays : 0 ≤ amount) {part : ℤ} (within : part ≤ total) :
    mathRound ((amount : ℚ) * part / total) ≤ amount := by
  have lower := (share_bounds amount positive part).1
  by_contra more
  nlinarith [mul_le_mul_of_nonneg_left within pays]

theorem exceeds_iff (positive : 0 < total) (pays : 0 < amount) (nonneg : 0 ≤ last)
    (parts : first + second + last = total) :
    amount < mathRound ((amount : ℚ) * first / total) + mathRound ((amount : ℚ) * second / total) ↔
      last = 0 ∧ ∃ n, 2 * (amount * first) = (2 * n + 1) * total := by
  obtain ⟨lower, upper⟩ := share_bounds amount positive first
  obtain ⟨lowerSecond, upperSecond⟩ := share_bounds amount positive second
  generalize mathRound ((amount : ℚ) * first / total) = one at lower upper ⊢
  generalize mathRound ((amount : ℚ) * second / total) = two at lowerSecond upperSecond ⊢
  have whole : amount * first + amount * second + amount * last = amount * total := by
    rw [← parts]
    ring
  constructor
  · intro exceeds
    have none : amount * last = 0 := by nlinarith
    refine ⟨(mul_eq_zero.mp none).resolve_left pays.ne', one - 1, ?_⟩
    nlinarith
  · rintro ⟨rfl, n, half⟩
    have isNext : one = n + 1 := by
      have least : 2 * one - 1 ≤ 2 * n + 1 := le_of_mul_le_mul_left (by linarith) positive
      have most : 2 * n + 1 < 2 * one + 1 := lt_of_mul_lt_mul_left (by linarith) positive.le
      omega
    have isRest : two = amount - n := by
      have least : 2 * two - 1 ≤ 2 * (amount - n) - 1 := le_of_mul_le_mul_left (by linarith) positive
      have most : 2 * (amount - n) - 1 < 2 * two + 1 := lt_of_mul_lt_mul_left (by linarith) positive.le
      omega
    omega

end

theorem shares_nonneg_iff (nonneg : ∀ line ∈ lines, 0 ≤ line.amount) (pays : 0 < amount) :
    (∀ allocation ∈ allocationsOf lines amount, 0 ≤ allocation.2) ↔ ¬ RoundsUpTwice lines amount := by
  unfold allocationsOf RoundsUpTwice
  by_cases positive : 0 < lineTotal lines
  · rw [if_pos positive]
    have total := sumBy_linesByFund lines
    have own : ∀ pair ∈ linesByFund lines, pair.2 = codeTotal lines pair.1 := fun pair => linesByFund_total
    have parts : ∀ pair ∈ linesByFund lines, 0 ≤ pair.2 := fun pair mem => own pair mem ▸ codeTotal_nonneg nonneg pair.1
    have short := fundsOf_length lines
    rw [fundsOf_eq] at short ⊢
    rcases funds : linesByFund lines with _ | ⟨⟨one, first⟩, _ | ⟨⟨two, second⟩, _ | ⟨⟨three, last⟩, _ | _⟩⟩⟩
    · exact absurd funds (linesByFund_ne_nil positive)
    · simp [shareOut, pays.le]
    · rw [funds] at total parts
      simp only [sumBy_cons, sumBy_nil, forall_mem_cons] at total parts
      have share := share_nonneg positive pays.le parts.1
      have within := share_le positive pays.le (show first ≤ lineTotal lines by omega)
      simp [shareOut, share, within]
    · rw [funds] at total parts own
      simp only [sumBy_cons, sumBy_nil, forall_mem_cons] at total parts own
      have exceeds := exceeds_iff positive pays parts.2.2.1 (show first + second + last = lineTotal lines by omega)
      have share := share_nonneg positive pays.le parts.1
      have shareSecond := share_nonneg positive pays.le parts.2.1
      simp only [shareOut, forall_mem_cons, zero_add, share, shareSecond, sub_nonneg, true_and]
      rw [← not_lt, exceeds, and_iff_left (forall_mem_nil _), own.1, own.2.2.1]
      refine not_congr ⟨fun tie => ⟨positive, one, two, three, rfl, tie⟩, ?_⟩
      rintro ⟨_, _, _, _, same, tie⟩
      cases same
      exact tie
    · rw [length_map, funds] at short
      simp only [length_cons] at short
      omega
  · simp [positive, pays.le]

/-! ## The entries of a payment -/

theorem appendPostings_fresh {entries : List LedgerEntry} {postings : List LedgerPosting}
    (fresh : FreshKeys entries postings) : ∃ new : List LedgerEntry, appendPostings entries postings = entries ++ new ∧
      new.map LedgerEntry.toLedgerPosting = postings := by
  induction postings generalizing entries with
  | nil => exact ⟨[], (append_nil entries).symm, rfl⟩
  | cons posting postings ih =>
    obtain ⟨notLater, nodup⟩ := nodup_cons.mp fresh.distinct
    have head := fresh.unused posting mem_cons_self
    have rest : FreshKeys (appendPosting entries posting) postings := by
      refine ⟨fun later mem entry found same => ?_, nodup⟩
      rcases mem_appendPosting found with old | new
      · exact fresh.unused later (mem_cons_of_mem posting mem) entry old same
      · rw [new] at same
        exact notLater (same ▸ mem_map_of_mem mem)
    obtain ⟨new, appended, same⟩ := ih rest
    refine ⟨{ posting with id := entries.length } :: new, ?_, ?_⟩
    · show appendPostings (appendPosting entries posting) postings = _
      rw [appended, appendPosting_unused head, append_assoc]
      rfl
    · rw [map_cons, same]

namespace Sample

def evenLines : List InvoiceLine :=
  [⟨"MAINT", "Maintenance", 100, 0⟩, ⟨"SINKING", "Sinking fund", 100, 1⟩, ⟨"GARBAGE", "Garbage", 0, 2⟩]

def evenInvoice : Invoice := ⟨1, 5, 7, 0, 0, 0, .issued, some 0, 200, 200, 0, none, none, evenLines, none⟩

def evenlyBilled : Db := { db with invoices := [evenInvoice] }

end Sample

end SmartResidence.Billing
