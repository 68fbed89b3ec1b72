import SmartResidence.Proof.Statement

/-!
# Statements over consecutive ranges
-/

namespace SmartResidence.Billing

open Foundation List

variable {db : Db} {unitId : Id}

def runningLines : ℤ → List LedgerEntry → List UnitStatementEntry
  | _, [] => []
  | balance, entry :: entries =>
      applyLedgerEntry balance entry :: runningLines (applyLedgerEntry balance entry).balance entries

def UnitStatementEntry.figures (line : UnitStatementEntry) :
    Instant × LedgerEntryType × LedgerFund × ℤ × ℤ :=
  (line.occurredAt, line.type, line.fund, line.charge, line.payment)

def LedgerEntry.figures (entry : LedgerEntry) : Instant × LedgerEntryType × LedgerFund × ℤ × ℤ :=
  (applyLedgerEntry 0 entry).figures

theorem runningLines_append (balance : ℤ) (entries more : List LedgerEntry) : runningLines balance (entries ++ more) =
      runningLines balance entries ++ runningLines (balance + ledgerSum signed entries) more := by
  induction entries generalizing balance with
  | nil => simp [runningLines, ledgerSum]
  | cons entry entries ih =>
    simp only [cons_append, runningLines, ih, applyLedgerEntry_balance, ledgerSum, sumBy_cons, add_assoc]

theorem runningLines_figures (balance : ℤ) (entries : List LedgerEntry) :
    (runningLines balance entries).map UnitStatementEntry.figures = entries.map LedgerEntry.figures := by
  induction entries generalizing balance with
  | nil => rfl
  | cons entry entries ih =>
    rw [runningLines, map_cons, ih]
    rfl

theorem runningLines_moved (balance : ℤ) (entries : List LedgerEntry) :
    sumBy UnitStatementEntry.charge (runningLines balance entries) -
      sumBy UnitStatementEntry.payment (runningLines balance entries) = ledgerSum signed entries := by
  induction entries generalizing balance with
  | nil => rfl
  | cons entry entries ih =>
    have own : (applyLedgerEntry balance entry).charge - (applyLedgerEntry balance entry).payment =
        signed entry.toLedgerPosting := by
      unfold applyLedgerEntry signed
      split <;> simp
    have rest := ih (applyLedgerEntry balance entry).balance
    simp only [runningLines, ledgerSum, sumBy_cons] at rest ⊢
    linarith

theorem runningLines_last (balance : ℤ) (entries : List LedgerEntry) :
    (match (runningLines balance entries).getLast? with
      | some line => line.balance
      | none => balance) = balance + ledgerSum signed entries := by
  rcases eq_nil_or_concat entries with rfl | ⟨before, last, rfl⟩
  · simp [runningLines, ledgerSum]
  · rw [concat_eq_append, runningLines_append]
    simp only [runningLines, List.getLast?_concat, applyLedgerEntry_balance, ledgerSum, sumBy_append, sumBy_cons,
      sumBy_nil]
    ring

section

variable {start stop : Instant} {entries : List LedgerEntry}

theorem fold_before (early : ∀ entry ∈ entries, entry.occurredAt < start) (balance : ℤ) :
    entries.foldl (statementStep start stop) ⟨balance, balance, []⟩ =
      ⟨balance + ledgerSum signed entries, balance + ledgerSum signed entries, []⟩ := by
  induction entries generalizing balance with
  | nil => simp [ledgerSum]
  | cons entry entries ih =>
    have step : statementStep start stop ⟨balance, balance, []⟩ entry =
        ⟨balance + signed entry.toLedgerPosting, balance + signed entry.toLedgerPosting, []⟩ := by
      rw [statementStep, if_pos (early entry mem_cons_self), applyLedgerEntry_balance]
    rw [foldl_cons, step, ih fun entry mem => early entry (mem_cons_of_mem _ mem)]
    simp only [ledgerSum, sumBy_cons, add_assoc]

theorem fold_within (within : ∀ entry ∈ entries, start ≤ entry.occurredAt ∧ entry.occurredAt ≤ stop)
    (cursor : StatementCursor) : entries.foldl (statementStep start stop) cursor =
      ⟨cursor.balance + ledgerSum signed entries, cursor.openingBalance,
        cursor.entries ++ runningLines cursor.balance entries⟩ := by
  induction entries generalizing cursor with
  | nil => simp [ledgerSum, runningLines]
  | cons entry entries ih =>
    obtain ⟨first, last⟩ := within entry mem_cons_self
    have step : statementStep start stop cursor entry =
        ⟨cursor.balance + signed entry.toLedgerPosting, cursor.openingBalance,
          cursor.entries ++ [applyLedgerEntry cursor.balance entry]⟩ := by
      rw [statementStep, if_neg (not_lt.mpr first), if_pos last, applyLedgerEntry_balance]
    rw [foldl_cons, step, ih fun entry mem => within entry (mem_cons_of_mem _ mem)]
    simp [runningLines, applyLedgerEntry_balance, ledgerSum, add_assoc]

theorem fold_after (late : ∀ entry ∈ entries, start ≤ entry.occurredAt ∧ stop < entry.occurredAt)
    (cursor : StatementCursor) : entries.foldl (statementStep start stop) cursor =
      ⟨cursor.balance + ledgerSum signed entries, cursor.openingBalance, cursor.entries⟩ := by
  induction entries generalizing cursor with
  | nil => simp [ledgerSum]
  | cons entry entries ih =>
    obtain ⟨first, last⟩ := late entry mem_cons_self
    have step : statementStep start stop cursor entry =
        ⟨cursor.balance + signed entry.toLedgerPosting, cursor.openingBalance, cursor.entries⟩ := by
      rw [statementStep, if_neg (not_lt.mpr first), if_neg (not_le.mpr last), applyLedgerEntry_balance]
    rw [foldl_cons, step, ih fun entry mem => late entry (mem_cons_of_mem _ mem)]
    simp only [ledgerSum, sumBy_cons, add_assoc]

end

section

variable (db unitId)

def orderedLedger : List LedgerEntry :=
  (unitLedger db unitId).insertionSort fun a b => a.occurredAt ≤ b.occurredAt

def balanceBefore (start : Instant) : ℤ :=
  ledgerSum signed ((unitLedger db unitId).filter fun entry => decide (entry.occurredAt < start))

def entriesWithin (start stop : Instant) : List LedgerEntry :=
  (orderedLedger db unitId).filter fun entry => decide (start ≤ entry.occurredAt ∧ entry.occurredAt ≤ stop)

theorem orderedLedger_perm : (orderedLedger db unitId).Perm (unitLedger db unitId) :=
  perm_insertionSort _ _

theorem orderedLedger_split (start stop : Instant) : ∃ before after,
    orderedLedger db unitId = before ++ (entriesWithin db unitId start stop ++ after) ∧
    (∀ entry ∈ before, entry.occurredAt < start) ∧
    (∀ entry ∈ after, start ≤ entry.occurredAt ∧ stop < entry.occurredAt) ∧
    ledgerSum signed before = balanceBefore db unitId start := by
  have sorted : (orderedLedger db unitId).Pairwise fun a b => a.occurredAt ≤ b.occurredAt :=
    pairwise_insertionSort (fun a b : LedgerEntry => a.occurredAt ≤ b.occurredAt) _
  have first := below_append_rest sorted start
  have second := below_append_rest (sorted.filter fun entry => decide (start ≤ entry.occurredAt)) (stop + 1)
  have within : ((orderedLedger db unitId).filter fun entry => decide (start ≤ entry.occurredAt)).filter
      (fun entry => decide (entry.occurredAt < stop + 1)) = entriesWithin db unitId start stop := by
    rw [filter_filter]
    refine filter_congr fun entry _ => ?_
    rw [← Bool.decide_and, decide_eq_decide, Int.lt_add_one_iff, and_comm]
  rw [within] at second
  refine ⟨_, _, (first.symm.trans (by rw [second])), ?_, ?_, ?_⟩
  · simpa using (mem_filter.mp mem).2
  · intro entry mem
    simpa [Int.add_one_le_iff, and_comm] using
      And.intro (mem_filter.mp mem).2 (mem_filter.mp (mem_filter.mp mem).1).2
  · exact sumBy_perm _ ((orderedLedger_perm db unitId).filter _)

theorem unitStatementInRange_eq (start stop : Instant) :
    (unitStatementInRange db unitId start stop).openingBalance = balanceBefore db unitId start ∧
    (unitStatementInRange db unitId start stop).entries =
      runningLines (balanceBefore db unitId start) (entriesWithin db unitId start stop) ∧
    (unitStatementInRange db unitId start stop).closingBalance =
      balanceBefore db unitId start + ledgerSum signed (entriesWithin db unitId start stop) := by
  obtain ⟨before, after, split, early, late, sum⟩ := orderedLedger_split db unitId start stop
  have within : ∀ entry ∈ entriesWithin db unitId start stop,
      start ≤ entry.occurredAt ∧ entry.occurredAt ≤ stop := fun entry mem => by
    simpa using (mem_filter.mp mem).2
  have fold : (orderedLedger db unitId).foldl (statementStep start stop) ⟨0, 0, []⟩ =
      ⟨balanceBefore db unitId start + ledgerSum signed (entriesWithin db unitId start stop) + ledgerSum signed after,
        balanceBefore db unitId start,
        runningLines (balanceBefore db unitId start) (entriesWithin db unitId start stop)⟩ := by
    rw [split, foldl_append, fold_before early, foldl_append, fold_within within, fold_after late, sum]
    simp
  rw [orderedLedger] at fold
  simp only [unitStatementInRange, fold, true_and]
  exact runningLines_last _ _

end

variable {reread : Db}

section

variable (same : reread.ledgerEntries.Perm db.ledgerEntries)
include same

theorem unitLedger_perm : (unitLedger reread unitId).Perm (unitLedger db unitId) :=
  same.filter _

theorem balanceBefore_perm (start : Instant) : balanceBefore reread unitId start = balanceBefore db unitId start :=
  sumBy_perm _ ((unitLedger_perm same).filter _)

theorem entriesWithin_perm (start stop : Instant) :
    (entriesWithin reread unitId start stop).Perm ((unitLedger db unitId).filter fun entry =>
      decide (start ≤ entry.occurredAt ∧ entry.occurredAt ≤ stop)) :=
  ((orderedLedger_perm reread unitId).trans (unitLedger_perm same)).filter _

end

theorem balanceBefore_next {a b : Instant} (ordered : a ≤ b) : balanceBefore db unitId (b + 1) =
    balanceBefore db unitId a + ledgerSum signed (entriesWithin db unitId a b) := by
  have within : ledgerSum signed (entriesWithin db unitId a b) = _ :=
    sumBy_perm _ (entriesWithin_perm (.refl _) a b)
  rw [within, balanceBefore, balanceBefore, ledgerSum, ledgerSum, sumBy_filter, sumBy_filter, sumBy_filter, ← sumBy_add]
  refine sumBy_congr fun entry _ => ?_
  have cases : entry.occurredAt < b + 1 ↔ entry.occurredAt < a ∨ a ≤ entry.occurredAt ∧ entry.occurredAt ≤ b := by
    rw [Int.lt_add_one_iff]
    constructor
    · intro upTo
      exact (lt_or_ge entry.occurredAt a).imp_right fun from' => ⟨from', upTo⟩
    · rintro (early | ⟨_, upTo⟩)
      · exact (early.trans_le ordered).le
      · exact upTo
  by_cases early : entry.occurredAt < a
  · simp [cases, not_le.mpr early]
  · simp [cases, early]

theorem filter_adjacent {entries : List LedgerEntry} {a b c : Instant} (first : a ≤ b + 1) (second : b ≤ c) :
    (entries.filter (fun entry => decide (a ≤ entry.occurredAt ∧ entry.occurredAt ≤ b)) ++
      entries.filter fun entry => decide (b + 1 ≤ entry.occurredAt ∧ entry.occurredAt ≤ c)).Perm
      (entries.filter fun entry => decide (a ≤ entry.occurredAt ∧ entry.occurredAt ≤ c)) := by
  have parts := filter_append_perm (fun entry : LedgerEntry => decide (entry.occurredAt ≤ b))
    (entries.filter fun entry => decide (a ≤ entry.occurredAt ∧ entry.occurredAt ≤ c))
  rw [filter_filter, filter_filter] at parts
  refine .trans (.of_eq ?_) parts
  congr 1
  · refine filter_congr fun entry _ => ?_
    rw [← Bool.decide_and, decide_eq_decide]
    exact ⟨fun mem => ⟨mem.2, mem.1, mem.2.trans second⟩, fun mem => ⟨mem.2.1, mem.1⟩⟩
  · refine filter_congr fun entry _ => ?_
    rw [← decide_not, ← Bool.decide_and, decide_eq_decide, not_le]
    exact ⟨fun mem => ⟨mem.1, first.trans (Int.add_one_le_iff.mpr mem.1), mem.2⟩,
      fun mem => ⟨mem.1, mem.2.2⟩⟩

theorem line_within {balance : ℤ} {start stop : Instant} {line : UnitStatementEntry}
    (mem : line ∈ runningLines balance (entriesWithin db unitId start stop)) :
    start ≤ line.occurredAt ∧ line.occurredAt ≤ stop := by
  have shown : line.figures ∈ (entriesWithin db unitId start stop).map LedgerEntry.figures :=
    runningLines_figures balance _ ▸ mem_map_of_mem mem
  obtain ⟨entry, inside, same⟩ := mem_map.mp shown
  have dated : entry.occurredAt = line.occurredAt := congrArg Prod.fst same
  rw [← dated]
  simpa using (mem_filter.mp inside).2

/-- Statements over adjacent ranges, the second from a reading that may order ties otherwise. -/
theorem statement_ranges_chain (same : reread.ledgerEntries.Perm db.ledgerEntries) {a b c : Instant}
    (first : a ≤ b) (second : b < c) :
    let early := unitStatementInRange db unitId a b
    let late := unitStatementInRange reread unitId (b + 1) c
    (early.openingBalance + sumBy UnitStatementEntry.charge early.entries -
        sumBy UnitStatementEntry.payment early.entries = early.closingBalance ∧
      late.openingBalance + sumBy UnitStatementEntry.charge late.entries -
        sumBy UnitStatementEntry.payment late.entries = late.closingBalance) ∧
    late.openingBalance = early.closingBalance ∧
    ((early.entries ++ late.entries).map UnitStatementEntry.figures).Perm
      (((unitLedger db unitId).filter fun entry =>
        decide (a ≤ entry.occurredAt ∧ entry.occurredAt ≤ c)).map LedgerEntry.figures) ∧
    (∀ line ∈ early.entries, a ≤ line.occurredAt ∧ line.occurredAt ≤ b) ∧
    (∀ line ∈ late.entries, b < line.occurredAt ∧ line.occurredAt ≤ c) ∧
    ((∀ entry ∈ unitLedger db unitId, entry.occurredAt ≤ b) →
      early.closingBalance = (unitStatement reread unitId).totalOutstanding) := by
  obtain ⟨opens, lines, closes⟩ := unitStatementInRange_eq db unitId a b
  obtain ⟨opens', lines', closes'⟩ := unitStatementInRange_eq reread unitId (b + 1) c
  have next : balanceBefore db unitId (b + 1) = balanceBefore db unitId a + ledgerSum signed (entriesWithin db unitId a b) :=
    balanceBefore_next first
  have moved := runningLines_moved (balanceBefore db unitId a) (entriesWithin db unitId a b)
  have moved' := runningLines_moved (balanceBefore reread unitId (b + 1)) (entriesWithin reread unitId (b + 1) c)
  refine ⟨⟨?_, ?_⟩, ?_, ?_, ?_, ?_, ?_⟩
  · rw [opens, lines, closes]
    linarith
  · rw [opens', lines', closes']
    linarith
  · rw [opens', closes, balanceBefore_perm same, next]
  · rw [lines, lines', List.map_append, runningLines_figures, runningLines_figures, ← List.map_append]
    refine List.Perm.map _ (((entriesWithin_perm (.refl _) a b).append (entriesWithin_perm same (b + 1) c)).trans ?_)
    exact filter_adjacent (first.trans (Int.le.intro 1 rfl)) second.le
  · intro line member
    exact line_within (lines ▸ member)
  · intro line member
    exact line_within (lines' ▸ member)
  · intro all
    rw [closes, ← next, totalOutstanding_eq, balanceBefore, ledgerSum, List.filter_eq_self.mpr, unitLedger, sumBy_filter,
      ledgerSum, sumBy_perm _ same]
    · refine sumBy_congr fun entry _ => ?_
      simp only [statementAmount, decide_eq_true_eq]
    · intro entry member
      exact decide_eq_true (Int.lt_add_one_iff.mpr (all entry member))

namespace Sample

def entryAt (id : Id) (type : LedgerEntryType) (amount : ℤ) (at' : Instant) : LedgerEntry :=
  ⟨⟨5, some 7, .maintenance, type, amount, none, .invoice 0, at', none⟩, id⟩

def tied : Db :=
  { Sample.db with ledgerEntries := [entryAt 0 .charge 10000 5, entryAt 1 .payment 4000 5, entryAt 2 .payment 6000 8] }

def tiedOtherwise : Db := { tied with ledgerEntries := tied.ledgerEntries.reverse }

end Sample

theorem statement_ranges_chain_tied :
    (unitStatementInRange Sample.tiedOtherwise 7 6 9).openingBalance =
        (unitStatementInRange Sample.tied 7 0 5).closingBalance ∧
      (unitStatementInRange Sample.tied 7 0 5).closingBalance = 6000 :=
  ⟨(@statement_ranges_chain Sample.tied 7 Sample.tiedOtherwise (List.reverse_perm _) 0 5 9
    (by decide) (by decide)).2.1, by decide +kernel⟩

end SmartResidence.Billing
