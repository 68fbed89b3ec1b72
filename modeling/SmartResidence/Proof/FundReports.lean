import SmartResidence.Proof.BalanceSheet
import SmartResidence.Proof.FundSettlement

/-!
# The reports on the funds
-/

namespace SmartResidence.Billing

open Foundation List

variable {db after : Db} {condoId : Id} {start stop : Instant} {change : Change}

def movement (db : Db) (condoId : Id) (counts : LedgerEntry → Bool) (fund : LedgerFund) : ℤ :=
  sumBy (fun entry => if entry.condoId = condoId ∧ entry.fund = fund ∧ counts entry then entry.amount else 0)
    db.ledgerEntries

def cashBefore (start : Instant) (entry : LedgerEntry) : Bool :=
  contributesToFundCash entry.type && decide (entry.occurredAt < start)

def cashBy (stop : Instant) (entry : LedgerEntry) : Bool :=
  contributesToFundCash entry.type && decide (entry.occurredAt ≤ stop)

def typedIn (type : LedgerEntryType) (start stop : Instant) (entry : LedgerEntry) : Bool :=
  decide (entry.type = type) && inPeriod start stop entry

def unlistedIn (start stop : Instant) (entry : LedgerEntry) : Bool :=
  decide (entry.type = .deposit ∨ entry.type = .refund ∨ entry.type = .prepayment ∨
    entry.type = .prepaymentApplied) && inPeriod start stop entry

theorem mem_ledgerFunds (fund : LedgerFund) : fund ∈ ledgerFunds := by
  cases fund <;> simp [ledgerFunds]

theorem movement_congr {counts others : LedgerEntry → Bool} (same : ∀ entry, counts entry = others entry)
    (fund : LedgerFund) : movement db condoId counts fund = movement db condoId others fund := by
  rw [funext same]

theorem tally_apply (counts : Bool) (totals : LedgerFund → ℤ) (entry : LedgerEntry) (fund : LedgerFund) :
    tally counts totals entry fund = totals fund + if entry.fund = fund ∧ counts then entry.amount else 0 := by
  unfold tally
  by_cases own : entry.fund = fund
  · cases counts <;> simp [own]
  · have other : fund ≠ entry.fund := fun same => own same.symm
    simp [own, other]

theorem fundBalanceAsOf_eq_movement (asOf : Instant) (fund : LedgerFund) :
    fundBalanceAsOf db condoId asOf fund = movement db condoId (cashBy asOf) fund := by
  rw [fundBalanceAsOf, sumBy_filter]
  refine sumBy_congr fun entry _ => ?_
  simp [cashBy, contributesToFundCash]

/-! ## The summary -/

theorem summary_column (column : FundTotals → LedgerFund → ℤ) {counts : LedgerEntry → Bool}
    (adds : ∀ totals entry, column (summaryStep start stop totals entry) = tally (counts entry) (column totals) entry)
    (totals : FundTotals) (fund : LedgerFund) :
    column ((condoLedger db condoId).foldl (summaryStep start stop) totals) fund =
      column totals fund + movement db condoId counts fund := by
  have fold := figure_foldl (fun entry => if entry.fund = fund ∧ counts entry then entry.amount else 0)
    (fun totals => column totals fund) (fun totals entry => by rw [adds, tally_apply]) totals (condoLedger db condoId)
  rw [fold, condoLedger, sumBy_perm _ (perm_insertionSort _ _), sumBy_filter]
  congr 1
  refine sumBy_congr fun entry _ => ?_
  by_cases condo : entry.condoId = condoId <;> simp [condo]

theorem fundSummary_funds : (fundSummary db condoId start stop).funds = ledgerFunds.map fun fund =>
    { fund := fund
      openingBalance := movement db condoId (cashBefore start) fund
      collections := movement db condoId (typedIn .payment start stop) fund
      chargesIssued := movement db condoId (typedIn .charge start stop) fund
      adjustments := movement db condoId (typedIn .adjustment start stop) fund
      closingBalance := movement db condoId (cashBy stop) fund } := by
  refine map_congr_left fun fund _ => ?_
  simp only [FundSummaryRow.mk.injEq, true_and, mathRound_intCast]
  have column := fun figure counts adds => @summary_column db condoId start stop figure counts adds
    ⟨fun _ => 0, fun _ => 0, fun _ => 0, fun _ => 0, fun _ => 0⟩ fund
  refine ⟨?_, ?_, ?_, ?_, ?_⟩
  · exact (column FundTotals.opening (cashBefore start) fun _ _ => rfl).trans (zero_add _)
  · exact (column FundTotals.collections (typedIn .payment start stop) fun _ _ => rfl).trans (zero_add _)
  · exact (column FundTotals.chargesIssued (typedIn .charge start stop) fun _ _ => rfl).trans (zero_add _)
  · exact (column FundTotals.adjustments (typedIn .adjustment start stop) fun _ _ => rfl).trans (zero_add _)
  · exact (column FundTotals.closing (cashBy stop) fun _ _ => rfl).trans (zero_add _)

theorem movement_closing (ordered : start ≤ stop) (fund : LedgerFund) :
    movement db condoId (cashBy stop) fund = movement db condoId (cashBefore start) fund +
      movement db condoId (typedIn .payment start stop) fund +
      movement db condoId (typedIn .adjustment start stop) fund +
      movement db condoId (unlistedIn start stop) fund := by
  unfold movement
  rw [← sumBy_add, ← sumBy_add, ← sumBy_add]
  refine sumBy_congr fun entry _ => ?_
  by_cases mine : entry.condoId = condoId ∧ entry.fund = fund
  · -- an entry that is not a charge falls before the period, in it under one column, or after it
    rcases lt_or_ge entry.occurredAt start with earlier | since
    · have mem : entry.occurredAt ≤ stop := le_of_lt (lt_of_lt_of_le earlier ordered)
      have outside : ¬ start ≤ entry.occurredAt := not_le.mpr earlier
      simp [cashBy, cashBefore, typedIn, unlistedIn, inPeriod, earlier, mem, outside]
    · have late : ¬ entry.occurredAt < start := not_lt.mpr since
      by_cases mem : entry.occurredAt ≤ stop
      · cases type : entry.type <;>
          simp [cashBy, cashBefore, typedIn, unlistedIn, inPeriod, contributesToFundCash, type, since]
      · simp [cashBy, cashBefore, typedIn, unlistedIn, inPeriod, late, mem]
  · have apart : ∀ counts : Prop, ¬ (entry.condoId = condoId ∧ entry.fund = fund ∧ counts) := fun counts found =>
      mine ⟨found.1, found.2.1⟩
    simp [apart]

/-- The balances of each row are those of the fund, and its columns explain the change between them. -/
def SummaryAgrees (db : Db) (condoId : Id) (start stop : Instant) : Prop :=
  ∀ row ∈ (fundSummary db condoId start stop).funds,
    (row.fund, row.closingBalance) ∈ fundBalancesAsOf db condoId stop ∧
    (∀ earlier, ∀ before ∈ (fundSummary db condoId earlier (start - 1)).funds, before.fund = row.fund →
      row.openingBalance = before.closingBalance) ∧
    row.openingBalance + row.collections + row.adjustments = row.closingBalance

/-- The summary agrees if and only if the entries without a column come to nothing in every fund. -/
theorem fundSummary_agrees_iff (db : Db) (condoId : Id) {start stop : Instant} (ordered : start ≤ stop) :
    SummaryAgrees db condoId start stop ↔ ∀ fund, movement db condoId (unlistedIn start stop) fund = 0 := by
  have opening : ∀ fund, movement db condoId (cashBefore start) fund =
      movement db condoId (cashBy (start - 1)) fund := by
    refine movement_congr fun entry => ?_
    have same : entry.occurredAt < start ↔ entry.occurredAt ≤ start - 1 := Int.le_sub_one_iff.symm
    simp only [cashBefore, cashBy, same]
  unfold SummaryAgrees
  simp only [fundSummary_funds, List.forall_mem_map]
  constructor
  · intro agrees fund
    obtain ⟨_, _, explained⟩ := agrees fund (mem_ledgerFunds fund)
    have closing := @movement_closing db condoId start stop ordered fund
    linarith
  · intro none fund listed
    refine ⟨?_, ?_, ?_⟩
    · refine List.mem_map.mpr ⟨fund, listed, ?_⟩
      rw [mathRound_intCast, fundBalanceAsOf_eq_movement]
    · intro earlier other _ same
      rw [opening, ← same]
    · rw [movement_closing ordered fund, none fund, add_zero]

theorem Sample.cash_nonneg : 0 ≤ (some (4000 : ℚ)).getD 0 := by decide +kernel

theorem fundSummary_agrees_paid : ∃ db, Run (Completes Sample.env) Sample.rated
      [⟨0, .generateRecurring (some Sample.admin) 5 Sample.monthly ⟨false, none⟩⟩,
        ⟨1, .recordManualPayment Sample.admin 0 (Sample.manual (some 4000) Sample.cash_nonneg)⟩] db ∧
    SummaryAgrees db 5 0 10 ∧ movement db 5 (typedIn .payment 0 10) .maintenance = 4000 := by
  have ends : (runAll Sample.env (fun _ _ => true) Sample.rated
      [⟨0, .generateRecurring (some Sample.admin) 5 Sample.monthly ⟨false, none⟩⟩,
        ⟨1, .recordManualPayment Sample.admin 0 (Sample.manual (some 4000) Sample.cash_nonneg)⟩]).map (fun db =>
      decide ((∀ fund ∈ ledgerFunds, movement db 5 (unlistedIn 0 10) fund = 0) ∧
        movement db 5 (typedIn .payment 0 10) .maintenance = 4000)) = .ok true := by
    decide +kernel
  obtain ⟨db, ran, holds⟩ := map_eq_ok.mp ends
  obtain ⟨none, paid⟩ := of_decide_eq_true holds
  exact ⟨db, completes_of_runAll ran,
    (fundSummary_agrees_iff db 5 (by decide)).mpr fun fund => none fund (mem_ledgerFunds fund), paid⟩

theorem fundSummary_unexplained : ¬ ∀ (db : Db) (condoId : Id) (start stop : Instant), start ≤ stop →
    SummaryAgrees db condoId start stop := by
  intro agrees
  have ends : (Request.run Sample.env Sample.db
      ⟨0, .depositRecord Sample.admin ⟨7, none, 5000, none, by decide +kernel⟩⟩).map (fun db => decide
        (⟨.deposit, 0, 0, 0, 0, 5000⟩ ∈ (fundSummary db 5 0 10).funds)) = .ok true := by
    decide +kernel
  obtain ⟨db, _, listed⟩ := map_eq_ok.mp ends
  have explained := (agrees db 5 0 10 (by decide) _ (of_decide_eq_true listed)).2.2
  cases explained

theorem sumBy_periodEntries {type : LedgerEntryType} (mem : type = .payment ∨ type = .charge)
    (fund : LedgerFund) : sumBy (fun entry => if entry.fund = fund ∧ decide (entry.type = type) then entry.amount else 0)
      (periodEntries db condoId start stop) = movement db condoId (typedIn type start stop) fund := by
  rw [periodEntries, sumBy_filter]
  refine sumBy_congr fun entry _ => ?_
  by_cases own : entry.type = type
  · by_cases condo : entry.condoId = condoId
    · by_cases inside : inPeriod start stop entry <;> simp [own, mem, condo, typedIn, inside]
    · simp [condo]
  · simp [own, typedIn]

theorem mem_periodEntries {entry : LedgerEntry} : entry ∈ periodEntries db condoId start stop ↔
    entry ∈ db.ledgerEntries ∧ (entry.condoId = condoId ∧ (entry.type = .payment ∨ entry.type = .charge)) ∧
      inPeriod start stop entry := by
  simp [periodEntries]

theorem mem_addInvoiceId {ids : List Id} {source : LedgerSource} {id : Id} :
    id ∈ addInvoiceId ids source ↔ id ∈ ids ∨ source = .invoice id := by
  cases source with
  | invoice other =>
    rw [addInvoiceId]
    split
    · rename_i known
      constructor
      · exact .inl
      · rintro (mem | same)
        · exact mem
        · exact LedgerSource.invoice.inj same ▸ known
    · simp [eq_comm]
  | _ => simp [addInvoiceId]

theorem mem_chargeInvoiceIds {entries : List LedgerEntry} {totals : PeriodTotals} {id : Id} :
    id ∈ (entries.foldl periodStep totals).chargeInvoiceIds ↔ id ∈ totals.chargeInvoiceIds ∨
      ∃ entry ∈ entries, entry.type ≠ .payment ∧ entry.source = .invoice id := by
  induction entries generalizing totals with
  | nil => simp
  | cons entry entries ih =>
    rw [foldl_cons, ih, periodStep]
    by_cases paid : entry.type = .payment
    · simp [paid]
    · simp only [paid, if_false, mem_addInvoiceId, exists_mem_cons_iff, not_false_eq_true, true_and, ne_eq]
      exact or_assoc

theorem collections_foldl (entries : List LedgerEntry) (totals : PeriodTotals) (fund : LedgerFund) :
    (entries.foldl periodStep totals).collections fund = totals.collections fund + sumBy (fun entry =>
      if entry.fund = fund ∧ decide (entry.type = .payment) then entry.amount else 0) entries := by
  refine figure_foldl _ (fun totals : PeriodTotals => totals.collections fund) (fun totals entry => ?_) totals entries
  unfold periodStep
  by_cases paid : entry.type = .payment <;> simp [paid, tally_apply]

theorem charges_foldl (entries : List LedgerEntry) (totals : PeriodTotals) (fund : LedgerFund)
    (period : ∀ entry ∈ entries, entry.type = .payment ∨ entry.type = .charge) :
    (entries.foldl periodStep totals).charges fund = totals.charges fund + sumBy (fun entry =>
      if entry.fund = fund ∧ decide (entry.type = .charge) then entry.amount else 0) entries := by
  have unpaid : (entries.foldl periodStep totals).charges fund = totals.charges fund + sumBy (fun entry =>
      if entry.fund = fund ∧ entry.type ≠ .payment then entry.amount else 0) entries := by
    refine figure_foldl _ (fun totals : PeriodTotals => totals.charges fund) (fun totals entry => ?_) totals entries
    unfold periodStep
    by_cases paid : entry.type = .payment <;> simp [paid, tally_apply]
  refine unpaid.trans (congrArg _ (sumBy_congr fun entry mem => ?_))
  rcases period entry mem with paid | charge
  · simp [paid]
  · simp [charge]

theorem incomeExpense_byFund (memo : LedgerEntry → Option String) :
    (incomeExpense memo db condoId start stop).byFund = ledgerFunds.map fun fund =>
      ⟨fund, movement db condoId (typedIn .payment start stop) fund,
        movement db condoId (typedIn .charge start stop) fund⟩ := by
  refine map_congr_left fun fund _ => ?_
  have types : ∀ entry ∈ periodEntries db condoId start stop, entry.type = .payment ∨ entry.type = .charge :=
    fun entry mem => (mem_periodEntries.mp mem).2.1.2
  rw [mathRound_intCast, mathRound_intCast, collections_foldl, charges_foldl _ _ _ types,
    sumBy_periodEntries (.inl rfl), sumBy_periodEntries (.inr rfl), zero_add, zero_add]

/-! ## The categories -/

def KeyedByFund (categories : CategoryMap) : Prop :=
  ∀ pair ∈ categories, ∃ rest, pair.1 = fundName pair.2.fund ++ ':' :: rest

theorem fundName_inj {fund other : LedgerFund} {rest more : List Char}
    (same : fundName fund ++ ':' :: rest = fundName other ++ ':' :: more) : fund = other := by
  have first := congrArg List.head? same
  cases fund <;> cases other <;> first | rfl | cases first

def inCategory (figure : IncomeExpenseCategoryRow → ℤ) (fund : LedgerFund)
    (pair : List Char × IncomeExpenseCategoryRow) : ℤ :=
  if pair.2.fund = fund then figure pair.2 else 0

section

variable {figure : IncomeExpenseCategoryRow → ℤ}
  (additive : ∀ existing row, figure (mergeCategory existing row) = figure existing + figure row)

variable {categories : CategoryMap}

theorem addCategory_keyed (keyed : KeyedByFund categories) (row : IncomeExpenseCategoryRow) (rest : List Char) :
    KeyedByFund (addCategory categories (fundName row.fund ++ ':' :: rest) row) := by
  induction categories with
  | nil => simp [addCategory, KeyedByFund]
  | cons head categories ih =>
    obtain ⟨own, others⟩ := forall_mem_cons.mp keyed
    rw [addCategory]
    split
    · exact forall_mem_cons.mpr ⟨own, others⟩
    · exact forall_mem_cons.mpr ⟨own, ih others⟩

include additive

theorem sumBy_addCategory (keyed : KeyedByFund categories) (row : IncomeExpenseCategoryRow) (rest : List Char)
    (fund : LedgerFund) :
    sumBy (inCategory figure fund) (addCategory categories (fundName row.fund ++ ':' :: rest) row) =
      sumBy (inCategory figure fund) categories + if row.fund = fund then figure row else 0 := by
  induction categories with
  | nil => simp [addCategory, inCategory]
  | cons head categories ih =>
    obtain ⟨⟨more, own⟩, others⟩ := forall_mem_cons.mp keyed
    rw [addCategory]
    split
    · rename_i same
      -- an existing row under the key has the fund of the new one
      have funds := fundName_inj (own.symm.trans same)
      have merged : inCategory figure fund (head.1, mergeCategory head.2 row) =
          inCategory figure fund head + if row.fund = fund then figure row else 0 := by
        show (if head.2.fund = fund then figure (mergeCategory head.2 row) else 0) =
          (if head.2.fund = fund then figure head.2 else 0) + _
        rw [additive, funds]
        split <;> simp
      rw [sumBy_cons, sumBy_cons, merged]
      ring
    · rw [sumBy_cons, sumBy_cons, ih others]
      ring

theorem sumBy_categories {Item : Type*} (key : Item → List Char) (row : Item → IncomeExpenseCategoryRow)
    (named : ∀ item, ∃ rest, key item = fundName (row item).fund ++ ':' :: rest) (fund : LedgerFund) (items : List Item)
    (keyed : KeyedByFund categories) :
    KeyedByFund (items.foldl (fun map item => addCategory map (key item) (row item)) categories) ∧
    sumBy (inCategory figure fund) (items.foldl (fun map item => addCategory map (key item) (row item)) categories) =
      sumBy (inCategory figure fund) categories +
        sumBy (fun item => if (row item).fund = fund then figure (row item) else 0) items := by
  induction items generalizing categories with
  | nil => exact ⟨keyed, (add_zero _).symm⟩
  | cons item items ih =>
    obtain ⟨rest, name⟩ := named item
    have later := ih (addCategory_keyed keyed (row item) rest)
    have head := sumBy_addCategory additive keyed (row item) rest fund
    rw [← name] at later head
    rw [foldl_cons, later.2, head]
    exact ⟨later.1, add_assoc _ _ _⟩

theorem sumBy_categoryMap (memo : LedgerEntry → Option String) (lines : List InvoiceLine)
    (entries : List LedgerEntry) (fund : LedgerFund) : sumBy (inCategory figure fund) (categoryMap memo lines entries) =
      sumBy (fun line => if fundOfCode line.code = fund then figure (chargeCategory line) else 0) lines +
      sumBy (fun entry => if entry.fund = fund then figure (paymentCategory memo entry) else 0)
        (entries.filter fun entry => decide (entry.type = .payment)) := by
  have charged := sumBy_categories additive (fun line => categoryKey (chargeCategory line) []) chargeCategory
    (fun line => ⟨_, rfl⟩) fund lines (forall_mem_nil _)
  have paid := sumBy_categories additive (fun entry => categoryKey (paymentCategory memo entry) ":pay".toList)
    (paymentCategory memo) (fun entry => ⟨_, rfl⟩) fund
    (entries.filter fun entry => decide (entry.type = .payment)) charged.1
  rw [categoryMap, paid.2, charged.2, sumBy_nil, zero_add]
  rfl

theorem sumBy_byCategory (memo : LedgerEntry → Option String) (fund : LedgerFund) :
    sumBy figure ((incomeExpense memo db condoId start stop).byCategory.filter fun row => decide (row.fund = fund)) =
      sumBy (fun line => if fundOfCode line.code = fund then figure (chargeCategory line) else 0)
        (chargedLines db ((periodEntries db condoId start stop).foldl periodStep
          ⟨fun _ => 0, fun _ => 0, []⟩).chargeInvoiceIds) +
      sumBy (fun entry => if entry.fund = fund then figure (paymentCategory memo entry) else 0)
        ((periodEntries db condoId start stop).filter fun entry => decide (entry.type = .payment)) := by
  rw [← sumBy_categoryMap additive, sumBy_filter, incomeExpense, sumBy_perm _ (perm_insertionSort _ _), sumBy_map]
  refine sumBy_congr fun pair _ => ?_
  have whole : roundCategory pair.2 = pair.2 := by simp [roundCategory]
  simp [inCategory, whole]

end

theorem chargedLines_sum (measure : InvoiceLine → ℤ) (ids : List Id) : sumBy measure (chargedLines db ids) =
      sumBy (fun invoice => if invoice.id ∈ ids then sumBy measure invoice.lines else 0) db.invoices := by
  rw [chargedLines, sumBy_flatMap, sumBy_filter]
  simp

structure ChargesTogether (db : Db) : Prop where
  invoiced : ∀ entry ∈ db.ledgerEntries, entry.type = .charge →
    ∃ invoice ∈ db.invoices, entry.source = .invoice invoice.id
  together : ∀ first ∈ db.ledgerEntries, ∀ second ∈ db.ledgerEntries, first.type = .charge →
    second.type = .charge → first.source = second.source →
    first.occurredAt = second.occurredAt ∧ first.condoId = second.condoId

def ChargedByCode (db : Db) : Prop := ∀ invoice ∈ db.invoices, ∀ fund,
  ledgerSum (chargedIn invoice.id fund) db.ledgerEntries = codeTotal invoice.lines fund

def Change.ByCode : Change → Prop
  | .issued draft => ∀ line ∈ draft.lines, line.chargedFund = fundOfCode line.code
  | _ => True

theorem Commit.chargesTogether (commit : Commit db change after) (wf : WellFormed db)
    (before : ChargesTogether db) : ChargesTogether after := by
  obtain ⟨postings, posts, appended⟩ := commit.appends
  have stays : ∀ {entry : LedgerEntry}, (∃ invoice ∈ db.invoices, entry.source = .invoice invoice.id) →
      ∃ invoice ∈ after.invoices, entry.source = .invoice invoice.id := by
    rintro entry ⟨invoice, found, source⟩
    obtain ⟨row, listed, same⟩ := mem_map.mp (commit.invoice_stays (mem_map_of_mem found))
    exact ⟨row, listed, source.trans (congrArg _ same.symm)⟩
  rcases posts.charges with ⟨draft, now, rfl, all⟩ | none
  · have old : ∀ entry ∈ db.ledgerEntries, entry.type = .charge → entry.source ≠ .invoice db.nextId := by
      intro entry found charge new
      obtain ⟨invoice, listed, source⟩ := before.invoiced entry found charge
      exact ne_of_lt (wf.invoice_id_lt listed) (LedgerSource.invoice.inj (source.symm.trans new))
    constructor
    · intro entry mem charge
      rw [appended] at mem
      rcases mem_appendPostings mem with earlier | new
      · exact stays (before.invoiced entry earlier charge)
      · cases commit with
        | @issued dated => exact ⟨draft.row dated db.nextId, by simp, (all _ new).1⟩
    · intro first firstIn second secondIn firstCharge secondCharge same
      rw [appended] at firstIn secondIn
      rcases mem_appendPostings firstIn with earlier | new
      · rcases mem_appendPostings secondIn with also | new
        · exact before.together first earlier second also firstCharge secondCharge same
        · exact absurd (same.trans (all _ new).1) (old first earlier firstCharge)
      · rcases mem_appendPostings secondIn with earlier | also
        · exact absurd (same.symm.trans (all _ new).1) (old second earlier secondCharge)
        · obtain ⟨_, firstAt, firstCondo⟩ := all _ new
          obtain ⟨_, secondAt, secondCondo⟩ := all _ also
          exact ⟨firstAt.trans secondAt.symm, firstCondo.trans secondCondo.symm⟩
  · have kept : ∀ entry ∈ after.ledgerEntries, entry.type = .charge → entry ∈ db.ledgerEntries := by
      intro entry mem charge
      rw [appended] at mem
      exact (mem_appendPostings mem).resolve_right fun new => none _ new charge
    constructor
    · intro entry mem charge
      exact stays (before.invoiced entry (kept entry mem charge) charge)
    · intro first firstIn second secondIn firstCharge secondCharge
      exact before.together first (kept first firstIn firstCharge) second (kept second secondIn secondCharge)
        firstCharge secondCharge

theorem codeTotal_row (draft : InvoiceDraft) (now : Instant) (id : Id) (fund : LedgerFund) :
    codeTotal (draft.row now id).lines fund =
      sumBy (fun line => if fundOfCode line.code = fund then stored line.amount else 0) draft.lines := by
  refine sumBy_mapIdx _ _ _ ?_ draft.lines
  exact fun _ _ => rfl

theorem Commit.chargedByCode (commit : Commit db change after) (wf : WellFormed db)
    (byCode : change.ByCode) (before : ChargedByCode db) : ChargedByCode after := by
  intro row mem fund
  rcases commit.chargeSum wf (fun id => chargedIn_counts id fund) mem with
    ⟨old, found, same, kept⟩ | ⟨draft, now, rfl, new, dated, actorUserId, sum⟩
  · rw [kept, same.lines, before old found]
  · subst new
    rw [sum, codeTotal_row]
    refine (sumBy_chargedIn dated draft db.nextId actorUserId fund).trans (sumBy_congr fun line listed => ?_)
    rw [inChargedFund, byCode line listed]

def BillsByCode (db : Db) (request : Request) : Prop :=
  ∀ draft ∈ request.drafts db, ∀ line ∈ draft.lines, line.chargedFund = fundOfCode line.code

variable {request : Request}

theorem Arises.byCode {env : Env} (arises : Arises env db request change) (bills : BillsByCode db request) :
    change.ByCode := by
  cases change with
  | issued draft => exact bills draft arises
  | _ => trivial

theorem movement_charges (wf : WellFormed db) (placed : ChargesTogether db) {ids : List Id}
    (charged : ∀ id, id ∈ ids ↔ ∃ entry ∈ periodEntries db condoId start stop,
      entry.type = .charge ∧ entry.source = .invoice id) (fund : LedgerFund) :
    movement db condoId (typedIn .charge start stop) fund = sumBy (fun invoice =>
      if invoice.id ∈ ids then ledgerSum (chargedIn invoice.id fund) db.ledgerEntries else 0) db.invoices := by
  have each : ∀ invoice : Invoice, (if invoice.id ∈ ids then
      ledgerSum (chargedIn invoice.id fund) db.ledgerEntries else 0) = sumBy (fun entry =>
        if invoice.id ∈ ids then chargedIn invoice.id fund entry.toLedgerPosting else 0) db.ledgerEntries := by
    intro invoice
    split
    · rfl
    · exact (sumBy_zero _ fun _ _ => rfl).symm
  simp only [each]
  rw [sumBy_comm]
  refine sumBy_congr fun entry mem => ?_
  by_cases charge : entry.type = .charge
  · obtain ⟨invoice, found, source⟩ := placed.invoiced entry mem charge
    have own : ∀ other : Invoice, (if other.id ∈ ids then chargedIn other.id fund entry.toLedgerPosting else 0) =
        if other.id = invoice.id then
          (if other.id ∈ ids then chargedIn other.id fund entry.toLedgerPosting else 0) else 0 := by
      intro other
      by_cases same : other.id = invoice.id
      · rw [if_pos same]
      · have ne : LedgerSource.invoice invoice.id ≠ .invoice other.id := fun equal =>
          same (LedgerSource.invoice.inj equal).symm
        simp [chargedIn, source, ne]
    have inside : invoice.id ∈ ids ↔ entry.condoId = condoId ∧ inPeriod start stop entry := by
      rw [charged]
      constructor
      · rintro ⟨other, listed, otherCharge, sameSource⟩
        obtain ⟨present, ⟨condo, _⟩, dated⟩ := mem_periodEntries.mp listed
        -- the other charges of the invoice have the same date
        obtain ⟨date, home⟩ := placed.together entry mem other present charge otherCharge
          (source.trans sameSource.symm)
        refine ⟨home.trans condo, ?_⟩
        rwa [inPeriod, date]
      · rintro ⟨condo, dated⟩
        exact ⟨entry, mem_periodEntries.mpr ⟨mem, ⟨condo, .inr charge⟩, dated⟩, charge, source⟩
    rw [sumBy_congr fun other _ => own other, sumBy_own _ wf.invoiceIds.distinct found]
    simp only [inside, typedIn, chargedIn, charge, source]
    by_cases condo : entry.condoId = condoId
    · by_cases dated : inPeriod start stop entry <;> simp [condo, dated]
    · simp [condo]
  · have none : ∀ invoice : Invoice,
        (if invoice.id ∈ ids then chargedIn invoice.id fund entry.toLedgerPosting else 0) = 0 := by
      simp [chargedIn, charge]
    simp only [none]
    rw [sumBy_zero _ fun _ _ => rfl]
    simp [typedIn, charge]

theorem byCategory_charges (memo : LedgerEntry → Option String) (wf : WellFormed db)
    (placed : ChargesTogether db) (byCode : ChargedByCode db) (fund : LedgerFund) :
    sumBy IncomeExpenseCategoryRow.charges
        ((incomeExpense memo db condoId start stop).byCategory.filter fun row => decide (row.fund = fund)) =
      movement db condoId (typedIn .charge start stop) fund := by
  rw [sumBy_byCategory fun _ _ => rfl, chargedLines_sum]
  have paid : sumBy (fun entry => if entry.fund = fund then (paymentCategory memo entry).charges else 0)
      ((periodEntries db condoId start stop).filter fun entry => decide (entry.type = .payment)) = 0 :=
    sumBy_zero _ fun entry _ => by simp [paymentCategory]
  rw [paid, add_zero, movement_charges wf placed fun id => ?_]
  · refine sumBy_congr fun invoice found => ?_
    rw [byCode invoice found fund]
    rfl
  · rw [mem_chargeInvoiceIds]
    simp only [not_mem_nil, false_or]
    refine exists_congr fun entry => and_congr_right fun mem => and_congr_left fun _ => ?_
    rcases (mem_periodEntries.mp mem).2.1.2 with paid | charge
    · simp [paid]
    · simp [charge]

theorem byCategory_collections (memo : LedgerEntry → Option String) (fund : LedgerFund) :
    sumBy IncomeExpenseCategoryRow.collections
        ((incomeExpense memo db condoId start stop).byCategory.filter fun row => decide (row.fund = fund)) =
      movement db condoId (typedIn .payment start stop) fund := by
  rw [sumBy_byCategory fun _ _ => rfl, ← sumBy_periodEntries (.inl rfl), sumBy_filter]
  have charged : sumBy (fun line => if fundOfCode line.code = fund then (chargeCategory line).collections else 0)
      (chargedLines db ((periodEntries db condoId start stop).foldl periodStep
        ⟨fun _ => 0, fun _ => 0, []⟩).chargeInvoiceIds) = 0 :=
    sumBy_zero _ fun line _ => by simp [chargeCategory]
  rw [charged, zero_add]
  refine sumBy_congr fun entry _ => ?_
  by_cases paid : entry.type = .payment <;> simp [paid, paymentCategory]

theorem sumBy_matchesFund {Row : Type*} (fundOf : Row → LedgerFund) (value : Row → ℤ) (rows : List Row) :
    sumBy (fun fund => sumBy (fun row => if matchesFund (some fund) (fundOf row) then value row else 0) rows)
        ledgerFunds =
      sumBy (fun row => if matchesFund none (fundOf row) then value row else 0) rows := by
  rw [sumBy_comm]
  refine sumBy_congr fun row _ => ?_
  cases fund : fundOf row <;> simp [ledgerFunds, matchesFund]

theorem sumBy_profitLossLines (label : String) (rows : List IncomeExpenseCategoryRow)
    (fundFilter : Option LedgerFund) (figure : IncomeExpenseCategoryRow → ℤ) (part : LedgerEntry → ℤ)
    (pick : LedgerEntry → Bool) (nonneg : ∀ entry, pick entry → 0 ≤ part entry) :
    sumBy (fun line => line.amount) (profitLossLines rows fundFilter figure label
      (sumBy part ((periodAdjustments db condoId start stop fundFilter).filter pick))) =
      sumBy (fun row => if matchesFund fundFilter row.fund then max 0 (figure row) else 0) rows +
      sumBy (fun entry => if matchesFund fundFilter entry.fund then
        (if (entry.condoId = condoId ∧ entry.type = .adjustment) ∧ inPeriod start stop entry ∧ pick entry then
          part entry else 0) else 0) db.ledgerEntries := by
  have owed := sumBy_nonneg part fun entry (mem : entry ∈ (periodAdjustments db condoId start stop fundFilter).filter
    pick) => nonneg entry (mem_filter.mp mem).2
  have others := lineIfOwed_total label (sumBy part ((periodAdjustments db condoId start stop fundFilter).filter pick))
  rw [max_eq_right owed] at others
  rw [profitLossLines, sumBy_perm _ (perm_insertionSort _ _), sumBy_append, sumBy_map, sumBy_map, others,
    sumBy_filter, periodAdjustments, filter_filter, sumBy_filter]
  congr 1
  · refine sumBy_congr fun row _ => ?_
    cases matchesFund fundFilter row.fund with
    | false => rfl
    | true =>
      by_cases pos : 0 < figure row
      · simp [pos, max_eq_right pos.le]
      · simp [pos, max_eq_left (not_lt.mp pos)]
  · refine sumBy_congr fun entry _ => ?_
    by_cases own : matchesFund fundFilter entry.fund
    · have wanted : ∀ fund ∈ fundFilter, entry.fund = fund := of_decide_eq_true own
      simp only [own, if_true, Bool.and_eq_true, decide_eq_true_eq]
      refine if_congr ?_ rfl rfl
      tauto
    · refine (if_neg fun kept => own (decide_eq_true ?_)).trans (if_neg own).symm
      simp only [Bool.and_eq_true, decide_eq_true_eq] at kept
      exact kept.2.1.2.2

theorem profitLoss_income (memo : LedgerEntry → Option String) (db : Db) (condoId : Id) (start stop : Instant) :
    sumBy (fun fund => (profitLoss memo db condoId start stop (some fund)).income.total) ledgerFunds =
      (profitLoss memo db condoId start stop none).income.total := by
  have nonneg : ∀ entry : LedgerEntry, decide (0 < entry.amount) → 0 ≤ entry.amount := fun entry pick =>
    le_of_lt (of_decide_eq_true pick)
  simp only [profitLoss, profitLossSection, mathRound_intCast]
  simp only [sumBy_profitLossLines _ _ _ _ _ _ nonneg, sumBy_add, sumBy_matchesFund]

theorem profitLoss_expenses (memo : LedgerEntry → Option String) (db : Db) (condoId : Id) (start stop : Instant) :
    sumBy (fun fund => (profitLoss memo db condoId start stop (some fund)).expenses.total) ledgerFunds =
      (profitLoss memo db condoId start stop none).expenses.total := by
  have nonneg : ∀ entry : LedgerEntry, decide (entry.amount < 0) → 0 ≤ |entry.amount| := fun entry _ => abs_nonneg _
  simp only [profitLoss, profitLossSection, mathRound_intCast]
  simp only [sumBy_profitLossLines _ _ _ _ _ _ nonneg, sumBy_add, sumBy_matchesFund]

/-- The categories of each fund add up to its figures, these are those of the summary, and the statements
of the funds add up to the statement of all of them. -/
structure ReportsAddUp (memo : LedgerEntry → Option String) (db : Db) (condoId : Id) (start stop : Instant) :
    Prop where
  categories : ∀ row ∈ (incomeExpense memo db condoId start stop).byFund,
    let own := (incomeExpense memo db condoId start stop).byCategory.filter fun category =>
      decide (category.fund = row.fund)
    sumBy IncomeExpenseCategoryRow.charges own = row.charges ∧
      sumBy IncomeExpenseCategoryRow.collections own = row.collections
  summary : ((incomeExpense memo db condoId start stop).byFund.map fun row =>
      (row.fund, row.charges, row.collections)) =
    (fundSummary db condoId start stop).funds.map fun row => (row.fund, row.chargesIssued, row.collections)
  income : sumBy (fun fund => (profitLoss memo db condoId start stop (some fund)).income.total) ledgerFunds =
    (profitLoss memo db condoId start stop none).income.total
  expenses : sumBy (fun fund => (profitLoss memo db condoId start stop (some fund)).expenses.total) ledgerFunds =
    (profitLoss memo db condoId start stop none).expenses.total

structure ChargesSound (db : Db) : Prop where
  wellFormed : WellFormed db
  placed : ChargesTogether db
  byCode : ChargedByCode db

theorem ChargesSound.fresh (fresh : Fresh db) : ChargesSound db where
  wellFormed := .fresh fresh
  placed := ⟨by simp [fresh.ledgerEntries], by simp [fresh.ledgerEntries]⟩
  byCode := by simp [ChargedByCode, fresh.invoices]

theorem ChargesSound.step {env : Env} (sound : ChargesSound db) (bills : BillsByCode db request)
    (done : Completes env db request after) : ChargesSound after := by
  obtain ⟨changes, refines⟩ := request.refines sound.wellFormed done
  refine refines.run.invariant_on Change.ByCode ?_ sound fun change mem =>
    (refines.arises change mem).byCode bills
  intro before change after byCode sound commit
  exact ⟨commit.wellFormed sound.wellFormed, commit.chargesTogether sound.wellFormed sound.placed,
    commit.chargedByCode sound.wellFormed byCode sound.byCode⟩

theorem ChargesSound.reports (sound : ChargesSound db) (memo : LedgerEntry → Option String) (condoId : Id)
    (start stop : Instant) : ReportsAddUp memo db condoId start stop where
  categories := by
    rw [incomeExpense_byFund]
    simp only [forall_mem_map]
    intro fund _
    exact ⟨byCategory_charges memo sound.wellFormed sound.placed sound.byCode fund, byCategory_collections memo fund⟩
  summary := by
    rw [incomeExpense_byFund, fundSummary_funds]
    rfl
  income := profitLoss_income memo db condoId start stop
  expenses := profitLoss_expenses memo db condoId start stop

/-- Where no line is billed to another fund than that of its code, the reports add up. -/
theorem reports_add_up {env : Env} {origin : Db} {log : List Request} (fresh : Fresh origin)
    (run : Run (Guarded (fun before request => BillsByCode before request) (Completes env)) origin log db)
    (memo : LedgerEntry → Option String) (condoId : Id) (start stop : Instant) :
    ReportsAddUp memo db condoId start stop := by
  have sound : ChargesSound db := run.invariant (fun _ _ _ sound move => sound.step move.1 move.2) (.fresh fresh)
  exact sound.reports memo condoId start stop

theorem reports_add_up_maintenance : ∃ db, ReportsAddUp (fun _ => none) db 5 0 10 ∧
    (profitLoss (fun _ => none) db 5 0 10 none).expenses.total = 10000 := by
  have bills : BillsByCode Sample.rated ⟨0, .generateRecurring (some Sample.admin) 5 Sample.monthly ⟨false, none⟩⟩ := by
    unfold BillsByCode
    decide +kernel
  have ends : (Request.run Sample.env Sample.rated
      ⟨0, .generateRecurring (some Sample.admin) 5 Sample.monthly ⟨false, none⟩⟩).map (fun db =>
        (profitLoss (fun _ => none) db 5 0 10 none).expenses.total) = .ok 10000 := by
    decide +kernel
  obtain ⟨db, done, total⟩ := map_eq_ok.mp ends
  exact ⟨db, reports_add_up Sample.rated_fresh (.single ⟨bills, done⟩) (fun _ => none) 5 0 10, total⟩

theorem reports_misplace_lift : ¬ ∀ (memo : LedgerEntry → Option String) (env : Env) (db : Db) (condoId : Id)
    (start stop : Instant), Reachable env db → ReportsAddUp memo db condoId start stop := by
  intro adds
  let bill : Request := ⟨0, .generateRecurring (some Sample.admin) 5 Sample.monthly ⟨false, none⟩⟩
  have ends : (bill.run Sample.env Sample.withLift).map (fun db =>
      let report := incomeExpense (fun _ => none) db 5 0 10
      decide (⟨.sinkingFund, 0, 5000⟩ ∈ report.byFund ∧ sumBy IncomeExpenseCategoryRow.charges
        (report.byCategory.filter fun category => decide (category.fund = .sinkingFund)) = 0)) = .ok true := by
    decide +kernel
  obtain ⟨db, done, holds⟩ := map_eq_ok.mp ends
  obtain ⟨listed, none⟩ := of_decide_eq_true holds
  have fresh : Fresh Sample.withLift := ⟨by decide, rfl, rfl, rfl, rfl, rfl, rfl, rfl⟩
  have sums := (adds (fun _ => Option.none) Sample.env db 5 0 10 ⟨_, _, fresh, .single done⟩).categories _ listed
  cases none.symm.trans sums.1

end SmartResidence.Billing
