import SmartResidence.Access.ArrearsViews

/-!
# The views of the arrears

The ledger and the access restrictions add the same unpaid invoices up, each in a loop of its own. None of the sums
depends on the order in which the rows are read.
-/

namespace SmartResidence.Access

open Foundation Billing Settings List

def unpaidOf (db : AccessDb) (condoId : Id) : List ArrearsInvoice := (arrearsInvoices db condoId).filter ArrearsInvoice.owed

def AccessDb.withInvoices (db : AccessDb) (invoices : List ArrearsInvoice) : AccessDb := { db with invoices := invoices }

def unpaidOfUnit (db : AccessDb) (unitId : Id) : List ArrearsInvoice :=
  db.invoices.filter fun invoice => decide (invoice.unitId = unitId ∧ invoice.status ∈ arrearsStatuses) && invoice.owed

section

variable {db : AccessDb} {condoId unitId : Id} {invoice : ArrearsInvoice}

theorem unpaidOf_unit (own : ∀ invoice ∈ db.invoices, invoice.unitId = unitId → invoice.condoId = condoId) :
    (unpaidOf db condoId).filter (fun invoice => decide (invoice.unitId = unitId)) = unpaidOfUnit db unitId := by
  unfold unpaidOf arrearsInvoices
  rw [filter_filter, filter_filter]
  apply filter_congr
  intro invoice mem
  by_cases same : invoice.unitId = unitId
  · simp [same, own invoice mem same, Bool.and_comm]
  · simp [same]

theorem unpaidOf_perm {other : AccessDb} (same : other.invoices.Perm db.invoices) :
    (unpaidOf other condoId).Perm (unpaidOf db condoId) :=
  (same.filter _).filter _

end

/-! ## A unit's arrears -/

def UnitArrearsSnapshot.of (now : Instant) (unitId : Id) (invoices : List ArrearsInvoice) : UnitArrearsSnapshot where
  unitId := unitId
  outstanding := sumBy ArrearsInvoice.outstanding invoices
  oldestDueDate := (invoices.map ArrearsInvoice.dueDate).min?
  daysPastDue := (invoices.map ArrearsInvoice.dueDate).min?.elim 0 fun oldest => (now - oldest) / msPerDay

section

variable (now : Instant) {unitId : Id} {invoices others : List ArrearsInvoice}

variable {first : Instant}

theorem daysPastDue_le {now second : Instant} (before : first ≤ second) :
    (now - second) / msPerDay ≤ (now - first) / msPerDay := by
  apply Int.ediv_le_ediv (by decide)
  exact Int.sub_le_sub_left before now

variable {dates : List Instant}

theorem min?_append_singleton :
    (dates ++ [first]).min? = some (dates.min?.elim first fun oldest => min oldest first) := by
  cases dates with
  | nil => rfl
  | cons head rest =>
    rw [cons_append, List.min?_cons', foldl_append]
    rfl

theorem add_of (invoice : ArrearsInvoice) :
    (UnitArrearsSnapshot.of now unitId invoices).add now invoice = .of now unitId (invoices ++ [invoice]) := by
  unfold UnitArrearsSnapshot.add UnitArrearsSnapshot.of ArrearsInvoice.daysPastDue
  simp only [map_append, map_singleton, min?_append_singleton]
  cases (invoices.map ArrearsInvoice.dueDate).min? with
  | none => simp
  | some oldest =>
    by_cases older : invoice.dueDate < oldest
    · simp [older, min_eq_right older.le]
    · have since := not_lt.mp older
      simp [older, min_eq_left since, max_eq_left (daysPastDue_le since)]

theorem foldl_add : invoices.foldl (UnitArrearsSnapshot.add now) (.none unitId) = .of now unitId invoices := by
  induction invoices using List.reverseRecOn with
  | nil => rfl
  | append_singleton invoices invoice ih => rw [foldl_append, ih, foldl_cons, foldl_nil, add_of]

theorem min?_perm {others : List Instant} (same : dates.Perm others) : dates.min? = others.min? := by
  apply Option.ext
  intro date
  rw [List.min?_eq_some_iff, List.min?_eq_some_iff]
  simp only [same.mem_iff]

theorem of_perm (same : invoices.Perm others) : UnitArrearsSnapshot.of now unitId invoices = .of now unitId others := by
  unfold UnitArrearsSnapshot.of
  rw [sumBy_perm _ same, min?_perm (same.map _)]

theorem isLeast_min? {date : Instant} (found : dates.min? = some date) : IsLeast { date | date ∈ dates } date := by
  obtain ⟨mem, least⟩ := List.min?_eq_some_iff.mp found
  exact ⟨mem, fun other listed => least other listed⟩

theorem of_oldest (owes : invoices ≠ []) : ∃ oldest, (UnitArrearsSnapshot.of now unitId invoices).oldestDueDate = some oldest ∧
    IsLeast { date | ∃ invoice ∈ invoices, invoice.dueDate = date } oldest ∧
    IsGreatest { days | ∃ invoice ∈ invoices, invoice.daysPastDue now = days }
      (UnitArrearsSnapshot.of now unitId invoices).daysPastDue := by
  cases found : (invoices.map ArrearsInvoice.dueDate).min? with
  | none => exact absurd (map_eq_nil_iff.mp (List.min?_eq_none_iff.mp found)) owes
  | some oldest =>
    obtain ⟨listed, least⟩ := isLeast_min? found
    obtain ⟨invoice, mem, due⟩ := mem_map.mp listed
    have least : ∀ invoice ∈ invoices, oldest ≤ invoice.dueDate := fun invoice mem => least (mem_map_of_mem mem)
    refine ⟨oldest, found, ⟨⟨invoice, mem, due⟩, ?_⟩, ?_⟩
    · rintro date ⟨invoice, mem, rfl⟩
      exact least invoice mem
    · unfold UnitArrearsSnapshot.of
      rw [found]
      refine ⟨⟨invoice, mem, ?_⟩, ?_⟩
      · unfold ArrearsInvoice.daysPastDue
        rw [due]
        rfl
      · rintro days ⟨invoice, mem, rfl⟩
        exact daysPastDue_le (least invoice mem)

end

section

variable {now : Instant} {db : AccessDb} {condoId unitId : Id} {snap : UnitArrearsSnapshot}

theorem computeUnitArrears_eq : computeUnitArrears now db unitId = .of now unitId (unpaidOfUnit db unitId) := foldl_add now

theorem condoArrears_eq : condoArrears now db condoId =
    gathered ArrearsInvoice.unitId .none (UnitArrearsSnapshot.add now) (unpaidOf db condoId) := by
  unfold unpaidOf arrearsInvoices
  rw [filter_filter]
  simp only [Bool.and_comm]
  rfl

theorem snapshotOf_eq : snapshotOf (condoArrears now db condoId) unitId =
    .of now unitId ((unpaidOf db condoId).filter fun invoice => decide (invoice.unitId = unitId)) := by
  unfold snapshotOf
  rw [condoArrears_eq, lookup_gathered, foldl_add]

theorem condoArrears_entry {entry : Id × UnitArrearsSnapshot} (mem : entry ∈ condoArrears now db condoId) :
    entry.2 = .of now entry.1 ((unpaidOf db condoId).filter fun invoice => decide (invoice.unitId = entry.1)) := by
  have nodup : ((condoArrears now db condoId).map Prod.fst).Nodup := by
    exact nodup_gathered _ _ _ _
  rw [← snapshotOf_eq, snapshotOf, lookup_of_mem nodup mem, Option.getD_some]

theorem nodup_computeCondoArrears : ((computeCondoArrears now db condoId).map UnitArrearsSnapshot.unitId).Nodup := by
  have units : (computeCondoArrears now db condoId).map UnitArrearsSnapshot.unitId = (condoArrears now db condoId).map Prod.fst := by
    unfold computeCondoArrears
    rw [map_map]
    apply map_congr_left
    intro entry mem
    rw [Function.comp_apply, condoArrears_entry mem]
    rfl
  rw [units]
  exact nodup_gathered _ _ _ _

theorem mem_computeCondoArrears : snap ∈ computeCondoArrears now db condoId ↔
    (∃ invoice ∈ unpaidOf db condoId, invoice.unitId = snap.unitId) ∧
      snap = .of now snap.unitId ((unpaidOf db condoId).filter fun invoice => decide (invoice.unitId = snap.unitId)) := by
  have keys : ∀ {unitId}, unitId ∈ (condoArrears now db condoId).map Prod.fst ↔ ∃ invoice ∈ unpaidOf db condoId, invoice.unitId = unitId := by
    intro unitId
    rw [condoArrears_eq, mem_keys_gathered, mem_map]
  unfold computeCondoArrears
  rw [mem_map]
  constructor
  · rintro ⟨⟨unitId, snap⟩, mem, rfl⟩
    have known : snap = _ := condoArrears_entry mem
    have same : snap.unitId = unitId := by rw [known]; rfl
    rw [same]
    exact ⟨keys.mp (mem_map_of_mem mem), known⟩
  · rintro ⟨owes, known⟩
    obtain ⟨⟨unitId, other⟩, mem, same⟩ := mem_map.mp (keys.mpr owes)
    obtain rfl : unitId = snap.unitId := same
    exact ⟨_, mem, (condoArrears_entry mem).trans known.symm⟩

theorem sumBy_computeCondoArrears : sumBy UnitArrearsSnapshot.outstanding (computeCondoArrears now db condoId) =
    sumBy ArrearsInvoice.outstanding (unpaidOf db condoId) := by
  unfold computeCondoArrears
  rw [sumBy_map, condoArrears_eq]
  exact sum_gathered _ _ _ _ UnitArrearsSnapshot.outstanding ArrearsInvoice.outstanding (fun _ => rfl) fun _ _ => rfl

end

section

variable {now : Instant} {db : AccessDb} {condoId : Id}

def agedInvoices (now : Instant) (bucket : AgeBucket) (invoices : List ArrearsInvoice) : List ArrearsInvoice :=
  invoices.filter fun invoice => decide (ageBucket (invoice.daysPastDue now) = bucket)

theorem note_foldl (invoices : List ArrearsInvoice) (totals : AgingTotals) :
    invoices.foldl (AgingTotals.note now) totals =
      { amount := fun bucket => totals.amount bucket +
          sumBy ArrearsInvoice.outstanding (agedInvoices now bucket (invoices.filter ArrearsInvoice.owed))
        count := fun bucket => totals.count bucket + (agedInvoices now bucket (invoices.filter ArrearsInvoice.owed)).length
        totalOutstanding := totals.totalOutstanding + sumBy ArrearsInvoice.outstanding (invoices.filter ArrearsInvoice.owed)
        invoicesInArrears := totals.invoicesInArrears + (invoices.filter ArrearsInvoice.owed).length
        unitsInArrears := totals.unitsInArrears ∪ ((invoices.filter ArrearsInvoice.owed).map ArrearsInvoice.unitId).toFinset } := by
  induction invoices generalizing totals with
  | nil => simp [agedInvoices]
  | cons invoice invoices ih =>
    rw [foldl_cons, ih]
    unfold AgingTotals.note
    by_cases owed : invoice.owed = true
    · rw [if_neg (not_not.mpr owed), filter_cons_of_pos owed]
      congr 1
      · funext bucket
        by_cases same : ageBucket (invoice.daysPastDue now) = bucket
        · subst same
          simp [agedInvoices, add_assoc]
        · simp [agedInvoices, same, Function.update_of_ne (Ne.symm same)]
      · funext bucket
        by_cases same : ageBucket (invoice.daysPastDue now) = bucket
        · subst same
          simp only [agedInvoices, Function.update_self, filter_cons, decide_true, if_true, length_cons]
          omega
        · simp [agedInvoices, same, Function.update_of_ne (Ne.symm same)]
      · rw [sumBy_cons, add_assoc]
      · rw [length_cons, add_assoc, add_comm 1]
      · simp
    · rw [if_pos owed, filter_cons_of_neg owed]

theorem arrearsAging_eq : arrearsAging now db condoId =
    { buckets := AgeBucket.all.map fun bucket =>
        let aged := agedInvoices now bucket (unpaidOf db condoId)
        ⟨bucket, sumBy ArrearsInvoice.outstanding aged, aged.length⟩
      totalOutstanding := sumBy ArrearsInvoice.outstanding (unpaidOf db condoId)
      unitsInArrears := ((unpaidOf db condoId).map ArrearsInvoice.unitId).toFinset.card
      invoicesInArrears := (unpaidOf db condoId).length } := by
  unfold arrearsAging
  simp only [note_foldl, zero_add]
  rfl

end

section

variable (letters : LetterCase) (collate : String → String → Bool) (now : Instant) (book : ArrearsBook) (condoId : Id)

theorem exportRows_perm : (arrearsExportRows letters collate now book condoId).Perm
    ((unpaidOf book.toAccessDb condoId).map (arrearsExportRow letters now book)) := by
  have rows : arrearsExportRows letters collate now book condoId =
      (((arrearsInvoices book.toAccessDb condoId).mergeSort (exportedBefore collate book)).filter ArrearsInvoice.owed).map
        (arrearsExportRow letters now book) := by
    unfold arrearsExportRows
    rw [← filterMap_eq_map, filterMap_filter]
    congr
    funext invoice
    cases invoice.owed <;> rfl
  rw [rows]
  exact ((mergeSort_perm _ _).filter _).map _

end

theorem ageBucket_max (days : ℤ) : ageBucket (max 0 days) = ageBucket days := by
  unfold ageBucket
  by_cases early : days ≤ 0
  · rw [if_pos (by omega), if_pos (by omega)]
  · rw [max_eq_right (by omega)]

/-! ## All views at one instant -/

def debtors (db : AccessDb) (condoId : Id) : Finset Id := ((unpaidOf db condoId).map ArrearsInvoice.unitId).toFinset

def bucketsOf (rows : List ArrearsExportRow) : List ArrearsAgingBucket :=
  AgeBucket.all.map fun bucket =>
    let own := rows.filter fun row => decide (row.bucket = bucket)
    ⟨bucket, sumBy ArrearsExportRow.outstanding own, own.length⟩

structure ReportAgrees (labelOf : Id → String) (owing : Finset Id) (aging : ArrearsAging) (rows : List ArrearsExportRow) :
    Prop where
  total : aging.totalOutstanding = sumBy ArrearsExportRow.outstanding rows
  invoices : aging.invoicesInArrears = rows.length
  buckets : aging.buckets = bucketsOf rows
  units : aging.unitsInArrears = owing.card
  labels : (rows.map ArrearsExportRow.unitLabel).toFinset = owing.image labelOf
  distinct : aging.unitsInArrears = (rows.map ArrearsExportRow.unitLabel).toFinset.card ↔ Set.InjOn labelOf owing

structure UnitAgrees (now : Instant) (unitId : Id) (unpaid : List ArrearsInvoice) (entries : List UnitArrearsSnapshot)
    (alone : UnitArrearsSnapshot) : Prop where
  outstanding : alone.outstanding = sumBy ArrearsInvoice.outstanding unpaid
  oldest : unpaid ≠ [] → ∃ oldest, alone.oldestDueDate = some oldest ∧
    IsLeast { date | ∃ invoice ∈ unpaid, invoice.dueDate = date } oldest ∧
    IsGreatest { days | ∃ invoice ∈ unpaid, invoice.daysPastDue now = days } alone.daysPastDue
  listed : unpaid ≠ [] → alone ∈ entries
  only : ∀ snap ∈ entries, snap.unitId = unitId → unpaid ≠ [] ∧ snap = alone
  paid : unpaid = [] → alone = .none unitId

section

variable (letters : LetterCase) (collate : String → String → Bool) (now : Instant) {book : ArrearsBook} (condoId : Id) {unitId : Id}

theorem report_agrees {exported : List ArrearsInvoice} (same : exported.Perm book.invoices) :
    ReportAgrees (fun unitId => formatCompactUnitLabel letters (book.unitLabelOf unitId)) (debtors book.toAccessDb condoId)
      (arrearsAging now book.toAccessDb condoId)
      (arrearsExportRows letters collate now { book with invoices := exported } condoId) := by
  have rows := (exportRows_perm letters collate now { book with invoices := exported } condoId).trans ((unpaidOf_perm same).map _)
  generalize arrearsExportRows letters collate now { book with invoices := exported } condoId = rows' at rows
  have labels : (rows'.map ArrearsExportRow.unitLabel).toFinset =
      (debtors book.toAccessDb condoId).image fun unitId => formatCompactUnitLabel letters (book.unitLabelOf unitId) := by
    rw [toFinset_eq_of_perm _ _ (rows.map _)]
    ext label
    simp [debtors, arrearsExportRow]
  have aged : ∀ bucket, (rows'.filter fun row => decide (row.bucket = bucket)).Perm
      ((agedInvoices now bucket (unpaidOf book.toAccessDb condoId)).map
        (arrearsExportRow letters now { book with invoices := exported })) := by
    intro bucket
    refine (rows.filter _).trans (List.Perm.of_eq ?_)
    rw [filter_map]
    congr 1
    apply filter_congr
    simp [arrearsExportRow, ageBucket_max]
  rw [arrearsAging_eq]
  constructor
  · rw [sumBy_perm _ rows, sumBy_map]
    rfl
  · rw [rows.length_eq, length_map]
  · apply map_congr_left
    intro bucket _
    simp only [sumBy_perm _ (aged bucket), sumBy_map, (aged bucket).length_eq, length_map]
    rfl
  · rfl
  · exact labels
  · rw [labels]
    exact eq_comm.trans Finset.card_image_iff

theorem unit_agrees {grouped single : List ArrearsInvoice} (grouping : grouped.Perm book.invoices)
    (reading : single.Perm book.invoices)
    (own : ∀ invoice ∈ book.invoices, invoice.unitId = unitId → invoice.condoId = condoId) :
    UnitAgrees now unitId (unpaidOfUnit book.toAccessDb unitId)
      (computeCondoArrears now (book.toAccessDb.withInvoices grouped) condoId)
      (computeUnitArrears now (book.toAccessDb.withInvoices single) unitId) := by
  have alone : computeUnitArrears now (book.toAccessDb.withInvoices single) unitId =
      .of now unitId (unpaidOfUnit book.toAccessDb unitId) := by
    rw [computeUnitArrears_eq]
    exact of_perm now (reading.filter _)
  have entry : UnitArrearsSnapshot.of now unitId ((unpaidOf (book.toAccessDb.withInvoices grouped) condoId).filter
      fun invoice => decide (invoice.unitId = unitId)) = .of now unitId (unpaidOfUnit book.toAccessDb unitId) := by
    rw [← unpaidOf_unit own]
    exact of_perm now ((unpaidOf_perm grouping).filter _)
  have owes : (∃ invoice ∈ unpaidOf (book.toAccessDb.withInvoices grouped) condoId, invoice.unitId = unitId) ↔
      unpaidOfUnit book.toAccessDb unitId ≠ [] := by
    rw [← unpaidOf_unit own]
    have same : (unpaidOf (book.toAccessDb.withInvoices grouped) condoId).Perm (unpaidOf book.toAccessDb condoId) :=
      unpaidOf_perm grouping
    simp [same.mem_iff]
  rw [alone]
  constructor
  · rfl
  · exact of_oldest now
  · intro some
    exact mem_computeCondoArrears.mpr ⟨owes.mpr some, entry.symm⟩
  · rintro snap mem rfl
    obtain ⟨some, known⟩ := mem_computeCondoArrears.mp mem
    exact ⟨owes.mp some, known.trans entry⟩
  · intro none
    rw [none]
    rfl

end

namespace Sample

def asciiCase : LetterCase := ⟨fun text => String.ofList (text.toList.map Char.toLower), fun one two => one.toLower = two.toLower⟩

def twins : ArrearsBook where
  condos := []
  units := [⟨1, 1⟩, ⟨2, 1⟩]
  ownerships := []
  tenancies := []
  invoices := [⟨1, 1, 1, .issued, 15000, 0, 0⟩, ⟨2, 1, 2, .issued, 10000, 0, 0⟩]
  restrictions := []
  restrictions_unique := List.nodup_nil
  number id := "INV-" ++ toString id
  unitLabelOf unitId := if unitId = 1 then ⟨some "04-3", some "A"⟩ else ⟨some "A-04-3", some "A"⟩

theorem twins_label : formatCompactUnitLabel asciiCase (twins.unitLabelOf 1) = formatCompactUnitLabel asciiCase (twins.unitLabelOf 2) := by
  decide

end Sample

end SmartResidence.Access
