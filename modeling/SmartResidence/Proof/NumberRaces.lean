import SmartResidence.Proof.NumberTexts

/-!
# Numbers issued by several transactions at once
-/

namespace SmartResidence.Billing

open Foundation Foundation.Discipline List

variable {Owner : Type} {first db before now after : NumberDb Owner} {kind : NumberKind} {row : NumberedRow Owner}
  {key : SequenceKey} {who : Owner}

def NumberedRow.Fits (row : NumberedRow Owner) (key : SequenceKey) : Prop :=
  row.condoId = key.condoId ∧ ∃ (stem : String) (n : ℕ), row.number = numberText stem key.year n

def NumberedRow.HandedOut (row : NumberedRow Owner) (kind : NumberKind) (last : SequenceKey → Option ℤ) :
    Prop :=
  ∃ (stem : String) (year n : ℕ) (most : ℤ), row.number = numberText stem year n ∧
    last ⟨row.condoId, kind, year⟩ = some most ∧ n ≤ most

def NumberedRow.indexed (row : NumberedRow Owner) : Id × String := (row.condoId, row.number)

def Distinct (db : NumberDb Owner) : Prop := ∀ kind, ((db.rows kind).map NumberedRow.indexed).Nodup

structure NumbersGrow (before after : NumberDb Owner) : Prop where
  stay : ∀ kind, ∀ row ∈ before.rows kind, row ∈ after.rows kind
  new : ∀ kind, ∀ row ∈ after.rows kind, row ∈ before.rows kind ∨ row.HandedOut kind after.lastNumber
  last : ∀ key last, before.lastNumber key = some last →
    ∃ later, after.lastNumber key = some later ∧ last ≤ later

def NumberKept : NumberLock → NumberDb Owner → NumberDb Owner → Prop
  | .sequence key, before, after => after.lastNumber key = before.lastNumber key ∧
      ∀ row ∈ after.rows key.kind, row.Fits key → row ∈ before.rows key.kind
  | .number _ _ _, _, _ => True

theorem NumberedRow.HandedOut.later {before after : SequenceKey → Option ℤ} (handed : row.HandedOut kind before)
    (last : ∀ key last, before key = some last → ∃ later, after key = some later ∧ last ≤ later) :
    row.HandedOut kind after := by
  obtain ⟨stem, year, n, most, number, known, le⟩ := handed
  obtain ⟨later, found, grown⟩ := last _ most known
  exact ⟨stem, year, n, later, number, found, le.trans grown⟩

theorem NumbersGrow.refl (db : NumberDb Owner) : NumbersGrow db db where
  stay := fun _ _ mem => mem
  new := fun _ _ mem => .inl mem
  last := fun _ last known => ⟨last, known, le_rfl⟩

theorem NumbersGrow.trans {first second third : NumberDb Owner} (one : NumbersGrow first second)
    (two : NumbersGrow second third) : NumbersGrow first third := by
  refine ⟨fun kind row mem => two.stay kind row (one.stay kind row mem), fun kind row mem => ?_,
    fun key last known => ?_⟩
  · rcases two.new kind row mem with earlier | handed
    · exact (one.new kind row earlier).imp_right fun handed => handed.later two.last
    · exact .inr handed
  · obtain ⟨middle, found, le⟩ := one.last key last known
    obtain ⟨later, also, grown⟩ := two.last key middle found
    exact ⟨later, also, le.trans grown⟩

structure NumbersKept (first db : NumberDb Owner) : Prop where
  distinct : Distinct db
  grown : NumbersGrow first db

def numberDiscipline (first : NumberDb Owner) : Discipline (NumberDb Owner) NumberLock where
  Inv := NumbersKept first
  Grows := NumbersGrow
  Same := NumberKept
  grows_refl := .refl
  grows_trans := .trans
  same_refl lock db := by
    cases lock with
    | sequence key => exact ⟨rfl, fun _ member _ => member⟩
    | number => exact trivial
  same_trans {lock first second third} one two := by
    cases lock with
    | sequence key =>
        exact ⟨two.1.trans one.1, fun row member fits => one.2 row (two.2 row member fits) fits⟩
    | number => exact trivial

structure Journal (Owner : Type) where
  rows : NumberKind → List (NumberedRow Owner)
  last : SequenceKey → Option ℤ

namespace Journal

variable (journal : Journal Owner)

def empty : Journal Owner := ⟨fun _ => [], fun _ => none⟩

def write (db : NumberDb Owner) : NumberDb Owner where
  invoices := db.invoices ++ journal.rows .invoice
  receipts := db.receipts ++ journal.rows .receipt
  lastNumber key := (journal.last key).or (db.lastNumber key)

def setLast (key : SequenceKey) (last : ℤ) : Journal Owner :=
  { journal with last := Function.update journal.last key (some last) }

def insert (kind : NumberKind) (row : NumberedRow Owner) : Journal Owner :=
  { journal with rows := Function.update journal.rows kind (journal.rows kind ++ [row]) }

variable {journal}

theorem write_empty : (empty : Journal Owner).write db = db := by
  simp [write, empty]

theorem write_rows (db : NumberDb Owner) (kind : NumberKind) : (journal.write db).rows kind = db.rows kind ++ journal.rows kind := by
  cases kind with
  | invoice => rfl
  | receipt => rfl

theorem write_last {last : ℤ} (written : journal.last key = some last) :
    (journal.write db).lastNumber key = some last := by
  simp only [write, written, Option.some_or]

theorem write_setLast (last : ℤ) : (journal.setLast key last).write db = (journal.write db).setLast key last := by
  have sequences : ∀ other, ((journal.setLast key last).write db).lastNumber other =
      ((journal.write db).setLast key last).lastNumber other := by
    intro other
    simp only [write, setLast, NumberDb.setLast, Function.update_apply]
    split <;> rfl
  simp only [write, NumberDb.setLast, NumberDb.mk.injEq]
  exact ⟨rfl, rfl, funext sequences⟩

theorem write_insert (row : NumberedRow Owner) :
    (journal.insert kind row).write db = (journal.write db).insert kind row := by
  cases kind with
  | invoice => simp [write, insert, NumberDb.insert]
  | receipt => simp [write, insert, NumberDb.insert]

theorem rows_insert_self (row : NumberedRow Owner) :
    (journal.insert kind row).rows kind = journal.rows kind ++ [row] := Function.update_self ..

variable {other : NumberKind}

theorem rows_insert_of_ne (row : NumberedRow Owner) (ne : other ≠ kind) :
    (journal.insert kind row).rows other = journal.rows other := Function.update_of_ne ne ..

theorem mem_insert {row one : NumberedRow Owner} {kind : NumberKind} (mem : one ∈ (journal.insert kind row).rows other) :
    one ∈ journal.rows other ∨ other = kind ∧ one = row := by
  by_cases same : other = kind
  · subst same
    rw [rows_insert_self, mem_append, mem_singleton] at mem
    exact mem.imp_right fun last => ⟨rfl, last⟩
  · rw [rows_insert_of_ne row same] at mem
    exact .inl mem

variable (journal) in
theorem last_setLast_self (key : SequenceKey) (last : ℤ) : (journal.setLast key last).last key = some last := Function.update_self ..

theorem last_setLast_of_ne (last : ℤ) {other : SequenceKey} (ne : other ≠ key) :
    (journal.setLast key last).last other = journal.last other := Function.update_of_ne ne ..

theorem rows_setLast (last : ℤ) : (journal.setLast key last).rows = journal.rows := rfl

end Journal

variable {value : Option ℚ}

theorem intArgument_eq_ok {n : ℤ} (argument : intArgument value = .ok n) : value = some (n : ℚ) ∧ n < 2 ^ 31 := by
  unfold intArgument at argument
  split at argument
  · cases argument
  · split at argument
    · rename_i whole
      cases argument
      exact ⟨congrArg some (Rat.den_eq_one_iff _ |>.mp whole.1).symm, whole.2.2⟩
    · cases argument

theorem intArgument_eq_error {failure : NumberError} (argument : intArgument value = .error failure) :
    failure = .notInt := by
  unfold intArgument at argument
  split at argument
  · exact (Except.error.inj argument).symm
  · split at argument
    · cases argument
    · exact (Except.error.inj argument).symm

section

variable {existingMax : ℚ} {created : ℤ} (argument : intArgument (double (existingMax + 1)) = .ok created)
include argument

theorem created_above {m : ℕ} (small : m < 2 ^ 53) (le : m ≤ existingMax) : m < created := by
  have next : ((m + 1 : ℕ) : ℚ) ≤ existingMax + 1 := by
    push_cast
    linarith
  have above := le_double (by omega) next (intArgument_eq_ok argument).1
  have cast : ((m + 1 : ℕ) : ℤ) ≤ created := by exact_mod_cast above
  omega

theorem lt_created (nonneg : 0 ≤ existingMax) : existingMax < created := by
  by_contra above
  have pos := created_above argument (m := 0) (by norm_num) (by exact_mod_cast nonneg)
  have small := (intArgument_eq_ok argument).2
  lift created to ℕ using by omega
  exact lt_irrefl _ (created_above argument (by omega) (by exact_mod_cast not_lt.mp above))

end

/-! ## What a transaction has done to the numbers -/

structure Works (first : NumberDb Owner) (who : Owner) (journal : Journal Owner)
    (standing : Standing (NumberDb Owner) NumberLock) : Prop where
  pending : ∀ now, (numberDiscipline first).Rely standing.held standing.seen now →
    standing.pending now = journal.write now
  locked : ∀ key last, journal.last key = some last → .sequence key ∈ standing.held
  above : ∀ key last prior, journal.last key = some last → standing.seen.lastNumber key = some prior →
    prior ≤ last
  handed : ∀ kind, ∀ row ∈ journal.rows kind, row.HandedOut kind journal.last
  owned : ∀ kind, ∀ row ∈ journal.rows kind, row.issuedBy = some who
  distinct : Distinct (journal.write standing.seen)

theorem works_idle (kept : NumbersKept first db) : Works first who .empty (.idle db) where
  pending := fun _ _ => Journal.write_empty.symm
  locked := nofun
  above := nofun
  handed := nofun
  owned := nofun
  distinct := Journal.write_empty.symm ▸ kept.distinct

theorem NumberedRow.HandedOut.fits {last : SequenceKey → Option ℤ} (handed : row.HandedOut kind last) :
    ∃ year most, last ⟨row.condoId, kind, year⟩ = some most ∧ row.Fits ⟨row.condoId, kind, year⟩ := by
  obtain ⟨stem, year, n, most, number, known, _⟩ := handed
  exact ⟨year, most, known, rfl, stem, n, number⟩

namespace Works

variable {journal : Journal Owner} {standing : Standing (NumberDb Owner) NumberLock}
  (works : Works first who journal standing)
include works

variable {last : ℤ}

section

variable (rely : (numberDiscipline first).Rely standing.held standing.seen now)
include rely

theorem seen_of_mem (written : journal.last key = some last) (mem : row ∈ now.rows key.kind) (fits : row.Fits key) :
    row ∈ standing.seen.rows key.kind :=
  (rely.same _ (works.locked key last written)).2 row mem fits

theorem distinct_later : Distinct (journal.write now) := by
  intro kind
  have earlier := works.distinct kind
  rw [Journal.write_rows, map_append, nodup_append] at earlier ⊢
  refine ⟨rely.inv.distinct kind, earlier.2.1, ?_⟩
  rintro _ committed _ written rfl
  obtain ⟨row, mem, same⟩ := mem_map.mp committed
  obtain ⟨own, inside, indexed⟩ := mem_map.mp written
  obtain ⟨year, most, known, condo, stem, n, number⟩ := (works.handed kind own inside).fits
  have equal : row.indexed = own.indexed := same.trans indexed.symm
  have sameCondo : row.condoId = own.condoId := congrArg Prod.fst equal
  have sameNumber : row.number = own.number := congrArg Prod.snd equal
  have seen := works.seen_of_mem rely known mem ⟨sameCondo, stem, n, sameNumber.trans number⟩
  exact earlier.2.2 _ (mem_map_of_mem seen) _ (mem_map_of_mem inside) equal

theorem later : Works first who journal ⟨standing.pending, standing.held, now⟩ where
  pending := fun _ later => works.pending _ (rely.trans later)
  locked := works.locked
  above := by
    intro key last prior written known
    rw [(rely.same _ (works.locked key last written)).1] at known
    exact works.above key last prior written known
  handed := works.handed
  owned := works.owned
  distinct := works.distinct_later rely

end

theorem guarantee (kept : NumbersKept first standing.seen) :
    (numberDiscipline first).Guarantee standing.held standing.seen (journal.write standing.seen) := by
  have grows : NumbersGrow standing.seen (journal.write standing.seen) := by
    refine ⟨fun kind row mem => ?_, fun kind row mem => ?_, fun key last known => ?_⟩
    · rw [Journal.write_rows]
      exact mem_append_left _ mem
    · rw [Journal.write_rows] at mem
      rcases mem_append.mp mem with committed | written
      · exact .inl committed
      · obtain ⟨stem, year, n, most, number, known, le⟩ := works.handed kind row written
        exact .inr ⟨stem, year, n, most, number, by simp [Journal.write, known], le⟩
    · cases written : journal.last key with
      | none => exact ⟨last, by simp [Journal.write, written, known], le_rfl⟩
      | some own => exact ⟨own, by simp [Journal.write, written], works.above key own last written known⟩
  refine ⟨⟨works.distinct, kept.grown.trans grows⟩, grows, fun lock free => ?_⟩
  cases lock with
  | number => exact trivial
  | sequence key =>
    refine ⟨?_, fun row mem fits => ?_⟩
    · cases written : journal.last key with
      | none => simp [Journal.write, written]
      | some own => exact absurd (works.locked key own written) free
    · rw [Journal.write_rows] at mem
      rcases mem_append.mp mem with committed | written
      · exact committed
      · obtain ⟨stem, year, n, most, number, known, _⟩ := works.handed key.kind row written
        obtain ⟨condo, other, m, also⟩ := fits
        obtain ⟨_, rfl, _⟩ := numberText_injective (number.symm.trans also)
        rw [condo] at known
        exact absurd (works.locked key most known) free

theorem sound : (numberDiscipline first).Sound standing := by
  intro now rely
  rw [works.pending now rely]
  exact (works.later rely).guarantee rely.inv

section

variable (rely : (numberDiscipline first).Rely standing.held standing.seen now)
include rely

theorem read : Works first who journal (standing.wrote now [] id) := works.later rely

theorem setLast {change : NumberDb Owner → NumberDb Owner}
    (le : ∀ prior, (journal.write now).lastNumber key = some prior → prior ≤ last)
    (writes : ∀ later, (numberDiscipline first).Rely (.sequence key :: standing.held) now later →
      change (journal.write later) = (journal.write later).setLast key last) :
    Works first who (journal.setLast key last) (standing.wrote now [.sequence key] change) := by
  have present := works.later rely
  have ahead : ∀ other prior, journal.last other = some prior →
      ∃ later, (journal.setLast key last).last other = some later ∧ prior ≤ later := by
    intro other prior written
    by_cases same : other = key
    · subst same
      exact ⟨last, journal.last_setLast_self other last, le prior (by simp [Journal.write, written])⟩
    · exact ⟨prior, (Journal.last_setLast_of_ne last same).trans written, le_rfl⟩
  constructor
  · intro later grown
    have kept : (numberDiscipline first).Rely standing.held now later := grown.mono (subset_cons_self _ _)
    show change (standing.pending later) = _
    rw [works.pending later (rely.trans kept), writes later grown, Journal.write_setLast]
  · intro other value written
    by_cases same : other = key
    · exact same ▸ mem_cons_self
    · rw [Journal.last_setLast_of_ne last same] at written
      exact mem_cons_of_mem _ (works.locked other value written)
  · intro other value prior written known
    by_cases same : other = key
    · subst same
      rw [Journal.last_setLast_self, Option.some.injEq] at written
      subst written
      cases own : journal.last other with
      | none => exact le prior ((congrArg (Option.or · _) own).trans known)
      | some value =>
        have earlier := present.above other value prior own known
        exact earlier.trans (le value (by simp [Journal.write, own]))
    · rw [Journal.last_setLast_of_ne last same] at written
      exact present.above other value prior written known
  · exact fun kind row mem => (works.handed kind row mem).later ahead
  · exact works.owned
  · intro kind
    exact present.distinct kind

theorem insert {lock : NumberLock} (handed : row.HandedOut kind journal.last) (own : row.issuedBy = some who)
    (free : ∀ other ∈ (journal.write now).rows kind, other.indexed ≠ row.indexed) :
    Works first who (journal.insert kind row) (standing.wrote now [lock] fun db => db.insert kind row) := by
  have present := works.later rely
  constructor
  · intro later grown
    have kept : (numberDiscipline first).Rely standing.held now later := grown.mono (subset_cons_self _ _)
    show NumberDb.insert (standing.pending later) kind row = _
    rw [works.pending later (rely.trans kept), Journal.write_insert]
  · exact fun key last written => mem_cons_of_mem _ (works.locked key last written)
  · exact present.above
  · intro other one mem
    rcases Journal.mem_insert mem with earlier | ⟨rfl, rfl⟩
    · exact works.handed other one earlier
    · exact handed
  · intro other one mem
    rcases Journal.mem_insert mem with earlier | ⟨rfl, rfl⟩
    · exact works.owned other one earlier
    · exact own
  · intro other
    have before := present.distinct other
    rw [Journal.write_rows] at before ⊢
    by_cases same : other = kind
    · subst same
      rw [Journal.rows_insert_self, ← append_assoc, map_append]
      refine nodup_append.mpr ⟨before, nodup_singleton _, ?_⟩
      intro one mem last new
      obtain ⟨old, inside, rfl⟩ := mem_map.mp mem
      rw [mem_singleton.mp new]
      exact free old (Journal.write_rows now other ▸ inside)
    · rwa [Journal.rows_insert_of_ne row same]

end

end Works

/-! ## The scripts -/

def Unissued (db : NumberDb Owner) (kind : NumberKind) (condoId : Id) (number : String) : Prop :=
  ∀ row ∈ db.rows kind, row.condoId = condoId → row.number ≠ number

structure Offered (journal : Journal Owner) (standing : Standing (NumberDb Owner) NumberLock)
    (kind : NumberKind) (condoId : Id) (stem : String) (year n : ℕ) : Prop where
  last : ∃ most, journal.last ⟨condoId, kind, year⟩ = some most ∧ n ≤ most
  free : Unissued (journal.write standing.seen) kind condoId (numberText stem year n)

theorem unissued_setLast {journal : Journal Owner} {last : ℤ} {condoId : Id} {number : String} :
    Unissued ((journal.setLast key last).write db) kind condoId number ↔
      Unissued (journal.write db) kind condoId number := by
  rw [Unissued, Unissued, Journal.write_rows, Journal.rows_setLast, ← Journal.write_rows]

section

variable {condition : Empty → NumberDb Owner → NumberDb Owner → Prop} {journal : Journal Owner}
  {standing : Standing (NumberDb Owner) NumberLock} {condoId : Id} {stem : String} {year : ℕ}

variable {n : ℕ}

theorem Works.unissued {last : ℤ} (works : Works first who journal standing)
    (rely : (numberDiscipline first).Rely standing.held standing.seen now)
    (written : journal.last ⟨condoId, kind, year⟩ = some last)
    (free : Unissued (journal.write standing.seen) kind condoId (numberText stem year n)) :
    Unissued (journal.write now) kind condoId (numberText stem year n) := by
  intro row mem condo number
  rw [Journal.write_rows] at mem
  have earlier : row ∈ standing.seen.rows kind ++ journal.rows kind := by
    rcases mem_append.mp mem with committed | own
    · have fits : row.Fits ⟨condoId, kind, year⟩ := ⟨condo, stem, n, number⟩
      exact mem_append_left _ (works.seen_of_mem rely written committed fits)
    · exact mem_append_right _ own
  exact free row (Journal.write_rows standing.seen kind ▸ earlier) condo number

variable {two : NumberDb Owner}

section

variable (works : Works first who journal standing)
include works

theorem Works.unissued_above {one : NumberDb Owner} {existingMax : ℚ}
    (seen : standing.seen = two) (grown : NumbersGrow one two)
    (listed : ∀ row ∈ (journal.write one).rows kind, row.condoId = condoId → row.number = numberText stem year n →
      (n : ℚ) ≤ existingMax) (above : existingMax < n)
    (beyond : ∀ prior, (journal.write two).lastNumber ⟨condoId, kind, year⟩ = some prior → prior < n) :
    Unissued (journal.write two) kind condoId (numberText stem year n) := by
  intro row mem condo number
  have unlisted : row ∉ (journal.write one).rows kind :=
    fun mem => absurd (listed row mem condo number) (not_le.mpr above)
  rw [Journal.write_rows] at mem unlisted
  rcases mem_append.mp mem with committed | own
  · rcases grown.new kind row committed with early | ⟨_, _, _, most, also, known, le⟩
    · exact unlisted (mem_append_left _ early)
    · obtain ⟨rfl, rfl, same⟩ := numberText_injective (number.symm.trans also)
      rw [condo] at known
      have below : most < n := by
        cases written : journal.last ⟨condoId, kind, year⟩ with
        | none => exact beyond most ((congrArg (Option.or · _) written).trans known)
        | some last =>
          have reached := beyond last (by simp [Journal.write, written])
          exact (works.above _ last most written (seen ▸ known)).trans_lt reached
      omega
  · exact unlisted (mem_append_right _ own)

theorem Works.upsert (key : SequenceKey) (created : ℤ)
    (rely : (numberDiscipline first).Rely standing.held standing.seen two) :
    Works first who (journal.setLast key (upserted created ((journal.write two).lastNumber key)))
      (standing.wrote two [.sequence key] fun db => db.setLast key (upserted created (db.lastNumber key))) := by
  apply works.setLast rely
  · intro prior known
    rw [known, upserted]
    omega
  · intro later grown
    have same : later.lastNumber key = two.lastNumber key := (grown.same _ mem_cons_self).1
    simp only [Journal.write, same]

theorem within_nextNumber {wanted : String → Standing (NumberDb Owner) NumberLock → Prop}
    (fits : ∀ (n : ℕ) later after, Works first who later after → Offered later after kind condoId stem year n →
      later.rows = journal.rows → wanted (numberText stem year n) after) :
    (numberDiscipline first).Safe condition (Within (· ≠ .uniqueViolation) wanted)
      (nextNumber kind condoId stem year) standing := by
  apply within_bind
  refine within_read fun one reading => ?_
  rw [works.pending one reading]
  have read := works.read reading
  have listed : ∀ row ∈ (journal.write one).rows kind, row.condoId = condoId → ∀ n : ℕ, n < 2 ^ 53 →
      row.number = numberText stem year n →
        (n : ℚ) ≤ maxExistingSuffix ((journal.write one).rows kind) condoId (numberStem stem year) := by
    rintro row mem rfl n small number
    exact le_maxExistingSuffix mem number small
  have nonneg : 0 ≤ maxExistingSuffix ((journal.write one).rows kind) condoId (numberStem stem year) :=
    maxExistingSuffix_nonneg
  generalize maxExistingSuffix ((journal.write one).rows kind) condoId (numberStem stem year) = existingMax
    at listed nonneg ⊢
  apply within_bind
  cases argument : intArgument (double (existingMax + 1)) with
  | error failure =>
    rw [intArgument_eq_error argument]
    exact NumberError.noConfusion
  | ok created =>
    apply within_bind
    refine within_statement fun two upserting => ?_
    rw [read.pending two upserting]
    have upsert := read.upsert ⟨condoId, kind, year⟩ created upserting
    split
    · rename_i small
      have last := journal.last_setLast_self ⟨condoId, kind, year⟩
        (upserted created ((journal.write two).lastNumber ⟨condoId, kind, year⟩))
      generalize within : upserted created ((journal.write two).lastNumber ⟨condoId, kind, year⟩) = next
        at small last upsert ⊢
      have beyond : ∀ prior, (journal.write two).lastNumber ⟨condoId, kind, year⟩ = some prior → prior < next := by
        intro prior known
        rw [known, upserted] at within
        omega
      have fresh : ∀ n : ℕ, n < 2 ^ 53 → existingMax < n → next ≤ n →
          Unissued (journal.write two) kind condoId (numberText stem year n) := by
        intro n bounded above reached
        refine (read.later upserting).unissued_above rfl upserting.grows
          (fun row mem condo => listed row mem condo n bounded) above ?_
        exact fun prior known => (beyond prior known).trans_le reached
      dsimp only [Within]
      split
      · rename_i lagging
        apply within_bind
        refine within_write fun three updating => ?_
        have above := lt_created argument nonneg
        have pos : 0 < created := by exact_mod_cast nonneg.trans_lt above
        have bounded := (intArgument_eq_ok argument).2
        have reached : next ≤ created := by exact_mod_cast (lagging.trans_lt above).le
        lift created to ℕ using pos.le
        refine fits created _ _ (upsert.setLast updating (fun prior known => ?_) fun _ _ => rfl) ?_ rfl
        · rw [Journal.write_last last, Option.some.injEq] at known
          omega
        · refine ⟨⟨created, Journal.last_setLast_self _ _ _, le_rfl⟩, unissued_setLast.mpr ?_⟩
          refine upsert.unissued updating last (unissued_setLast.mpr ?_)
          exact fresh created (by omega) above reached
      · rename_i ahead
        have pos : (0 : ℚ) < next := nonneg.trans_lt (not_le.mp ahead)
        lift next to ℕ using by exact_mod_cast pos.le
        refine fits next _ _ upsert ⟨⟨next, last, le_rfl⟩, unissued_setLast.mpr ?_⟩ rfl
        exact fresh next (by omega) (not_le.mp ahead) le_rfl
    · exact NumberError.noConfusion

theorem within_insertNumbered {wanted : Unit → Standing (NumberDb Owner) NumberLock → Prop} (offered : Offered journal standing kind condoId stem year n)
    (fits : ∀ after,
      Works first who (journal.insert kind ⟨condoId, numberText stem year n, some who⟩) after → wanted () after) :
    (numberDiscipline first).Safe condition (Within (· ≠ .uniqueViolation) wanted)
      (insertNumbered who ⟨kind, condoId, numberText stem year n⟩) standing := by
  refine within_statement fun now rely => ?_
  obtain ⟨most, written, le⟩ := offered.last
  have free := works.unissued rely written offered.free
  have untaken : (journal.write now).taken kind condoId (numberText stem year n) = false := by
    rw [NumberDb.taken, any_eq_false]
    intro row mem same
    obtain ⟨condo, number⟩ := of_decide_eq_true same
    exact free row mem condo number
  rw [works.pending now rely, if_neg (by rw [untaken]; decide)]
  apply fits
  refine works.insert rely ⟨stem, year, n, most, rfl, written, le⟩ rfl fun other mem same => ?_
  exact free other mem (congrArg Prod.fst same) (congrArg Prod.snd same)

end

def issuedRows (who : Owner) (kind : NumberKind) (numbers : List IssuedNumber) : List (NumberedRow Owner) :=
  (numbers.filter fun issued => issued.kind = kind).map fun issued => ⟨issued.condoId, issued.number, some who⟩

theorem nextNumber_eq (request : NumberRequest) :
    (request.nextNumber : NumberScript Owner String) = nextNumber request.kind request.condoId request.stem request.year := by
  cases request with
  | invoice => rfl
  | receipt => rfl

def IssuedNumber.For (issued : IssuedNumber) (requests : List NumberRequest) : Prop :=
  ∃ request ∈ requests, ∃ n : ℕ,
    issued = ⟨request.kind, request.condoId, numberText request.stem request.year n⟩

structure Issues (first : NumberDb Owner) (who : Owner) (requests : List NumberRequest) (before : Journal Owner)
    (numbers : List IssuedNumber) (after : Standing (NumberDb Owner) NumberLock) (journal : Journal Owner) : Prop where
  works : Works first who journal after
  rows : ∀ kind, journal.rows kind = before.rows kind ++ issuedRows who kind numbers
  requested : ∀ issued ∈ numbers, issued.For requests

theorem within_issueEach {requests : List NumberRequest} (works : Works first who journal standing) :
    (numberDiscipline first).Safe condition
      (Within (· ≠ .uniqueViolation) fun numbers after => ∃ later, Issues first who requests journal numbers after later)
      (issueEach who requests) standing := by
  induction requests generalizing journal standing with
  | nil =>
    refine ⟨journal, works, fun kind => ?_, nofun⟩
    simp [issuedRows]
  | cons request rest ih =>
    apply within_bind
    rw [nextNumber_eq]
    refine within_nextNumber works fun n second middle works offered rows => ?_
    apply within_bind
    refine within_insertNumbered works offered fun inserted works => ?_
    apply within_bind
    refine (ih works).mono fun result after fits => ?_
    cases result with
    | error failure => exact fits
    | ok numbers =>
      obtain ⟨later, issues⟩ := fits
      refine ⟨later, issues.works, fun kind => ?_, ?_⟩
      · rw [issues.rows kind]
        by_cases same : request.kind = kind
        · subst same
          simp [issuedRows, Journal.rows_insert_self, rows]
        · simp [issuedRows, Journal.rows_insert_of_ne _ (Ne.symm same), rows, same]
      · rintro issued mem
        rcases mem_cons.mp mem with rfl | listed
        · exact ⟨request, mem_cons_self, n, rfl⟩
        · obtain ⟨other, inside, number⟩ := issues.requested issued listed
          exact ⟨other, mem_cons_of_mem _ inside, number⟩

end

/-! ## Every run -/

structure Issued (first : NumberDb Owner) (who : Owner) (requests : List NumberRequest) (numbers : List IssuedNumber)
    (db : NumberDb Owner) : Prop where
  kept : NumbersKept first db
  committed : ∀ kind, ∀ row ∈ issuedRows who kind numbers, row ∈ db.rows kind
  nodup : numbers.Nodup
  requested : ∀ issued ∈ numbers, issued.For requests

variable {numbers : List IssuedNumber}

theorem mem_issuedRows (who : Owner) {issued : IssuedNumber} (mem : issued ∈ numbers) :
    (⟨issued.condoId, issued.number, some who⟩ : NumberedRow Owner) ∈ issuedRows who issued.kind numbers :=
  mem_map.mpr ⟨issued, mem_filter.mpr ⟨mem, decide_eq_true rfl⟩, rfl⟩

theorem nodup_of_issuedRows (who : Owner)
    (nodup : ∀ kind, ((issuedRows who kind numbers).map NumberedRow.indexed).Nodup) : numbers.Nodup := by
  induction numbers with
  | nil => exact nodup_nil
  | cons issued rest ih =>
    refine nodup_cons.mpr ⟨fun again => ?_, ih fun kind => ?_⟩
    · have own := nodup issued.kind
      have later := mem_issuedRows who again
      simp only [issuedRows, filter_cons, decide_true, if_true, map_cons, nodup_cons] at own
      exact own.1 (mem_map_of_mem (f := NumberedRow.indexed) later)
    · have both := nodup kind
      simp only [issuedRows, filter_cons] at both
      split at both
      · exact (nodup_cons.mp both).2
      · exact both

variable {requests : List NumberRequest}

theorem Issues.issued {standing : Standing (NumberDb Owner) NumberLock} {journal : Journal Owner}
    (issues : Issues first who requests .empty numbers standing journal)
    (rely : (numberDiscipline first).Rely standing.held standing.seen now) :
    Issued first who requests numbers (standing.pending now) := by
  have written := issues.works.later rely
  rw [issues.works.pending now rely]
  have rows : ∀ kind, (journal.write now).rows kind = now.rows kind ++ issuedRows who kind numbers := by
    intro kind
    rw [Journal.write_rows, issues.rows]
    rfl
  refine ⟨(written.guarantee rely.inv).inv, fun kind row mem => ?_, nodup_of_issuedRows who fun kind => ?_,
    issues.requested⟩
  · rw [rows]
    exact mem_append_right _ mem
  · have nodup := written.distinct kind
    rw [rows, map_append] at nodup
    exact (nodup_append.mp nodup).2.1

theorem within_issueInTransaction {condition : Empty → NumberDb Owner → NumberDb Owner → Prop}
    (kept : NumbersKept first db) : (numberDiscipline first).Safe condition
      (Within (· ≠ .uniqueViolation) fun numbers after => Issued first who requests numbers after.seen)
      (issueInTransaction who requests) (.idle db) := by
  apply within_transaction
  refine (within_issueEach (works_idle kept)).mono fun result after fits => ?_
  cases result with
  | error failure => exact fits
  | ok numbers =>
    obtain ⟨journal, issues⟩ := fits
    exact fun now rely => ⟨issues.works.sound now rely, issues.issued rely⟩

abbrev NumberSystem (Owner : Type) :=
  System Owner (NumberDb Owner) NumberLock Empty NumberError (List IssuedNumber)

structure NumbersApart (requests : Owner → List NumberRequest) (one other : Owner)
    (numbers otherNumbers : List IssuedNumber) : Prop where
  same : one ≠ other → ∀ issued ∈ numbers, issued ∉ otherNumbers
  kinds : ∀ issued ∈ numbers, ∀ otherIssued ∈ otherNumbers, issued.kind = .invoice → otherIssued.kind = .receipt →
    issued.number = otherIssued.number → ∃ condoId year, .receipt condoId "INV" year ∈ requests other

theorem row_ext_of_indexed {rows : List (NumberedRow Owner)} {one other : NumberedRow Owner}
    (nodup : (rows.map NumberedRow.indexed).Nodup) (first : one ∈ rows) (second : other ∈ rows)
    (same : one.indexed = other.indexed) : one = other :=
  inj_on_of_nodup_map nodup first second same

theorem numbersApart {requests : Owner → List NumberRequest} {one other : Owner} {otherNumbers : List IssuedNumber}
    (nodup : Distinct db) (left : ∀ kind, ∀ row ∈ issuedRows one kind numbers, row ∈ db.rows kind)
    (right : ∀ kind, ∀ row ∈ issuedRows other kind otherNumbers, row ∈ db.rows kind)
    (leftFor : ∀ issued ∈ numbers, issued.For (requests one))
    (rightFor : ∀ issued ∈ otherNumbers, issued.For (requests other)) :
    NumbersApart requests one other numbers otherNumbers where
  same := by
    intro ne issued mem again
    have same := row_ext_of_indexed (nodup issued.kind) (left _ _ (mem_issuedRows _ mem))
      (right _ _ (mem_issuedRows _ again)) rfl
    exact ne (Option.some.inj (congrArg NumberedRow.issuedBy same))
  kinds := by
    rintro issued mem otherIssued again invoice receipt same
    obtain ⟨request, _, n, rfl⟩ := leftFor issued mem
    obtain ⟨otherRequest, listed, m, rfl⟩ := rightFor otherIssued again
    obtain ⟨stems, _, _⟩ := numberText_injective same
    cases request with
    | receipt => cases invoice
    | invoice =>
      cases otherRequest with
      | invoice => cases receipt
      | receipt condoId stem year =>
        obtain rfl : "INV" = stem := stems
        exact ⟨condoId, year, listed⟩

/-- Sessions that issue numbers at the same time never get one that is there already. -/
theorem numbers_unique [DecidableEq Owner] {start : NumberDb Owner} {requests : Owner → List NumberRequest}
    {events : List (Event Owner NumberError)} {after : NumberSystem Owner} (distinct : Distinct start)
    (old : ∀ kind, ∀ row ∈ start.rows kind, row.issuedBy = none)
    (given : ∀ who failure, Event.abort who failure ∈ events → failure = .aborted)
    (run : Run System.Step (System.start start fun who => issueInTransaction who (requests who)) events after) :
    (∀ who, (after.session who).script ≠ .stop (.error .uniqueViolation)) ∧
    (∀ who numbers, (after.session who).script = .stop (.ok numbers) → numbers.Nodup ∧ ∀ issued ∈ numbers,
      ⟨issued.condoId, issued.number, some who⟩ ∈ after.committed.rows issued.kind ∧
      ∀ row ∈ start.rows issued.kind, row.condoId = issued.condoId → row.number ≠ issued.number) ∧
    ∀ one other numbers otherNumbers, (after.session one).script = .stop (.ok numbers) →
      (after.session other).script = .stop (.ok otherNumbers) →
        NumbersApart requests one other numbers otherNumbers := by
  have kept : NumbersKept start start := ⟨distinct, .refl start⟩
  have safe : ∀ who, (numberDiscipline start).Safe (fun _ _ _ => True)
      (Within (· ≠ .uniqueViolation) fun numbers after => Issued start who (requests who) numbers after.seen)
      (issueInTransaction who (requests who)) (.idle start) := fun who => within_issueInTransaction kept
  have obeyed := obeyed_of_run kept safe
    (fun who failure aborted state => by rw [given who failure aborted]; exact NumberError.noConfusion)
    (run.mono fun _ _ _ step => ⟨System.meets_true _, step⟩)
  have final : NumbersKept start after.committed := obeyed.inv
  have issued : ∀ who numbers, (after.session who).script = .stop (.ok numbers) →
      Issued start who (requests who) numbers (after.session who).standing.seen := by
    intro who numbers done
    have safe := obeyed.safe who
    rwa [done] at safe
  have committed : ∀ who numbers, (after.session who).script = .stop (.ok numbers) →
      ∀ kind, ∀ row ∈ issuedRows who kind numbers, row ∈ after.committed.rows kind :=
    fun who numbers done kind row member =>
      (obeyed.rely who).grows.stay kind row ((issued who numbers done).committed kind row member)
  refine ⟨fun who failed => ?_, fun who numbers done => ?_, fun one other numbers otherNumbers left right => ?_⟩
  · have safe := obeyed.safe who
    rw [failed] at safe
    exact safe rfl
  · refine ⟨(issued who numbers done).nodup, fun number member => ?_⟩
    have there := committed who numbers done _ _ (mem_issuedRows _ member)
    refine ⟨there, fun row listed condo same => ?_⟩
    have equal := row_ext_of_indexed (final.distinct number.kind) (final.grown.stay _ _ listed) there
      (Prod.ext condo same)
    have owner := old _ _ listed
    rw [equal] at owner
    cases owner
  · exact numbersApart final.distinct (committed one numbers left) (committed other otherNumbers right)
      (issued one numbers left).requested (issued other otherNumbers right).requested

namespace Sample

def noNumbers : NumberDb (Fin 2) := ⟨[], [], fun _ => none⟩

def sameStem : Fin 2 → List NumberRequest
  | 0 => [.invoice 1 2026]
  | 1 => [.receipt 1 "INV" 2026]

def issuing : List (Event (Fin 2) NumberError) :=
  [.move 0 0, .move 1 0, .move 0 0, .move 1 0, .move 0 0, .move 0 0, .move 1 0, .move 1 0]

def returned (system : NumberSystem (Fin 2)) : Option (List IssuedNumber × List IssuedNumber) :=
  match (system.session 0).script, (system.session 1).script with
  | .stop (.ok one), .stop (.ok other) => some (one, other)
  | _, _ => none

theorem returned_eq_some {system : NumberSystem (Fin 2)} {one other : List IssuedNumber}
    (known : returned system = some (one, other)) :
    (system.session 0).script = .stop (.ok one) ∧ (system.session 1).script = .stop (.ok other) := by
  unfold returned at known
  split at known
  · rename_i first second
    obtain ⟨rfl, rfl⟩ := known
    exact ⟨first, second⟩
  · cases known

theorem issuing_schedule :
    ((System.start noNumbers fun who => issueInTransaction who (sameStem who)).play (fun _ _ => true) issuing).bind
      returned = some ([⟨.invoice, 1, "INV-2026-000001"⟩], [⟨.receipt, 1, "INV-2026-000001"⟩]) := by
  decide +kernel

end Sample

theorem number_shared : ∃ after : NumberSystem (Fin 2),
    Run System.Step (System.start Sample.noNumbers fun who => issueInTransaction who (Sample.sameStem who))
      Sample.issuing after ∧
    (after.session 0).script = .stop (.ok [⟨.invoice, 1, "INV-2026-000001"⟩]) ∧
    (after.session 1).script = .stop (.ok [⟨.receipt, 1, "INV-2026-000001"⟩]) := by
  obtain ⟨after, played, known⟩ := Option.bind_eq_some_iff.mp Sample.issuing_schedule
  have run := (System.run_of_play played).guard_forgotten
  exact ⟨after, run, Sample.returned_eq_some known⟩

theorem numbers_unique_issuing : ∃ after : NumberSystem (Fin 2),
    (∀ who, (after.session who).script ≠ .stop (.error .uniqueViolation)) ∧
    (after.session 0).script = .stop (.ok [⟨.invoice, 1, "INV-2026-000001"⟩]) := by
  obtain ⟨after, played, known⟩ := Option.bind_eq_some_iff.mp Sample.issuing_schedule
  have run := (System.run_of_play played).guard_forgotten
  have distinct : Distinct Sample.noNumbers := fun kind => by cases kind <;> exact List.nodup_nil
  have old : ∀ kind, ∀ row ∈ Sample.noNumbers.rows kind, row.issuedBy = none :=
    fun kind row member => by cases kind <;> cases member
  have given : ∀ who failure, Event.abort who failure ∈ Sample.issuing → failure = NumberError.aborted := by
    intro who failure member
    simp [Sample.issuing] at member
  have unique := numbers_unique distinct old given run
  exact ⟨after, unique.1, (Sample.returned_eq_some known).1⟩

end SmartResidence.Billing
