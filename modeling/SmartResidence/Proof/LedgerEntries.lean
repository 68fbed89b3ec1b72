import SmartResidence.Billing.Ledger

/-!
# Appended postings and payment splits
-/

namespace SmartResidence.Billing

open Foundation List

def ledgerSum (measure : LedgerPosting → ℤ) (entries : List LedgerEntry) : ℤ :=
  sumBy (fun entry => measure entry.toLedgerPosting) entries

def Numbered (entries : List LedgerEntry) : Prop :=
  entries.map LedgerEntry.id = List.range entries.length

def appendPostings (entries : List LedgerEntry) (postings : List LedgerPosting) : List LedgerEntry :=
  postings.foldl appendPosting entries

structure FreshKeys (entries : List LedgerEntry) (postings : List LedgerPosting) : Prop where
  unused : ∀ posting ∈ postings, ∀ entry ∈ entries, entry.idempotencyKey ≠ posting.idempotencyKey
  distinct : (postings.map LedgerPosting.idempotencyKey).Nodup

variable {entries : List LedgerEntry} {posting : LedgerPosting}

theorem appendPosting_unused (unused : ∀ entry ∈ entries, entry.idempotencyKey ≠ posting.idempotencyKey) :
    appendPosting entries posting = entries ++ [{ posting with id := entries.length }] := by
  rw [appendPosting, if_neg]
  rintro ⟨_, entry, mem, same⟩
  exact unused entry mem same

variable {entry : LedgerEntry}

theorem mem_appendPosting (mem : entry ∈ appendPosting entries posting) :
    entry ∈ entries ∨ entry.toLedgerPosting = posting := by
  rw [appendPosting] at mem
  split at mem
  · exact .inl mem
  · rcases mem_append.mp mem with old | new
    · exact .inl old
    · rw [mem_singleton] at new
      exact .inr (by rw [new])

variable {postings : List LedgerPosting}

theorem mem_appendPostings (mem : entry ∈ appendPostings entries postings) :
    entry ∈ entries ∨ entry.toLedgerPosting ∈ postings := by
  induction postings generalizing entries with
  | nil => exact .inl mem
  | cons posting postings ih =>
    have later : entry ∈ appendPostings (appendPosting entries posting) postings := mem
    rcases ih later with old | new
    · rcases mem_appendPosting old with older | same
      · exact .inl older
      · exact .inr (by simp [same])
    · exact .inr (mem_cons_of_mem _ new)

theorem Numbered.append (numbered : Numbered entries) (posting : LedgerPosting) :
    Numbered (appendPosting entries posting) := by
  rw [appendPosting]
  split
  · exact numbered
  · simp only [Numbered, map_append, map_cons, map_nil, length_append, length_singleton, range_succ]
    rw [numbered]

theorem Numbered.appendPostings (numbered : Numbered entries) (postings : List LedgerPosting) :
    Numbered (appendPostings entries postings) := by
  induction postings generalizing entries with
  | nil => exact numbered
  | cons posting postings ih => exact ih (numbered.append posting)

theorem Numbered.nodup (numbered : Numbered entries) : (entries.map LedgerEntry.id).Nodup := by
  rw [numbered]
  exact nodup_range

theorem ledgerSum_appendPosting (measure : LedgerPosting → ℤ)
    (unused : ∀ entry ∈ entries, entry.idempotencyKey ≠ posting.idempotencyKey) :
    ledgerSum measure (appendPosting entries posting) = ledgerSum measure entries + measure posting := by
  rw [appendPosting_unused unused]
  simp [ledgerSum]

theorem ledgerSum_appendPostings (measure : LedgerPosting → ℤ) (fresh : FreshKeys entries postings) :
    ledgerSum measure (appendPostings entries postings) = ledgerSum measure entries + sumBy measure postings := by
  induction postings generalizing entries with
  | nil => simp [appendPostings]
  | cons posting postings ih =>
    obtain ⟨notLater, nodup⟩ := nodup_cons.mp fresh.distinct
    have head := fresh.unused posting (by simp)
    have rest : FreshKeys (appendPosting entries posting) postings := by
      refine ⟨fun later mem entry found same => ?_, nodup⟩
      rcases mem_appendPosting found with old | new
      · exact fresh.unused later (by simp [mem]) entry old same
      · rw [new] at same
        exact notLater (same ▸ mem_map_of_mem mem)
    have step := ih rest
    simp only [appendPostings, foldl_cons, sumBy_cons] at step ⊢
    rw [step, ledgerSum_appendPosting measure head]
    ring

theorem ledgerSum_appendPostings_zero (measure : LedgerPosting → ℤ) (zero : ∀ posting ∈ postings, measure posting = 0) :
    ledgerSum measure (appendPostings entries postings) = ledgerSum measure entries := by
  induction postings generalizing entries with
  | nil => rfl
  | cons posting postings ih =>
    have head : ledgerSum measure (appendPosting entries posting) = ledgerSum measure entries := by
      rw [appendPosting]
      split
      · rfl
      · simp [ledgerSum, zero posting (by simp)]
    have tail := @ih (appendPosting entries posting) fun other mem => zero other (mem_cons_of_mem _ mem)
    exact tail.trans head

def chargePostings (now : Instant) (invoice : Invoice) (actorUserId : Option Id)
    (lines : List ChargeLine) : List LedgerPosting :=
  lines.mapIdx (chargePosting invoice (invoice.issuedAt.getD now) actorUserId)

variable {now : Instant} {invoice : Invoice} {actorUserId : Option Id}

theorem mem_chargePostings {lines : List ChargeLine} (mem : posting ∈ chargePostings now invoice actorUserId lines) :
    ∃ index line, lines[index]? = some line ∧
      posting = chargePosting invoice (invoice.issuedAt.getD now) actorUserId index line := by
  obtain ⟨index, bound, same⟩ := mem_mapIdx.mp mem
  exact ⟨index, lines[index], List.getElem?_eq_getElem bound, same.symm⟩

theorem sumBy_mapIdx {Row Image : Type*} (measure : Image → ℤ) (image : Nat → Row → Image)
    (value : Row → ℤ) (same : ∀ index row, measure (image index row) = value row) (rows : List Row) :
    sumBy measure (rows.mapIdx image) = sumBy value rows := by
  induction rows generalizing image with
  | nil => rfl
  | cons row rows ih =>
    simp only [mapIdx_cons, sumBy_cons, same]
    rw [ih (fun index => image (index + 1)) fun index other => same (index + 1) other]

theorem chargePostings_keys_nodup (now : Instant) (invoice : Invoice) (actorUserId : Option Id)
    (lines : List ChargeLine) :
    ((chargePostings now invoice actorUserId lines).map LedgerPosting.idempotencyKey).Nodup := by
  have keys : (chargePostings now invoice actorUserId lines).map LedgerPosting.idempotencyKey =
      (List.range lines.length).map fun index => some (.invoiceCharge invoice.id index) := by
    refine ext_getElem (by simp [chargePostings]) fun index _ _ => ?_
    simp [chargePostings, chargePosting]
  rw [keys]
  exact nodup_range.map fun first second same => by simpa using same

theorem sumBy_addToFund (byFund : List (LedgerFund × ℤ)) (fund : LedgerFund) (amount : ℤ) :
    sumBy Prod.snd (addToFund byFund fund amount) = sumBy Prod.snd byFund + amount := by
  induction byFund with
  | nil => simp [addToFund]
  | cons pair rest ih =>
    rw [addToFund]
    split
    · simp; ring
    · simp [ih]; ring

variable {byFund : List (LedgerFund × ℤ)} {amount : ℤ}

theorem mem_addToFund_funds {fund other : LedgerFund} :
    other ∈ (addToFund byFund fund amount).map Prod.fst ↔ other = fund ∨ other ∈ byFund.map Prod.fst := by
  induction byFund with
  | nil => simp [addToFund]
  | cons pair rest ih =>
    rw [addToFund]
    split
    · rename_i same
      subst same
      simp
    · rw [map_cons, mem_cons, map_cons, mem_cons]
      tauto

theorem addToFund_nodup (nodup : (byFund.map Prod.fst).Nodup) (fund : LedgerFund) (amount : ℤ) :
    ((addToFund byFund fund amount).map Prod.fst).Nodup := by
  induction byFund with
  | nil => simp [addToFund]
  | cons pair rest ih =>
    rw [map_cons, nodup_cons] at nodup
    rw [addToFund]
    split
    · simpa using nodup
    · rename_i ne
      rw [map_cons, nodup_cons]
      refine ⟨fun mem => ?_, ih nodup.2⟩
      rcases mem_addToFund_funds.mp mem with same | old
      · exact ne same
      · exact nodup.1 old

theorem linesByFund_concat (lines : List InvoiceLine) (line : InvoiceLine) :
    linesByFund (lines ++ [line]) = addToFund (linesByFund lines) (fundOfCode line.code) line.amount := by
  simp [linesByFund]

theorem linesByFund_nodup (lines : List InvoiceLine) : ((linesByFund lines).map Prod.fst).Nodup := by
  induction lines using List.reverseRecOn with
  | nil => simp [linesByFund]
  | append_singleton lines line ih =>
    rw [linesByFund_concat]
    exact addToFund_nodup ih _ _

theorem sumBy_linesByFund (lines : List InvoiceLine) : sumBy Prod.snd (linesByFund lines) = lineTotal lines := by
  induction lines using List.reverseRecOn with
  | nil => rfl
  | append_singleton lines line ih =>
    rw [linesByFund_concat, sumBy_addToFund, ih]
    simp [lineTotal]

theorem linesByFund_ne_nil {lines : List InvoiceLine} (pos : 0 < lineTotal lines) : linesByFund lines ≠ [] := by
  intro empty
  have total := sumBy_linesByFund lines
  rw [empty, sumBy_nil] at total
  omega

theorem shareOut_funds (amount total allocated : ℤ) (funds : List (LedgerFund × ℤ)) :
    (shareOut amount total allocated funds).map Prod.fst = funds.map Prod.fst := by
  induction funds generalizing allocated with
  | nil => rfl
  | cons pair rest ih =>
    cases rest with
    | nil => simp [shareOut]
    | cons next rest =>
      rw [shareOut, map_cons, ih]
      rfl

theorem sumBy_shareOut (amount total allocated : ℤ) {funds : List (LedgerFund × ℤ)}
    (some : funds ≠ []) : sumBy Prod.snd (shareOut amount total allocated funds) = amount - allocated := by
  induction funds generalizing allocated with
  | nil => exact absurd rfl some
  | cons pair rest ih =>
    cases rest with
    | nil => simp [shareOut]
    | cons next rest =>
      rw [shareOut, sumBy_cons, ih _ (by simp)]
      ring

theorem sumBy_allocationsOf (lines : List InvoiceLine) (amount : ℤ) :
    sumBy Prod.snd (allocationsOf lines amount) = amount := by
  rw [allocationsOf]
  split
  · rename_i pos
    rw [sumBy_shareOut _ _ _ (linesByFund_ne_nil pos), sub_zero]
  · simp

theorem allocationsOf_nodup (lines : List InvoiceLine) (amount : ℤ) :
    ((allocationsOf lines amount).map Prod.fst).Nodup := by
  rw [allocationsOf]
  split
  · rw [shareOut_funds]
    exact linesByFund_nodup lines
  · simp

def paymentPostings (invoice : Invoice) (paymentId : Id) (amount : ℤ) (occurredAt : Instant)
    (actorUserId : Option Id) : List LedgerPosting :=
  ((allocationsOf invoice.lines amount).filter fun allocation => allocation.2 ≠ 0).map
    (paymentPosting invoice paymentId occurredAt actorUserId)

variable {paymentId : Id} {occurredAt : Instant}

theorem mem_paymentPostings (mem : posting ∈ paymentPostings invoice paymentId amount occurredAt actorUserId) :
    ∃ allocation ∈ allocationsOf invoice.lines amount,
      posting = paymentPosting invoice paymentId occurredAt actorUserId allocation := by
  obtain ⟨allocation, inside, same⟩ := mem_map.mp mem
  exact ⟨allocation, mem_of_mem_filter inside, same.symm⟩

theorem sumBy_paymentPostings (measure : LedgerPosting → ℤ) (value : LedgerFund × ℤ → ℤ) (same : ∀ allocation,
      measure (paymentPosting invoice paymentId occurredAt actorUserId allocation) = value allocation)
    (zero : ∀ fund, value (fund, 0) = 0) :
    sumBy measure (paymentPostings invoice paymentId amount occurredAt actorUserId) =
      sumBy value (allocationsOf invoice.lines amount) := by
  rw [paymentPostings, sumBy_map, sumBy_filter]
  refine sumBy_congr fun allocation _ => ?_
  obtain ⟨fund, share⟩ := allocation
  by_cases h : share = 0
  · simp [h, zero]
  · simp [h, same]

theorem paymentPostings_keys_nodup (invoice : Invoice) (paymentId : Id) (amount : ℤ)
    (occurredAt : Instant) (actorUserId : Option Id) :
    ((paymentPostings invoice paymentId amount occurredAt actorUserId).map
      LedgerPosting.idempotencyKey).Nodup := by
  have funds : (((allocationsOf invoice.lines amount).filter fun allocation => allocation.2 ≠ 0).map
      Prod.fst).Nodup :=
    (allocationsOf_nodup invoice.lines amount).sublist (filter_sublist.map Prod.fst)
  rw [paymentPostings]
  have image := funds.map (f := fun fund => some (IdempotencyKey.payment paymentId fund))
    fun first second same => by simpa using same
  simpa [Function.comp_def, paymentPosting] using image

def voidPostings (now : Instant) (entries : List LedgerEntry) (invoice : Invoice)
    (actorUserId : Option Id) : List LedgerPosting :=
  (((entries.filter fun entry => decide (entry.source = .invoice invoice.id ∧
      entry.type = .charge)).insertionSort fun a b => a.occurredAt ≤ b.occurredAt)).map
    (voidPosting now invoice actorUserId)

theorem mem_voidPostings (mem : posting ∈ voidPostings now entries invoice actorUserId) :
    ∃ charge ∈ entries, charge.source = .invoice invoice.id ∧ charge.type = .charge ∧
      posting = voidPosting now invoice actorUserId charge := by
  obtain ⟨charge, inside, same⟩ := mem_map.mp mem
  rw [mem_insertionSort, mem_filter] at inside
  simp only [decide_eq_true_eq] at inside
  exact ⟨charge, inside.1, inside.2.1, inside.2.2, same.symm⟩

theorem voidPostings_keys_nodup (numbered : Numbered entries) (invoice : Invoice) (actorUserId : Option Id) :
    ((voidPostings now entries invoice actorUserId).map LedgerPosting.idempotencyKey).Nodup := by
  have ids : ((entries.filter fun entry => decide (entry.source = .invoice invoice.id ∧
      entry.type = .charge)).map LedgerEntry.id).Nodup :=
    numbered.nodup.sublist (filter_sublist.map LedgerEntry.id)
  have sorted := ((perm_insertionSort (fun a b : LedgerEntry => a.occurredAt ≤ b.occurredAt)
    _).map LedgerEntry.id).nodup_iff.mpr ids
  have image := sorted.map (f := fun id => some (IdempotencyKey.invoiceVoid invoice.id id))
    fun first second same => by simpa using same
  simpa [voidPostings, Function.comp_def, voidPosting] using image

def chargedFor (invoiceId : Id) (posting : LedgerPosting) : ℤ :=
  if posting.source = .invoice invoiceId ∧ posting.type = .charge then posting.amount else 0

theorem sumBy_voidPostings (measure : LedgerPosting → ℤ) (factor : ℤ)
    (scaled : ∀ charge, measure (voidPosting now invoice actorUserId charge) = factor * charge.amount) :
    sumBy measure (voidPostings now entries invoice actorUserId) =
      factor * ledgerSum (chargedFor invoice.id) entries := by
  rw [voidPostings, sumBy_map, sumBy_perm _ (perm_insertionSort _ _), sumBy_filter, ledgerSum, ← sumBy_mul]
  refine sumBy_congr fun entry _ => ?_
  simp only [chargedFor, scaled, decide_eq_true_eq]
  split <;> simp

end SmartResidence.Billing
