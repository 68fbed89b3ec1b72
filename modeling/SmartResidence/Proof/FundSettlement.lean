import SmartResidence.Proof.Charges

/-!
# What each fund is charged and paid for one invoice
-/

namespace SmartResidence.Billing

open Foundation List

variable {db : Db}

structure SettledPayment where
  id : Id
  amount : ℤ
  occurredAt : Instant
  actorUserId : Option Id

def settleAll (db : Db) (invoiceId : Id) (payments : List SettledPayment) : Db :=
  payments.foldl (fun db payment => recordPaymentAllocation db invoiceId payment.id payment.amount
    payment.occurredAt payment.actorUserId) db

def chargedIn (invoiceId : Id) (fund : LedgerFund) (posting : LedgerPosting) : ℤ :=
  if posting.type = .charge ∧ posting.source = .invoice invoiceId ∧ posting.fund = fund then posting.amount
  else 0

def paidIn (payments : List SettledPayment) (fund : LedgerFund) (posting : LedgerPosting) : ℤ :=
  if posting.type = .payment ∧ (∃ payment ∈ payments, posting.source = .payment payment.id) ∧
    posting.fund = fund then posting.amount else 0

/-! ## The share of one fund -/

def inFund (fund : LedgerFund) (allocation : LedgerFund × ℤ) : ℤ :=
  if allocation.1 = fund then allocation.2 else 0

def fundShare (lines : List InvoiceLine) (fund : LedgerFund) (amount : ℤ) : ℤ :=
  sumBy (inFund fund) (allocationsOf lines amount)

def codeTotal (lines : List InvoiceLine) (fund : LedgerFund) : ℤ :=
  sumBy (fun line => if fundOfCode line.code = fund then line.amount else 0) lines

theorem sumBy_inFund_addToFund (fund other : LedgerFund) (amount : ℤ) (byFund : List (LedgerFund × ℤ)) :
    sumBy (inFund fund) (addToFund byFund other amount) =
      sumBy (inFund fund) byFund + if other = fund then amount else 0 := by
  induction byFund with
  | nil => simp [addToFund, inFund]
  | cons pair rest ih =>
    obtain ⟨head, total⟩ := pair
    rw [addToFund]
    split
    · rename_i same
      subst same
      by_cases own : head = fund
      · simp [inFund, own]
        ring
      · simp [inFund, own]
    · rw [sumBy_cons, ih, sumBy_cons]
      ring

theorem sumBy_inFund_linesByFund (fund : LedgerFund) (lines : List InvoiceLine) :
    sumBy (inFund fund) (linesByFund lines) = codeTotal lines fund := by
  induction lines using List.reverseRecOn with
  | nil => rfl
  | append_singleton lines line ih =>
    rw [linesByFund_concat, sumBy_inFund_addToFund, ih]
    simp [codeTotal]

variable {fund : LedgerFund} {byFund : List (LedgerFund × ℤ)}

theorem sumBy_inFund_absent (absent : fund ∉ byFund.map Prod.fst) : sumBy (inFund fund) byFund = 0 := by
  refine sumBy_zero _ fun pair mem => if_neg fun same => absent ?_
  exact same ▸ mem_map_of_mem mem

variable {total : ℤ}

theorem shareOut_full {allocated : ℤ} (positive : 0 < total) {funds : List (LedgerFund × ℤ)}
    (rest : allocated + sumBy Prod.snd funds = total) : shareOut total total allocated funds = funds := by
  induction funds generalizing allocated with
  | nil => rfl
  | cons pair others ih =>
    obtain ⟨fund, fundTotal⟩ := pair
    cases others with
    | nil =>
      simp only [sumBy_cons, sumBy_nil] at rest
      have last : total - allocated = fundTotal := by omega
      rw [shareOut, last]
    | cons next others =>
      have exact : (total : ℚ) * fundTotal / total = fundTotal := by
        field_simp
      rw [shareOut, exact, mathRound_intCast]
      simp only [sumBy_cons] at rest ih
      rw [ih (by omega)]

variable {lines : List InvoiceLine}

theorem fundShare_full (positive : 0 < lineTotal lines) (fund : LedgerFund) :
    fundShare lines fund (lineTotal lines) = codeTotal lines fund := by
  rw [fundShare, allocationsOf, if_pos positive, shareOut_full positive (by rw [zero_add, sumBy_linesByFund]),
    sumBy_inFund_linesByFund]

theorem addToFund_pos {amount : ℤ} (positive : ∀ pair ∈ byFund, 0 < pair.2) (more : 0 < amount) :
    ∀ pair ∈ addToFund byFund fund amount, 0 < pair.2 := by
  induction byFund with
  | nil => simpa [addToFund] using more
  | cons head rest ih =>
    obtain ⟨other, total⟩ := head
    have first : 0 < total := positive (other, total) (by simp)
    have tail := ih fun pair mem => positive pair (mem_cons_of_mem _ mem)
    rw [addToFund]
    split
    · intro pair mem
      rcases mem_cons.mp mem with rfl | later
      · exact add_pos first more
      · exact positive pair (mem_cons_of_mem _ later)
    · intro pair mem
      rcases mem_cons.mp mem with rfl | later
      · exact first
      · exact tail pair later

theorem linesByFund_pos (positive : ∀ line ∈ lines, 0 < line.amount) : ∀ pair ∈ linesByFund lines, 0 < pair.2 := by
  induction lines using List.reverseRecOn with
  | nil => simp [linesByFund]
  | append_singleton lines line ih =>
    rw [linesByFund_concat]
    exact addToFund_pos (ih fun other mem => positive other (mem_append_left _ mem))
      (positive line (by simp))

theorem lineTotal_pos (positive : ∀ line ∈ lines, 0 < line.amount) (some : lines ≠ []) : 0 < lineTotal lines := by
  cases lines with
  | nil => exact absurd rfl some
  | cons line rest =>
    have first := positive line (by simp)
    have others := sumBy_nonneg InvoiceLine.amount fun other mem => le_of_lt (positive other (mem_cons_of_mem line mem))
    exact add_pos_of_pos_of_nonneg first others

variable {fundTotal : ℤ} {next : LedgerFund × ℤ} {rest : List (LedgerFund × ℤ)}

theorem fundShare_first (total : 0 < lineTotal lines) (several : linesByFund lines = (fund, fundTotal) :: next :: rest)
    (amount : ℤ) : fundShare lines fund amount = mathRound ((amount : ℚ) * fundTotal / lineTotal lines) := by
  have nodup := linesByFund_nodup lines
  rw [several, map_cons, nodup_cons, ← shareOut_funds amount (lineTotal lines)
    (0 + mathRound ((amount : ℚ) * fundTotal / lineTotal lines))] at nodup
  rw [fundShare, allocationsOf, if_pos total, several, shareOut, sumBy_cons, sumBy_inFund_absent nodup.1]
  simp [inFund]

theorem sen_share {part : ℤ} (positive : 0 < part) (below : part < total) :
    total * mathRound (((1 : ℤ) : ℚ) * part / total) ≠ part := by
  have whole : (0 : ℚ) < total := by exact_mod_cast lt_trans positive below
  have less : (part : ℚ) < total := by exact_mod_cast below
  have share : (0 : ℚ) < ((1 : ℤ) : ℚ) * part / total := by positivity
  have proper : ((1 : ℤ) : ℚ) * part / total < 1 := by
    rw [div_lt_one whole]
    simpa using less
  have lower : 0 ≤ mathRound (((1 : ℤ) : ℚ) * part / total) := by
    rw [mathRound, le_roundHalfUp_iff]
    linarith
  have upper : mathRound (((1 : ℤ) : ℚ) * part / total) ≤ 1 := by
    rw [mathRound, roundHalfUp_le_iff]
    linarith
  -- a single sen goes to the fund as a whole or not at all
  rcases (by omega : mathRound (((1 : ℤ) : ℚ) * part / total) = 0 ∨
      mathRound (((1 : ℤ) : ℚ) * part / total) = 1) with none | all
  · rw [none]
    omega
  · rw [all]
    omega

theorem fundShare_sen (positive : ∀ line ∈ lines, 0 < line.amount)
    (several : linesByFund lines = (fund, fundTotal) :: next :: rest) :
    lineTotal lines * fundShare lines fund 1 ≠ codeTotal lines fund := by
  have pairs := linesByFund_pos positive
  have sum := sumBy_linesByFund lines
  have own := sumBy_inFund_linesByFund fund lines
  have nodup := linesByFund_nodup lines
  rw [several] at pairs sum own nodup
  have first : 0 < fundTotal := pairs (fund, fundTotal) (by simp)
  have second : 0 < next.2 := pairs next (by simp)
  have others := sumBy_nonneg Prod.snd fun pair (mem : pair ∈ rest) => le_of_lt (pairs pair (by simp [mem]))
  simp only [sumBy_cons] at sum
  have mine : codeTotal lines fund = fundTotal := by
    rw [map_cons, nodup_cons] at nodup
    rw [← own, sumBy_cons, sumBy_inFund_absent nodup.1]
    simp [inFund]
  rw [fundShare_first (by omega) several, mine]
  exact sen_share first (by omega)

theorem code_mem_linesByFund {line : InvoiceLine} (mem : line ∈ lines) :
    fundOfCode line.code ∈ (linesByFund lines).map Prod.fst := by
  induction lines using List.reverseRecOn with
  | nil => cases mem
  | append_singleton lines last ih =>
    rw [linesByFund_concat, mem_addToFund_funds]
    rcases mem_append.mp mem with earlier | same
    · exact .inr (ih earlier)
    · exact .inl (by rw [mem_singleton.mp same])

theorem mem_linesByFund_code (listed : fund ∈ (linesByFund lines).map Prod.fst) :
    ∃ line ∈ lines, fundOfCode line.code = fund := by
  induction lines using List.reverseRecOn with
  | nil => simp [linesByFund] at listed
  | append_singleton lines last ih =>
    rw [linesByFund_concat, mem_addToFund_funds] at listed
    rcases listed with rfl | earlier
    · exact ⟨last, by simp, rfl⟩
    · obtain ⟨line, mem, same⟩ := ih earlier
      exact ⟨line, mem_append_left _ mem, same⟩

theorem fundShare_single (total : 0 < lineTotal lines) (codes : ∀ line ∈ lines, fundOfCode line.code = fund)
    (other : LedgerFund) (amount : ℤ) : fundShare lines other amount = if other = fund then amount else 0 := by
  have only : ∀ pair ∈ linesByFund lines, pair.1 = fund := fun pair mem => by
    obtain ⟨line, inside, same⟩ := mem_linesByFund_code (mem_map_of_mem mem)
    exact same.symm.trans (codes line inside)
  have nodup := linesByFund_nodup lines
  cases funds : linesByFund lines with
  | nil => exact absurd funds (linesByFund_ne_nil total)
  | cons pair rest =>
    rw [funds] at only nodup
    cases rest with
    | nil =>
      obtain rfl := only pair (by simp)
      rw [fundShare, allocationsOf, if_pos total, funds]
      simp [shareOut, inFund, eq_comm]
    | cons next rest =>
      have same : pair.1 = next.1 := (only pair (by simp)).trans (only next (by simp)).symm
      simp [same] at nodup

theorem shares_settle_iff (positive : ∀ line ∈ lines, 0 < line.amount) (charged : LedgerFund → ℤ) :
    (∀ amounts : List ℤ, (∀ amount ∈ amounts, 0 < amount) → amounts.sum = lineTotal lines →
      ∀ fund, sumBy (fundShare lines fund) amounts = charged fund) ↔
    ∃ fund, (∀ line ∈ lines, fundOfCode line.code = fund) ∧
      ∀ other, charged other = if other = fund then lineTotal lines else 0 := by
  constructor
  · intro settles
    cases funds : linesByFund lines with
    | nil =>
      have empty : lines = [] := by
        by_contra some
        exact linesByFund_ne_nil (lineTotal_pos positive some) funds
      subst empty
      refine ⟨.general, by simp, fun other => ?_⟩
      simpa [lineTotal] using (settles [] (by simp) rfl other).symm
    | cons pair rest =>
      have total : 0 < lineTotal lines := lineTotal_pos positive fun empty => by
        rw [empty] at funds
        cases funds
      have whole : ∀ fund, codeTotal lines fund = charged fund := fun fund => by
        rw [← settles [lineTotal lines] (by simpa using total) (by simp) fund]
        simp [fundShare_full total]
      cases rest with
      | nil =>
        have codes : ∀ line ∈ lines, fundOfCode line.code = pair.1 := fun line mem => by
          simpa [funds] using code_mem_linesByFund mem
        refine ⟨pair.1, codes, fun other => ?_⟩
        rw [← whole, ← fundShare_full total, fundShare_single total codes]
      | cons next rest =>
        have sens := settles (List.replicate (lineTotal lines).toNat 1) (by simp)
          (by simp [le_of_lt total]) pair.1
        refine absurd ?_ (fundShare_sen positive funds)
        rw [whole, ← sens]
        simp [sumBy, le_of_lt total]
  · rintro ⟨fund, codes, charges⟩ amounts each sum other
    have shares : ∀ amount ∈ amounts, fundShare lines other amount = if other = fund then amount else 0 := by
      intro amount mem
      refine fundShare_single ?_ codes other amount
      rw [← sum]
      exact lt_of_lt_of_le (each amount mem)
        (single_le_sum (fun other inside => le_of_lt (each other inside)) amount mem)
    rw [charges, sumBy_congr shares, ← sum]
    split
    · simp [sumBy]
    · exact sumBy_zero _ fun _ _ => rfl

/-! ## The entries of the payments -/

def SettledPayment.postings (invoice : Invoice) (payment : SettledPayment) : List LedgerPosting :=
  paymentPostings invoice payment.id payment.amount payment.occurredAt payment.actorUserId

structure PaysOff (db : Db) (invoice : Invoice) (payments : List SettledPayment) : Prop where
  distinct : (payments.map SettledPayment.id).Nodup
  later : ∀ payment ∈ payments, db.nextId ≤ payment.id
  positive : ∀ payment ∈ payments, 0 < payment.amount
  sum : (payments.map SettledPayment.amount).sum = invoice.total

variable {invoice : Invoice}

theorem settleAll_eq (payments : List SettledPayment) (found : db.invoice? invoice.id = some invoice) :
    settleAll db invoice.id payments = { db with
      ledgerEntries := appendPostings db.ledgerEntries
        (payments.flatMap (SettledPayment.postings invoice)) } := by
  induction payments generalizing db with
  | nil => rfl
  | cons payment payments ih =>
    have first : recordPaymentAllocation db invoice.id payment.id payment.amount payment.occurredAt
        payment.actorUserId = { db with
          ledgerEntries := appendPostings db.ledgerEntries (payment.postings invoice) } := by
      rw [recordPaymentAllocation, found]
      rfl
    have rest := @ih { db with
      ledgerEntries := appendPostings db.ledgerEntries (payment.postings invoice) } found
    rw [settleAll] at rest ⊢
    rw [foldl_cons, first, rest, flatMap_cons, appendPostings, appendPostings, appendPostings, foldl_append]

variable {payments : List SettledPayment}

theorem settled_fresh (wf : WellFormed db) (nodup : (payments.map SettledPayment.id).Nodup)
    (later : ∀ payment ∈ payments, db.nextId ≤ payment.id) :
    FreshKeys db.ledgerEntries (payments.flatMap (SettledPayment.postings invoice)) := by
  refine freshKeys_of wf (fun posting mem key isKey => ?_) ?_
  · obtain ⟨payment, inside, posted⟩ := mem_flatMap.mp mem
    obtain ⟨allocation, _, rfl⟩ := mem_paymentPostings posted
    cases isKey
    rintro ⟨row, found, same, _⟩
    have below := wf.payment_id_lt found
    rw [same] at below
    exact absurd (later payment inside) (not_le.mpr below)
  · rw [map_flatMap, nodup_flatMap]
    refine ⟨fun payment _ => paymentPostings_keys_nodup _ _ _ _ _, ?_⟩
    refine (pairwise_map.mp nodup).imp fun {payment other} apart key first second => ?_
    obtain ⟨posting, posted, rfl⟩ := mem_map.mp first
    obtain ⟨allocation, _, rfl⟩ := mem_paymentPostings posted
    obtain ⟨posting, posted, same⟩ := mem_map.mp second
    obtain ⟨allocation, _, rfl⟩ := mem_paymentPostings posted
    simp only [paymentPosting, Option.some.injEq, IdempotencyKey.payment.injEq] at same
    exact apart same.1.symm

theorem paid_settleAll (wf : WellFormed db) (found : invoice ∈ db.invoices)
    (nodup : (payments.map SettledPayment.id).Nodup) (later : ∀ payment ∈ payments, db.nextId ≤ payment.id)
    (fund : LedgerFund) : ledgerSum (paidIn payments fund) (settleAll db invoice.id payments).ledgerEntries =
      sumBy (fundShare invoice.lines fund) (payments.map SettledPayment.amount) := by
  have before : ledgerSum (paidIn payments fund) db.ledgerEntries = 0 := by
    refine sumBy_zero _ fun entry mem => if_neg ?_
    rintro ⟨_, ⟨payment, inside, source⟩, _⟩
    have below := (wf.keys entry mem).source
    rw [source] at below
    exact absurd (later payment inside) (not_le.mpr below)
  rw [settleAll_eq payments (wf.invoice?_eq found),
    ledgerSum_appendPostings _ (settled_fresh wf nodup later), before, zero_add, sumBy_flatMap,
    sumBy_map]
  refine sumBy_congr fun payment inside => ?_
  refine sumBy_paymentPostings _ (inFund fund) (fun allocation => ?_) fun other => by simp [inFund]
  have listed : ∃ other ∈ payments, payment.id = other.id := ⟨payment, inside, rfl⟩
  simp [paidIn, inFund, paymentPosting, listed]

theorem charged_settleAll (wf : WellFormed db) (found : invoice ∈ db.invoices)
    (nodup : (payments.map SettledPayment.id).Nodup) (later : ∀ payment ∈ payments, db.nextId ≤ payment.id)
    (fund : LedgerFund) : ledgerSum (chargedIn invoice.id fund) (settleAll db invoice.id payments).ledgerEntries =
      ledgerSum (chargedIn invoice.id fund) db.ledgerEntries := by
  rw [settleAll_eq payments (wf.invoice?_eq found),
    ledgerSum_appendPostings _ (settled_fresh wf nodup later), add_eq_left]
  refine sumBy_zero _ fun posting mem => ?_
  obtain ⟨payment, _, posted⟩ := mem_flatMap.mp mem
  obtain ⟨allocation, _, rfl⟩ := mem_paymentPostings posted
  simp [chargedIn, paymentPosting]

theorem exists_payments (next : Id) (amounts : List ℤ) : ∃ payments : List SettledPayment,
    (payments.map SettledPayment.id).Nodup ∧ (∀ payment ∈ payments, next ≤ payment.id) ∧
      payments.map SettledPayment.amount = amounts := by
  refine ⟨amounts.zipIdx.map fun pair => ⟨next + pair.2, pair.1, 0, none⟩, ?_, ?_, ?_⟩
  · rw [map_map, show SettledPayment.id ∘ _ = (fun index => next + index) ∘ Prod.snd from rfl,
      ← map_map, zipIdx_map_snd]
    exact List.Nodup.map (fun first second same => Nat.add_left_cancel same) nodup_range'
  · intro payment mem
    obtain ⟨pair, _, rfl⟩ := mem_map.mp mem
    exact Nat.le_add_right next pair.2
  · rw [map_map]
    exact zipIdx_map_fst 0 amounts

theorem settles_iff (wf : WellFormed db) (found : invoice ∈ db.invoices) :
    (∀ payments, PaysOff db invoice payments → ∀ fund,
      ledgerSum (paidIn payments fund) (settleAll db invoice.id payments).ledgerEntries =
        ledgerSum (chargedIn invoice.id fund) (settleAll db invoice.id payments).ledgerEntries) ↔
    ∀ amounts : List ℤ, (∀ amount ∈ amounts, 0 < amount) → amounts.sum = invoice.total →
      ∀ fund, sumBy (fundShare invoice.lines fund) amounts =
        ledgerSum (chargedIn invoice.id fund) db.ledgerEntries := by
  constructor
  · intro settles amounts each sum fund
    obtain ⟨payments, nodup, later, rfl⟩ := exists_payments db.nextId amounts
    have pays : PaysOff db invoice payments :=
      ⟨nodup, later, fun payment mem => each _ (mem_map_of_mem mem), sum⟩
    rw [← paid_settleAll wf found nodup later, settles payments pays, charged_settleAll wf found nodup later]
  · intro settles payments pays fund
    rw [paid_settleAll wf found pays.distinct pays.later, charged_settleAll wf found pays.distinct pays.later]
    refine settles _ (fun amount mem => ?_) pays.sum fund
    obtain ⟨payment, inside, rfl⟩ := mem_map.mp mem
    exact pays.positive payment inside

/-! ## The charges of a recurring invoice -/

def ChargeLine.chargedFund (line : ChargeLine) : LedgerFund := line.fund.getD (fundOfCode line.code)

def inChargedFund (fund : LedgerFund) (line : ChargeLine) : ℤ :=
  if line.chargedFund = fund then stored line.amount else 0

theorem chargedIn_counts (invoiceId : Id) (fund : LedgerFund) : CountsCharges (chargedIn invoiceId fund) invoiceId where
  only posting other := if_neg fun found => other ⟨found.1, found.2.1⟩
  vanishes posting zero := by simp [chargedIn, zero]

theorem sumBy_chargedIn (now : Instant) (draft : InvoiceDraft) (id : Id) (actorUserId : Option Id)
    (fund : LedgerFund) : sumBy (chargedIn id fund) (chargePostings now (draft.row now id) actorUserId
      draft.lines) = sumBy (inChargedFund fund) draft.lines := by
  refine sumBy_mapIdx _ _ _ (fun index line => ?_) draft.lines
  by_cases same : line.chargedFund = fund <;>
    simp_all [chargedIn, chargePosting, inChargedFund, ChargeLine.chargedFund, InvoiceDraft.row]

theorem charged_issued {after : Db} {draft : InvoiceDraft} (commit : Commit db (.issued draft) after)
    (wf : WellFormed db) (fund : LedgerFund) :
    ledgerSum (chargedIn db.nextId fund) after.ledgerEntries = sumBy (inChargedFund fund) draft.lines := by
  obtain ⟨now, actorUserId, sum⟩ := commit.newCharges wf (chargedIn_counts db.nextId fund)
  rw [sum, sumBy_chargedIn]

theorem row_codes_iff {draft : InvoiceDraft} {now : Instant} {id : Id} :
    (∀ line ∈ (draft.row now id).lines, fundOfCode line.code = fund) ↔
      ∀ line ∈ draft.lines, fundOfCode line.code = fund := by
  constructor
  · intro codes line mem
    obtain ⟨index, inside, rfl⟩ := mem_iff_getElem.mp mem
    have stored := codes _ (mem_mapIdx.mpr ⟨index, inside, rfl⟩)
    exact stored
  · intro codes line mem
    obtain ⟨index, inside, rfl⟩ := mem_mapIdx.mp mem
    exact codes _ (getElem_mem inside)

section

variable {draft : InvoiceDraft} (amounts : ∀ line ∈ draft.lines, ∃ n : ℤ, 0 < n ∧ line.amount = n)
include amounts

theorem draft_positive (now : Instant) (id : Id) : ∀ line ∈ (draft.row now id).lines, 0 < line.amount := by
  intro line mem
  obtain ⟨index, inside, rfl⟩ := mem_mapIdx.mp mem
  obtain ⟨n, positive, same⟩ := amounts _ (getElem_mem inside)
  simpa [same] using positive

theorem draft_lineTotal (now : Instant) (id : Id) : lineTotal (draft.row now id).lines = (draft.row now id).total := by
  have whole : ∀ line ∈ draft.lines, Whole line.amount := fun line mem => (amounts line mem).imp fun _ => And.right
  rw [InvoiceDraft.row, InvoiceDraft.subtotal, ← stored_sum whole]
  exact sumBy_mapIdx InvoiceLine.amount
    (fun i (line : ChargeLine) => (⟨line.code, line.description, stored line.amount, i⟩ : InvoiceLine)) _
    (fun _ _ => rfl) draft.lines

theorem chargedFund_of_sums {fund : LedgerFund}
    (sums : ∀ other, other ≠ fund → sumBy (inChargedFund other) draft.lines = 0) :
    ∀ line ∈ draft.lines, line.chargedFund = fund := by
  intro line mem
  by_contra ne
  obtain ⟨n, positive, same⟩ := amounts line mem
  have nonneg : ∀ other ∈ draft.lines, 0 ≤ inChargedFund line.chargedFund other := fun other inside => by
    obtain ⟨m, more, also⟩ := amounts other inside
    rw [inChargedFund]
    split
    · simpa [also] using le_of_lt more
    · exact le_rfl
  have share := le_sumBy _ nonneg mem
  rw [sums _ ne] at share
  simp only [inChargedFund, if_true, same, stored_intCast] at share
  omega

theorem single_fund_iff (funds : ∀ line ∈ draft.lines, ∃ fund, line.fund = some fund) (now : Instant)
    (id : Id) (fund : LedgerFund) : ((∀ line ∈ (draft.row now id).lines, fundOfCode line.code = fund) ∧ ∀ other,
        sumBy (inChargedFund other) draft.lines = if other = fund then lineTotal (draft.row now id).lines else 0) ↔
      ∀ line ∈ draft.lines, line.fund = some fund ∧ fundOfCode line.code = fund := by
  rw [row_codes_iff, draft_lineTotal amounts]
  constructor
  · rintro ⟨codes, sums⟩ line mem
    obtain ⟨own, isOwn⟩ := funds line mem
    have same := chargedFund_of_sums amounts (fun other ne => by rw [sums, if_neg ne])
      line mem
    rw [ChargeLine.chargedFund, isOwn] at same
    exact ⟨isOwn.trans (congrArg some same), codes line mem⟩
  · intro single
    refine ⟨fun line mem => (single line mem).2, fun other => ?_⟩
    have own : ∀ line ∈ draft.lines, line.chargedFund = fund := fun line mem => by
      rw [ChargeLine.chargedFund, (single line mem).1, Option.getD_some]
    split
    · rename_i same
      subst same
      have all : ∀ line ∈ draft.lines, inChargedFund other line = stored line.amount :=
        fun line mem => if_pos (own line mem)
      rw [sumBy_congr all, stored_sum fun line mem => (amounts line mem).imp fun _ => And.right]
      rfl
    · rename_i ne
      exact sumBy_zero _ fun line mem => if_neg fun same => ne (same.symm.trans (own line mem))

end

theorem plan_amounts {scheduled : Db} {condoId : Id} {dto : GenerateRecurringDto} {plan : PlannedBill}
    (bare : explicitLines dto = []) (planned : plan ∈ plannedBills scheduled condoId dto) :
    ∀ line ∈ plan.lines, (∃ fund, line.fund = some fund) ∧ ∃ n : ℤ, 0 < n ∧ line.amount = n := by
  obtain ⟨unit, _, rfl⟩ := mem_map.mp planned
  intro line mem
  simp only [linesForUnit, bare] at mem
  obtain ⟨computed, inside, rfl⟩ := mem_map.mp mem
  exact ⟨⟨computed.fund, rfl⟩, computedLine_amount inside⟩

/-- The payments of a bill reach the funds it charged, however they are split, if and only if the whole
bill is charged to one fund and the codes of its lines name that fund. -/
theorem funds_settle_iff {start issued scheduled : Db} {changes : List Change} {now : Instant}
    {condoId : Id} {dto : GenerateRecurringDto} {plan : PlannedBill} {actorUserId : Option Id}
    {invoice : Invoice} (fresh : Fresh start) (run : Run Commit start changes db)
    (bare : explicitLines dto = []) (planned : plan ∈ plannedBills scheduled condoId dto)
    (issue : issueInvoice now db (plan.draft condoId dto) actorUserId = .ok (issued, invoice)) :
    (∀ payments, PaysOff issued invoice payments → ∀ fund,
      ledgerSum (paidIn payments fund) (settleAll issued invoice.id payments).ledgerEntries =
        ledgerSum (chargedIn invoice.id fund) (settleAll issued invoice.id payments).ledgerEntries) ↔
    ∃ fund, ∀ line ∈ plan.lines, line.fund = some fund ∧ fundOfCode line.code = fund := by
  have before : WellFormed db := wellFormed_of_commits run (.fresh fresh)
  obtain ⟨commit, row, found⟩ := issueInvoice_commit issue
  have lines := plan_amounts bare planned
  have amounts : ∀ line ∈ (plan.draft condoId dto).lines, ∃ n : ℤ, 0 < n ∧ line.amount = n :=
    fun line member => (lines line member).2
  have positive : ∀ line ∈ invoice.lines, 0 < line.amount := row ▸ draft_positive amounts now db.nextId
  have total : lineTotal invoice.lines = invoice.total := row ▸ draft_lineTotal amounts now db.nextId
  have charged : ∀ fund, ledgerSum (chargedIn invoice.id fund) issued.ledgerEntries =
      sumBy (inChargedFund fund) plan.lines := row ▸ charged_issued commit before
  rw [settles_iff (commit.wellFormed before) found, ← total]
  simp only [charged]
  rw [shares_settle_iff positive, row]
  exact exists_congr fun fund =>
    single_fund_iff amounts (fun line member => (lines line member).1) now db.nextId fund

namespace Sample

def monthly : GenerateRecurringDto := ⟨0, 0, 0, none, none⟩

def rated : Db :=
  { Sample.db with
    units := [⟨7, 5, none, some 3⟩]
    feeRates := [⟨3, .flat, 10000, .flat, 0⟩] }

def withLift : Db :=
  { rated with
    extraLines := [⟨1, 5, "LIFT", "Lift replacement", .sinkingFund, .flat, 5000, [], true, none, none,
      true, 0, 0⟩] }

theorem rated_fresh : Fresh rated := ⟨by decide, rfl, rfl, rfl, rfl, rfl, rfl, rfl⟩

end Sample

theorem funds_settle_maintenance : ∃ plan ∈ plannedBills Sample.rated 5 Sample.monthly,
    ∃ issued invoice,
      issueInvoice 0 Sample.rated (plan.draft 5 Sample.monthly) none = .ok (issued, invoice) ∧
      ∀ payments, PaysOff issued invoice payments → ∀ fund,
        ledgerSum (paidIn payments fund) (settleAll issued invoice.id payments).ledgerEntries =
          ledgerSum (chargedIn invoice.id fund) (settleAll issued invoice.id payments).ledgerEntries := by
  have bills : ∃ plan ∈ plannedBills Sample.rated 5 Sample.monthly,
      (issueInvoice 0 Sample.rated (plan.draft 5 Sample.monthly) none).map (fun _ => ()) = .ok () ∧
      ∀ line ∈ plan.lines, line.fund = some .maintenance ∧ fundOfCode line.code = .maintenance := by
    decide +kernel
  obtain ⟨plan, planned, issues, single⟩ := bills
  obtain ⟨⟨issued, invoice⟩, issue, _⟩ := map_eq_ok.mp issues
  exact ⟨plan, planned, issued, invoice, issue,
    (funds_settle_iff Sample.rated_fresh .done rfl planned issue).mpr ⟨_, single⟩⟩

theorem funds_unsettled_lift : ∃ db invoice,
    Run (Completes Sample.env) Sample.withLift
      [⟨0, .generateRecurring (some Sample.admin) 5 Sample.monthly ⟨false, none⟩⟩,
        ⟨1, .recordManualPayment Sample.admin 0 (Sample.manual none le_rfl)⟩] db ∧
    invoice ∈ db.invoices ∧ paidSoFar db invoice.id = invoice.total ∧
    ledgerSum (chargedIn invoice.id .sinkingFund) db.ledgerEntries = 5000 ∧
    ∀ entry ∈ db.ledgerEntries, entry.type = .payment → entry.fund ≠ .sinkingFund := by
  have ends : (runAll Sample.env (fun _ _ => true) Sample.withLift
      [⟨0, .generateRecurring (some Sample.admin) 5 Sample.monthly ⟨false, none⟩⟩,
        ⟨1, .recordManualPayment Sample.admin 0 (Sample.manual none le_rfl)⟩]).map (fun db =>
      decide (∃ invoice ∈ db.invoices, paidSoFar db invoice.id = invoice.total ∧
        ledgerSum (chargedIn invoice.id .sinkingFund) db.ledgerEntries = 5000 ∧
        ∀ entry ∈ db.ledgerEntries, entry.type = .payment → entry.fund ≠ .sinkingFund)) = .ok true := by
    decide +kernel
  obtain ⟨db, ran, holds⟩ := map_eq_ok.mp ends
  obtain ⟨invoice, found, paid, charged, none⟩ := of_decide_eq_true holds
  exact ⟨db, invoice, completes_of_runAll ran, found, paid, charged, none⟩

end SmartResidence.Billing
