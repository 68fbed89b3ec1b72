import SmartResidence.Proof.SessionRules
import SmartResidence.Proof.Requests

/-!
# An invoice that several sessions settle at once
-/

namespace SmartResidence.Billing

open Foundation Foundation.Discipline List

variable {start db now after opened : Db} {invoiceId : Id} {amount : ℤ}

def succeededOf (weight : ℤ → ℤ) (db : Db) (invoiceId : Id) : ℤ :=
  sumBy (fun payment => if payment.invoiceId = invoiceId ∧ payment.status = .succeeded then
    weight payment.amount else 0) db.payments

def settlements (db : Db) (invoiceId : Id) : ℤ := succeededOf (fun _ => 1) db invoiceId

theorem paidSoFar_succeededOf (db : Db) (invoiceId : Id) :
    paidSoFar db invoiceId = succeededOf (fun amount => amount) db invoiceId := by
  simp [paidSoFar, succeededOf, sumBy_filter]

def paymentRows (db : Db) (id : Id) : List Payment := db.payments.filter fun payment => decide (payment.id = id)

theorem mem_paymentRows {payment : Payment} : payment ∈ paymentRows db payment.id ↔ payment ∈ db.payments := by
  simp [paymentRows]

theorem succeededOf_congr (same : after.payments = db.payments) (weight : ℤ → ℤ) (invoiceId : Id) :
    succeededOf weight after invoiceId = succeededOf weight db invoiceId := by
  simp only [succeededOf, same]

theorem paymentRows_congr (same : after.payments = db.payments) (id : Id) :
    paymentRows after id = paymentRows db id := by
  simp only [paymentRows, same]

/-! ## The books of the invoices -/

structure SettledBooks (start db : Db) : Prop where
  invoiceIds : (db.invoices.map Invoice.id).Nodup
  paymentIds : (db.payments.map Payment.id).Nodup
  amounts : ∀ payment ∈ db.payments, 0 ≤ payment.amount
  paid : ∀ invoice ∈ db.invoices, invoice.amountPaid = paidSoFar db invoice.id
  full : ∀ invoice ∈ db.invoices, invoice.status = .paid → invoice.total ≤ invoice.amountPaid
  grown : ∀ id, settlements start id ≤ settlements db id
  settled : ∀ invoice ∈ db.invoices, settlements start invoice.id < settlements db invoice.id →
    (invoice.status = .paid ↔ invoice.total ≤ invoice.amountPaid)

def SettlesCurrent : Statement → Db → Db → Prop
  | .settlesInvoice id, seen, now => paidSoFar now id = paidSoFar seen id
  | _, _, _ => True

structure Keeps (before after : Db) : Prop where
  totals : after.invoices.map (fun invoice => (invoice.id, invoice.total)) =
    before.invoices.map fun invoice => (invoice.id, invoice.total)
  payments : ∀ payment ∈ before.payments, ∃ later ∈ after.payments,
    later.id = payment.id ∧ later.invoiceId = payment.invoiceId

def KeptBy : Lock → Db → Db → Prop
  | .invoice id, before, after => ∀ row, before.invoice? id = some row →
      after.invoice? id = some row ∧ ∀ weight, succeededOf weight after id = succeededOf weight before id
  | .payment id, before, after => paymentRows after id = paymentRows before id
  | .newId id, before, after => paymentRows before id = [] → paymentRows after id = []
  | _, _, _ => True

def settlingDiscipline (start : Db) : Discipline Db Lock where
  Inv := SettledBooks start
  Grows := Keeps
  Same := KeptBy
  grows_refl _ := ⟨rfl, fun payment member => ⟨payment, member, rfl, rfl⟩⟩
  grows_trans first second := by
    refine ⟨second.totals.trans first.totals, fun payment member => ?_⟩
    obtain ⟨middle, found, id, invoice⟩ := first.payments payment member
    obtain ⟨last, also, sameId, sameInvoice⟩ := second.payments middle found
    exact ⟨last, also, sameId.trans id, sameInvoice.trans invoice⟩
  same_refl lock db := by
    cases lock with
    | invoice id => exact fun row found => ⟨found, fun _ => rfl⟩
    | payment id => exact rfl
    | newId id => exact fun none => none
    | _ => exact trivial
  same_trans {lock first second third} one two := by
    cases lock with
    | invoice id =>
        intro row found
        obtain ⟨middle, sums⟩ := one row found
        obtain ⟨last, more⟩ := two row middle
        exact ⟨last, fun weight => (more weight).trans (sums weight)⟩
    | payment id => exact Eq.trans two one
    | newId id => exact fun none => two (one none)
    | _ => exact trivial

theorem neutral_of_same {change : Db → Db} (invoices : ∀ db, (change db).invoices = db.invoices)
    (payments : ∀ db, (change db).payments = db.payments) : (settlingDiscipline start).Neutral change := by
  intro db inv
  have books : SettledBooks start db := inv
  have sums : ∀ weight id, succeededOf weight (change db) id = succeededOf weight db id :=
    fun weight id => succeededOf_congr (payments db) weight id
  refine ⟨⟨?_, ?_, ?_, ?_, ?_, ?_, ?_⟩, ⟨by rw [invoices], ?_⟩, ?_⟩
  · rw [invoices]; exact books.invoiceIds
  · rw [payments]; exact books.paymentIds
  · rw [payments]; exact books.amounts
  · rw [invoices]
    intro invoice mem
    rw [paidSoFar_succeededOf, sums, ← paidSoFar_succeededOf]
    exact books.paid invoice mem
  · rw [invoices]; exact books.full
  · intro id
    simp only [settlements, sums]
    exact books.grown id
  · rw [invoices]
    intro invoice mem
    simp only [settlements, sums]
    exact books.settled invoice mem
  · rw [payments]
    exact fun payment mem => ⟨payment, mem, rfl, rfl⟩
  · intro lock _
    cases lock with
    | invoice id =>
      intro row found
      refine ⟨?_, fun weight => sums weight id⟩
      rw [Db.invoice?, invoices]
      exact found
    | payment id => exact paymentRows_congr (payments db) id
    | newId id =>
      intro none
      rw [paymentRows_congr (payments db)]
      exact none
    | _ => exact trivial

/-! ## A payment succeeds, and the invoice is settled -/

structure Opened (held : List Lock) (invoiceId : Id) (amount : ℤ) (before after : Db) : Prop where
  invoices : after.invoices = before.invoices
  paymentIds : (after.payments.map Payment.id).Nodup
  amounts : ∀ payment ∈ after.payments, 0 ≤ payment.amount
  adds : ∀ weight other, succeededOf weight after other =
    succeededOf weight before other + if other = invoiceId then weight amount else 0
  stays : ∀ payment ∈ before.payments, ∃ later ∈ after.payments,
    later.id = payment.id ∧ later.invoiceId = payment.invoiceId
  locked : ∀ id, Lock.payment id ∉ held → paymentRows after id = paymentRows before id
  unused : ∀ id, Lock.newId id ∉ held → paymentRows before id = [] → paymentRows after id = []

theorem Opened.paid {held : List Lock} (opens : Opened held invoiceId amount db opened) (other : Id) :
    paidSoFar opened other = paidSoFar db other + if other = invoiceId then amount else 0 := by
  simp only [paidSoFar_succeededOf]
  exact opens.adds (fun amount => amount) other

theorem Opened.count {held : List Lock} (opens : Opened held invoiceId amount db opened) (other : Id) :
    settlements opened other = settlements db other + if other = invoiceId then 1 else 0 :=
  opens.adds (fun _ => 1) other

theorem Opened.mono {held more : List Lock} (opens : Opened held invoiceId amount db opened)
    (subset : held ⊆ more) : Opened more invoiceId amount db opened :=
  { opens with
    locked := fun id free => opens.locked id fun mem => free (subset mem)
    unused := fun id free => opens.unused id fun mem => free (subset mem) }

theorem Opened.guarantee {held : List Lock} (opens : Opened held invoiceId amount db opened)
    (books : SettledBooks start db) (missing : db.invoice? invoiceId = none) :
    (settlingDiscipline start).Guarantee held db opened := by
  have other : ∀ invoice ∈ db.invoices, invoice.id ≠ invoiceId := findBy_eq_none.mp missing
  refine ⟨⟨?_, opens.paymentIds, opens.amounts, ?_, ?_, ?_, ?_⟩, ⟨by rw [opens.invoices], opens.stays⟩, ?_⟩
  · rw [opens.invoices]; exact books.invoiceIds
  · rw [opens.invoices]
    intro invoice mem
    rw [opens.paid, if_neg (other invoice mem), add_zero]
    exact books.paid invoice mem
  · rw [opens.invoices]; exact books.full
  · intro id
    have before := books.grown id
    rw [opens.count]
    split <;> omega
  · rw [opens.invoices]
    intro invoice mem
    rw [opens.count, if_neg (other invoice mem), add_zero]
    exact books.settled invoice mem
  · intro lock free
    cases lock with
    | invoice id =>
      intro row found
      obtain ⟨mem, named⟩ := mem_of_findBy found
      refine ⟨?_, fun weight => ?_⟩
      · rw [Db.invoice?, opens.invoices]
        exact found
      · rw [opens.adds, if_neg (named ▸ other row mem), add_zero]
    | payment id => exact opens.locked id free
    | newId id => exact opens.unused id free
    | _ => exact trivial

variable {paid : ℤ}

theorem settledStatus_paid {invoice : Invoice} (stale : invoice.status = .paid → invoice.total ≤ paid) :
    settledStatus invoice paid = .paid ↔ invoice.total ≤ paid := by
  rw [settledStatus]
  split
  · rename_i reached
    simp [reached]
  · rename_i short
    split
    · simp [not_le.mp short]
    · exact ⟨stale, fun reached => absurd reached short⟩

theorem Opened.settle {held : List Lock} {instant : Instant} {invoice row : Invoice}
    (opens : Opened held invoiceId amount db opened) (books : SettledBooks start db)
    (found : db.invoice? invoiceId = some row) (total : row.total = invoice.total)
    (sum : paid = paidSoFar opened invoiceId) (stale : invoice.status = .paid → invoice.total ≤ paid)
    (locked : Lock.invoice invoiceId ∈ held) : (settlingDiscipline start).Guarantee held db
      (opened.changeInvoice invoiceId (Sql.settledRow instant paid invoice)) := by
  obtain ⟨rowMember, rowNamed⟩ := mem_of_findBy found
  have keepsId : ∀ other : Invoice, (Sql.settledRow instant paid invoice other).id = other.id := fun _ => rfl
  have listed : ∀ other ∈ (opened.changeInvoice invoiceId (Sql.settledRow instant paid invoice)).invoices,
      (other ∈ db.invoices ∧ other.id ≠ invoiceId) ∨ other = Sql.settledRow instant paid invoice row := by
    intro other mem
    rw [Db.changeInvoice, opens.invoices] at mem
    obtain ⟨old, known, rfl⟩ := mem_updateBy.mp mem
    by_cases own : old.id = invoiceId
    · have same : old = row := eq_of_key_eq books.invoiceIds known rowMember (own.trans rowNamed.symm)
      rw [if_pos own, same]
      exact .inr rfl
    · rw [if_neg own]
      exact .inl ⟨known, own⟩
  have status := settledStatus_paid stale
  refine ⟨⟨?_, opens.paymentIds, opens.amounts, ?_, ?_, ?_, ?_⟩, ⟨?_, opens.stays⟩, ?_⟩
  · rw [Db.changeInvoice, opens.invoices, map_key_updateBy keepsId]
    exact books.invoiceIds
  · intro other mem
    show other.amountPaid = paidSoFar opened other.id
    rcases listed other mem with ⟨old, ne⟩ | rfl
    · rw [opens.paid, if_neg ne, add_zero]
      exact books.paid other old
    · rw [keepsId, rowNamed]
      exact sum
  · intro other mem full
    rcases listed other mem with ⟨old, _⟩ | rfl
    · exact books.full other old full
    · exact total.le.trans (status.mp full)
  · intro id
    have before := books.grown id
    show settlements start id ≤ settlements opened id
    rw [opens.count]
    split <;> omega
  · intro other mem
    show settlements start other.id < settlements opened other.id → _
    rcases listed other mem with ⟨old, ne⟩ | rfl
    · rw [opens.count, if_neg ne, add_zero]
      exact books.settled other old
    · intro _
      show settledStatus invoice paid = .paid ↔ row.total ≤ paid
      rw [total]
      exact status
  · rw [Db.changeInvoice, opens.invoices, updateBy, map_updateWhere]
    exact fun _ _ _ => rfl
  · intro lock free
    cases lock with
    | invoice id =>
      have ne : id ≠ invoiceId := fun same => free (same ▸ locked)
      intro other known
      obtain ⟨_, named⟩ := mem_of_findBy known
      refine ⟨?_, fun weight => ?_⟩
      · rw [Db.invoice?] at known ⊢
        rw [Db.changeInvoice, opens.invoices, findBy_updateBy keepsId, known, Option.map_some, if_neg (named ▸ ne)]
      · have adds := opens.adds weight id
        rw [if_neg ne, add_zero] at adds
        exact adds
    | payment id => exact opens.locked id free
    | newId id => exact opens.unused id free
    | _ => exact trivial

/-! ## The scripts -/

section

variable {standing : Standing Db Lock} {instant : Instant}

structure Opens (start : Db) (invoiceId : Id) (amount : ℤ) (standing : Standing Db Lock) : Prop where
  nonneg : 0 ≤ amount
  opened : ∀ now, (settlingDiscipline start).Rely standing.held standing.seen now →
    Opened standing.held invoiceId amount now (standing.pending now)

theorem Keeps.invoice (keeps : Keeps db after) {invoice : Invoice} (found : db.invoice? invoiceId = some invoice)
    (nodup : (after.invoices.map Invoice.id).Nodup) :
    ∃ later, after.invoice? invoiceId = some later ∧ later.total = invoice.total := by
  obtain ⟨mem, named⟩ := mem_of_findBy found
  have pair : (invoice.id, invoice.total) ∈ after.invoices.map fun row => (row.id, row.total) := by
    rw [keeps.totals]
    exact mem_map_of_mem (f := fun row : Invoice => (row.id, row.total)) mem
  obtain ⟨later, known, same⟩ := mem_map.mp pair
  obtain ⟨id, total⟩ := Prod.mk.inj same
  refine ⟨later, ?_, total⟩
  rw [← named, ← id]
  exact findBy_of_mem nodup known

theorem Keeps.missing (keeps : Keeps db after) (missing : db.invoice? invoiceId = none) :
    after.invoice? invoiceId = none := by
  rw [Db.invoice?, findBy_eq_none] at missing ⊢
  intro row mem same
  have pair : (row.id, row.total) ∈ db.invoices.map fun row => (row.id, row.total) := by
    rw [← keeps.totals]
    exact mem_map_of_mem (f := fun row : Invoice => (row.id, row.total)) mem
  obtain ⟨old, known, pairs⟩ := mem_map.mp pair
  exact missing old known ((Prod.mk.inj pairs).1.trans same)

theorem neutral_addReceipt (receipt : Receipt) : (settlingDiscipline start).Neutral fun db => db.addReceipt receipt :=
  neutral_of_same (fun _ => rfl) fun _ => rfl

theorem neutral_record (posting : LedgerPosting) : (settlingDiscipline start).Neutral fun db => db.record posting :=
  neutral_of_same (fun _ => rfl) fun _ => rfl

theorem neutral_recordMany (postings : List LedgerPosting) :
    (settlingDiscipline start).Neutral fun db => db.recordMany postings :=
  neutral_of_same (fun _ => rfl) fun _ => rfl

theorem neutral_incrementCredit (unitId : Id) (amount : ℤ) :
    (settlingDiscipline start).Neutral fun db => db.incrementCredit unitId amount :=
  neutral_of_same (fun _ => rfl) fun _ => rfl

variable {wanted : Unit → Standing Db Lock → Prop}

theorem safe_settleInvoice {paymentId : Id} {actorUserId : Option Id} (opens : Opens start invoiceId amount standing)
    (fits : ∀ after, (settlingDiscipline start).Sound after → wanted () after) :
    (settlingDiscipline start).Safe SettlesCurrent (Upon wanted)
      (Sql.settleInvoice instant invoiceId paymentId actorUserId) standing := by
  apply safe_bind
  refine safe_read fun summed first => ?_
  apply safe_bind
  refine safe_statement fun looked second current result found => ?_
  have sameSum : paidSoFar looked invoiceId = paidSoFar summed invoiceId := current _ rfl
  have lookedBooks : SettledBooks start looked := second.inv
  have invoices : (standing.pending looked).invoices = looked.invoices :=
    (opens.opened looked (first.trans second)).invoices
  rw [Except.ok.injEq] at found
  have located : looked.invoice? invoiceId = result := by
    rw [← found]
    show findBy Invoice.id invoiceId looked.invoices = findBy Invoice.id invoiceId _
    rw [← invoices]
    rfl
  cases result with
  | none =>
    refine safe_pure (fits _ fun now rely => ?_)
    have later := (first.trans second).trans rely
    have books : SettledBooks start now := later.inv
    exact (opens.opened now later).guarantee books (rely.grows.missing located)
  | some invoice =>
    apply safe_bind
    refine safe_statement fun written third unchanged _ _ => ?_
    have sameAgain : paidSoFar written invoiceId = paidSoFar looked invoiceId := unchanged _ rfl
    have writtenBooks : SettledBooks start written := third.inv
    obtain ⟨row, kept, total⟩ := third.grows.invoice located writtenBooks.invoiceIds
    obtain ⟨mem, named⟩ := mem_of_findBy located
    refine Sql.quiet_bookPayment neutral_addReceipt (fun _ _ _ _ _ => neutral_recordMany _)
      fun after quiet => fits _ (Sound.quietly ?_ quiet)
    intro now rely
    have later := ((first.trans second).trans third).trans (rely.mono (subset_append_right _ _))
    have books : SettledBooks start now := later.inv
    have locked : Lock.invoice invoiceId ∈
        Sql.settledLocks invoice (paidSoFar (standing.pending summed) invoiceId) ++ standing.held := by
      simp [Sql.settledLocks, ← named]
    obtain ⟨last, sums⟩ := rely.same _ locked row kept
    have lastSum : paidSoFar now invoiceId = paidSoFar summed invoiceId := by
      rw [← sameSum, ← sameAgain]
      simp only [paidSoFar_succeededOf]
      exact sums _
    have own : paidSoFar (standing.pending summed) invoiceId = paidSoFar summed invoiceId + amount := by
      rw [(opens.opened summed first).paid, if_pos rfl]
    have lastOwn : paidSoFar (standing.pending now) invoiceId = paidSoFar now invoiceId + amount := by
      rw [(opens.opened now later).paid, if_pos rfl]
    have sum : paidSoFar (standing.pending summed) invoiceId = paidSoFar (standing.pending now) invoiceId := by
      rw [own, lastOwn, lastSum]
    have stale : invoice.status = .paid → invoice.total ≤ paidSoFar (standing.pending summed) invoiceId := by
      intro full
      have reached := lookedBooks.full invoice mem full
      have paid := lookedBooks.paid invoice mem
      rw [named] at paid
      have nonneg := opens.nonneg
      omega
    exact ((opens.opened now later).mono (subset_append_right _ _)).settle books last total sum stale
      locked

theorem paymentRows_unused {id : Id} (unused : db.usesId id = false) : paymentRows db id = [] := by
  rw [paymentRows, filter_eq_nil_iff]
  intro payment mem same
  have used : db.usesId id = true := by
    simp only [Db.usesId, mem_append, decide_eq_true_eq]
    exact .inl (.inl (.inl (.inl (.inr (mem_map.mpr ⟨payment, mem, of_decide_eq_true same⟩)))))
  rw [used] at unused
  cases unused

variable {payment : Payment}

theorem opened_inserted {held : List Lock} (books : SettledBooks start db) (unused : paymentRows db payment.id = [])
    (succeeded : payment.status = .succeeded) (nonneg : 0 ≤ payment.amount) (locked : Lock.payment payment.id ∈ held)
    (taken : Lock.newId payment.id ∈ held) :
    Opened held payment.invoiceId payment.amount db (db.addPayment payment) where
  invoices := rfl
  paymentIds := by
    simp only [Db.addPayment, map_append, map_singleton, nodup_append]
    refine ⟨books.paymentIds, nodup_singleton _, fun id mem other single same => ?_⟩
    obtain ⟨row, found, named⟩ := mem_map.mp mem
    rw [mem_singleton] at single
    have listed : row ∈ paymentRows db payment.id :=
      mem_filter.mpr ⟨found, decide_eq_true (named.trans (same.trans single))⟩
    rw [unused] at listed
    cases listed
  amounts := by
    intro row mem
    rcases mem_append.mp mem with old | new
    · exact books.amounts row old
    · rw [mem_singleton.mp new]
      exact nonneg
  adds := by
    intro weight other
    by_cases own : other = payment.invoiceId
    · simp [succeededOf, Db.addPayment, succeeded, own]
    · simp [succeededOf, Db.addPayment, own, Ne.symm own]
  stays row mem := ⟨row, mem_append_left _ mem, rfl, rfl⟩
  locked := by
    intro id free
    have other : payment.id ≠ id := fun same => free (same ▸ locked)
    simp [paymentRows, Db.addPayment, other]
  unused := by
    intro id free none
    have other : payment.id ≠ id := fun same => free (same ▸ taken)
    simpa [paymentRows, Db.addPayment, other] using none

theorem safe_settleNew (invoiceId : Id) {row : Id → Payment} {rest : Id → Sql Unit} (idle : standing.pending = id)
    (ids : ∀ id, (row id).id = id) (invoices : ∀ id, (row id).invoiceId = invoiceId)
    (succeeded : ∀ id, (row id).status = .succeeded) (nonneg : ∀ id, 0 ≤ (row id).amount)
    (fits : ∀ id after amount, Opens start invoiceId amount after →
      (settlingDiscipline start).Safe SettlesCurrent (Upon wanted) (rest id) after) :
    (settlingDiscipline start).Safe SettlesCurrent (Upon wanted) (do
        let paymentId ← Sql.insertPayment row
        rest paymentId) standing := by
  refine Sql.safe_insertPayment fun id seen now rely unused later => ?_
  refine fits id _ (row id).amount ⟨nonneg id, fun last final => ?_⟩
  have books : SettledBooks start last := final.inv
  have none : paymentRows seen id = [] := by
    rw [idle] at unused
    exact paymentRows_unused unused
  have noneNow : paymentRows now id = [] := later.same (.newId id) (by simp) none
  have noneLast : paymentRows last id = paymentRows now id := final.same (.payment id) (by simp [Standing.wrote])
  have opens : Opened (standing.wrote now [.payment id, .newId id] fun db => db.addPayment (row id)).held
      (row id).invoiceId (row id).amount last (last.addPayment (row id)) := by
    refine opened_inserted books ?_ (succeeded id) (nonneg id) ?_ ?_
    · rw [ids, noneLast, noneNow]
    · simp [Standing.wrote, ids]
    · simp [Standing.wrote, ids]
  rw [invoices] at opens
  show Opened _ invoiceId _ last (((fun db => db.addPayment (row id)) ∘ standing.pending) last)
  rw [idle]
  exact opens

/-! ### A pending payment -/

section

variable {ids : List Id} {change : Payment → Payment} {held : List Lock}

theorem paymentRows_update (db : Db) (ids : List Id) (keeps : ∀ row, (change row).id = row.id) (id : Id) :
    paymentRows (db.updatePayments (fun row => decide (row.id ∈ ids)) change) id =
      (paymentRows db id).map fun row => if row.id ∈ ids then change row else row := by
  rw [paymentRows, Db.updatePayments, updateWhere, filter_map]
  simp only [decide_eq_true_eq]
  congr 1
  refine filter_congr fun row _ => ?_
  simp only [Function.comp_apply]
  split
  · rw [keeps]
  · rfl

theorem paymentRows_update_other (db : Db) (keeps : ∀ row, (change row).id = row.id) {id : Id} (other : id ∉ ids) :
    paymentRows (db.updatePayments (fun row => decide (row.id ∈ ids)) change) id = paymentRows db id := by
  rw [paymentRows_update db ids keeps, map_congr_left (g := fun row => row), map_id']
  intro row mem
  have named : row.id = id := of_decide_eq_true (mem_filter.mp mem).2
  rw [named, if_neg other]

theorem stays_update (db : Db) (ids : List Id) (keeps : ∀ row, (change row).id = row.id)
    (invoices : ∀ row, (change row).invoiceId = row.invoiceId) :
    ∀ payment ∈ db.payments, ∃ later ∈ (db.updatePayments (fun row => decide (row.id ∈ ids)) change).payments,
      later.id = payment.id ∧ later.invoiceId = payment.invoiceId := by
  intro payment mem
  refine ⟨_, mem_updateWhere.mpr ⟨payment, mem, rfl⟩, ?_⟩
  split
  · exact ⟨keeps payment, invoices payment⟩
  · exact ⟨rfl, rfl⟩

theorem succeed_id (row : Payment) : (succeed instant row).id = row.id := rfl

theorem cancelled_id (row : Payment) : (Sql.cancelled row).id = row.id := rfl

variable {payment : Payment}

theorem opened_confirmed (books : SettledBooks start db) (mem : payment ∈ db.payments)
    (pending : payment.status = .pending) (own : ∀ id, id ∈ ids ↔ id = payment.id)
    (locked : Lock.payment payment.id ∈ held) : Opened held payment.invoiceId payment.amount db
      (db.updatePayments (fun row => decide (row.id ∈ ids)) (succeed instant)) where
  invoices := rfl
  paymentIds := by
    rw [Db.updatePayments, map_updateWhere]
    · exact books.paymentIds
    · exact fun _ _ _ => rfl
  amounts := by
    intro row found
    obtain ⟨old, known, rfl⟩ := mem_updateWhere.mp found
    split
    · exact books.amounts old known
    · exact books.amounts old known
  adds := by
    intro weight other
    have same : updateWhere (fun row => decide (row.id ∈ ids)) (succeed instant) db.payments =
        updateBy Payment.id payment.id (succeed instant) db.payments := by
      simp only [own]
      rfl
    rw [succeededOf, Db.updatePayments, same, sumBy_updateBy _ books.paymentIds mem, succeededOf]
    simp [succeed, pending, eq_comm]
  stays := stays_update db ids succeed_id fun _ => rfl
  locked := by
    intro id free
    refine paymentRows_update_other db succeed_id fun mem => free ?_
    rw [(own id).mp mem]
    exact locked
  unused := by
    intro id _ none
    rw [paymentRows_update db ids succeed_id, none, map_nil]

theorem Opened.cancel (opens : Opened held invoiceId amount db opened)
    (pending : ∀ payment ∈ opened.payments, payment.id ∈ ids → payment.status = .pending)
    (locked : ∀ id ∈ ids, Lock.payment id ∈ held) : Opened held invoiceId amount db
      (opened.updatePayments (fun row => decide (row.id ∈ ids)) Sql.cancelled) where
  invoices := opens.invoices
  paymentIds := by
    rw [Db.updatePayments, map_updateWhere]
    · exact opens.paymentIds
    · exact fun _ _ _ => rfl
  amounts := by
    intro row found
    obtain ⟨old, known, rfl⟩ := mem_updateWhere.mp found
    split
    · exact opens.amounts old known
    · exact opens.amounts old known
  adds := by
    intro weight other
    rw [← opens.adds weight other]
    refine sumBy_updateWhere_kept fun payment mem pick => ?_
    simp [Sql.cancelled, pending payment mem (of_decide_eq_true pick)]
  stays := by
    intro payment mem
    obtain ⟨middle, found, id, invoice⟩ := opens.stays payment mem
    obtain ⟨later, also, sameId, sameInvoice⟩ := stays_update opened ids cancelled_id (fun _ => rfl)
      middle found
    exact ⟨later, also, sameId.trans id, sameInvoice.trans invoice⟩
  locked := by
    intro id free
    have rows := paymentRows_update_other opened cancelled_id fun mem => free (locked id mem)
    exact rows.trans (opens.locked id free)
  unused := by
    intro id free none
    rw [paymentRows_update opened ids cancelled_id, opens.unused id free none, map_nil]

theorem opened_confirming {one : Db} (two : Db) {others : List Id} (books : SettledBooks start now)
    (mem : payment ∈ one.payments) (pending : payment.status = .pending) (own : ∀ id, id ∈ ids ↔ id = payment.id)
    (kept : paymentRows now payment.id = paymentRows one payment.id) (locked : Lock.payment payment.id ∈ held)
    (apart : payment.id ∉ others)
    (open_ : ∀ row ∈ (two.updatePayments (fun row => decide (row.id ∈ ids)) (succeed instant)).payments,
      row.id ∈ others → row.status = .pending) (keptOthers : ∀ id ∈ others, paymentRows now id = paymentRows two id)
    (lockedOthers : ∀ id ∈ others, Lock.payment id ∈ held) : Opened held payment.invoiceId payment.amount now
      ((now.updatePayments (fun row => decide (row.id ∈ ids)) (succeed instant)).updatePayments
        (fun row => decide (row.id ∈ others)) Sql.cancelled) := by
  have still : payment ∈ now.payments := by
    rw [← mem_paymentRows, kept, mem_paymentRows]
    exact mem
  refine (opened_confirmed books still pending own locked).cancel (fun row found other => ?_) lockedOthers
  have ne : row.id ≠ payment.id := fun same => apart (same ▸ other)
  have free : row.id ∉ ids := fun inside => ne ((own _).mp inside)
  have rows : paymentRows (now.updatePayments (fun row => decide (row.id ∈ ids)) (succeed instant)) row.id =
      paymentRows now row.id := paymentRows_update_other now succeed_id free
  refine open_ row ?_ other
  rw [← mem_paymentRows, paymentRows_update_other two succeed_id free, ← keptOthers _ other, ← rows, mem_paymentRows]
  exact found

end

theorem updatePayments_none (change : Payment → Payment) :
    db.updatePayments (fun row => decide (row.id ∈ ([] : List Id))) change = db := by
  simp [Db.updatePayments, updateWhere]

theorem safe_cancelOthers (row : Payment) (ids : List Id)
    (marked : standing.pending = fun db => db.updatePayments (fun row => decide (row.id ∈ ids)) (succeed instant))
    (books : SettledBooks start standing.seen) (mem : row ∈ standing.seen.payments) (pending : row.status = .pending)
    (named : row.id = payment.id) (invoice : row.invoiceId = payment.invoiceId) (own : ∀ id, id ∈ ids ↔ id = row.id)
    (locked : Lock.payment row.id ∈ standing.held)
    (fits : ∀ after, (settlingDiscipline start).Sound after → wanted () after) :
    (settlingDiscipline start).Safe SettlesCurrent (Upon wanted) (do
        let _ ← Sql.updatePayments
          (fun row => isPendingFor payment.invoiceId row && decide (row.id ≠ payment.id)) Sql.cancelled
        let _ ← Script.read fun db => db.payment? payment.id
        Sql.settleInvoice instant payment.invoiceId payment.id payment.userId) standing := by
  apply safe_bind
  refine Sql.safe_updatePayments fun two others second matching => ?_
  apply safe_bind
  refine safe_read fun three third => ?_
  refine safe_settleInvoice (?_ : Opens start _ row.amount _) fits
  refine ⟨books.amounts row mem, fun now rely => ?_⟩
  have final := third.trans rely
  have nowBooks : SettledBooks start now := final.inv
  have twoBooks : SettledBooks start two := second.inv
  rw [← invoice]
  show Opened _ row.invoiceId row.amount now (Db.updatePayments (standing.pending now) _ Sql.cancelled)
  rw [marked] at matching ⊢
  have others_locked : ∀ id ∈ others.map Payment.id, Lock.payment id ∈
      (others.map fun row => Lock.payment row.id) ++ standing.held := by
    intro id listed
    obtain ⟨other, found, rfl⟩ := mem_map.mp listed
    exact mem_append_left _ (mem_map_of_mem (f := fun row : Payment => Lock.payment row.id) found)
  refine opened_confirming two nowBooks mem pending own ?_ ?_ ?_ ?_ ?_ ?_
  · have before : paymentRows two row.id = paymentRows standing.seen row.id := second.same _ locked
    have later : paymentRows now row.id = paymentRows two row.id :=
      final.same _ (mem_append_right _ locked)
    exact later.trans before
  · exact mem_append_right _ (mem_append_right _ locked)
  · intro listed
    obtain ⟨other, found, same⟩ := mem_map.mp listed
    have pick := ((matching other).mp found).2
    simp only [Bool.and_eq_true, decide_eq_true_eq] at pick
    exact pick.2 (same.trans named)
  · intro one found listed
    obtain ⟨other, pick, same⟩ := mem_map.mp listed
    obtain ⟨known, passes⟩ := (matching other).mp pick
    simp only [Bool.and_eq_true, isPendingFor, decide_eq_true_eq] at passes
    have nodup : ((two.updatePayments (fun row => decide (row.id ∈ ids)) (succeed instant)).payments.map
        Payment.id).Nodup := by
      rw [Db.updatePayments, map_updateWhere]
      · exact twoBooks.paymentIds
      · exact fun _ _ _ => rfl
    rw [← eq_of_key_eq nodup known found same]
    exact passes.1.2
  · exact fun id listed => final.same _ (others_locked id listed)
  · exact fun id listed => others_locked id listed

theorem safe_confirmPaymentInTx (idle : standing.pending = id) (read : payment ∈ standing.seen.payments)
    (fits : ∀ after, (settlingDiscipline start).Sound after → wanted () after) :
    (settlingDiscipline start).Safe SettlesCurrent (Upon wanted) (Sql.confirmPaymentInTx instant payment) standing := by
  apply safe_bind
  refine Sql.safe_updatePayments fun one matching first pick => ?_
  have books : SettledBooks start one := first.inv
  rw [idle] at pick
  split
  · rename_i zero
    rw [length_eq_zero_iff] at zero
    subst zero
    refine safe_pure (fits _ ((sound_idle idle).quietly (.wrote ?_ first)))
    simp only [map_nil, updatePayments_none]
    exact neutral_id
  · rename_i some
    obtain ⟨row, listed⟩ := exists_mem_of_length_pos (Nat.pos_of_ne_zero some)
    obtain ⟨mem, passes⟩ := (pick row).mp listed
    obtain ⟨named, pending⟩ := of_decide_eq_true passes
    have invoice : row.invoiceId = payment.invoiceId := by
      obtain ⟨later, found, id, same⟩ := first.grows.payments payment read
      rw [← same, eq_of_key_eq books.paymentIds mem found (named.trans id.symm)]
    refine safe_cancelOthers row (matching.map Payment.id) ?_ books mem pending named invoice ?_ ?_ fits
    · simp only [Standing.wrote, idle]
      rfl
    · intro id
      constructor
      · intro found
        obtain ⟨other, also, rfl⟩ := mem_map.mp found
        rw [(of_decide_eq_true ((pick other).mp also).2).1, named]
      · rintro rfl
        exact mem_map_of_mem listed
    · exact mem_append_left _ (mem_map_of_mem (f := fun row : Payment => Lock.payment row.id) listed)

end

def FullyPaid (db : Db) : Prop := ∀ invoice ∈ db.invoices, invoice.status = .paid → invoice.total ≤ invoice.amountPaid

theorem fullyPaid_settled {instant : Instant} {id : Id} {rows : List Invoice}
    (full : ∀ invoice ∈ rows, invoice.status = .paid → invoice.total ≤ invoice.amountPaid)
    (more : ∀ invoice ∈ rows, invoice.id = id → invoice.amountPaid ≤ paid) :
    ∀ invoice ∈ updateBy Invoice.id id (settled instant paid) rows,
      invoice.status = .paid → invoice.total ≤ invoice.amountPaid := by
  intro row mem
  obtain ⟨old, found, rfl⟩ := mem_updateBy.mp mem
  by_cases own : old.id = id
  · rw [if_pos own]
    exact (settledStatus_paid fun status => (full old found status).trans (more old found own)).mp
  · rw [if_neg own]
    exact full old found

theorem Commit.fullyPaid {change : Change} (commit : Commit db change after) (wf : WellFormed db)
    (full : FullyPaid db) : FullyPaid after := by
  have more : ∀ invoice ∈ db.invoices, invoice.amountPaid ≤ paidSoFar after invoice.id := by
    intro invoice found
    have paid := commit.paid wf.paymentIds.distinct invoice.id
    have nonneg := commit.paidFor_nonneg wf invoice.id
    rw [wf.amountPaid invoice found]
    omega
  cases commit with
  | issued =>
    intro row mem
    rcases mem_append.mp mem with old | new
    · exact full row old
    · rw [mem_singleton.mp new]
      simp [InvoiceDraft.row]
  | confirmed | manual | creditApplied =>
    exact fullyPaid_settled full fun invoice found own => own ▸ more invoice found
  | voided =>
    intro row mem
    obtain ⟨old, found, rfl⟩ := mem_updateBy.mp mem
    split
    · simp [Billing.voided]
    · exact full old found
  | invoicesMarked quiet =>
    intro row mem
    obtain ⟨old, found, rfl⟩ := mem_updateWhere.mp mem
    split
    · rename_i pick
      have quiet := quiet old found pick
      intro status
      rw [quiet.total, quiet.amountPaid]
      rcases quiet.status with same | ⟨_, overdue⟩
      · exact full old found (same.symm.trans status)
      · rw [overdue] at status
        cases status
    · exact full old found
  | _ => exact full

theorem Reachable.settledBooks {env : Env} (reachable : Reachable env start) : SettledBooks start start := by
  have wf := reachable.wellFormed
  have full : FullyPaid start := by
    have initial : ∀ db, Fresh db → FullyPaid db := by
      intro db fresh
      simp [FullyPaid, fresh.invoices]
    exact reachable.of_commits initial fun _ _ _ wf full commit => commit.fullyPaid wf full
  exact ⟨wf.invoiceIds.distinct, wf.paymentIds.distinct, wf.amounts,
    wf.amountPaid, full, fun _ => le_rfl, fun _ _ grown => absurd grown (lt_irrefl _)⟩

/-! ## Any number of settlements at once -/

inductive SettlementRequest
  | recordManualPayment (now : Instant) (actor : AuthenticatedUser) (invoiceId : Id)
      (dto : RecordManualPaymentDto)
  | markPaymentSucceeded (now : Instant) (ref : String)
  | applyCreditToInvoice (now : Instant) (invoiceId unitId condoId : Id)

def SettlementRequest.script (env : Env) : SettlementRequest → Sql Unit
  | .recordManualPayment now actor invoiceId dto => Sql.recordManualPayment now actor invoiceId dto
  | .markPaymentSucceeded now ref => Sql.markPaymentSucceeded env now ref
  | .applyCreditToInvoice now invoiceId unitId condoId =>
      Sql.applyCreditToInvoice now invoiceId unitId condoId

theorem safe_recordManualPayment {standing : Standing Db Lock} {instant : Instant}
    {actor : AuthenticatedUser} {dto : RecordManualPaymentDto} (idle : standing.pending = id) :
    (settlingDiscipline start).Safe SettlesCurrent (Upon fun _ _ => True)
      (Sql.recordManualPayment instant actor invoiceId dto) standing := by
  apply safe_bind
  refine safe_read fun seen rely => ?_
  apply safe_bind
  refine Sql.safe_check fun invoice _ => ?_
  apply safe_bind
  refine Sql.safe_check fun _ _ => ?_
  apply safe_bind
  refine Sql.safe_check fun _ _ => ?_
  apply safe_bind
  refine Sql.safe_check fun _ _ => ?_
  apply safe_bind
  refine Sql.safe_check fun _ pos => ?_
  apply safe_bind
  refine Sql.safe_check fun _ _ => ?_
  rw [throwIf_eq_ok, not_le] at pos
  refine safe_committing (safe_settleNew invoice.id ?_ (fun _ => rfl) (fun _ => rfl)
    (fun _ => rfl) (fun _ => roundHalfAway_nonneg pos.le) fun id after amount opens => ?_) fun _ _ => trivial
  · simp only [Standing.wrote, idle]
    rfl
  · exact safe_settleInvoice opens fun _ sound => sound

theorem safe_markPaymentSucceeded {env : Env} {standing : Standing Db Lock} {instant : Instant} {ref : String}
    (idle : standing.pending = id) : (settlingDiscipline start).Safe SettlesCurrent (Upon fun _ _ => True)
      (Sql.markPaymentSucceeded env instant ref) standing := by
  apply safe_bind
  refine safe_read fun seen rely => ?_
  rw [idle]
  split
  · exact safe_pure trivial
  · rename_i payment found
    split
    · exact safe_pure trivial
    · refine safe_committing (safe_confirmPaymentInTx ?_ (findPaymentByProviderRef_mem found)
        fun _ sound => sound) fun _ _ => trivial
      simp only [Standing.wrote, idle]
      rfl

theorem safe_applyCreditToInvoice {standing : Standing Db Lock} {instant : Instant} {unitId condoId : Id}
    (idle : standing.pending = id) : (settlingDiscipline start).Safe SettlesCurrent (Upon fun _ _ => True)
      (Sql.applyCreditToInvoice instant invoiceId unitId condoId) standing := by
  apply safe_bind
  refine safe_read fun seen rely => ?_
  split
  · exact safe_pure trivial
  · refine safe_committing ?_ fun _ _ => trivial
    apply safe_bind
    refine safe_read fun one first => ?_
    have still : ∀ after : Standing Db Lock, after.pending = id → (settlingDiscipline start).Sound after :=
      fun _ same => sound_idle same
    split
    · exact safe_pure (still _ (by simp only [Standing.wrote, idle]; rfl))
    · apply safe_bind
      refine safe_read fun two second => ?_
      split
      · exact safe_pure (still _ (by simp only [Standing.wrote, idle]; rfl))
      · split
        · exact safe_pure (still _ (by simp only [Standing.wrote, idle]; rfl))
        · dsimp only
          split
          · exact safe_pure (still _ (by simp only [Standing.wrote, idle]; rfl))
          · rename_i some
            refine safe_settleNew invoiceId (by simp only [Standing.wrote, idle]; rfl)
              (fun _ => rfl) (fun _ => rfl) (fun _ => rfl) (fun _ => ?_) fun id after amount opens => ?_
            · rw [cast_le_half, not_le] at some
              exact some.le
            · apply safe_bind
              refine safe_settleInvoice opens fun settled sound => ?_
              apply safe_bind
              refine Sql.safe_consumeCredit fun three third _ => ?_
              refine Sql.quiet_record (neutral_record _) fun _ quiet => sound.quietly (Quietly.trans ?_ quiet)
              exact .wrote (neutral_incrementCredit _ _) third

/-- What was paid for an invoice is what its row says, and once a payment of it has succeeded it is
marked as paid exactly when it is. -/
structure Settled (start db : Db) (invoice : Invoice) : Prop where
  amountPaid : invoice.amountPaid = paidSoFar db invoice.id
  status : settlements start invoice.id < settlements db invoice.id →
    (invoice.status = .paid ↔ invoice.total ≤ paidSoFar db invoice.id)

instance (label : Statement) (seen now : Db) : Decidable (SettlesCurrent label seen now) :=
  match label with
  | .settlesInvoice id => inferInstanceAs (Decidable (paidSoFar now id = paidSoFar seen id))
  | .returnsDeposit _ _ => .isTrue trivial

theorem settlement_kept {Index : Type} [DecidableEq Index] {env : Env} (reachable : Reachable env start)
    {requests : Index → SettlementRequest} {events : List (Event Index ApiError)}
    {finish : System Index Db Lock Statement ApiError Unit}
    (run : Run (Guarded (fun before event => System.Meets before SettlesCurrent event) System.Step)
      (System.start start fun who => (requests who).script env) events finish) :
    ∀ invoice ∈ finish.committed.invoices, Settled start finish.committed invoice := by
  have safe : ∀ who, (settlingDiscipline start).Safe SettlesCurrent (Upon fun _ _ => True)
      ((requests who).script env) (.idle start) := by
    intro who
    cases requests who with
    | recordManualPayment now actor invoiceId dto => exact safe_recordManualPayment rfl
    | markPaymentSucceeded now ref => exact safe_markPaymentSucceeded rfl
    | applyCreditToInvoice now invoiceId unitId condoId => exact safe_applyCreditToInvoice rfl
  have books : SettledBooks start finish.committed :=
    (inv_of_run reachable.settledBooks safe run : (settlingDiscipline start).Inv _)
  intro invoice member
  have paid := books.paid invoice member
  refine ⟨paid, fun grown => ?_⟩
  rw [← paid]
  exact books.settled invoice member grown

namespace Sample

def issue : Request := ⟨0, .create admin invoice⟩

def payments (who : Fin 2) : SettlementRequest :=
  if who.val = 0 then .recordManualPayment 1 admin 0 (manual (some 6000) (by decide +kernel))
  else .recordManualPayment 2 admin 0 (manual (some 4000) (by decide +kernel))

structure PaidFigures where
  invoices : List (Id × ℤ × ℤ × InvoiceStatus)
  paid : ℤ
  settlements : ℤ
  done : Bool
  deriving DecidableEq

def paidFigures (result : Db × System (Fin 2) Db Lock Statement ApiError Unit) : PaidFigures where
  invoices := result.2.committed.invoices.map fun row => (row.id, row.total, row.amountPaid, row.status)
  paid := paidSoFar result.2.committed 0
  settlements := Billing.settlements result.2.committed 0 - Billing.settlements result.1 0
  done := decide (∀ who, (result.2.session who).done = true)

theorem paymentLost_schedule : (schedule env [issue] (fun who => (payments who).script env) (fun _ _ => true)
      (moves 0 10 4 ++ moves 1 20 4 ++ moves 0 11 10 ++ moves 1 21 10)).map paidFigures =
        .ok ⟨[(0, 10000, 4000, .partlyPaid)], 10000, 2, true⟩ := by
  decide +kernel

theorem paymentKept_schedule : (schedule env [issue] (fun who => (payments who).script env)
      (fun system event => decide (system.Meets SettlesCurrent event))
      (moves 0 10 4 ++ moves 1 20 3 ++ moves 0 11 10 ++ moves 1 21 11)).map paidFigures =
        .ok ⟨[(0, 10000, 10000, .paid)], 10000, 2, true⟩ := by
  decide +kernel

end Sample

theorem settlement_kept_both : ∃ start events,
    ∃ finish : System (Fin 2) Db Lock Statement ApiError Unit,
      Run (Guarded (fun before event => System.Meets before SettlesCurrent event) System.Step)
        (System.start start fun who => (Sample.payments who).script Sample.env) events finish ∧
      (∀ invoice ∈ finish.committed.invoices, Settled start finish.committed invoice) ∧
      paidSoFar finish.committed 0 = 10000 := by
  obtain ⟨⟨start, finish⟩, scheduled, figures⟩ := map_eq_ok.mp Sample.paymentKept_schedule
  obtain ⟨reachable, run⟩ := run_of_schedule scheduled
  have met := run.mono fun _ _ _ step => And.imp_left of_decide_eq_true step
  simp only [Sample.paidFigures, Sample.PaidFigures.mk.injEq] at figures
  exact ⟨start, _, finish, met, settlement_kept reachable met, figures.2.1⟩

theorem settlement_lost : ∃ start events,
    ∃ finish : System (Fin 2) Db Lock Statement ApiError Unit,
      Reachable Sample.env start ∧
      Run System.Step (System.start start fun who => (Sample.payments who).script Sample.env) events finish ∧
      (∀ who, (finish.session who).done = true) ∧
      ∃ invoice ∈ finish.committed.invoices, ¬ Settled start finish.committed invoice ∧
        paidSoFar finish.committed invoice.id = invoice.total ∧ invoice.amountPaid < invoice.total ∧
        invoice.status = .partlyPaid := by
  obtain ⟨⟨start, finish⟩, scheduled, figures⟩ := map_eq_ok.mp Sample.paymentLost_schedule
  obtain ⟨reachable, run⟩ := run_of_schedule scheduled
  simp only [Sample.paidFigures, Sample.PaidFigures.mk.injEq, List.map_eq_singleton_iff,
    Prod.mk.injEq] at figures
  obtain ⟨⟨invoice, invoices, id, total, amountPaid, status⟩, paid, _, done⟩ := figures
  rw [← id] at paid
  refine ⟨start, _, finish, reachable, run.guard_forgotten, of_decide_eq_true done, invoice,
    by simp [invoices], fun kept => ?_, by omega, by omega, status⟩
  have same := kept.amountPaid
  omega

end SmartResidence.Billing
