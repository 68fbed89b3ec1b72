import SmartResidence.Proof.SessionRules
import SmartResidence.Proof.DepositConservation

/-!
# A deposit that several sessions return at once
-/

namespace SmartResidence.Billing

open Foundation Foundation.Discipline

variable {start db now : Db} {origin row : Deposit}

structure ReturnBooks (start : Db) (origin : Deposit) (db : Db) (row : Deposit) : Prop where
  amount : row.amount = origin.amount
  refunds : origin.refundedAmount + (refundReceipts db.receipts - refundReceipts start.receipts) =
    row.refundedAmount
  income : ledgerSum (incomeFrom origin.id) db.ledgerEntries = row.forfeitedAmount
  bounded : row.refundedAmount + row.forfeitedAmount ≤ row.amount
  nonneg : 0 ≤ row.refundedAmount ∧ 0 ≤ row.forfeitedAmount
  keys : ∀ entry ∈ db.ledgerEntries, ∀ forfeited : ℚ,
    entry.idempotencyKey = some (.depositForfeitIncome origin.id forfeited) →
      stored forfeited ≤ row.forfeitedAmount

structure ReturnsBooked (start : Db) (origin : Deposit) (db : Db) : Prop where
  ids : (db.deposits.map Deposit.id).Nodup
  listed : origin.id ∈ db.deposits.map Deposit.id
  books : ∀ row ∈ db.deposits, row.id = origin.id → ReturnBooks start origin db row

/-- The deposit as the session read it is still the committed one, and the amount to be returned is,
rounded to the sen, no more than what is held. -/
def ReturnsCurrent : Statement → Db → Db → Prop
  | .returnsDeposit id amount, seen, now =>
      now.deposit? id = seen.deposit? id ∧ ∀ row ∈ seen.deposit? id, stored amount ≤ depositHeldAmount row
  | _, _, _ => True

def returnsDiscipline (start : Db) (origin : Deposit) : Discipline Db Lock where
  Inv := ReturnsBooked start origin
  Grows _ _ := True
  Same lock before after := ∀ id, lock = .deposit id → after.deposit? id = before.deposit? id
  grows_refl _ := trivial
  grows_trans _ _ := trivial
  same_refl _ _ _ _ := rfl
  same_trans first second id named := (second id named).trans (first id named)

theorem ReturnsBooked.initial (wf : WellFormed start) (found : origin ∈ start.deposits) (booked : Booked start origin)
    (bounded : origin.refundedAmount + origin.forfeitedAmount ≤ origin.amount) : ReturnsBooked start origin start where
  ids := wf.depositIds.distinct
  listed := List.mem_map_of_mem found
  books := by
    intro row mem same
    obtain rfl := eq_of_key_eq wf.depositIds.distinct mem found same
    refine ⟨rfl, by ring, booked.income, bounded, wf.returned row mem, ?_⟩
    intro entry listed forfeited key
    obtain ⟨named, keyed, holds⟩ := (wf.keys entry listed).key
    rw [key, Option.mem_some_iff] at keyed
    subst keyed
    obtain ⟨deposit, also, id, most⟩ := holds
    obtain rfl := eq_of_key_eq wf.depositIds.distinct also mem id
    exact most

/-! ## One return -/

structure Returns (start : Db) (origin row : Deposit) (before after : Db) (change : Deposit → Deposit) :
    Prop where
  deposits : after.deposits = updateBy Deposit.id origin.id change before.deposits
  keeps : ∀ deposit, (change deposit).id = deposit.id
  books : ReturnBooks start origin after (change row)

variable {after : Db}

theorem ReturnsBooked.returned {change : Deposit → Deposit} {held : List Lock} (booked : ReturnsBooked start origin now)
    (found : now.deposit? origin.id = some row) (locked : Lock.deposit origin.id ∈ held)
    (returns : Returns start origin row now after change) :
    (returnsDiscipline start origin).Guarantee held now after where
  inv := by
    constructor
    · rw [returns.deposits, map_key_updateBy returns.keeps]
      exact booked.ids
    · rw [returns.deposits, map_key_updateBy returns.keeps]
      exact booked.listed
    · intro other mem same
      rw [returns.deposits] at mem
      obtain ⟨old, known, rfl⟩ := mem_updateBy.mp mem
      by_cases own : old.id = origin.id
      · rw [if_pos own]
        have unique : old = row := by
          have located := findBy_of_mem booked.ids known
          rw [own] at located
          exact Option.some.inj (located.symm.trans found)
        exact unique ▸ returns.books
      · rw [if_neg own] at same
        exact absurd same own
  grows := trivial
  same := by
    intro lock free id named
    subst named
    have other : id ≠ origin.id := fun same => free (same ▸ locked)
    rw [Db.deposit?, returns.deposits, findBy_updateBy returns.keeps]
    cases lookup : findBy Deposit.id id now.deposits with
    | none => simp [Db.deposit?, lookup]
    | some deposit =>
      have owned := (mem_of_findBy lookup).2
      simp [Db.deposit?, lookup, owned, other]

theorem ReturnBooks.stored_le (books : ReturnBooks start origin db row) {amount : ℚ}
    (pos : 0 < amount) (held : stored amount ≤ depositHeldAmount row) :
    0 ≤ stored amount ∧ stored amount ≤ row.amount - row.refundedAmount - row.forfeitedAmount := by
  have bounded := books.bounded
  rw [depositHeldAmount] at held
  exact ⟨roundHalfAway_nonneg pos.le, by omega⟩

variable {new : Deposit}

theorem ReturnBooks.refunded (books : ReturnBooks start origin db row) {amount : ℚ} (pos : 0 < amount)
    (held : stored amount ≤ depositHeldAmount row) (same : new.amount = row.amount)
    (refunded : new.refundedAmount = row.refundedAmount + stored amount)
    (forfeited : new.forfeitedAmount = row.forfeitedAmount)
    (receipts : refundReceipts after.receipts = refundReceipts db.receipts + stored amount) {posting : LedgerPosting}
    (entries : after.ledgerEntries = appendPosting db.ledgerEntries posting) (noIncome : posting.fund = .deposit)
    (key : ∃ id refunded, posting.idempotencyKey = some (.depositRefund id refunded)) :
    ReturnBooks start origin after new where
  amount := same.trans books.amount
  refunds := by
    rw [receipts, refunded, ← books.refunds]
    ring
  income := by
    have zero : ∀ other ∈ [posting], incomeFrom origin.id other = 0 := by
      simp [incomeFrom, noIncome]
    rw [entries, forfeited, ← books.income]
    exact ledgerSum_appendPostings_zero (incomeFrom origin.id) zero
  bounded := by
    have within := books.stored_le pos held
    omega
  nonneg := by
    have within := books.stored_le pos held
    have nonneg := books.nonneg
    omega
  keys := by
    intro entry mem total named
    rw [entries] at mem
    rw [forfeited]
    rcases mem_appendPosting mem with old | new
    · exact books.keys entry old total named
    · obtain ⟨id, refunded, own⟩ := key
      rw [new, own] at named
      cases named

theorem ReturnBooks.forfeited (books : ReturnBooks start origin db row) {amount : ℚ} (pos : 0 < amount)
    (held : stored amount ≤ depositHeldAmount row) (same : new.amount = row.amount)
    (refunded : new.refundedAmount = row.refundedAmount)
    (forfeited : new.forfeitedAmount = row.forfeitedAmount + stored amount) (receipts : after.receipts = db.receipts)
    {liability income : LedgerPosting}
    (entries : after.ledgerEntries = appendPosting (appendPosting db.ledgerEntries liability) income)
    (noIncome : liability.fund = .deposit)
    (other : ∃ id total, liability.idempotencyKey = some (.depositForfeitLiability id total))
    (counted : incomeFrom origin.id income = stored amount)
    (key : income.idempotencyKey = some (.depositForfeitIncome origin.id (row.forfeitedAmount + amount))) :
    ReturnBooks start origin after new := by
  have within := books.stored_le pos held
  have nonneg := books.nonneg
  have grown : stored (row.forfeitedAmount + amount) = row.forfeitedAmount + stored amount :=
    roundHalfAway_intCast_add nonneg.2 pos.le
  have before : ∀ entry ∈ appendPosting db.ledgerEntries liability, ∀ total : ℚ,
      entry.idempotencyKey = some (.depositForfeitIncome origin.id total) → stored total ≤ row.forfeitedAmount := by
    intro entry mem total named
    rcases mem_appendPosting mem with old | new
    · exact books.keys entry old total named
    · obtain ⟨id, total, own⟩ := other
      rw [new, own] at named
      cases named
  have zero : ∀ posting ∈ [liability], incomeFrom origin.id posting = 0 := by
    simp [incomeFrom, noIncome]
  have kept : ledgerSum (incomeFrom origin.id) (appendPosting db.ledgerEntries liability) = row.forfeitedAmount :=
    (ledgerSum_appendPostings_zero (incomeFrom origin.id) zero).trans books.income
  refine ⟨same.trans books.amount, ?_, ?_, by rw [forfeited]; omega, by rw [forfeited]; omega, ?_⟩
  · rw [receipts, refunded]
    exact books.refunds
  · rw [entries, forfeited]
    by_cases used : ∃ entry ∈ appendPosting db.ledgerEntries liability, entry.idempotencyKey = income.idempotencyKey
    · -- the key has been used before by a forfeiture of less than half a sen
      obtain ⟨entry, mem, named⟩ := used
      have most := before entry mem _ (named.trans key)
      have nothing : stored amount = 0 := by omega
      have unwritten : appendPosting (appendPosting db.ledgerEntries liability) income =
          appendPosting db.ledgerEntries liability := by
        rw [appendPosting, if_pos ⟨by simp [key], entry, mem, named⟩]
      rw [unwritten, kept, nothing, add_zero]
    · push Not at used
      rw [ledgerSum_appendPosting _ used, kept, counted]
  · intro entry mem total named
    rw [entries] at mem
    rw [forfeited]
    rcases mem_appendPosting mem with old | new
    · have := before entry old total named
      omega
    · rw [new, key, Option.some.injEq, IdempotencyKey.depositForfeitIncome.injEq] at named
      rw [← named.2, grown]

/-! ## The scripts -/

section

variable {standing writing final : Standing Db Lock} {deposit : Deposit} {change : Deposit → Deposit}

structure Writing (origin row : Deposit) (change : Deposit → Deposit) (writing : Standing Db Lock) :
    Prop where
  pending : writing.pending = fun db => db.updateDeposit origin.id change
  locked : Lock.deposit origin.id ∈ writing.held
  found : writing.seen.deposit? origin.id = some row

theorem Writing.committed {tail : Db → Db} (written : Writing origin row change writing)
    (extended : (returnsDiscipline start origin).Extends writing final tail)
    (returns : ∀ db, ReturnsBooked start origin db → db.deposit? origin.id = some row →
      Returns start origin row db (tail (db.updateDeposit origin.id change)) change) :
    ∀ now, (returnsDiscipline start origin).Rely final.held final.seen now →
      (returnsDiscipline start origin).Guarantee final.held now (final.pending now) := by
  intro now rely
  have same := (extended.rely.trans (rely.mono extended.held)).same _ written.locked
  have found := (same origin.id rfl).trans written.found
  have booked : ReturnsBooked start origin now := rely.inv
  rw [extended.pending, written.pending]
  exact booked.returned found (extended.held written.locked) (returns now booked found)

structure Overwrites (deposit : Deposit) (change : Deposit → Deposit) (refunded forfeited : ℤ) : Prop where
  keeps : ∀ row, (change row).id = row.id
  amount : (change deposit).amount = deposit.amount
  refunded : (change deposit).refundedAmount = deposit.refundedAmount + refunded
  forfeited : (change deposit).forfeitedAmount = deposit.forfeitedAmount + forfeited

variable {amount : ℚ} {instant : Instant} {actorUserId : Option Id}

theorem returns_refund (overwrites : Overwrites deposit change (stored amount) 0)
    (pos : 0 < amount) (held : stored amount ≤ depositHeldAmount deposit)
    (booked : ReturnsBooked start origin db) (found : db.deposit? origin.id = some deposit) (id : Id) (total : ℚ) :
    Returns start origin deposit db (((db.updateDeposit origin.id change).addReceipt
      (Sql.receiptRow (refundReceipt deposit amount) id)).record
        (depositPosting instant deposit actorUserId .deposit .refund (- amount)
          (.depositRefund origin.id total))) change where
  deposits := rfl
  keeps := overwrites.keeps
  books := by
    obtain ⟨mem, named⟩ := mem_of_findBy found
    have forfeited : (change deposit).forfeitedAmount = deposit.forfeitedAmount :=
      overwrites.forfeited.trans (add_zero _)
    refine (booked.books deposit mem named).refunded pos held overwrites.amount
      overwrites.refunded forfeited ?_ rfl rfl ⟨origin.id, total, rfl⟩
    simp [refundReceipts, Db.record, Db.addReceipt, Db.updateDeposit, Sql.receiptRow, refundReceipt]

theorem returns_forfeit (overwrites : Overwrites deposit change 0 (stored amount))
    (pos : 0 < amount) (held : stored amount ≤ depositHeldAmount deposit)
    (booked : ReturnsBooked start origin db) (found : db.deposit? origin.id = some deposit) :
    Returns start origin deposit db (((db.updateDeposit origin.id change).record
      (depositPosting instant deposit actorUserId .deposit .adjustment (- amount)
        (.depositForfeitLiability origin.id (deposit.forfeitedAmount + amount)))).record
          (depositPosting instant deposit actorUserId .general .adjustment amount
            (.depositForfeitIncome origin.id (deposit.forfeitedAmount + amount)))) change where
  deposits := rfl
  keeps := overwrites.keeps
  books := by
    obtain ⟨mem, named⟩ := mem_of_findBy found
    have refunded : (change deposit).refundedAmount = deposit.refundedAmount :=
      overwrites.refunded.trans (add_zero _)
    refine (booked.books deposit mem named).forfeited pos held overwrites.amount refunded
      overwrites.forfeited rfl rfl rfl ⟨origin.id, _, rfl⟩ ?_ rfl
    simp [incomeFrom, depositPosting, named]

variable {dto : RefundDepositDto}

theorem returnedRow_overwrites (instant : Instant) (nonneg : 0 ≤ deposit.refundedAmount ∧
    0 ≤ deposit.forfeitedAmount) (pos : 0 < (refundFigures deposit dto).amount) :
    Overwrites deposit (Sql.returnedRow instant deposit (refundFigures deposit dto))
      (if dto.forfeit then 0 else stored (refundFigures deposit dto).amount)
      (if dto.forfeit then stored (refundFigures deposit dto).amount else 0) where
  keeps _ := rfl
  amount := rfl
  refunded := by
    simp only [Sql.returnedRow, refundFigures]
    split
    · simp
    · exact roundHalfAway_intCast_add nonneg.1 pos.le
  forfeited := by
    simp only [Sql.returnedRow, refundFigures]
    split
    · exact roundHalfAway_intCast_add nonneg.2 pos.le
    · simp

theorem heldRefundedRow_overwrites (instant : Instant) (deposit : Deposit) :
    Overwrites deposit (Sql.heldRefundedRow instant (deposit.refundedAmount + depositHeldAmount deposit))
      (stored (depositHeldAmount deposit)) 0 where
  keeps _ := rfl
  amount := rfl
  refunded := by simp [Sql.heldRefundedRow]
  forfeited := by simp [Sql.heldRefundedRow]

theorem safe_refundInTx {actorId : Id} (idle : standing.pending = id)
    (found : standing.seen.deposit? origin.id = some deposit)
    (nonneg : 0 ≤ deposit.refundedAmount ∧ 0 ≤ deposit.forfeitedAmount) (pos : 0 < (refundFigures deposit dto).amount) :
    (returnsDiscipline start origin).Safe ReturnsCurrent
      (Upon fun _ after => ∀ now, (returnsDiscipline start origin).Rely after.held after.seen now →
        (returnsDiscipline start origin).Guarantee after.held now (after.pending now) ∧ True)
      (Sql.refundInTx instant actorId deposit dto) standing := by
  obtain ⟨_, named⟩ := mem_of_findBy found
  have overwrites := returnedRow_overwrites instant nonneg pos
  apply safe_bind
  refine safe_statement fun now rely current _ _ => ?_
  obtain ⟨same, within⟩ := current _ rfl
  rw [named, found] at same
  rw [named] at within
  have held := within deposit found
  have written : Writing origin deposit (Sql.returnedRow instant deposit (refundFigures deposit dto))
      (standing.wrote now [.deposit deposit.id] fun db => db.updateDeposit deposit.id
        (Sql.returnedRow instant deposit (refundFigures deposit dto))) :=
    ⟨by rw [named]; simp only [Standing.wrote, idle]; rfl, by simp [Standing.wrote, named], same⟩
  cases forfeit : dto.forfeit with
  | true =>
    simp only [forfeit] at overwrites
    apply safe_bind
    refine Sql.safe_record fun second liability => ?_
    refine Sql.safe_record fun third income last final => ⟨?_, trivial⟩
    refine written.committed ((Extends.wrote liability).trans (Extends.wrote income)) ?_ last final
    intro db booked located
    have total : (refundFigures deposit dto).newForfeited =
        deposit.forfeitedAmount + (refundFigures deposit dto).amount := by simp [refundFigures, forfeit]
    rw [named, total]
    exact returns_forfeit overwrites pos held booked located
  | false =>
    simp only [forfeit] at overwrites
    apply safe_bind
    refine Sql.safe_issueInTx fun id seen locks after rely _ issued => ?_
    refine Sql.safe_record fun third recorded last final => ⟨?_, trivial⟩
    refine written.committed (((Extends.wrote rely).trans issued).trans (Extends.wrote recorded)) ?_
      last final
    intro db booked located
    rw [named]
    exact returns_refund overwrites pos held booked located id _

theorem safe_refundHeldInTx (idle : standing.pending = id) : (returnsDiscipline start origin).Safe ReturnsCurrent
      (Upon fun _ after => ∀ now, (returnsDiscipline start origin).Rely after.held after.seen now →
        (returnsDiscipline start origin).Guarantee after.held now (after.pending now) ∧ True)
      (Sql.refundHeldInTx instant origin.id actorUserId) standing := by
  have unwritten : ∀ after : Standing Db Lock, after.pending = id → ∀ now,
      (returnsDiscipline start origin).Rely after.held after.seen now →
        (returnsDiscipline start origin).Guarantee after.held now (after.pending now) ∧ True := by
    intro after none now rely
    rw [none]
    exact ⟨.refl rely.inv, trivial⟩
  apply safe_bind
  refine safe_read fun seen _ => ?_
  rw [idle]
  cases lookup : seen.deposit? origin.id with
  | none =>
    simp only [id_eq, lookup]
    exact safe_pure (unwritten _ (by simp only [Standing.wrote, idle]; rfl))
  | some deposit =>
    simp only [id_eq, lookup]
    split
    · exact safe_pure (unwritten _ (by simp only [Standing.wrote, idle]; rfl))
    · have overwrites := heldRefundedRow_overwrites instant deposit
      have pos : (0 : ℚ) < depositHeldAmount deposit := by linarith
      apply safe_bind
      refine safe_statement fun now rely current _ _ => ?_
      obtain ⟨same, within⟩ := current _ rfl
      have held := within deposit lookup
      have written : Writing origin deposit
          (Sql.heldRefundedRow instant (deposit.refundedAmount + depositHeldAmount deposit))
          ((standing.wrote seen [] id).wrote now [.deposit origin.id] fun db => db.updateDeposit origin.id
            (Sql.heldRefundedRow instant (deposit.refundedAmount + depositHeldAmount deposit))) :=
        ⟨by simp only [Standing.wrote, idle]; rfl, by simp [Standing.wrote], same.trans lookup⟩
      apply safe_bind
      refine Sql.safe_issueInTx fun id seen locks after rely _ issued => ?_
      apply safe_bind
      refine Sql.safe_record fun third recorded => safe_pure fun last final => ⟨?_, trivial⟩
      refine written.committed (((Extends.wrote rely).trans issued).trans (Extends.wrote recorded)) ?_
        last final
      intro db booked located
      exact returns_refund overwrites pos held booked located id _

theorem safe_script (request : DepositReturn) :
    (returnsDiscipline start origin).Safe ReturnsCurrent (Upon fun _ _ => True)
      (request.script origin.id) (.idle db) := by
  cases request with
  | refund instant actor dto =>
    apply safe_bind
    refine safe_read fun seen rely => ?_
    have booked : ReturnsBooked start origin seen := rely.inv
    apply safe_bind
    refine Sql.safe_check fun deposit located => ?_
    rw [orThrow_eq_ok] at located
    apply safe_bind
    refine Sql.safe_check fun _ _ => ?_
    apply safe_bind
    refine Sql.safe_check fun _ _ => ?_
    apply safe_bind
    refine Sql.safe_check fun _ pos => ?_
    apply safe_bind
    refine Sql.safe_check fun _ _ => ?_
    rw [throwIf_eq_ok, not_le] at pos
    obtain ⟨mem, named⟩ := mem_of_findBy located
    apply safe_transaction
    exact safe_refundInTx rfl located (booked.books deposit mem named).nonneg pos
  | refundHeldInTx instant actorUserId =>
    apply safe_bind
    apply safe_transaction
    exact (safe_refundHeldInTx rfl).mono fun _ _ fits => fits

end

theorem Reachable.booked {env : Env} (reachable : Reachable env db) (found : origin ∈ db.deposits) :
    Booked db origin := by
  have all : ∀ deposit ∈ db.deposits, Booked db deposit := by
    have initial : ∀ start, Fresh start → ∀ deposit ∈ start.deposits, Booked start deposit := by
      intro start fresh
      simp [fresh.deposits]
    exact reachable.of_commits initial fun _ _ _ wf booked commit => commit.booked wf booked
  exact all origin found

structure ReturnedOnce (start : Db) (origin : Deposit) (db : Db) (row : Deposit) : Prop where
  amount : row.amount = origin.amount
  total : origin.refundedAmount + (refundReceipts db.receipts - refundReceipts start.receipts) +
    ledgerSum (incomeFrom origin.id) db.ledgerEntries = row.refundedAmount + row.forfeitedAmount
  bounded : row.refundedAmount + row.forfeitedAmount ≤ row.amount

theorem deposit_returned_once {Index : Type} [DecidableEq Index] {env : Env}
    (reachable : Reachable env start) (found : origin ∈ start.deposits)
    (bounded : origin.refundedAmount + origin.forfeitedAmount ≤ origin.amount)
    {requests : Index → DepositReturn} {events : List (Event Index ApiError)}
    {finish : System Index Db Lock Statement ApiError Unit}
    (run : Run (Guarded (fun before event => System.Meets before ReturnsCurrent event) System.Step)
      (System.start start fun who => (requests who).script origin.id) events finish) :
    ∃ row, finish.committed.deposit? origin.id = some row ∧
      ReturnedOnce start origin finish.committed row := by
  have initial := ReturnsBooked.initial reachable.wellFormed found (reachable.booked found) bounded
  have booked : ReturnsBooked start origin finish.committed :=
    (inv_of_run initial (fun who => safe_script (requests who)) run : (returnsDiscipline start origin).Inv _)
  obtain ⟨row, member, named⟩ := List.mem_map.mp booked.listed
  have books := booked.books row member named
  refine ⟨row, named ▸ findBy_of_mem booked.ids member, books.amount, ?_, books.bounded⟩
  rw [books.refunds, books.income]

instance (label : Statement) (seen now : Db) : Decidable (ReturnsCurrent label seen now) :=
  match label with
  | .returnsDeposit id amount => inferInstanceAs (Decidable (now.deposit? id = seen.deposit? id ∧
      ∀ row ∈ seen.deposit? id, stored amount ≤ depositHeldAmount row))
  | .settlesInvoice _ => .isTrue trivial

/-! ### Two sessions and one deposit -/

namespace Sample

def takeDeposit : Request := ⟨0, .depositRecord admin ⟨7, none, 5000, none, by decide +kernel⟩⟩

def refundOf (amount : Option ℚ) (nonneg : 0 ≤ amount.getD 0) : DepositReturn :=
  .refund 1 admin ⟨amount, false, nonneg⟩

structure ReturnFigures where
  before : List (Id × ℤ × ℤ × ℤ)
  receipts : ℤ
  income : ℤ
  after : List (ℤ × ℤ)
  done : Bool
  deriving DecidableEq

def returnFigures (result : Db × System (Fin 2) Db Lock Statement ApiError Unit) : ReturnFigures where
  before := result.1.deposits.map fun row =>
    (row.id, row.amount, row.refundedAmount, row.forfeitedAmount)
  receipts := refundReceipts result.2.committed.receipts - refundReceipts result.1.receipts
  income := ledgerSum (incomeFrom 0) result.2.committed.ledgerEntries
  after := result.2.committed.deposits.map fun row => (row.refundedAmount, row.forfeitedAmount)
  done := decide (∀ who, (result.2.session who).done = true)

theorem depositTwice_schedule :
    (schedule env [takeDeposit] (fun _ => (refundOf none (by decide)).script 0) (fun _ _ => true)
      (moves 0 0 1 ++ moves 1 0 1 ++ moves 0 10 7 ++ moves 1 11 7)).map returnFigures =
        .ok ⟨[(0, 5000, 0, 0)], 10000, 0, [(5000, 0)], true⟩ := by
  decide +kernel

def apart (who : Fin 2) : DepositReturn :=
  if who.val = 0 then refundOf (some 2000) (by decide +kernel) else .refundHeldInTx 2 none

theorem depositApart_schedule : (schedule env [takeDeposit] (fun who => (apart who).script 0)
      (fun system event => decide (system.Meets ReturnsCurrent event))
      (moves 0 10 8 ++ moves 1 11 8)).map returnFigures = .ok ⟨[(0, 5000, 0, 0)], 5000, 0, [(5000, 0)], true⟩ := by
  decide +kernel

end Sample

theorem deposit_returned_once_apart : ∃ start origin events,
    ∃ finish : System (Fin 2) Db Lock Statement ApiError Unit,
      Run (Guarded (fun before event => System.Meets before ReturnsCurrent event) System.Step)
        (System.start start fun who => (Sample.apart who).script origin.id) events finish ∧
      ∃ row, finish.committed.deposit? origin.id = some row ∧
        ReturnedOnce start origin finish.committed row ∧ row.refundedAmount = 5000 := by
  obtain ⟨⟨start, finish⟩, scheduled, figures⟩ := map_eq_ok.mp Sample.depositApart_schedule
  obtain ⟨reachable, run⟩ := run_of_schedule scheduled
  simp only [Sample.returnFigures, Sample.ReturnFigures.mk.injEq, List.map_eq_singleton_iff,
    Prod.mk.injEq] at figures
  obtain ⟨⟨origin, before, id, _, refunded, forfeited⟩, _, _, ⟨last, after, all, _⟩, _⟩ := figures
  have met := run.mono fun _ _ _ step => And.imp_left of_decide_eq_true step
  rw [← id] at met
  obtain ⟨row, found, once⟩ := deposit_returned_once reachable (by simp [before]) (by omega) met
  have listed := (mem_of_findBy found).1
  rw [after, List.mem_singleton] at listed
  exact ⟨start, origin, _, finish, met, row, found, once, listed ▸ all⟩

theorem deposit_returned_twice : ∃ start origin events,
    ∃ finish : System (Fin 2) Db Lock Statement ApiError Unit,
      Reachable Sample.env start ∧ origin ∈ start.deposits ∧
        origin.refundedAmount + origin.forfeitedAmount ≤ origin.amount ∧
      Run System.Step (System.start start fun _ =>
        (Sample.refundOf none (by decide)).script origin.id) events finish ∧
      (∀ who, (finish.session who).done = true) ∧
      (∀ row ∈ finish.committed.deposits, ¬ ReturnedOnce start origin finish.committed row) ∧
      origin.amount = 5000 ∧
      refundReceipts finish.committed.receipts - refundReceipts start.receipts = 10000 := by
  obtain ⟨⟨start, finish⟩, scheduled, figures⟩ := map_eq_ok.mp Sample.depositTwice_schedule
  obtain ⟨reachable, run⟩ := run_of_schedule scheduled
  simp only [Sample.returnFigures, Sample.ReturnFigures.mk.injEq, List.map_eq_singleton_iff,
    Prod.mk.injEq] at figures
  obtain ⟨⟨origin, before, id, amount, refunded, forfeited⟩, receipts, income, ⟨row, after, all, left⟩,
    done⟩ := figures
  rw [← id] at run
  refine ⟨start, origin, _, finish, reachable, by simp [before], by omega, run.guard_forgotten,
    of_decide_eq_true done, ?_, amount, receipts⟩
  intro other listed once
  rw [after, List.mem_singleton] at listed
  subst listed
  have total := once.total
  rw [id, income] at total
  omega

end SmartResidence.Billing
