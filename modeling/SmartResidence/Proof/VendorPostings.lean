import SmartResidence.Procurement.VendorBills
import SmartResidence.Proof.LedgerMirror

/-!
# What vendor postings credit to accounts payable
-/

namespace SmartResidence.Procurement

open Foundation Billing Accounting List

variable {env : Env} {condoId : Id} {gl : GlDb}

def isVendorEntry (entry : GlJournalEntry) : Bool :=
  decide (entry.sourceType = .vendorBill ∨ entry.sourceType = .vendorPayment)

def payableOf (gl : GlDb) (condoId : Id) (entry : GlJournalEntry) : ℤ :=
  sumBy (fun line => if isAccount gl condoId payableCode line.accountId then line.credit - line.debit else 0) entry.lines

def vendorPayable (gl : GlDb) (condoId : Id) : ℤ := sumBy (payableOf gl condoId) (gl.entries.filter isVendorEntry)

structure PostedUnder (condoId : Id) (key : String) (gl after : GlDb) : Prop where
  ids : AccountIds after
  charted : Charted condoId after
  keys : ∀ text, text ≠ key → (KeyFree after (some text) ↔ KeyFree gl (some text))

structure PostedOwn (condoId : Id) (key : String) (amount : ℤ) (gl after : GlDb) : Prop
    extends PostedUnder condoId key gl after where
  taken : ¬ KeyFree after (some key)
  added : KeyFree gl (some key) → vendorPayable after condoId = vendorPayable gl condoId + amount
  kept : ¬ KeyFree gl (some key) → vendorPayable after condoId = vendorPayable gl condoId

section

variable {pairs : List GlAccount → List JournalLineInput} {make : List JournalLineInput → PostEntryOpts} {key : String}

theorem postEntry_taken {opts : PostEntryOpts} (seeded : ∃ account ∈ gl.accounts, account.condoId = opts.condoId)
    (isKey : opts.idempotencyKey = some key) (named : key ≠ "") (taken : ¬ KeyFree gl (some key)) :
    (postEntry opts gl).2 = gl := by
  unfold postEntry
  rw [Call.bind_of_ok (ensureSeeded_seeded seeded), Call.read_bind, isKey, postedUnder, if_neg named]
  rcases looked : gl.entries.find? (fun entry => entry.idempotencyKey = some key) with _ | existing
  · refine absurd ?_ taken
    rintro text ⟨⟩ entry found same
    exact List.find?_eq_none.mp looked entry found (decide_eq_true same)
  · rw [looked]
    rfl

theorem posted_taken (makes : Makes condoId make) (seeded : ∃ account ∈ gl.accounts, account.condoId = condoId)
    (isKey : ∀ lines, (make lines).idempotencyKey = some key) (named : key ≠ "") (taken : ¬ KeyFree gl (some key)) :
    (logged (post condoId pairs make) gl).2 = gl := by
  unfold post
  rw [logged_state, Call.bind_of_ok (ensureSeeded_seeded seeded), Call.read_bind]
  split
  · rfl
  · rw [Call.bind_pure_state]
    refine postEntry_taken ?_ (isKey _) named taken
    rw [makes.condoId]
    exact seeded

theorem keyFree_appendEntry {opts : PostEntryOpts} (isKey : opts.idempotencyKey = some key) (text : String) :
    KeyFree (gl.appendEntry opts) (some text) ↔ KeyFree gl (some text) ∧ text ≠ key := by
  constructor
  · intro free
    refine ⟨fun other isText entry found => free other isText entry (mem_append_left _ found), ?_⟩
    rintro rfl
    exact free text rfl _ (mem_append_right _ (mem_singleton.mpr rfl)) isKey
  · rintro ⟨free, different⟩ other ⟨⟩ entry found same
    rcases mem_append.mp found with old | new
    · exact free text rfl entry old same
    · rw [mem_singleton] at new
      subst new
      exact different (Option.some.inj (same.symm.trans isKey))

theorem vendorPayable_appendEntry {opts : PostEntryOpts}
    (vendor : opts.sourceType = .vendorBill ∨ opts.sourceType = .vendorPayment) :
    vendorPayable (gl.appendEntry opts) condoId = vendorPayable gl condoId +
      sumBy (fun line => if isAccount gl condoId payableCode line.accountId then stored line.credit - stored line.debit
        else 0) opts.lines := by
  have pick : isVendorEntry (opts.row opts.lines gl.nextId) = true := decide_eq_true vendor
  unfold vendorPayable
  rw [show (gl.appendEntry opts).entries = gl.entries ++ [opts.row opts.lines gl.nextId] from rfl, filter_append,
    filter_singleton, pick, sumBy_append]
  congr 1
  show sumBy (payableOf gl condoId) [opts.row opts.lines gl.nextId] = _
  rw [sumBy_cons, sumBy_nil, add_zero]
  exact sumBy_mapIdx _ (fun index line => storedLine (gl.nextId + 1 + index) line) _ (fun _ _ => rfl) opts.lines

theorem payable_journalPair (ids : AccountIds gl) (charted : Charted condoId gl) {debitCode creditCode : String}
    (debitListed : debitCode ∈ malaysianJmbCoa.map CoaTemplateRow.code)
    (creditListed : creditCode ∈ malaysianJmbCoa.map CoaTemplateRow.code) (fund : LedgerFund) (amount : ℤ) :
    sumBy (fun line => if isAccount gl condoId payableCode line.accountId then stored line.credit - stored line.debit
        else 0) (journalPair (accountCodes condoId gl) debitCode creditCode fund amount) =
      (if creditCode = payableCode then amount else 0) - if debitCode = payableCode then amount else 0 := by
  obtain ⟨debit, isDebit⟩ := charted.accountOf debitListed
  obtain ⟨credit, isCredit⟩ := charted.accountOf creditListed
  have zero : stored 0 = 0 := by simpa using stored_intCast 0
  unfold journalPair
  rw [isDebit, isCredit]
  simp only [sumBy_cons, isAccount_accountOf ids isDebit, isAccount_accountOf ids isCredit, decide_eq_true_eq, zero]
  split <;> split <;> simp

theorem journalPair_ne_nil (charted : Charted condoId gl) {debitCode creditCode : String}
    (debitListed : debitCode ∈ malaysianJmbCoa.map CoaTemplateRow.code)
    (creditListed : creditCode ∈ malaysianJmbCoa.map CoaTemplateRow.code) (fund : LedgerFund) (amount : ℤ) :
    journalPair (accountCodes condoId gl) debitCode creditCode fund amount ≠ [] := by
  obtain ⟨debit, isDebit⟩ := charted.accountOf debitListed
  obtain ⟨credit, isCredit⟩ := charted.accountOf creditListed
  unfold journalPair
  rw [isDebit, isCredit]
  nofun

variable {debitCode creditCode : String} {fund : LedgerFund} {amount : ℤ}

theorem posted_own (fund : LedgerFund) (makes : Makes condoId make)
    (vendor : ∀ lines, (make lines).sourceType = .vendorBill ∨ (make lines).sourceType = .vendorPayment)
    (isKey : ∀ lines, (make lines).idempotencyKey = some key) (named : key ≠ "") (ids : AccountIds gl)
    (charted : Charted condoId gl) (debitListed : debitCode ∈ malaysianJmbCoa.map CoaTemplateRow.code)
    (creditListed : creditCode ∈ malaysianJmbCoa.map CoaTemplateRow.code) (positive : 0 < amount) :
    PostedOwn condoId key ((if creditCode = payableCode then amount else 0) -
      if debitCode = payableCode then amount else 0) gl
      (logged (post condoId (fun rows => journalPair rows debitCode creditCode fund amount) make) gl).2 := by
  by_cases free : KeyFree gl (some key)
  · rw [posted_paired makes charted.seeded (by rwa [isKey]) (paired_journalPair _ _ _ positive),
      if_neg (journalPair_ne_nil charted debitListed creditListed fund amount)]
    have keys : ∀ text, KeyFree (gl.appendEntry
        (make (journalPair (accountCodes condoId gl) debitCode creditCode fund amount))) (some text) ↔
        KeyFree gl (some text) ∧ text ≠ key := keyFree_appendEntry (isKey _)
    refine ⟨⟨Allocated.mono ids ((Nat.le_succ _).trans (Nat.le_add_right _ _)), charted, ?_⟩, ?_, ?_, ?_⟩
    · intro text different
      rw [keys]
      exact and_iff_left different
    · rw [keys]
      exact fun both => both.2 rfl
    · intro _
      rw [vendorPayable_appendEntry (vendor _), makes.lines, payable_journalPair ids charted debitListed creditListed]
    · exact fun taken => absurd free taken
  · rw [posted_taken makes charted.seeded isKey named free]
    exact ⟨⟨ids, charted, fun _ _ => Iff.rfl⟩, free, fun also => absurd also free, fun _ => rfl⟩

theorem posted_elsewhere {other : Id} (makes : Makes other make)
    (isKey : ∀ lines, (make lines).idempotencyKey = some key) (ids : AccountIds gl)
    (charted : Charted condoId gl) (different : other ≠ condoId) (positive : 0 < amount) : PostedUnder condoId key gl
        (logged (post other (fun rows => journalPair rows debitCode creditCode fund amount) make) gl).2 ∧
      vendorPayable (logged (post other (fun rows => journalPair rows debitCode creditCode fund amount) make) gl).2
        condoId = vendorPayable gl condoId := by
  have extension : Extension other (fun entry => entry.idempotencyKey = some key) gl
      (logged (post other (fun rows => journalPair rows debitCode creditCode fund amount) make) gl).2 :=
    posted_extension makes (fun db => (paired_journalPair debitCode creditCode fund positive).accounts)
      (fun lines _ _ => isKey lines) ids
  obtain ⟨new, same, own⟩ := extension.entries
  refine ⟨⟨extension.ids, charted.extension extension, fun text nodup => ?_⟩, ?_⟩
  · constructor
    · intro free other isText entry found
      exact free other isText entry (by rw [same]; exact mem_append_left _ found)
    · rintro free other ⟨⟩ entry found
      rw [same] at found
      rcases mem_append.mp found with old | added
      · exact free text rfl entry old
      · rw [(own entry added).1]
        exact fun also => nodup (Option.some.inj also).symm
  · have silent : ∀ entry ∈ new.filter isVendorEntry, payableOf
        (logged (post other (fun rows => journalPair rows debitCode creditCode fund amount) make) gl).2
        condoId entry = 0 := by
      intro entry mem
      refine sumBy_zero _ fun line inside => if_neg ?_
      intro pick
      obtain ⟨account, found, id, owner⟩ := (own entry (mem_of_mem_filter mem)).2 line inside
      obtain ⟨row, also, sameId, mine, _⟩ := isAccount_iff.mp pick
      rw [extension.ids.unique also found (sameId.trans id.symm)] at mine
      exact different (owner.symm.trans mine)
    unfold vendorPayable
    rw [same, filter_append, sumBy_append, sumBy_zero _ silent, add_zero]
    unfold payableOf
    simp only [isAccount_extension extension different]

end

theorem expenseCode_listed (fund : LedgerFund) : expenseCode fund ∈ malaysianJmbCoa.map CoaTemplateRow.code := by
  cases fund <;> decide

theorem payableCode_listed : payableCode ∈ malaysianJmbCoa.map CoaTemplateRow.code := by decide

theorem expenseCode_ne_payable (fund : LedgerFund) : expenseCode fund ≠ payableCode := by
  cases fund <;> decide

theorem bankCode_ne_payable (fund : LedgerFund) : bankCode fund ≠ payableCode := by
  cases fund <;> decide

theorem vendorBillKey_ne_empty (id : Id) : vendorBillKey env id ≠ "" := by
  unfold vendorBillKey
  simp

theorem vendorPaymentKey_ne_empty (id : Id) : vendorPaymentKey env id ≠ "" := by
  unfold vendorPaymentKey
  simp

theorem vendorBillKey_ne_vendorPaymentKey (bill payment : Id) :
    vendorBillKey env bill ≠ vendorPaymentKey env payment := by
  intro same
  -- the keys differ after their common stem
  have texts := congrArg (fun key => key.toList[10]?) same
  unfold vendorBillKey vendorPaymentKey at texts
  simp only [String.toList_append] at texts
  rw [List.getElem?_append_left (by decide), List.getElem?_append_left (by decide)] at texts
  revert texts
  decide

section

variable {opts : PostVendorBillOpts}

def accrualEntry (env : Env) (opts : PostVendorBillOpts) (lines : List JournalLineInput) : PostEntryOpts where
  condoId := opts.condoId
  entryDate := opts.entryDate
  sourceType := .vendorBill
  sourceId := some opts.vendorBillId
  postedByUserId := opts.actorUserId
  idempotencyKey := some (vendorBillKey env opts.vendorBillId)
  lines := lines

def disbursementEntry (env : Env) (opts : PostVendorBillOpts) (lines : List JournalLineInput) : PostEntryOpts where
  condoId := opts.condoId
  entryDate := opts.entryDate
  sourceType := .vendorPayment
  sourceId := some opts.vendorBillId
  postedByUserId := opts.actorUserId
  idempotencyKey := some (vendorPaymentKey env opts.vendorBillId)
  lines := lines

theorem postVendorBillApproved_eq : postVendorBillApproved env opts = logged (post opts.condoId
    (fun rows => journalPair rows (expenseCode opts.fund) payableCode opts.fund (mathRound opts.amount))
    (accrualEntry env opts)) := rfl

theorem postVendorBillPaid_eq : postVendorBillPaid env opts = logged (post opts.condoId
    (fun rows => journalPair rows payableCode (bankCode opts.fund) opts.fund (mathRound opts.amount))
    (disbursementEntry env opts)) := rfl

variable (env opts) {amount : ℤ} (isAmount : opts.amount = amount) (ids : AccountIds gl) (positive : 0 < amount)
include isAmount ids positive

theorem accrued_own (charted : Charted opts.condoId gl) :
    PostedOwn opts.condoId (vendorBillKey env opts.vendorBillId) amount gl (postVendorBillApproved env opts gl).2 := by
  have makes : Makes opts.condoId (accrualEntry env opts) := ⟨fun _ => rfl, fun _ => rfl⟩
  have posted := posted_own opts.fund makes
    (fun _ => .inl rfl) (fun _ => rfl) (vendorBillKey_ne_empty _) ids charted (expenseCode_listed opts.fund)
    payableCode_listed positive
  rw [if_neg (expenseCode_ne_payable _), sub_zero] at posted
  rw [postVendorBillApproved_eq, isAmount, mathRound_intCast]
  exact posted

theorem disbursed_own (charted : Charted opts.condoId gl) :
    PostedOwn opts.condoId (vendorPaymentKey env opts.vendorBillId) (-amount) gl
      (postVendorBillPaid env opts gl).2 := by
  have makes : Makes opts.condoId (disbursementEntry env opts) := ⟨fun _ => rfl, fun _ => rfl⟩
  have posted := posted_own opts.fund makes
    (fun _ => .inr rfl) (fun _ => rfl) (vendorPaymentKey_ne_empty _) ids charted payableCode_listed
    (bankCode_listed opts.fund) positive
  rw [if_neg (bankCode_ne_payable _), zero_sub] at posted
  rw [postVendorBillPaid_eq, isAmount, mathRound_intCast]
  exact posted

variable (charted : Charted condoId gl) (different : opts.condoId ≠ condoId)
include charted different

theorem accrued_elsewhere :
    PostedUnder condoId (vendorBillKey env opts.vendorBillId) gl (postVendorBillApproved env opts gl).2 ∧
      vendorPayable (postVendorBillApproved env opts gl).2 condoId = vendorPayable gl condoId := by
  rw [postVendorBillApproved_eq, isAmount, mathRound_intCast]
  exact posted_elsewhere ⟨fun _ => rfl, fun _ => rfl⟩ (fun _ => rfl) ids charted different positive

theorem disbursed_elsewhere :
    PostedUnder condoId (vendorPaymentKey env opts.vendorBillId) gl (postVendorBillPaid env opts gl).2 ∧
      vendorPayable (postVendorBillPaid env opts gl).2 condoId = vendorPayable gl condoId := by
  rw [postVendorBillPaid_eq, isAmount, mathRound_intCast]
  exact posted_elsewhere ⟨fun _ => rfl, fun _ => rfl⟩ (fun _ => rfl) ids charted different positive

end

end SmartResidence.Procurement
