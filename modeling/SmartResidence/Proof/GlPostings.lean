import SmartResidence.Accounting.PostingTransactions
import SmartResidence.Proof.JournalBooks

/-!
# What an automatic posting adds to the general ledger
-/

namespace SmartResidence.Accounting

open Foundation Billing List

variable {gl : GlDb} {condoId : Id} {rows : List GlAccount} {opts : PostEntryOpts} {lines : List JournalLineInput}

def AccountIds (gl : GlDb) : Prop := Allocated (gl.accounts.map GlAccount.id) gl.nextId

theorem AccountIds.unique (ids : AccountIds gl) {first second : GlAccount} (found : first ∈ gl.accounts)
    (also : second ∈ gl.accounts) (same : first.id = second.id) : first = second :=
  eq_of_key_eq ids.distinct found also same

def Charted (condoId : Id) (gl : GlDb) : Prop :=
  ∀ row ∈ malaysianJmbCoa, ∃ account ∈ gl.accounts,
    account.condoId = condoId ∧ account.code = row.code ∧ account.active = true

variable {account : GlAccount}

theorem mem_accountCodes : account ∈ accountCodes condoId gl ↔
    account ∈ gl.accounts ∧ account.condoId = condoId ∧ account.active = true := by
  simp [accountCodes]

theorem accountOf_some {code : String} (found : accountOf rows code = some account) :
    account ∈ rows ∧ account.code = code := by
  have mem := mem_of_find?_eq_some found
  have named := List.find?_some found
  exact ⟨mem_reverse.mp mem, of_decide_eq_true named⟩

theorem Charted.accountOf (charted : Charted condoId gl) {code : String}
    (listed : code ∈ malaysianJmbCoa.map CoaTemplateRow.code) :
    ∃ account, Accounting.accountOf (accountCodes condoId gl) code = some account := by
  obtain ⟨row, mem, rfl⟩ := mem_map.mp listed
  obtain ⟨account, found, owner, named, active⟩ := charted row mem
  apply Option.isSome_iff_exists.mp
  rw [Accounting.accountOf, List.find?_isSome]
  refine ⟨account, ?_, by simpa using named⟩
  rw [mem_reverse, mem_accountCodes]
  exact ⟨found, owner, active⟩

theorem Charted.seeded (charted : Charted condoId gl) : ∃ account ∈ gl.accounts, account.condoId = condoId := by
  obtain ⟨account, found, owner, _⟩ := charted ⟨"1000", .asset, .maintenance, none⟩ (by simp [malaysianJmbCoa])
  exact ⟨account, found, owner⟩

def LineOf (condoId : Id) (gl : GlDb) (accountId : Id) : Prop :=
  ∃ account ∈ gl.accounts, account.id = accountId ∧ account.condoId = condoId

structure PairedLines (gl : GlDb) (condoId : Id) (lines : List JournalLineInput) : Prop where
  normal : normalized lines = lines
  balanced : (lines.map JournalLineInput.debit).sum = (lines.map JournalLineInput.credit).sum
  accounts : ∀ line ∈ lines, LineOf condoId gl line.accountId
  enough : lines = [] ∨ 2 ≤ lines.length

namespace PairedLines

theorem nil : PairedLines gl condoId [] := ⟨rfl, rfl, nofun, .inl rfl⟩

theorem append {more : List JournalLineInput} (first : PairedLines gl condoId lines)
    (second : PairedLines gl condoId more) : PairedLines gl condoId (lines ++ more) where
  normal := by
    have split : normalized (lines ++ more) = normalized lines ++ normalized more := by simp [normalized]
    rw [split, first.normal, second.normal]
  balanced := by
    rw [map_append, map_append, sum_append, sum_append, first.balanced, second.balanced]
  accounts line mem := (mem_append.mp mem).elim (first.accounts line) (second.accounts line)
  enough := by
    rcases first.enough with rfl | enough
    · exact second.enough
    · rw [length_append]
      exact .inr (Nat.le_add_right_of_le enough)

theorem balanced_true (paired : PairedLines gl condoId lines) : journalBalanced lines = true := by
  rw [journalBalanced, paired.balanced, sub_self]
  have zero : mathRound 0 = 0 := by simpa using mathRound_intCast 0
  rw [zero]
  norm_num

theorem known (paired : PairedLines gl condoId lines) : ∀ line ∈ lines, gl.hasAccount line.accountId = true := by
  intro line mem
  obtain ⟨account, found, same, _⟩ := paired.accounts line mem
  rw [GlDb.hasAccount, GlDb.account?, findBy_isSome]
  exact ⟨account, found, same⟩

end PairedLines

theorem paired_journalPair (debitCode creditCode : String) (fund : LedgerFund) {amount : ℤ} (pos : 0 < amount) :
    PairedLines gl condoId (journalPair (accountCodes condoId gl) debitCode creditCode fund amount) := by
  unfold journalPair
  split
  · rename_i debit credit isDebit isCredit
    obtain ⟨debitFound, debitOwner, _⟩ := mem_accountCodes.mp (accountOf_some isDebit).1
    obtain ⟨creditFound, creditOwner, _⟩ := mem_accountCodes.mp (accountOf_some isCredit).1
    have large : |(amount : ℚ)| ≥ 1 / 2 := by
      have one : (1 : ℚ) ≤ amount := by exact_mod_cast pos
      rw [abs_of_pos (by linarith)]
      linarith
    have zero : mathRound 0 = 0 := by simpa using mathRound_intCast 0
    refine ⟨?_, by simp, ?_, .inr le_rfl⟩
    · unfold normalized
      rw [filter_eq_self.mpr]
      · simp [zero]
      · intro line mem
        simp only [mem_cons, not_mem_nil, or_false] at mem
        rcases mem with rfl | rfl
        · exact decide_eq_true (.inl large)
        · exact decide_eq_true (.inr large)
    · intro line mem
      simp only [mem_cons, not_mem_nil, or_false] at mem
      rcases mem with rfl | rfl
      · exact ⟨debit, debitFound, rfl, debitOwner⟩
      · exact ⟨credit, creditFound, rfl, creditOwner⟩
  · exact .nil

theorem mathRound_pos {amount : ℚ} (large : ¬ amount < 1 / 2) : 0 < mathRound amount := by
  by_contra small
  have below := roundHalfUp_le_iff.mp (not_lt.mp small)
  linarith

theorem paired_fundPairs (debitCode creditCode : LedgerFund → String) (byFund : List (LedgerFund × ℚ)) :
    PairedLines gl condoId (fundPairs (accountCodes condoId gl) debitCode creditCode byFund) := by
  induction byFund with
  | nil => exact .nil
  | cons share rest ih =>
    rw [fundPairs, flatMap_cons]
    refine .append ?_ ih
    split
    · exact .nil
    · rename_i large
      exact paired_journalPair _ _ _ (mathRound_pos large)

def GlDb.appendEntry (gl : GlDb) (opts : PostEntryOpts) : GlDb :=
  { gl with
    entries := gl.entries ++ [opts.row opts.lines gl.nextId]
    nextId := gl.nextId + 1 + opts.lines.length }

def KeyFree (gl : GlDb) (key : Option String) : Prop :=
  ∀ text ∈ key, ∀ entry ∈ gl.entries, entry.idempotencyKey ≠ some text

theorem KeyFree.postedUnder {key : Option String} (free : KeyFree gl key) : postedUnder key gl = none := by
  unfold Accounting.postedUnder
  split
  · rfl
  · rename_i text
    split
    · rfl
    · rw [List.find?_eq_none]
      intro entry mem same
      exact free text rfl entry mem (of_decide_eq_true same)

theorem ensureSeeded_seeded (seeded : ∃ account ∈ gl.accounts, account.condoId = condoId) :
    ensureSeeded condoId gl = (.ok (), gl) := by
  have pos : 0 < gl.accounts.countP fun account => account.condoId = condoId := by
    obtain ⟨account, found, owner⟩ := seeded
    exact countP_pos_iff.mpr ⟨account, found, by simpa using owner⟩
  show (if gl.accounts.countP (fun account => account.condoId = condoId) > 0 then pure ()
    else seedRows condoId malaysianJmbCoa [] : GlCall Unit) gl = _
  rw [if_pos pos]
  rfl

theorem insertEntry_free (free : KeyFree gl opts.idempotencyKey)
    (known : ∀ line ∈ opts.lines, gl.hasAccount line.accountId = true) :
    insertEntry opts opts.lines gl = (.ok (opts.row opts.lines gl.nextId), gl.appendEntry opts) := by
  unfold insertEntry
  rw [if_neg, if_neg]
  · rfl
  · rintro ⟨line, mem, missing⟩
    rw [known line mem] at missing
    cases missing
  · rintro ⟨keyed, entry, mem, same⟩
    obtain ⟨text, isKey⟩ := Option.isSome_iff_exists.mp keyed
    exact free text isKey entry mem (same.trans isKey)

theorem postEntry_paired (seeded : ∃ account ∈ gl.accounts, account.condoId = opts.condoId)
    (free : KeyFree gl opts.idempotencyKey) (paired : PairedLines gl opts.condoId opts.lines) (some : opts.lines ≠ []) :
    postEntry opts gl = (.ok (opts.row opts.lines gl.nextId), gl.appendEntry opts) := by
  have enough : ¬ opts.lines.length < 2 := not_lt.mpr (paired.enough.resolve_left some)
  unfold postEntry
  rw [Call.bind_of_ok (ensureSeeded_seeded seeded), Call.read_bind, free.postedUnder]
  dsimp only
  rw [paired.normal, if_neg enough, if_neg (by simp [paired.balanced_true]), insertEntry_free free paired.known]

theorem logged_state (call : GlCall (Option GlJournalEntry)) : (logged call gl).2 = (call gl).2 := by
  unfold logged
  rw [Call.attempt_bind]
  cases (call gl).1 <;> rfl

structure Makes (condoId : Id) (make : List JournalLineInput → PostEntryOpts) : Prop where
  condoId : ∀ lines, (make lines).condoId = condoId
  lines : ∀ lines, (make lines).lines = lines

theorem posted_paired {pairs : List GlAccount → List JournalLineInput} {make : List JournalLineInput → PostEntryOpts}
    (makes : Makes condoId make) (seeded : ∃ account ∈ gl.accounts, account.condoId = condoId)
    (free : KeyFree gl (make (pairs (accountCodes condoId gl))).idempotencyKey)
    (paired : PairedLines gl condoId (pairs (accountCodes condoId gl))) :
    (logged (post condoId pairs make) gl).2 = if pairs (accountCodes condoId gl) = [] then gl
      else gl.appendEntry (make (pairs (accountCodes condoId gl))) := by
  unfold post
  rw [logged_state, Call.bind_of_ok (ensureSeeded_seeded seeded), Call.read_bind]
  by_cases none : pairs (accountCodes condoId gl) = []
  · rw [if_pos none, if_pos none]
    rfl
  · rw [if_neg none, if_neg none, Call.bind_pure_state, postEntry_paired]
    · rw [makes.condoId]
      exact seeded
    · exact free
    · rw [makes.condoId, makes.lines]
      exact paired
    · rw [makes.lines]
      exact none

/-! ## In any state -/

structure Extension (condoId : Id) (Own : GlJournalEntry → Prop) (base gl : GlDb) : Prop where
  ids : AccountIds gl
  accounts : ∃ more, gl.accounts = base.accounts ++ more ∧ ∀ account ∈ more, account.condoId = condoId
  entries : ∃ new, gl.entries = base.entries ++ new ∧
    ∀ entry ∈ new, Own entry ∧ ∀ line ∈ entry.lines, LineOf condoId gl line.accountId

section

variable {base : GlDb} {Own : GlJournalEntry → Prop}

theorem Extension.refl (ids : AccountIds gl) : Extension condoId Own gl gl :=
  ⟨ids, ⟨[], by simp⟩, [], by simp⟩

variable {row : Id → GlAccount}

theorem keeps_accounts_insertAccount {Inv : GlDb → Prop}
    (kept : ∀ db, Inv db → Inv { db with accounts := db.accounts ++ [row db.nextId], nextId := db.nextId + 1 }) :
    Call.Keeps Inv (insertAccount row) := by
  intro db inv
  unfold insertAccount
  dsimp only
  split
  · exact inv
  · split
    · exact inv
    · exact kept db inv

theorem Extension.insertAccount (extension : Extension condoId Own base gl) (seeds : Seeds condoId row) :
    Extension condoId Own base
      { gl with accounts := gl.accounts ++ [row gl.nextId], nextId := gl.nextId + 1 } where
  ids := Allocated.insert extension.ids (seeds.id _) (Nat.lt_succ_self _)
  accounts := by
    obtain ⟨more, same, owner⟩ := extension.accounts
    refine ⟨more ++ [row gl.nextId], by simp [same], fun account mem => ?_⟩
    rcases mem_append.mp mem with old | new
    · exact owner account old
    · rw [mem_singleton.mp new]
      exact seeds.condoId _
  entries := by
    obtain ⟨new, same, own⟩ := extension.entries
    refine ⟨new, same, fun entry mem => ⟨(own entry mem).1, fun line inside => ?_⟩⟩
    obtain ⟨account, found, rest⟩ := (own entry mem).2 line inside
    exact ⟨account, mem_append_left _ found, rest⟩

theorem Extension.insertEntry (extension : Extension condoId Own base gl) {row : GlJournalEntry} {later : Id}
    (grows : gl.nextId ≤ later) (own : Own row) (known : ∀ line ∈ row.lines, LineOf condoId gl line.accountId) :
    Extension condoId Own base { gl with entries := gl.entries ++ [row], nextId := later } where
  ids := Allocated.mono extension.ids grows
  accounts := extension.accounts
  entries := by
    obtain ⟨new, same, owned⟩ := extension.entries
    refine ⟨new ++ [row], by simp [same], fun entry mem => ?_⟩
    rcases mem_append.mp mem with old | last
    · exact owned entry old
    · rw [mem_singleton.mp last]
      exact ⟨own, known⟩

theorem mem_row_lines {id : Id} {line : GlJournalLine} (mem : line ∈ (opts.row lines id).lines) :
    ∃ index input, input ∈ lines ∧ line = storedLine index input := by
  obtain ⟨index, below, same⟩ := mem_mapIdx.mp mem
  exact ⟨_, lines[index], getElem_mem below, same.symm⟩

theorem mem_normalized {line : JournalLineInput} (mem : line ∈ normalized lines) :
    ∃ input ∈ lines, input.accountId = line.accountId := by
  obtain ⟨input, inside, rfl⟩ := mem_map.mp mem
  exact ⟨input, mem_of_mem_filter inside, rfl⟩

theorem Extension.postEntry (extension : Extension condoId Own base gl) (owner : opts.condoId = condoId)
    (own : ∀ lines id, Own (opts.row lines id)) (known : ∀ line ∈ opts.lines, LineOf condoId gl line.accountId) :
    Extension condoId Own base (Accounting.postEntry opts gl).2 := by
  let Inv (db : GlDb) : Prop :=
    Extension condoId Own base db ∧ ∀ line ∈ opts.lines, LineOf condoId db line.accountId
  have kept : Call.Keeps Inv (Accounting.postEntry opts) := by
    refine keeps_postEntry (fun row seeds => keeps_accounts_insertAccount fun db inv => ?_)
      fun _ _ => keeps_insertEntry fun db inv _ _ => ?_
    · refine ⟨inv.1.insertAccount (owner ▸ seeds), fun line mem => ?_⟩
      obtain ⟨account, found, rest⟩ := inv.2 line mem
      exact ⟨account, mem_append_left _ found, rest⟩
    · refine ⟨inv.1.insertEntry ?_ (own _ _) fun line mem => ?_, inv.2⟩
      · exact (Nat.le_succ _).trans (Nat.le_add_right _ _)
      · obtain ⟨_, stored, inside, rfl⟩ := mem_row_lines mem
        obtain ⟨input, listed, same⟩ := mem_normalized inside
        show LineOf condoId db stored.accountId
        rw [← same]
        exact inv.2 input listed
  exact (kept gl ⟨extension, known⟩).1

theorem posted_extension {pairs : List GlAccount → List JournalLineInput} {make : List JournalLineInput → PostEntryOpts}
    (makes : Makes condoId make)
    (accounts : ∀ db, ∀ line ∈ pairs (accountCodes condoId db), LineOf condoId db line.accountId)
    (made : ∀ lines stored id, Own ((make lines).row stored id)) (ids : AccountIds gl) :
    Extension condoId Own gl (logged (post condoId pairs make) gl).2 := by
  have kept : Call.Keeps (Extension condoId Own gl) (logged (post condoId pairs make)) := by
    refine keeps_logged (keeps_post (fun row seeds => keeps_accounts_insertAccount fun db inv => ?_) fun db inv => ?_)
    · exact inv.insertAccount seeds
    · refine inv.postEntry (makes.condoId _) (made _) ?_
      rw [makes.lines]
      exact accounts db
  exact kept gl (.refl ids)

end

/-! ## Balances -/

section

variable {code : String} {fund : LedgerFund} {Own : GlJournalEntry → Prop}

def inputIn (gl : GlDb) (condoId : Id) (code : String) (fund : LedgerFund) (line : JournalLineInput) : ℤ :=
  if isAccount gl condoId code line.accountId && decide (line.fund = fund) then
    stored line.debit - stored line.credit
  else 0

theorem isAccount_iff {accountId : Id} : isAccount gl condoId code accountId = true ↔
    ∃ account ∈ gl.accounts, account.id = accountId ∧ account.condoId = condoId ∧ account.code = code := by
  simp [isAccount]

theorem isAccount_accountOf (ids : AccountIds gl) {other : String} {account : GlAccount}
    (found : accountOf (accountCodes condoId gl) other = some account) :
    isAccount gl condoId code account.id = decide (other = code) := by
  obtain ⟨listed, named⟩ := accountOf_some found
  obtain ⟨inside, owner, _⟩ := mem_accountCodes.mp listed
  rw [Bool.eq_iff_iff, isAccount_iff, decide_eq_true_eq]
  constructor
  · rintro ⟨row, mem, same, _, also⟩
    rw [ids.unique mem inside same] at also
    exact named.symm.trans also
  · rintro rfl
    exact ⟨account, inside, rfl, owner, named⟩

theorem fundBalanceOn_appendEntry : fundBalanceOn (gl.appendEntry opts) condoId code fund =
      fundBalanceOn gl condoId code fund + sumBy (inputIn gl condoId code fund) opts.lines := by
  have lines : (gl.appendEntry opts).journalLines = gl.journalLines ++ (opts.row opts.lines gl.nextId).lines := by
    simp [GlDb.journalLines, GlDb.appendEntry]
  unfold fundBalanceOn
  rw [lines, filter_append, sumBy_append]
  congr 1
  rw [sumBy_filter]
  exact sumBy_mapIdx _ (fun index line => storedLine (gl.nextId + 1 + index) line) (inputIn gl condoId code fund)
    (fun _ _ => rfl) opts.lines

variable {after : GlDb}

theorem isAccount_extension {other : Id} (extension : Extension other Own gl after) (ne : other ≠ condoId)
    (accountId : Id) : isAccount after condoId code accountId = isAccount gl condoId code accountId := by
  obtain ⟨more, same, owner⟩ := extension.accounts
  unfold isAccount
  rw [same, any_append]
  have none : more.any (fun account =>
      decide (account.id = accountId ∧ account.condoId = condoId ∧ account.code = code)) = false := by
    rw [any_eq_false]
    intro account mem pick
    have own := (of_decide_eq_true pick).2.1
    exact ne ((owner account mem).symm.trans own)
  rw [none, Bool.or_false]

theorem fundBalanceOn_extension {other : Id} (extension : Extension other Own gl after) (ne : other ≠ condoId) :
    fundBalanceOn after condoId code fund = fundBalanceOn gl condoId code fund := by
  obtain ⟨new, same, owned⟩ := extension.entries
  have lines : after.journalLines = gl.journalLines ++ new.flatMap GlJournalEntry.lines := by
    simp [GlDb.journalLines, same]
  have elsewhere : (new.flatMap GlJournalEntry.lines).filter (fun line =>
      isAccount after condoId code line.accountId && decide (line.fund = fund)) = [] := by
    rw [filter_eq_nil_iff]
    intro line mem pick
    obtain ⟨entry, listed, inside⟩ := mem_flatMap.mp mem
    obtain ⟨account, found, id, owner⟩ := (owned entry listed).2 line inside
    rw [Bool.and_eq_true, isAccount_iff] at pick
    obtain ⟨row, also, sameId, own, _⟩ := pick.1
    rw [extension.ids.unique also found (sameId.trans id.symm)] at own
    exact ne (owner.symm.trans own)
  unfold fundBalanceOn
  rw [lines, filter_append, elsewhere, append_nil]
  simp only [isAccount_extension extension ne]

theorem accountBalance_eq : accountBalance gl condoId code = sumBy (fundBalanceOn gl condoId code) ledgerFunds := by
  unfold accountBalance fundBalanceOn ledgerFunds
  simp only [sumBy_cons, sumBy_nil, sumBy_filter, ← sumBy_add, add_zero]
  refine sumBy_congr fun line _ => ?_
  cases isAccount gl condoId code line.accountId
  · simp
  · cases line.fund <;> simp

def postedAmount (amount : ℚ) : ℤ := if amount < 1 / 2 then 0 else mathRound amount

def pairIn (debitCode creditCode : LedgerFund → String) (code : String) (fund : LedgerFund)
    (share : LedgerFund × ℚ) : ℤ :=
  (if debitCode share.1 = code ∧ share.1 = fund then postedAmount share.2 else 0) -
    if creditCode share.1 = code ∧ share.1 = fund then postedAmount share.2 else 0

theorem sumBy_journalPair (ids : AccountIds gl) (charted : Charted condoId gl) {debitCode creditCode : String}
    (debitListed : debitCode ∈ malaysianJmbCoa.map CoaTemplateRow.code)
    (creditListed : creditCode ∈ malaysianJmbCoa.map CoaTemplateRow.code) (own : LedgerFund) (amount : ℤ) :
    sumBy (inputIn gl condoId code fund) (journalPair (accountCodes condoId gl) debitCode creditCode own amount) =
      (if debitCode = code ∧ own = fund then amount else 0) - if creditCode = code ∧ own = fund then amount else 0 := by
  obtain ⟨debit, isDebit⟩ := charted.accountOf debitListed
  obtain ⟨credit, isCredit⟩ := charted.accountOf creditListed
  have zero : stored 0 = 0 := by simpa using stored_intCast 0
  unfold journalPair
  rw [isDebit, isCredit]
  simp only [sumBy_cons, inputIn, isAccount_accountOf ids isDebit, isAccount_accountOf ids isCredit, Bool.and_eq_true,
    decide_eq_true_eq, zero]
  split <;> split <;> simp

theorem sumBy_fundPairs (ids : AccountIds gl) (charted : Charted condoId gl) {debitCode creditCode : LedgerFund → String}
    (debitListed : ∀ fund, debitCode fund ∈ malaysianJmbCoa.map CoaTemplateRow.code)
    (creditListed : ∀ fund, creditCode fund ∈ malaysianJmbCoa.map CoaTemplateRow.code)
    (byFund : List (LedgerFund × ℚ)) :
    sumBy (inputIn gl condoId code fund) (fundPairs (accountCodes condoId gl) debitCode creditCode byFund) =
      sumBy (pairIn debitCode creditCode code fund) byFund := by
  rw [fundPairs, sumBy_flatMap]
  refine sumBy_congr fun share _ => ?_
  by_cases small : share.2 < 1 / 2
  · simp only [pairIn, postedAmount, small, if_true, ite_self, sub_zero, sumBy_nil]
  · rw [if_neg small, sumBy_journalPair ids charted (debitListed _) (creditListed _)]
    simp only [pairIn, postedAmount, small, if_false]

theorem posted_balance {pairs : List GlAccount → List JournalLineInput} {make : List JournalLineInput → PostEntryOpts}
    (makes : Makes condoId make) (seeded : ∃ account ∈ gl.accounts, account.condoId = condoId)
    (free : KeyFree gl (make (pairs (accountCodes condoId gl))).idempotencyKey)
    (paired : PairedLines gl condoId (pairs (accountCodes condoId gl))) :
    fundBalanceOn (logged (post condoId pairs make) gl).2 condoId code fund =
      fundBalanceOn gl condoId code fund + sumBy (inputIn gl condoId code fund) (pairs (accountCodes condoId gl)) := by
  rw [posted_paired makes seeded free paired]
  split
  · rename_i none
    rw [none, sumBy_nil, add_zero]
  · rw [fundBalanceOn_appendEntry, makes.lines]

end

section

variable {env : Env} {opts : PostInvoiceChargesOpts}

def chargePairs (opts : PostInvoiceChargesOpts) (rows : List GlAccount) : List JournalLineInput :=
  fundPairs rows receivableCode incomeCode (chargesByFund opts.lines)

def chargeEntry (env : Env) (opts : PostInvoiceChargesOpts) (lines : List JournalLineInput) : PostEntryOpts where
  condoId := opts.condoId
  entryDate := opts.issuedAt.getD opts.now
  sourceType := .invoice
  sourceId := some opts.invoiceId
  postedByUserId := opts.actorUserId
  idempotencyKey := some (invoiceKey env opts.invoiceId)
  lines := lines

theorem postInvoiceCharges_eq :
    postInvoiceCharges env opts = logged (post opts.condoId (chargePairs opts) (chargeEntry env opts)) := rfl

theorem chargeEntry_makes : Makes opts.condoId (chargeEntry env opts) := ⟨fun _ => rfl, fun _ => rfl⟩

theorem chargePairs_paired : PairedLines gl condoId (chargePairs opts (accountCodes condoId gl)) :=
  paired_fundPairs _ _ _

end

section

variable {env : Env} {opts : PostPaymentOpts}

def paymentPairs (opts : PostPaymentOpts) (rows : List GlAccount) : List JournalLineInput :=
  fundPairs rows bankCode receivableCode opts.allocations

def paymentEntry (env : Env) (opts : PostPaymentOpts) (lines : List JournalLineInput) : PostEntryOpts where
  condoId := opts.condoId
  entryDate := opts.occurredAt.getD opts.now
  sourceType := .payment
  sourceId := some opts.paymentId
  postedByUserId := opts.actorUserId
  idempotencyKey := some (paymentKey env opts.paymentId)
  lines := lines

theorem postPayment_eq :
    postPayment env opts = logged (post opts.condoId (paymentPairs opts) (paymentEntry env opts)) := rfl

theorem paymentEntry_makes : Makes opts.condoId (paymentEntry env opts) := ⟨fun _ => rfl, fun _ => rfl⟩

theorem paymentPairs_paired : PairedLines gl condoId (paymentPairs opts (accountCodes condoId gl)) :=
  paired_fundPairs _ _ _

end

end SmartResidence.Accounting
