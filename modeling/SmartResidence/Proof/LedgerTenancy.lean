import SmartResidence.Accounting.BankReconciliation
import SmartResidence.Proof.GlPostings

/-!
# Tenancy of the general ledger
-/

namespace SmartResidence.Accounting

open Foundation Billing List

variable {env : Env} {gl : GlDb} {condoId : Id}

def IsAutomaticKey (key : String) : Prop := ∃ text, text ≠ "" ∧ key = "gl:" ++ text

/-- Lines are on accounts of their own condo, parents are accounts of the same condo, and no manual entry has the key of
an automatic posting. -/
structure Tenanted (env : Env) (gl : GlDb) : Prop where
  ids : (gl.accounts.map GlAccount.id).Nodup
  lines : ∀ entry ∈ gl.entries, ∀ line ∈ entry.lines, LineOf entry.condoId gl line.accountId
  parents : ∀ account ∈ gl.accounts, ∀ parentId ∈ account.parentId, LineOf account.condoId gl parentId
  unsuppressed : ∀ (posting : AutomaticPosting), ∀ key ∈ posting.key env, ∀ entry ∈ gl.entries,
    entry.idempotencyKey = some key → entry.sourceType ≠ .manual

inductive OwnEntry (before : GlDb) (condoId : Id) (key : Option String) (entry : GlJournalEntry) (after : GlDb) : Prop
  | new (owner : entry.condoId = condoId) (added : after.entries = before.entries ++ [entry])
  | existing (owner : entry.condoId = condoId) (found : entry ∈ before.entries) (same : entry.idempotencyKey = key)
      (kept : after.entries = before.entries)

/-- The ids of the request belong to its condo, and its key is not automatic and not used by another condo. -/
def KeepsTenancy (gl : GlDb) : LedgerOp → Prop
  | .postManual user condoId input =>
      (∀ line ∈ normalized (manualOpts user.id condoId input).lines, ∀ account ∈ gl.accounts,
        account.id = line.accountId → account.condoId = condoId) ∧
      ∀ key ∈ input.idempotencyKey, ¬ IsAutomaticKey key ∧ ∀ entry ∈ gl.entries, entry.idempotencyKey = some key →
        entry.condoId = condoId ∧ key ≠ ""
  | .createAccount _ condoId input => ∀ parentId ∈ input.parentId, ∀ account ∈ gl.accounts,
      account.id = parentId → account.condoId = condoId
  | .updateAccount _ accountId input => ∀ parentId ∈ input.parentId, ∀ id ∈ parentId, ∀ existing ∈ gl.accounts,
      existing.id = accountId → ∀ account ∈ gl.accounts, account.id = id → account.condoId = existing.condoId
  | _ => True

theorem append_automatic {stem : String} (text : String) (named : stem ≠ "") : IsAutomaticKey ("gl:" ++ stem ++ text) := by
  refine ⟨stem ++ text, fun empty => named ?_, String.append_assoc⟩
  exact (String.append_eq_empty_iff.mp empty).1

theorem AutomaticPosting.key_automatic {posting : AutomaticPosting} {key : String} (own : key ∈ posting.key env) :
    IsAutomaticKey key := by
  cases posting with
  | invoiceCharges opts =>
    cases own
    exact append_automatic (env.uuid opts.invoiceId) (show "invoice:" ≠ "" by decide)
  | payment opts =>
    cases own
    exact append_automatic (env.uuid opts.paymentId) (show "payment:" ≠ "" by decide)
  | ledgerEntry entry =>
    have deposit : depositKey entry.idempotencyKey = some key := own
    unfold depositKey at deposit
    split at deposit
    · cases deposit
    · rename_i text _
      split at deposit
      · cases deposit
      · rename_i named
        exact ⟨text, named, (Option.some.inj deposit).symm⟩
  | vendorBillApproved opts =>
    cases own
    exact append_automatic (env.uuid opts.vendorBillId) (show "vendor-bill:" ≠ "" by decide)
  | vendorBillPaid opts =>
    cases own
    exact append_automatic (env.uuid opts.vendorBillId) (show "vendor-payment:" ≠ "" by decide)

variable {accountId : Id}

theorem LineOf.mono {later : GlDb} (line : LineOf condoId gl accountId)
    (kept : ∀ account ∈ gl.accounts, account ∈ later.accounts) : LineOf condoId later accountId := by
  obtain ⟨account, found, rest⟩ := line
  exact ⟨account, kept account found, rest⟩

theorem lineOf_accountOf {code : String} {account : GlAccount} (found : accountOf (accountCodes condoId gl) code = some account) :
    LineOf condoId gl account.id := by
  obtain ⟨mem, owner, _⟩ := mem_accountCodes.mp (accountOf_some found).1
  exact ⟨account, mem, rfl, owner⟩

theorem lineOf_journalPair {debitCode creditCode : String} {fund : LedgerFund} {amount : ℤ} :
    ∀ line ∈ journalPair (accountCodes condoId gl) debitCode creditCode fund amount, LineOf condoId gl line.accountId := by
  intro line mem
  unfold journalPair at mem
  split at mem
  · rename_i debit credit isDebit isCredit
    simp only [mem_cons, not_mem_nil, or_false] at mem
    rcases mem with rfl | rfl
    · exact lineOf_accountOf isDebit
    · exact lineOf_accountOf isCredit
  · cases mem

theorem lineOf_fundPairs {debitCode creditCode : LedgerFund → String} {byFund : List (LedgerFund × ℚ)} :
    ∀ line ∈ fundPairs (accountCodes condoId gl) debitCode creditCode byFund, LineOf condoId gl line.accountId := by
  intro line mem
  obtain ⟨share, _, inside⟩ := mem_flatMap.mp mem
  split at inside
  · cases inside
  · exact lineOf_journalPair line inside

/-! ## What inserts and updates keep -/

def Ours (condoId : Id) (gl : GlDb) (accountId : Id) : Prop :=
  ∀ account ∈ gl.accounts, account.id = accountId → account.condoId = condoId

theorem Ours.lineOf (ours : Ours condoId gl accountId) (known : gl.hasAccount accountId = true) :
    LineOf condoId gl accountId := by
  rw [GlDb.hasAccount, GlDb.account?, findBy_isSome] at known
  obtain ⟨account, found, same⟩ := known
  exact ⟨account, found, same, ours account found same⟩

structure TenancyState (gl : GlDb) : Prop where
  ids : AccountIds gl
  lines : ∀ entry ∈ gl.entries, ∀ line ∈ entry.lines, LineOf entry.condoId gl line.accountId
  parents : ∀ account ∈ gl.accounts, ∀ parentId ∈ account.parentId, LineOf account.condoId gl parentId
  manual : ∀ entry ∈ gl.entries, entry.sourceType = .manual → ∀ key ∈ entry.idempotencyKey, ¬ IsAutomaticKey key

theorem TenancyState.empty : TenancyState .empty := ⟨.nil, nofun, nofun, nofun⟩

theorem TenancyState.tenanted (state : TenancyState gl) : Tenanted env gl where
  ids := state.ids.distinct
  lines := state.lines
  parents := state.parents
  unsuppressed _ key own entry found same byHand :=
    state.manual entry found byHand key same (AutomaticPosting.key_automatic own)

section

variable (state : TenancyState gl)
include state

theorem TenancyState.ours {accountId : Id} (line : LineOf condoId gl accountId) : Ours condoId gl accountId := by
  obtain ⟨account, found, same, owner⟩ := line
  intro other also equal
  rwa [state.ids.unique also found (equal.trans same.symm)]

theorem TenancyState.insertAccount {account : GlAccount} (isId : account.id = gl.nextId)
    (parents : ∀ parentId ∈ account.parentId, LineOf account.condoId gl parentId) :
    TenancyState { gl with accounts := gl.accounts ++ [account], nextId := gl.nextId + 1 } where
  ids := Allocated.insert state.ids isId (Nat.lt_succ_self _)
  lines entry found line mem :=
    (state.lines entry found line mem).mono fun _ inside => mem_append_left _ inside
  parents other mem parentId isParent := by
    rcases mem_append.mp mem with old | new
    · exact (state.parents other old parentId isParent).mono fun _ inside => mem_append_left _ inside
    · rw [mem_singleton] at new
      subst new
      exact (parents parentId isParent).mono fun _ inside => mem_append_left _ inside
  manual := state.manual

theorem TenancyState.insertEntry {row : GlJournalEntry} {later : Id} (grows : gl.nextId ≤ later)
    (known : ∀ line ∈ row.lines, LineOf row.condoId gl line.accountId)
    (manual : row.sourceType = .manual → ∀ key ∈ row.idempotencyKey, ¬ IsAutomaticKey key) :
    TenancyState { gl with entries := gl.entries ++ [row], nextId := later } where
  ids := Allocated.mono state.ids grows
  lines entry mem := by
    rcases mem_append.mp mem with old | new
    · exact state.lines entry old
    · rw [mem_singleton] at new
      subst new
      exact known
  parents := state.parents
  manual entry mem := by
    rcases mem_append.mp mem with old | new
    · exact state.manual entry old
    · rw [mem_singleton] at new
      subst new
      exact manual

end

variable {input : UpdateGlAccountDto}

theorem LineOf.updated {changed : Id} (line : LineOf condoId gl accountId) :
    LineOf condoId { gl with accounts := updateBy GlAccount.id changed (updatedAccount input) gl.accounts } accountId := by
  obtain ⟨account, found, same, owner⟩ := line
  refine ⟨_, mem_updateBy.mpr ⟨account, found, rfl⟩, ?_, ?_⟩
  · split <;> exact same
  · split <;> exact owner

theorem TenancyState.updated (state : TenancyState gl)
    (parents : ∀ parentId ∈ input.parentId, ∀ id ∈ parentId, ∀ existing ∈ gl.accounts, existing.id = accountId →
      LineOf existing.condoId gl id) :
    TenancyState { gl with accounts := updateBy GlAccount.id accountId (updatedAccount input) gl.accounts } where
  ids := Allocated.updateBy state.ids le_rfl fun _ => rfl
  lines entry found line mem := (state.lines entry found line mem).updated
  parents account mem parentId isParent := by
    obtain ⟨old, found, rfl⟩ := mem_updateBy.mp mem
    split
    · rename_i pick
      rw [if_pos pick] at isParent
      rcases given : input.parentId with _ | parent
      · rw [updatedAccount, given] at isParent
        exact (state.parents old found parentId isParent).updated
      · rw [updatedAccount, given] at isParent
        exact (parents parent given parentId isParent old found pick).updated
    · rename_i other
      rw [if_neg other] at isParent
      exact (state.parents old found parentId isParent).updated
  manual := state.manual

variable {row : Id → GlAccount}

theorem keeps_tenancy_seed (seeds : Seeds condoId row) : Call.Keeps TenancyState (insertAccount row) := by
  refine keeps_accounts_insertAccount fun db state => state.insertAccount (seeds.id _) ?_
  rw [seeds.parentId]
  nofun

theorem keeps_ours_seed (seeds : Seeds condoId row) :
    Call.Keeps (fun db => Ours condoId db accountId) (insertAccount row) := by
  refine keeps_accounts_insertAccount fun db ours account mem same => ?_
  rcases mem_append.mp mem with old | new
  · exact ours account old same
  · rw [mem_singleton.mp new]
    exact seeds.condoId _

theorem TenancyState.postEntry (state : TenancyState gl) {opts : PostEntryOpts}
    (ours : ∀ line ∈ normalized opts.lines, Ours opts.condoId gl line.accountId)
    (manual : opts.sourceType = .manual → ∀ key ∈ opts.idempotencyKey, ¬ IsAutomaticKey key) :
    TenancyState (Accounting.postEntry opts gl).2 := by
  let Inv (db : GlDb) : Prop :=
    TenancyState db ∧ ∀ line ∈ normalized opts.lines, Ours opts.condoId db line.accountId
  have kept : Call.Keeps Inv (Accounting.postEntry opts) := by
    refine keeps_postEntry (fun row seeds db inv => ⟨keeps_tenancy_seed seeds db inv.1, fun line mem => ?_⟩)
      fun _ _ => keeps_insertEntry fun db inv _ known => ⟨inv.1.insertEntry ?_ ?_ manual, inv.2⟩
    · exact keeps_ours_seed seeds db (inv.2 line mem)
    · exact (Nat.le_succ _).trans (Nat.le_add_right _ _)
    · intro line mem
      obtain ⟨_, input, inside, rfl⟩ := mem_row_lines mem
      exact (inv.2 input inside).lineOf (known input inside)
  exact (kept gl ⟨state, ours⟩).1

theorem keeps_tenancy_post {pairs : List GlAccount → List JournalLineInput} {make : List JournalLineInput → PostEntryOpts}
    (makes : Makes condoId make)
    (accounts : ∀ db, ∀ line ∈ pairs (accountCodes condoId db), LineOf condoId db line.accountId)
    (automatic : ∀ lines, (make lines).sourceType ≠ .manual) :
    Call.Keeps TenancyState (logged (post condoId pairs make)) := by
  refine keeps_logged (keeps_post (fun row seeds => keeps_tenancy_seed seeds) fun db state => ?_)
  refine state.postEntry (fun line mem => ?_) fun byHand => absurd byHand (automatic _)
  rw [makes.condoId]
  rw [makes.lines] at mem
  obtain ⟨input, listed, same⟩ := mem_normalized mem
  rw [← same]
  exact state.ours (accounts db input listed)

/-! ## Operations -/

theorem TenancyState.createAccount (state : TenancyState gl) {input : CreateGlAccountDto}
    (ours : ∀ parentId ∈ input.parentId, Ours condoId gl parentId) :
    TenancyState (Accounting.createAccount condoId input gl).2 := by
  let Inv (db : GlDb) : Prop := TenancyState db ∧ ∀ parentId ∈ input.parentId, Ours condoId db parentId
  have kept : Call.Keeps Inv (Accounting.createAccount condoId input) := by
    refine Call.keeps_bind (keeps_ensureSeeded fun row seeds db inv => ?_) fun _ db inv => ?_
    · exact ⟨keeps_tenancy_seed seeds db inv.1, fun parentId given => keeps_ours_seed seeds db (inv.2 parentId given)⟩
    · unfold Accounting.insertAccount
      dsimp only
      split
      · exact inv
      · split
        · exact inv
        · rename_i known
          have parents : ∀ parentId ∈ input.parentId, LineOf condoId db parentId := by
            intro parentId given
            refine (inv.2 parentId given).lineOf ?_
            by_contra missing
            exact known ⟨parentId, given, Bool.not_eq_true _ ▸ missing⟩
          refine ⟨inv.1.insertAccount rfl parents, fun parentId given account mem same => ?_⟩
          rcases mem_append.mp mem with old | new
          · exact inv.2 parentId given account old same
          · rw [mem_singleton.mp new]
  exact (kept gl ⟨state, ours⟩).1

theorem TenancyState.updateAccount (state : TenancyState gl) {user : AuthenticatedUser}
    (ours : ∀ parentId ∈ input.parentId, ∀ id ∈ parentId, ∀ existing ∈ gl.accounts,
      existing.id = accountId → Ours existing.condoId gl id) :
    TenancyState (Accounting.updateAccount user accountId input gl).2 := by
  unfold Accounting.updateAccount
  rw [Call.read_bind]
  cases gl.account? accountId with
  | none => exact state
  | some existing =>
    dsimp only
    rw [Call.ofResult_bind]
    split
    · unfold writeAccount
      split
      · exact state
      · rename_i known
        refine state.updated fun parentId given id isParent existing found same => ?_
        refine (ours parentId given id isParent existing found same).lineOf ?_
        by_contra missing
        exact known ⟨parentId, given, id, isParent, Bool.not_eq_true _ ▸ missing⟩
    · exact state

theorem keeps_tenancy_matchLine {lineId : Id} {journalLineId : Option Id} :
    Call.Keeps TenancyState (matchLine condoId lineId journalLineId) := by
  have writes : ∀ id, Call.Keeps TenancyState (writeMatch lineId id) :=
    fun _ _ state => ⟨state.ids, state.lines, state.parents, state.manual⟩
  refine Call.keeps_bind (Call.keeps_read _) fun line => ?_
  cases line with
  | none => exact Call.keeps_throw _
  | some line =>
    cases journalLineId with
    | none => exact writes none
    | some id =>
      refine Call.keeps_bind (Call.keeps_read _) fun found => ?_
      cases found with
      | none => exact Call.keeps_throw _
      | some journalLine => exact writes (some id)

theorem keeps_tenancy_importCsv {input : ImportBankStatementDto} :
    Call.Keeps TenancyState (importCsv condoId input) := by
  refine Call.keeps_bind (keeps_ensureSeeded fun row seeds => keeps_tenancy_seed seeds) fun _ => ?_
  refine Call.keeps_bind (Call.keeps_read _) fun account => ?_
  cases account with
  | none => exact Call.keeps_throw _
  | some account =>
    dsimp only
    split
    · exact Call.keeps_throw _
    · intro db state
      unfold insertImport
      split
      · exact state
      · have grows : db.nextId ≤ db.nextId + 1 + input.rows.length := (Nat.le_succ _).trans (Nat.le_add_right _ _)
        exact ⟨Allocated.mono state.ids grows, state.lines, state.parents, state.manual⟩

theorem keeps_tenancy_automatic (posting : AutomaticPosting) : Call.Keeps TenancyState (posting.call env) := by
  cases posting with
  | invoiceCharges opts => exact keeps_tenancy_post chargeEntry_makes (fun _ => lineOf_fundPairs) fun _ => nofun
  | payment opts => exact keeps_tenancy_post paymentEntry_makes (fun _ => lineOf_fundPairs) fun _ => nofun
  | ledgerEntry entry =>
    show Call.Keeps TenancyState (postLedgerEntry entry)
    unfold postLedgerEntry
    split
    · exact Call.keeps_pure _
    · split
      · exact Call.keeps_pure _
      · split
        · exact keeps_tenancy_post ⟨fun _ => rfl, fun _ => rfl⟩ (fun _ => lineOf_journalPair) fun _ => nofun
        · exact Call.keeps_pure _
  | vendorBillApproved opts =>
    exact keeps_tenancy_post ⟨fun _ => rfl, fun _ => rfl⟩ (fun _ => lineOf_journalPair) fun _ => nofun
  | vendorBillPaid opts =>
    exact keeps_tenancy_post ⟨fun _ => rfl, fun _ => rfl⟩ (fun _ => lineOf_journalPair) fun _ => nofun

theorem TenancyState.performs (state : TenancyState gl) {op : LedgerOp} (keeps : KeepsTenancy gl op) :
    TenancyState (op.call env gl).2 := by
  cases op with
  | postManual user condoId input =>
    obtain ⟨ours, keys⟩ := keeps
    show TenancyState ((Call.ofResult (assertCondoManagement user condoId) >>= fun _ => _) gl).2
    rw [Call.ofResult_bind]
    split
    · rw [Call.bind_pure_state]
      exact state.postEntry ours fun _ key isKey => (keys key isKey).1
    · exact state
  | createAccount user condoId input =>
    show TenancyState ((Call.ofResult (assertCondoManagement user condoId) >>= fun _ => _) gl).2
    rw [Call.ofResult_bind]
    split
    · rw [Call.bind_pure_state]
      exact state.createAccount keeps
    · exact state
  | updateAccount user accountId input =>
    show TenancyState ((Accounting.updateAccount user accountId input >>= fun _ => _) gl).2
    rw [Call.bind_pure_state]
    exact state.updateAccount keeps
  | importCsv user condoId input =>
    refine Call.keeps_bind (Call.keeps_ofResult _) (fun _ => ?_) gl state
    exact Call.keeps_bind keeps_tenancy_importCsv fun _ => Call.keeps_pure _
  | matchLine user condoId lineId journalLineId =>
    refine Call.keeps_bind (Call.keeps_ofResult _) (fun _ => ?_) gl state
    exact Call.keeps_bind keeps_tenancy_matchLine fun _ => Call.keeps_pure _
  | automatic posting => exact keeps_tenancy_automatic posting gl state

/-! ## What a manual journal returns -/

theorem keeps_entries_ensureSeeded {entries : List GlJournalEntry} :
    Call.Keeps (fun db => db.entries = entries) (ensureSeeded condoId) :=
  keeps_ensureSeeded fun _ _ => keeps_accounts_insertAccount fun _ same => same

variable {failure : GlError}

theorem insertAccount_error {after : GlDb} (thrown : insertAccount row gl = (.error failure, after)) :
    failure ≠ .uniqueViolation .idempotencyKey := by
  unfold insertAccount at thrown
  dsimp only at thrown
  split at thrown
  · cases thrown
    nofun
  · split at thrown
    · cases thrown
      nofun
    · cases thrown

theorem seedRows_error {rows : List CoaTemplateRow} {idByCode : List (String × Id)} {after : GlDb}
    (thrown : seedRows condoId rows idByCode gl = (.error failure, after)) :
    failure ≠ .uniqueViolation .idempotencyKey := by
  induction rows generalizing idByCode gl with
  | nil => cases thrown
  | cons row rest ih =>
    rcases Call.bind_eq_error thrown with first | ⟨created, middle, _, later⟩
    · exact insertAccount_error first
    · exact ih later

theorem ensureSeeded_error {after : GlDb} (thrown : ensureSeeded condoId gl = (.error failure, after)) :
    failure ≠ .uniqueViolation .idempotencyKey := by
  unfold ensureSeeded at thrown
  rw [Call.read_bind] at thrown
  split at thrown
  · cases thrown
  · exact seedRows_error thrown

def OwnKey (gl : GlDb) (condoId : Id) (key : Option String) : Prop :=
  ∀ text ∈ key, ∀ entry ∈ gl.entries, entry.idempotencyKey = some text → entry.condoId = condoId ∧ text ≠ ""

theorem postedUnder_some {key : Option String} {existing : GlJournalEntry} (posted : postedUnder key gl = some existing) :
    ∃ text ∈ key, existing ∈ gl.entries ∧ existing.idempotencyKey = some text := by
  unfold postedUnder at posted
  split at posted
  · cases posted
  · rename_i text
    split at posted
    · cases posted
    · have same := List.find?_some posted
      exact ⟨text, rfl, mem_of_find?_eq_some posted, of_decide_eq_true same⟩

theorem postedUnder_none {text : String} (named : text ≠ "") (posted : postedUnder (some text) gl = none) :
    ∀ entry ∈ gl.entries, entry.idempotencyKey ≠ some text := by
  rw [postedUnder, if_neg named, List.find?_eq_none] at posted
  intro entry found same
  exact posted entry found (decide_eq_true same)

section

variable {opts : PostEntryOpts} {lines : List JournalLineInput} {result : Except GlError GlJournalEntry} {after : GlDb}

theorem insertEntry_own (own : OwnKey gl opts.condoId opts.idempotencyKey)
    (unposted : postedUnder opts.idempotencyKey gl = none) (ran : insertEntry opts lines gl = (result, after)) :
    (∀ entry, result = .ok entry → entry.condoId = opts.condoId ∧ after.entries = gl.entries ++ [entry]) ∧
      result ≠ .error (.uniqueViolation .idempotencyKey) := by
  unfold insertEntry at ran
  split at ran
  · rename_i taken
    obtain ⟨keyed, other, found, same⟩ := taken
    obtain ⟨text, isKey⟩ := Option.isSome_iff_exists.mp keyed
    rw [isKey] at same unposted
    have named := (own text isKey other found same).2
    exact absurd same (postedUnder_none named unposted other found)
  · split at ran
    · cases ran
      exact ⟨nofun, nofun⟩
    · cases ran
      refine ⟨fun entry same => ?_, nofun⟩
      cases same
      exact ⟨rfl, rfl⟩

theorem postEntry_own (own : OwnKey gl opts.condoId opts.idempotencyKey) (ran : postEntry opts gl = (result, after)) :
    (∀ entry, result = .ok entry → OwnEntry gl opts.condoId opts.idempotencyKey entry after) ∧
      result ≠ .error (.uniqueViolation .idempotencyKey) := by
  unfold postEntry at ran
  rcases seeds : ensureSeeded opts.condoId gl with ⟨failure | ⟨⟩, middle⟩
  · rw [Call.bind_of_error seeds] at ran
    cases ran
    exact ⟨nofun, fun same => ensureSeeded_error seeds (Except.error.inj same)⟩
  · have entries : middle.entries = gl.entries := by
      have kept : (ensureSeeded opts.condoId gl).2.entries = gl.entries := keeps_entries_ensureSeeded gl rfl
      rwa [seeds] at kept
    have ownKey : OwnKey middle opts.condoId opts.idempotencyKey := by
      unfold OwnKey
      rwa [entries]
    rw [Call.bind_of_ok seeds, Call.read_bind] at ran
    rcases posted : postedUnder opts.idempotencyKey middle with _ | existing
    · rw [posted] at ran
      dsimp only at ran
      split at ran
      · cases ran
        exact ⟨nofun, nofun⟩
      · split at ran
        · cases ran
          exact ⟨nofun, nofun⟩
        · obtain ⟨new, unclashed⟩ := insertEntry_own ownKey posted ran
          refine ⟨fun entry same => ?_, unclashed⟩
          obtain ⟨owner, added⟩ := new entry same
          rw [entries] at added
          exact .new owner added
    · rw [posted] at ran
      cases ran
      refine ⟨fun entry same => ?_, nofun⟩
      cases same
      obtain ⟨text, isKey, found, same⟩ := postedUnder_some posted
      refine .existing (ownKey text isKey existing found same).1 (entries ▸ found) ?_ entries
      rw [same]
      exact isKey.symm

end

/-- From an empty ledger, when the operations keep to the ids of their condos and to keys that are neither automatic
nor another condo's, the ledger is tenanted, and what a manual journal returns is the condo's own. -/
theorem tenancy_kept {log : List LedgerOp}
    (run : Run (Guarded KeepsTenancy (LedgerOp.Performs env)) .empty log gl) :
    Tenanted env gl ∧ ∀ user condoId input result after,
      KeepsTenancy gl (.postManual user condoId input) → postManual user condoId input gl = (result, after) →
        (∀ entry, result = .ok entry → OwnEntry gl condoId input.idempotencyKey entry after) ∧
          result ≠ .error (.uniqueViolation .idempotencyKey) := by
  have state : TenancyState gl := by
    refine run.invariant (fun before op after state step => ?_) .empty
    rw [step.2]
    exact state.performs step.1
  refine ⟨state.tenanted, fun user condoId input result after keeps ran => ?_⟩
  have own : OwnKey gl condoId input.idempotencyKey := fun text isKey => (keeps.2 text isKey).2
  exact postEntry_own own (show postEntry (manualOpts user.id condoId input) gl = _ from ran)

namespace Sample

def manager (condoId : Id) : AuthenticatedUser := ⟨condoId, [⟨.managementAdmin, some condoId, none⟩]⟩

def sundry (parentId : Option Id) : CreateGlAccountDto := ⟨"5900", .expense, .general, parentId⟩

def transfer (debited credited : Id) (key : Option String) : PostManualJournalDto :=
  ⟨0, [⟨⟨debited, 100, 0, .general⟩, by norm_num, by norm_num⟩, ⟨⟨credited, 0, 100, .general⟩, by norm_num, by norm_num⟩], key⟩

def createsSundry (condoId : Id) (parentId : Option Id) : LedgerOp :=
  .createAccount (manager condoId) condoId (sundry parentId)

def posted (debited credited : Id) : GlDb :=
  afterOps Billing.Sample.env .empty [createsSundry 5 none, createsSundry 6 none,
    .postManual (manager 5) 5 (transfer debited credited none)]

theorem automatic_ne : ¬ IsAutomaticKey "JV-1" := by
  rintro ⟨text, _, same⟩
  have letters := congrArg String.toList same
  simp at letters

end Sample

theorem tenancy_broken : ¬ ∀ (env : Env) (log : List LedgerOp) (gl : GlDb),
    Run (LedgerOp.Performs env) .empty log gl → Tenanted env gl := by
  intro tenanted
  have lines := (tenanted _ _ _ (run_afterOps Billing.Sample.env .empty [Sample.createsSundry 5 none,
    Sample.createsSundry 6 none, .postManual (Sample.manager 5) 5 (Sample.transfer 27 28 none)])).lines
  have foreign : ¬ ∀ entry ∈ (Sample.posted 27 28).entries, ∀ line ∈ entry.lines,
      ∃ account ∈ (Sample.posted 27 28).accounts, account.id = line.accountId ∧ account.condoId = entry.condoId := by
    decide +kernel
  exact foreign lines

theorem tenancy_kept_posted : ∃ gl, Tenanted Billing.Sample.env gl ∧ gl.entries ≠ [] := by
  let creates : LedgerOp := Sample.createsSundry 5 none
  let created : GlDb := (creates.call Billing.Sample.env .empty).2
  let posts : LedgerOp := .postManual (Sample.manager 5) 5 (Sample.transfer 0 26 (some "JV-1"))
  have first : Guarded KeepsTenancy (LedgerOp.Performs Billing.Sample.env) .empty creates created := ⟨nofun, rfl⟩
  have second : Guarded KeepsTenancy (LedgerOp.Performs Billing.Sample.env) created posts
      (posts.call Billing.Sample.env created).2 := by
    refine ⟨⟨by decide +kernel, ?_⟩, rfl⟩
    rintro key ⟨⟩
    refine ⟨Sample.automatic_ne, ?_⟩
    decide +kernel
  refine ⟨_, (tenancy_kept ((Run.single first).snoc second)).1, ?_⟩
  decide +kernel

end SmartResidence.Accounting
