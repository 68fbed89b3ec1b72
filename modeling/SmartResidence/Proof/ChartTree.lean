import SmartResidence.Proof.LedgerTenancy
import SmartResidence.Proof.PostingAborts

/-!
# The tree of the chart of accounts
-/

namespace SmartResidence.Accounting

open Foundation Billing Relation List

variable {env : Env} {db : GlDb} {condoId : Id}

def ListsOnce (db : GlDb) (condoId : Id) : Prop :=
  ∃ tree after, listTree condoId db = (.ok tree, after) ∧ (rowsOf tree).Nodup ∧
    ∀ account, account ∈ rowsOf tree ↔ account ∈ after.accounts ∧ account.condoId = condoId

def Parented (db : GlDb) (childId parentId : Id) : Prop :=
  ∃ child ∈ db.accounts, ∃ parent ∈ db.accounts,
    child.id = childId ∧ parent.id = parentId ∧ child.parentId = some parentId ∧ child.condoId = parent.condoId

def KeepsTree (db : GlDb) : ChartOp → Prop
  | .accounting (.updateAccount user accountId input) => ∀ account ∈ db.accounts, account.id = accountId →
      assertCondoManagement user account.condoId = .ok () → ∀ parentId, input.parentId = some (some parentId) →
        ¬ ReflTransGen (Parented db) parentId accountId
  | _ => True

variable {rows : List GlAccount}

theorem forest_rows (distinct : (rows.map GlAccount.id).Nodup) :
    Forest (childrenOf rows) rows (rows.filter fun row => !hasParent rows row) where
  roots_sublist := filter_sublist
  distinct := distinct.of_map
  children_sublist _ := filter_sublist
  one_parent parent known other alsoKnown child below also := by
    have first := of_decide_eq_true (mem_filter.mp below).2
    have second := of_decide_eq_true (mem_filter.mp also).2
    exact eq_of_key_eq distinct known alsoKnown (Option.some.inj (first.symm.trans second))
  topmost root top parent known below := by
    have none := (mem_filter.mp top).2
    have has : hasParent rows root = true := any_eq_true.mpr ⟨parent, known, (mem_filter.mp below).2⟩
    rw [has] at none
    cases none

theorem buildTree_enough (nodup : (rows.map GlAccount.id).Nodup) {depth : ℕ} (enough : rows.length ≤ depth) :
    (rows.filter fun row => !hasParent rows row).map (grow (childrenOf rows) depth) = buildTree rows :=
  (forest_rows nodup).grow_enough enough

theorem buildTree_lists (nodup : (rows.map GlAccount.id).Nodup) (rank : Id → ℕ)
    (ranked : ∀ parent ∈ rows, ∀ child ∈ rows, child.parentId = some parent.id → rank parent.id < rank child.id) :
    (rowsOf (buildTree rows)).Nodup ∧ ∀ account, account ∈ rowsOf (buildTree rows) ↔ account ∈ rows := by
  refine (forest_rows nodup).lists_once (fun row => rank row.id) (fun parent known child below => ?_) fun row mem => ?_
  · obtain ⟨mem, same⟩ := mem_filter.mp below
    exact ranked parent known child mem (of_decide_eq_true same)
  · cases has : hasParent rows row with
    | false =>
      left
      exact mem_filter.mpr ⟨mem, by rw [has]; rfl⟩
    | true =>
      right
      obtain ⟨parent, known, same⟩ := any_eq_true.mp has
      exact ⟨parent, known, mem_filter.mpr ⟨mem, same⟩⟩

/-! ## Charts without cycles -/

structure ChartState (db : GlDb) : Prop where
  ids : AccountIds db
  parents : ∀ account ∈ db.accounts, ∀ parentId ∈ account.parentId, ∃ parent ∈ db.accounts, parent.id = parentId
  ranked : ∃ rank : Id → ℕ, ∀ childId parentId, Parented db childId parentId → rank parentId < rank childId

theorem ChartState.empty : ChartState .empty := by
  refine ⟨.nil, nofun, fun _ => 0, ?_⟩
  rintro _ _ ⟨_, mem, _⟩
  cases mem

variable {accountId : Id}

theorem known_account (known : ¬ db.hasAccount accountId = false) :
    ∃ account ∈ db.accounts, account.id = accountId := by
  have has := Bool.not_eq_false _ ▸ known
  rwa [GlDb.hasAccount, GlDb.account?, findBy_isSome] at has

theorem ChartState.insertAccount (state : ChartState db) {account : GlAccount} (isId : account.id = db.nextId)
    (parents : ∀ parentId ∈ account.parentId, ∃ parent ∈ db.accounts, parent.id = parentId) :
    ChartState { db with accounts := db.accounts ++ [account], nextId := db.nextId + 1 } where
  ids := Allocated.insert state.ids isId (Nat.lt_succ_self _)
  parents other mem parentId isParent := by
    rw [mem_append, mem_singleton] at mem
    have known : ∃ parent ∈ db.accounts, parent.id = parentId := by
      rcases mem with old | rfl
      · exact state.parents other old parentId isParent
      · exact parents parentId isParent
    obtain ⟨parent, found, same⟩ := known
    exact ⟨parent, mem_append_left _ found, same⟩
  ranked := by
    obtain ⟨rank, ranked⟩ := state.ranked
    -- Nothing is below the new account yet, so it can be ranked right above its parent.
    refine ⟨Function.update rank db.nextId (account.parentId.elim 0 fun parentId => rank parentId + 1), ?_⟩
    rintro childId parentId ⟨child, childIn, parent, parentIn, rfl, rfl, isParent, owner⟩
    have older : ∀ row ∈ db.accounts, row.id ≠ db.nextId := fun row mem =>
      (state.ids.below row.id (mem_map_of_mem mem)).ne
    rw [mem_append, mem_singleton] at childIn
    rcases childIn with old | rfl
    · obtain ⟨other, found, same⟩ := state.parents child old parent.id isParent
      have parentOld : parent.id ≠ db.nextId := same ▸ older other found
      rw [Function.update_of_ne parentOld, Function.update_of_ne (older child old)]
      rcases mem_append.mp parentIn with inside | new
      · exact ranked _ _ ⟨child, old, parent, inside, rfl, rfl, isParent, owner⟩
      · exact absurd (mem_singleton.mp new ▸ isId) parentOld
    · obtain ⟨other, found, same⟩ := parents parent.id isParent
      have parentOld : parent.id ≠ db.nextId := same ▸ older other found
      rw [Function.update_of_ne parentOld, isId, Function.update_self, isParent]
      exact Nat.lt_succ_self _

variable {input : UpdateGlAccountDto}

theorem parented_updated {childId parentId : Id}
    (parented : Parented { db with accounts := updateBy GlAccount.id accountId (updatedAccount input) db.accounts }
      childId parentId) :
    childId = accountId ∧ input.parentId = some (some parentId) ∨
      (childId = accountId → input.parentId = none) ∧ Parented db childId parentId := by
  obtain ⟨child, childIn, parent, parentIn, rfl, rfl, isParent, owner⟩ := parented
  obtain ⟨oldChild, childFound, rfl⟩ := mem_updateBy.mp childIn
  obtain ⟨oldParent, parentFound, rfl⟩ := mem_updateBy.mp parentIn
  have parentId : (if oldParent.id = accountId then updatedAccount input oldParent else oldParent).id = oldParent.id := by
    split <;> rfl
  have parentOwner : (if oldParent.id = accountId then updatedAccount input oldParent else oldParent).condoId =
      oldParent.condoId := by
    split <;> rfl
  rw [parentId] at isParent ⊢
  rw [parentOwner] at owner
  by_cases pick : oldChild.id = accountId
  · rw [if_pos pick] at isParent owner ⊢
    cases given : input.parentId with
    | none =>
      rw [updatedAccount, given] at isParent
      exact .inr ⟨fun _ => rfl, oldChild, childFound, oldParent, parentFound, rfl, rfl, isParent, owner⟩
    | some parent =>
      rw [updatedAccount, given] at isParent
      exact .inl ⟨pick, congrArg some isParent⟩
  · rw [if_neg pick] at isParent owner ⊢
    exact .inr ⟨fun same => absurd same pick, oldChild, childFound, oldParent, parentFound, rfl, rfl, isParent, owner⟩

theorem ChartState.updated (state : ChartState db)
    (parents : ∀ parentId, input.parentId = some (some parentId) → ∃ parent ∈ db.accounts, parent.id = parentId)
    (above : ∀ parentId, input.parentId = some (some parentId) → ¬ ReflTransGen (Parented db) parentId accountId) :
    ChartState { db with accounts := updateBy GlAccount.id accountId (updatedAccount input) db.accounts } where
  ids := Allocated.updateBy state.ids le_rfl fun _ => rfl
  parents account mem parentId isParent := by
    obtain ⟨old, found, rfl⟩ := mem_updateBy.mp mem
    have known : ∃ parent ∈ db.accounts, parent.id = parentId := by
      split at isParent
      · cases given : input.parentId with
        | none =>
          rw [updatedAccount, given] at isParent
          exact state.parents old found parentId isParent
        | some parent =>
          rw [updatedAccount, given] at isParent
          exact parents parentId (given.trans (congrArg some isParent))
      · exact state.parents old found parentId isParent
    obtain ⟨parent, parentFound, same⟩ := known
    refine ⟨_, mem_updateBy.mpr ⟨parent, parentFound, rfl⟩, ?_⟩
    split <;> exact same
  ranked := by
    classical
    obtain ⟨rank, ranked⟩ := state.ranked
    rcases given : input.parentId with _ | _ | newParent
    · refine ⟨rank, fun childId parentId parented => ?_⟩
      rcases parented_updated parented with ⟨_, new⟩ | ⟨_, old⟩
      · rw [given] at new
        cases new
      · exact ranked _ _ old
    · refine ⟨rank, fun childId parentId parented => ?_⟩
      rcases parented_updated parented with ⟨_, new⟩ | ⟨_, old⟩
      · rw [given] at new
        cases new
      · exact ranked _ _ old
    · -- The account and all that is below it go above the new parent, which is not below it.
      let Below (id : Id) : Prop := ReflTransGen (Parented db) id accountId
      refine ⟨fun id => if Below id then rank id + rank newParent + 1 else rank id, fun childId parentId parented => ?_⟩
      dsimp only
      rcases parented_updated parented with ⟨rfl, new⟩ | ⟨other, old⟩
      · cases given.symm.trans new
        have own : Below childId := .refl
        rw [if_pos own, if_neg (above _ given)]
        omega
      · have lower := ranked _ _ old
        by_cases below : Below parentId
        · have alsoBelow : Below childId := .head old below
          rw [if_pos below, if_pos alsoBelow]
          omega
        · rw [if_neg below]
          split <;> omega

theorem keeps_chart_insertAccount {row : Id → GlAccount} (ids : ∀ id, (row id).id = id) :
    Call.Keeps ChartState (insertAccount row) := by
  intro db state
  unfold insertAccount
  dsimp only
  split
  · exact state
  · split
    · exact state
    · rename_i known
      refine state.insertAccount (ids _) fun parentId isParent => known_account fun missing => ?_
      exact known ⟨parentId, isParent, missing⟩

theorem keeps_chart_postEntry (opts : PostEntryOpts) : Call.Keeps ChartState (postEntry opts) := by
  refine keeps_postEntry (fun row seeds => keeps_chart_insertAccount seeds.id) fun _ _ => keeps_insertEntry ?_
  intro db state _ _
  exact ⟨Allocated.mono state.ids ((Nat.le_succ _).trans (Nat.le_add_right _ _)), state.parents, state.ranked⟩

theorem ChartState.updateAccount (state : ChartState db) {user : AuthenticatedUser}
    (keeps : KeepsTree db (.accounting (.updateAccount user accountId input))) :
    ChartState (Accounting.updateAccount user accountId input db).2 := by
  unfold Accounting.updateAccount
  rw [Call.read_bind]
  cases found : db.account? accountId with
  | none => exact state
  | some existing =>
    obtain ⟨mem, same⟩ := mem_of_findBy found
    dsimp only
    rw [Call.ofResult_bind]
    cases allowed : assertCondoManagement user existing.condoId with
    | error failure => exact state
    | ok _ =>
      dsimp only
      unfold writeAccount
      split
      · exact state
      · rename_i known
        refine state.updated (fun parentId given => known_account fun missing => ?_) fun parentId given => ?_
        · exact known ⟨some parentId, given, parentId, rfl, missing⟩
        · exact keeps existing mem same allowed parentId given

theorem keeps_chart_listTree : Call.Keeps ChartState (listTree condoId) := by
  refine Call.keeps_bind (keeps_ensureSeeded fun row seeds => keeps_chart_insertAccount seeds.id) fun _ => ?_
  exact Call.keeps_bind (Call.keeps_read _) fun _ => Call.keeps_pure _

theorem ChartState.after (state : ChartState db) {op : ChartOp} (keeps : KeepsTree db op) :
    ChartState (op.after env db) := by
  cases op with
  | listTree user condoId =>
    exact Call.keeps_bind (Call.keeps_ofResult _) (fun _ => keeps_chart_listTree) db state
  | accounting op =>
    by_cases update : ∃ user accountId input, op = .updateAccount user accountId input
    · obtain ⟨user, accountId, input, rfl⟩ := update
      show ChartState ((Accounting.updateAccount user accountId input >>= fun _ => _) db).2
      rw [Call.bind_pure_state]
      exact state.updateAccount keeps
    · refine op.keeps (fun row ids => keeps_chart_insertAccount ids) (fun user accountId input same => ?_)
        keeps_chart_postEntry db state
      exact absurd ⟨user, accountId, input, same⟩ update

/-! ## What is listed -/

theorem seedRows_ok {rows : List CoaTemplateRow} (top : ∀ row ∈ rows, row.parentCode = none)
    (nodup : (rows.map CoaTemplateRow.code).Nodup) (free : ∀ row ∈ rows, Free condoId row.code db.accounts)
    (idByCode : List (String × Id)) : ∃ after, seedRows condoId rows idByCode db = (.ok (), after) := by
  induction rows generalizing idByCode db with
  | nil => exact ⟨db, rfl⟩
  | cons row rest ih =>
    rw [map_cons, nodup_cons] at nodup
    have inserted := insertAccount_seedRow (free row mem_cons_self)
    let middle : GlDb :=
      { db with accounts := db.accounts ++ [seedRow condoId row db.nextId], nextId := db.nextId + 1 }
    have later : ∀ other ∈ rest, Free condoId other.code middle.accounts := fun other mem =>
      (free_after_row nodup.1 mem).mpr (free other (mem_cons_of_mem row mem))
    obtain ⟨after, rest⟩ := ih (fun other mem => top other (mem_cons_of_mem row mem)) nodup.2 later
      (idByCode ++ [(row.code, db.nextId)])
    refine ⟨after, ?_⟩
    have none := top row mem_cons_self
    rw [seedRows, none]
    exact (Call.bind_of_ok inserted).trans rest

theorem ensureSeeded_ok (condoId : Id) (db : GlDb) : ∃ after, ensureSeeded condoId db = (.ok (), after) := by
  by_cases seeded : ∃ account ∈ db.accounts, account.condoId = condoId
  · exact ⟨db, ensureSeeded_seeded seeded⟩
  · have fresh : ¬ db.accounts.countP (fun account => decide (account.condoId = condoId)) > 0 := by
      rw [gt_iff_lt, countP_pos_iff]
      rintro ⟨account, found, own⟩
      exact seeded ⟨account, found, of_decide_eq_true own⟩
    obtain ⟨after, seeds⟩ : ∃ after, seedRows condoId malaysianJmbCoa [] db = (.ok (), after) :=
      seedRows_ok malaysianJmbCoa_top malaysianJmbCoa_distinct
        (fun row _ account found own => absurd ⟨account, found, own⟩ seeded) []
    refine ⟨after, ?_⟩
    unfold ensureSeeded
    rw [Call.read_bind, if_neg fresh]
    exact seeds

theorem ChartState.lists_once (state : ChartState db) (condoId : Id) : ListsOnce db condoId := by
  obtain ⟨after, seeded⟩ := ensureSeeded_ok condoId db
  have seededState : ChartState after := by
    have keeps : Call.Keeps ChartState (ensureSeeded condoId) :=
      keeps_ensureSeeded fun row seeds => keeps_chart_insertAccount seeds.id
    have kept := keeps db state
    rwa [seeded] at kept
  have mem : ∀ account, account ∈ accountRows condoId after ↔ account ∈ after.accounts ∧ account.condoId = condoId := by
    intro account
    rw [accountRows, mem_insertionSort, mem_filter, decide_eq_true_iff]
  have nodup : ((accountRows condoId after).map GlAccount.id).Nodup := by
    rw [accountRows, ((perm_insertionSort _ _).map _).nodup_iff]
    exact seededState.ids.distinct.sublist (filter_sublist.map _)
  obtain ⟨rank, ranked⟩ := seededState.ranked
  have once := buildTree_lists nodup rank fun parent known child below isParent => by
    obtain ⟨parentIn, parentOwner⟩ := (mem parent).mp known
    obtain ⟨childIn, childOwner⟩ := (mem child).mp below
    exact ranked _ _ ⟨child, childIn, parent, parentIn, rfl, rfl, isParent, childOwner.trans parentOwner.symm⟩
  refine ⟨buildTree (accountRows condoId after), after, ?_, once.1, fun account => (once.2 account).trans (mem account)⟩
  exact (Call.bind_of_ok seeded).trans rfl

/-- After calls that put no account below itself or its descendants, the tree of each condo has each of its accounts
exactly once. -/
theorem tree_lists_once {log : List ChartOp}
    (run : Run (Guarded KeepsTree fun before op after => op.after env before = after) .empty log db) (condoId : Id) :
    ListsOnce db condoId := by
  have state : ChartState db := by
    refine run.invariant (fun before op after state step => ?_) .empty
    rw [← step.2]
    exact state.after step.1
  exact state.lists_once condoId

namespace Sample

def createsBelow (parentId : Option Id) : ChartOp :=
  .accounting (.createAccount (manager 5) 5 ⟨"5900", .expense, .general, parentId⟩)

def moves (accountId parentId : Id) : ChartOp :=
  .accounting (.updateAccount (manager 5) accountId ⟨none, some (some parentId)⟩)

def chart (log : List ChartOp) : GlDb := log.foldl (ChartOp.after Billing.Sample.env) .empty

end Sample

theorem tree_lists_once_moved : ListsOnce (Sample.chart [Sample.createsBelow (some 0), Sample.moves 26 1]) 5 := by
  have top : ∀ account ∈ (Sample.chart [Sample.createsBelow (some 0)]).accounts,
      account.id = 1 → account.parentId = none := by
    decide +kernel
  have apart : ¬ ReflTransGen (Parented (Sample.chart [Sample.createsBelow (some 0)])) 1 26 := by
    intro below
    rcases below.cases_head with same | ⟨next, ⟨child, found, _, _, named, _, isParent, _⟩, _⟩
    · cases same
    · rw [top child found named] at isParent
      cases isParent
  have meets : Run.Meets KeepsTree (ChartOp.after Billing.Sample.env) .empty
      [Sample.createsBelow (some 0), Sample.moves 26 1] := by
    refine ⟨trivial, fun _ _ _ _ parentId given => ?_, trivial⟩
    cases given
    exact apart
  exact tree_lists_once (Run.guarded_of_foldl meets) 5

theorem account_unlisted : ¬ ∀ (env : Env) (log : List ChartOp) (db : GlDb),
    Run (fun before op after => ChartOp.after env before op = after) .empty log db → ∀ condoId, ListsOnce db condoId := by
  intro lists
  let log : List ChartOp := [Sample.createsBelow none, Sample.moves 26 26]
  obtain ⟨tree, after, ran, _, listed⟩ := lists Billing.Sample.env log (Sample.chart log) (Run.of_foldl _ _) 5
  have hidden : (match listTree 5 (Sample.chart log) with
      | (.ok tree, after) => after.accounts.any fun account => account.condoId = 5 && !(rowsOf tree).contains account
      | (.error _, _) => false) = true := by
    decide +kernel
  rw [ran] at hidden
  obtain ⟨account, found, unlisted⟩ := List.any_eq_true.mp hidden
  rw [Bool.and_eq_true, Bool.not_eq_true', List.contains_eq_mem, decide_eq_false_iff_not] at unlisted
  exact unlisted.2 ((listed account).mpr ⟨found, of_decide_eq_true unlisted.1⟩)

end SmartResidence.Accounting
