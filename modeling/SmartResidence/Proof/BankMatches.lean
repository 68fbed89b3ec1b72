import SmartResidence.Proof.LedgerTenancy

/-!
# One-to-one bank reconciliation
-/

namespace SmartResidence.Accounting

open Foundation Billing List

variable {env : Env} {gl : GlDb} {condoId : Id} {imp : BankStatementImport}

def inPeriod (imp : BankStatementImport) (entry : GlJournalEntry) : Bool :=
  decide (imp.periodStart ≤ asDate entry.entryDate ∧ asDate entry.entryDate ≤ imp.periodEnd)

def datedOutside (gl : GlDb) (imp : BankStatementImport) (row : BankStatementLine) : Bool :=
  gl.entries.any fun entry =>
    !inPeriod imp entry && entry.lines.any fun line => decide (row.matchedJournalLineId = some line.id)

structure Reconciled (gl : GlDb) : Prop where
  single : ∀ first ∈ gl.statementLines, ∀ second ∈ gl.statementLines, ∀ id, first.matchedJournalLineId = some id →
    second.matchedJournalLineId = some id → first = second
  account : ∀ row ∈ gl.statementLines, ∀ imp ∈ gl.imports, imp.id = row.importId → ∀ id ∈ row.matchedJournalLineId,
    ∃ entry ∈ gl.entries, entry.condoId = imp.condoId ∧ ∃ line ∈ entry.lines, line.id = id ∧ line.accountId = imp.accountId
  matchedCount : ∀ condoId importId sheet after, worksheet condoId importId gl = (.ok sheet, after) →
    sheet.summary.matchedCount = (sheet.statementLines.filterMap BankStatementLine.matchedJournalLineId).dedup.length
  cashCount : ∀ condoId importId sheet after, worksheet condoId importId gl = (.ok sheet, after) →
    sheet.summary.matchedCount + sheet.summary.unmatchedGlCount =
      sheet.glLines.length + sheet.statementLines.countP (datedOutside gl sheet.imp)

def MatchesApart (gl : GlDb) : LedgerOp → Prop
  | .matchLine user condoId lineId (some id) => assertCondoManagement user condoId = .ok () →
      ∀ row ∈ gl.statementLineIn condoId lineId, ∀ line ∈ gl.journalLineIn condoId id,
        (∀ other ∈ gl.statementLines, other.matchedJournalLineId = some id → other.id = lineId) ∧
        ∀ imp ∈ gl.imports, imp.id = row.importId → line.accountId = imp.accountId
  | _ => True

/-! ## The invariant -/

structure MatchBooks (gl : GlDb) : Prop where
  journalIds : Allocated (gl.journalLines.map GlJournalLine.id) gl.nextId
  statementIds : Allocated (gl.statementLines.map BankStatementLine.id) gl.nextId
  importIds : Allocated (gl.imports.map BankStatementImport.id) gl.nextId
  owned : ∀ row ∈ gl.statementLines, ∃ imp ∈ gl.imports, imp.id = row.importId
  single : ∀ first ∈ gl.statementLines, ∀ second ∈ gl.statementLines, ∀ id, first.matchedJournalLineId = some id →
    second.matchedJournalLineId = some id → first = second
  account : ∀ row ∈ gl.statementLines, ∀ imp ∈ gl.imports, imp.id = row.importId → ∀ id ∈ row.matchedJournalLineId,
    ∃ entry ∈ gl.entries, entry.condoId = imp.condoId ∧ ∃ line ∈ entry.lines, line.id = id ∧ line.accountId = imp.accountId

namespace MatchBooks

theorem empty : MatchBooks .empty := ⟨.nil, .nil, .nil, nofun, nofun, nofun⟩

theorem mono (books : MatchBooks gl) {later : Id} (grows : gl.nextId ≤ later) (accounts : List GlAccount) :
    MatchBooks { gl with accounts := accounts, nextId := later } where
  journalIds := books.journalIds.mono grows
  statementIds := books.statementIds.mono grows
  importIds := books.importIds.mono grows
  owned := books.owned
  single := books.single
  account := books.account

theorem insertEntry (books : MatchBooks gl) (opts : PostEntryOpts) (lines : List JournalLineInput) :
    MatchBooks { gl with
      entries := gl.entries ++ [opts.row lines gl.nextId]
      nextId := gl.nextId + 1 + lines.length } where
  journalIds := by
    have ids : (opts.row lines gl.nextId).lines.map GlJournalLine.id = List.range' (gl.nextId + 1) lines.length :=
      map_mapIdx_range GlJournalLine.id (fun index line => storedLine (gl.nextId + 1 + index) line) (fun _ _ => rfl) lines
    unfold GlDb.journalLines
    rw [flatMap_append, flatMap_singleton, map_append, ids]
    exact books.journalIds.extend lines.length
  statementIds := books.statementIds.mono ((Nat.le_succ _).trans (Nat.le_add_right _ _))
  importIds := books.importIds.mono ((Nat.le_succ _).trans (Nat.le_add_right _ _))
  owned := books.owned
  single := books.single
  account row found imp isImport same id isMatch := by
    obtain ⟨entry, mem, rest⟩ := books.account row found imp isImport same id isMatch
    exact ⟨entry, mem_append_left _ mem, rest⟩

theorem insertImport (books : MatchBooks gl) (input : ImportBankStatementDto) : MatchBooks { gl with
      imports := gl.imports ++ [input.row condoId gl.nextId]
      statementLines := gl.statementLines ++
        input.rows.mapIdx fun index row => row.line gl.nextId (gl.nextId + 1 + index)
      nextId := gl.nextId + 1 + input.rows.length } := by
  have new : ∀ row ∈ input.rows.mapIdx (fun index row => row.line gl.nextId (gl.nextId + 1 + index)),
      row.importId = gl.nextId ∧ row.matchedJournalLineId = none := by
    intro row mem
    obtain ⟨index, _, rfl⟩ := mem_mapIdx.mp mem
    exact ⟨rfl, rfl⟩
  have unmatched : ∀ row ∈ gl.statementLines ++
      input.rows.mapIdx (fun index row => row.line gl.nextId (gl.nextId + 1 + index)),
      ∀ id, row.matchedJournalLineId = some id → row ∈ gl.statementLines := by
    intro row mem id isMatch
    refine (mem_append.mp mem).resolve_right fun added => ?_
    rw [(new row added).2] at isMatch
    cases isMatch
  exact {
    journalIds := books.journalIds.mono ((Nat.le_succ _).trans (Nat.le_add_right _ _))
    statementIds := by
      rw [map_append, map_mapIdx_range BankStatementLine.id
        (fun index row => BankCsvRow.line row gl.nextId (gl.nextId + 1 + index)) fun _ _ => rfl]
      exact books.statementIds.extend _
    importIds := books.importIds.insert rfl (Nat.lt_of_lt_of_le (Nat.lt_succ_self _) (Nat.le_add_right _ _))
    owned := by
      intro row mem
      rcases mem_append.mp mem with old | added
      · obtain ⟨imp, found, same⟩ := books.owned row old
        exact ⟨imp, mem_append_left _ found, same⟩
      · exact ⟨_, mem_append_right _ (mem_singleton.mpr rfl), (new row added).1.symm⟩
    single := by
      intro first isFirst second isSecond id matched also
      exact books.single first (unmatched first isFirst id matched) second (unmatched second isSecond id also) id
        matched also
    account := by
      intro row mem imp isImport same id isMatch
      have old := unmatched row mem id isMatch
      rcases mem_append.mp isImport with found | added
      · exact books.account row old imp found same id isMatch
      · rw [mem_singleton] at added
        subst added
        obtain ⟨own, found, isOwn⟩ := books.owned row old
        have below := books.importIds.below _ (mem_map_of_mem found)
        rw [isOwn, ← same] at below
        exact absurd below (lt_irrefl _) }

variable {lineId : Id} {journalLineId : Option Id}

theorem writeMatch (books : MatchBooks gl)
    (alone : ∀ id ∈ journalLineId, ∀ other ∈ gl.statementLines, other.matchedJournalLineId = some id → other.id = lineId)
    (account : ∀ id ∈ journalLineId, ∀ row ∈ gl.statementLines, row.id = lineId → ∀ imp ∈ gl.imports,
      imp.id = row.importId → ∃ entry ∈ gl.entries, entry.condoId = imp.condoId ∧
        ∃ line ∈ entry.lines, line.id = id ∧ line.accountId = imp.accountId) : MatchBooks { gl with
      statementLines := updateBy BankStatementLine.id lineId
        (fun line => { line with matchedJournalLineId := journalLineId }) gl.statementLines } where
  journalIds := books.journalIds
  statementIds := books.statementIds.updateBy le_rfl fun _ => rfl
  importIds := books.importIds
  owned row mem := by
    obtain ⟨old, found, rfl⟩ := mem_updateBy.mp mem
    obtain ⟨imp, isImport, same⟩ := books.owned old found
    refine ⟨imp, isImport, ?_⟩
    split <;> exact same
  single := by
    intro first isFirst second isSecond id matched also
    obtain ⟨old, found, rfl⟩ := mem_updateBy.mp isFirst
    obtain ⟨other, listed, rfl⟩ := mem_updateBy.mp isSecond
    have same : old = other := by
      by_cases changed : old.id = lineId <;> by_cases alsoChanged : other.id = lineId
      · exact eq_of_key_eq books.statementIds.distinct found listed (changed.trans alsoChanged.symm)
      · rw [if_pos changed] at matched
        rw [if_neg alsoChanged] at also
        exact absurd (alone id matched other listed also) alsoChanged
      · rw [if_neg changed] at matched
        rw [if_pos alsoChanged] at also
        exact absurd (alone id also old found matched) changed
      · rw [if_neg changed] at matched
        rw [if_neg alsoChanged] at also
        exact books.single old found other listed id matched also
    rw [same]
  account := by
    intro row mem imp isImport same id isMatch
    obtain ⟨old, found, rfl⟩ := mem_updateBy.mp mem
    by_cases changed : old.id = lineId
    · rw [if_pos changed] at same isMatch
      exact account id isMatch old found changed imp isImport same
    · rw [if_neg changed] at same isMatch
      exact books.account old found imp isImport same id isMatch

/-! ### Operations -/

theorem keeps_insertAccount {row : Id → GlAccount} : Call.Keeps MatchBooks (Accounting.insertAccount row) :=
  keeps_accounts_insertAccount fun _ books => books.mono (Nat.le_succ _) _

theorem keeps_postEntry {opts : PostEntryOpts} : Call.Keeps MatchBooks (postEntry opts) :=
  Accounting.keeps_postEntry (fun _ _ => keeps_insertAccount) fun _ _ =>
    keeps_insertEntry fun _ books _ _ => books.insertEntry opts _

theorem keeps_posted {pairs : List GlAccount → List JournalLineInput} {make : List JournalLineInput → PostEntryOpts} :
    Call.Keeps MatchBooks (logged (post condoId pairs make)) :=
  keeps_logged (keeps_post (fun _ _ => keeps_insertAccount) fun _ books => keeps_postEntry _ books)

theorem keeps_automatic (posting : AutomaticPosting) : Call.Keeps MatchBooks (posting.call env) := by
  cases posting with
  | invoiceCharges opts => exact keeps_posted
  | payment opts => exact keeps_posted
  | ledgerEntry entry =>
    show Call.Keeps MatchBooks (postLedgerEntry entry)
    unfold postLedgerEntry
    split
    · exact Call.keeps_pure _
    · split
      · exact Call.keeps_pure _
      · split
        · exact keeps_posted
        · exact Call.keeps_pure _
  | vendorBillApproved opts => exact keeps_posted
  | vendorBillPaid opts => exact keeps_posted

variable {accountId : Id}

theorem keeps_updateAccount {user : AuthenticatedUser} {input : UpdateGlAccountDto} :
    Call.Keeps MatchBooks (updateAccount user accountId input) := by
  refine Call.keeps_bind (Call.keeps_read _) fun existing => ?_
  cases existing with
  | none => exact Call.keeps_throw _
  | some account =>
    refine Call.keeps_bind (Call.keeps_ofResult _) fun _ db books => ?_
    unfold writeAccount
    split
    · exact books
    · exact books.mono le_rfl _

theorem keeps_importCsv {input : ImportBankStatementDto} : Call.Keeps MatchBooks (importCsv condoId input) := by
  refine Call.keeps_bind (keeps_ensureSeeded fun _ _ => keeps_insertAccount) fun _ => ?_
  refine Call.keeps_bind (Call.keeps_read _) fun account => ?_
  cases account with
  | none => exact Call.keeps_throw _
  | some account =>
    dsimp only
    split
    · exact Call.keeps_throw _
    · intro db books
      unfold Accounting.insertImport
      split
      · exact books
      · exact books.insertImport input

variable {row : BankStatementLine}

theorem statementLineIn_some (found : gl.statementLineIn condoId lineId = some row) :
    row ∈ gl.statementLines ∧ row.id = lineId ∧ ∃ imp ∈ gl.imports, imp.id = row.importId ∧ imp.condoId = condoId := by
  have named := List.find?_some found
  simp only [Bool.and_eq_true, decide_eq_true_eq, any_eq_true] at named
  exact ⟨mem_of_find?_eq_some found, named⟩

variable {line : GlJournalLine}

theorem journalLineIn_some {id : Id} (found : gl.journalLineIn condoId id = some line) :
    ∃ entry ∈ gl.entries, entry.condoId = condoId ∧ line ∈ entry.lines ∧ line.id = id := by
  obtain ⟨entry, mem, inside⟩ := mem_flatMap.mp (mem_of_find?_eq_some found)
  have isId := List.find?_some found
  rw [mem_filter, decide_eq_true_eq] at mem
  exact ⟨entry, mem.1, mem.2, inside, of_decide_eq_true isId⟩

theorem matchLine (books : MatchBooks gl)
    (apart : ∀ id ∈ journalLineId, ∀ row ∈ gl.statementLineIn condoId lineId, ∀ line ∈ gl.journalLineIn condoId id,
      (∀ other ∈ gl.statementLines, other.matchedJournalLineId = some id → other.id = lineId) ∧
      ∀ imp ∈ gl.imports, imp.id = row.importId → line.accountId = imp.accountId) :
    MatchBooks (Accounting.matchLine condoId lineId journalLineId gl).2 := by
  unfold Accounting.matchLine
  rw [Call.read_bind]
  cases found : gl.statementLineIn condoId lineId with
  | none => exact books
  | some row =>
    cases journalLineId with
    | none => exact books.writeMatch nofun nofun
    | some id =>
      dsimp only
      rw [Call.read_bind]
      cases mem : gl.journalLineIn condoId id with
      | none => exact books
      | some line =>
        obtain ⟨alone, onAccount⟩ := apart id rfl row found line mem
        obtain ⟨isRow, isId, own, isOwn, ownCondo, ownId⟩ := statementLineIn_some found
        obtain ⟨entry, isEntry, entryCondo, inside, lineIs⟩ := journalLineIn_some mem
        refine books.writeMatch (fun _ same => ?_) fun _ same => ?_
        · cases same
          exact alone
        · cases same
          intro other isOther otherId imp isImport importId
          obtain rfl := eq_of_key_eq books.statementIds.distinct isOther isRow (otherId.trans isId.symm)
          have sameImport := eq_of_key_eq books.importIds.distinct isImport isOwn (importId.trans ownCondo.symm)
          refine ⟨entry, isEntry, ?_, line, inside, lineIs, onAccount imp isImport importId⟩
          rw [sameImport, ownId, entryCondo]

theorem performs (books : MatchBooks gl) {op : LedgerOp} (apart : MatchesApart gl op) :
    MatchBooks (op.call env gl).2 := by
  cases op with
  | postManual user condoId input =>
    refine Call.keeps_bind (Call.keeps_ofResult _) (fun _ => ?_) gl books
    exact Call.keeps_bind keeps_postEntry fun _ => Call.keeps_pure _
  | createAccount user condoId input =>
    refine Call.keeps_bind (Call.keeps_ofResult _) (fun _ => ?_) gl books
    refine Call.keeps_bind ?_ fun _ => Call.keeps_pure _
    exact Call.keeps_bind (keeps_ensureSeeded fun _ _ => keeps_insertAccount) fun _ => keeps_insertAccount
  | updateAccount user accountId input =>
    exact Call.keeps_bind keeps_updateAccount (fun _ => Call.keeps_pure _) gl books
  | importCsv user condoId input =>
    refine Call.keeps_bind (Call.keeps_ofResult _) (fun _ => ?_) gl books
    exact Call.keeps_bind keeps_importCsv fun _ => Call.keeps_pure _
  | matchLine user condoId lineId journalLineId =>
    show MatchBooks ((Call.ofResult (assertCondoManagement user condoId) >>= fun _ => _) gl).2
    rw [Call.ofResult_bind]
    split
    · rename_i allowed
      rw [Call.bind_pure_state]
      refine books.matchLine fun id same => ?_
      cases same
      exact apart allowed
    · exact books
  | automatic posting => exact keeps_automatic posting gl books

/-! ### Worksheets -/

theorem entry_unique (books : MatchBooks gl) {first second : GlJournalEntry} {other : GlJournalLine}
    (isFirst : first ∈ gl.entries) (isSecond : second ∈ gl.entries) (inFirst : line ∈ first.lines)
    (inSecond : other ∈ second.lines) (same : line.id = other.id) : first = second := by
  have nodup := books.journalIds.distinct
  rw [GlDb.journalLines, map_flatMap, nodup_flatMap] at nodup
  by_contra ne
  have symmetric : Std.Symm (Function.onFun List.Disjoint fun entry : GlJournalEntry =>
      entry.lines.map GlJournalLine.id) := ⟨fun _ _ apart => apart.symm⟩
  have apart := nodup.2.forall isFirst isSecond ne
  exact apart (mem_map_of_mem inFirst) (by rw [same]; exact mem_map_of_mem inSecond)

theorem mem_cashLines {condoId : Id} {periodStart periodEnd : Instant} {dated : Instant × GlJournalLine} :
    dated ∈ cashLinesForAccount gl condoId accountId periodStart periodEnd ↔
      ∃ entry ∈ gl.entries, entry.condoId = condoId ∧
        (periodStart ≤ asDate entry.entryDate ∧ asDate entry.entryDate ≤ periodEnd) ∧
        dated.1 = asDate entry.entryDate ∧ dated.2 ∈ entry.lines ∧ dated.2.accountId = accountId := by
  obtain ⟨date, line⟩ := dated
  unfold cashLinesForAccount
  rw [mem_insertionSort, mem_flatMap]
  constructor
  · rintro ⟨entry, listed, inside⟩
    split at inside
    · rename_i pick
      obtain ⟨own, mem, same⟩ := mem_map.mp inside
      cases same
      obtain ⟨isLine, account⟩ := mem_filter.mp mem
      exact ⟨entry, listed, pick.1, pick.2, rfl, isLine, of_decide_eq_true account⟩
    · cases inside
  · rintro ⟨entry, listed, condo, period, rfl, inside, account⟩
    refine ⟨entry, listed, ?_⟩
    rw [if_pos ⟨condo, period⟩]
    exact mem_map.mpr ⟨line, mem_filter.mpr ⟨inside, decide_eq_true account⟩, rfl⟩

theorem nodup_cashLines (books : MatchBooks gl) (condoId accountId : Id) (periodStart periodEnd : Instant) :
    ((cashLinesForAccount gl condoId accountId periodStart periodEnd).map fun dated => dated.2.id).Nodup := by
  refine ((perm_insertionSort _ _).map _).nodup_iff.mpr (books.journalIds.distinct.sublist ?_)
  rw [GlDb.journalLines, map_flatMap, map_flatMap]
  induction gl.entries with
  | nil => exact .slnil
  | cons entry rest ih =>
    rw [flatMap_cons]
    refine List.Sublist.append ?_ ih
    split
    · rw [map_map]
      exact filter_sublist.map GlJournalLine.id
    · exact nil_sublist _

theorem worksheet_ok {condoId importId : Id} {sheet : BankReconciliationWorksheet} {after : GlDb}
    (read : worksheet condoId importId gl = (.ok sheet, after)) : ∃ imp ∈ gl.imports, sheet = worksheetOf gl imp := by
  unfold worksheet at read
  rw [Call.read_bind] at read
  cases found : gl.imports.find? fun imp => decide (imp.id = importId ∧ imp.condoId = condoId) with
  | none =>
    rw [found] at read
    cases read
  | some imp =>
    rw [found] at read
    cases read
    exact ⟨imp, mem_of_find?_eq_some found, rfl⟩

theorem mem_sheet : row ∈ (worksheetOf gl imp).statementLines ↔ row ∈ gl.statementLines ∧ row.importId = imp.id := by
  unfold worksheetOf
  rw [mem_insertionSort, mem_filter, decide_eq_true_eq]

def matchedGlIds (gl : GlDb) (imp : BankStatementImport) : List Id :=
  (worksheetOf gl imp).statementLines.filterMap BankStatementLine.matchedJournalLineId

def cashLines (gl : GlDb) (imp : BankStatementImport) : List (Instant × GlJournalLine) :=
  cashLinesForAccount gl imp.condoId imp.accountId imp.periodStart imp.periodEnd

section

variable (books : MatchBooks gl)
include books

theorem nodup_matchedGlIds : (matchedGlIds gl imp).Nodup := by
  have rows : (worksheetOf gl imp).statementLines.Nodup := by
    refine (perm_insertionSort _ _).nodup_iff.mpr (List.Nodup.filter _ ?_)
    exact books.statementIds.distinct.of_map
  unfold matchedGlIds List.Nodup
  rw [pairwise_filterMap]
  refine rows.imp_of_mem fun {first second} isFirst isSecond ne id matched other also same => ne ?_
  subst same
  exact books.single first (mem_sheet.mp isFirst).1 second (mem_sheet.mp isSecond).1 id matched also

theorem matched_perm (isImport : imp ∈ gl.imports) :
    (((worksheetOf gl imp).statementLines.filter fun row => !datedOutside gl imp row).filterMap
      BankStatementLine.matchedJournalLineId).Perm
    (((cashLines gl imp).filter fun dated => (matchedGlIds gl imp).contains dated.2.id).map
      fun dated => dated.2.id) := by
  have nodup := books.nodup_cashLines imp.condoId imp.accountId imp.periodStart imp.periodEnd
  refine (perm_ext_iff_of_nodup (books.nodup_matchedGlIds.sublist (filter_sublist.filterMap _))
    (nodup.sublist (filter_sublist.map _))).mpr fun id => ?_
  constructor
  · intro mem
    obtain ⟨row, inside, isMatch⟩ := mem_filterMap.mp mem
    obtain ⟨isRow, within⟩ := mem_filter.mp inside
    obtain ⟨isStatement, ofImport⟩ := mem_sheet.mp isRow
    obtain ⟨entry, listed, condo, line, inLine, isId, account⟩ :=
      books.account row isStatement imp isImport ofImport.symm id isMatch
    have period : inPeriod imp entry = true := by
      by_contra outside
      have dated : datedOutside gl imp row = true := any_eq_true.mpr ⟨entry, listed, by
        rw [Bool.and_eq_true, Bool.not_eq_true', any_eq_true]
        exact ⟨Bool.eq_false_iff.mpr outside, line, inLine, decide_eq_true (by rw [isId, isMatch])⟩⟩
      rw [dated] at within
      cases within
    refine mem_map.mpr ⟨(asDate entry.entryDate, line), mem_filter.mpr ⟨?_, ?_⟩, isId⟩
    · exact mem_cashLines.mpr ⟨entry, listed, condo, of_decide_eq_true period, rfl, inLine, account⟩
    · rw [contains_iff_mem, isId]
      exact mem_filterMap.mpr ⟨row, isRow, isMatch⟩
  · intro mem
    obtain ⟨⟨date, line⟩, inside, rfl⟩ := mem_map.mp mem
    obtain ⟨isCash, counted⟩ := mem_filter.mp inside
    obtain ⟨entry, listed, _, period, _, inLine, _⟩ := mem_cashLines.mp isCash
    rw [contains_iff_mem] at counted
    obtain ⟨row, isRow, isMatch⟩ := mem_filterMap.mp counted
    refine mem_filterMap.mpr ⟨row, mem_filter.mpr ⟨isRow, ?_⟩, isMatch⟩
    rw [Bool.not_eq_true', datedOutside, any_eq_false]
    intro other also dated
    rw [Bool.and_eq_true, any_eq_true] at dated
    obtain ⟨outside, found, inFound, same⟩ := dated
    have sameId : line.id = found.id := Option.some.inj (isMatch.symm.trans (of_decide_eq_true same))
    obtain rfl := books.entry_unique listed also inLine inFound sameId
    rw [inPeriod, decide_eq_true period] at outside
    cases outside

theorem cash_counted (isImport : imp ∈ gl.imports) :
    (worksheetOf gl imp).summary.matchedCount + (worksheetOf gl imp).summary.unmatchedGlCount =
      (worksheetOf gl imp).glLines.length + (worksheetOf gl imp).statementLines.countP (datedOutside gl imp) := by
  have matched := (books.matched_perm isImport).length_eq
  rw [length_filterMap_eq_countP, length_map, ← countP_eq_length_filter] at matched
  have outside : ((worksheetOf gl imp).statementLines.filter (datedOutside gl imp)).countP
      (fun row => row.matchedJournalLineId.isSome) = (worksheetOf gl imp).statementLines.countP (datedOutside gl imp) := by
    rw [countP_eq_length.mpr, countP_eq_length_filter]
    intro row mem
    obtain ⟨entry, _, dated⟩ := any_eq_true.mp (mem_filter.mp mem).2
    rw [Bool.and_eq_true, any_eq_true] at dated
    obtain ⟨_, line, _, same⟩ := dated
    rw [of_decide_eq_true same]
    rfl
  have rows := (filter_append_perm (datedOutside gl imp) (worksheetOf gl imp).statementLines).countP_eq
    fun row => row.matchedJournalLineId.isSome
  rw [countP_append] at rows
  have cash := length_eq_countP_add_countP (l := cashLines gl imp)
    fun dated => (matchedGlIds gl imp).contains dated.2.id
  show (worksheetOf gl imp).statementLines.countP (fun row => row.matchedJournalLineId.isSome) +
    (cashLines gl imp).countP (fun dated => !(matchedGlIds gl imp).contains dated.2.id) =
      ((cashLines gl imp).map _).length + _
  simp only [decide_not, Bool.decide_eq_true] at cash
  rw [length_map]
  omega

theorem reconciled : Reconciled gl where
  single := books.single
  account := books.account
  matchedCount := by
    intro condoId importId sheet after read
    obtain ⟨imp, isImport, rfl⟩ := worksheet_ok read
    show (worksheetOf gl imp).statementLines.countP (fun row => row.matchedJournalLineId.isSome) =
      (matchedGlIds gl imp).dedup.length
    rw [books.nodup_matchedGlIds.dedup, matchedGlIds, length_filterMap_eq_countP]
  cashCount := by
    intro condoId importId sheet after read
    obtain ⟨imp, isImport, rfl⟩ := worksheet_ok read
    exact books.cash_counted isImport

end

end MatchBooks

theorem matches_reconciled {log : List LedgerOp}
    (run : Run (Guarded MatchesApart (LedgerOp.Performs env)) .empty log gl) : Reconciled gl := by
  refine MatchBooks.reconciled (run.invariant ?_ MatchBooks.empty)
  rintro before op after books ⟨apart, rfl⟩
  exact books.performs apart

namespace Sample

def statement : ImportBankStatementDto := ⟨0, 0, 0, 0, 200, [⟨0, "FEE", 100⟩, ⟨0, "FEE", 100⟩]⟩

def imported : List LedgerOp := [createsSundry 5 none, .postManual (manager 5) 5 (transfer 0 26 none),
  .importCsv (manager 5) 5 statement]

def matches28 (lineId : Id) : LedgerOp := .matchLine (manager 5) 5 lineId (some 28)

end Sample

theorem matches_doubled : ¬ ∀ (env : Env) (log : List LedgerOp) (gl : GlDb),
    Run (LedgerOp.Performs env) .empty log gl → Reconciled gl := by
  intro reconciled
  let ops : List LedgerOp := Sample.imported ++ [Sample.matches28 31, Sample.matches28 32]
  have single := (reconciled _ _ _ (run_afterOps Billing.Sample.env .empty ops)).single
  have doubled : ¬ ∀ first ∈ (afterOps Billing.Sample.env .empty ops).statementLines,
      ∀ second ∈ (afterOps Billing.Sample.env .empty ops).statementLines,
      first.matchedJournalLineId = some 28 → second.matchedJournalLineId = some 28 → first = second := by
    decide +kernel
  exact doubled fun first isFirst second isSecond => single first isFirst second isSecond 28

theorem matches_reconciled_one : ∃ gl, Reconciled gl ∧ ∃ row ∈ gl.statementLines, row.matchedJournalLineId = some 28 := by
  let before : GlDb := afterOps Billing.Sample.env .empty Sample.imported
  have first : Run (Guarded MatchesApart (LedgerOp.Performs Billing.Sample.env)) .empty Sample.imported before :=
    .cons ⟨trivial, rfl⟩ (.cons ⟨trivial, rfl⟩ (.cons ⟨trivial, rfl⟩ .done))
  have second : Guarded MatchesApart (LedgerOp.Performs Billing.Sample.env) before (Sample.matches28 31)
      ((Sample.matches28 31).call Billing.Sample.env before).2 := by
    refine ⟨?_, rfl⟩
    intro _
    decide +kernel
  refine ⟨_, matches_reconciled (first.snoc second), ?_⟩
  decide +kernel

end SmartResidence.Accounting
