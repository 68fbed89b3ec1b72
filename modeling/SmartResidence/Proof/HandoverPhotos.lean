import SmartResidence.Defects.HandoverReports

/-!
# Items of a handover report and their photos

However the rows of a chunk come back, the index in their metadata leads from each item to its own defect.
-/

namespace SmartResidence.Defects.Handover

open Foundation Billing Settings Storage List

def shownName (taxonomy : Taxonomy) (id : Option Id) (sent : Option String) : Option String :=
  match id with
  | some id => taxonomy id
  | none => sent

structure DefectOf (tables : Tables) (item : HandoverReportItem) (defect : DefectRow) : Prop where
  title : defect.text.title = handoverDefectTitle item.spaceLabel
    (shownName tables.elements item.elementId item.elementName) (shownName tables.issues item.issueId item.issueName)
  category : defect.text.category = (shownName tables.spaceTypes item.spaceTypeId none).getD "Handover"
  location : defect.text.location = some item.spaceLabel
  spaceLabel : defect.spaceLabel = some item.spaceLabel
  spaceTypeId : defect.spaceTypeId = item.spaceTypeId
  elementId : defect.elementId = item.elementId
  issueId : defect.issueId = item.issueId

structure Reported (dto : CreateHandoverReport) (before after : Tables) (report : ReportRow) (made : List DefectRow) : Prop where
  reports : after.reports = before.reports ++ [report]
  defects : after.defects = before.defects ++ made
  items : List.Forall₂ (DefectOf before) dto.items made
  belong : ∀ defect ∈ made, defect.reportId = some report.id
  distinct : (made.map fun defect => defect.id).Nodup
  fresh : ∀ defect ∈ made, defect.id ∉ before.defects.map fun defect => defect.id

def attachmentNames (item : HandoverReportItem) : List Id := item.attachmentIds.getD []

def NamedOnlyBy (items : List HandoverReportItem) (i : Nat) (attachmentId : Id) : Prop :=
  ∀ j, (∃ item, items[j]? = some item ∧ attachmentId ∈ attachmentNames item) ↔ j = i

def PhotoKept (eligible : Attachment → Prop) (items : List HandoverReportItem) (made : List DefectRow) (old new : Attachment) : Prop :=
  ∀ i defect, made[i]? = some defect → NamedOnlyBy items i old.id → eligible old → new = old.commit (.defect defect.id)

def UploadedBy (user : AuthenticatedUser) (row : Attachment) : Prop := row.uploadedByUserId = some user.id

def OpenTo (user : AuthenticatedUser) (row : Attachment) : Prop := UploadedBy user row ∧ row.ownerKind = .generic

def Unnamed (items : List HandoverReportItem) (attachmentId : Id) : Prop := ∀ item ∈ items, attachmentId ∉ attachmentNames item

structure Settled (user : AuthenticatedUser) (items : List HandoverReportItem) (made : List DefectRow) (old new : Attachment) : Prop where
  kept : PhotoKept (OpenTo user) items made old new
  stays : ¬ OpenTo user old ∨ Unnamed items old.id → new = old

structure Unhindered (server : Server) (user : AuthenticatedUser) (dto : CreateHandoverReport) (session : Session) : Prop where
  short : dto.items.length ≤ handoverReportItemsHardCap
  allowed : ∃ unit, findBy DefectUnit.id dto.unitId session.tables.units = some unit ∧
    (userHasUnitRole user unit.id = true ∨ isManagement user unit.condoId = true)
  known : ∀ item ∈ dto.items, item.spaceTypeId.all (fun id => (session.tables.spaceTypes id).isSome) = true ∧
    item.elementId.all (fun id => (session.tables.elements id).isSome) = true ∧
    item.issueId.all (fun id => (session.tables.issues id).isSome) = true
  steady : ∀ made, server.fails made = none
  apart : Function.Injective2 server.draw
  unused : ∀ made k, server.draw made k ∉ (session.tables.reports.map fun report => report.id) ∧
    server.draw made k ∉ session.tables.defects.map fun defect => defect.id

variable {server : Server} {Value : Type} {session : Session} {got : Value → Session → Prop} {thrown : ApiError → Session → Prop}

theorem ensures_statement {run : Nat → Tables → Result (Value × Tables)}
    (returns : ∀ value tables, run session.made session.tables = .ok (value, tables) →
      got value { session with made := session.made + 1, tables := tables })
    (throws : ∀ failure, server.fails session.made = some failure ∨ run session.made session.tables = .error failure →
      thrown failure { session with made := session.made + 1 }) :
    Call.Ensures got thrown (statement server run) session := by
  unfold Call.Ensures statement
  cases broken : server.fails session.made with
  | some failure => exact throws failure (.inl broken)
  | none =>
    cases ran : run session.made session.tables with
    | error failure => exact throws failure (.inr ran)
    | ok result => exact returns result.1 result.2 ran

theorem ensures_query {look : Tables → Value} (returns : got (look session.tables) { session with made := session.made + 1 })
    (throws : ∀ failure, server.fails session.made = some failure → thrown failure { session with made := session.made + 1 }) :
    Call.Ensures got thrown (query server look) session := by
  apply ensures_statement
  · intro value tables ran
    cases ran
    exact returns
  · intro failure stopped
    exact stopped.elim (throws failure) nofun

theorem ensures_transaction {body : HandoverCall Value} (ran : Call.Ensures
      (fun value after => got value { after with made := after.made + 1 } ∧ ∀ failure, server.fails after.made = some failure →
        thrown failure { after with made := after.made + 1, tables := session.tables })
      (fun failure after => thrown failure { after with tables := session.tables }) body session) :
    Call.Ensures got thrown (transaction server body) session := by
  have whole : Call.Ensures got (fun failure after => thrown failure { after with tables := session.tables })
      (body >>= fun value => query server fun _ => value) session := by
    apply Call.ensures_bind
    apply ran.mono
    · intro value after holds
      exact ensures_query holds.1 holds.2
    · intro failure after holds
      exact holds
  unfold Call.Ensures at whole ⊢
  unfold transaction
  rcases ended : (body >>= fun value => query server fun _ => value) session with ⟨failure | value, after⟩
  · rw [ended] at whole
    exact whole
  · rw [ended] at whole
    exact whole

theorem flatten_slices {Row : Type} (rows : List Row) (size count : Nat) :
    ((List.range count).map fun k => (rows.drop (k * size)).take size).flatten = rows.take (count * size) := by
  induction count with
  | zero => simp
  | succ count ih =>
    rw [range_succ, map_append, flatten_append, ih, Nat.succ_mul, take_add]
    simp

theorem flatten_chunks {Row : Type} (rows : List Row) : (chunks rows).flatten = rows := by
  unfold chunks
  rw [flatten_slices]
  apply take_of_length_le
  unfold handoverReportInsertChunk
  omega

def indexEntry (row : DefectRow) : Option (ℚ × Id) :=
  match row.metadata.get "handoverIndex" with
  | .number idx => some (idx, row.id)
  | _ => none

theorem recordCreated_eq (index : List (ℚ × Id)) (created : List DefectRow) :
    recordCreated index created = assignAll (created.filterMap indexEntry) index := by
  induction created generalizing index with
  | nil => rfl
  | cons row rest ih =>
    show recordCreated (recordCreated index [row]) rest = _
    rw [ih]
    unfold recordCreated
    cases read : row.metadata.get "handoverIndex" <;> simp [read, indexEntry, assignAll]

def numbered : Nat → List Id → List (ℚ × Id)
  | _, [] => []
  | first, id :: ids => ((first : ℚ), id) :: numbered (first + 1) ids

theorem le_of_mem_numbered {first : Nat} {ids : List Id} {key : ℚ} (mem : key ∈ (numbered first ids).map Prod.fst) : (first : ℚ) ≤ key := by
  induction ids generalizing first with
  | nil => cases mem
  | cons id ids ih =>
    rcases mem_cons.mp mem with rfl | later
    · exact le_rfl
    · have next := ih later
      push_cast at next
      linarith

theorem nodup_numbered (first : Nat) (ids : List Id) : ((numbered first ids).map Prod.fst).Nodup := by
  induction ids generalizing first with
  | nil => exact nodup_nil
  | cons id ids ih =>
    refine nodup_cons.mpr ⟨fun mem => ?_, ih (first + 1)⟩
    have next := le_of_mem_numbered mem
    push_cast at next
    linarith

theorem lookup_numbered (first i : Nat) (ids : List Id) :
    (numbered first ids).lookup (i : ℚ) = if i < first then none else ids[i - first]? := by
  induction ids generalizing first with
  | nil => simp [numbered]
  | cons id ids ih =>
    unfold numbered
    rw [lookup_cons, ih]
    by_cases same : i = first
    · subst same
      simp
    · have apart : ((i : ℚ) == (first : ℚ)) = false := beq_eq_false_iff_ne.mpr fun equal => same (Nat.cast_injective equal)
      rw [apart]
      by_cases before : i < first
      · simp [before, Nat.lt_succ_of_lt before]
      · have after : i - first = (i - (first + 1)) + 1 := by omega
        rw [if_neg before, if_neg (by omega), after]
        rfl

def Indexed (i : Nat) (row : Id → DefectRow) : Prop :=
  ∀ id, (row id).id = id ∧ (row id).metadata = .object [("handoverIndex", .number i)]

def withIds (rows : List (Id → DefectRow)) (ids : List Id) : List DefectRow := List.zipWith (fun row id => row id) rows ids

def drawnIds (server : Server) (made count : Nat) : List Id := (List.range count).map (server.draw made)

theorem drawn_eq (made : Nat) (chunk : List (Id → DefectRow)) :
    drawn server made chunk = withIds chunk (drawnIds server made chunk.length) := by
  unfold drawn withIds drawnIds
  apply ext_getElem
  · simp
  · simp

variable {rows : List (Id → DefectRow)}

theorem ids_withIds {ids : List Id} {first : Nat} (count : ids.length = rows.length)
    (indexed : ∀ k row, rows[k]? = some row → Indexed (first + k) row) :
    (withIds rows ids).map (fun row => row.id) = ids := by
  induction rows generalizing ids first with
  | nil => rw [length_eq_zero_iff.mp count]; rfl
  | cons row rows ih =>
    cases ids with
    | nil => cases count
    | cons id ids =>
      have own : (row id).id = id := (indexed 0 row rfl id).1
      have later := @ih ids (first + 1) (Nat.succ.inj count) fun k other found => by
        have placed := indexed (k + 1) other found
        rwa [show first + (k + 1) = first + 1 + k by omega] at placed
      show (row id).id :: (withIds rows ids).map (fun row => row.id) = id :: ids
      rw [own, later]

theorem index_withIds {ids : List Id} {first : Nat} (count : ids.length = rows.length)
    (indexed : ∀ k row, rows[k]? = some row → Indexed (first + k) row) :
    (withIds rows ids).filterMap indexEntry = numbered first ids := by
  induction rows generalizing ids first with
  | nil => rw [length_eq_zero_iff.mp count]; rfl
  | cons row rows ih =>
    cases ids with
    | nil => cases count
    | cons id ids =>
      obtain ⟨own, metadata⟩ := indexed 0 row rfl id
      have entry : indexEntry (row id) = some ((first : ℚ), id) := by
        unfold indexEntry
        rw [metadata, own]
        rfl
      have later := @ih ids (first + 1) (Nat.succ.inj count) fun k other found => by
        have placed := indexed (k + 1) other found
        rwa [show first + (k + 1) = first + 1 + k by omega] at placed
      show (row id :: withIds rows ids).filterMap indexEntry = _
      rw [filterMap_cons, entry, later]
      rfl

theorem lookup_recordCreated {ids : List Id} {first : Nat} (count : ids.length = rows.length)
    (indexed : ∀ k row, rows[k]? = some row → Indexed (first + k) row) {created : List DefectRow}
    (same : created.Perm (withIds rows ids)) (index : List (ℚ × Id)) (i : Nat) :
    (recordCreated index created).lookup (i : ℚ) = (if i < first then none else ids[i - first]?).or (index.lookup (i : ℚ)) := by
  have entries : (created.filterMap indexEntry).Perm (numbered first ids) := by
    rw [← index_withIds count indexed]
    exact same.filterMap _
  have nodup : ((created.filterMap indexEntry).map Prod.fst).Nodup :=
    (entries.map Prod.fst).nodup_iff.mpr (nodup_numbered first ids)
  rw [recordCreated_eq, lookup_assignAll nodup, lookup_perm nodup entries, lookup_numbered]

/-! ## The chunks one after another -/

structure Inserted (server : Server) (start : Session) (done : List (Id → DefectRow)) (ids : List Id) (index : List (ℚ × Id))
    (session : Session) : Prop where
  count : ids.length = done.length
  own : (withIds done ids).map (fun row => row.id) = ids
  tables : session.tables = { start.tables with defects := start.tables.defects ++ withIds done ids }
  index : ∀ i : ℕ, index.lookup (i : ℚ) = ids[i]?
  distinct : ids.Nodup
  fresh : ∀ id ∈ ids, id ∉ start.tables.defects.map fun defect => defect.id
  earlier : ∀ id ∈ ids, ∃ made k, made < session.made ∧ id = server.draw made k
  notes : session.notes = start.notes

def Known (tables : Tables) (row : DefectRow) : Prop :=
  row.spaceTypeId.all (fun id => (tables.spaceTypes id).isSome) = true ∧
    row.elementId.all (fun id => (tables.elements id).isSome) = true ∧
    row.issueId.all (fun id => (tables.issues id).isSome) = true

structure Smooth (server : Server) (tables : Tables) (rows : List (Id → DefectRow)) : Prop where
  steady : ∀ made, server.fails made = none
  apart : Function.Injective2 server.draw
  unused : ∀ made k, server.draw made k ∉ tables.defects.map fun defect => defect.id
  known : ∀ row ∈ rows, ∀ id, Known tables (row id)

theorem mem_withIds {ids : List Id} {made : DefectRow} (mem : made ∈ withIds rows ids) :
    ∃ row ∈ rows, ∃ id ∈ ids, made = row id := by
  induction rows generalizing ids with
  | nil => cases mem
  | cons row rows ih =>
    cases ids with
    | nil => cases mem
    | cons id ids =>
      rcases mem_cons.mp mem with rfl | later
      · exact ⟨row, mem_cons_self, id, mem_cons_self, rfl⟩
      · obtain ⟨other, listed, number, drawn, same⟩ := ih later
        exact ⟨other, mem_cons_of_mem _ listed, number, mem_cons_of_mem _ drawn, same⟩

section

variable {start : Session} {done chunk all : List (Id → DefectRow)} {ids : List Id} {index : List (ℚ × Id)}

theorem length_drawnIds (made count : Nat) : (drawnIds server made count).length = count := by
  unfold drawnIds
  rw [length_map, length_range]

theorem Inserted.admits (inserted : Inserted server start done ids index session) (smooth : Smooth server start.tables all)
    (indexed : ∀ k row, chunk[k]? = some row → Indexed (done.length + k) row) (listed : ∀ row ∈ chunk, row ∈ all) :
    session.tables.Admit (drawn server session.made chunk) := by
  have own : (withIds chunk (drawnIds server session.made chunk.length)).map (fun row => row.id) =
      drawnIds server session.made chunk.length := ids_withIds (length_drawnIds _ _) indexed
  rw [drawn_eq]
  constructor
  · rw [own]
    apply List.Nodup.map _ nodup_range
    intro k l same
    exact (smooth.apart same).2
  · intro made mem
    have identified : made.id ∈ drawnIds server session.made chunk.length := own ▸ mem_map_of_mem mem
    obtain ⟨row, known, id, -, rfl⟩ := mem_withIds mem
    obtain ⟨k, -, drew⟩ := mem_map.mp identified
    rw [inserted.tables]
    refine ⟨?_, smooth.known row (listed row known) id⟩
    rw [map_append, mem_append, ← drew]
    rintro (old | new)
    · exact smooth.unused _ _ old
    · rw [inserted.own] at new
      obtain ⟨earlier, l, before, same⟩ := inserted.earlier _ new
      exact absurd (smooth.apart same).1 (Nat.ne_of_gt before)

theorem withIds_append (count : ids.length = done.length) (more : List Id) :
    withIds (done ++ chunk) (ids ++ more) = withIds done ids ++ withIds chunk more := zipWith_append count.symm

theorem Inserted.create (inserted : Inserted server start done ids index session)
    (indexed : ∀ k row, chunk[k]? = some row → Indexed (done.length + k) row) (listed : ∀ row ∈ chunk, row ∈ all) :
    Call.Ensures (fun created after => ∃ more, Inserted server start (done ++ chunk) more (recordCreated index created) after)
      (fun _ after => after.notes = start.notes ∧ ¬ Smooth server start.tables all) (createManyAndReturn server chunk) session := by
  apply ensures_statement
  · intro created tables ran
    obtain ⟨_, granted, done⟩ := bind_eq_ok.mp ran
    have admitted := not_not.mp (throwIf_eq_ok.mp granted)
    cases done
    have length : (drawnIds server session.made chunk.length).length = chunk.length := length_drawnIds _ _
    have own := ids_withIds length indexed
    obtain ⟨nodup, keys⟩ := admitted
    rw [drawn_eq] at nodup keys
    rw [own] at nodup
    have unused : ∀ id ∈ drawnIds server session.made chunk.length,
        id ∉ start.tables.defects.map (fun defect => defect.id) ∧ id ∉ ids := by
      intro id drew
      rw [← own] at drew
      obtain ⟨row, mem, rfl⟩ := mem_map.mp drew
      have absent := (keys row mem).1
      rw [inserted.tables] at absent
      rw [map_append, mem_append, inserted.own] at absent
      exact not_or.mp absent
    refine ⟨ids ++ drawnIds server session.made chunk.length, ?_⟩
    constructor
    · rw [length_append, length_append, length, inserted.count]
    · rw [withIds_append inserted.count, map_append, inserted.own, own]
    · rw [withIds_append inserted.count, drawn_eq]
      rw [inserted.tables, append_assoc]
    · intro i
      rw [lookup_recordCreated length indexed ((server.perm _ _).trans (drawn_eq _ _ ▸ List.Perm.refl _)), inserted.index,
        List.getElem?_append, inserted.count]
      split
      · rfl
      · rw [List.getElem?_eq_none (l := ids) (by rw [inserted.count]; omega), Option.or_none]
    · apply List.Nodup.append inserted.distinct nodup
      intro id old new
      exact (unused id new).2 old
    · intro id mem
      rcases mem_append.mp mem with old | new
      · exact inserted.fresh id old
      · exact (unused id new).1
    · intro id mem
      rcases mem_append.mp mem with old | new
      · obtain ⟨made, k, before, same⟩ := inserted.earlier id old
        exact ⟨made, k, Nat.lt_succ_of_lt before, same⟩
      · obtain ⟨k, -, same⟩ := mem_map.mp new
        exact ⟨session.made, k, Nat.lt_succ_self _, same.symm⟩
    · exact inserted.notes
  · intro failure stopped
    refine ⟨inserted.notes, fun smooth => ?_⟩
    rcases stopped with broken | refused
    · rw [smooth.steady] at broken
      cases broken
    · rcases bind_eq_error.mp refused with denied | ⟨_, -, impossible⟩
      · exact (throwIf_eq_error.mp denied).1 (inserted.admits smooth indexed listed)
      · cases impossible

theorem Inserted.insert {pieces : List (List (Id → DefectRow))} (inserted : Inserted server start done ids index session)
    (indexed : ∀ k row, pieces.flatten[k]? = some row → Indexed (done.length + k) row) (listed : ∀ row ∈ pieces.flatten, row ∈ all) :
    Call.Ensures (fun index after => ∃ more, Inserted server start (done ++ pieces.flatten) more index after)
      (fun _ after => after.notes = start.notes ∧ ¬ Smooth server start.tables all) (insertChunks server pieces index) session := by
  induction pieces generalizing done ids index session with
  | nil =>
    rw [flatten_nil, append_nil]
    exact ⟨ids, inserted⟩
  | cons chunk rest ih =>
    rw [flatten_cons] at indexed listed ⊢
    apply Call.ensures_bind
    have placed : ∀ k row, chunk[k]? = some row → Indexed (done.length + k) row := by
      intro k row found
      obtain ⟨short, -⟩ := List.getElem?_eq_some_iff.mp found
      apply indexed
      rw [List.getElem?_append_left short]
      exact found
    apply (inserted.create placed fun row mem => listed row (mem_append_left _ mem)).mono
    · rintro created after ⟨more, inserted⟩
      rw [← append_assoc]
      apply ih inserted
      · intro k row found
        rw [length_append, Nat.add_assoc]
        apply indexed
        rw [List.getElem?_append_right (by omega), Nat.add_sub_cancel_left]
        exact found
      · intro row mem
        exact listed row (mem_append_right _ mem)
    · intro failure after holds
      exact holds

end

/-! ## The photos -/

def settle (userId : Id) : List HandoverReportItem → List Id → Attachment → Attachment
  | item :: items, defectId :: ids, row =>
      settle userId items ids (if row.free userId (attachmentNames item) then row.commit (.defect defectId) else row)
  | _, _, row => row

theorem free_iff {userId : Id} {named : List Id} {row : Attachment} : row.free userId named = true ↔
    row.id ∈ named ∧ row.uploadedByUserId = some userId ∧ row.ownerKind = .generic := by
  exact decide_eq_true_iff

variable {user : AuthenticatedUser} {row : Attachment}

theorem settle_closed (closed : ¬ OpenTo user row) (items : List HandoverReportItem) (ids : List Id) :
    settle user.id items ids row = row := by
  induction items generalizing ids with
  | nil => rfl
  | cons item items ih =>
    cases ids with
    | nil => rfl
    | cons id ids =>
      unfold settle
      rw [if_neg fun free => closed (free_iff.mp free).2]
      exact ih ids

theorem settle_unnamed {items : List HandoverReportItem} (unnamed : Unnamed items row.id) (ids : List Id) :
    settle user.id items ids row = row := by
  induction items generalizing ids with
  | nil => rfl
  | cons item items ih =>
    cases ids with
    | nil => rfl
    | cons id ids =>
      unfold settle
      rw [if_neg fun free => unnamed item mem_cons_self (free_iff.mp free).1]
      exact ih (fun other mem => unnamed other (mem_cons_of_mem _ mem)) ids

theorem settle_named {items : List HandoverReportItem} {i : Nat} (named : NamedOnlyBy items i row.id) (opened : OpenTo user row)
    {ids : List Id} {defectId : Id} (drawn : ids[i]? = some defectId) : settle user.id items ids row = row.commit (.defect defectId) := by
  induction items generalizing ids i with
  | nil =>
    obtain ⟨item, found, -⟩ := (named i).mpr rfl
    cases found
  | cons item items ih =>
    cases ids with
    | nil => cases drawn
    | cons id ids =>
      unfold settle
      cases i with
      | zero =>
        obtain ⟨other, found, own⟩ := (named 0).mpr rfl
        cases found
        cases drawn
        rw [if_pos (free_iff.mpr ⟨own, opened⟩)]
        -- A committed attachment is not open to later items.
        apply settle_closed
        intro still
        cases still.2
      | succ i =>
        have absent : row.id ∉ attachmentNames item := fun own => absurd ((named 0).mp ⟨item, rfl, own⟩) (Nat.succ_ne_zero i).symm
        rw [if_neg fun free => absent (free_iff.mp free).1]
        have rest : NamedOnlyBy items i row.id := fun j => (named (j + 1)).trans Nat.succ_inj
        exact ih rest drawn

structure WithAttachments (session : Session) (attachments : List Attachment) (after : Session) : Prop where
  notes : after.notes = session.notes
  tables : after.tables = { session.tables with attachments := attachments }

structure Broken (server : Server) (session after : Session) : Prop where
  notes : after.notes = session.notes
  fails : ∃ made failure, server.fails made = some failure

theorem ensures_commitPhoto {index : List (ℚ × Id)} {i : Nat} {defectId : Id} (found : index.lookup (i : ℚ) = some defectId)
    (item : HandoverReportItem) :
    Call.Ensures (fun _ => WithAttachments session (updateWhere (Attachment.free user.id (attachmentNames item))
        (Attachment.commit (.defect defectId)) session.tables.attachments))
      (fun _ => Broken server session) (commitPhoto server user.id index i item) session := by
  unfold commitPhoto attachmentNames
  rw [found]
  cases item.attachmentIds.getD [] with
  | nil =>
    rw [updateWhere_none]
    · exact ⟨rfl, rfl⟩
    · intro row mem
      exact decide_eq_false fun free => not_mem_nil free.1
  | cons attachmentId more =>
    apply ensures_statement
    · intro _ tables ran
      cases ran
      exact ⟨rfl, rfl⟩
    · intro failure stopped
      exact ⟨rfl, _, failure, stopped.resolve_right nofun⟩

theorem ensures_commitPhotos {index : List (ℚ × Id)} {items : List HandoverReportItem} {ids : List Id} {i : Nat}
    (count : ids.length = items.length) (found : ∀ j, j < ids.length → index.lookup ((i + j : ℕ) : ℚ) = ids[j]?) :
    Call.Ensures (fun _ => WithAttachments session (session.tables.attachments.map (settle user.id items ids)))
      (fun _ => Broken server session) (commitPhotos server user.id index i items) session := by
  induction items generalizing session ids i with
  | nil =>
    have same : settle user.id [] ids = id := by
      cases ids <;> rfl
    rw [same, map_id]
    exact ⟨rfl, rfl⟩
  | cons item items ih =>
    cases ids with
    | nil => cases count
    | cons id ids =>
      apply Call.ensures_bind
      apply (ensures_commitPhoto (found 0 (Nat.succ_pos _)) item).mono
      · rintro _ middle ⟨notes, tables⟩
        have rest : ∀ j, j < ids.length → index.lookup ((i + 1 + j : ℕ) : ℚ) = ids[j]? := by
          intro j short
          rw [Nat.add_assoc, Nat.add_comm 1 j]
          exact found (j + 1) (Nat.succ_lt_succ short)
        apply (ih (Nat.succ.inj count) rest).mono
        · rintro _ after ⟨again, more⟩
          refine ⟨again.trans notes, ?_⟩
          rw [more, tables]
          rw [updateWhere, map_map]
          rfl
        · rintro failure after ⟨again, fails⟩
          exact ⟨again.trans notes, fails⟩
      · intro failure after broken
        exact broken

/-! ## The names -/

theorem lookup_found (wanted : List Id) (taxonomy : Taxonomy) (key : Id) :
    (wanted.filterMap fun id => (taxonomy id).map fun name => (id, name)).lookup key =
      if key ∈ wanted then taxonomy key else none := by
  induction wanted with
  | nil => rfl
  | cons id rest ih =>
    rw [filterMap_cons]
    cases known : taxonomy id with
    | none =>
      dsimp only [Option.map_none]
      rw [ih]
      by_cases same : key = id
      · subst same
        simp [known]
      · simp [same]
    | some name =>
      dsimp only [Option.map_some]
      rw [lookup_cons, ih]
      by_cases same : key = id
      · subst same
        simp [known]
      · simp [same, beq_eq_false_iff_ne.mpr same]

structure Untouched (session after : Session) : Prop where
  notes : after.notes = session.notes
  tables : after.tables = session.tables

theorem Untouched.trans {first second third : Session} (later : Untouched second third) (earlier : Untouched first second) :
    Untouched first third := ⟨later.notes.trans earlier.notes, later.tables.trans earlier.tables⟩

theorem ensures_findNames (ids : List (Option Id)) (taxonomy : Tables → Taxonomy) :
    Call.Ensures (fun names after => Untouched session after ∧ ∀ id, some id ∈ ids → names.lookup id = taxonomy session.tables id)
      (fun _ after => Untouched session after ∧ ∃ made failure, server.fails made = some failure)
      (findNames server ids taxonomy) session := by
  unfold findNames
  dsimp only
  have listed : ∀ id, some id ∈ ids → id ∈ ids.reduceOption.dedup := fun id mem =>
    mem_dedup.mpr (reduceOption_mem_iff.mpr mem)
  split
  · rename_i none
    refine ⟨⟨rfl, rfl⟩, fun id mem => ?_⟩
    have absurdly := listed id mem
    rw [none] at absurdly
    cases absurdly
  · apply ensures_query
    · refine ⟨⟨rfl, rfl⟩, fun id mem => ?_⟩
      rw [lookup_found, if_pos (listed id mem)]
    · intro failure broken
      exact ⟨⟨rfl, rfl⟩, _, failure, broken⟩

structure Resolved (tables : Tables) (items : List HandoverReportItem) (names : Names) : Prop where
  elements : ∀ id, some id ∈ items.map HandoverReportItem.elementId → names.elements.lookup id = tables.elements id
  issues : ∀ id, some id ∈ items.map HandoverReportItem.issueId → names.issues.lookup id = tables.issues id
  spaceTypes : ∀ id, some id ∈ items.map HandoverReportItem.spaceTypeId → names.spaceTypes.lookup id = tables.spaceTypes id

theorem ensures_readNames (items : List HandoverReportItem) :
    Call.Ensures (fun names after => Untouched session after ∧ Resolved session.tables items names)
      (fun _ after => Untouched session after ∧ ∃ made failure, server.fails made = some failure)
      (readNames server items) session := by
  apply Call.ensures_bind
  apply (ensures_findNames (items.map HandoverReportItem.elementId) Tables.elements).mono
  swap
  · exact fun _ _ stopped => stopped
  rintro elements first ⟨untouched, elementNames⟩
  apply Call.ensures_bind
  apply (ensures_findNames (items.map HandoverReportItem.issueId) Tables.issues).mono
  swap
  · exact fun _ _ stopped => ⟨stopped.1.trans untouched, stopped.2⟩
  rintro issues second ⟨later, issueNames⟩
  rw [untouched.tables] at issueNames
  replace untouched := later.trans untouched
  apply Call.ensures_bind
  apply (ensures_findNames (items.map HandoverReportItem.spaceTypeId) Tables.spaceTypes).mono
  swap
  · exact fun _ _ stopped => ⟨stopped.1.trans untouched, stopped.2⟩
  rintro spaceTypes third ⟨last, spaceTypeNames⟩
  rw [untouched.tables] at spaceTypeNames
  exact ⟨last.trans untouched, elementNames, issueNames, spaceTypeNames⟩

variable {item : HandoverReportItem}

theorem nameOf_eq {names : List (Id × String)} {taxonomy : Taxonomy} {items : List HandoverReportItem}
    {refer : HandoverReportItem → Option Id} (known : ∀ id, some id ∈ items.map refer → names.lookup id = taxonomy id)
    (mem : item ∈ items) (sent : Option String) :
    nameOf names (refer item) sent = shownName taxonomy (refer item) sent := by
  cases named : refer item with
  | none => rfl
  | some id => exact known id (named ▸ mem_map_of_mem mem)

theorem Resolved.defectOf {tables : Tables} {items : List HandoverReportItem} {names : Names}
    (resolved : Resolved tables items names) (mem : item ∈ items) (unit : DefectUnit) (userId reportId : Id)
    (index : Nat) (id : Id) : DefectOf tables item (defectRow unit userId reportId names index item id) := by
  have element := nameOf_eq resolved.elements mem item.elementName
  have issue := nameOf_eq resolved.issues mem item.issueName
  have spaceType := nameOf_eq resolved.spaceTypes mem none
  constructor
  · show handoverDefectTitle item.spaceLabel (nameOf names.elements item.elementId item.elementName)
      (nameOf names.issues item.issueId item.issueName) = _
    rw [element, issue]
  · show (nameOf names.spaceTypes item.spaceTypeId none).getD "Handover" = _
    rw [spaceType]
  all_goals rfl

/-! ## The transaction -/

def Saved (user : AuthenticatedUser) (dto : CreateHandoverReport) (before after : Tables) (report : ReportRow) : Prop :=
  ∃ made, Reported dto before after report made ∧ List.Forall₂ (Settled user dto.items made) before.attachments after.attachments

def itemRows (unit : DefectUnit) (userId reportId : Id) (names : Names) (items : List HandoverReportItem) : List (Id → DefectRow) :=
  items.mapIdx fun index item => defectRow unit userId reportId names index item

section

variable {unit : DefectUnit} {userId reportId : Id} {names : Names} {items : List HandoverReportItem}

theorem indexed_itemRows (k : Nat) (row : Id → DefectRow) (found : (itemRows unit userId reportId names items)[k]? = some row) :
    Indexed k row := by
  unfold itemRows at found
  rw [List.getElem?_mapIdx] at found
  obtain ⟨item, -, rfl⟩ := Option.map_eq_some_iff.mp found
  intro id
  exact ⟨rfl, rfl⟩

theorem mem_itemRows {row : Id → DefectRow} (mem : row ∈ itemRows unit userId reportId names items) :
    ∃ item ∈ items, ∃ index, row = defectRow unit userId reportId names index item := by
  obtain ⟨k, found⟩ := mem_iff_getElem?.mp mem
  unfold itemRows at found
  rw [List.getElem?_mapIdx] at found
  obtain ⟨item, listed, rfl⟩ := Option.map_eq_some_iff.mp found
  exact ⟨item, mem_of_getElem? listed, k, rfl⟩

theorem each_defectOf {tables : Tables} (resolved : Resolved tables items names) {ids : List Id} (count : ids.length = items.length) :
    List.Forall₂ (DefectOf tables) items (withIds (itemRows unit userId reportId names items) ids) := by
  unfold withIds itemRows
  apply List.forall₂_of_length_eq_of_get
  · simp [count]
  · intro k short also
    simp only [get_eq_getElem, getElem_zipWith, getElem_mapIdx]
    exact resolved.defectOf (getElem_mem short) _ _ _ _ _

end

theorem each_settled {items : List HandoverReportItem} {made : List DefectRow} {ids : List Id}
    (own : made.map (fun row => row.id) = ids) (attachments : List Attachment) :
    List.Forall₂ (Settled user items made) attachments (attachments.map (settle user.id items ids)) := by
  rw [List.forall₂_map_right_iff, List.forall₂_same]
  intro old _
  constructor
  · intro i defect found named opened
    apply settle_named named opened
    rw [← own, List.getElem?_map, found]
    rfl
  · rintro (closed | unnamed)
    · exact settle_closed closed items ids
    · exact settle_unnamed unnamed ids

theorem ensures_createReport {unit : DefectUnit} {userId : Id} {title : String} :
    Call.Ensures (fun report after => after.notes = session.notes ∧
        after.tables = { session.tables with reports := session.tables.reports ++ [report] })
      (fun _ after => after.notes = session.notes ∧ ((∃ made failure, server.fails made = some failure) ∨
        ∃ made k, server.draw made k ∈ session.tables.reports.map fun report => report.id))
      (createReport server unit userId title) session := by
  apply ensures_statement
  · intro report tables ran
    obtain ⟨_, -, done⟩ := bind_eq_ok.mp ran
    cases done
    exact ⟨rfl, rfl⟩
  · intro failure stopped
    refine ⟨rfl, ?_⟩
    rcases stopped with broken | refused
    · exact .inl ⟨_, failure, broken⟩
    · rcases bind_eq_error.mp refused with taken | ⟨_, -, impossible⟩
      · exact .inr ⟨_, 0, (throwIf_eq_error.mp taken).1⟩
      · cases impossible

variable {dto : CreateHandoverReport}

theorem Unhindered.not_broken (unhindered : Unhindered server user dto session)
    (broken : ∃ made failure, server.fails made = some failure) : False := by
  obtain ⟨made, failure, fails⟩ := broken
  rw [unhindered.steady] at fails
  cases fails

theorem Unhindered.smooth (unhindered : Unhindered server user dto session) {unit : DefectUnit} {userId reportId : Id}
    {names : Names} (reports : List ReportRow) :
    Smooth server { session.tables with reports := reports } (itemRows unit userId reportId names dto.items) := by
  constructor
  · exact unhindered.steady
  · exact unhindered.apart
  · intro made k
    exact (unhindered.unused made k).2
  · intro row mem id
    obtain ⟨item, listed, index, rfl⟩ := mem_itemRows mem
    exact unhindered.known item listed

theorem ensures_saveReport {unit : DefectUnit} {names : Names} (resolved : Resolved session.tables dto.items names) :
    Call.Ensures (fun report after => after.notes = session.notes ∧ Saved user dto session.tables after.tables report)
      (fun _ after => after.notes = session.notes ∧ ¬ Unhindered server user dto session)
      (saveReport server user dto unit names) session := by
  apply Call.ensures_bind
  apply ensures_createReport.mono
  swap
  · rintro failure after ⟨notes, reason⟩
    refine ⟨notes, fun unhindered => ?_⟩
    rcases reason with broken | ⟨made, k, taken⟩
    · exact unhindered.not_broken broken
    · exact (unhindered.unused made k).1 taken
  rintro report start ⟨notes, tables⟩
  let rows := itemRows unit user.id report.id names dto.items
  apply Call.ensures_bind
  have empty : Inserted server start [] [] [] start := by
    constructor
    · rfl
    · rfl
    · simp [withIds]
    · intro i
      rfl
    · exact nodup_nil
    · nofun
    · nofun
    · rfl
  have indexed : ∀ k row, (chunks rows).flatten[k]? = some row → Indexed (([] : List (Id → DefectRow)).length + k) row := by
    intro k row found
    rw [flatten_chunks] at found
    rw [length_nil, Nat.zero_add]
    exact indexed_itemRows k row found
  have listed : ∀ row ∈ (chunks rows).flatten, row ∈ rows := by
    intro row mem
    rwa [flatten_chunks] at mem
  apply (empty.insert indexed listed).mono
  swap
  · rintro failure after ⟨same, rough⟩
    refine ⟨same.trans notes, fun unhindered => rough ?_⟩
    rw [tables]
    exact unhindered.smooth _
  rintro index middle ⟨ids, inserted⟩
  rw [nil_append, flatten_chunks] at inserted
  have count : ids.length = dto.items.length := by
    rw [inserted.count]
    exact length_mapIdx
  apply Call.ensures_bind
  have found : ∀ j, j < ids.length → index.lookup ((0 + j : ℕ) : ℚ) = ids[j]? := by
    intro j _
    rw [Nat.zero_add]
    exact inserted.index j
  apply (ensures_commitPhotos count found).mono
  swap
  · rintro failure after ⟨same, broken⟩
    exact ⟨same.trans (inserted.notes.trans notes), fun unhindered => unhindered.not_broken broken⟩
  rintro _ after ⟨same, settled⟩
  refine ⟨same.trans (inserted.notes.trans notes), withIds rows ids, ?_, ?_⟩
  · constructor
    · rw [settled, inserted.tables, tables]
    · rw [settled, inserted.tables, tables]
    · exact each_defectOf resolved count
    · intro defect mem
      obtain ⟨row, listed, id, -, rfl⟩ := mem_withIds mem
      obtain ⟨item, -, index, rfl⟩ := mem_itemRows listed
      rfl
    · rw [inserted.own]
      exact inserted.distinct
    · intro defect mem
      have drawn : defect.id ∈ ids := inserted.own ▸ mem_map_of_mem mem
      have unused := inserted.fresh _ drawn
      rwa [tables] at unused
  · rw [settled, inserted.tables, tables]
    exact each_settled inserted.own _

/-! ## The call -/

theorem Unhindered.of_tables {later : Session} (unhindered : Unhindered server user dto session)
    (same : later.tables = session.tables) : Unhindered server user dto later := by
  constructor
  · exact unhindered.short
  · rw [same]
    exact unhindered.allowed
  · rw [same]
    exact unhindered.known
  · exact unhindered.steady
  · exact unhindered.apart
  · rw [same]
    exact unhindered.unused

theorem ensures_readUnit (user : AuthenticatedUser) (dto : CreateHandoverReport) :
    Call.Ensures (fun _ => Untouched session) (fun _ after => Untouched session after ∧ ¬ Unhindered server user dto session)
      (readUnit server user dto.unitId) session := by
  apply Call.ensures_bind
  apply ensures_query
  swap
  · intro failure broken
    exact ⟨⟨rfl, rfl⟩, fun unhindered => unhindered.not_broken ⟨_, failure, broken⟩⟩
  apply Call.ensures_bind
  apply Call.ensures_ofResult
  swap
  · intro failure missing
    refine ⟨⟨rfl, rfl⟩, fun unhindered => ?_⟩
    obtain ⟨unit, found, -⟩ := unhindered.allowed
    rw [(orThrow_eq_error.mp missing).1] at found
    cases found
  intro unit read
  have found := orThrow_eq_ok.mp read
  apply Call.ensures_bind
  apply Call.ensures_ofResult
  · rintro _ -
    exact ⟨rfl, rfl⟩
  · intro failure refused
    refine ⟨⟨rfl, rfl⟩, fun unhindered => ?_⟩
    obtain ⟨other, same, allowed⟩ := unhindered.allowed
    obtain rfl := Option.some.inj (found.symm.trans same)
    obtain ⟨⟨stranger, resident⟩, -⟩ := throwIf_eq_error.mp refused
    exact allowed.elim stranger resident

theorem ensures_saveHandover (user : AuthenticatedUser) (dto : CreateHandoverReport) :
    Call.Ensures (fun report after => after.notes = session.notes ∧ Saved user dto session.tables after.tables report)
      (fun _ after => Untouched session after ∧ ¬ Unhindered server user dto session) (saveHandover server user dto) session := by
  apply Call.ensures_bind
  apply Call.ensures_ofResult
  swap
  · intro failure refused
    exact ⟨⟨rfl, rfl⟩, fun unhindered => absurd unhindered.short (Nat.not_le_of_gt (throwIf_eq_error.mp refused).1)⟩
  rintro _ -
  apply Call.ensures_bind
  apply (ensures_readUnit user dto).mono
  swap
  · exact fun _ _ stopped => stopped
  intro unit first untouched
  apply Call.ensures_bind
  apply (ensures_readNames dto.items).mono
  swap
  · rintro failure after ⟨later, broken⟩
    exact ⟨later.trans untouched, fun unhindered => unhindered.not_broken broken⟩
  rintro names second ⟨later, resolved⟩
  rw [← later.tables] at resolved
  obtain ⟨notes, tables⟩ := later.trans untouched
  apply ensures_transaction
  apply (ensures_saveReport resolved).mono
  · rintro report after ⟨same, saved⟩
    rw [tables] at saved
    refine ⟨⟨same.trans notes, saved⟩, fun failure broken => ?_⟩
    exact ⟨⟨same.trans notes, tables⟩, fun unhindered => unhindered.not_broken ⟨_, failure, broken⟩⟩
  · rintro failure after ⟨same, hindered⟩
    exact ⟨⟨same.trans notes, tables⟩, fun unhindered => hindered (unhindered.of_tables tables)⟩

theorem getSummary_untouched (user : AuthenticatedUser) (id : Id) (itemCount : Nat) :
    Untouched session (getSummary server user id itemCount session).2 := by
  have both : Call.Ensures (fun _ => Untouched session) (fun _ => Untouched session) (getSummary server user id itemCount) session := by
    apply Call.ensures_bind
    apply ensures_query
    · apply Call.ensures_bind
      apply Call.ensures_ofResult
      · intro report _
        apply Call.ensures_bind
        apply Call.ensures_ofResult
        · intro _ _
          exact ⟨rfl, rfl⟩
        · intro failure _
          exact ⟨rfl, rfl⟩
      · intro failure _
        exact ⟨rfl, rfl⟩
    · intro failure _
      exact ⟨rfl, rfl⟩
  unfold Call.Ensures at both
  rcases ended : getSummary server user id itemCount session with ⟨failure | value, after⟩
  · rwa [ended] at both
  · rwa [ended] at both

/-- A call that fails before its commit leaves nothing, and one that commits leaves the whole report. -/
inductive HandoverOutcome (server : Server) (user : AuthenticatedUser) (dto : CreateHandoverReport) (session : Session) : Prop
  | refused (failure : ApiError) (after : Session) (stopped : createHandover server user dto session = (.error failure, after))
      (untouched : Untouched session after) (hindered : ¬ Unhindered server user dto session)
  | committed (report : ReportRow) (saved : Saved user dto session.tables (createHandover server user dto session).2.tables report)
      (notified : (createHandover server user dto session).2.notes =
        session.notes ++ [.reportCreated report.id dto.items.length])
      (answered : ∀ failure, (createHandover server user dto session).1 = .error failure →
        ∃ later, Saved user dto session.tables later.tables report ∧ (getSummary server user report.id dto.items.length later).1 = .error failure)

theorem handover_outcome (server : Server) (user : AuthenticatedUser) (dto : CreateHandoverReport) (session : Session) :
    HandoverOutcome server user dto session := by
  have saving := @ensures_saveHandover server session user dto
  unfold Call.Ensures at saving
  rcases ended : saveHandover server user dto session with ⟨failure | report, after⟩
  · rw [ended] at saving
    exact .refused failure after (Call.bind_of_error ended) saving.1 saving.2
  · rw [ended] at saving
    obtain ⟨notes, saved⟩ := saving
    let noted : Session := { after with notes := after.notes ++ [.reportCreated report.id dto.items.length] }
    have whole : createHandover server user dto session = getSummary server user report.id dto.items.length noted :=
      Call.bind_of_ok ended
    obtain ⟨kept, same⟩ := @getSummary_untouched server noted user report.id dto.items.length
    refine .committed report ?_ ?_ ?_
    · rw [whole, same]
      exact saved
    · rw [whole, kept]
      show after.notes ++ _ = _
      rw [notes]
    · intro failure stopped
      rw [whole] at stopped
      exact ⟨noted, saved, stopped⟩

def KeepsEveryPhoto : Prop := ∀ server user dto session, dto.items.length ≤ handoverReportItemsHardCap →
  Call.Ensures (fun _ after => ∃ report made, Reported dto session.tables after.tables report made ∧
      List.Forall₂ (PhotoKept (UploadedBy user) dto.items made) session.tables.attachments after.tables.attachments)
    (fun _ _ => True) (createHandover server user dto) session

def LeavesNothing : Prop := ∀ server user dto session, dto.items.length ≤ handoverReportItemsHardCap →
  Call.Ensures (fun _ _ => True) (fun _ after => after.tables = session.tables) (createHandover server user dto) session

namespace Sample

def owner : AuthenticatedUser := ⟨5, [⟨.unitOwner, some 1, some 2⟩]⟩

def photo : Attachment := ⟨7, "photos/7.jpg", none, "image/jpeg", 2048, none, .committed, .defect, some 5, some 3, none, none, none, none, 0⟩

def before : Session := ⟨⟨[⟨2, 1⟩], fun _ => none, fun _ => none, fun _ => none, [], [], [photo]⟩, 0, []⟩

def walkthrough : CreateHandoverReport := ⟨2, none, [⟨"Kitchen", none, none, none, none, none, none, some [7]⟩]⟩

def reliable : Server := ⟨fun _ => none, fun made k => 1000 * made + k + 10, fun _ rows => rows, fun _ _ => List.Perm.refl _⟩

def unreliable : Server := { reliable with fails := fun made => if made = 5 then some (.failure "Connection lost") else none }

end Sample

open Sample in
theorem handover_exceptions : ¬ KeepsEveryPhoto ∧ ¬ LeavesNothing := by
  constructor
  · intro keeps
    have run := keeps reliable owner walkthrough before (by decide)
    have summary : (createHandover reliable owner walkthrough before).1.isOk = true := by decide +kernel
    have ids : (createHandover reliable owner walkthrough before).2.tables.defects.map (fun defect => defect.id) = [2010] := by
      decide +kernel
    have photos : (createHandover reliable owner walkthrough before).2.tables.attachments = [photo] := by decide +kernel
    unfold Call.Ensures at run
    rcases ended : createHandover reliable owner walkthrough before with ⟨failure | value, after⟩
    · rw [ended] at summary
      cases summary
    rw [ended] at run ids photos
    obtain ⟨report, made, reported, kept⟩ := run
    have defects : after.tables.defects = made := reported.defects
    dsimp only at ids photos kept
    rw [photos] at kept
    rw [defects] at ids
    obtain ⟨defect, rfl, identified⟩ := List.map_eq_singleton_iff.mp ids
    have named : NamedOnlyBy walkthrough.items 0 photo.id := by
      intro j
      constructor
      · rintro ⟨item, found, -⟩
        exact Nat.lt_one_iff.mp (List.getElem?_eq_some_iff.mp found).1
      · rintro rfl
        exact ⟨_, rfl, List.mem_singleton_self 7⟩
    have moved := (List.forall₂_cons.mp kept).1 0 defect rfl named rfl
    have owner : some 3 = some defect.id := congrArg Attachment.defectId moved
    rw [identified] at owner
    cases owner
  · intro leaves
    have run := leaves unreliable owner walkthrough before (by decide)
    have failed : (createHandover unreliable owner walkthrough before).1.isOk = false := by decide +kernel
    have reports : (createHandover unreliable owner walkthrough before).2.tables.reports.length = 1 := by decide +kernel
    unfold Call.Ensures at run
    rcases ended : createHandover unreliable owner walkthrough before with ⟨failure | value, after⟩
    · rw [ended] at run reports
      dsimp only at run reports
      rw [run] at reports
      cases reports
    · rw [ended] at failed
      cases failed

end SmartResidence.Defects.Handover
