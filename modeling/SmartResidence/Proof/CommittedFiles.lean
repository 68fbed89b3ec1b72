import SmartResidence.Storage.AttachmentCleanup

/-!
# Committed files stay

The sweep removes what it found pending, whatever has become of it since.
-/

namespace SmartResidence.Storage

open Foundation Billing Documents List

abbrev StorageWorld : Type := World StorageDb StorageFlight StorageNote

structure FilesSafe (world : StorageWorld) : Prop where
  committed : ∀ parent id keys, .committed parent id keys ∈ world.notes → ∃ row ∈ world.db.attachments, row.id = id ∧
    row.status = .committed ∧ row.parents = [parent] ∧ ∀ key ∈ keys, key ∈ world.db.objects
  accepted : ∀ parent id, .accepted parent id ∈ world.notes → ∃ row ∈ world.db.attachments, row.id = id ∧ row.parents = [parent]

def StorageFlight.orphans : StorageFlight → List Orphan
  | .removing orphans _ => orphans
  | .deleting orphans => orphans
  | _ => []

def Swept (world : StorageWorld) (id : Id) : Prop := ∃ flight ∈ world.flights, ∃ orphan ∈ flight.orphans, orphan.id = id

def Undisturbed (world : StorageWorld) : CallEvent Instant StorageRequest → Prop
  | .begin _ (.commit _ userId ids) => ∀ row ∈ world.db.attachments, row.free userId ids → ¬ Swept world row.id
  | .begin _ _ => True
  | .proceed _ place => ∀ flight, world.flights[place]? = some flight → match flight with
      | .linking _ userId ids => ∀ row ∈ world.db.attachments, row.free userId ids → ¬ Swept world row.id
      | .announcing userId ids => ∀ id ∈ ids, (∃ row ∈ world.db.attachments, row.id = id ∧ row.pendingFree userId ids) ∧ ¬ Swept world id
      | .publishing _ _ plan =>
          (∀ version ∈ world.db.versions, version.documentId = plan.doc.id → version.versionNumber ≠ plan.versionNumber) → ∀ row ∈ world.db.attachments, row.id = plan.attachment.id → row.status = .pending ∧ ¬ Swept world row.id
      | _ => True

section

variable {keys : UploadKeys} {row : Attachment} {parent : Parent}

def KeysOf (keys : UploadKeys) (id : Id) (texts : List String) : Prop := ∀ key ∈ texts, key = keys.full id ∨ key = keys.thumb id

structure RowOk (keys : UploadKeys) (row : Attachment) : Prop where
  keys : KeysOf keys row.id row.keys
  free : row.ownerKind = .generic → row.parents = []
  pending : row.status = .pending → row.ownerKind = .generic

theorem KeysOf.apart {id other : Id} {texts : List String} {key : String} (own : KeysOf keys id texts) (ne : id ≠ other)
    (foreign : key = keys.full other ∨ key = keys.thumb other) : key ∉ texts := by
  intro mem
  obtain ⟨fulls, mixed, thumbs⟩ := keys.apart id other ne
  have swapped := (keys.apart other id ne.symm).2.1
  rcases own key mem with mine | mine <;> rcases foreign with theirs | theirs
  · exact fulls (mine.symm.trans theirs)
  · exact mixed (mine.symm.trans theirs)
  · exact swapped (theirs.symm.trans mine)
  · exact thumbs (mine.symm.trans theirs)

theorem commit_id : (row.commit parent).id = row.id := by
  cases parent <;> rfl

theorem commit_keys : (row.commit parent).keys = row.keys := by
  cases parent <;> rfl

theorem commit_status : (row.commit parent).status = .committed := by
  cases parent <;> rfl

theorem commit_owner : (row.commit parent).ownerKind ≠ .generic := by
  cases parent <;> exact fun none => nomatch none

theorem commit_parents (free : row.parents = []) : (row.commit parent).parents = [parent] := by
  simp only [Attachment.parents, append_eq_nil_iff] at free
  obtain ⟨⟨⟨⟨defect, update⟩, announcement⟩, message⟩, version⟩ := free
  cases parent <;> simp [Attachment.parents, Attachment.commit, defect, update, announcement, message, version]

theorem RowOk.commit (ok : RowOk keys row) : RowOk keys (row.commit parent) := by
  refine ⟨?_, fun generic => absurd generic commit_owner, fun pending => ?_⟩
  · rw [commit_id, commit_keys]
    exact ok.keys
  · rw [commit_status] at pending
    cases pending

variable {userId : Id} {ids : List Id}

theorem free_iff :
    row.free userId ids = true ↔ row.id ∈ ids ∧ row.uploadedByUserId = some userId ∧ row.ownerKind = .generic := by
  unfold Attachment.free
  rw [decide_eq_true_eq]

theorem pendingFree_iff : row.pendingFree userId ids = true ↔ row.free userId ids = true ∧ row.status = .pending := by
  unfold Attachment.pendingFree
  rw [Bool.and_eq_true, decide_eq_true_eq]

end

structure Kept (keys : UploadKeys) (world : StorageWorld) : Prop where
  ids : Allocated (world.db.attachments.map Attachment.id) world.db.nextId
  rows : ∀ row ∈ world.db.attachments, RowOk keys row
  swept : ∀ flight ∈ world.flights, ∀ orphan ∈ flight.orphans, orphan.id < world.db.nextId ∧ KeysOf keys orphan.id orphan.keys ∧
    ∀ row ∈ world.db.attachments, row.id = orphan.id → row.status = .pending
  committed : ∀ parent id texts, .committed parent id texts ∈ world.notes → KeysOf keys id texts ∧
    (∃ row ∈ world.db.attachments, row.id = id ∧ row.status = .committed ∧ row.ownerKind ≠ .generic ∧ row.parents = [parent]) ∧
    ∀ key ∈ texts, key ∈ world.db.objects
  accepted : ∀ parent id, .accepted parent id ∈ world.notes → ∃ texts, .committed parent id texts ∈ world.notes

section

variable {keys : UploadKeys} {world : StorageWorld} {rest : List StorageFlight} {now : Instant}

theorem Kept.safe (kept : Kept keys world) : FilesSafe world := by
  refine ⟨fun parent id texts noted => ?_, fun parent id noted => ?_⟩
  · obtain ⟨-, ⟨row, stored, own, status, -, parents⟩, objects⟩ := kept.committed parent id texts noted
    exact ⟨row, stored, own, status, parents, objects⟩
  · obtain ⟨texts, committed⟩ := kept.accepted parent id noted
    obtain ⟨-, ⟨row, stored, own, -, -, parents⟩, -⟩ := kept.committed parent id texts committed
    exact ⟨row, stored, own, parents⟩

variable {id : Id} {flight : StorageFlight} {orphan : Orphan}

theorem Kept.not_swept (kept : Kept keys world) {parent : Parent} {texts : List String}
    (noted : .committed parent id texts ∈ world.notes) (mem : flight ∈ world.flights)
    (held : orphan ∈ flight.orphans) : orphan.id ≠ id := by
  intro same
  obtain ⟨-, ⟨row, stored, own, status, -⟩, -⟩ := kept.committed parent id texts noted
  have pending := (kept.swept flight mem orphan held).2.2 row stored (own.trans same.symm)
  exact nomatch pending.symm.trans status

theorem Kept.commit (kept : Kept keys world) (others : ∀ flight ∈ rest, flight ∈ world.flights) (db : StorageDb) (parent : Parent)
    (pick : Attachment → Bool) (accepted : List Id) (attachments : db.attachments = updateWhere pick (Attachment.commit parent) world.db.attachments)
    (grows : world.db.nextId ≤ db.nextId) (objects : db.objects = world.db.objects)
    (generic : ∀ row ∈ world.db.attachments, pick row → row.ownerKind = .generic)
    (unswept : ∀ row ∈ world.db.attachments, pick row → ¬ Swept world row.id)
    (taken : ∀ id ∈ accepted, ∃ row ∈ world.db.attachments, pick row ∧ row.id = id) :
    Kept keys (world.after rest ⟨db, [],
      accepted.map (StorageNote.accepted parent) ++ (world.db.attachments.filter pick).map (world.db.note parent)⟩) := by
  have rows {new : Attachment} (mem : new ∈ db.attachments) : ∃ old ∈ world.db.attachments,
      new = if pick old then old.commit parent else old := by
    rw [attachments] at mem
    obtain ⟨old, stored, same⟩ := mem_map.mp mem
    exact ⟨old, stored, same.symm⟩
  have image {old : Attachment} (stored : old ∈ world.db.attachments) :
      (if pick old then old.commit parent else old) ∈ db.attachments := by
    rw [attachments]
    exact mem_map_of_mem stored
  refine ⟨?_, fun new mem => ?_, fun flight mem orphan held => ?_, fun other id texts noted => ?_, fun other id noted => ?_⟩
  · show Allocated (db.attachments.map Attachment.id) db.nextId
    rw [attachments]
    exact kept.ids.updateWhere grows fun _ _ _ => commit_id
  · obtain ⟨old, stored, rfl⟩ := rows mem
    split
    · exact (kept.rows old stored).commit
    · exact kept.rows old stored
  · have listed := others flight ((mem_append.mp mem).resolve_right not_mem_nil)
    obtain ⟨below, own, pending⟩ := kept.swept flight listed orphan held
    refine ⟨below.trans_le grows, own, fun new mem same => ?_⟩
    obtain ⟨old, stored, rfl⟩ := rows mem
    by_cases taken : pick old = true
    · rw [if_pos taken, commit_id] at same
      exact absurd ⟨flight, listed, orphan, held, same.symm⟩ (unswept old stored taken)
    · rw [if_neg taken] at same ⊢
      exact pending old stored same
  · show KeysOf keys id texts ∧ (∃ row ∈ db.attachments, _) ∧ ∀ key ∈ texts, key ∈ db.objects
    rw [objects]
    rcases mem_append.mp noted with old | new
    · obtain ⟨own, ⟨row, stored, same, status, owner, parents⟩, present⟩ := kept.committed other id texts old
      have untouched : ¬ pick row = true := fun taken => owner (generic row stored taken)
      have stays := image stored
      rw [if_neg untouched] at stays
      exact ⟨own, ⟨row, stays, same, status, owner, parents⟩, present⟩
    · rcases mem_append.mp new with wrong | right
      · obtain ⟨_, -, wrong⟩ := mem_map.mp wrong
        cases wrong
      · obtain ⟨row, listed, told⟩ := mem_map.mp right
        obtain ⟨stored, taken⟩ := mem_filter.mp listed
        cases told
        have stays := image stored
        rw [if_pos taken] at stays
        have ok := kept.rows row stored
        refine ⟨fun key mem => ok.keys key (mem_filter.mp mem).1,
          ⟨_, stays, commit_id, commit_status, commit_owner, commit_parents (ok.free (generic row stored taken))⟩, fun key mem => ?_⟩
        exact of_decide_eq_true (mem_filter.mp mem).2
  · rcases mem_append.mp noted with old | new
    · obtain ⟨texts, committed⟩ := kept.accepted other id old
      exact ⟨texts, mem_append_left _ committed⟩
    · rcases mem_append.mp new with right | wrong
      · obtain ⟨_, listed, told⟩ := mem_map.mp right
        cases told
        obtain ⟨row, stored, pick, rfl⟩ := taken id listed
        refine ⟨_, mem_append_right _ (mem_append_right _ (mem_map.mpr ⟨row, ?_, rfl⟩))⟩
        exact mem_filter.mpr ⟨stored, pick⟩
      · obtain ⟨_, -, wrong⟩ := mem_map.mp wrong
        cases wrong

def Held (keys : UploadKeys) (db : StorageDb) (orphan : Orphan) : Prop :=
  orphan.id < db.nextId ∧ KeysOf keys orphan.id orphan.keys ∧ ∀ row ∈ db.attachments, row.id = orphan.id → row.status = .pending

variable {db : StorageDb} {flights : List StorageFlight}

theorem Kept.move (kept : Kept keys world) (others : ∀ flight ∈ rest, flight ∈ world.flights)
    (ids : Allocated (db.attachments.map Attachment.id) db.nextId) (rows : ∀ row ∈ db.attachments, RowOk keys row)
    (swept : ∀ orphan, Held keys world.db orphan → Held keys db orphan)
    (held : ∀ flight ∈ flights, ∀ orphan ∈ flight.orphans, Held keys db orphan)
    (stays : ∀ parent id texts, .committed parent id texts ∈ world.notes →
      (∀ row ∈ world.db.attachments, row.id = id → row ∈ db.attachments) ∧ ∀ key ∈ texts, key ∈ world.db.objects → key ∈ db.objects) :
    Kept keys (world.after rest ⟨db, flights, []⟩) := by
  have notes : (world.after rest ⟨db, flights, []⟩).notes = world.notes := append_nil _
  refine ⟨ids, rows, fun flight mem orphan inside => ?_, fun parent id texts noted => ?_, fun parent id noted => ?_⟩
  · rcases mem_append.mp mem with old | new
    · exact swept orphan (kept.swept flight (others flight old) orphan inside)
    · exact held flight new orphan inside
  · rw [notes] at noted
    obtain ⟨own, ⟨row, stored, same, facts⟩, present⟩ := kept.committed parent id texts noted
    obtain ⟨row_stays, object_stays⟩ := stays parent id texts noted
    exact ⟨own, ⟨row, row_stays row stored same, same, facts⟩, fun key mem => object_stays key mem (present key mem)⟩
  · rw [notes] at noted ⊢
    exact kept.accepted parent id noted

theorem Kept.go (kept : Kept keys world) (others : ∀ flight ∈ rest, flight ∈ world.flights)
    (attachments : db.attachments = world.db.attachments) (grows : world.db.nextId ≤ db.nextId)
    (objects : ∀ key ∈ world.db.objects, key ∈ db.objects)
    (held : ∀ flight ∈ flights, ∀ orphan ∈ flight.orphans, Held keys world.db orphan) :
    Kept keys (world.after rest ⟨db, flights, []⟩) := by
  have later (orphan : Orphan) (old : Held keys world.db orphan) : Held keys db orphan := by
    obtain ⟨below, own, pending⟩ := old
    exact ⟨below.trans_le grows, own, attachments ▸ pending⟩
  refine kept.move others ?_ ?_ later (fun flight mem orphan inside => later orphan (held flight mem orphan inside))
    fun _ _ _ _ => ⟨fun row stored _ => attachments ▸ stored, fun key _ present => objects key present⟩
  · rw [attachments]
    exact kept.ids.mono grows
  · rw [attachments]
    exact kept.rows

theorem Kept.create (kept : Kept keys world) {row : Attachment} {objects : List String} (own : row.id = world.db.nextId)
    (ok : RowOk keys row) : Kept keys (world.after world.flights (.ended (world.db.create row objects))) := by
  refine kept.move (fun _ mem => mem) (kept.ids.insert own (Nat.lt_succ_self _)) (fun other mem => ?_)
    (fun orphan ⟨below, mine, pending⟩ => ⟨below.trans (Nat.lt_succ_self _), mine, fun other mem same => ?_⟩)
    (fun _ none => nomatch none)
    fun _ _ _ _ => ⟨fun other stored _ => mem_append_left _ stored, fun key _ present => mem_append_left _ present⟩
  · rcases mem_append.mp mem with old | new
    · exact kept.rows other old
    · obtain rfl := mem_singleton.mp new
      exact ok
  · rcases mem_append.mp mem with old | new
    · exact pending other old same
    · obtain rfl := mem_singleton.mp new
      exact absurd below (same ▸ own ▸ Nat.lt_irrefl _)

variable {userId : Id} {file : UploadedFile}

theorem uploadRow_ok : RowOk keys (uploadRow keys now userId file id) := by
  refine ⟨fun key mem => ?_, fun _ => rfl, fun _ => rfl⟩
  rcases mem_cons.mp mem with rfl | thumb
  · exact .inl rfl
  · simp only [uploadRow, Option.mem_toList] at thumb
    split at thumb
    · exact .inr (Option.some.inj thumb).symm
    · cases thumb

theorem presignRow_ok : RowOk keys (presignRow keys now userId file id) := by
  have upload : RowOk keys (uploadRow keys now userId { file with thumbnail := false } id) := uploadRow_ok
  exact ⟨upload.keys, fun _ => rfl, fun pending => nomatch pending⟩

theorem findOrphans_held (kept : Kept keys world) {order : Attachment → Attachment → Bool}
    (found : orphan ∈ findOrphans now order world.db) : Held keys world.db orphan := by
  obtain ⟨row, taken, rfl⟩ := mem_map.mp found
  obtain ⟨stored, old⟩ := mem_filter.mp (mem_mergeSort.mp (mem_of_mem_take taken))
  refine ⟨kept.ids.below _ (mem_map_of_mem stored), (kept.rows row stored).keys, fun other mem same => ?_⟩
  obtain rfl := eq_of_key_eq kept.ids.distinct mem stored same
  exact (of_decide_eq_true old).1

variable {orphans : List Orphan}

section

variable (kept : Kept keys world)
include kept

theorem Kept.remove (others : ∀ flight ∈ rest, flight ∈ world.flights) {removes : Bool}
    (listed : .removing orphans removes ∈ world.flights) :
    Kept keys (world.after rest (proceedStorage now (.removing orphans removes) world.db)) := by
  have tables : (removeMany orphans removes world.db).toDocumentsDb = world.db.toDocumentsDb := by
    unfold removeMany
    split <;> rfl
  have held (orphan : Orphan) : Held keys world.db orphan → Held keys (removeMany orphans removes world.db) orphan := by
    unfold Held
    rw [tables]
    exact id
  refine kept.move others ?_ ?_ held (fun flight mem orphan inside => ?_) fun parent id texts noted =>
    ⟨fun row stored _ => ?_, fun key mem present => ?_⟩
  · rw [tables]
    exact kept.ids
  · rw [tables]
    exact kept.rows
  · obtain rfl := mem_singleton.mp mem
    exact held orphan (kept.swept _ listed orphan inside)
  · rw [tables]
    exact stored
  · have own := (kept.committed parent id texts noted).1 key mem
    have foreign : key ∉ orphans.flatMap Orphan.keys := by
      intro removed
      obtain ⟨orphan, inside, texts⟩ := mem_flatMap.mp removed
      exact (kept.swept _ listed orphan inside).2.1.apart (kept.not_swept noted listed inside) own texts
    unfold removeMany
    split
    · exact mem_filter.mpr ⟨present, decide_eq_true foreign⟩
    · exact present

theorem Kept.delete (others : ∀ flight ∈ rest, flight ∈ world.flights) (listed : .deleting orphans ∈ world.flights) :
    Kept keys (world.after rest (proceedStorage now (.deleting orphans) world.db)) := by
  refine kept.move others (kept.ids.sublist (filter_sublist.map _)) (fun row mem => kept.rows row (mem_filter.mp mem).1)
    (fun orphan ⟨below, own, pending⟩ => ⟨below, own, fun row mem => pending row (mem_filter.mp mem).1⟩)
    (fun _ none => nomatch none) fun parent id texts noted => ⟨fun row stored same => ?_, fun key _ present => present⟩
  refine mem_filter.mpr ⟨stored, decide_eq_true fun gone => ?_⟩
  obtain ⟨orphan, inside, own⟩ := mem_map.mp gone
  exact kept.not_swept noted listed inside (own.trans same)

theorem Kept.commitFree (others : ∀ flight ∈ rest, flight ∈ world.flights) {parent : Parent}
    {attachmentIds : List Id} (attachments : db.attachments = world.db.attachments)
    (grows : world.db.nextId ≤ db.nextId) (objects : db.objects = world.db.objects)
    (unswept : ∀ row ∈ world.db.attachments, row.free userId attachmentIds → ¬ Swept world row.id) :
    Kept keys (world.after rest ⟨db.commitWhere parent (Attachment.free userId attachmentIds), [],
      world.db.notesFree parent userId attachmentIds⟩) := by
  have notes : world.db.notesFree parent userId attachmentIds =
      ((world.db.attachments.filter (Attachment.pendingFree userId attachmentIds)).map Attachment.id).map (StorageNote.accepted parent) ++
        (world.db.attachments.filter (Attachment.free userId attachmentIds)).map (world.db.note parent) := by
    rw [map_map]
    rfl
  rw [notes]
  refine kept.commit others (db.commitWhere parent (Attachment.free userId attachmentIds)) parent _ _ ?_ grows objects (fun row _ pick => (free_iff.mp pick).2.2) unswept fun id mem => ?_
  · show updateWhere _ _ db.attachments = _
    rw [attachments]
  · obtain ⟨row, listed, rfl⟩ := mem_map.mp mem
    obtain ⟨stored, pick⟩ := mem_filter.mp listed
    exact ⟨row, stored, (pendingFree_iff.mp pick).1, rfl⟩

theorem begin_kept {request : StorageRequest} (undisturbed : Undisturbed world (.begin now request)) :
    Kept keys (world.after world.flights (beginStorage keys now request world.db)) := by
  have stay {flights : List StorageFlight} (plain : ∀ flight ∈ flights, flight.orphans = []) :
      Kept keys (world.after world.flights ⟨world.db, flights, []⟩) := by
    refine kept.go (fun _ mem => mem) rfl (le_refl _) (fun _ present => present) fun flight mem orphan inside => ?_
    rw [plain flight mem] at inside
    exact absurd inside not_mem_nil
  cases request with
  | upload userId file => exact kept.create rfl uploadRow_ok
  | presign userId file => exact kept.create rfl presignRow_ok
  | clientPut id =>
    exact kept.go (fun _ mem => mem) rfl (le_refl _) (fun _ present => mem_append_left _ present) fun _ none => nomatch none
  | commit kind userId attachmentIds => exact kept.commitFree (fun _ mem => mem) rfl (Nat.le_succ _) rfl undisturbed
  | createDefect userId attachmentIds =>
    refine kept.go (fun _ mem => mem) rfl (Nat.le_succ _) (fun _ present => present) fun flight mem orphan inside => ?_
    obtain rfl := mem_singleton.mp mem
    exact absurd inside not_mem_nil
  | createAnnouncement userId attachmentIds =>
    dsimp only [beginStorage]
    cases validateAttachments userId attachmentIds world.db.attachments with
    | error failure => exact stay fun _ none => nomatch none
    | ok checked => exact stay (forall_mem_singleton.mpr rfl)
  | publishVersion actor documentId dto =>
    dsimp only [beginStorage]
    cases checkPublish actor documentId dto world.db.toDocumentsDb with
    | error failure => exact stay fun _ none => nomatch none
    | ok checked => exact stay (forall_mem_singleton.mpr rfl)
  | sweep order removes =>
    dsimp only [beginStorage]
    cases found : findOrphans now order world.db with
    | nil => exact stay fun _ none => nomatch none
    | cons orphan orphans =>
      refine kept.go (fun _ mem => mem) rfl (le_refl _) (fun _ present => present) fun flight mem other inside => ?_
      obtain rfl := mem_singleton.mp mem
      exact findOrphans_held kept (found ▸ inside)

theorem proceed_kept (others : ∀ flight ∈ rest, flight ∈ world.flights) {place : Nat}
    (found : world.flights[place]? = some flight) (undisturbed : Undisturbed world (.proceed now place)) :
    Kept keys (world.after rest (proceedStorage now flight world.db)) := by
  have own := undisturbed flight found
  have listed := mem_of_getElem? found
  cases flight with
  | linking defectId userId attachmentIds => exact kept.commitFree others rfl (le_refl _) rfl own
  | announcing userId attachmentIds =>
    refine kept.commit others
      (world.db.drawn.commitWhere (.announcement world.db.nextId) (Attachment.pendingFree userId attachmentIds))
      (.announcement world.db.nextId) _ attachmentIds rfl (Nat.le_succ _) rfl (fun row _ pick => (free_iff.mp (pendingFree_iff.mp pick).1).2.2)
      (fun row _ pick => (own row.id (free_iff.mp (pendingFree_iff.mp pick).1).1).2) fun id mem => ?_
    obtain ⟨⟨row, stored, same, pick⟩, -⟩ := own id mem
    exact ⟨row, stored, pick, same⟩
  | numbering actor dto doc attachment =>
    refine kept.go others rfl (le_refl _) (fun _ present => present) fun flight mem orphan inside => ?_
    obtain rfl := mem_singleton.mp mem
    exact absurd inside not_mem_nil
  | publishing actor dto plan =>
    dsimp only [proceedStorage]
    cases written : writePublish now actor dto plan world.db.toDocumentsDb with
    | error failure =>
      exact kept.go others rfl (le_refl _) (fun _ present => present) fun _ none => nomatch none
    | ok after =>
      unfold writePublish at written
      simp only [bind_eq_ok, throwIf_eq_ok, orThrow_eq_ok, pure_eq_ok] at written
      obtain ⟨_, unnumbered, row, row_found, rfl⟩ := written
      obtain ⟨stored, same⟩ := mem_of_findBy row_found
      have unused : ∀ version ∈ world.db.versions, version.documentId = plan.doc.id → version.versionNumber ≠ plan.versionNumber :=
        fun version mem document number => unnumbered ⟨version, mem, document, number⟩
      have pending (other : Attachment) (inside : other ∈ world.db.attachments) (pick : decide (other.id = plan.attachment.id) = true) :
          other.status = .pending ∧ ¬ Swept world other.id := own unused other inside (of_decide_eq_true pick)
      refine kept.commit others ⟨_, world.db.objects⟩ (.documentVersion world.db.nextId)
        (fun row => decide (row.id = plan.attachment.id)) [plan.attachment.id] rfl (Nat.le_succ _) rfl
        (fun other inside pick => (kept.rows other inside).pending (pending other inside pick).1)
        (fun other inside pick => (pending other inside pick).2) fun id mem => ?_
      obtain rfl := mem_singleton.mp mem
      exact ⟨row, stored, decide_eq_true same, same⟩
  | removing orphans removes => exact kept.remove others listed
  | deleting orphans => exact kept.delete others listed

end

end

section

variable {keys : UploadKeys} {initial : StorageDb} {events : List (CallEvent Instant StorageRequest)} {finish : StorageWorld}

theorem kept_idle (empty : initial.attachments = []) : Kept keys (World.idle initial) := by
  refine ⟨?_, fun row mem => ?_, (fun _ none => nomatch none), (fun _ _ _ none => nomatch none), fun _ _ none => nomatch none⟩
  · show Allocated (initial.attachments.map Attachment.id) initial.nextId
    rw [empty]
    exact .nil
  · change row ∈ initial.attachments at mem
    rw [empty] at mem
    exact absurd mem not_mem_nil

/-- While nobody commits what a sweep has found, a committed file keeps its row, its objects and its one record. -/
theorem committed_files_stay (empty : initial.attachments = [])
    (run : Run (Guarded Undisturbed (storageService keys).Step) (World.idle initial) events finish) : FilesSafe finish := by
  have begins (world : StorageWorld) (now : Instant) (request : StorageRequest) (kept : Kept keys world)
      (undisturbed : Undisturbed world (.begin now request)) :
      Kept keys (world.after world.flights ((storageService keys).begin now request world.db)) := begin_kept kept undisturbed
  have proceeds (world : StorageWorld) (now : Instant) (place : Nat) (flight : StorageFlight) (rest : List StorageFlight)
      (kept : Kept keys world) (undisturbed : Undisturbed world (.proceed now place)) (found : world.flights[place]? = some flight)
      (parts : world.flights.Perm (flight :: rest)) :
      Kept keys (world.after rest ((storageService keys).proceed now flight world.db)) :=
    proceed_kept kept (fun _ member => parts.mem_iff.mpr (List.mem_cons_of_mem _ member)) found undisturbed
  exact (Service.good_run begins proceeds (kept_idle empty) run).safe

end

namespace Sample

def marks (id : Id) : List Char := List.replicate id '1'

theorem marks_inj {id other : Id} (same : marks id = marks other) : id = other := by
  simpa [marks] using congrArg List.length same

def drawnKeys : UploadKeys where
  full id := String.ofList ('m' :: marks id)
  thumb id := String.ofList ('t' :: marks id)
  apart id other ne := by
    simp only [ne_eq, String.ofList_inj, List.cons.injEq, Char.reduceEq, true_and, false_and, not_false_eq_true, true_and]
    exact ⟨fun same => ne (marks_inj same), fun same => ne (marks_inj same)⟩

def emptyBucket : StorageDb := { nextId := 1, folders := [], documents := [], versions := [], attachments := [], objects := [] }

def photo : UploadedFile := ⟨"image/jpeg", 100, some "leak.jpg", false⟩

def sentWhileSwept : List (CallEvent Instant StorageRequest) :=
  [.begin 0 (.upload 7 photo), .begin 86400001 (.sweep (fun _ _ => true) true), .begin 86400002 (.commit .message 7 [1]),
    .proceed 86400003 0, .proceed 86400004 0]

def sent : List (CallEvent Instant StorageRequest) := [.begin 0 (.upload 7 photo), .begin 1 (.commit .message 7 [1])]

end Sample

theorem sent_photo_lost : ∃ keys initial events finish, initial.attachments = [] ∧
    Run (storageService keys).Step (World.idle initial) events finish ∧ ¬ FilesSafe finish := by
  have rows : ((World.idle Sample.emptyBucket).run (storageService Sample.drawnKeys) Sample.sentWhileSwept).db.attachments = [] := by
    decide +kernel
  have noted : StorageNote.accepted (.threadMessage 2) 1 ∈
      ((World.idle Sample.emptyBucket).run (storageService Sample.drawnKeys) Sample.sentWhileSwept).notes := by decide +kernel
  refine ⟨Sample.drawnKeys, Sample.emptyBucket, _, _, rfl, Service.run_reached _ _ Sample.sentWhileSwept, fun safe => ?_⟩
  obtain ⟨row, stored, -⟩ := safe.accepted _ _ noted
  rw [rows] at stored
  cases stored

theorem sent_photo_stays : ∃ finish : StorageWorld, finish.notes = [.accepted (.threadMessage 2) 1,
    .committed (.threadMessage 2) 1 ["m1"]] ∧ FilesSafe finish := by
  have notes : ((World.idle Sample.emptyBucket).run (storageService Sample.drawnKeys) Sample.sent).notes =
      [.accepted (.threadMessage 2) 1, .committed (.threadMessage 2) 1 ["m1"]] := by decide +kernel
  have meets : Run.Meets Undisturbed (fun world event => world.next (storageService Sample.drawnKeys) event)
      (World.idle Sample.emptyBucket) Sample.sent := by
    refine ⟨trivial, fun row member free swept => ?_, trivial⟩
    obtain ⟨flight, listed, -⟩ := swept
    cases listed
  exact ⟨_, notes, committed_files_stay rfl (Service.guarded_reached meets)⟩

end SmartResidence.Storage
