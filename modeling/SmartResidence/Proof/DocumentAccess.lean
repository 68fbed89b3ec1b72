import SmartResidence.Documents.DocumentsService

/-!
# Who opens a document

The list asks that the folder be active. What goes by id asks for its audience only.
-/

namespace SmartResidence.Documents

open Foundation Billing Storage List

section

variable (collate : String → String → Bool) (presign : String → Nat → String) (db : DocumentsDb) (actor : AuthenticatedUser)
  (doc : Document)

def Listed : Prop := ∃ opts page, listDocuments collate actor doc.condoId opts db = .ok page ∧ doc ∈ page.items

structure OneRule : Prop where
  opens : (∃ row, getDocument actor doc.id db = .ok row) ↔ Listed collate db actor doc
  versions : (∃ rows, listVersions actor doc.id db = .ok rows) ↔ Listed collate db actor doc
  downloads : ∀ version ∈ db.versions, version.documentId = doc.id →
    ((∃ download, getDownloadUrl presign actor version.id db = .ok download) ↔ Listed collate db actor doc)

end

def OneRuleForAll (collate : String → String → Bool) (presign : String → Nat → String) (db : DocumentsDb) : Prop :=
  ∀ actor, ∀ doc ∈ db.documents, isManagement actor doc.condoId = false → OneRule collate presign db actor doc

def DocumentFolder.Exposed (folder : DocumentFolder) : Prop := folder.active = false ∧ folder.audience ≠ .management

def Harmless (db : DocumentsDb) : Instant × DocumentCall → Prop
  | (_, .updateFolder _ id dto) => ∀ folder ∈ db.folders, folder.id = id → (dto.change folder).Exposed →
      ∀ doc ∈ db.documents, doc.folderId = id → doc.active = false
  | (_, .deleteFolder _ id) => ∀ folder ∈ db.folders, folder.id = id → folder.audience ≠ .management →
      ∀ doc ∈ db.documents, doc.folderId = id → doc.active = false
  | (_, .updateDocument _ id dto) => ∀ doc ∈ db.documents, doc.id = id → (dto.change doc).active = true →
      ∀ folder ∈ db.folders, folder.id = (dto.change doc).folderId → ¬ folder.Exposed
  | _ => True

/-! ## The tables -/

structure Filed (db : DocumentsDb) : Prop where
  folders : Allocated (db.folders.map DocumentFolder.id) db.nextId
  documents : Allocated (db.documents.map Document.id) db.nextId
  versions : Allocated (db.versions.map DocumentVersion.id) db.nextId
  placed : ∀ doc ∈ db.documents, ∃ folder ∈ db.folders, folder.id = doc.folderId
  owned : ∀ version ∈ db.versions, ∃ doc ∈ db.documents, doc.id = version.documentId

def Kept (db : DocumentsDb) : Prop :=
  ∀ doc ∈ db.documents, doc.active = true → ∀ folder ∈ db.folders, folder.id = doc.folderId → ¬ folder.Exposed

def Member (actor : AuthenticatedUser) (condoId : Id) : Prop := ∃ r ∈ actor.roles, r.roleId = .superAdmin ∨ r.condoId = some condoId

section

variable {collate : String → String → Bool} {presign : String → Nat → String} {db : DocumentsDb} {actor : AuthenticatedUser}
  {doc : Document} {folder : DocumentFolder} {condoId : Id} {audience : DocumentFolderAudience}

theorem access_iff {done : Unit} : assertCondoAccess actor condoId = .ok done ↔ Member actor condoId := by
  unfold assertCondoAccess Member
  rw [throwIf_eq_ok, not_not, any_eq_true]
  simp

theorem canRead_iff (resident : isManagement actor condoId = false) {done : Unit} :
    assertCanReadFolder actor condoId audience = .ok done ↔ Member actor condoId ∧ audience ∈ visibleAudiences actor condoId := by
  unfold assertCanReadFolder
  simp only [bind_eq_ok, access_iff, resident, Bool.false_eq_true, if_false, throwIf_eq_ok, not_not, exists_const]

theorem visible_not_management (resident : isManagement actor condoId = false) (visible : audience ∈ visibleAudiences actor condoId) :
    audience ≠ .management := by
  unfold visibleAudiences at visible
  rw [resident, if_neg Bool.false_ne_true] at visible
  rintro rfl
  split at visible <;> simp at visible

variable (filed : Filed db) (member : doc ∈ db.documents) (stored : folder ∈ db.folders) (own : folder.id = doc.folderId)
  (resident : isManagement actor doc.condoId = false)

include filed stored own

theorem folderOf_eq : db.folderOf doc = .ok folder := by
  unfold DocumentsDb.folderOf DocumentsDb.folder?
  rw [← own, findBy_of_mem filed.folders.distinct stored]
  rfl

include member resident

theorem getDocument_iff {row : Document} : getDocument actor doc.id db = .ok row ↔
    row = doc ∧ doc.active = true ∧ Member actor doc.condoId ∧ folder.audience ∈ visibleAudiences actor doc.condoId := by
  have found : db.document? doc.id = some doc := findBy_of_mem filed.documents.distinct member
  have placed := folderOf_eq filed stored own
  unfold getDocument assertActive
  simp only [found, bind_eq_ok, orThrow_eq_ok, throwIf_eq_ok, pure_eq_ok, Option.some.injEq, exists_eq_left', exists_const, resident,
    Bool.false_eq_true, not_false_eq_true, and_true, not_not, placed, Except.ok.injEq, canRead_iff resident]
  constructor
  · rintro ⟨active, ⟨access, audience⟩, same⟩
    exact ⟨same.symm, active, access, audience⟩
  · rintro ⟨same, active, access, audience⟩
    exact ⟨active, ⟨access, audience⟩, same.symm⟩

theorem listVersions_iff : (∃ rows, listVersions actor doc.id db = .ok rows) ↔
    doc.active = true ∧ Member actor doc.condoId ∧ folder.audience ∈ visibleAudiences actor doc.condoId := by
  unfold listVersions
  simp only [bind_eq_ok, getDocument_iff filed member stored own resident]
  constructor
  · rintro ⟨_, _, ⟨-, opens⟩, -⟩
    exact opens
  · intro opens
    exact ⟨_, doc, ⟨rfl, opens⟩, rfl⟩

theorem getDownloadUrl_iff {version : DocumentVersion} (known : version ∈ db.versions) (about : version.documentId = doc.id) :
    (∃ download, getDownloadUrl presign actor version.id db = .ok download) ↔
      doc.active = true ∧ Member actor doc.condoId ∧ folder.audience ∈ visibleAudiences actor doc.condoId := by
  have row : db.version? version.id = some version := findBy_of_mem filed.versions.distinct known
  have found : db.document? version.documentId = some doc := about ▸ findBy_of_mem filed.documents.distinct member
  have placed := folderOf_eq filed stored own
  unfold getDownloadUrl assertActive
  simp only [row, found, bind_eq_ok, orThrow_eq_ok, throwIf_eq_ok, pure_eq_ok, Option.some.injEq, exists_eq_left', exists_const,
    resident, Bool.false_eq_true, not_false_eq_true, and_true, not_not, placed, Except.ok.injEq, canRead_iff resident, exists_and_left,
    exists_eq']

theorem listed_iff : Listed collate db actor doc ↔ doc.active = true ∧ Member actor doc.condoId ∧
    folder.audience ∈ visibleAudiences actor doc.condoId ∧ folder.active = true := by
  have placed : db.folder? doc.folderId = some folder := own ▸ findBy_of_mem filed.folders.distinct stored
  unfold Listed listDocuments
  simp only [bind_eq_ok, access_iff, pure_eq_ok, exists_const]
  constructor
  · rintro ⟨opts, page, ⟨access, rfl⟩, shown⟩
    have selected := mem_mergeSort.mp (mem_of_mem_drop (mem_of_mem_take shown))
    have asked := (mem_filter.mp selected).2
    simp only [documentWhere, resident, Bool.false_or, placed, Option.any_some, Bool.and_eq_true,
      decide_eq_true_eq] at asked
    exact ⟨asked.1.2, access, asked.2⟩
  · rintro ⟨active, access, audience, mem⟩
    have asked : documentWhere actor doc.condoId ⟨none, false, db.documents.length, 0⟩ db doc = true := by
      simp [documentWhere, placed, active, audience, mem]
    refine ⟨⟨none, false, db.documents.length, 0⟩, _, ⟨access, rfl⟩, ?_⟩
    rw [drop_zero, take_of_length_le]
    · exact mem_mergeSort.mpr (mem_filter.mpr ⟨member, asked⟩)
    · rw [length_mergeSort]
      exact length_filter_le _ _

end

theorem oneRule_of_guarded {collate : String → String → Bool} {presign : String → Nat → String} {db : DocumentsDb} (filed : Filed db)
    (kept : Kept db) : OneRuleForAll collate presign db := by
  intro actor doc member resident
  obtain ⟨folder, stored, own⟩ := filed.placed doc member
  have mem : Listed collate db actor doc ↔
      doc.active = true ∧ Member actor doc.condoId ∧ folder.audience ∈ visibleAudiences actor doc.condoId := by
    rw [listed_iff filed member stored own resident]
    constructor
    · exact fun ⟨active, access, audience, _⟩ => ⟨active, access, audience⟩
    · rintro ⟨active, access, audience⟩
      refine ⟨active, access, audience, ?_⟩
      by_contra inactive
      exact kept doc member active folder stored own ⟨Bool.eq_false_iff.mpr inactive, visible_not_management resident audience⟩
  refine ⟨?_, (listVersions_iff filed member stored own resident).trans mem.symm,
    fun version known about => (getDownloadUrl_iff filed member stored own resident known about).trans mem.symm⟩
  rw [mem]
  simp only [getDocument_iff filed member stored own resident]
  exact ⟨fun ⟨_, _, opens⟩ => opens, fun opens => ⟨doc, rfl, opens⟩⟩

/-! ## The calls -/

section

variable {db after : DocumentsDb} {actor : AuthenticatedUser} {now : Instant} {id : Id}

structure Good (db : DocumentsDb) : Prop where
  filed : Filed db
  kept : Kept db

section

variable (good : Good db)
include good

theorem createFolder_good {dto : CreateDocumentFolderDto} (created : createFolder actor dto db = .ok after) :
    Good after := by
  obtain ⟨filed, kept⟩ := good
  unfold createFolder at created
  simp only [bind_eq_ok, pure_eq_ok] at created
  obtain ⟨_, -, rfl⟩ := created
  refine ⟨⟨filed.folders.insert rfl (Nat.lt_succ_self _), filed.documents.mono (Nat.le_succ _), filed.versions.mono (Nat.le_succ _),
    fun doc member => ?_, filed.owned⟩, fun doc member active folder stored own => ?_⟩
  · obtain ⟨folder, stored, own⟩ := filed.placed doc member
    exact ⟨folder, mem_append_left _ stored, own⟩
  · rcases mem_append.mp stored with old | new
    · exact kept doc member active folder old own
    · obtain rfl := mem_singleton.mp new
      exact fun exposed => by cases exposed.1

theorem writeFolder_good {change : DocumentFolder → DocumentFolder} (named : ∀ folder, (change folder).id = folder.id)
    (harmless : ∀ folder ∈ db.folders, folder.id = id → (change folder).Exposed →
      ∀ doc ∈ db.documents, doc.folderId = id → doc.active = false) : Good (db.writeFolder id change) := by
  obtain ⟨filed, kept⟩ := good
  refine ⟨⟨filed.folders.updateBy (le_refl _) named, filed.documents, filed.versions, fun doc member => ?_, filed.owned⟩,
    fun doc member active folder stored own exposed => ?_⟩
  · obtain ⟨folder, stored, own⟩ := filed.placed doc member
    refine ⟨_, mem_updateBy.mpr ⟨folder, stored, rfl⟩, ?_⟩
    split
    · exact (named folder).trans own
    · exact own
  · obtain ⟨old, mem, rfl⟩ := mem_updateBy.mp stored
    by_cases pick : old.id = id
    · rw [if_pos pick] at exposed own
      have inside : doc.folderId = id := own.symm.trans ((named old).trans pick)
      exact absurd active (Bool.eq_false_iff.mp (harmless old mem pick exposed doc member inside))
    · rw [if_neg pick] at exposed own
      exact kept doc member active old mem own exposed

theorem updateFolder_good {dto : UpdateDocumentFolderDto} (harmless : Harmless db (now, .updateFolder actor id dto))
    (updated : updateFolder actor id dto db = .ok after) : Good after := by
  unfold updateFolder at updated
  simp only [bind_eq_ok, pure_eq_ok] at updated
  obtain ⟨_, -, _, -, rfl⟩ := updated
  exact writeFolder_good good (fun _ => rfl) harmless

theorem deleteFolder_good (harmless : Harmless db (now, .deleteFolder actor id))
    (deleted : deleteFolder actor id db = .ok after) : Good after := by
  unfold deleteFolder at deleted
  simp only [bind_eq_ok] at deleted
  obtain ⟨_, -, _, -, written⟩ := deleted
  split at written
  · cases written
    exact writeFolder_good good (fun _ => rfl) fun folder stored own exposed => harmless folder stored own exposed.2
  · rename_i empty
    cases written
    obtain ⟨filed, kept⟩ := good
    refine ⟨⟨filed.folders.sublist (filter_sublist.map _), filed.documents, filed.versions, fun doc member => ?_, filed.owned⟩,
      fun doc member active folder stored own => kept doc member active folder (mem_filter.mp stored).1 own⟩
    obtain ⟨folder, stored, own⟩ := filed.placed doc member
    refine ⟨folder, mem_filter.mpr ⟨stored, decide_eq_true fun same => ?_⟩, own⟩
    exact empty ⟨doc, member, own.symm.trans same⟩

theorem createDocument_good {dto : CreateDocumentDto} (created : createDocument now actor dto db = .ok after) :
    Good after := by
  obtain ⟨filed, kept⟩ := good
  unfold createDocument at created
  simp only [bind_eq_ok, orThrow_eq_ok, pure_eq_ok] at created
  obtain ⟨folder, found, _, -, rfl⟩ := created
  obtain ⟨row, active⟩ := Option.filter_eq_some_iff.mp found
  obtain ⟨stored, own⟩ := mem_of_findBy row
  refine ⟨⟨filed.folders.mono (Nat.le_succ _), filed.documents.insert rfl (Nat.lt_succ_self _), filed.versions.mono (Nat.le_succ _),
    fun doc member => ?_, fun version known => ?_⟩, fun doc member live other mem inside exposed => ?_⟩
  · rcases mem_append.mp member with old | new
    · exact filed.placed doc old
    · obtain rfl := mem_singleton.mp new
      exact ⟨folder, stored, rfl⟩
  · obtain ⟨doc, member, about⟩ := filed.owned version known
    exact ⟨doc, mem_append_left _ member, about⟩
  · rcases mem_append.mp member with old | new
    · exact kept doc old live other mem inside exposed
    · obtain rfl := mem_singleton.mp new
      obtain rfl := eq_of_key_eq filed.folders.distinct mem stored inside
      cases exposed.1.symm.trans active

theorem writeDocument_good {change : Document → Document} (named : ∀ doc, (change doc).id = doc.id)
    (placed : ∀ doc ∈ db.documents, doc.id = id → ∃ folder ∈ db.folders, folder.id = (change doc).folderId)
    (harmless : ∀ doc ∈ db.documents, doc.id = id → (change doc).active = true →
      ∀ folder ∈ db.folders, folder.id = (change doc).folderId → ¬ folder.Exposed) : Good (db.writeDocument id change) := by
  obtain ⟨filed, kept⟩ := good
  refine ⟨⟨filed.folders, filed.documents.updateBy (le_refl _) named, filed.versions, fun doc member => ?_, fun version known => ?_⟩,
    fun doc member active folder stored own => ?_⟩
  · obtain ⟨old, mem, rfl⟩ := mem_updateBy.mp member
    split
    · rename_i pick
      exact placed old mem pick
    · exact filed.placed old mem
  · obtain ⟨doc, member, about⟩ := filed.owned version known
    refine ⟨_, mem_updateBy.mpr ⟨doc, member, rfl⟩, ?_⟩
    split
    · exact (named doc).trans about
    · exact about
  · obtain ⟨old, mem, rfl⟩ := mem_updateBy.mp member
    by_cases pick : old.id = id
    · rw [if_pos pick] at active own
      exact harmless old mem pick active folder stored own
    · rw [if_neg pick] at active own
      exact kept old mem active folder stored own

theorem updateDocument_good {dto : UpdateDocumentDto} (harmless : Harmless db (now, .updateDocument actor id dto))
    (updated : updateDocument actor id dto db = .ok after) : Good after := by
  have moved (checked : ∀ folderId, dto.folderId = some folderId → ∃ folder ∈ db.folders, folder.id = folderId) :
      Good (db.writeDocument id dto.change) := by
    refine writeDocument_good good (fun _ => rfl) (fun doc member own => ?_) harmless
    show ∃ folder ∈ db.folders, folder.id = dto.folderId.getD doc.folderId
    cases target : dto.folderId with
    | none => exact good.filed.placed doc member
    | some folderId => exact checked folderId target
  unfold updateDocument at updated
  cases target : dto.folderId with
  | none =>
    simp only [target, bind_eq_ok, pure_eq_ok] at updated
    obtain ⟨_, -, _, -, rfl⟩ := updated
    exact moved fun folderId given => by cases target.symm.trans given
  | some folderId =>
    simp only [target, checkMove, bind_eq_ok, orThrow_eq_ok, pure_eq_ok] at updated
    obtain ⟨_, -, _, -, _, ⟨folder, found, -⟩, rfl⟩ := updated
    obtain ⟨stored, own⟩ := mem_of_findBy (Option.filter_eq_some_iff.mp found).1
    refine moved fun other given => ?_
    obtain rfl := Option.some.inj (target.symm.trans given)
    exact ⟨folder, stored, own⟩

theorem deleteDocument_good (deleted : deleteDocument actor id db = .ok after) : Good after := by
  unfold deleteDocument at deleted
  simp only [bind_eq_ok, pure_eq_ok] at deleted
  obtain ⟨_, -, _, -, rfl⟩ := deleted
  exact writeDocument_good good (fun _ => rfl) (fun doc member _ => good.filed.placed doc member) fun _ _ _ active => by cases active

theorem publishVersion_good {dto : PublishDocumentVersionDto}
    (published : publishVersion now actor id dto db = .ok after) : Good after := by
  obtain ⟨filed, kept⟩ := good
  obtain ⟨⟨doc, attachment⟩, read, written⟩ := bind_eq_ok.mp published
  have stored : doc ∈ db.documents := by
    unfold checkPublish at read
    simp only [bind_eq_ok, orThrow_eq_ok] at read
    obtain ⟨row, found, _, -, _, -, _, -, _, -, _, -, rfl, -⟩ := read
    exact (mem_of_findBy (Option.filter_eq_some_iff.mp found).1).1
  unfold writePublish at written
  simp only [bind_eq_ok, pure_eq_ok] at written
  obtain ⟨_, -, _, -, rfl⟩ := written
  have same (row : Document) : (if row.id = doc.id then { row with currentVersionId := some db.nextId } else row).id = row.id := by
    split <;> rfl
  refine ⟨⟨filed.folders.mono (Nat.le_succ _), filed.documents.updateBy (Nat.le_succ _) fun _ => rfl,
    filed.versions.insert rfl (Nat.lt_succ_self _), fun row member => ?_, fun version known => ?_⟩,
    fun row member active folder stored own => ?_⟩
  · obtain ⟨old, mem, rfl⟩ := mem_updateBy.mp member
    obtain ⟨folder, stored, own⟩ := filed.placed old mem
    refine ⟨folder, stored, own.trans ?_⟩
    split <;> rfl
  · have owner : ∃ row ∈ db.documents, row.id = version.documentId := by
      rcases mem_append.mp known with old | new
      · exact filed.owned version old
      · obtain rfl := mem_singleton.mp new
        exact ⟨doc, stored, rfl⟩
    obtain ⟨row, mem, about⟩ := owner
    exact ⟨_, mem_updateBy.mpr ⟨row, mem, rfl⟩, (same row).trans about⟩
  · obtain ⟨old, mem, rfl⟩ := mem_updateBy.mp member
    split at active
    · rename_i pick
      rw [if_pos pick] at own
      exact kept old mem active folder stored own
    · rename_i other
      rw [if_neg other] at own
      exact kept old mem active folder stored own

theorem call_good {call : DocumentCall} (harmless : Harmless db (now, call)) (ran : runCall now db call = .ok after) :
    Good after := by
  cases call with
  | createFolder actor dto => exact createFolder_good good ran
  | updateFolder actor id dto => exact updateFolder_good good harmless ran
  | deleteFolder actor id => exact deleteFolder_good good harmless ran
  | createDocument actor dto => exact createDocument_good good ran
  | updateDocument actor id dto => exact updateDocument_good good harmless ran
  | deleteDocument actor id => exact deleteDocument_good good ran
  | publishVersion actor documentId dto => exact publishVersion_good good ran
  | upload attachment =>
    cases ran
    obtain ⟨filed, kept⟩ := good
    exact ⟨⟨filed.folders.mono (Nat.le_succ _), filed.documents.mono (Nat.le_succ _), filed.versions.mono (Nat.le_succ _), filed.placed,
      filed.owned⟩, kept⟩

end

end

structure Empty (db : DocumentsDb) : Prop where
  folders : db.folders = []
  documents : db.documents = []
  versions : db.versions = []

theorem Empty.good {db : DocumentsDb} (empty : Empty db) : Good db := by
  obtain ⟨folders, documents, versions⟩ := empty
  refine ⟨⟨?_, ?_, ?_, fun doc member => ?_, fun version known => ?_⟩, fun doc member => ?_⟩
  · rw [folders]
    exact Allocated.nil
  · rw [documents]
    exact Allocated.nil
  · rw [versions]
    exact Allocated.nil
  · rw [documents] at member
    exact absurd member not_mem_nil
  · rw [versions] at known
    exact absurd known not_mem_nil
  · rw [documents] at member
    exact absurd member not_mem_nil

/-- In runs that leave no active document in a folder out of the list, access is one rule. -/
theorem documents_one_rule (collate : String → String → Bool) (presign : String → Nat → String) {initial finish : DocumentsDb}
    {events : List (Instant × DocumentCall)} (empty : Empty initial)
    (run : Run (Guarded Harmless DocumentStep) initial events finish) : OneRuleForAll collate presign finish := by
  have good : Good finish := by
    refine run.invariant (fun before event after good step => ?_) empty.good
    obtain ⟨harmless, rfl⟩ := step
    unfold DocumentsDb.next
    cases ran : runCall event.1 before event.2 with
    | ok after => exact call_good good harmless ran
    | error failure => exact good
  exact oneRule_of_guarded good.filed good.kept

namespace Sample

def secretary : AuthenticatedUser := ⟨1, [⟨.managementAdmin, some 1, none⟩]⟩

def tenant : AuthenticatedUser := ⟨2, [⟨.tenant, some 1, some 1⟩]⟩

def bare : DocumentsDb := ⟨1, [], [], [], []⟩

def rules : List (Instant × DocumentCall) :=
  [(0, .createFolder secretary ⟨1, "Rules", none, none⟩), (1, .createDocument secretary ⟨1, "House rules", none⟩)]

def withdrawn : List (Instant × DocumentCall) := rules ++ [(2, .deleteFolder secretary 1)]

def shelf : DocumentsDb := withdrawn.foldl DocumentsDb.next bare

end Sample

theorem withdrawn_stays_open : ∃ initial events finish, Empty initial ∧ Run DocumentStep initial events finish ∧
    ¬ OneRuleForAll (fun _ _ => true) (fun key _ => key) finish := by
  have folders : Sample.shelf.folders = [⟨1, 1, "Rules", .all, 0, false⟩] := by decide +kernel
  have documents : Sample.shelf.documents = [⟨2, 1, 1, "House rules", none, none, true, 1⟩] := by decide +kernel
  have opened : getDocument Sample.tenant 2 Sample.shelf = .ok ⟨2, 1, 1, "House rules", none, none, true, 1⟩ := by decide +kernel
  have run : Run DocumentStep Sample.bare Sample.withdrawn Sample.shelf := .of_foldl _ _
  refine ⟨_, _, _, ⟨rfl, rfl, rfl⟩, run, fun rule => ?_⟩
  have own := rule Sample.tenant ⟨2, 1, 1, "House rules", none, none, true, 1⟩ (documents ▸ List.mem_singleton_self _) (by decide)
  obtain ⟨opts, page, listed, shown⟩ := own.opens.mp ⟨_, opened⟩
  unfold listDocuments at listed
  simp only [bind_eq_ok, pure_eq_ok] at listed
  obtain ⟨_, -, rfl⟩ := listed
  have selected := List.mem_mergeSort.mp (List.mem_of_mem_drop (List.mem_of_mem_take shown))
  have asked := (List.mem_filter.mp selected).2
  have resident : isManagement Sample.tenant 1 = false := by decide
  simp [documentWhere, DocumentsDb.folder?, folders, findBy, resident] at asked

theorem rules_one_rule : ∃ finish, finish.documents.map Document.title = ["House rules"] ∧
    OneRuleForAll (fun _ _ => true) (fun key _ => key) finish := by
  have titles : (Sample.rules.foldl DocumentsDb.next Sample.bare).documents.map Document.title = ["House rules"] := by decide +kernel
  have meets : Run.Meets Harmless DocumentsDb.next Sample.bare Sample.rules := ⟨trivial, trivial, trivial⟩
  exact ⟨_, titles, documents_one_rule _ _ ⟨rfl, rfl, rfl⟩ (Run.guarded_of_foldl meets)⟩

end SmartResidence.Documents
