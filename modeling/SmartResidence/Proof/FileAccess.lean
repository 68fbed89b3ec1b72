import SmartResidence.Proof.AnnouncementVisibility
import SmartResidence.Proof.ThreadAccess
import SmartResidence.Storage.AttachmentsController

/-!
# Files and the records that they belong to

Each record has a rule of its own; the download has a shorter one for four of them.
-/

namespace SmartResidence.Storage

open Foundation Billing List
open Announcements (Announcement AnnouncementDb CanOpen Matches isManagementForCondo)
open Defects (Defect)
open Threads (Thread ThreadMessage)

section

variable (now : Instant) (user : AuthenticatedUser) (db : FileDb) (attachment : Attachment)

def ReadsMessage : Prop := ∃ message detail, db.messageOf attachment = some message ∧
  Threads.getOne now db.threads user message.threadId = .ok detail ∧ message ∈ detail.messages

def ReadsAnnouncement : Prop := ∃ id, attachment.announcementId = some id ∧ CanOpen db.announcements now user id

def ReadsDefect : Prop := ∃ defect, (db.defectOf attachment = some defect ∨ db.updatedDefect attachment = some defect) ∧
  Defects.assertDefectAccess user defect = .ok ()

def ReadsDocument : Prop := ∃ version row, db.versionOf attachment = some version ∧
  Documents.getDocument user version.documentId db.documents = .ok row

def ReadsPost : Prop := ∃ post ∈ db.posts, post.photoAttachmentId = some attachment.id ∧ LostFound.canReadPost user post = true

def ReadsBill : Prop := ∃ filed ∈ db.bills, filed.attachmentId = some attachment.id ∧
  Procurement.assertManagement user filed.bill.condoId = .ok ()

def MayRead : Prop :=
  ReadsMessage now user db attachment ∨ ReadsAnnouncement now user db attachment ∨ ReadsDefect user db attachment ∨
    ReadsDocument user db attachment ∨ ReadsPost user db attachment ∨ ReadsBill user db attachment

structure FollowsParent : Prop where
  raw : (∃ file, raw user attachment.id db = .ok file) ↔
    attachment.uploadedByUserId = some user.id ∨ MayRead now user db attachment
  thumb : (∃ file, thumb user attachment.id db = .ok file) ↔
    attachment.uploadedByUserId = some user.id ∨ MayRead now user db attachment

def ShownMessage : Prop := ∃ message thread, db.messageOf attachment = some message ∧
  db.threads.thread? message.threadId = some thread ∧ Threads.mayAccess user thread = true ∧
  (Threads.isManagement user = true ∨ message.kind ≠ .internalNote)

def HiddenNote : Prop := ∃ message thread, db.messageOf attachment = some message ∧
  db.threads.thread? message.threadId = some thread ∧ Threads.isManagement user = false ∧ Threads.Concerned user thread ∧
  message.kind = .internalNote

def OpenTo (row : Announcement) : Prop := row.status now = .published ∧ Matches db.announcements user row

def ShownAnnouncement : Prop := ∃ row, db.announcementOf attachment = some row ∧ row.deletedAt = none ∧
  canViewCondoAnnouncement user row.condoId = true ∧
  (isManagementForCondo user row.condoId = true ∨ OpenTo now user db row)

def HiddenAnnouncement : Prop := ∃ row, db.announcementOf attachment = some row ∧ row.deletedAt = none ∧
  canViewCondoAnnouncement user row.condoId = true ∧ isManagementForCondo user row.condoId = false ∧
  ¬ OpenTo now user db row

def ForeignAnnouncement : Prop := ∃ row, db.announcementOf attachment = some row ∧ row.deletedAt = none ∧
  canViewCondoAnnouncement user row.condoId = false ∧ row.status now = .published ∧ row.audienceScope = .condo

def ShownDefect : Prop := ∃ defect, db.defectScope attachment = some defect ∧ canViewDefect user defect = true

def MissedDefect : Prop := ReadsDefect user db attachment ∧ ¬ ShownDefect user db attachment

def Missed : Prop :=
  ForeignAnnouncement now user db attachment ∨ MissedDefect user db attachment ∨ ReadsDocument user db attachment ∨
    ReadsPost user db attachment ∨ ReadsBill user db attachment

def Shown : Prop := ShownMessage user db attachment ∨ ShownAnnouncement now user db attachment ∨ ShownDefect user db attachment

def Hidden : Prop := HiddenNote user db attachment ∨ HiddenAnnouncement now user db attachment

end

/-! ## The rules, one by one -/

section

variable {now : Instant} {user : AuthenticatedUser} {db : FileDb} {attachment : Attachment}

theorem canViewThread_eq {thread : Thread} : canViewThread user thread = Threads.mayAccess user thread := by
  have unit : (thread.unitId.any fun unitId => user.roles.any fun r => decide (r.unitId = some unitId)) =
      thread.unitId.any fun unitId => decide (unitId ∈ Threads.unitIds user) := by
    cases thread.unitId with
    | none => rfl
    | some unitId =>
      rw [Bool.eq_iff_iff]
      simp only [Option.any_some, any_eq_true, decide_eq_true_eq, Threads.unitIds, mem_filterMap]
  have manages : ((user.roles.filter fun r => decide (r.roleId ∈ Threads.managementRoles)).any
      fun r => decide (r.condoId = some thread.condoId)) = decide (thread.condoId ∈ Threads.managementCondoIds user) := by
    rw [Bool.eq_iff_iff, decide_eq_true_eq, Threads.mem_managementCondoIds]
    simp only [any_eq_true, mem_filter, decide_eq_true_eq, Threads.ManagesCondo, and_assoc]
  have management : 0 < (user.roles.filter fun r => decide (r.roleId ∈ Threads.managementRoles)).length ↔
      Threads.isManagement user = true := by
    unfold Threads.isManagement
    rw [length_pos_iff_exists_mem, any_eq_true]
    simp
  unfold canViewThread Threads.mayAccess
  simp only [management, unit, manages]

theorem showsThread_iff : db.showsThread user attachment = true ↔ ShownMessage user db attachment ∨ HiddenNote user db attachment := by
  unfold FileDb.showsThread FileDb.threadOf
  rw [Option.any_eq_true]
  simp only [Option.bind_eq_some_iff, canViewThread_eq]
  constructor
  · rintro ⟨thread, ⟨message, attached, found⟩, allowed⟩
    by_cases open' : Threads.isManagement user = true ∨ message.kind ≠ .internalNote
    · exact .inl ⟨message, thread, attached, found, allowed, open'⟩
    · obtain ⟨resident, note⟩ := not_or.mp open'
      refine .inr ⟨message, thread, attached, found, Bool.eq_false_iff.mpr resident, ?_, not_not.mp note⟩
      exact ((Threads.mayAccess_iff.mp allowed).resolve_left fun manages => resident manages.1).2
  · rintro (⟨message, thread, attached, found, allowed, -⟩ | ⟨message, thread, attached, found, resident, concerned, -⟩)
    · exact ⟨thread, ⟨message, attached, found⟩, allowed⟩
    · exact ⟨thread, ⟨message, attached, found⟩, Threads.mayAccess_iff.mpr (.inr ⟨resident, concerned⟩)⟩

theorem readsMessage_iff : ReadsMessage now user db attachment ↔ ShownMessage user db attachment := by
  unfold ReadsMessage Threads.getOne
  simp only [bind_eq_ok, pure_eq_ok, Threads.loadAndAuthorize_ok]
  constructor
  · rintro ⟨message, _, attached, ⟨thread, ⟨found, allowed⟩, rfl⟩, mem⟩
    obtain ⟨-, visible⟩ := mem_filter.mp (mem_mergeSort.mp mem)
    refine ⟨message, thread, attached, found, allowed, ?_⟩
    simpa using visible
  · rintro ⟨message, thread, attached, found, allowed, visible⟩
    refine ⟨message, _, attached, ⟨thread, ⟨found, allowed⟩, rfl⟩, mem_mergeSort.mpr (mem_filter.mpr ⟨?_, ?_⟩)⟩
    · obtain ⟨id, -, stored⟩ := Option.bind_eq_some_iff.mp attached
      exact (mem_of_findBy stored).1
    · simpa using visible

theorem showsAnnouncement_iff : db.showsAnnouncement user attachment = true ↔
    ShownAnnouncement now user db attachment ∨ HiddenAnnouncement now user db attachment := by
  unfold FileDb.showsAnnouncement
  rw [Option.any_eq_true]
  simp only [Bool.and_eq_true, decide_eq_true_eq]
  constructor
  · rintro ⟨row, attached, live, mem⟩
    by_cases right : isManagementForCondo user row.condoId = true ∨ OpenTo now user db row
    · exact .inl ⟨row, attached, live, mem, right⟩
    · obtain ⟨resident, closed⟩ := not_or.mp right
      exact .inr ⟨row, attached, live, mem, Bool.eq_false_iff.mpr resident, closed⟩
  · rintro (⟨row, attached, live, mem, -⟩ | ⟨row, attached, live, mem, -⟩) <;> exact ⟨row, attached, live, mem⟩

theorem canView_of_management {condoId : Id} (manages : isManagementForCondo user condoId = true) :
    canViewCondoAnnouncement user condoId = true := by
  obtain ⟨role, mem, held⟩ := any_eq_true.mp manages
  exact any_eq_true.mpr ⟨role, mem, decide_eq_true (of_decide_eq_true held).2⟩

theorem canView_of_matches {row : Announcement} (matched : Matches db.announcements user row) (narrow : row.audienceScope ≠ .condo) :
    canViewCondoAnnouncement user row.condoId = true := by
  have some_unit : Announcements.roleUnitIds user row.condoId ≠ [] := by
    intro none
    unfold Matches Announcements.getResidentAudienceContext at matched
    rw [if_pos none] at matched
    cases scope : row.audienceScope with
    | condo => exact narrow scope
    | blocks => simp [Announcements.announcementMatchesResident, scope] at matched
    | units => simp [Announcements.announcementMatchesResident, scope] at matched
  obtain ⟨unitId, mem⟩ := exists_mem_of_ne_nil _ some_unit
  obtain ⟨role, pick, -⟩ := mem_filterMap.mp mem
  obtain ⟨held, inside⟩ := mem_filter.mp pick
  exact any_eq_true.mpr ⟨role, held, inside⟩

theorem readsAnnouncement_iff : ReadsAnnouncement now user db attachment ↔
    ShownAnnouncement now user db attachment ∨ ForeignAnnouncement now user db attachment := by
  unfold ReadsAnnouncement
  simp only [Announcements.canOpen_eq]
  constructor
  · rintro ⟨id, named, row, found, rule⟩
    have passed := List.find?_some found
    have pick : row.id = id ∧ row.deletedAt = none := of_decide_eq_true passed
    have mem := mem_of_find?_eq_some found
    have attached : db.announcementOf attachment = some row := by
      unfold FileDb.announcementOf
      rw [named, ← pick.1]
      exact findBy_of_mem db.announcement_ids mem
    by_cases inside : canViewCondoAnnouncement user row.condoId = true
    · refine .inl ⟨row, attached, pick.2, inside, ?_⟩
      by_cases manages : isManagementForCondo user row.condoId = true
      · exact .inl manages
      · exact .inr (rule (Bool.eq_false_iff.mpr manages))
    · have resident : isManagementForCondo user row.condoId = false :=
        Bool.eq_false_iff.mpr fun manages => inside (canView_of_management manages)
      obtain ⟨published, matched⟩ := rule resident
      refine .inr ⟨row, attached, pick.2, Bool.eq_false_iff.mpr inside, published, ?_⟩
      by_contra narrow
      exact inside (canView_of_matches matched narrow)
  · have opened {row : Announcement} (attached : db.announcementOf attachment = some row) (live : row.deletedAt = none)
        (rule : isManagementForCondo user row.condoId = false → OpenTo now user db row) :
        ∃ id, attachment.announcementId = some id ∧ ∃ row, db.announcements.announcement? id = some row ∧
          (isManagementForCondo user row.condoId = false → row.status now = .published ∧ Matches db.announcements user row) := by
      obtain ⟨id, named, stored⟩ := Option.bind_eq_some_iff.mp attached
      obtain ⟨mem, rfl⟩ := mem_of_findBy stored
      refine ⟨row.id, named, row, ?_, rule⟩
      rw [Announcements.announcement?_eq db.announcement_ids mem, if_pos live]
    rintro (⟨row, attached, live, -, right⟩ | ⟨row, attached, live, -, published, wide⟩)
    · exact opened attached live fun resident => right.resolve_left (Bool.eq_false_iff.mp resident)
    · refine opened attached live fun _ => ⟨published, ?_⟩
      unfold Matches Announcements.announcementMatchesResident
      rw [wide]

theorem mayAccess_of_canView {defect : Defect} (views : canViewDefect user defect = true) : Defects.mayAccess user defect = true := by
  unfold canViewDefect at views
  rw [Bool.or_eq_true] at views
  unfold Defects.mayAccess
  rw [Bool.or_eq_true, Bool.or_eq_true]
  refine .inl (views.imp (fun management => ?_) fun unit => ?_)
  · obtain ⟨role, mem, held⟩ := any_eq_true.mp management
    obtain ⟨manages, inside⟩ := of_decide_eq_true held
    refine any_eq_true.mpr ⟨role, mem, decide_eq_true ⟨?_, .inr inside⟩⟩
    simpa [Threads.managementRoles] using manages
  · exact unit

theorem showsDefect_iff : db.showsDefect user attachment = true ↔ ShownDefect user db attachment := by
  unfold FileDb.showsDefect ShownDefect
  rw [Option.any_eq_true]

theorem readsDefect_iff : ReadsDefect user db attachment ↔ ShownDefect user db attachment ∨ MissedDefect user db attachment := by
  have reads (shown : ShownDefect user db attachment) : ReadsDefect user db attachment := by
    obtain ⟨defect, scope, views⟩ := shown
    refine ⟨defect, ?_, by simp [Defects.assertDefectAccess, mayAccess_of_canView views]⟩
    unfold FileDb.defectScope at scope
    cases first : db.defectOf attachment with
    | none =>
      rw [first] at scope
      exact .inr scope
    | some other =>
      rw [first] at scope
      exact .inl scope
  constructor
  · intro mine
    by_cases shown : ShownDefect user db attachment
    · exact .inl shown
    · exact .inr ⟨mine, shown⟩
  · rintro (shown | missed)
    · exact reads shown
    · exact missed.1

/-! ## The download -/

theorem authorize_ok (now : Instant) (stored : db.attachment? attachment.id = some attachment) :
    (∃ row, authorize user attachment.id db = .ok row) ↔
      attachment.uploadedByUserId = some user.id ∨ Shown now user db attachment ∨ Hidden now user db attachment := by
  have shows : (attachment.uploadedByUserId = some user.id ∨ db.showsThread user attachment = true ∨
      db.showsAnnouncement user attachment = true ∨ db.showsDefect user attachment = true) ↔
      attachment.uploadedByUserId = some user.id ∨ Shown now user db attachment ∨ Hidden now user db attachment := by
    have announced : db.showsAnnouncement user attachment = true ↔
        ShownAnnouncement now user db attachment ∨ HiddenAnnouncement now user db attachment := showsAnnouncement_iff
    rw [showsThread_iff, showsDefect_iff]
    unfold Shown Hidden
    tauto
  unfold authorize
  simp only [bind_eq_ok, orThrow_eq_ok, throwIf_eq_ok, pure_eq_ok, stored, Option.some.injEq, exists_eq_left',
    exists_const, exists_and_left, exists_eq']
  tauto

theorem mayRead_iff : MayRead now user db attachment ↔ Shown now user db attachment ∨ Missed now user db attachment := by
  unfold MayRead
  rw [readsMessage_iff, readsAnnouncement_iff, readsDefect_iff]
  unfold Shown Missed
  tauto

theorem raw_ok {id : Id} : (∃ file, raw user id db = .ok file) ↔ ∃ row, authorize user id db = .ok row := by
  unfold raw
  simp only [bind_eq_ok]
  constructor
  · rintro ⟨_, row, allowed, -⟩
    exact ⟨row, allowed⟩
  · rintro ⟨row, allowed⟩
    exact ⟨_, row, allowed, rfl⟩

theorem thumb_ok {id : Id} : (∃ file, thumb user id db = .ok file) ↔ ∃ row, authorize user id db = .ok row := by
  unfold thumb
  simp only [bind_eq_ok]
  constructor
  · rintro ⟨_, row, allowed, -⟩
    exact ⟨row, allowed⟩
  · rintro ⟨row, allowed⟩
    cases small : row.thumbnailKey with
    | none => exact ⟨_, row, allowed, by rw [small]; rfl⟩
    | some key => exact ⟨_, row, allowed, by rw [small]; rfl⟩

/-- The download follows the record except where it shows what the record hides, or misses a record. -/
theorem file_follows_parent (stored : db.attachment? attachment.id = some attachment) :
    FollowsParent now user db attachment ↔ attachment.uploadedByUserId = some user.id ∨ Shown now user db attachment ∨
      (Hidden now user db attachment ↔ Missed now user db attachment) := by
  have agree : FollowsParent now user db attachment ↔
      ((∃ row, authorize user attachment.id db = .ok row) ↔
        attachment.uploadedByUserId = some user.id ∨ MayRead now user db attachment) :=
    ⟨fun follows => raw_ok.symm.trans follows.raw, fun both => ⟨raw_ok.trans both, thumb_ok.trans both⟩⟩
  rw [agree, authorize_ok now stored, mayRead_iff]
  by_cases uploaded : attachment.uploadedByUserId = some user.id
  · simp only [uploaded, true_or]
  · by_cases shown : Shown now user db attachment
    · simp only [shown, true_or, or_true]
    · simp only [uploaded, shown, false_or]

end

namespace Sample

def memo : Attachment :=
  { id := 1, key := "memo", thumbnailKey := none, mimeType := "application/pdf", size := 100, fileName := none, status := .committed
    ownerKind := .announcement, uploadedByUserId := some 9, defectId := none, defectUpdateId := none, threadMessageId := none
    announcementId := some 2, documentVersionId := none, createdAt := 0 }

def draft : Announcement :=
  { id := 2, condoId := 1, authorUserId := 9, title := "Fees", body := "New fees", category := .notice, audienceScope := .condo
    blockIds := [], unitIds := [], publishedAt := none, expiresAt := none, notifiedAt := none, requiresAck := false, pinned := false
    deletedAt := none, createdAt := 0 }

def noThreads : Threads.ThreadDb := ⟨1, [], [], [], [], [], [], .nil⟩

def drafts : FileDb where
  documents := ⟨3, [], [], [], [memo]⟩
  announcements := ⟨3, [], [], [], [], [], [draft], [], []⟩
  threads := noThreads
  defects := []
  defectUpdates := []
  posts := []
  bills := []
  announcement_ids := by decide

def author : AuthenticatedUser := ⟨9, [⟨.managementAdmin, some 1, none⟩]⟩

def deputy : AuthenticatedUser := ⟨8, [⟨.managementStaff, some 1, none⟩]⟩

def neighbour : AuthenticatedUser := ⟨5, [⟨.tenant, some 1, some 1⟩]⟩

end Sample

theorem draft_memo_served : ∃ now user db attachment, db.attachment? attachment.id = some attachment ∧
    ¬ FollowsParent now user db attachment := by
  refine ⟨0, Sample.neighbour, Sample.drafts, Sample.memo, rfl, fun follows => ?_⟩
  have served : raw Sample.neighbour 1 Sample.drafts = .ok ⟨"memo", "application/pdf", some "memo.pdf"⟩ := by decide +kernel
  rcases follows.raw.mp ⟨_, served⟩ with uploaded | reads | reads | reads | reads | reads | reads
  · exact absurd uploaded (by decide)
  · obtain ⟨message, detail, attached, -⟩ := reads
    cases attached
  · obtain ⟨id, named, opened⟩ := reads
    obtain rfl := Option.some.inj named
    obtain ⟨row, found, rule⟩ := Announcements.canOpen_eq.mp opened
    obtain rfl := Option.some.inj found
    exact absurd (rule rfl).1 (by decide)
  · obtain ⟨defect, attached | attached, -⟩ := reads <;> cases attached
  · obtain ⟨version, row, attached, -⟩ := reads
    cases attached
  · obtain ⟨post, listed, -⟩ := reads
    cases listed
  · obtain ⟨filed, listed, -⟩ := reads
    cases listed

theorem draft_memo_for_management : FollowsParent 0 Sample.deputy Sample.drafts Sample.memo := by
  have stored : Sample.drafts.attachment? Sample.memo.id = some Sample.memo := rfl
  exact (file_follows_parent stored).mpr (.inr (.inl (.inr (.inl ⟨Sample.draft, rfl, rfl, rfl, .inl rfl⟩))))

end SmartResidence.Storage
