import SmartResidence.Announcements.AnnouncementService

/-!
# Who sees an announcement

The filter of the list and the matcher agree on the audience; membership and publication are checked in some places only.
-/

namespace SmartResidence.Announcements

open Foundation Billing Auth List

def Listed (db : AnnouncementDb) (now : Instant) (user : AuthenticatedUser) (row : Announcement) : Prop :=
  ∃ opts page, list now user row.condoId opts db = .ok page ∧ ∃ view ∈ page.items, view.announcement = row

def CanOpen (db : AnnouncementDb) (now : Instant) (user : AuthenticatedUser) (id : Id) : Prop :=
  ∃ view, getOne now user id db = .ok view

def NotifiedByRole (db : AnnouncementDb) (row : Announcement) (userId : Id) : Prop :=
  userId ∈ resolveAnnouncementRecipientUserIds row row.condoId db ∧
    ∃ role ∈ unitRoles row.condoId (audienceUnitIds row row.condoId db) db, role.userId = userId

structure OneRule (db : AnnouncementDb) (now : Instant) (userId : Id) (row : Announcement) : Prop where
  opens : isManagementForCondo (db.user now userId) row.condoId = false →
    (CanOpen db now (db.user now userId) row.id ↔ Listed db now (db.user now userId) row)
  read : isManagementForCondo (db.user now userId) row.condoId = false →
    (∃ after, markRead (db.user now userId) row.id db = .ok after) → Listed db now (db.user now userId) row
  acknowledged : isManagementForCondo (db.user now userId) row.condoId = false →
    (∃ after, acknowledge (db.user now userId) row.id db = .ok after) → Listed db now (db.user now userId) row
  notified : row.deletedAt = none → NotifiedByRole db row userId → CanOpen db now (db.user now userId) row.id

def Matches (db : AnnouncementDb) (user : AuthenticatedUser) (row : Announcement) : Prop :=
  announcementMatchesResident row (getResidentAudienceContext user row.condoId db) = true

def Member (user : AuthenticatedUser) (condoId : Id) : Prop := ∃ r ∈ user.roles, r.roleId = .superAdmin ∨ r.condoId = some condoId

section

variable {db : AnnouncementDb} {now : Instant} {user : AuthenticatedUser} {row : Announcement} {ctx : ResidentAudienceContext}

theorem audienceWhere_eq_matches : audienceWhereForResident ctx row = announcementMatchesResident row ctx := by
  have nonempty {wanted ids : List Id} : (ids ≠ [] ∧ ∃ id ∈ wanted, id ∈ ids) ↔ ∃ id ∈ wanted, id ∈ ids :=
    ⟨And.right, fun ⟨id, asked, own⟩ => ⟨ne_nil_of_mem own, id, asked, own⟩⟩
  unfold audienceWhereForResident announcementMatchesResident
  cases row.audienceScope with
  | condo => simp
  | blocks =>
    rw [Bool.eq_iff_iff]
    simp [nonempty]
  | units =>
    rw [Bool.eq_iff_iff]
    simp [nonempty]

theorem status_published : row.status now = .published ↔
    (row.publishedAt.any fun published => decide (published ≤ now)) = true ∧
      (row.expiresAt.all fun stop => decide (now < stop)) = true := by
  unfold Announcement.status
  cases row.publishedAt with
  | none => simp
  | some published =>
    by_cases soon : now < published
    · simp [soon]
    · cases row.expiresAt with
      | none => simp
      | some stop =>
        by_cases gone : stop ≤ now
        · simp [soon, gone]
        · simp [gone, not_le.mp gone]

theorem publishedWhere_iff : publishedWhere now ctx row = true ↔
    row.status now = .published ∧ announcementMatchesResident row ctx = true := by
  unfold publishedWhere
  rw [Bool.and_eq_true, Bool.and_eq_true, audienceWhere_eq_matches, status_published]

theorem announcement?_eq (distinct : (db.announcements.map Announcement.id).Nodup) (mem : row ∈ db.announcements) :
    db.announcement? row.id = if row.deletedAt = none then some row else none := by
  have only : ∀ other ∈ db.announcements, other.id = row.id → other = row :=
    fun other listed same => eq_of_key_eq distinct listed mem same
  unfold AnnouncementDb.announcement?
  split
  · rename_i live
    cases found : db.announcements.find? fun other => decide (other.id = row.id ∧ other.deletedAt = none) with
    | none =>
      have never := List.find?_eq_none.mp found row mem
      exact absurd (decide_eq_true ⟨rfl, live⟩) never
    | some other =>
      have pick := List.find?_some found
      have here : other.id = row.id ∧ other.deletedAt = none := of_decide_eq_true pick
      rw [only other (mem_of_find?_eq_some found) here.1]
  · rename_i gone
    rw [List.find?_eq_none]
    intro other listed here
    obtain ⟨same, live⟩ := of_decide_eq_true here
    rw [only other listed same] at live
    exact gone live

theorem canOpen_eq {id : Id} : CanOpen db now user id ↔ ∃ row, db.announcement? id = some row ∧
    (isManagementForCondo user row.condoId = false → row.status now = .published ∧ Matches db user row) := by
  unfold CanOpen getOne
  simp only [bind_eq_ok, orThrow_eq_ok, throwIf_eq_ok, pure_eq_ok, exists_const, not_and, not_not, Bool.not_eq_true,
    Bool.not_eq_false]
  constructor
  · rintro ⟨view, row, found, published, audience, rfl⟩
    exact ⟨row, found, fun resident => ⟨published resident, audience resident⟩⟩
  · rintro ⟨row, found, both⟩
    exact ⟨_, row, found, fun resident => (both resident).1, fun resident => (both resident).2, rfl⟩

section

variable (distinct : (db.announcements.map Announcement.id).Nodup)
include distinct

theorem canOpen_iff (mem : row ∈ db.announcements) (resident : isManagementForCondo user row.condoId = false) :
    CanOpen db now user row.id ↔ row.deletedAt = none ∧ row.status now = .published ∧ Matches db user row := by
  rw [canOpen_eq, announcement?_eq distinct mem]
  by_cases live : row.deletedAt = none
  · simp [resident]
  · simp [live]

theorem canOpen_manager (mem : row ∈ db.announcements)
    (manager : isManagementForCondo user row.condoId = true) (live : row.deletedAt = none) : CanOpen db now user row.id := by
  rw [canOpen_eq, announcement?_eq distinct mem, if_pos live]
  exact ⟨row, rfl, fun resident => nomatch manager.symm.trans resident⟩

theorem access_iff (mem : row ∈ db.announcements) (resident : isManagementForCondo user row.condoId = false) :
    assertResidentCanAccess user row.id db = .ok () ↔ row.deletedAt = none ∧ Matches db user row := by
  unfold assertResidentCanAccess Matches
  rw [announcement?_eq distinct mem]
  by_cases live : row.deletedAt = none
  · simp [resident]
  · simp [live]

end

variable {manage : Bool} {selected : List Announcement}

theorem page_item {opts : ListOptions} {view : AnnouncementView}
    (shown : view ∈ (listPage db now user manage opts selected).items) : view.announcement ∈ selected := by
  obtain ⟨row, kept, rfl⟩ := mem_map.mp shown
  exact mem_mergeSort.mp (mem_of_mem_drop (mem_of_mem_take kept))

theorem item_of_selected (mem : row ∈ selected) :
    ∃ view ∈ (listPage db now user manage ⟨selected.length, 0, false, none⟩ selected).items, view.announcement = row := by
  refine ⟨serialize db now user manage row, mem_map_of_mem ?_, rfl⟩
  have all : (selected.mergeSort listedBefore).length ≤ selected.length := (length_mergeSort selected).le
  rw [drop_zero, take_of_length_le all]
  exact mem_mergeSort.mpr mem

theorem listed_iff (mem : row ∈ db.announcements) (resident : isManagementForCondo user row.condoId = false) :
    Listed db now user row ↔ row.deletedAt = none ∧ Member user row.condoId ∧ row.status now = .published ∧ Matches db user row := by
  have access : (user.roles.any fun r => decide (r.roleId = .superAdmin ∨ r.condoId = some row.condoId)) = true ↔
      Member user row.condoId := by
    rw [any_eq_true]
    simp only [decide_eq_true_eq]
    rfl
  unfold Listed list
  simp only [resident, Bool.and_false, Bool.false_eq_true, if_false, bind_eq_ok, throwIf_eq_ok, pure_eq_ok, exists_const, not_not,
    access]
  constructor
  · rintro ⟨opts, page, ⟨inside, rfl⟩, view, shown, rfl⟩
    obtain ⟨selected, where'⟩ := mem_filter.mp (page_item shown)
    obtain ⟨-, own⟩ := mem_filter.mp selected
    obtain ⟨published, audience⟩ := publishedWhere_iff.mp where'
    exact ⟨(of_decide_eq_true (Bool.and_eq_true_iff.mp own).1).2, inside, published, audience⟩
  · rintro ⟨live, inside, published, audience⟩
    have selected : row ∈ (db.announcements.filter fun other => decide (other.condoId = row.condoId ∧ other.deletedAt = none) &&
        (none : Option AnnouncementCategory).all fun category => decide (other.category = category)).filter
          (publishedWhere now (getResidentAudienceContext user row.condoId db)) :=
      mem_filter.mpr ⟨mem_filter.mpr ⟨mem, by simp [live]⟩, publishedWhere_iff.mpr ⟨published, audience⟩⟩
    exact ⟨⟨_, 0, false, none⟩, _, ⟨inside, rfl⟩, item_of_selected selected⟩

end

/-- Visibility is one rule for a user exactly when the audience has him only as a member and of a published announcement, and a role
that makes him a recipient is one that counts for the audience. -/
theorem one_rule {db : AnnouncementDb} {now : Instant} {userId : Id} {row : Announcement}
    (distinct : (db.announcements.map Announcement.id).Nodup) (member : row ∈ db.announcements) :
    OneRule db now userId row ↔ (isManagementForCondo (db.user now userId) row.condoId = false → row.deletedAt = none →
      Matches db (db.user now userId) row ∨ NotifiedByRole db row userId →
        Matches db (db.user now userId) row ∧ Member (db.user now userId) row.condoId ∧ row.status now = .published) := by
  constructor
  · intro rule resident live reached
    have audience : Matches db (db.user now userId) row := by
      rcases reached with audience | notified
      · exact audience
      · exact ((canOpen_iff distinct member resident).mp (rule.notified live notified)).2.2
    have marked : ∃ after, markRead (db.user now userId) row.id db = .ok after := by
      unfold markRead
      rw [(access_iff distinct member resident).mpr ⟨live, audience⟩]
      exact ⟨_, rfl⟩
    obtain ⟨-, inside, published, -⟩ := (listed_iff member resident).mp (rule.read resident marked)
    exact ⟨audience, inside, published⟩
  · intro bound
    have listed : isManagementForCondo (db.user now userId) row.condoId = false → row.deletedAt = none →
        Matches db (db.user now userId) row → Listed db now (db.user now userId) row := by
      intro resident live audience
      obtain ⟨-, inside, published⟩ := bound resident live (.inl audience)
      exact (listed_iff member resident).mpr ⟨live, inside, published, audience⟩
    refine ⟨fun resident => ⟨fun opens => ?_, fun shown => ?_⟩, fun resident ⟨after, marked⟩ => ?_,
      fun resident ⟨after, marked⟩ => ?_, fun live notified => ?_⟩
    · obtain ⟨live, -, audience⟩ := (canOpen_iff distinct member resident).mp opens
      exact listed resident live audience
    · obtain ⟨live, -, published, audience⟩ := (listed_iff member resident).mp shown
      exact (canOpen_iff distinct member resident).mpr ⟨live, published, audience⟩
    · obtain ⟨done, checked, -⟩ := bind_eq_ok.mp marked
      obtain ⟨live, audience⟩ := (access_iff distinct member resident).mp checked
      exact listed resident live audience
    · obtain ⟨done, checked, -⟩ := bind_eq_ok.mp marked
      obtain ⟨live, audience⟩ := (access_iff distinct member resident).mp checked
      exact listed resident live audience
    · cases resident : isManagementForCondo (db.user now userId) row.condoId with
      | true => exact canOpen_manager distinct member resident live
      | false =>
          obtain ⟨audience, -, published⟩ := bound resident live (.inr notified)
          exact (canOpen_iff distinct member resident).mpr ⟨live, published, audience⟩

namespace Sample

def notice : Announcement :=
  ⟨1, 1, 9, "Water", "No water on Monday", .notice, .condo, [], [], some 5, none, some 5, false, false, none, 5⟩

def board : AnnouncementDb :=
  { nextId := 2, blocks := [], units := [⟨1, 1, 1⟩], ownerships := [], tenancies := []
    assignments := [⟨⟨.tenant, some 1, some 1⟩, 1, 2, none, none⟩, ⟨⟨.tenant, some 2, some 7⟩, 2, 3, none, none⟩]
    announcements := [notice], reads := [], acks := [] }

end Sample

theorem outsider_opens : ∃ db now userId row, (db.announcements.map Announcement.id).Nodup ∧ row ∈ db.announcements ∧
    ¬ OneRule db now userId row := by
  have opened : (getOne 10 (Sample.board.user 10 3) 1 Sample.board).isOk = true := by decide +kernel
  have outside : isManagementForCondo (Sample.board.user 10 3) 1 = false := by decide +kernel
  have roles : ((Sample.board.user 10 3).roles.any fun r => decide (r.roleId = .superAdmin ∨ r.condoId = some 1)) = false := by
    decide +kernel
  have member : Sample.notice ∈ Sample.board.announcements := List.mem_singleton_self Sample.notice
  refine ⟨Sample.board, 10, 3, Sample.notice, List.nodup_singleton _, member, fun rule => ?_⟩
  have opens : CanOpen Sample.board 10 (Sample.board.user 10 3) 1 := by
    unfold CanOpen
    cases found : getOne 10 (Sample.board.user 10 3) 1 Sample.board with
    | ok view => exact ⟨view, rfl⟩
    | error failure =>
        rw [found] at opened
        cases opened
  obtain ⟨-, ⟨r, has, inside⟩, -⟩ := (listed_iff member outside).mp ((rule.opens outside).mp opens)
  rw [List.any_eq_false] at roles
  exact roles r has (decide_eq_true inside)

theorem tenant_one_rule : OneRule Sample.board 10 2 Sample.notice := by
  have distinct : (Sample.board.announcements.map Announcement.id).Nodup := List.nodup_singleton _
  refine (one_rule distinct (List.mem_singleton_self Sample.notice)).mpr fun _ _ _ => ⟨rfl, ?_, rfl⟩
  exact ⟨⟨.tenant, some 1, some 1⟩, List.mem_singleton_self _, .inr rfl⟩

end SmartResidence.Announcements
