import Mathlib.Data.List.Perm.Subperm
import SmartResidence.Announcements.AnnouncementService

/-!
# The read statistics of a page and of one announcement

The page gathers units by block, users by unit and reads by announcement. What is gathered is looked up again, and a
recipient of one announcement is a recipient of the other.
-/

namespace SmartResidence.Announcements

open Foundation Billing Auth List

variable {db : AnnouncementDb} {rows : List Announcement} {row : Announcement} {condoId userId : Id} {unitIds : List Id}

theorem mem_unitIdsByBlock {condoUnits : List AudienceUnit} {blockId unitId : Id} :
    unitId ∈ ((unitIdsByBlock condoUnits).lookup blockId).getD [] ↔
      ∃ unit ∈ condoUnits, unit.blockId = blockId ∧ unit.id = unitId := by
  have collected : ∀ (units : List AudienceUnit) (list : List Id),
      units.foldl (fun list unit => list ++ [unit.id]) list = list ++ units.map AudienceUnit.id := by
    intro units
    induction units with
    | nil => simp
    | cons unit units ih => simp [ih]
  unfold unitIdsByBlock
  rw [lookup_gathered, collected]
  simp [and_assoc]

theorem mem_usersByUnit {links : List (Id × Id)} {unitId : Id} :
    userId ∈ ((usersByUnit links).lookup unitId).getD ∅ ↔ (unitId, userId) ∈ links := by
  have collected : ∀ (links : List (Id × Id)) (set : Finset Id),
      userId ∈ links.foldl (fun set link => insert link.2 set) set ↔ userId ∈ set ∨ userId ∈ links.map Prod.snd := by
    intro links
    induction links with
    | nil => simp
    | cons link links ih =>
      intro set
      rw [foldl_cons, ih, Finset.mem_insert, map_cons, mem_cons]
      tauto
  unfold usersByUnit
  rw [lookup_gathered, collected]
  simp

theorem mem_union_foldl {Part : Type} {parts : Part → Finset Id} {list : List Part} {start : Finset Id} :
    userId ∈ list.foldl (fun all part => all ∪ parts part) start ↔ userId ∈ start ∨ ∃ part ∈ list, userId ∈ parts part := by
  induction list generalizing start with
  | nil => simp
  | cons part list ih =>
    rw [foldl_cons, ih]
    simp [or_assoc]

theorem mem_recipientsOf {users : List (Id × Finset Id)} :
    userId ∈ recipientsOf users unitIds ↔ ∃ unitId ∈ unitIds, userId ∈ (users.lookup unitId).getD ∅ := by
  unfold recipientsOf
  rw [mem_union_foldl]
  simp

theorem lookup_byAnnouncement {Value : Type} {value : Announcement → Value} (nodup : (rows.map Announcement.id).Nodup)
    (mem : row ∈ rows) : (byAnnouncement rows value).lookup row.id = some (value row) := by
  unfold byAnnouncement
  induction rows using List.reverseRecOn with
  | nil => cases mem
  | append_singleton rows last ih =>
    rw [map_append, nodup_append] at nodup
    rw [foldl_append, foldl_cons, foldl_nil]
    rcases mem_append.mp mem with earlier | own
    · have apart : row.id ≠ last.id := nodup.2.2 _ (mem_map_of_mem earlier) _ mem_cons_self
      rw [lookup_assign_other apart]
      exact ih nodup.1 earlier
    · rw [mem_singleton.mp own, lookup_assign_self]

section

def Reached (condoId : Id) (unitIds : List Id) (db : AnnouncementDb) (userId : Id) : Prop :=
  ∃ unitId ∈ unitIds, (∃ owner ∈ db.ownerships, owner.active ∧ owner.unitId = unitId ∧ owner.userId = userId) ∨
    (∃ tenant ∈ db.tenancies, tenant.active ∧ tenant.unitId = unitId ∧ tenant.userId = userId) ∨
    ∃ role ∈ db.assignments, role.condoId = some condoId ∧ role.revokedAt = none ∧ role.unitId = some unitId ∧ role.userId = userId

theorem mem_resolve : userId ∈ resolveAnnouncementRecipientUserIds row condoId db ↔
    Reached condoId (audienceUnitIds row condoId db) db userId := by
  unfold resolveAnnouncementRecipientUserIds unitRoles Occupancy.activeIn
  simp only [mem_dedup, mem_append, mem_map, mem_filter, Bool.and_eq_true, decide_eq_true_eq, Option.any_eq_true]
  constructor
  · rintro ((⟨owner, ⟨mem, inUnit, active⟩, same⟩ | ⟨tenant, ⟨mem, inUnit, active⟩, same⟩) |
      ⟨role, ⟨mem, ⟨inCondo, valid⟩, unitId, inUnit, wanted⟩, same⟩)
    · exact ⟨_, inUnit, .inl ⟨owner, mem, active, rfl, same⟩⟩
    · exact ⟨_, inUnit, .inr (.inl ⟨tenant, mem, active, rfl, same⟩)⟩
    · exact ⟨_, wanted, .inr (.inr ⟨role, mem, inCondo, valid, inUnit, same⟩)⟩
  · rintro ⟨unitId, wanted, ⟨owner, mem, active, rfl, same⟩ | ⟨tenant, mem, active, rfl, same⟩ |
      ⟨role, mem, inCondo, valid, inUnit, same⟩⟩
    · exact .inl (.inl ⟨owner, ⟨mem, wanted, active⟩, same⟩)
    · exact .inl (.inr ⟨tenant, ⟨mem, wanted, active⟩, same⟩)
    · exact .inr ⟨role, ⟨mem, ⟨inCondo, valid⟩, unitId, inUnit, wanted⟩, same⟩

theorem mem_unitUsers {unitId : Id} : (unitId, userId) ∈ unitUsers condoId unitIds db ↔
    unitId ∈ unitIds ∧ Reached condoId [unitId] db userId := by
  unfold unitUsers Reached unitRoles Occupancy.activeIn
  simp only [mem_append, mem_map, mem_filterMap, mem_filter, Bool.and_eq_true, decide_eq_true_eq,
    Option.any_eq_true, Prod.mk.injEq, mem_singleton, exists_eq_left, Option.map_eq_some_iff]
  constructor
  · rintro ((⟨owner, ⟨mem, wanted, active⟩, rfl, same⟩ | ⟨tenant, ⟨mem, wanted, active⟩, rfl, same⟩) |
      ⟨role, ⟨mem, ⟨inCondo, valid⟩, other, inUnit, wanted⟩, own, named, rfl, same⟩)
    · exact ⟨wanted, .inl ⟨owner, mem, active, rfl, same⟩⟩
    · exact ⟨wanted, .inr (.inl ⟨tenant, mem, active, rfl, same⟩)⟩
    · rw [inUnit] at named
      cases named
      exact ⟨wanted, .inr (.inr ⟨role, mem, inCondo, valid, inUnit, same⟩)⟩
  · rintro ⟨wanted, ⟨owner, mem, active, rfl, same⟩ | ⟨tenant, mem, active, rfl, same⟩ |
      ⟨role, mem, inCondo, valid, inUnit, same⟩⟩
    · exact .inl (.inl ⟨owner, ⟨mem, wanted, active⟩, rfl, same⟩)
    · exact .inl (.inr ⟨tenant, ⟨mem, wanted, active⟩, rfl, same⟩)
    · exact .inr ⟨role, ⟨mem, ⟨inCondo, valid⟩, unitId, inUnit, wanted⟩, unitId, inUnit, rfl, same⟩

theorem mem_pageUnitIds {unitId : Id} :
    unitId ∈ pageUnitIds (db.condoUnits condoId) row ↔ unitId ∈ audienceUnitIds row condoId db := by
  unfold pageUnitIds audienceUnitIds AnnouncementDb.condoUnits
  cases row.audienceScope with
  | condo => exact Iff.rfl
  | blocks =>
    simp only [mem_flatMap, mem_unitIdsByBlock, mem_filter, mem_map, decide_eq_true_eq]
    constructor
    · rintro ⟨blockId, wanted, unit, ⟨mem, inCondo⟩, rfl, same⟩
      exact ⟨unit, ⟨mem, inCondo, wanted⟩, same⟩
    · rintro ⟨unit, ⟨mem, inCondo, wanted⟩, same⟩
      exact ⟨unit.blockId, wanted, unit, ⟨mem, inCondo⟩, rfl, same⟩
  | units => exact Iff.rfl

theorem lookup_recipientIds (db : AnnouncementDb) (condoId : Id) (nodup : (rows.map Announcement.id).Nodup) (mem : row ∈ rows) :
    ∃ recipientIds, (recipientIdsByAnnouncement rows condoId db).lookup row.id = some recipientIds ∧
      ∀ userId, userId ∈ recipientIds ↔ userId ∈ resolveAnnouncementRecipientUserIds row condoId db := by
  refine ⟨_, lookup_byAnnouncement nodup mem, fun userId => ?_⟩
  rw [lookup_byAnnouncement nodup mem, mem_recipientsOf, mem_resolve]
  simp only [mem_usersByUnit, mem_unitUsers, mem_membersOf, mem_flatMap]
  constructor
  · rintro ⟨unitId, own, -, wanted, single, reached⟩
    rw [mem_singleton.mp single] at reached
    exact ⟨unitId, mem_pageUnitIds.mp own, reached⟩
  · rintro ⟨unitId, own, reached⟩
    have needed := mem_pageUnitIds.mpr own
    exact ⟨unitId, needed, ⟨row, mem, needed⟩, unitId, mem_singleton_self _, reached⟩

theorem card_eq_length {set : Finset Id} {list : List Id} (nodup : list.Nodup) (same : ∀ id, id ∈ set ↔ id ∈ list) :
    set.card = list.length := by
  have equal : set = list.toFinset := by
    ext id
    rw [same, mem_toFinset]
  rw [equal, toFinset_card_of_nodup nodup]

end

theorem readers_le {reads : List Receipt} {id : Id} {recipientIds : List Id} (once : reads.Nodup) :
    (reads.filter fun read => decide (read.announcementId = id ∧ read.userId ∈ recipientIds)).length ≤ recipientIds.length := by
  have readers : ((reads.filter fun read => decide (read.announcementId = id ∧ read.userId ∈ recipientIds)).map
      Receipt.userId).Nodup := by
    refine (once.filter _).map_on fun first mem second member' same => ?_
    have one := (of_decide_eq_true (mem_filter.mp mem).2).1
    have two := (of_decide_eq_true (mem_filter.mp member').2).1
    cases second
    cases one
    cases two
    cases same
    rfl
  have recipients : ((reads.filter fun read => decide (read.announcementId = id ∧ read.userId ∈ recipientIds)).map
      Receipt.userId) ⊆ recipientIds := by
    intro userId mem
    obtain ⟨read, found, rfl⟩ := mem_map.mp mem
    exact (of_decide_eq_true (mem_filter.mp found).2).2
  rw [← length_map]
  exact (readers.subperm recipients).length_le

theorem announcement?_of_mem (keys : (db.announcements.map Announcement.id).Nodup) (stored : row ∈ db.announcements)
    (kept : row.deletedAt = none) : db.announcement? row.id = some row := by
  cases found : db.announcement? row.id with
  | none =>
    have missing := List.find?_eq_none.mp found row stored
    simp [kept] at missing
  | some other =>
    have same := List.find?_some found
    rw [eq_of_key_eq keys (mem_of_find?_eq_some found) stored (of_decide_eq_true same).1]

def statsOf (row : Announcement) (condoId : Id) (db : AnnouncementDb) : ReadStats :=
  let recipientIds := resolveAnnouncementRecipientUserIds row condoId db
  let readCount := (db.reads.filter fun read => decide (read.announcementId = row.id ∧ read.userId ∈ recipientIds)).length
  ⟨recipientIds.length, readCount, pct readCount recipientIds.length⟩

theorem getReadStats_eq {user : AuthenticatedUser} (found : db.announcement? row.id = some row)
    (manager : isManagementForCondo user row.condoId) :
    ∃ stats, getReadStats user row.id db = .ok stats ∧ stats.toReadStats = statsOf row row.condoId db := by
  obtain ⟨stats, answered⟩ : ∃ stats, getReadStats user row.id db = .ok stats := by
    simp only [getReadStats, bind_eq_ok, orThrow_eq_ok, throwIf_eq_ok, found, Option.some.injEq, exists_eq_left']
    exact ⟨_, (), not_not.mpr manager, rfl⟩
  have answer := answered
  simp only [getReadStats, bind_eq_ok, orThrow_eq_ok, throwIf_eq_ok, pure_eq_ok, found, Option.some.injEq, exists_eq_left']
    at answer
  obtain ⟨-, -, rfl⟩ := answer
  refine ⟨_, answered, ?_⟩
  by_cases none : resolveAnnouncementRecipientUserIds row row.condoId db = []
  · simp [statsOf, none]
  · simp [statsOf, none]

theorem lookup_batchReadStats (nodup : (rows.map Announcement.id).Nodup) (mem : row ∈ rows) :
    (batchReadStats rows condoId db).lookup row.id = some (statsOf row condoId db) := by
  obtain ⟨recipientIds, found, recipients⟩ := lookup_recipientIds db condoId nodup mem
  have counted := card_eq_length (nodup_dedup _) recipients
  unfold batchReadStats
  simp only [lookup_byAnnouncement nodup mem, found, Option.getD_some, filter_filter]
  have readers : ∀ read : Receipt, (decide (read.announcementId = row.id ∧ read.userId ∈ recipientIds) &&
      decide (read.announcementId ∈ rows.map Announcement.id ∧ read.userId ∈
        (recipientIdsByAnnouncement rows condoId db).foldl (fun all entry => all ∪ entry.2) ∅)) =
      decide (read.announcementId = row.id ∧ read.userId ∈ resolveAnnouncementRecipientUserIds row condoId db) := by
    intro read
    rw [← Bool.decide_and, decide_eq_decide, recipients]
    refine ⟨fun both => both.1, fun own => ⟨own, own.1 ▸ mem_map_of_mem mem, ?_⟩⟩
    -- A recipient of the announcement is one of the page.
    rw [mem_union_foldl]
    exact .inr ⟨_, mem_of_lookup found, (recipients _).mpr own.2⟩
  simp only [readers, counted]
  rfl

theorem read_statistics {user : AuthenticatedUser} (keys : (db.announcements.map Announcement.id).Nodup) (once : db.reads.Nodup)
    (manager : isManagementForCondo user condoId) (distinct : (rows.map Announcement.id).Nodup)
    (page : ∀ row ∈ rows, row ∈ db.announcements ∧ row.condoId = condoId ∧ row.deletedAt = none) :
    ∀ row ∈ rows, ∃ batched single, (batchReadStats rows condoId db).lookup row.id = some batched ∧
      getReadStats user row.id db = .ok single ∧ batched.recipientCount = single.recipientCount ∧
      batched.readCount = single.readCount ∧ batched.readPercent = single.readPercent ∧
      batched.readCount ≤ batched.recipientCount := by
  intro row listed
  obtain ⟨stored, inCondo, kept⟩ := page row listed
  subst inCondo
  obtain ⟨single, answered, same⟩ := getReadStats_eq (announcement?_of_mem keys stored kept) manager
  refine ⟨_, single, lookup_batchReadStats distinct listed, answered, ?_, ?_, ?_, readers_le once⟩
  · rw [← same]
  · rw [← same]
  · rw [← same]

namespace Sample

def noticeTo (id : Id) (scope : AnnouncementAudienceScope) (blockIds unitIds : List Id) : Announcement :=
  ⟨id, 1, 9, "Lift", "The lift is closed", .notice, scope, blockIds, unitIds, some 5, none, some 5, false, false, none, 5⟩

def noticeBoard : AnnouncementDb :=
  { nextId := 9, blocks := [], units := [⟨1, 1, 1⟩, ⟨2, 1, 2⟩], ownerships := [⟨1, 2, true⟩, ⟨2, 2, true⟩]
    tenancies := [⟨1, 3, true⟩], assignments := [⟨⟨.tenant, some 1, some 1⟩, 1, 3, none, none⟩]
    announcements := [noticeTo 6 .condo [] [], noticeTo 7 .blocks [1, 1, 2] [], noticeTo 8 .units [] [2]]
    reads := [⟨6, 2⟩, ⟨7, 2⟩, ⟨7, 3⟩, ⟨8, 4⟩], acks := [] }

def staff : AuthenticatedUser := ⟨9, [⟨.managementStaff, some 1, none⟩]⟩

end Sample

theorem read_statistics_blocks : ∃ batched single,
    (batchReadStats Sample.noticeBoard.announcements 1 Sample.noticeBoard).lookup 7 = some batched ∧
      getReadStats Sample.staff 7 Sample.noticeBoard = .ok single ∧ batched.recipientCount = single.recipientCount ∧
      batched.readCount = single.readCount ∧ batched.readPercent = single.readPercent ∧
      batched.readCount ≤ batched.recipientCount :=
  read_statistics (by decide) (by decide) (by decide) (by decide) (by decide)
    (Sample.noticeTo 7 .blocks [1, 1, 2] []) (by decide)

end SmartResidence.Announcements
