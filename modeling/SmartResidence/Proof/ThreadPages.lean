import SmartResidence.Foundation.Pages
import SmartResidence.Threads.ThreadsService

/-!
# Pages of threads

The page is cut before the state of the clocks is looked at, and threads of the same last message come in any order.
-/

namespace SmartResidence.Threads

open Foundation Billing List

variable {now : Instant} {db : ThreadDb} {user : AuthenticatedUser} {dto : ListThreadsDto}

abbrev Newer (first second : Thread) : Prop := second.lastMessageAt ≤ first.lastMessageAt

def listIn (now : Instant) (db : ThreadDb) (user : AuthenticatedUser) (dto : ListThreadsDto) (order : List Thread) : ThreadPage :=
  let page := ((order.drop dto.offset).take dto.limit).map fun thread => ⟨thread, computeSlaState now thread⟩
  { items := page.filter fun item => dto.slaState.all fun state => decide (item.slaState = state)
    total := (db.threads.filter (listed user dto)).length }

theorem newer_trans (first second third : Thread) (one : Newer first second) (two : Newer second third) : Newer first third :=
  le_trans two one

theorem newestFirst_arranged (threads : List Thread) : Arranged Newer threads (newestFirst threads) :=
  arranged_mergeSort newer_trans (fun _ _ => le_total _ _) threads

def showsState (now : Instant) (dto : ListThreadsDto) (thread : Thread) : Bool :=
  dto.slaState.all fun state => decide (computeSlaState now thread = state)

def matching (now : Instant) (db : ThreadDb) (user : AuthenticatedUser) (dto : ListThreadsDto) : List Thread :=
  db.threads.filter fun thread => listed user dto thread && showsState now dto thread

def ListThreadsDto.page (dto : ListThreadsDto) (page : Nat) : ListThreadsDto := { dto with offset := page * dto.limit }

/-- In whichever order the threads come for each page, the pages up to the total have each matching thread once. -/
def PagesComplete (now : Instant) (db : ThreadDb) (user : AuthenticatedUser) (dto : ListThreadsDto) : Prop :=
  ∀ orders : Nat → List Thread, (∀ page, Arranged Newer (db.threads.filter (listed user dto)) (orders page)) →
    ((List.range ((list now db user dto).total / dto.limit + 1)).flatMap fun page =>
      (listIn now db user (dto.page page) (orders page)).items.map ThreadItem.thread).Perm (matching now db user dto) ∧
    ∀ page, (listIn now db user (dto.page page) (orders page)).total = (matching now db user dto).length

def TiedPages (threads : List Thread) (limit : Nat) : Prop :=
  ∃ earlier last next later, newestFirst threads = earlier ++ last :: next :: later ∧ limit ∣ earlier.length + 1 ∧
    last.lastMessageAt = next.lastMessageAt

theorem tiedPages_iff {threads : List Thread} {limit : Nat} :
    TiedPages threads limit ↔ ∃ page, TiedAt Newer (newestFirst threads) ((page + 1) * limit) := by
  constructor
  · rintro ⟨earlier, last, next, later, shape, ⟨count, place⟩, same⟩
    cases count with
    | zero => omega
    | succ page =>
      refine ⟨page, earlier, last, next, later, shape, ?_, same.le⟩
      rw [place, Nat.mul_comm]
  · rintro ⟨page, earlier, last, next, later, shape, place, tie⟩
    have sorted := (newestFirst_arranged threads).sorted
    rw [shape] at sorted
    obtain ⟨first, -⟩ := pairwise_cons.mp (pairwise_append.mp sorted).2.1
    exact ⟨earlier, last, next, later, shape, ⟨page + 1, place.trans (Nat.mul_comm _ _)⟩,
      le_antisymm tie (first next mem_cons_self)⟩

theorem matching_eq : matching now db user dto = (db.threads.filter (listed user dto)).filter (showsState now dto) := by
  rw [filter_filter]
  exact filter_congr fun _ _ => Bool.and_comm _ _

theorem items_listIn {order : List Thread} {page : Nat} :
    (listIn now db user (dto.page page) order).items.map ThreadItem.thread =
      (pageAt dto.limit page order).filter (showsState now dto) := by
  simp only [listIn, filter_map, map_map]
  exact map_id _

section

variable (all : ∀ thread ∈ db.threads.filter (listed user dto), showsState now dto thread)
include all

theorem matching_of_all : matching now db user dto = db.threads.filter (listed user dto) := by
  rw [matching_eq]
  exact filter_eq_self.mpr all

theorem items_of_all {order : List Thread} (arranged : Arranged Newer (db.threads.filter (listed user dto)) order) (page : Nat) :
    (listIn now db user (dto.page page) order).items.map ThreadItem.thread = pageAt dto.limit page order := by
  rw [items_listIn]
  apply filter_eq_self.mpr
  intro thread mem
  exact all thread (arranged.perm.mem_iff.mp (mem_of_mem_drop (mem_of_mem_take mem)))

theorem pagesComplete_of_all : PagesComplete now db user dto ↔ ∀ orders : Nat → List Thread,
    (∀ page, Arranged Newer (db.threads.filter (listed user dto)) (orders page)) →
      ((List.range ((db.threads.filter (listed user dto)).length / dto.limit + 1)).flatMap fun page =>
        pageAt dto.limit page (orders page)).Perm (db.threads.filter (listed user dto)) := by
  apply forall_congr'
  intro orders
  apply forall_congr'
  intro each
  rw [matching_of_all all]
  simp only [items_of_all all (each _)]
  exact and_iff_left fun _ => rfl

end

/-- The pages are complete just if the state of the clocks leaves no thread out, and no tie is at the end of a page. -/
theorem thread_pages (keys : (db.threads.map Thread.id).Nodup) (pos : 0 < dto.limit) :
    PagesComplete now db user dto ↔
      (∀ thread ∈ db.threads, listed user dto thread → ∀ state, dto.slaState = some state → computeSlaState now thread = state) ∧
      ¬ TiedPages (db.threads.filter (listed user dto)) dto.limit := by
  have distinct : (db.threads.filter (listed user dto)).Nodup := (List.Nodup.of_map _ keys).filter _
  have arranged := newestFirst_arranged (db.threads.filter (listed user dto))
  have shows : (∀ thread ∈ db.threads, listed user dto thread → ∀ state, dto.slaState = some state →
      computeSlaState now thread = state) ↔ ∀ thread ∈ db.threads.filter (listed user dto), showsState now dto thread := by
    simp [showsState, Option.all_eq_true, and_imp]
  have covers := pages_perm_iff newer_trans (fun _ => le_refl _) arranged distinct pos
  rw [shows, tiedPages_iff, not_exists, ← covers]
  constructor
  · intro complete
    have counted : (db.threads.filter (listed user dto)).length = (matching now db user dto).length :=
      (complete (fun _ => newestFirst (db.threads.filter (listed user dto))) fun _ => arranged).2 0
    rw [matching_eq] at counted
    have all := List.length_filter_eq_length_iff.mp counted.symm
    exact ⟨all, (pagesComplete_of_all all).mp complete⟩
  · rintro ⟨all, each⟩
    exact (pagesComplete_of_all all).mpr each

namespace Sample

def ticket (id : Id) (due lastMessageAt : Instant) : Thread :=
  { id := id, condoId := 1, unitId := none, createdByUserId := 5, assignedToUserId := none, subject := "Tap", category := .maintenance
    priority := .normal, status := .opened, slaPolicyId := none, firstResponseDueAt := none, resolutionDueAt := some due
    firstRespondedAt := none, resolvedAt := none, closedAt := none, resolutionProposedAt := none
    resolutionProposedByUserId := none, resolutionProposedMessageId := none, reopenCount := 0, lastMessageAt := lastMessageAt
    repeatComplainant := false, slaEscalatedAt := none, createdAt := 0 }

def desk (threads : List Thread) : ThreadDb := ⟨10, [⟨1, .null⟩], [], [], [], threads, [], ThreadDb.no_policies⟩

def deskStaff : AuthenticatedUser := ⟨2, [⟨.managementStaff, some 1, none⟩]⟩

def pagesOf (limit : Nat) (slaState : Option SlaState) : ListThreadsDto := ⟨none, none, none, none, slaState, limit, 0⟩

end Sample

theorem pages_misleading :
    ¬ PagesComplete 100 (Sample.desk [Sample.ticket 1 50 8, Sample.ticket 2 900 9]) Sample.deskStaff (Sample.pagesOf 25 (some .breached)) ∧
    ¬ PagesComplete 100 (Sample.desk [Sample.ticket 1 50 8, Sample.ticket 2 50 8]) Sample.deskStaff (Sample.pagesOf 1 none) := by
  constructor
  · intro complete
    have counted := (complete _ fun _ => newestFirst_arranged _).2 0
    revert counted
    decide +kernel
  · intro complete
    let orders := fun page : Nat =>
      if page = 0 then [Sample.ticket 1 50 8, Sample.ticket 2 50 8] else [Sample.ticket 2 50 8, Sample.ticket 1 50 8]
    have each : ∀ page, Arranged Newer ((Sample.desk [Sample.ticket 1 50 8, Sample.ticket 2 50 8]).threads.filter
        (listed Sample.deskStaff (Sample.pagesOf 1 none))) (orders page) := by
      intro page
      by_cases first : page = 0
      · exact ⟨by simp only [orders, first, if_true]; decide, by simp only [orders, first, if_true]; decide⟩
      · exact ⟨by simp only [orders, first, if_false]; decide, by simp only [orders, first, if_false]; decide⟩
    have pages := (complete orders each).1.nodup_iff
    revert pages
    decide +kernel

theorem pages_of_breached : PagesComplete 100 (Sample.desk [Sample.ticket 1 50 8, Sample.ticket 2 50 8]) Sample.deskStaff
    (Sample.pagesOf 25 (some .breached)) := by
  refine (thread_pages (by decide) (by decide)).mpr ⟨?_, ?_⟩
  · intro thread member _ state wanted
    cases wanted
    revert thread
    decide +kernel
  · rintro ⟨earlier, last, next, later, shape, page, -⟩
    have length := congrArg List.length shape
    have two : ((Sample.desk [Sample.ticket 1 50 8, Sample.ticket 2 50 8]).threads.filter
      (listed Sample.deskStaff (Sample.pagesOf 25 (some .breached)))).length = 2 := by decide +kernel
    rw [newestFirst, List.length_mergeSort, two, List.length_append, List.length_cons, List.length_cons] at length
    have only : earlier.length = 0 := by omega
    rw [only] at page
    revert page
    decide

end SmartResidence.Threads
