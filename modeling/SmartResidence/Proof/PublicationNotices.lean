import SmartResidence.Announcements.Publishing

/-!
# Announcing each publication once

The slot in `notifiedAt` is claimed at once, but that the notice is live was found before.
-/

namespace SmartResidence.Announcements

open Foundation Billing List

abbrev PublishingWorld : Type := World PublishingDb PublishingFlight PublishingNote

def Announcement.Live (now : Instant) (row : Announcement) : Prop :=
  row.deletedAt = none ∧ ∃ published, row.publishedAt = some published ∧ published ≤ now

namespace PublishingNote

def about : PublishingNote → Id
  | published id _ _ _ => id
  | scheduled id => id

def isPublished : PublishingNote → Bool
  | published _ _ _ _ => true
  | scheduled _ => false

def publishes (id : Id) (note : PublishingNote) : Bool := note.isPublished && decide (note.about = id)

def schedules (id : Id) (note : PublishingNote) : Bool := ! note.isPublished && decide (note.about = id)

end PublishingNote

def NotifiedSince (notes : List PublishingNote) (id : Id) : Prop :=
  ∃ before note after, notes = before ++ note :: after ∧ note.publishes id ∧ ∀ later ∈ after, ¬ later.schedules id

structure AnnouncedOnce (world : PublishingWorld) : Prop where
  live : ∀ id condoId row now, .published id condoId row now ∈ world.notes → row.Live now
  once : ∀ id stretch, stretch <:+: world.notes → (∀ note ∈ stretch, ¬ note.schedules id) → stretch.countP (PublishingNote.publishes id) ≤ 1
  found : ∀ now, ∀ row ∈ world.db.announcements, row.Live now → ¬ NotifiedSince world.notes row.id → row ∈ dueScheduled now world.db

def PublishingFlight.claims : PublishingFlight → List Claim
  | .claiming claims _ => claims
  | _ => []

def PublishingFlight.ReadsKept : PublishingFlight → Prop
  | .checking existing _ => existing.deletedAt = none
  | .updating existing _ _ => existing.deletedAt = none
  | _ => True

def Pending (world : PublishingWorld) (id : Id) : Prop := ∃ flight ∈ world.flights, ∃ claim ∈ flight.claims, claim.id = id

def TakesOut (now : Instant) (dto : UpdateAnnouncementDto) : Prop :=
  ∃ publishedAt, dto.publishedAt = some publishedAt ∧ ∀ published, publishedAt = some published → now < published

def Unchanged (db : PublishingDb) (existing : Announcement) : Prop :=
  ∀ row ∈ db.announcements, row.id = existing.id → row.publishedAt = existing.publishedAt ∧ row.deletedAt = existing.deletedAt

/-- Clocks go on, updates commit what they read, and nothing is taken out while it is about to be claimed. -/
def Orderly (world : PublishingWorld) : CallEvent Instant PublishingRequest → Prop
  | .begin now _ => world.db.clock ≤ now
  | .proceed now place => world.db.clock ≤ now ∧ ∀ flight, world.flights[place]? = some flight → match flight with
      | .updating existing dto _ => Unchanged world.db existing ∧ (TakesOut now dto → ¬ Pending world existing.id)
      | .deleting id => ¬ Pending world id
      | _ => True

section

variable {notes : List PublishingNote} {note : PublishingNote} {id : Id}

theorem notifiedSince_concat : NotifiedSince (notes ++ [note]) id ↔
    note.publishes id ∨ (¬ note.schedules id ∧ NotifiedSince notes id) := by
  constructor
  · rintro ⟨before, own, after, same, published, none⟩
    rcases eq_nil_or_concat after with rfl | ⟨front, last, rfl⟩
    · obtain ⟨-, ends⟩ := append_inj' same rfl
      obtain rfl := singleton_inj.mp ends
      exact .inl published
    · rw [concat_eq_append, ← cons_append, ← append_assoc] at same
      obtain ⟨rfl, ends⟩ := append_inj' same rfl
      obtain rfl := singleton_inj.mp ends
      exact .inr ⟨none note (by simp), before, own, front, rfl, published, fun later mem => none later (by simp [mem])⟩
  · rintro (published | ⟨kept, before, own, after, rfl, published, none⟩)
    · exact ⟨notes, note, [], rfl, published, fun _ none => nomatch none⟩
    · refine ⟨before, own, after ++ [note], by simp, published, fun later mem => ?_⟩
      rcases mem_append.mp mem with old | new
      · exact none later old
      · obtain rfl := mem_singleton.mp new
        exact kept

theorem notifiedSince_other (other : note.about ≠ id) : NotifiedSince (notes ++ [note]) id ↔ NotifiedSince notes id := by
  have silent : note.publishes id = false := by simp [PublishingNote.publishes, other]
  have kept : note.schedules id = false := by simp [PublishingNote.schedules, other]
  simp [notifiedSince_concat, silent, kept]

def Once (notes : List PublishingNote) : Prop :=
  ∀ id stretch, stretch <:+: notes → (∀ note ∈ stretch, ¬ note.schedules id) → stretch.countP (PublishingNote.publishes id) ≤ 1

theorem unpublished_suffix {stretch : List PublishingNote} (suffix : stretch <:+ notes) (fresh : ¬ NotifiedSince notes id)
    (none : ∀ note ∈ stretch, ¬ note.schedules id) : stretch.countP (PublishingNote.publishes id) = 0 := by
  rw [countP_eq_zero]
  intro note mem published
  obtain ⟨front, rfl⟩ := suffix
  obtain ⟨early, late, rfl⟩ := append_of_mem mem
  exact fresh ⟨front ++ early, note, late, by simp, published, fun later inside => none later (by simp [inside])⟩

theorem Once.concat (once : Once notes) (fresh : ∀ id, note.publishes id → ¬ NotifiedSince notes id) : Once (notes ++ [note]) := by
  intro id stretch inside none
  rcases infix_concat_iff.mp inside with suffix | old
  · rcases suffix_concat_iff.mp suffix with rfl | ⟨front, rfl, before⟩
    · exact Nat.zero_le _
    · have earlier : ∀ note ∈ front, ¬ note.schedules id := fun other mem => none other (mem_append_left _ mem)
      rw [countP_append, countP_singleton]
      by_cases published : note.publishes id = true
      · rw [unpublished_suffix before (fresh id published) earlier, if_pos published]
      · rw [if_neg published]
        exact once id front before.isInfix earlier
  · exact once id stretch old none

end

/-! ## The invariant -/

structure Tidy (world : PublishingWorld) : Prop where
  ids : Allocated (world.db.announcements.map Announcement.id) world.db.nextId
  marks : ∀ row ∈ world.db.announcements, row.notifiedAt ≠ none ↔ NotifiedSince world.notes row.id
  pending : ∀ id, Pending world id → ∃ row ∈ world.db.announcements, row.id = id ∧ row.Live world.db.clock
  reads : ∀ flight ∈ world.flights, flight.ReadsKept
  live : ∀ id condoId row now, .published id condoId row now ∈ world.notes → row.Live now
  once : Once world.notes

section

variable {world : PublishingWorld} {rest : List PublishingFlight} {now : Instant} {id : Id}

theorem Announcement.Live.later {row : Announcement} {later : Instant} (live : row.Live now) (ordered : now ≤ later) : row.Live later := by
  obtain ⟨kept, published, own, passed⟩ := live
  exact ⟨kept, published, own, passed.trans ordered⟩

variable {flights : List PublishingFlight}

variable {db : PublishingDb}

theorem pending_after {notes : List PublishingNote} (others : ∀ flight ∈ rest, flight ∈ world.flights)
    (pending : Pending (world.after rest ⟨db, flights, notes⟩) id) :
    Pending world id ∨ ∃ flight ∈ flights, ∃ claim ∈ flight.claims, claim.id = id := by
  obtain ⟨flight, mem, claim, listed, own⟩ := pending
  rcases mem_append.mp mem with old | new
  · exact .inl ⟨flight, others flight old, claim, listed, own⟩
  · exact .inr ⟨flight, new, claim, listed, own⟩

theorem Tidy.go (tidy : Tidy world) (others : ∀ flight ∈ rest, flight ∈ world.flights) (ordered : world.db.clock ≤ now)
    (claims : ∀ flight ∈ flights, ∀ claim ∈ flight.claims, ∃ row ∈ world.db.announcements, row.id = claim.id ∧ row.Live now)
    (reads : ∀ flight ∈ flights, flight.ReadsKept) :
    Tidy (world.after rest ⟨{ world.db with clock := now }, flights, []⟩) := by
  have notes : (world.after rest ⟨{ world.db with clock := now }, flights, []⟩).notes = world.notes := append_nil _
  refine ⟨tidy.ids, ?_, fun id pending => ?_, fun flight mem => ?_, ?_, ?_⟩
  · rw [notes]
    exact tidy.marks
  · rcases pending_after others pending with old | ⟨flight, mem, claim, listed, rfl⟩
    · obtain ⟨row, stored, own, live⟩ := tidy.pending id old
      exact ⟨row, stored, own, live.later ordered⟩
    · exact claims flight mem claim listed
  · rcases mem_append.mp mem with old | new
    · exact tidy.reads flight (others flight old)
    · exact reads flight new
  · rw [notes]
    exact tidy.live
  · rw [notes]
    exact tidy.once

theorem Tidy.change (tidy : Tidy world) (others : ∀ flight ∈ rest, flight ∈ world.flights)
    (ordered : world.db.clock ≤ now) {row : Announcement} (stored : row ∈ world.db.announcements)
    (change : Announcement → Announcement) (named : ∀ row, (change row).id = row.id) {notes : List PublishingNote}
    (told : notes = [] ∨ ∃ note, notes = [note] ∧ note.about = row.id)
    (mark : (change row).notifiedAt ≠ none ↔ NotifiedSince (world.notes ++ notes) row.id)
    (safe : (change row).Live now ∨ ¬ Pending world row.id ∧ ∀ flight ∈ flights, flight.claims = [])
    (claims : ∀ flight ∈ flights, ∀ claim ∈ flight.claims, claim.id = row.id ∨ Pending world claim.id)
    (reads : ∀ flight ∈ flights, flight.ReadsKept)
    (live : ∀ id condoId row now, .published id condoId row now ∈ notes → row.Live now)
    (fresh : ∀ note ∈ notes, ∀ id, note.publishes id → ¬ NotifiedSince world.notes id) :
    Tidy (world.after rest ⟨{ world.db with
      announcements := updateBy Announcement.id row.id change world.db.announcements
      clock := now }, flights, notes⟩) := by
  have apart {id : Id} (ne : id ≠ row.id) : NotifiedSince (world.notes ++ notes) id ↔ NotifiedSince world.notes id := by
    rcases told with rfl | ⟨note, rfl, about⟩
    · rw [append_nil]
    · exact notifiedSince_other fun own => ne (own.symm.trans about)
  refine ⟨tidy.ids.updateBy (le_refl _) named, fun other mem => ?_, fun id pending => ?_, fun flight mem => ?_,
    fun id condoId row now noted => ?_, ?_⟩
  · rcases changed_or_kept tidy.ids.distinct stored mem with rfl | ⟨old, ne⟩
    · rw [named]
      exact mark
    · exact (tidy.marks other old).trans (apart ne).symm
  · have kept {id : Id} (own : id = row.id ∨ Pending world id) (calm : (change row).Live now ∨ id ≠ row.id) :
        ∃ other ∈ updateBy Announcement.id row.id change world.db.announcements, other.id = id ∧ other.Live now := by
      by_cases same : id = row.id
      · rcases calm with alive | ne
        · exact ⟨change row, change_mem_updateBy stored, (named row).trans same.symm, alive⟩
        · exact absurd same ne
      · obtain ⟨other, listed, rfl, alive⟩ := tidy.pending id (own.resolve_left same)
        exact ⟨other, mem_updateBy.mpr ⟨other, listed, (if_neg same).symm⟩, rfl, alive.later ordered⟩
    rcases pending_after others pending with old | ⟨flight, mem, claim, listed, rfl⟩
    · exact kept (.inr old) (safe.imp (fun alive => alive) fun calm same => calm.1 (same ▸ old))
    · refine kept (claims flight mem claim listed) (safe.imp (fun alive => alive) fun calm => ?_)
      rw [calm.2 flight mem] at listed
      exact absurd listed not_mem_nil
  · rcases mem_append.mp mem with old | new
    · exact tidy.reads flight (others flight old)
    · exact reads flight new
  · rcases mem_append.mp noted with old | new
    · exact tidy.live id condoId row now old
    · exact live id condoId row now new
  · show Once (world.notes ++ notes)
    rcases told with rfl | ⟨note, rfl, -⟩
    · rw [append_nil]
      exact tidy.once
    · exact tidy.once.concat (fresh note mem_cons_self)

theorem mem_claimIfLive {flight : PublishingFlight} {condoId : Id} {publishedAt : Option Instant}
    (mem : flight ∈ claimIfLive now id condoId publishedAt) :
    flight = .claiming [⟨id, condoId, now⟩] none ∧ ∃ published, publishedAt = some published ∧ published ≤ now := by
  unfold claimIfLive at mem
  split at mem
  · rename_i live
    simp only [Option.any_eq_true, decide_eq_true_eq] at live
    exact ⟨mem_singleton.mp mem, live⟩
  · exact absurd mem not_mem_nil

theorem Tidy.insert (tidy : Tidy world) (others : ∀ flight ∈ rest, flight ∈ world.flights) (ordered : world.db.clock ≤ now)
    {userId : Id} {dto : CreateAnnouncementDto} {publishedAt : Instant} :
    Tidy (world.after rest (proceedPublishing now (.creating userId dto publishedAt) world.db)) := by
  have below {row : Announcement} (stored : row ∈ world.db.announcements) : row.id < world.db.nextId :=
    tidy.ids.below _ (mem_map_of_mem stored)
  refine ⟨tidy.ids.insert rfl (Nat.lt_succ_self _), fun row mem => ?_, fun id pending => ?_, fun flight mem => ?_,
    fun id condoId row now noted => ?_, tidy.once.concat fun _ published => nomatch published⟩
  · show row.notifiedAt ≠ none ↔ NotifiedSince (world.notes ++ [.scheduled world.db.nextId]) row.id
    rcases mem_append.mp mem with old | new
    · rw [notifiedSince_other (Nat.ne_of_gt (below old))]
      exact tidy.marks row old
    · obtain rfl := mem_singleton.mp new
      rw [notifiedSince_concat]
      simp [CreateAnnouncementDto.row, PublishingNote.publishes, PublishingNote.schedules, PublishingNote.isPublished,
        PublishingNote.about]
  · rcases pending_after others pending with old | ⟨flight, mem, claim, listed, rfl⟩
    · obtain ⟨row, stored, own, live⟩ := tidy.pending id old
      exact ⟨row, mem_append_left _ stored, own, live.later ordered⟩
    · obtain ⟨rfl, published, own, passed⟩ := mem_claimIfLive mem
      obtain rfl := mem_singleton.mp listed
      exact ⟨_, mem_append_right _ mem_cons_self, rfl, rfl, published, own, passed⟩
  · rcases mem_append.mp mem with old | new
    · exact tidy.reads flight (others flight old)
    · obtain ⟨rfl, -⟩ := mem_claimIfLive new
      trivial
  · rcases mem_append.mp noted with old | new
    · exact tidy.live id condoId row now old
    · cases mem_singleton.mp new

theorem write_ok {after : PublishingDb} {change : Announcement → Announcement}
    (written : db.write id change = .ok after) : ∃ row ∈ db.announcements, row.id = id ∧
      after = { db with announcements := updateBy Announcement.id id change db.announcements } := by
  unfold PublishingDb.write at written
  simp only [bind_eq_ok, orThrow_eq_ok, pure_eq_ok] at written
  obtain ⟨row, found, rfl⟩ := written
  obtain ⟨stored, own⟩ := mem_of_findBy found
  exact ⟨row, stored, own, rfl⟩

section

variable {existing row : Announcement} {dto : UpdateAnnouncementDto} {unpublished : Bool}

theorem change_id : (dto.change existing unpublished row).id = row.id := by
  unfold UpdateAnnouncementDto.change
  cases dto.audienceChanged <;> rfl

theorem change_notifiedAt : (dto.change existing unpublished row).notifiedAt = if unpublished then none else row.notifiedAt := by
  unfold UpdateAnnouncementDto.change
  cases dto.audienceChanged <;> rfl

theorem change_deletedAt : (dto.change existing unpublished row).deletedAt = row.deletedAt := by
  unfold UpdateAnnouncementDto.change
  cases dto.audienceChanged <;> rfl

theorem change_publishedAt : (dto.change existing unpublished row).publishedAt = dto.publishedAt.getD row.publishedAt := by
  unfold UpdateAnnouncementDto.change
  cases dto.audienceChanged <;> rfl

theorem change_live (live : row.Live now) (stays : ¬ TakesOut now dto) : (dto.change existing unpublished row).Live now := by
  obtain ⟨kept, published, own, passed⟩ := live
  refine ⟨change_deletedAt.trans kept, ?_⟩
  rw [change_publishedAt]
  cases given : dto.publishedAt with
  | none => exact ⟨published, own, passed⟩
  | some publishedAt =>
    by_contra never
    refine stays ⟨publishedAt, given, fun date own => ?_⟩
    by_contra early
    exact never ⟨date, own, not_lt.mp early⟩

end

theorem Tidy.update (tidy : Tidy world) (others : ∀ flight ∈ rest, flight ∈ world.flights) (ordered : world.db.clock ≤ now)
    {existing : Announcement} {dto : UpdateAnnouncementDto} {unpublished : Bool}
    (listed : .updating existing dto unpublished ∈ world.flights) (unchanged : Unchanged world.db existing)
    (calm : TakesOut now dto → ¬ Pending world existing.id) :
    Tidy (world.after rest (proceedPublishing now (.updating existing dto unpublished) world.db)) := by
  dsimp only [proceedPublishing]
  cases written : PublishingDb.write { world.db with clock := now } existing.id (dto.change existing unpublished) with
  | error failure => exact tidy.go others ordered (fun _ none => nomatch none) fun _ none => nomatch none
  | ok after =>
    obtain ⟨row, stored, own, rfl⟩ := write_ok written
    have marks := tidy.marks row stored
    have same := unchanged row stored own
    have live : ∀ flight ∈ claimIfLive now existing.id existing.condoId (dto.publishedAt.getD existing.publishedAt),
        (dto.change existing unpublished row).Live now := by
      intro flight mem
      obtain ⟨-, published, set, passed⟩ := mem_claimIfLive mem
      refine ⟨change_deletedAt.trans (same.2.trans (tidy.reads _ listed)), published, ?_, passed⟩
      rw [change_publishedAt, same.1]
      exact set
    rw [← own]
    refine tidy.change others ordered stored (dto.change existing unpublished) (fun _ => change_id) ?_ ?_ ?_ (fun flight mem claim inside => ?_)
      (fun flight mem => ?_) (fun _ _ _ _ noted => ?_) fun note noted _ published => ?_
    · cases unpublished with
      | true => exact .inr ⟨_, rfl, rfl⟩
      | false => exact .inl rfl
    · rw [change_notifiedAt]
      cases unpublished with
      | true => simp [notifiedSince_concat, PublishingNote.publishes, PublishingNote.schedules, PublishingNote.isPublished,
          PublishingNote.about]
      | false => simpa using marks
    · by_cases takesOut : TakesOut now dto
      · by_cases claims : claimIfLive now existing.id existing.condoId (dto.publishedAt.getD existing.publishedAt) = []
        · exact .inr ⟨own ▸ calm takesOut, fun flight mem => absurd mem (own ▸ claims ▸ not_mem_nil)⟩
        · obtain ⟨flight, mem⟩ := exists_mem_of_ne_nil _ claims
          exact .inl (live flight mem)
      · by_cases pending : Pending world row.id
        · obtain ⟨other, found, twin, alive⟩ := tidy.pending row.id pending
          obtain rfl := eq_of_key_eq tidy.ids.distinct found stored twin
          exact .inl (change_live (alive.later ordered) takesOut)
        · by_cases claims : claimIfLive now existing.id existing.condoId (dto.publishedAt.getD existing.publishedAt) = []
          · exact .inr ⟨pending, fun flight mem => absurd mem (own ▸ claims ▸ not_mem_nil)⟩
          · obtain ⟨flight, mem⟩ := exists_mem_of_ne_nil _ claims
            exact .inl (live flight mem)
    · obtain ⟨rfl, -⟩ := mem_claimIfLive mem
      obtain rfl := mem_singleton.mp inside
      exact .inl rfl
    · obtain ⟨rfl, -⟩ := mem_claimIfLive mem
      trivial
    · cases unpublished with
      | true => cases mem_singleton.mp noted
      | false => exact absurd noted not_mem_nil
    · cases unpublished with
      | true =>
        obtain rfl := mem_singleton.mp noted
        exact nomatch published
      | false => exact absurd noted not_mem_nil

theorem Tidy.delete (tidy : Tidy world) (others : ∀ flight ∈ rest, flight ∈ world.flights) (ordered : world.db.clock ≤ now)
    (calm : ¬ Pending world id) : Tidy (world.after rest (proceedPublishing now (.deleting id) world.db)) := by
  dsimp only [proceedPublishing]
  cases written : PublishingDb.write { world.db with clock := now } id fun row => { row with deletedAt := some now } with
  | error failure => exact tidy.go others ordered (fun _ none => nomatch none) fun _ none => nomatch none
  | ok after =>
    obtain ⟨row, stored, rfl, rfl⟩ := write_ok written
    have mark : row.notifiedAt ≠ none ↔ NotifiedSince (world.notes ++ []) row.id := by
      rw [append_nil]
      exact tidy.marks row stored
    exact tidy.change others ordered stored (fun row => { row with deletedAt := some now }) (fun _ => rfl) (.inl rfl) mark (.inr ⟨calm, fun _ none => nomatch none⟩)
      (fun _ none => nomatch none) (fun _ none => nomatch none) (fun _ _ _ _ none => nomatch none) fun _ none => nomatch none

theorem claimable_some {row : Announcement} (found : db.claimable? id = some row) :
    row ∈ db.announcements ∧ row.id = id ∧ row.notifiedAt = none := by
  have pick := List.find?_some found
  rw [decide_eq_true_eq] at pick
  exact ⟨mem_of_find?_eq_some found, pick⟩

theorem Tidy.claim (tidy : Tidy world) (others : ∀ flight ∈ rest, flight ∈ world.flights) (ordered : world.db.clock ≤ now)
    {claim : Claim} {claims : List Claim} {sweep : Option Instant} (listed : .claiming (claim :: claims) sweep ∈ world.flights) :
    Tidy (world.after rest (proceedPublishing now (.claiming (claim :: claims) sweep) world.db)) := by
  have waiting (other : Claim) (mem : other ∈ claim :: claims) : Pending world other.id := ⟨_, listed, other, mem, rfl⟩
  dsimp only [proceedPublishing, claimAndNotify]
  cases found : PublishingDb.claimable? { world.db with clock := now } claim.id with
  | none =>
    refine tidy.go others ordered (fun flight mem other inside => ?_) (forall_mem_singleton.mpr trivial)
    obtain rfl := mem_singleton.mp mem
    obtain ⟨row, stored, own, live⟩ := tidy.pending other.id (waiting other (mem_cons_of_mem _ inside))
    exact ⟨row, stored, own, live.later ordered⟩
  | some row =>
    obtain ⟨stored, own, free⟩ := claimable_some found
    obtain ⟨other, twin, same, alive⟩ := tidy.pending claim.id (waiting claim mem_cons_self)
    obtain rfl := eq_of_key_eq tidy.ids.distinct twin stored (same.trans own.symm)
    have live := alive.later ordered
    have unpublished : ¬ NotifiedSince world.notes other.id := fun since => (tidy.marks other stored).mpr since free
    have single : PublishingDb.claim { world.db with clock := now } (sweep.getD now) claim.id = { world.db with
          announcements := updateBy Announcement.id other.id (Announcement.notify (sweep.getD now)) world.db.announcements
          clock := now } := by
      unfold PublishingDb.claim
      rw [updateWhere_eq_updateBy (Announcement.notify (sweep.getD now)) tidy.ids.distinct stored
        (decide_eq_true ⟨own, free⟩) fun _ pick => (of_decide_eq_true pick).1.trans own.symm]
    rw [single]
    refine tidy.change others ordered stored (Announcement.notify (sweep.getD now)) (fun _ => rfl) (.inr ⟨.published claim.id claim.condoId other now, rfl, own.symm⟩)
      ?_ (.inl live)
      (fun flight mem other inside => ?_) (forall_mem_singleton.mpr trivial) (fun _ _ _ _ noted => ?_)
      fun note noted id published => ?_
    · rw [notifiedSince_concat]
      simp [Announcement.notify, PublishingNote.publishes, PublishingNote.isPublished, PublishingNote.about, own]
    · obtain rfl := mem_singleton.mp mem
      exact .inr (waiting other (mem_cons_of_mem _ inside))
    · cases mem_singleton.mp noted
      exact live
    · obtain rfl := mem_singleton.mp noted
      have about : claim.id = id := of_decide_eq_true published
      rw [← about, ← own]
      exact unpublished

theorem readManaged_kept {user : AuthenticatedUser} {message : String} {existing : Announcement}
    (read : readManaged user id message db = .ok existing) : existing.deletedAt = none := by
  unfold readManaged AnnouncementDb.announcement? at read
  simp only [bind_eq_ok, orThrow_eq_ok, pure_eq_ok] at read
  obtain ⟨row, found, _, -, rfl⟩ := read
  have pick := List.find?_some found
  exact (of_decide_eq_true pick).2

theorem begin_tidy (tidy : Tidy world) {request : PublishingRequest} (ordered : world.db.clock ≤ now) :
    Tidy (world.after world.flights (beginPublishing now request world.db)) := by
  have stay {flights : List PublishingFlight} (claims : ∀ flight ∈ flights, flight.claims = [])
      (reads : ∀ flight ∈ flights, flight.ReadsKept) :
      Tidy (world.after world.flights ⟨{ world.db with clock := now }, flights, []⟩) := by
    refine tidy.go (fun _ mem => mem) ordered (fun flight mem claim inside => ?_) reads
    rw [claims flight mem] at inside
    exact absurd inside not_mem_nil
  cases request with
  | create user dto =>
    dsimp only [beginPublishing]
    cases readCreate now user dto { world.db with clock := now } with
    | error failure => exact stay (fun _ none => nomatch none) fun _ none => nomatch none
    | ok publishedAt => exact stay (forall_mem_singleton.mpr rfl) (forall_mem_singleton.mpr trivial)
  | update user id dto =>
    dsimp only [beginPublishing]
    cases read : readManaged user id "Only management can update announcements for this condo" { world.db with clock := now } with
    | error failure => exact stay (fun _ none => nomatch none) fun _ none => nomatch none
    | ok existing => exact stay (forall_mem_singleton.mpr rfl) (forall_mem_singleton.mpr (readManaged_kept read))
  | softDelete user id =>
    dsimp only [beginPublishing]
    cases readManaged user id _ { world.db with clock := now } with
    | error failure => exact stay (fun _ none => nomatch none) fun _ none => nomatch none
    | ok existing => exact stay (forall_mem_singleton.mpr rfl) (forall_mem_singleton.mpr trivial)
  | publishDueScheduled =>
    refine tidy.go (fun _ mem => mem) ordered (fun flight mem claim inside => ?_) (forall_mem_singleton.mpr trivial)
    obtain rfl := mem_singleton.mp mem
    obtain ⟨row, due, rfl⟩ := mem_map.mp inside
    obtain ⟨stored, pick⟩ := mem_filter.mp due
    simp only [Bool.and_eq_true, decide_eq_true_eq, Option.any_eq_true] at pick
    exact ⟨row, stored, rfl, pick.1.1, pick.2⟩

theorem proceed_tidy (tidy : Tidy world) (others : ∀ flight ∈ rest, flight ∈ world.flights) {place : Nat}
    {flight : PublishingFlight} (found : world.flights[place]? = some flight) (orderly : Orderly world (.proceed now place)) :
    Tidy (world.after rest (proceedPublishing now flight world.db)) := by
  obtain ⟨ordered, safe⟩ := orderly
  have own := safe flight found
  have listed := mem_of_getElem? found
  cases flight with
  | creating userId dto publishedAt => exact tidy.insert others ordered
  | checking existing dto =>
    have kept : existing.deletedAt = none := tidy.reads _ listed
    dsimp only [proceedPublishing]
    cases checkUpdate existing dto { world.db with clock := now } with
    | error failure => exact tidy.go others ordered (fun _ none => nomatch none) fun _ none => nomatch none
    | ok checked =>
      refine tidy.go others ordered (fun flight mem claim inside => ?_) (forall_mem_singleton.mpr kept)
      obtain rfl := mem_singleton.mp mem
      exact absurd inside not_mem_nil
  | updating existing dto unpublished => exact tidy.update others ordered listed own.1 own.2
  | deleting id => exact tidy.delete others ordered own
  | claiming claims sweep =>
    cases claims with
    | nil => exact tidy.go others ordered (fun _ none => nomatch none) fun _ none => nomatch none
    | cons claim claims => exact tidy.claim others ordered listed

end

/-! ## Runs -/

section

variable {initial : PublishingDb} {finish : PublishingWorld} {events : List (CallEvent Instant PublishingRequest)}

theorem tidy_idle (empty : initial.announcements = []) : Tidy (World.idle initial) := by
  have none {row : Announcement} : row ∉ (World.idle initial : PublishingWorld).db.announcements := by
    show row ∉ initial.announcements
    rw [empty]
    exact not_mem_nil
  refine ⟨?_, fun row mem => absurd mem none, ?_, (fun _ none => nomatch none), (fun _ _ _ _ none => nomatch none), ?_⟩
  · show Allocated (initial.announcements.map Announcement.id) initial.nextId
    rw [empty]
    exact Allocated.nil
  · rintro id ⟨flight, mem, -⟩
    exact absurd mem not_mem_nil
  · intro id stretch inside _
    obtain rfl := infix_nil.mp inside
    exact Nat.zero_le _

theorem Tidy.announcedOnce {world : PublishingWorld} (tidy : Tidy world) : AnnouncedOnce world := by
  refine ⟨tidy.live, tidy.once, fun now row stored live fresh => ?_⟩
  obtain ⟨kept, published, own, passed⟩ := live
  have free : row.notifiedAt = none := by
    by_contra notified
    exact fresh ((tidy.marks row stored).mp notified)
  refine mem_filter.mpr ⟨stored, ?_⟩
  simp [kept, free, own, passed]

/-- In orderly runs every publication is announced once, when it is live. -/
theorem announced_once (empty : initial.announcements = [])
    (run : Run (Guarded Orderly publishingService.Step) (World.idle initial) events finish) : AnnouncedOnce finish := by
  have tidy : Tidy finish := Service.good_run (fun _ _ _ tidy orderly => begin_tidy tidy orderly)
    (fun _ _ _ _ _ tidy orderly found parts => proceed_tidy tidy (fun _ member => parts.mem_iff.mpr (List.mem_cons_of_mem _ member))
      found orderly) (tidy_idle empty) run
  exact tidy.announcedOnce

end

namespace Sample

def manager : AuthenticatedUser := ⟨1, [⟨.managementAdmin, some 1, none⟩]⟩

def blank : PublishingDb :=
  { nextId := 1, blocks := [], units := [], ownerships := [], tenancies := [], assignments := [], announcements := [], reads := []
    acks := [], attachments := [], clock := 0 }

def waterOff (publishedAt : Option Instant) : CreateAnnouncementDto :=
  { condoId := 1, title := "Water", body := "Off", category := none, audienceScope := none, blockIds := [], unitIds := []
    publishedAt := publishedAt, expiresAt := none, requiresAck := none, pinned := none, attachmentIds := [] }

def postpone : UpdateAnnouncementDto :=
  { title := none, body := none, category := none, audienceScope := none, blockIds := none, unitIds := none
    publishedAt := some (some 100), expiresAt := none, requiresAck := none, pinned := none }

def postponed : List (CallEvent Instant PublishingRequest) :=
  [.begin 0 (.create manager (waterOff (some 10))), .proceed 1 0, .begin 10 .publishDueScheduled, .begin 11 (.update manager 1 postpone),
    .proceed 12 1, .proceed 13 1, .proceed 14 0]

def immediate : List (CallEvent Instant PublishingRequest) :=
  [.begin 0 (.create manager (waterOff none)), .proceed 1 0, .proceed 2 0]

def early : PublishingNote → Bool
  | .published _ _ row now => ! row.publishedAt.any fun published => decide (published ≤ now)
  | .scheduled _ => false

end Sample

theorem published_early : ∃ initial events finish, initial.announcements = [] ∧
    Run publishingService.Step (World.idle initial) events finish ∧ ¬ AnnouncedOnce finish := by
  have early : ((World.idle Sample.blank).run publishingService Sample.postponed).notes.any Sample.early = true := by decide +kernel
  refine ⟨Sample.blank, _, _, rfl, Service.run_reached _ _ Sample.postponed, fun announced => ?_⟩
  obtain ⟨note, member, told⟩ := List.any_eq_true.mp early
  cases note with
  | scheduled id => cases told
  | published id condoId row now =>
      obtain ⟨-, published, own, passed⟩ := announced.live id condoId row now member
      simp [Sample.early, own, not_lt.mpr passed] at told

theorem announced_at_once : ∃ finish : PublishingWorld, finish.notes.map PublishingNote.isPublished = [false, true] ∧
    AnnouncedOnce finish := by
  have notes : ((World.idle Sample.blank).run publishingService Sample.immediate).notes.map PublishingNote.isPublished =
      [false, true] := by decide +kernel
  have meets : Run.Meets Orderly (fun world event => world.next publishingService event) (World.idle Sample.blank) Sample.immediate := by
    refine ⟨le_refl _, ⟨by decide, fun flight found => ?_⟩, ⟨by decide, fun flight found => ?_⟩, trivial⟩
    · obtain rfl := Option.some.inj found
      trivial
    · obtain rfl := Option.some.inj found
      trivial
  exact ⟨_, notes, announced_once rfl (Service.guarded_reached meets)⟩

end SmartResidence.Announcements
