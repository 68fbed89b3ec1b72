import SmartResidence.Auth.AuthService
import SmartResidence.Proof.ThreadClocks
import SmartResidence.Users.UserDataExport

/-!
# Data exports and the threads that their users may read

A participant row is left by every read and never removed, and the messages of an export are of all kinds.
-/

namespace SmartResidence.Users

open Foundation Billing Auth Threads Cache

section

variable (now : Instant) (user : AuthenticatedUser) (tables : ExportTables)

def ShowsNoMore (bundle : UserDataExportBundle) : Prop :=
  ∀ exported ∈ bundle.threads, ∃ detail, getOne now tables.threads user exported.thread.id = .ok detail ∧
    detail.thread = exported.thread ∧ ∀ message ∈ exported.messages, message ∈ detail.messages

def Participates (thread : Thread) : Prop := ∃ row ∈ tables.participants, row.userId = user.id ∧ row.threadId = thread.id

/-- The threads that the user takes part in still concern him, and what he created or takes part in has no internal note. -/
structure NothingHidden : Prop where
  concerned : ∀ thread ∈ tables.threads.threads, Participates user tables thread → Concerned user thread
  noNotes : ∀ thread ∈ tables.threads.threads, thread.createdByUserId = user.id ∨ Participates user tables thread →
    ∀ message ∈ tables.threads.messages, message.threadId = thread.id → message.kind ≠ .internalNote

end

structure ExportLaw (ids : Id ↪ Uuid) (db : ExportDb) : Prop where
  shown : ∀ now user bundle, isManagement user = false → buildBundle now user db.data = .ok bundle →
    (ShowsNoMore now user db.data bundle ↔ NothingHidden user db.data)
  returned : ∀ now user exportId bundle, getExport ids now user exportId db = .ok bundle → bundle.profile.id = user.id

section

variable {now : Instant} {user : AuthenticatedUser} {tables : ExportTables} {bundle : UserDataExportBundle} {thread : Thread}
  {message : ThreadMessage}

theorem participantThreadIds_iff : thread.id ∈ participantThreadIds user.id tables ↔ Participates user tables thread := by
  unfold participantThreadIds Participates
  simp [and_assoc]

theorem mem_loadThreads {exported : ExportedThread} : exported ∈ loadThreads user.id tables ↔
    ∃ thread ∈ tables.threads.threads, (thread.createdByUserId = user.id ∨ Participates user tables thread) ∧
      exportThread tables thread = exported := by
  unfold loadThreads
  simp only [List.mem_map, List.mem_mergeSort, List.mem_filter, decide_eq_true_eq, participantThreadIds_iff, and_assoc]

theorem mem_exportThread : message ∈ (exportThread tables thread).messages ↔
    message ∈ tables.threads.messages ∧ message.threadId = thread.id := by
  unfold exportThread
  simp

theorem buildBundle_ok (built : buildBundle now user tables = .ok bundle) :
    bundle.threads = loadThreads user.id tables ∧ bundle.profile.id = user.id := by
  simp only [buildBundle, bind_eq_ok, orThrow_eq_ok, pure_eq_ok] at built
  obtain ⟨row, found, rfl⟩ := built
  exact ⟨rfl, (mem_of_findBy found).2⟩

theorem getOne_resident {detail : ThreadDetail} (resident : isManagement user = false)
    (found : tables.threads.thread? thread.id = some thread) (read : getOne now tables.threads user thread.id = .ok detail) :
    Concerned user thread ∧ detail.thread = thread ∧ ∀ message, message ∈ detail.messages ↔
      message ∈ tables.threads.messages ∧ message.threadId = thread.id ∧ message.kind ≠ .internalNote := by
  simp only [getOne, bind_eq_ok, pure_eq_ok] at read
  obtain ⟨loaded, authorized, rfl⟩ := read
  obtain ⟨also, allowed⟩ := loadAndAuthorize_ok.mp authorized
  obtain rfl := Option.some.inj (also.symm.trans found)
  refine ⟨?_, rfl, ?_⟩
  · rcases mayAccess_iff.mp allowed with ⟨management, -⟩ | ⟨-, concerned⟩
    · cases management.symm.trans resident
    · exact concerned
  · simp [resident]

theorem getOne_of_concerned (resident : isManagement user = false) (found : tables.threads.thread? thread.id = some thread)
    (concerned : Concerned user thread) : ∃ detail, getOne now tables.threads user thread.id = .ok detail := by
  have loaded := loadAndAuthorize_ok.mpr ⟨found, mayAccess_iff.mpr (.inr ⟨resident, concerned⟩)⟩
  unfold getOne
  rw [loaded]
  exact ⟨_, rfl⟩

theorem showsNoMore_iff (nodup : (tables.threads.threads.map Thread.id).Nodup) (resident : isManagement user = false)
    (built : buildBundle now user tables = .ok bundle) : ShowsNoMore now user tables bundle ↔ NothingHidden user tables := by
  have found : ∀ thread ∈ tables.threads.threads, tables.threads.thread? thread.id = some thread :=
    fun thread stored => findBy_of_mem nodup stored
  unfold ShowsNoMore
  rw [(buildBundle_ok built).1]
  constructor
  · intro shown
    have readable : ∀ thread ∈ tables.threads.threads, thread.createdByUserId = user.id ∨ Participates user tables thread →
        Concerned user thread ∧ ∀ message ∈ tables.threads.messages, message.threadId = thread.id →
          message.kind ≠ .internalNote := by
      intro thread stored involved
      obtain ⟨detail, read, -, messages⟩ := shown _ (mem_loadThreads.mpr ⟨thread, stored, involved, rfl⟩)
      obtain ⟨concerned, -, visible⟩ := getOne_resident resident (found thread stored) read
      refine ⟨concerned, fun message mem own => ?_⟩
      have shown := messages message (mem_exportThread.mpr ⟨mem, own⟩)
      exact ((visible message).mp shown).2.2
    constructor
    · exact fun thread stored participates => (readable thread stored (.inr participates)).1
    · exact fun thread stored involved => (readable thread stored involved).2
  · intro ⟨concerned, noNotes⟩ exported mem
    obtain ⟨thread, stored, involved, rfl⟩ := mem_loadThreads.mp mem
    have concerns : Concerned user thread := by
      rcases involved with created | participates
      · exact .inl created
      · exact concerned thread stored participates
    obtain ⟨detail, read⟩ : ∃ detail, getOne now tables.threads user thread.id = .ok detail :=
      getOne_of_concerned resident (found thread stored) concerns
    obtain ⟨-, same, visible⟩ := getOne_resident resident (found thread stored) read
    refine ⟨detail, read, same, fun message shown => ?_⟩
    obtain ⟨kept, own⟩ := mem_exportThread.mp shown
    exact (visible message).mpr ⟨kept, own, noNotes thread stored involved message kept own⟩

end

structure SoundExports (db : ExportDb) : Prop where
  distinct : (db.data.threads.threads.map Thread.id).Nodup
  ownBundles : ∀ key entry, db.entries key = some entry → entry.value.bundle.profile.id = entry.value.userId

section

variable {ids : Id ↪ Uuid} {before after : ExportDb} {event : ExportEvent}

theorem soundExports_step (sound : SoundExports before) (step : ExportStep ids before event after) : SoundExports after := by
  cases step with
  | markRead marked =>
    simp only [markRead, bind_eq_ok, pure_eq_ok] at marked
    obtain ⟨_, -, rfl⟩ := marked
    exact ⟨sound.distinct, sound.ownBundles⟩
  | @createExport now user exportId _ _ created =>
    simp only [createExport, bind_eq_ok] at created
    obtain ⟨bundle, built, rfl, -⟩ := created
    refine ⟨sound.distinct, fun key entry stored => ?_⟩
    rcases entries_set stored with old | ⟨-, new⟩
    · exact sound.ownBundles key entry old
    · rw [new]
      exact (buildBundle_ok built).2
  | change nodup => exact ⟨nodup, sound.ownBundles⟩

theorem getExport_own (sound : SoundExports before) {now : Instant} {user : AuthenticatedUser} {exportId : String}
    {bundle : UserDataExportBundle} (got : getExport ids now user exportId before = .ok bundle) :
    bundle.profile.id = user.id := by
  simp only [getExport, bind_eq_ok, orThrow_eq_ok, throwIf_eq_ok, pure_eq_ok, not_not] at got
  obtain ⟨stored, found, -, own, rfl⟩ := got
  obtain ⟨entry, kept, rfl⟩ := get_eq_some found
  exact (sound.ownBundles _ entry kept).trans own

/-- In every state that is reached, an export shows no more than the app exactly if nothing that it takes up is hidden. -/
theorem export_shows_no_more {data : ExportTables} {events : List ExportEvent}
    (distinct : (data.threads.threads.map Thread.id).Nodup) (run : Run (ExportStep ids) (CacheDb.fresh data) events after) :
    ExportLaw ids after := by
  have initial : SoundExports (CacheDb.fresh data : ExportDb) := ⟨distinct, fun _ _ none => nomatch none⟩
  have sound : SoundExports after := run.invariant (fun _ _ _ sound step => soundExports_step sound step) initial
  exact ⟨fun _ _ _ resident built => showsNoMore_iff sound.distinct resident built,
    fun _ _ _ _ returned => getExport_own sound returned⟩

end

namespace Sample

def ids : Id ↪ Uuid := ⟨fun id => ⟨String.ofList (List.replicate id 'x'), by simp⟩, by
  intro first second same
  have length := congrArg (fun uuid : Uuid => uuid.text.toList.length) same
  simpa using length⟩

def tables (threads : ThreadDb) : ExportTables :=
  { auth := Auth.Sample.signedIn, threads := threads, participants := [⟨1, 1, some 0, 0⟩] }

def noted : ThreadDb :=
  Threads.Sample.called (Threads.Sample.called Threads.Sample.home Threads.Sample.opens)
    (.postMessage Threads.Sample.office 1 ⟨"Complains often", true⟩)

def events : List ExportEvent := [.change (tables noted)]

theorem noted_reached : Run (ExportStep ids) (CacheDb.fresh (tables Threads.Sample.home)) events
    { (CacheDb.fresh (tables Threads.Sample.home) : ExportDb) with data := tables noted } :=
  .single (.change (by decide +kernel))

end Sample

theorem note_exported : ∃ bundle, isManagement Threads.Sample.household = false ∧
    buildBundle 0 Threads.Sample.household (Sample.tables Sample.noted) = .ok bundle ∧
    ¬ ShowsNoMore 0 Threads.Sample.household (Sample.tables Sample.noted) bundle := by
  refine ⟨_, by decide, rfl, fun shown => ?_⟩
  have hidden := (showsNoMore_iff (by decide +kernel) (by decide) rfl).mp shown
  have note : ∃ thread ∈ Sample.noted.threads, thread.createdByUserId = Threads.Sample.household.id ∧
      ∃ message ∈ Sample.noted.messages, message.threadId = thread.id ∧ message.kind = .internalNote := by
    decide +kernel
  obtain ⟨thread, stored, own, message, listed, of, kind⟩ := note
  exact hidden.noNotes thread stored (.inl own) message listed of kind

theorem export_shows_no_more_noted : ExportLaw Sample.ids
    { (CacheDb.fresh (Sample.tables Threads.Sample.home) : ExportDb) with data := Sample.tables Sample.noted } :=
  export_shows_no_more (by decide +kernel) Sample.noted_reached

end SmartResidence.Users
