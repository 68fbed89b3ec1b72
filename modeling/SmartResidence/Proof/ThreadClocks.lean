import SmartResidence.Threads.ThreadCalls
import SmartResidence.Proof.ThreadAccess

/-!
# Response times shown and response times applied

The page falls back to recommended windows, the clock to windows of its own.
-/

namespace SmartResidence.Threads

open Foundation Billing Settings List

def SlaPolicyView.Applied (db : ThreadDb) (condoId : Id) (line : SlaPolicyView) : Prop :=
  ∀ start, (computeDueDates db condoId line.priority start).firstResponseDueAt =
      start + line.firstResponseMins * msPerMinute ∧
    (computeDueDates db condoId line.priority start).resolutionDueAt = start + line.resolutionMins * msPerMinute

def SlaSettingsView.Kept (db : ThreadDb) (view : SlaSettingsView) : Prop :=
  (∀ priority, ∃ line ∈ view.policies, line.priority = priority ∧ line.Applied db view.condoId) ∧
    view.resolutionConfirmationGraceDays = gracePeriodDays db view.condoId

def HasActivePolicy (db : ThreadDb) (condoId : Id) (priority : ThreadPriority) : Prop :=
  ∃ policy ∈ db.slaPolicies, policy.condoId = condoId ∧ policy.priority = priority ∧ policy.active = true

def GraceWithin (settings : Json) : Prop :=
  ∀ days, (settings.get "helpdesk").get "resolutionConfirmationGraceDays" = .number days → 1 ≤ days ∧ days ≤ 30

section

variable {db : ThreadDb} {condoId : Id} {priority : ThreadPriority} {policy : SlaPolicy} {settings : Json}
  {user : AuthenticatedUser} {view : SlaSettingsView}

def activePolicies (db : ThreadDb) (condoId : Id) : List SlaPolicy :=
  db.slaPolicies.filter fun policy => decide (policy.condoId = condoId) && policy.active

theorem mem_activePolicies : policy ∈ activePolicies db condoId ↔
    policy ∈ db.slaPolicies ∧ policy.condoId = condoId ∧ policy.active = true := by
  simp [activePolicies]

theorem same_policy {other : SlaPolicy} (mem : policy ∈ db.slaPolicies) (also : other ∈ db.slaPolicies)
    (condo : policy.condoId = other.condoId) (same : policy.priority = other.priority) : policy = other := by
  apply eq_of_key_eq db.policies_unique mem also
  rw [condo, same]

theorem found_active (mem : policy ∈ db.slaPolicies) (own : policy.condoId = condoId) (active : policy.active = true) :
    findBy SlaPolicy.priority policy.priority (activePolicies db condoId) = some policy ∧
      resolvePolicy db condoId policy.priority = ⟨some policy.id, policy.firstResponseMins, policy.resolutionMins⟩ := by
  constructor
  · have listed : (findBy SlaPolicy.priority policy.priority (activePolicies db condoId)).isSome :=
      findBy_isSome.mpr ⟨policy, mem_activePolicies.mpr ⟨mem, own, active⟩, rfl⟩
    obtain ⟨other, found⟩ := Option.isSome_iff_exists.mp listed
    obtain ⟨here, same⟩ := mem_of_findBy found
    obtain ⟨inside, theirs, -⟩ := mem_activePolicies.mp here
    rw [found, same_policy inside mem (theirs.trans own.symm) same]
  · have found := findBy_of_mem db.policies_unique mem
    subst own
    unfold resolvePolicy
    rw [found]
    simp [active]

theorem not_found_active (none : ¬ HasActivePolicy db condoId priority) :
    findBy SlaPolicy.priority priority (activePolicies db condoId) = .none ∧
      (resolvePolicy db condoId priority).firstResponseMins = (defaultSla priority).firstResponseMins := by
  constructor
  · apply findBy_eq_none.mpr
    intro policy mem same
    obtain ⟨inside, own, active⟩ := mem_activePolicies.mp mem
    exact none ⟨policy, inside, own, same, active⟩
  · unfold resolvePolicy
    split
    · rename_i policy found
      obtain ⟨inside, key⟩ := mem_of_findBy found
      obtain ⟨own, same⟩ := Prod.mk.inj key
      have inactive : ¬ policy.active = true := fun active => none ⟨policy, inside, own, same, active⟩
      rw [if_neg inactive]
    · rfl

theorem defaults_differ : deriveFirstResponseMins (recommendedResolutionMins priority) ≠
    (defaultSla priority).firstResponseMins := by
  cases priority <;> decide +kernel

theorem applied_iff {line : SlaPolicyView} : line.Applied db condoId ↔
    (resolvePolicy db condoId line.priority).firstResponseMins = line.firstResponseMins ∧
      (resolvePolicy db condoId line.priority).resolutionMins = line.resolutionMins := by
  unfold SlaPolicyView.Applied computeDueDates
  constructor
  · intro applied
    obtain ⟨first, last⟩ := applied 0
    simp only [zero_add] at first last
    have minute : msPerMinute ≠ 0 := by decide
    exact ⟨mul_right_cancel₀ minute first, mul_right_cancel₀ minute last⟩
  · intro ⟨first, last⟩ start
    simp only [first, last, and_self]

theorem policyView_applied : (policyView (activePolicies db condoId) priority).Applied db condoId ↔
    HasActivePolicy db condoId priority := by
  rw [applied_iff]
  constructor
  · rintro ⟨first, _⟩
    by_contra none
    obtain ⟨found, window⟩ := not_found_active none
    simp only [policyView, found, window] at first
    exact defaults_differ first.symm
  · rintro ⟨policy, mem, own, same, active⟩
    obtain ⟨found, window⟩ := found_active mem own active
    rw [same] at found window
    simp only [policyView, found, window, Option.map_some, Option.getD_some, and_self]

theorem default_grace : max 1 (min 30 defaultResolutionConfirmationGraceDays) = defaultResolutionConfirmationGraceDays := by
  norm_num [defaultResolutionConfirmationGraceDays]

theorem grace_agrees (found : (db.settingsOf condoId) = settings) :
    parseHelpdeskSettings settings = gracePeriodDays db condoId ↔ GraceWithin settings := by
  subst found
  unfold parseHelpdeskSettings gracePeriodDays GraceWithin
  cases ((db.settingsOf condoId).get "helpdesk").get "resolutionConfirmationGraceDays" with
  | number days =>
    simp only [Json.number.injEq, forall_eq', defaultResolutionConfirmationGraceDays]
    by_cases within : 1 ≤ days ∧ days ≤ 30
    · simp [within]
    · simp only [within, iff_false]
      intro same
      -- Outside, one side is a bound and the other is seven.
      rcases lt_or_ge days 1 with low | high
      · rw [min_eq_right (by linarith), max_eq_left low.le] at same
        norm_num at same
      · have above : 30 ≤ days := le_of_not_ge fun below => within ⟨high, below⟩
        rw [min_eq_left above] at same
        norm_num at same
  | null => simp [default_grace]
  | bool value => simp [default_grace]
  | string value => simp [default_grace]
  | array items => simp [default_grace]
  | object fields => simp [default_grace]

theorem getSettings_ok (shown : getSettings db user condoId = .ok view) : ∃ condo, db.condo? condoId = some condo ∧
    view.condoId = condoId ∧ view.resolutionConfirmationGraceDays = parseHelpdeskSettings condo.settings ∧
      view.policies = allPriorities.map (policyView (activePolicies db condoId)) := by
  simp only [getSettings, bind_eq_ok, pure_eq_ok, orThrow_eq_ok] at shown
  obtain ⟨_, -, condo, found, rfl⟩ := shown
  exact ⟨condo, found, rfl, rfl, rfl⟩

end

/-- The promises of the page are kept exactly when each priority has an active row and the grace days are in range. -/
theorem sla_promises {db : ThreadDb} {user : AuthenticatedUser} {condoId : Id} {view : SlaSettingsView}
    (shown : getSettings db user condoId = .ok view) :
    view.Kept db ↔ (∀ priority, HasActivePolicy db condoId priority) ∧ GraceWithin (db.settingsOf condoId) := by
  obtain ⟨condo, found, rfl, grace, policies⟩ := getSettings_ok shown
  have settings : db.settingsOf view.condoId = condo.settings := by
    unfold ThreadDb.settingsOf
    rw [found]
    rfl
  unfold SlaSettingsView.Kept
  rw [grace, ← grace_agrees rfl, settings, policies]
  refine and_congr_left fun _ => forall_congr' fun priority => ?_
  rw [← policyView_applied]
  constructor
  · rintro ⟨line, member, rfl, applied⟩
    obtain ⟨priority, -, rfl⟩ := List.mem_map.mp member
    exact applied
  · intro applied
    have listed : priority ∈ allPriorities := by cases priority <;> decide
    exact ⟨_, List.mem_map_of_mem listed, rfl, applied⟩

namespace Sample

def manager : AuthenticatedUser := ⟨1, [⟨.managementAdmin, some 1, none⟩]⟩

def unset (settings : Json) : ThreadDb := ⟨10, [⟨1, settings⟩], [], [], [], [], [], ThreadDb.no_policies⟩

def stored : ThreadDb :=
  { unset (.object []) with
    slaPolicies := [⟨1, 1, .urgent, 96, 240, true⟩, ⟨2, 1, .high, 576, 1440, true⟩, ⟨3, 1, .normal, 1728, 4320, true⟩,
      ⟨4, 1, .low, 4032, 10080, true⟩]
    policies_unique := by decide }

end Sample

theorem sla_promises_unset : ∃ view, getSettings (Sample.unset .null) Sample.manager 1 = .ok view ∧
    ¬ view.Kept (Sample.unset .null) := by
  refine ⟨_, rfl, fun kept => ?_⟩
  obtain ⟨line, member, same, applied⟩ := kept.1 .urgent
  obtain ⟨priority, -, rfl⟩ := List.mem_map.mp member
  obtain ⟨policy, never, -⟩ := policyView_applied.mp applied
  cases never

theorem sla_promises_stored : ∃ view, getSettings Sample.stored Sample.manager 1 = .ok view ∧ view.Kept Sample.stored := by
  have shown : ∃ view, getSettings Sample.stored Sample.manager 1 = .ok view := ⟨_, rfl⟩
  obtain ⟨view, shown⟩ := shown
  refine ⟨view, shown, (sla_promises shown).mpr ⟨?_, ?_⟩⟩
  · intro priority
    cases priority with
    | urgent => exact ⟨⟨1, 1, .urgent, 96, 240, true⟩, by decide, rfl, rfl, rfl⟩
    | high => exact ⟨⟨2, 1, .high, 576, 1440, true⟩, by decide, rfl, rfl, rfl⟩
    | normal => exact ⟨⟨3, 1, .normal, 1728, 4320, true⟩, by decide, rfl, rfl, rfl⟩
    | low => exact ⟨⟨4, 1, .low, 4032, 10080, true⟩, by decide, rfl, rfl, rfl⟩
  · intro days stored
    cases stored

/-!
## Timestamps of threads

A timestamp stands exactly while its status does, unless a call leaves a status without taking its timestamp back.
-/

structure Timely (thread : Thread) : Prop where
  resolved : thread.resolvedAt ≠ none → thread.status = .resolved
  closed : thread.closedAt ≠ none → thread.status = .closed
  proposed : thread.resolutionProposedAt ≠ none ↔ thread.status = .pendingResidentConfirmation

def ClockSeen (db : ThreadDb) (thread : Thread) : Prop :=
  ∀ now due, thread.resolutionDueAt = some due → due < now →
    computeSlaState now thread = .breached ∧ thread ∈ breachedThreads now db

structure AllTimely (db : ThreadDb) : Prop where
  allocated : Allocated (db.threads.map Thread.id) db.nextId
  timely : ∀ thread ∈ db.threads, Timely thread

structure Keeps (db : ThreadDb) (write : ThreadWrite) : Prop where
  id : ∀ row, (write.change row).id = row.id
  timely : ∀ row, db.thread? write.threadId = some row → Timely row → Timely (write.change row)

section

variable {db : ThreadDb} {clock : Instant} {write : ThreadWrite} {thread : Thread}

theorem written_threads (kept : ∀ row, (write.change row).id = row.id) :
    (db.write clock write).threads.map Thread.id = db.threads.map Thread.id :=
  map_key_updateBy kept

theorem write_timely (timely : AllTimely db) (keeps : Keeps db write) : AllTimely (db.write clock write) := by
  constructor
  case allocated =>
    rw [written_threads keeps.id]
    exact timely.allocated.mono (Nat.le_add_right _ _)
  case timely =>
    intro thread mem
    obtain ⟨old, listed, rfl⟩ := mem_updateBy.mp mem
    split
    · rename_i same
      have found : db.thread? write.threadId = some old := by
        rw [← same]
        exact findBy_of_mem timely.allocated.distinct listed
      exact keeps.timely old found (timely.timely old listed)
    · exact timely.timely old listed

theorem thread_write_other (kept : ∀ row, (write.change row).id = row.id) {id : Id} (ne : id ≠ write.threadId) :
    (db.write clock write).thread? id = db.thread? id := by
  unfold ThreadDb.thread? ThreadDb.write
  rw [findBy_updateBy kept]
  cases found : findBy Thread.id id db.threads with
  | none => rfl
  | some row =>
    have apart : row.id ≠ write.threadId := (mem_of_findBy found).2 ▸ ne
    simp [apart]

theorem Keeps.after (keeps : Keeps db write) {other : ThreadWrite} (kept : ∀ row, (other.change row).id = row.id)
    (ne : write.threadId ≠ other.threadId) : Keeps (db.write clock other) write := by
  refine ⟨keeps.id, fun row found => ?_⟩
  rw [thread_write_other kept ne] at found
  exact keeps.timely row found

theorem writeAll_timely {writes : List ThreadWrite} (timely : AllTimely db)
    (nodup : (writes.map ThreadWrite.threadId).Nodup) (keeps : ∀ write ∈ writes, Keeps db write) :
    AllTimely (db.writeAll clock writes) := by
  induction writes generalizing db with
  | nil => exact timely
  | cons write writes ih =>
    obtain ⟨fresh, rest⟩ := nodup_cons.mp nodup
    have first := keeps write mem_cons_self
    refine ih (write_timely timely first) rest fun other mem => ?_
    have ne : other.threadId ≠ write.threadId := fun same => fresh (same ▸ mem_map_of_mem mem)
    exact (keeps other (mem_cons_of_mem _ mem)).after first.id ne

theorem scan_timely (timely : AllTimely db) {pick : Thread → Bool} {make : Thread → ThreadWrite}
    (own : ∀ thread, (make thread).threadId = thread.id) (kept : ∀ thread row, ((make thread).change row).id = row.id)
    (keeps : ∀ thread ∈ db.threads, pick thread = true → Timely thread → Timely ((make thread).change thread)) :
    AllTimely (db.writeAll clock ((db.threads.filter pick).map make)) := by
  apply writeAll_timely timely
  · rw [map_map]
    have ids : ThreadWrite.threadId ∘ make = Thread.id := funext own
    rw [ids]
    exact timely.allocated.distinct.sublist (filter_sublist.map _)
  · intro write mem
    obtain ⟨thread, listed, rfl⟩ := mem_map.mp mem
    obtain ⟨inside, picked⟩ := mem_filter.mp listed
    refine ⟨kept thread, fun row found before => ?_⟩
    rw [own] at found
    obtain ⟨mem, same⟩ := mem_of_findBy found
    obtain rfl := eq_of_key_eq timely.allocated.distinct mem inside same
    exact keeps _ inside picked before

end

/-! ## What each call does to the timestamps -/

section

variable {env : ThreadEnv} {now : Instant} {db : ThreadDb} {user : AuthenticatedUser} {id : Id} {thread : Thread}
  {write : ThreadWrite}

theorem Timely.unresolved (timely : Timely thread) (status : thread.status ≠ .resolved) : thread.resolvedAt = none :=
  Decidable.not_not.mp fun stamped => status (timely.resolved stamped)

theorem Timely.unclosed (timely : Timely thread) (status : thread.status ≠ .closed) : thread.closedAt = none :=
  Decidable.not_not.mp fun stamped => status (timely.closed stamped)

theorem Timely.unproposed (timely : Timely thread) (status : thread.status ≠ .pendingResidentConfirmation) :
    thread.resolutionProposedAt = none :=
  Decidable.not_not.mp fun stamped => status (timely.proposed.mp stamped)

theorem Timely.of_none (resolved : thread.resolvedAt = none) (closed : thread.closedAt = none)
    (proposed : thread.resolutionProposedAt = none) (status : thread.status ≠ .pendingResidentConfirmation) :
    Timely thread :=
  ⟨fun stamped => absurd resolved stamped, fun stamped => absurd closed stamped,
    fun stamped => absurd proposed stamped, fun same => absurd same status⟩

theorem Timely.resolve (timely : Timely thread) (open_ : thread.status ≠ .closed) (now : Instant) :
    Timely (Thread.resolve now thread) :=
  ⟨fun _ => rfl, fun stamped => absurd (timely.unclosed open_) stamped,
    fun stamped => absurd rfl stamped, fun same => by cases same⟩

theorem loaded_row (loaded : loadAndAuthorize db user id = .ok thread) {row : Thread} (found : db.thread? id = some row) :
    row = thread := by
  rw [(loadAndAuthorize_ok.mp loaded).1] at found
  exact (Option.some.inj found).symm

theorem managementReply_timely (timely : Timely thread) : Timely (managementReply now thread thread) := by
  unfold managementReply
  split
  · exact ⟨timely.resolved, timely.closed, timely.proposed⟩
  · rename_i active
    obtain ⟨unresolved, unclosed⟩ := not_or.mp active
    apply Timely.of_none
    · exact timely.unresolved unresolved
    · exact timely.unclosed unclosed
    · rfl
    · intro same
      cases same

theorem keeps_of_loaded (loaded : loadAndAuthorize db user id = .ok thread) {change : Thread → Thread}
    {messages : List NewMessage} (kept : ∀ row, (change row).id = row.id)
    (timely : Timely thread → Timely (change thread)) : Keeps db ⟨id, change, messages⟩ := by
  refine ⟨kept, fun row found before => ?_⟩
  obtain rfl := loaded_row loaded found
  exact timely before

theorem postMessage_keeps {dto : PostMessageDto} (posted : postMessage now db user id dto = .ok write) : Keeps db write := by
  simp only [postMessage, bind_eq_ok] at posted
  obtain ⟨thread, loaded, _, -, _, -, posted⟩ := posted
  have waiting : Timely thread → Timely { thread with lastMessageAt := now } := fun timely =>
    ⟨timely.resolved, timely.closed, timely.proposed⟩
  split at posted
  · cases posted
    exact keeps_of_loaded loaded (fun _ => rfl) waiting
  split at posted
  · cases posted
    refine keeps_of_loaded loaded (fun row => ?_) managementReply_timely
    unfold managementReply
    split <;> rfl
  have reopened : (thread.status = .resolved ∨ thread.status = .closed) → Timely thread → Timely { thread with
        status := .reopened, resolvedAt := none, closedAt := none, reopenCount := thread.reopenCount + 1
        lastMessageAt := now } := by
    intro ended timely
    apply Timely.of_none
    · rfl
    · rfl
    · apply timely.unproposed
      rcases ended with same | same <;> rw [same] <;> decide
    · intro same
      cases same
  have handedOver : (thread.status ≠ .resolved ∧ thread.status ≠ .closed ∧
      thread.status ≠ .pendingResidentConfirmation) → Timely thread →
      Timely { thread with status := .awaitingManagement, lastMessageAt := now } := by
    intro ⟨unresolved, unclosed, unproposed⟩ timely
    apply Timely.of_none
    · exact timely.unresolved unresolved
    · exact timely.unclosed unclosed
    · exact timely.unproposed unproposed
    · intro same
      cases same
  split at posted
  · rename_i same
    cases posted
    exact keeps_of_loaded loaded (fun _ => rfl) (reopened (.inl same))
  · rename_i same
    cases posted
    exact keeps_of_loaded loaded (fun _ => rfl) (reopened (.inr same))
  · cases posted
    exact keeps_of_loaded loaded (fun _ => rfl) waiting
  · cases posted
  · rename_i unresolved unclosed _ unproposed
    cases posted
    exact keeps_of_loaded loaded (fun _ => rfl) (handedOver ⟨unresolved, unclosed, unproposed⟩)

def CleanUpdate (thread : Thread) (dto : UpdateThreadDto) : Prop :=
  ∀ status, changedTo dto.status thread.status = some status →
    thread.status ≠ .pendingResidentConfirmation ∧
      (thread.status = .resolved ∨ thread.status = .closed → status = .reopened)

theorem apply_timely {data : ThreadData} (timely : Timely thread)
    (clean : ∀ status, data.status = some status → status ∉ resolutionStatuses ∧
      thread.status ≠ .pendingResidentConfirmation ∧
        (thread.status = .resolved ∨ thread.status = .closed → status = .reopened)) :
    Timely (data.apply now thread) := by
  cases moved : data.status with
  | none =>
    have same : (data.apply now thread).status = thread.status ∧
        (data.apply now thread).resolvedAt = thread.resolvedAt ∧
        (data.apply now thread).closedAt = thread.closedAt := by
      simp [ThreadData.apply, moved]
    obtain ⟨status, resolvedAt, closedAt⟩ := same
    constructor
    case resolved => rw [status, resolvedAt]; exact timely.resolved
    case closed => rw [status, closedAt]; exact timely.closed
    case proposed => rw [status]; exact timely.proposed
  | some target =>
    obtain ⟨active, unproposed, reopens⟩ := clean target moved
    have status : (data.apply now thread).status = target := by simp [ThreadData.apply, moved]
    simp only [resolutionStatuses, mem_cons, not_mem_nil, or_false, not_or] at active
    obtain ⟨unresolved, unclosed, unpending⟩ := active
    apply Timely.of_none
    · by_cases reopened : target = .reopened
      · simp [ThreadData.apply, moved, reopened]
      · have before := timely.unresolved fun same => reopened (reopens (.inl same))
        simp [ThreadData.apply, moved, unresolved, before]
    · by_cases reopened : target = .reopened
      · simp [ThreadData.apply, moved, reopened]
      · have before := timely.unclosed fun same => reopened (reopens (.inr same))
        simp [ThreadData.apply, moved, unclosed, before]
    · exact timely.unproposed unproposed
    · rw [status]
      exact unpending

theorem update_keeps {dto : UpdateThreadDto} (management : isManagement user = true)
    (updated : update env now db user id dto = .ok (some write))
    (clean : ∀ thread, db.thread? id = some thread → CleanUpdate thread dto) : Keeps db write := by
  simp only [update, bind_eq_ok, throwIf_eq_ok] at updated
  obtain ⟨thread, loaded, _, allowed, updated⟩ := updated
  split at updated
  · cases updated
  · cases updated
    refine keeps_of_loaded loaded (fun _ => rfl) fun timely => apply_timely timely fun status moved => ?_
    have clean := clean thread (loadAndAuthorize_ok.mp loaded).1 status moved
    refine ⟨fun resolution => allowed ⟨management, ?_⟩, clean⟩
    -- Management may not ask for a resolution.
    have asked : dto.status = some status := (Option.filter_eq_some_iff.mp moved).1
    rw [asked]
    exact decide_eq_true resolution

theorem proposeResolution_keeps {dto : ProposeResolutionDto}
    (proposed : proposeResolution now db user id dto = .ok write) : Keeps db write := by
  simp only [proposeResolution, bind_eq_ok, pure_eq_ok, throwIf_eq_ok] at proposed
  obtain ⟨thread, loaded, _, -, _, active, _, -, _, -, _, -, rfl⟩ := proposed
  obtain ⟨unresolved, unclosed⟩ := not_or.mp active
  refine keeps_of_loaded loaded (fun _ => rfl) fun timely => ?_
  constructor
  case resolved => exact fun stamped => absurd (timely.unresolved unresolved) stamped
  case closed => exact fun stamped => absurd (timely.unclosed unclosed) stamped
  case proposed =>
    refine ⟨fun _ => rfl, fun _ => ?_⟩
    split
    · rename_i again
      have pending : thread.status = .pendingResidentConfirmation := by
        simp only [Bool.and_eq_true, decide_eq_true_eq] at again
        exact again.1
      exact timely.proposed.mpr pending
    · exact Option.some_ne_none now

theorem confirmResolution_keeps {dto : ConfirmResolutionDto}
    (confirmed : confirmResolution now db user id dto = .ok write)
    (clean : dto.confirmed = false → ∀ thread, db.thread? id = some thread → thread.status ≠ .resolved) :
    Keeps db write := by
  simp only [confirmResolution, bind_eq_ok, throwIf_eq_ok] at confirmed
  obtain ⟨thread, loaded, _, -, _, unclosed, confirmed⟩ := confirmed
  split at confirmed
  · cases confirmed
    exact keeps_of_loaded loaded (fun _ => rfl) fun timely => timely.resolve unclosed now
  · rename_i rejected
    split at confirmed
    · cases confirmed
      have unresolved := clean (Bool.not_eq_true _ ▸ rejected) thread (loadAndAuthorize_ok.mp loaded).1
      refine keeps_of_loaded loaded (fun _ => rfl) fun timely => ?_
      apply Timely.of_none
      · exact timely.unresolved unresolved
      · exact timely.unclosed unclosed
      · rfl
      · intro same
        cases same
    · cases confirmed

theorem appeal_keeps {reason : String} (appealed : appeal now db user id reason = .ok write) : Keeps db write := by
  simp only [appeal, bind_eq_ok, pure_eq_ok, throwIf_eq_ok] at appealed
  obtain ⟨thread, loaded, _, -, _, ended, rfl⟩ := appealed
  refine keeps_of_loaded loaded (fun _ => rfl) fun timely => ?_
  apply Timely.of_none
  · rfl
  · rfl
  · apply timely.unproposed
    intro pending
    rw [pending] at ended
    exact ended ⟨by decide, by decide⟩
  · intro same
    cases same

theorem requestResident_keeps {body : Option String} (requested : requestResident now db user id body = .ok write)
    (clean : ∀ thread, db.thread? id = some thread → thread.status ≠ .resolved) : Keeps db write := by
  simp only [requestResident, bind_eq_ok, pure_eq_ok, throwIf_eq_ok] at requested
  obtain ⟨thread, loaded, _, -, _, unclosed, rfl⟩ := requested
  have unresolved := clean thread (loadAndAuthorize_ok.mp loaded).1
  refine keeps_of_loaded loaded (fun _ => rfl) fun timely => ?_
  apply Timely.of_none
  · exact timely.unresolved unresolved
  · exact timely.unclosed unclosed
  · rfl
  · intro same
    cases same

theorem closeAbusive_keeps {reason : String} (closed : closeAbusive now db user id reason = .ok write)
    (clean : ∀ thread, db.thread? id = some thread →
      thread.status ≠ .resolved ∧ thread.status ≠ .pendingResidentConfirmation) : Keeps db write := by
  simp only [closeAbusive, bind_eq_ok, pure_eq_ok] at closed
  obtain ⟨thread, loaded, _, -, _, -, rfl⟩ := closed
  obtain ⟨unresolved, unproposed⟩ := clean thread (loadAndAuthorize_ok.mp loaded).1
  refine keeps_of_loaded loaded (fun _ => rfl) fun timely => ?_
  constructor
  case resolved => exact fun stamped => absurd (timely.unresolved unresolved) stamped
  case closed => exact fun _ => rfl
  case proposed =>
    constructor
    · exact fun stamped => absurd (timely.unproposed unproposed) stamped
    · intro same
      cases same

end

/-! ## Runs -/

/-- No call leaves a timestamp behind: an update moves no pending thread and takes a thread that has ended only to
`REOPENED`; a rejection, a request to the resident and a closing for abuse do not find the thread resolved, and a
closing does not find it pending. -/
def LeavesNoTimestamp (before : ThreadDb) : ThreadEvent → Prop
  | .call (.update _ id dto) => ∀ thread, before.thread? id = some thread → CleanUpdate thread dto
  | .call (.confirmResolution _ id dto) =>
      dto.confirmed = false → ∀ thread, before.thread? id = some thread → thread.status ≠ .resolved
  | .call (.requestResident _ id _) => ∀ thread, before.thread? id = some thread → thread.status ≠ .resolved
  | .call (.closeAbusive _ id _) => ∀ thread, before.thread? id = some thread →
      thread.status ≠ .resolved ∧ thread.status ≠ .pendingResidentConfirmation
  | _ => True

def ThreadRunStep (env : ThreadEnv) (before : ThreadDb) (event : ThreadEvent) (after : ThreadDb) : Prop :=
  ∃ now clock, ThreadStep env now clock before event after

section

variable {env : ThreadEnv} {now clock : Instant} {before after : ThreadDb} {thread : Thread}

theorem insert_timely (timely : AllTimely before) {row : Id → Instant → Thread} {message : NewMessage}
    (assigned : ∀ id clock, (row id clock).id = id) (fresh : ∀ id clock, Timely (row id clock)) :
    AllTimely (before.insertThread clock row message) := by
  constructor
  case allocated => exact timely.allocated.insert (assigned _ _) (Nat.lt_add_of_pos_right (by decide))
  case timely =>
    intro thread mem
    rcases mem_append.mp mem with old | new
    · exact timely.timely thread old
    · rw [mem_singleton.mp new]
      exact fresh _ _

theorem plan_timely {call : ThreadCall} {planned : ThreadPlan} (timely : AllTimely before)
    (clean : LeavesNoTimestamp before (.call call)) (done : plan env now before call = .ok planned) :
    AllTimely (before.commit clock planned) := by
  cases call with
  | create user dto =>
    simp only [plan, create, bind_eq_ok, pure_eq_ok] at done
    obtain ⟨_, ⟨place, -, rfl⟩, rfl⟩ := done
    refine insert_timely timely (fun _ _ => rfl) fun id clock => Timely.of_none rfl rfl rfl fun same => ?_
    cases same
  | postMessage user id dto =>
    simp only [plan, bind_eq_ok, pure_eq_ok] at done
    obtain ⟨write, posted, rfl⟩ := done
    exact write_timely timely (postMessage_keeps posted)
  | update user id dto =>
    simp only [plan, bind_eq_ok, assertMayUpdate, throwIf_eq_ok] at done
    obtain ⟨_, management, written, updated, done⟩ := done
    cases written with
    | none =>
      cases done
      exact timely
    | some write =>
      cases done
      exact write_timely timely (update_keeps (Decidable.not_not.mp management) updated clean)
  | proposeResolution user id dto =>
    simp only [plan, bind_eq_ok, pure_eq_ok] at done
    obtain ⟨write, proposed, rfl⟩ := done
    exact write_timely timely (proposeResolution_keeps proposed)
  | confirmResolution user id dto =>
    simp only [plan, bind_eq_ok, pure_eq_ok] at done
    obtain ⟨write, confirmed, rfl⟩ := done
    exact write_timely timely (confirmResolution_keeps confirmed clean)
  | appeal user id reason =>
    simp only [plan, bind_eq_ok, pure_eq_ok] at done
    obtain ⟨write, appealed, rfl⟩ := done
    exact write_timely timely (appeal_keeps appealed)
  | requestResident user id body =>
    simp only [plan, bind_eq_ok, pure_eq_ok] at done
    obtain ⟨write, requested, rfl⟩ := done
    exact write_timely timely (requestResident_keeps requested clean)
  | closeAbusive user id reason =>
    simp only [plan, bind_eq_ok, pure_eq_ok] at done
    obtain ⟨write, closed, rfl⟩ := done
    exact write_timely timely (closeAbusive_keeps closed clean)

theorem active_apart (active : thread.status ∈ activeStatuses) :
    thread.status ≠ .resolved ∧ thread.status ≠ .closed ∧ thread.status ≠ .pendingResidentConfirmation := by
  refine ⟨?_, ?_, ?_⟩
  all_goals
    intro same
    rw [same] at active
    revert active
    decide

theorem autoConfirm_timely (timely : AllTimely before) :
    AllTimely (before.writeAll clock (scanForResolutionAutoConfirm now before)) := by
  apply scan_timely timely
  · exact fun _ => rfl
  · exact fun _ _ => rfl
  · intro thread _ pick own
    simp only [Bool.and_eq_true, decide_eq_true_eq] at pick
    have unclosed : thread.status ≠ .closed := by
      rw [pick.1.1]
      decide
    exact own.resolve unclosed now

theorem autoClose_timely (timely : AllTimely before) :
    AllTimely (before.writeAll clock (scanForInactivityAutoClose now before)) := by
  apply scan_timely timely
  · exact fun _ => rfl
  · exact fun _ _ => rfl
  · intro thread _ pick own
    obtain ⟨unresolved, -, unproposed⟩ := active_apart (of_decide_eq_true pick).1
    constructor
    case resolved => exact fun stamped => absurd (own.unresolved unresolved) stamped
    case closed => exact fun _ => rfl
    case proposed =>
      constructor
      · exact fun stamped => absurd (own.unproposed unproposed) stamped
      · intro same
        cases same

theorem escalate_timely (timely : AllTimely before) :
    AllTimely (before.writeAll clock (scanForBreaches now before)) := by
  unfold scanForBreaches breachedThreads
  rw [filter_filter]
  apply scan_timely timely
  · exact fun _ => rfl
  · exact fun _ _ => rfl
  · exact fun _ _ _ own => ⟨own.resolved, own.closed, own.proposed⟩

theorem step_timely {event : ThreadEvent} (timely : AllTimely before) (clean : LeavesNoTimestamp before event)
    (step : ThreadStep env now clock before event after) : AllTimely after := by
  cases step with
  | call done => exact plan_timely timely clean done
  | autoConfirm => exact autoConfirm_timely timely
  | autoClose => exact autoClose_timely timely
  | escalate => exact escalate_timely timely
  | setUp threads _ next =>
    constructor
    case allocated => rw [threads, next]; exact timely.allocated
    case timely => rw [threads]; exact timely.timely

theorem clock_seen (timely : Timely thread) (mem : thread ∈ before.threads) (active : thread.status ∈ activeStatuses) :
    ClockSeen before thread := by
  obtain ⟨unresolved, unclosed, unproposed⟩ := active_apart active
  have unstamped := timely.unresolved unresolved
  intro now due ends late
  constructor
  · have breached : clockState now thread.createdAt thread.resolutionDueAt thread.resolvedAt = .breached := by
      rw [ends, unstamped]
      exact if_pos late
    unfold computeSlaState
    rw [if_neg (by simp [unresolved, unclosed, unproposed]), breached]
    generalize worse .none (clockState now thread.createdAt thread.firstResponseDueAt thread.firstRespondedAt) = first
    cases first <;> rfl
  · refine mem_filter.mpr ⟨mem, ?_⟩
    have overdue : overdue now thread.resolutionDueAt thread.resolvedAt = true := by
      rw [ends, unstamped]
      simpa [overdue] using late
    simp [active, overdue]

end

/-- Along every run whose calls leave no timestamp behind, the timestamps follow the status, and no overdue resolution
of an active thread goes unseen. -/
theorem timestamps_follow (env : ThreadEnv) {start finish : ThreadDb} {events : List ThreadEvent}
    (initial : AllTimely start) (run : Run (Guarded LeavesNoTimestamp (ThreadRunStep env)) start events finish) :
    ∀ thread ∈ finish.threads, Timely thread ∧ (thread.status ∈ activeStatuses → ClockSeen finish thread) := by
  have timely : AllTimely finish := by
    refine run.invariant ?_ initial
    intro before event after timely ⟨clean, now, clock, step⟩
    exact step_timely timely clean step
  intro thread member
  exact ⟨timely.timely thread member, clock_seen (timely.timely thread member) member⟩

namespace Sample

def home : ThreadDb := ⟨1, [⟨1, .null⟩], [⟨1, 1⟩], [], [], [], [], ThreadDb.no_policies⟩

def household : AuthenticatedUser := ⟨1, [⟨.tenant, some 1, some 1⟩]⟩

def office : AuthenticatedUser := ⟨2, [⟨.managementAdmin, some 1, none⟩]⟩

def called (db : ThreadDb) (call : ThreadCall) : ThreadDb :=
  match plan plainEnv 0 db call with
  | .ok planned => db.commit 0 planned
  | .error _ => db

theorem call_step {db : ThreadDb} {call : ThreadCall} (done : (plan plainEnv 0 db call).isOk = true) :
    ThreadRunStep plainEnv db (.call call) (called db call) := by
  unfold called
  cases planned : plan plainEnv 0 db call with
  | ok plan => exact ⟨0, 0, .call planned⟩
  | error failure =>
    rw [planned] at done
    cases done

def opens : ThreadCall := .create household ⟨some 1, "Leak", .maintenance, "Water in the kitchen"⟩
def replies : ThreadCall := .postMessage office 1 ⟨"Fixed", false⟩
def proposes : ThreadCall := .proposeResolution office 1 ⟨none, none⟩
def confirms : ThreadCall := .confirmResolution household 1 ⟨true, none, none⟩
def asks : ThreadCall := .requestResident office 1 none

def confirmed : ThreadDb := called (called (called (called home opens) replies) proposes) confirms

theorem confirmed_run : Run (Guarded LeavesNoTimestamp (ThreadRunStep plainEnv)) home
    [.call opens, .call replies, .call proposes, .call confirms] confirmed := by
  have opened : Guarded LeavesNoTimestamp (ThreadRunStep plainEnv) home (.call opens) (called home opens) :=
    ⟨trivial, call_step (by decide +kernel)⟩
  have replied : Guarded LeavesNoTimestamp (ThreadRunStep plainEnv) (called home opens) (.call replies)
      (called (called home opens) replies) := ⟨trivial, call_step (by decide +kernel)⟩
  have proposed : Guarded LeavesNoTimestamp (ThreadRunStep plainEnv) (called (called home opens) replies) (.call proposes)
      (called (called (called home opens) replies) proposes) := ⟨trivial, call_step (by decide +kernel)⟩
  have closed : Guarded LeavesNoTimestamp (ThreadRunStep plainEnv)
      (called (called (called home opens) replies) proposes) (.call confirms) confirmed := by
    refine ⟨fun rejected => ?_, call_step (by decide +kernel)⟩
    cases rejected
  exact ((Run.single opened).snoc replied |>.snoc proposed).snoc closed

end Sample

theorem timestamps_left : ∃ events finish, Run (ThreadRunStep Sample.plainEnv) Sample.home events finish ∧
    ∃ thread ∈ finish.threads, thread.status ∈ activeStatuses ∧ ¬ Timely thread ∧ ¬ ClockSeen finish thread := by
  have asked : ThreadRunStep Sample.plainEnv Sample.confirmed (.call Sample.asks)
      (Sample.called Sample.confirmed Sample.asks) := Sample.call_step (by decide +kernel)
  refine ⟨_, _, Sample.confirmed_run.guard_forgotten.snoc asked, ?_⟩
  have stale : ∃ thread ∈ (Sample.called Sample.confirmed Sample.asks).threads, thread.status = .awaitingResident ∧
      thread.resolvedAt ≠ none ∧ thread.resolutionDueAt = some 259200000 ∧
        computeSlaState 259200001 thread = .none := by decide +kernel
  obtain ⟨thread, member, status, stamped, ends, shown⟩ := stale
  refine ⟨thread, member, by rw [status]; decide, fun timely => ?_, fun seen => ?_⟩
  · have resolved := timely.resolved stamped
    rw [status] at resolved
    cases resolved
  · have breached := (seen 259200001 259200000 ends (by decide)).1
    rw [shown] at breached
    cases breached

theorem timestamps_follow_confirmed : ∃ thread ∈ Sample.confirmed.threads, thread.status = .resolved ∧ Timely thread := by
  have initial : AllTimely Sample.home := by
    constructor
    case allocated => exact Allocated.nil
    case timely => exact fun thread member => absurd member List.not_mem_nil
  have resolved : ∃ thread ∈ Sample.confirmed.threads, thread.status = .resolved := by decide +kernel
  obtain ⟨thread, member, status⟩ := resolved
  exact ⟨thread, member, status, (timestamps_follow Sample.plainEnv initial Sample.confirmed_run thread member).1⟩

/-! ## The health of a thread -/

section

variable {thread : Thread} {now first second createdAt : Instant} {due done : Option Instant} {one other : SlaState}

theorem worse_rank : (worse one other).rank = max one.rank other.rank := by
  unfold worse
  split <;> omega

theorem worse_breached : worse one other = .breached ↔ one = .breached ∨ other = .breached := by
  cases one <;> cases other <;> simp [worse, SlaState.rank]

theorem clockState_breached : clockState now createdAt due done = .breached ↔ overdue now due done = true := by
  unfold clockState overdue
  cases due with
  | none => simp
  | some due =>
    cases done with
    | some _ => simp
    | none =>
      by_cases late : due < now
      · simp [late]
      · simp only [late, if_false, Option.any_some, decide_false, Bool.and_false, Bool.false_eq_true, iff_false]
        split <;> exact nofun

theorem clockState_rank (later : first ≤ second) :
    (clockState first createdAt due done).rank ≤ (clockState second createdAt due done).rank := by
  unfold clockState
  cases due with
  | none => exact le_refl _
  | some due =>
    cases done with
    | some _ => exact le_refl _
    | none =>
      dsimp only
      by_cases late : due < first
      · have still : due < second := lt_of_lt_of_le late later
        rw [if_pos late, if_pos still]
      · rw [if_neg late]
        by_cases near : 0 < due - createdAt ∧ (due - first) * 5 < due - createdAt
        · have nearer : 0 < due - createdAt ∧ (due - second) * 5 < due - createdAt := ⟨near.1, by linarith⟩
          rw [if_pos near]
          split <;> decide
        · rw [if_neg near]
          split
          · decide
          · split <;> decide

theorem active_iff : thread.status ∈ activeStatuses ↔
    ¬ (thread.status = .resolved ∨ thread.status = .closed ∨ thread.status = .pendingResidentConfirmation) := by
  cases thread.status <;> simp [activeStatuses]

theorem computeSlaState_rank (later : first ≤ second) : (computeSlaState first thread).rank ≤ (computeSlaState second thread).rank := by
  unfold computeSlaState
  split
  · exact le_refl _
  · rw [worse_rank, worse_rank, worse_rank, worse_rank]
    exact max_le_max (max_le_max (le_refl _) (clockState_rank later)) (clockState_rank later)

theorem mem_breachedThreads {db : ThreadDb} :
    thread ∈ breachedThreads now db ↔ thread ∈ db.threads ∧ computeSlaState now thread = .breached := by
  have state : computeSlaState now thread = .breached ↔ thread.status ∈ activeStatuses ∧
      (overdue now thread.firstResponseDueAt thread.firstRespondedAt = true ∨
        overdue now thread.resolutionDueAt thread.resolvedAt = true) := by
    rw [active_iff]
    unfold computeSlaState
    by_cases silent : thread.status = .resolved ∨ thread.status = .closed ∨ thread.status = .pendingResidentConfirmation
    · simp [silent]
    · rw [if_neg silent, worse_breached, worse_breached, clockState_breached, clockState_breached]
      simp [silent]
  rw [state]
  simp [breachedThreads]

end

/-- The health of an unchanged thread only gets worse, and the scan finds exactly the threads that are breached. -/
theorem sla_health (thread : Thread) {first second : Instant} (later : first ≤ second) :
    (computeSlaState first thread).rank ≤ (computeSlaState second thread).rank ∧
      ∀ now db, thread ∈ breachedThreads now db ↔ thread ∈ db.threads ∧ computeSlaState now thread = .breached :=
  ⟨computeSlaState_rank later, fun _ _ => mem_breachedThreads⟩

theorem sla_health_opened : ∃ thread ∈ (Sample.called Sample.home Sample.opens).threads,
    computeSlaState 0 thread = .onTrack ∧ computeSlaState 32400000 thread = .breached ∧
      (computeSlaState 0 thread).rank ≤ (computeSlaState 32400000 thread).rank := by
  have states : ∃ thread ∈ (Sample.called Sample.home Sample.opens).threads,
      computeSlaState 0 thread = .onTrack ∧ computeSlaState 32400000 thread = .breached := by decide +kernel
  obtain ⟨thread, member, early, late⟩ := states
  exact ⟨thread, member, early, late, (sla_health thread (by decide : (0 : Instant) ≤ 32400000)).1⟩

end SmartResidence.Threads
