import Mathlib.Data.List.TakeWhile
import SmartResidence.Notifications.NotificationService

/-!
# Emergencies and quiet hours

Leaving out the time zone does not switch the quiet hours off: they are then those of the server's clock.
-/

namespace SmartResidence.Notifications

open Foundation Billing Settings List

def Quiet (prefs : UserPreferences) (time : ClockTime) : Prop :=
  prefs.quietHours.enabled = true ∧ ∃ first last : ClockTime, prefs.quietHours.start = first.text ∧
    prefs.quietHours.endTime = last.text ∧ time.position ∈ cyclicIco first.position last.position

def Receives (messages : List ExpoPushMessage) (device : PushSubscription) : Prop :=
  device.kind = .expo ∧ ∃ message ∈ messages, message.to' = device.token

def DeliveryJob.devices (job : DeliveryJob) (db : NotificationDb) : List PushSubscription := subscriptionsOf job.userIds db

section

variable (env : NotificationEnv) (now : Instant)

def Heard (job : DeliveryJob) (db : NotificationDb) : Prop :=
  ∀ device ∈ job.devices db, Receives (dispatch env now job db).2 device

def QuietKept (job : DeliveryJob) (zone : String) (db : NotificationDb) : Prop :=
  ∀ user ∈ db.users, user.id ∈ job.userIds →
    (user.id ∉ pushUserIds env now job db ↔ Quiet (parseUserPreferences user.preferences) (env.clock (some zone) now))

def Awake (prefs : UserPreferences) (time : ClockTime) : Prop :=
  prefs.quietHours.enabled = true → prefs.quietHours.start ≠ prefs.quietHours.endTime ∧ ¬ Quiet prefs time

structure Audible (job : DeliveryJob) (db : NotificationDb) : Prop where
  awake : ∀ device ∈ job.devices db, ∀ user ∈ db.users, user.id = device.userId →
    Awake (parseUserPreferences user.preferences) (env.clock none now)
  expo : ∀ device ∈ job.devices db, device.kind = .expo ∧ env.isExpoPushToken device.token = true
  taken : ∀ chunk ∈ env.chunkPushNotifications ((job.devices db).map job.message), env.takes chunk = true

def ClocksAgree (job : DeliveryJob) (zone : String) (db : NotificationDb) : Prop :=
  ∀ user ∈ db.users, user.id ∈ job.userIds → (parseUserPreferences user.preferences).quietHours.enabled = true →
    (parseUserPreferences user.preferences).quietHours.start ≠ (parseUserPreferences user.preferences).quietHours.endTime ∧
      (Quiet (parseUserPreferences user.preferences) (env.clock job.timeZone now) ↔
        Quiet (parseUserPreferences user.preferences) (env.clock (some zone) now))

def Timed (prefs : UserPreferences) : Prop :=
  ∃ first last : ClockTime, prefs.quietHours.start = first.text ∧ prefs.quietHours.endTime = last.text

structure Wellformed (db : NotificationDb) : Prop where
  users : (db.users.map NotifiedUser.id).Nodup
  owners : ∀ device ∈ db.subscriptions, ∃ user ∈ db.users, user.id = device.userId
  tokens : (db.subscriptions.map fun device => (device.kind, device.token)).Nodup
  timed : ∀ user ∈ db.users, Timed (parseUserPreferences user.preferences)

structure ChunksWork : Prop where
  whole : ∀ messages, (env.chunkPushNotifications messages).flatten = messages
  filled : ∀ messages, ∀ chunk ∈ env.chunkPushNotifications messages, chunk ≠ []

end

section

variable {prefs : UserPreferences} {time : ClockTime}

theorem isInQuietHours_iff (timed : Timed prefs) : isInQuietHours prefs time = true ↔
      prefs.quietHours.enabled = true ∧ (prefs.quietHours.start = prefs.quietHours.endTime ∨ Quiet prefs time) := by
  obtain ⟨first, last, start, stop⟩ := timed
  have interval : Quiet prefs time ↔ prefs.quietHours.enabled = true ∧ time.position ∈ cyclicIco first.position last.position := by
    refine and_congr_right fun _ => ⟨?_, fun mem => ⟨first, last, start, stop, mem⟩⟩
    rintro ⟨first', last', start', stop', mem⟩
    rw [(ClockTime.text_inj first first').mp (start.symm.trans start'), (ClockTime.text_inj last last').mp (stop.symm.trans stop')]
    exact mem
  rw [interval]
  unfold isInQuietHours
  rw [start, stop]
  cases prefs.quietHours.enabled with
  | false => simp
  | true =>
    simp only [ClockTime.text_inj, ClockTime.text_lt]
    by_cases same : first.position = last.position
    · simp [same]
    · by_cases before : first.position < last.position
      · rw [if_pos before, mem_cyclicIco_of_lt before]
        simp [same]
      · have after : last.position < first.position := by omega
        rw [if_neg before, mem_cyclicIco_of_gt after]
        simp [same]

theorem awake_iff (timed : Timed prefs) : Awake prefs time ↔ isInQuietHours prefs time = false := by
  rw [← Bool.not_eq_true, isInQuietHours_iff timed, not_and, not_or]
  rfl

theorem Quiet.proper (quiet : Quiet prefs time) : prefs.quietHours.start ≠ prefs.quietHours.endTime := by
  obtain ⟨-, first, last, start, stop, mem⟩ := quiet
  rw [start, stop]
  intro same
  rw [(ClockTime.text_inj first last).mp same, cyclicIco_self] at mem
  exact mem

theorem kept_iff (timed : Timed prefs) {other : ClockTime} : (isInQuietHours prefs time = true ↔ Quiet prefs other) ↔
      (prefs.quietHours.enabled = true → prefs.quietHours.start ≠ prefs.quietHours.endTime ∧ (Quiet prefs time ↔ Quiet prefs other)) := by
  rw [isInQuietHours_iff timed]
  by_cases enabled : prefs.quietHours.enabled = true
  · by_cases same : prefs.quietHours.start = prefs.quietHours.endTime
    · have never : ¬ Quiet prefs other := fun quiet => quiet.proper same
      simp [never]
    · simp [enabled, same]
  · have never : ¬ Quiet prefs other := fun quiet => enabled quiet.1
    simp [never]

end

section

variable {env : NotificationEnv} {now : Instant} {job : DeliveryJob} {db : NotificationDb}

theorem mem_pushUserIds (wellformed : Wellformed db) {user : NotifiedUser} (mem : user ∈ db.users) :
    user.id ∈ pushUserIds env now job db ↔
      user.id ∈ job.userIds ∧ isInQuietHours (parseUserPreferences user.preferences) (env.clock job.timeZone now) = false := by
  unfold pushUserIds
  rw [mem_filter, findBy_of_mem wellformed.users mem, Option.any_some, Bool.not_eq_true']

variable {device : PushSubscription}

theorem mem_subscriptionsOf {userIds : List Id} :
    device ∈ subscriptionsOf userIds db ↔ device ∈ db.subscriptions ∧ device.userId ∈ userIds ∧ device.revokedAt = none := by
  unfold subscriptionsOf
  rw [mem_filter, decide_eq_true_eq]

theorem dispatch_sends : (dispatch env now job db).2 = processDeliveryJob env now job db := rfl

theorem devices_found (wellformed : Wellformed db)
    (awake : ∀ device ∈ job.devices db, ∀ user ∈ db.users, user.id = device.userId →
      Awake (parseUserPreferences user.preferences) (env.clock job.timeZone now)) :
    subscriptionsOf (pushUserIds env now job db) db = job.devices db := by
  refine filter_congr fun device mem => ?_
  obtain ⟨user, listed, own⟩ := wellformed.owners device mem
  rw [decide_eq_decide]
  refine ⟨fun ⟨pushed, live⟩ => ⟨(mem_filter.mp pushed).1, live⟩, fun ⟨recipient, live⟩ => ⟨?_, live⟩⟩
  have registered : device ∈ job.devices db := mem_subscriptionsOf.mpr ⟨mem, recipient, live⟩
  rw [← own] at recipient ⊢
  rw [mem_pushUserIds wellformed listed]
  exact ⟨recipient, (awake_iff (wellformed.timed user listed)).mp (awake device registered user listed own)⟩

theorem expoMessages_all {devices : List PushSubscription}
    (expo : ∀ device ∈ devices, device.kind = .expo ∧ env.isExpoPushToken device.token = true) :
    expoMessages env job devices = devices.map job.message := by
  unfold expoMessages
  rw [filter_eq_self.mpr]
  intro device mem
  obtain ⟨kind, token⟩ := expo device mem
  simp [kind, token]

variable {messages : List ExpoPushMessage}

theorem sendPush_all (chunks : ChunksWork env)
    (taken : ∀ chunk ∈ env.chunkPushNotifications messages, env.takes chunk = true) :
    sendPush env messages = messages := by
  unfold sendPush
  split
  · rename_i none
    exact none.symm
  · rw [takeWhile_eq_self_iff.mpr taken, chunks.whole]

theorem mem_of_sent (chunks : ChunksWork env) {message : ExpoPushMessage} (sent : message ∈ sendPush env messages) :
    message ∈ messages := by
  unfold sendPush at sent
  split at sent
  · nomatch sent
  · rw [← chunks.whole messages]
    obtain ⟨chunk, mem, inside⟩ := mem_flatten.mp sent
    exact mem_flatten.mpr ⟨chunk, (takeWhile_sublist _).subset mem, inside⟩

theorem device_of_received (wellformed : Wellformed db) (chunks : ChunksWork env) (mem : device ∈ job.devices db)
    (received : Receives (processDeliveryJob env now job db) device) :
    device.userId ∈ pushUserIds env now job db ∧ device.kind = .expo ∧ env.isExpoPushToken device.token = true := by
  obtain ⟨kind, message, sent, own⟩ := received
  have made := mem_of_sent chunks sent
  obtain ⟨other, pick, rfl⟩ := mem_map.mp made
  obtain ⟨found, passes⟩ := mem_filter.mp pick
  rw [Bool.and_eq_true, decide_eq_true_eq] at passes
  obtain ⟨stored, pushed, -⟩ := mem_subscriptionsOf.mp found
  obtain ⟨listed, -, -⟩ := mem_subscriptionsOf.mp mem
  have same : (other.kind, other.token) = (device.kind, device.token) := Prod.ext (passes.1.trans kind.symm) own
  obtain rfl := eq_of_key_eq wellformed.tokens stored listed same
  exact ⟨pushed, kind, passes.2⟩

theorem messages_nodup (wellformed : Wellformed db) (expo : ∀ device ∈ job.devices db, device.kind = .expo) :
    ((job.devices db).map job.message).Nodup := by
  have keys : ((job.devices db).map fun device => (device.kind, device.token)).Nodup :=
    wellformed.tokens.sublist (filter_sublist.map _)
  refine List.Nodup.map_on (fun one mem other also same => ?_) (List.Nodup.of_map _ keys)
  have tokens : one.token = other.token := congrArg ExpoPushMessage.to' same
  exact inj_on_of_nodup_map keys mem also (Prod.ext ((expo one mem).trans (expo other also).symm) tokens)

theorem chunks_taken (chunks : ChunksWork env) (nodup : messages.Nodup)
    (sent : ∀ message ∈ messages, message ∈ sendPush env messages) :
    ∀ chunk ∈ env.chunkPushNotifications messages, env.takes chunk = true := by
  have whole := chunks.whole messages
  have parts := takeWhile_append_dropWhile (p := env.takes) (l := env.chunkPushNotifications messages)
  rw [← parts, flatten_append] at whole
  cases left : (env.chunkPushNotifications messages).dropWhile env.takes with
  | nil =>
    rw [left, append_nil] at parts
    exact takeWhile_eq_self_iff.mp parts
  | cons chunk rest =>
    have inside : chunk ∈ env.chunkPushNotifications messages := by
      rw [← parts, left]
      exact mem_append_right _ mem_cons_self
    obtain ⟨message, first⟩ := exists_mem_of_ne_nil _ (chunks.filled messages chunk inside)
    have late : message ∈ ((env.chunkPushNotifications messages).dropWhile env.takes).flatten := by
      rw [left]
      exact mem_flatten.mpr ⟨chunk, mem_cons_self, first⟩
    have early : message ∈ ((env.chunkPushNotifications messages).takeWhile env.takes).flatten := by
      have mem : message ∈ messages := whole ▸ mem_append_right _ late
      have out := sent message mem
      unfold sendPush at out
      rw [if_neg (ne_nil_of_mem mem)] at out
      exact out
    rw [← whole, nodup_append] at nodup
    exact absurd rfl (nodup.2.2 message early message late)

theorem onSosRaised_zone {payload : SosRaised} (raised : onSosRaised payload db = some job) : job.timeZone = none := by
  obtain ⟨alert, -, rest⟩ := Option.bind_eq_some_iff.mp raised
  dsimp only at rest
  split at rest
  · cases rest
  · cases rest
    rfl

theorem heard_iff (wellformed : Wellformed db) (chunks : ChunksWork env) (server : job.timeZone = none) :
    Heard env now job db ↔ Audible env now job db := by
  constructor
  · intro heard
    have reached : ∀ device ∈ job.devices db, device.userId ∈ pushUserIds env now job db ∧ device.kind = .expo ∧
        env.isExpoPushToken device.token = true := fun device mem => device_of_received wellformed chunks mem (heard device mem)
    have awake : ∀ device ∈ job.devices db, ∀ user ∈ db.users, user.id = device.userId →
        Awake (parseUserPreferences user.preferences) (env.clock job.timeZone now) := by
      intro device mem user listed own
      have pushed := (reached device mem).1
      rw [← own, mem_pushUserIds wellformed listed] at pushed
      exact (awake_iff (wellformed.timed user listed)).mpr pushed.2
    have found := devices_found wellformed awake
    have all : expoMessages env job (job.devices db) = (job.devices db).map job.message :=
      expoMessages_all fun device mem => (reached device mem).2
    have nodup := messages_nodup wellformed fun device mem => (reached device mem).2.1
    refine ⟨server ▸ awake, fun device mem => (reached device mem).2, chunks_taken chunks nodup fun message made => ?_⟩
    obtain ⟨device, mem, rfl⟩ := mem_map.mp made
    obtain ⟨-, message, sent, own⟩ := heard device mem
    rw [dispatch_sends, processDeliveryJob, found, all] at sent
    obtain ⟨other, also, rfl⟩ := mem_map.mp (mem_of_sent chunks sent)
    have same : job.message other = job.message device := by
      have tokens : other.token = device.token := own
      unfold DeliveryJob.message
      rw [tokens]
    exact same ▸ sent
  · rintro ⟨awake, expo, taken⟩ device mem
    rw [← server] at awake
    refine ⟨(expo device mem).1, job.message device, ?_, rfl⟩
    rw [dispatch_sends, processDeliveryJob, devices_found wellformed awake, expoMessages_all expo, sendPush_all chunks taken]
    exact mem_map_of_mem mem

theorem quietKept_iff (wellformed : Wellformed db) {zone : String} :
    QuietKept env now job zone db ↔ ClocksAgree env now job zone db := by
  refine forall_congr' fun user => forall_congr' fun mem => forall_congr' fun recipient => ?_
  rw [← kept_iff (wellformed.timed user mem), mem_pushUserIds wellformed mem, not_and, Bool.not_eq_false]
  simp only [recipient, true_imp_iff]

/-- An alert is heard, and quiet hours are kept, exactly under these conditions. -/
theorem quiet_hours_exact (wellformed : Wellformed db) (chunks : ChunksWork env) (now : Instant) :
    (∀ payload job, onSosRaised payload db = some job → (Heard env now job db ↔ Audible env now job db)) ∧
      ∀ job zone, QuietKept env now job zone db ↔ ClocksAgree env now job zone db :=
  ⟨fun _ _ raised => heard_iff wellformed chunks (onSosRaised_zone raised), fun _ _ => quietKept_iff wellformed⟩

end

namespace Sample

def clock (ahead : Nat) (now : Instant) : ClockTime :=
  ⟨(now.toNat / 3600000 + ahead) % 24, now.toNat / 60000 % 60, by omega, by omega⟩

def env : NotificationEnv where
  clock := fun zone now => clock (if zone = none then 0 else 8) now
  isExpoPushToken := fun token => "ExponentPushToken[".toList.isPrefixOf token.toList
  chunkPushNotifications := fun messages => if messages = [] then [] else [messages]
  takes := fun _ => true

def quiet : Json := .object [("quietHours", .object [("enabled", .bool true)])]

def db : NotificationDb where
  users := [⟨1, .null⟩, ⟨2, quiet⟩]
  assignments := [⟨⟨.securityGuard, some 1, none⟩, 3, 2, none, none⟩]
  alerts := [⟨5, .medical, none, some "Resident", some "A-1"⟩]
  subscriptions := [⟨9, 2, .expo, "ExponentPushToken[g]", none⟩]
  notifications := []

def raised : SosRaised := ⟨5, 1, 1⟩

def job : DeliveryJob :=
  ⟨[2], .system, "SOS: Medical emergency", "Resident needs help — A-1. Tap to respond.", none⟩

def morning : Instant := 84600000

def noon : Instant := 43200000

theorem chunks_work : ChunksWork env where
  whole := by
    intro messages
    unfold env
    dsimp only
    split
    · rename_i none
      exact none.symm
    · simp
  filled := by
    intro messages chunk mem
    unfold env at mem
    dsimp only at mem
    split at mem
    · nomatch mem
    · rename_i some
      exact mem_singleton.mp mem ▸ some

theorem db_wellformed : Wellformed db where
  users := by decide
  owners := by
    intro device mem
    obtain rfl := mem_singleton.mp mem
    exact ⟨⟨2, quiet⟩, mem_cons_of_mem _ mem_cons_self, rfl⟩
  tokens := by decide
  timed := by
    intro user mem
    refine ⟨⟨22, 0, by decide, by decide⟩, ⟨7, 0, by decide, by decide⟩, ?_⟩
    rcases mem_pair.mp mem with rfl | rfl <;> exact ⟨rfl, rfl⟩

theorem job_raised : onSosRaised raised db = some job := by decide +kernel

end Sample

theorem alert_silenced : ∃ env now payload job db, Wellformed db ∧ ChunksWork env ∧ onSosRaised payload db = some job ∧
    ¬ Heard env now job db := by
  refine ⟨Sample.env, Sample.morning, Sample.raised, Sample.job, Sample.db, Sample.db_wellformed, Sample.chunks_work,
    Sample.job_raised, fun heard => ?_⟩
  have sent : (dispatch Sample.env Sample.morning Sample.job Sample.db).2 = [] := by decide +kernel
  have registered : (⟨9, 2, .expo, "ExponentPushToken[g]", none⟩ : PushSubscription) ∈ Sample.job.devices Sample.db := by
    decide +kernel
  obtain ⟨-, message, listed, -⟩ := heard _ registered
  rw [sent] at listed
  nomatch listed

theorem alert_heard : Heard Sample.env Sample.noon Sample.job Sample.db ∧
    QuietKept Sample.env Sample.noon Sample.job "Asia/Kuala_Lumpur" Sample.db := by
  have exact' := quiet_hours_exact Sample.db_wellformed Sample.chunks_work Sample.noon
  have asleep : isInQuietHours (parseUserPreferences Sample.quiet) (Sample.clock 0 Sample.noon) = false := by decide +kernel
  have asleep' : isInQuietHours (parseUserPreferences Sample.quiet) (Sample.clock 8 Sample.noon) = false := by decide +kernel
  have timed := Sample.db_wellformed.timed ⟨2, Sample.quiet⟩ (List.mem_cons_of_mem _ List.mem_cons_self)
  have awake := (awake_iff timed).mpr asleep
  have awake' := (awake_iff timed).mpr asleep'
  have owner : ∀ user ∈ Sample.db.users, user.id = 2 → user = ⟨2, Sample.quiet⟩ := by
    intro user member own
    rcases List.mem_pair.mp member with rfl | rfl
    · cases own
    · rfl
  constructor
  · refine (exact'.1 Sample.raised Sample.job Sample.job_raised).mpr ⟨fun device member user listed own => ?_, ?_, fun _ _ => rfl⟩
    · obtain rfl := List.mem_singleton.mp (mem_subscriptionsOf.mp member).1
      rw [owner user listed own]
      exact awake
    · intro device member
      obtain rfl := List.mem_singleton.mp (mem_subscriptionsOf.mp member).1
      exact ⟨rfl, by decide +kernel⟩
  · refine (exact'.2 Sample.job "Asia/Kuala_Lumpur").mpr fun user listed recipient enabled => ?_
    rw [owner user listed (List.mem_singleton.mp recipient)] at enabled ⊢
    exact ⟨(awake enabled).1, iff_of_false (awake enabled).2 (awake' enabled).2⟩

end SmartResidence.Notifications
