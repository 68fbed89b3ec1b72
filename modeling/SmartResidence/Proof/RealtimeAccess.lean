import SmartResidence.Proof.ThreadAccess
import SmartResidence.Realtime.RealtimeGateway

/-!
# Who receives the relayed events

The room of a user and the rooms of threads can be kept to readers; the room of a condo holds everybody with a role in it.
-/

namespace SmartResidence.Realtime

open Foundation Billing List

/-- The service of the row gives it to the user; an internal note is for the management of its condo. -/
def Readable (db : RealtimeDb) (user : AuthenticatedUser) : DomainEvent → Prop
  | .visitor visitorId => ∃ visitor, Visitors.getVisitor user visitorId db.visitors = .ok visitor
  | .threadCreated threadId | .threadStatus threadId | .threadSlaEscalation threadId =>
      ∃ thread, Threads.loadAndAuthorize db.threads user threadId = .ok thread
  | .threadMessage threadId _ internal =>
      ∃ thread, Threads.loadAndAuthorize db.threads user threadId = .ok thread ∧
        (internal = true → thread.condoId ∈ Threads.managementCondoIds user)
  | .sos sosId => ∃ alert, Safety.getAlert user sosId db.sos = .ok alert
  | .parcel parcelId => ∃ parcel, Parcels.getParcel user parcelId db.parcels = .ok parcel
  | .form submissionId => ∃ row, Forms.getSubmission user submissionId db.forms = .ok row

def Delivery.Allowed (delivery : Delivery) : Prop := Readable delivery.db (delivery.db.user delivery.userId) delivery.event

/-! ## The checks of the services -/

def readsThread (db : RealtimeDb) (user : AuthenticatedUser) (threadId : Id) : Bool :=
  (db.threads.thread? threadId).any (Threads.mayAccess user)

def readsVisitor (db : RealtimeDb) (user : AuthenticatedUser) (visitor : Visitors.Visitor) : Bool :=
  Visitors.userIsManagement user visitor.condoId || Visitors.isGuard user ||
    visitor.unitId.any fun unitId => Visitors.userCanManageUnit user unitId ||
      (db.visitors.unit? unitId).any fun unit => Visitors.userIsManagement user unit.condoId

def admits (db : RealtimeDb) (user : AuthenticatedUser) : DomainEvent → Bool
  | .visitor visitorId => (db.visitors.visitor? visitorId).any (readsVisitor db user)
  | .threadCreated threadId | .threadStatus threadId | .threadSlaEscalation threadId => readsThread db user threadId
  | .threadMessage threadId _ internal => (db.threads.thread? threadId).any fun thread =>
      Threads.mayAccess user thread && (! internal || decide (thread.condoId ∈ Threads.managementCondoIds user))
  | .sos sosId => (db.sos.alert? sosId).any fun alert =>
      decide (alert.raisedByUserId = user.id) || Safety.isManagementOrGuard user alert.condoId
  | .parcel parcelId => (db.parcels.parcel? parcelId).any (Parcels.userCanReadParcel user)
  | .form submissionId => (db.forms.submission? submissionId).any fun row =>
      decide (row.userId = user.id) || Forms.isManagement user row.condoId

def condoOf (db : RealtimeDb) : DomainEvent → Option Id
  | .visitor visitorId => (db.visitors.visitor? visitorId).map Visitors.Visitor.condoId
  | .threadCreated threadId | .threadMessage threadId _ _ | .threadStatus threadId | .threadSlaEscalation threadId =>
      (db.threads.thread? threadId).map Threads.Thread.condoId
  | .sos sosId => (db.sos.alert? sosId).map Safety.SosAlert.condoId
  | .parcel parcelId => (db.parcels.parcel? parcelId).map Parcels.Parcel.condoId
  | .form submissionId => (db.forms.submission? submissionId).map Forms.FormSubmission.condoId

section

variable {db : RealtimeDb} {user : AuthenticatedUser} {event : DomainEvent}

theorem checked_ok {Row : Type} {row : Option Row} {missing refused : ApiError} {blocked : Row → Prop} [DecidablePred blocked]
    {own : Row} : (do let row ← orThrow row missing; throwIf (blocked row) refused; return row : Result Row) = .ok own ↔
      row = some own ∧ ¬ blocked own := by
  simp only [bind_eq_ok, orThrow_eq_ok, throwIf_eq_ok, pure_eq_ok]
  constructor
  · rintro ⟨_, found, _, free, rfl⟩
    exact ⟨found, free⟩
  · rintro ⟨found, free⟩
    exact ⟨own, found, (), free, rfl⟩

theorem readsThread_iff {threadId : Id} :
    readsThread db user threadId = true ↔ ∃ thread, Threads.loadAndAuthorize db.threads user threadId = .ok thread := by
  unfold readsThread
  rw [Option.any_eq_true]
  exact exists_congr fun thread => Threads.loadAndAuthorize_ok.symm

theorem assertUnitAccess_ok {unitId : Id} : Visitors.assertUnitAccess user unitId db.visitors = .ok () ↔
    (Visitors.userCanManageUnit user unitId ||
      (db.visitors.unit? unitId).any fun unit => Visitors.userIsManagement user unit.condoId) = true := by
  unfold Visitors.assertUnitAccess
  by_cases household : Visitors.userCanManageUnit user unitId = true
  · simp [household]
  · simp [household, Option.any_eq_true]

variable {visitor : Visitors.Visitor}

theorem assertMayView_ok :
    Visitors.assertMayView user visitor db.visitors = .ok () ↔ readsVisitor db user visitor = true := by
  unfold Visitors.assertMayView readsVisitor
  by_cases wide : (Visitors.userIsManagement user visitor.condoId || Visitors.isGuard user) = true
  · simp [wide]
  · rw [Bool.eq_false_iff.mpr wide]
    cases unit : visitor.unitId with
    | none => simp
    | some unitId => exact assertUnitAccess_ok

theorem getVisitor_ok {visitorId : Id} :
    Visitors.getVisitor user visitorId db.visitors = .ok visitor ↔
      db.visitors.visitor? visitorId = some visitor ∧ readsVisitor db user visitor = true := by
  unfold Visitors.getVisitor
  simp only [bind_eq_ok, orThrow_eq_ok, pure_eq_ok]
  constructor
  · rintro ⟨_, found, _, allowed, rfl⟩
    exact ⟨found, assertMayView_ok.mp allowed⟩
  · rintro ⟨found, allowed⟩
    exact ⟨visitor, found, (), assertMayView_ok.mpr allowed, rfl⟩

theorem readable_iff : Readable db user event ↔ admits db user event = true := by
  cases event with
  | visitor visitorId =>
    unfold admits
    rw [Option.any_eq_true]
    exact exists_congr fun visitor => getVisitor_ok
  | threadCreated threadId => exact readsThread_iff.symm
  | threadStatus threadId => exact readsThread_iff.symm
  | threadSlaEscalation threadId => exact readsThread_iff.symm
  | threadMessage threadId messageId internal =>
    unfold admits
    rw [Option.any_eq_true]
    refine exists_congr fun thread => ?_
    rw [Threads.loadAndAuthorize_ok]
    cases internal <;> simp [and_assoc]
  | sos sosId =>
    unfold admits
    rw [Option.any_eq_true]
    refine exists_congr fun alert => checked_ok.trans (and_congr_right fun _ => ?_)
    simp
    tauto
  | parcel parcelId =>
    unfold admits
    rw [Option.any_eq_true]
    refine exists_congr fun parcel => checked_ok.trans (and_congr_right fun _ => ?_)
    simp
  | form submissionId =>
    unfold admits
    rw [Option.any_eq_true]
    refine exists_congr fun row => checked_ok.trans (and_congr_right fun _ => ?_)
    simp
    tauto

end

section

variable {db : RealtimeDb} {event : DomainEvent} {emission : Emission}

theorem mem_elim {Row Item : Type} {row : Option Row} {items : Row → List Item} {item : Item}
    (mem : item ∈ row.elim [] items) : ∃ own, row = some own ∧ item ∈ items own := by
  cases row with
  | none => cases mem
  | some own => exact ⟨own, rfl, mem⟩

theorem emission_room (mem : emission ∈ emissions db event) :
    (∃ condoId, emission.room = .condo condoId ∧ condoOf db event = some condoId) ∨
      (∃ threadId, emission.room = .thread threadId ∧
        ∀ user, readsThread db user threadId = true → admits db user event = true) ∨
      ∃ userId, emission.room = .user userId ∧ ∀ user : AuthenticatedUser, user.id = userId → admits db user event = true := by
  cases event with
  | visitor visitorId =>
    obtain ⟨visitor, found, sent⟩ := mem_elim mem
    obtain rfl := mem_singleton.mp sent
    exact .inl ⟨_, rfl, Option.map_eq_some_iff.mpr ⟨visitor, found, rfl⟩⟩
  | threadCreated threadId | threadSlaEscalation threadId =>
    obtain ⟨thread, found, sent⟩ := mem_elim mem
    obtain rfl := mem_singleton.mp sent
    exact .inl ⟨_, rfl, Option.map_eq_some_iff.mpr ⟨thread, found, rfl⟩⟩
  | threadMessage threadId messageId internal =>
    obtain ⟨thread, found, sent⟩ := mem_elim mem
    rcases mem_cons.mp sent with rfl | direct
    · exact .inl ⟨_, rfl, Option.map_eq_some_iff.mpr ⟨thread, found, rfl⟩⟩
    · cases internal with
      | true => cases direct
      | false =>
        obtain rfl := mem_singleton.mp direct
        refine .inr (.inl ⟨threadId, rfl, fun user reads => ?_⟩)
        obtain ⟨own, there, allowed⟩ := (Option.any_eq_true _ _).mp reads
        exact (Option.any_eq_true _ _).mpr ⟨own, there, by simp [allowed]⟩
  | threadStatus threadId =>
    obtain ⟨thread, found, sent⟩ := mem_elim mem
    rcases mem_cons.mp sent with rfl | direct
    · exact .inl ⟨_, rfl, Option.map_eq_some_iff.mpr ⟨thread, found, rfl⟩⟩
    · obtain rfl := mem_singleton.mp direct
      exact .inr (.inl ⟨threadId, rfl, fun user reads => reads⟩)
  | sos sosId =>
    obtain ⟨alert, found, sent⟩ := mem_elim mem
    rcases mem_cons.mp sent with rfl | direct
    · exact .inl ⟨_, rfl, Option.map_eq_some_iff.mpr ⟨alert, found, rfl⟩⟩
    · obtain rfl := mem_singleton.mp direct
      exact .inr (.inr ⟨_, rfl, fun user same => (Option.any_eq_true _ _).mpr ⟨alert, found, by simp [same]⟩⟩)
  | parcel parcelId =>
    obtain ⟨parcel, found, sent⟩ := mem_elim mem
    obtain rfl := mem_singleton.mp sent
    exact .inl ⟨_, rfl, Option.map_eq_some_iff.mpr ⟨parcel, found, rfl⟩⟩
  | form submissionId =>
    obtain ⟨row, found, sent⟩ := mem_elim mem
    rcases mem_cons.mp sent with rfl | direct
    · exact .inl ⟨_, rfl, Option.map_eq_some_iff.mpr ⟨row, found, rfl⟩⟩
    · obtain rfl := mem_singleton.mp direct
      exact .inr (.inr ⟨_, rfl, fun user same => (Option.any_eq_true _ _).mpr ⟨row, found, by simp [same]⟩⟩)

theorem mem_deliver {sockets : List Socket} {delivery : Delivery} (mem : delivery ∈ deliver db event sockets) :
    ∃ emission ∈ emissions db event, ∃ socket ∈ sockets, emission.room ∈ socket.rooms ∧
      delivery = ⟨socket.user.id, emission.name, event, db⟩ := by
  obtain ⟨emission, sent, mine⟩ := mem_flatMap.mp mem
  obtain ⟨socket, listening, own⟩ := mem_map.mp mine
  obtain ⟨connected, inside⟩ := mem_filter.mp listening
  exact ⟨emission, sent, socket, connected, of_decide_eq_true inside, own.symm⟩

end

def Socket.threadIds (socket : Socket) : List Id :=
  socket.rooms.filterMap fun room => match room with
    | .thread threadId => some threadId
    | .user _ | .condo _ => none

structure Socket.Kept (db : RealtimeDb) (socket : Socket) : Prop where
  own : ∀ userId, .user userId ∈ socket.rooms → socket.user.id = userId
  joined : ∀ threadId ∈ socket.threadIds, readsThread db (db.user socket.user.id) threadId = true

section

variable {db : RealtimeDb} {socket : Socket} {threadId : Id}

theorem mem_threadIds : threadId ∈ socket.threadIds ↔ .thread threadId ∈ socket.rooms := by
  unfold Socket.threadIds
  rw [mem_filterMap]
  constructor
  · rintro ⟨room, mem, named⟩
    cases room with
    | user userId => cases named
    | condo condoId => cases named
    | thread other =>
      cases named
      exact mem
  · exact fun mem => ⟨_, mem, rfl⟩

theorem kept_connection (user : AuthenticatedUser) (socketId : Id) (requestedCondoId : Option Id) :
    (handleConnection socketId user requestedCondoId).Kept db := by
  refine ⟨fun userId mem => ?_, fun threadId mem => ?_⟩
  · rcases mem_cons.mp mem with same | condo
    · cases same
      rfl
    · obtain ⟨condoId, -, same⟩ := mem_map.mp condo
      cases same
  · rcases mem_cons.mp (mem_threadIds.mp mem) with same | condo
    · cases same
    · obtain ⟨condoId, -, same⟩ := mem_map.mp condo
      cases same

theorem Socket.Kept.join (kept : socket.Kept db) (reads : readsThread db (db.user socket.user.id) threadId = true) :
    (socket.join (.thread threadId)).Kept db := by
  refine ⟨fun userId mem => ?_, fun other mem => ?_⟩
  · rcases mem_append.mp mem with old | new
    · exact kept.own userId old
    · cases mem_singleton.mp new
  · rcases mem_append.mp (mem_threadIds.mp mem) with old | new
    · exact kept.joined other (mem_threadIds.mpr old)
    · cases mem_singleton.mp new
      exact reads

theorem Socket.Kept.leave (kept : socket.Kept db) (room : Room) : (socket.leave room).Kept db := by
  refine ⟨fun userId mem => kept.own userId (mem_filter.mp mem).1, fun other mem => ?_⟩
  have old := (mem_filter.mp (mem_threadIds.mp mem)).1
  exact kept.joined other (mem_threadIds.mpr old)

end

/-! ## Runs -/

/-- Who joins the room of a thread may read it and keeps that right, and in the room of a condo there are only users whom the
service of an event's row would let see it. -/
def Confined (gateway : RealtimeGateway) : GatewayEvent → Prop
  | .threadJoin socketId joined => ∀ socket ∈ gateway.sockets, socket.id = socketId → ∀ threadId ∈ joined,
      readsThread gateway.db (gateway.db.user socket.user.id) threadId = true
  | .change db => ∀ socket ∈ gateway.sockets, ∀ threadId ∈ socket.threadIds,
      readsThread db (db.user socket.user.id) threadId = true
  | .emit event => ∀ condoId ∈ condoOf gateway.db event, ∀ socket ∈ gateway.sockets, .condo condoId ∈ socket.rooms →
      admits gateway.db (gateway.db.user socket.user.id) event = true
  | .connect _ _ _ | .disconnect _ | .threadLeave _ _ => True

structure KeptToReaders (gateway : RealtimeGateway) : Prop where
  sockets : ∀ socket ∈ gateway.sockets, socket.Kept gateway.db
  deliveries : ∀ delivery ∈ gateway.deliveries, delivery.Allowed

section

variable {gateway : RealtimeGateway} {event : GatewayEvent}

theorem KeptToReaders.update (kept : KeptToReaders gateway) {socketId : Id} {change : Socket → Socket}
    (changed : ∀ socket ∈ gateway.sockets, socket.id = socketId → (change socket).Kept gateway.db) :
    KeptToReaders (gateway.update socketId change) := by
  refine ⟨fun socket mem => ?_, kept.deliveries⟩
  obtain ⟨old, connected, own⟩ := mem_updateBy.mp mem
  split at own
  · rename_i named
    subst own
    exact changed old connected named
  · subst own
    exact kept.sockets socket connected

theorem KeptToReaders.emit (kept : KeptToReaders gateway) {event : DomainEvent} (confined : Confined gateway (.emit event)) :
    KeptToReaders (gateway.next (.emit event)) := by
  refine ⟨kept.sockets, fun delivery mem => ?_⟩
  rcases mem_append.mp mem with old | new
  · exact kept.deliveries delivery old
  · obtain ⟨emission, sent, socket, connected, inside, rfl⟩ := mem_deliver new
    have mine := kept.sockets socket connected
    refine readable_iff.mpr ?_
    rcases emission_room sent with ⟨condoId, room, relayed⟩ | ⟨threadId, room, reads⟩ | ⟨userId, room, own⟩
    · exact confined condoId relayed socket connected (room ▸ inside)
    · exact reads _ (mine.joined threadId (mem_threadIds.mpr (room ▸ inside)))
    · exact own _ (mine.own userId (room ▸ inside))

theorem KeptToReaders.next (kept : KeptToReaders gateway) (confined : Confined gateway event) :
    KeptToReaders (gateway.next event) := by
  cases event with
  | connect socketId user requestedCondoId =>
    refine ⟨fun socket mem => ?_, kept.deliveries⟩
    rcases mem_append.mp mem with old | new
    · exact kept.sockets socket old
    · obtain ⟨own, -, rfl⟩ := mem_map.mp new
      exact kept_connection own socketId requestedCondoId
  | disconnect socketId => exact ⟨fun socket mem => kept.sockets socket (mem_filter.mp mem).1, kept.deliveries⟩
  | threadJoin socketId joined =>
    cases joined with
    | none => exact kept
    | some threadId =>
      refine kept.update fun socket connected named => (kept.sockets socket connected).join ?_
      exact confined socket connected named threadId rfl
  | threadLeave socketId left =>
    cases left with
    | none => exact kept
    | some threadId => exact kept.update fun socket connected _ => (kept.sockets socket connected).leave _
  | change db =>
    refine ⟨fun socket connected => ?_, kept.deliveries⟩
    exact ⟨(kept.sockets socket connected).own, confined socket connected⟩
  | emit event => exact kept.emit confined

end

instance (gateway : RealtimeGateway) : ∀ event, Decidable (Confined gateway event)
  | .threadJoin socketId joined => inferInstanceAs (Decidable (∀ socket ∈ gateway.sockets, socket.id = socketId →
      ∀ threadId ∈ joined, readsThread gateway.db (gateway.db.user socket.user.id) threadId = true))
  | .change db => inferInstanceAs (Decidable (∀ socket ∈ gateway.sockets, ∀ threadId ∈ socket.threadIds,
      readsThread db (db.user socket.user.id) threadId = true))
  | .emit event => inferInstanceAs (Decidable (∀ condoId ∈ condoOf gateway.db event, ∀ socket ∈ gateway.sockets,
      .condo condoId ∈ socket.rooms → admits gateway.db (gateway.db.user socket.user.id) event = true))
  | .connect _ _ _ | .disconnect _ | .threadLeave _ _ => inferInstanceAs (Decidable True)

namespace Sample

def complaint : Threads.Thread := { Threads.Sample.leak with createdByUserId := 2 }

def roles : Id → List RoleAssignment
  | 1 => [⟨.managementAdmin, some 1, none⟩]
  | 2 => [⟨.unitOwner, some 1, some 1⟩]
  | 3 => [⟨.tenant, some 1, some 2⟩]
  | 4 => [⟨.tenant, some 2, some 3⟩]
  | _ => []

def complained : RealtimeDb :=
  { roles := roles, threads := ⟨2, [], [⟨1, 1⟩, ⟨2, 1⟩], [], [], [complaint], [], Threads.ThreadDb.no_policies⟩
    visitors := ⟨1, [], [], [], [], [], [], [], []⟩, parcels := ⟨1, [], []⟩, forms := ⟨1, [], [], [], [], []⟩
    sos := ⟨1, [], [], []⟩ }

def connected (userId : Id) : GatewayEvent := .connect userId (some (complained.user userId)) none

def overheard : List GatewayEvent :=
  [connected 3, .emit (.threadMessage 1 1 true), connected 4, .threadJoin 4 (some 1), .disconnect 3,
    .emit (.threadMessage 1 2 false)]

def answered : List GatewayEvent :=
  [connected 1, connected 2, .threadJoin 2 (some 1), .emit (.threadMessage 1 1 false)]

end Sample

end SmartResidence.Realtime
