import SmartResidence.Forms.FormsService
import SmartResidence.Safety.SosService
import SmartResidence.Threads.ThreadsService
import SmartResidence.Visitors.VisitorService

/-!
# `realtime.gateway.ts`

Of the relayed events the model has those about threads, visitors, parcels, form submissions and SOS alerts.
-/

namespace SmartResidence.Realtime

open Foundation Billing

structure RealtimeDb where
  roles : Id → List RoleAssignment
  threads : Threads.ThreadDb
  visitors : Visitors.VisitorDb
  parcels : Parcels.ParcelDb
  forms : Forms.FormsDb
  sos : Safety.SosDb

def RealtimeDb.user (db : RealtimeDb) (id : Id) : AuthenticatedUser := ⟨id, db.roles id⟩

inductive Room
  | user (userId : Id)
  | condo (condoId : Id)
  | thread (threadId : Id)
  deriving DecidableEq

/-- A socket with the user that `loadUser` gave it when it connected. -/
structure Socket where
  id : Id
  user : AuthenticatedUser
  rooms : List Room

def ownCondoIds (user : AuthenticatedUser) (requestedCondoId : Option Id) : List Id :=
  user.roles.filterMap RoleAssignment.condoId ++ if user.roles.any isSuperAdmin then requestedCondoId.toList else []

def handleConnection (id : Id) (user : AuthenticatedUser) (requestedCondoId : Option Id) : Socket :=
  ⟨id, user, .user user.id :: (ownCondoIds user requestedCondoId).map .condo⟩

def Socket.join (socket : Socket) (room : Room) : Socket := { socket with rooms := socket.rooms ++ [room] }

def Socket.leave (socket : Socket) (room : Room) : Socket :=
  { socket with rooms := socket.rooms.filter fun other => decide (other ≠ room) }

inductive DomainEvent
  | visitor (visitorId : Id)
  | threadCreated (threadId : Id)
  | threadMessage (threadId messageId : Id) (internal : Bool)
  | threadStatus (threadId : Id)
  | threadSlaEscalation (threadId : Id)
  | sos (sosId : Id)
  | parcel (parcelId : Id)
  | form (submissionId : Id)
  deriving DecidableEq

structure Emission where
  room : Room
  name : String
  deriving DecidableEq

def threadMessageEmissions (condoId threadId : Id) (internal : Bool) : List Emission :=
  ⟨.condo condoId, "thread:message"⟩ :: if internal then [] else [⟨.thread threadId, "thread:message"⟩]

def emissions (db : RealtimeDb) : DomainEvent → List Emission
  | .visitor visitorId =>
      (db.visitors.visitor? visitorId).elim [] fun visitor => [⟨.condo visitor.condoId, "visitor:update"⟩]
  | .threadCreated threadId =>
      (db.threads.thread? threadId).elim [] fun thread => [⟨.condo thread.condoId, "thread:update"⟩]
  | .threadMessage threadId _ internal =>
      (db.threads.thread? threadId).elim [] fun thread => threadMessageEmissions thread.condoId threadId internal
  | .threadStatus threadId =>
      (db.threads.thread? threadId).elim [] fun thread =>
        [⟨.condo thread.condoId, "thread:update"⟩, ⟨.thread threadId, "thread:update"⟩]
  | .threadSlaEscalation threadId =>
      (db.threads.thread? threadId).elim [] fun thread => [⟨.condo thread.condoId, "thread:sla"⟩]
  | .sos sosId =>
      (db.sos.alert? sosId).elim [] fun alert =>
        [⟨.condo alert.condoId, "sos:update"⟩, ⟨.user alert.raisedByUserId, "sos:update"⟩]
  | .parcel parcelId =>
      (db.parcels.parcel? parcelId).elim [] fun parcel => [⟨.condo parcel.condoId, "parcel:update"⟩]
  | .form submissionId =>
      (db.forms.submission? submissionId).elim [] fun row =>
        [⟨.condo row.condoId, "form:update"⟩, ⟨.user row.userId, "form:update"⟩]

structure Delivery where
  userId : Id
  name : String
  event : DomainEvent
  db : RealtimeDb

def deliver (db : RealtimeDb) (event : DomainEvent) (sockets : List Socket) : List Delivery :=
  (emissions db event).flatMap fun emission =>
    (sockets.filter fun socket => decide (emission.room ∈ socket.rooms)).map fun socket =>
      ⟨socket.user.id, emission.name, event, db⟩

structure RealtimeGateway where
  db : RealtimeDb
  sockets : List Socket
  deliveries : List Delivery

inductive GatewayEvent
  /-- With the user that `loadUser` gives, or a token that is missing or invalid. -/
  | connect (socketId : Id) (user : Option AuthenticatedUser) (requestedCondoId : Option Id)
  | disconnect (socketId : Id)
  | threadJoin (socketId : Id) (threadId : Option Id)
  | threadLeave (socketId : Id) (threadId : Option Id)
  | change (db : RealtimeDb)
  | emit (event : DomainEvent)

namespace RealtimeGateway

variable (gateway : RealtimeGateway)

def update (socketId : Id) (change : Socket → Socket) : RealtimeGateway :=
  { gateway with sockets := updateBy Socket.id socketId change gateway.sockets }

def next : GatewayEvent → RealtimeGateway
  | .connect socketId user requestedCondoId =>
      { gateway with sockets := gateway.sockets ++ user.toList.map fun user => handleConnection socketId user requestedCondoId }
  | .disconnect socketId => { gateway with sockets := gateway.sockets.filter fun socket => decide (socket.id ≠ socketId) }
  | .threadJoin socketId threadId =>
      threadId.elim gateway fun threadId => gateway.update socketId fun socket => socket.join (.thread threadId)
  | .threadLeave socketId threadId =>
      threadId.elim gateway fun threadId => gateway.update socketId fun socket => socket.leave (.thread threadId)
  | .change db => { gateway with db := db }
  | .emit event => { gateway with deliveries := gateway.deliveries ++ deliver gateway.db event gateway.sockets }

def Step (before : RealtimeGateway) (event : GatewayEvent) (after : RealtimeGateway) : Prop := before.next event = after

def started (db : RealtimeDb) : RealtimeGateway := ⟨db, [], []⟩

end RealtimeGateway

end SmartResidence.Realtime
