import SmartResidence.Auth.Schema
import SmartResidence.Foundation.Clocks
import SmartResidence.Settings.Json

/-!
# `user-preferences.ts` and the delivery of `notification.service.ts`

Of the channels only the push is modelled.
-/

namespace SmartResidence.Notifications

open Foundation Billing Settings

structure QuietHoursSettings where
  enabled : Bool
  start : String
  endTime : String
  deriving DecidableEq

structure UserPreferences where
  emailNotifications : Bool
  whatsappNotifications : Bool
  quietHours : QuietHoursSettings
  deriving DecidableEq

def defaultQuiet : QuietHoursSettings := ⟨false, "22:00", "07:00"⟩

def isTrue : Json → Bool
  | .bool value => value
  | _ => false

def textOr (default : String) : Json → String
  | .string value => value
  | _ => default

def parseUserPreferences (raw : Json) : UserPreferences :=
  let quiet := raw.get "quietHours"
  { emailNotifications := isTrue (raw.get "emailNotifications")
    whatsappNotifications := isTrue (raw.get "whatsappNotifications")
    quietHours :=
      { enabled := isTrue (quiet.get "enabled")
        start := textOr defaultQuiet.start (quiet.get "start")
        endTime := textOr defaultQuiet.endTime (quiet.get "end") } }

/-- `isInQuietHours` at the local time of the given zone. -/
def isInQuietHours (prefs : UserPreferences) (current : ClockTime) : Bool :=
  let start := prefs.quietHours.start
  let endTime := prefs.quietHours.endTime
  if ¬ prefs.quietHours.enabled then false
  else if start = endTime then true
  else if start < endTime then decide (¬ current.text < start) && decide (current.text < endTime)
  else decide (¬ current.text < start) || decide (current.text < endTime)

inductive NotificationKind
  | visitorRequest | visitorWalkInRequest | visitorCheckedIn | visitorCheckedOut
  | invoiceIssued | invoiceDueSoon | invoicePaid | defectUpdate | announcement
  | accessGranted | accessRevoked | auditAlert
  | threadMessage | threadAssigned | threadStatus | threadSlaEscalation
  | parcelReceived | parcelOverdue | lostFoundPost
  | formSubmitted | formApproved | formRejected | documentPublished
  | meetingNoticePublished | proxyReceived | resolutionOpen | system
  deriving DecidableEq

inductive PushKind
  | expo | web
  deriving DecidableEq

inductive SosKind
  | medical | security | fire | general
  deriving DecidableEq

structure NotifiedUser where
  id : Id
  preferences : Json

structure PushSubscription where
  id : Id
  userId : Id
  kind : PushKind
  token : String
  revokedAt : Option Instant
  deriving DecidableEq

structure SosAlert where
  id : Id
  kind : SosKind
  locationNote : Option String
  raisedByName : Option String
  unitIdentifier : Option String

structure Notification where
  userId : Id
  kind : NotificationKind
  title : String
  body : String

structure NotificationDb where
  users : List NotifiedUser
  assignments : List Auth.AssignedRole
  alerts : List SosAlert
  subscriptions : List PushSubscription
  notifications : List Notification

structure ExpoPushMessage where
  to' : String
  title : String
  body : String
  deriving DecidableEq

structure NotificationEnv where
  clock : Option String → Instant → ClockTime
  isExpoPushToken : String → Bool
  chunkPushNotifications : List ExpoPushMessage → List (List ExpoPushMessage)
  takes : List ExpoPushMessage → Bool

/-- The arguments of `dispatch`, and the job that it queues. -/
structure DeliveryJob where
  userIds : List Id
  kind : NotificationKind
  title : String
  body : String
  timeZone : Option String
  deriving DecidableEq

variable (env : NotificationEnv) (now : Instant)

def pushUserIds (job : DeliveryJob) (db : NotificationDb) : List Id :=
  job.userIds.filter fun userId => (findBy NotifiedUser.id userId db.users).any fun user =>
    ! isInQuietHours (parseUserPreferences user.preferences) (env.clock job.timeZone now)

def subscriptionsOf (userIds : List Id) (db : NotificationDb) : List PushSubscription :=
  db.subscriptions.filter fun s => decide (s.userId ∈ userIds ∧ s.revokedAt = none)

def DeliveryJob.message (job : DeliveryJob) (s : PushSubscription) : ExpoPushMessage := ⟨s.token, job.title, job.body⟩

def expoMessages (job : DeliveryJob) (subs : List PushSubscription) : List ExpoPushMessage :=
  (subs.filter fun s => decide (s.kind = .expo) && env.isExpoPushToken s.token).map job.message

def sendPush (messages : List ExpoPushMessage) : List ExpoPushMessage :=
  if messages = [] then []
  else ((env.chunkPushNotifications messages).takeWhile env.takes).flatten

def processDeliveryJob (job : DeliveryJob) (db : NotificationDb) : List ExpoPushMessage :=
  sendPush env (expoMessages env job (subscriptionsOf (pushUserIds env now job db) db))

def dispatch (job : DeliveryJob) (db : NotificationDb) : NotificationDb × List ExpoPushMessage :=
  let rows := job.userIds.map fun userId => (⟨userId, job.kind, job.title, job.body⟩ : Notification)
  let stored : NotificationDb := { db with notifications := db.notifications ++ rows }
  (stored, processDeliveryJob env now job stored)

structure SosRaised where
  sosId : Id
  condoId : Id
  raisedByUserId : Id

def condoSafetyResponderUserIds (condoId : Id) (db : NotificationDb) : List Id :=
  ((db.assignments.filter fun row => decide (row.condoId = some condoId ∧ row.revokedAt = none ∧
    (row.roleId = .managementAdmin ∨ row.roleId = .managementStaff ∨ row.roleId = .securityGuard))).map
      Auth.AssignedRole.userId).dedup

def sosKindLabel : SosKind → String
  | .medical => "Medical"
  | .security => "Security"
  | .fire => "Fire"
  | .general => "General"

/-- What `onSosRaised` dispatches. It passes no time zone. -/
def onSosRaised (payload : SosRaised) (db : NotificationDb) : Option DeliveryJob := do
  let alert ← findBy SosAlert.id payload.sosId db.alerts
  let responders := condoSafetyResponderUserIds payload.condoId db
  let recipients := responders.filter fun id => decide (id ≠ payload.raisedByUserId)
  if recipients = [] then none
  else
    let note := (alert.locationNote.map trimText).filter fun note => decide (note ≠ "")
    let place := note.getD (alert.unitIdentifier.getD "location unknown")
    return { userIds := recipients, kind := .system
             title := "SOS: " ++ sosKindLabel alert.kind ++ " emergency"
             body := alert.raisedByName.getD "A resident" ++ " needs help — " ++ place ++ ". Tap to respond."
             timeZone := none }

end SmartResidence.Notifications
