import SmartResidence.Auth.Schema
import SmartResidence.Cache.CacheService
import SmartResidence.Threads.ThreadsService

/-!
# `user-data-export.service.ts`

Of the sections of a bundle, the profile, the roles and the threads.
-/

namespace SmartResidence.Users

open Foundation Billing Auth Threads Cache

structure ThreadParticipant where
  threadId : Id
  userId : Id
  lastReadAt : Option Instant
  createdAt : Instant
  deriving DecidableEq

structure ExportTables where
  auth : AuthDb
  threads : ThreadDb
  participants : List ThreadParticipant

/-- What `getOne` and `markRead` write when they have authorized the user. -/
def upsertParticipant (now : Instant) (userId threadId : Id) (participants : List ThreadParticipant) : List ThreadParticipant :=
  match findBy (fun row => (row.threadId, row.userId)) (threadId, userId) participants with
  | some _ =>
      updateBy (fun row : ThreadParticipant => (row.threadId, row.userId)) (threadId, userId)
        (fun row => { row with lastReadAt := some now }) participants
  | none => participants ++ [⟨threadId, userId, some now, now⟩]

def markRead (now : Instant) (user : AuthenticatedUser) (id : Id) (tables : ExportTables) : Result ExportTables := do
  let _ ← loadAndAuthorize tables.threads user id
  return { tables with participants := upsertParticipant now user.id id tables.participants }

structure ExportedProfile where
  id : Id
  email : Option String
  phone : Option String
  phoneVerifiedAt : Option Instant
  emailVerifiedAt : Option Instant
  name : String
  status : UserStatus
  lastSeenAt : Option Instant

structure ExportedThread where
  thread : Thread
  messages : List ThreadMessage
  participants : List ThreadParticipant

structure UserDataExportBundle where
  exportedAt : Instant
  profile : ExportedProfile
  roleAssignments : List AssignedRole
  threads : List ExportedThread

def exportProfile (user : User) : ExportedProfile :=
  ⟨user.id, user.email, user.phone, user.phoneVerifiedAt, user.emailVerifiedAt, user.name, user.status, user.lastSeenAt⟩

def participantThreadIds (userId : Id) (tables : ExportTables) : List Id :=
  (tables.participants.filter fun row => decide (row.userId = userId)).map ThreadParticipant.threadId

def exportThread (tables : ExportTables) (thread : Thread) : ExportedThread where
  thread := thread
  messages := (tables.threads.messages.filter fun message => decide (message.threadId = thread.id)).mergeSort
    fun first second => decide (first.createdAt ≤ second.createdAt)
  participants := tables.participants.filter fun row => decide (row.threadId = thread.id)

def loadThreads (userId : Id) (tables : ExportTables) : List ExportedThread :=
  let found := tables.threads.threads.filter fun thread =>
    decide (thread.createdByUserId = userId ∨ thread.id ∈ participantThreadIds userId tables)
  (found.mergeSort fun first second => decide (second.createdAt ≤ first.createdAt)).map (exportThread tables)

def buildBundle (now : Instant) (user : AuthenticatedUser) (tables : ExportTables) : Result UserDataExportBundle := do
  let profileRow ← orThrow (tables.auth.user? user.id) (.notFound "User not found")
  return {
    exportedAt := now
    profile := exportProfile profileRow
    roleAssignments := tables.auth.assignments.filter fun row => decide (row.userId = user.id ∧ row.revokedAt = none)
    threads := loadThreads user.id tables }

structure StoredExport where
  userId : Id
  bundle : UserDataExportBundle

abbrev ExportDb : Type := CacheDb ExportTables StoredExport

structure UserDataExportMeta where
  id : String
  createdAt : Instant
  expiresAt : Instant

def exportTtlSeconds : Int := 24 * 60 * 60

section

variable (ids : Id ↪ Uuid) (now : Instant) (user : AuthenticatedUser) (exportId : String) (db : ExportDb)

def exportKey : String := "pdpa:export:" ++ (ids user.id).text ++ ":" ++ exportId

def createExport : Result (ExportDb × UserDataExportMeta) := do
  let bundle ← buildBundle now user db.data
  return (db.set now (exportKey ids user exportId) ⟨user.id, bundle⟩ exportTtlSeconds,
    ⟨exportId, now, now + exportTtlSeconds * 1000⟩)

def getExport : Result UserDataExportBundle := do
  let stored ← orThrow (db.get now (exportKey ids user exportId)) (.notFound "Export not found or expired")
  throwIf (stored.userId ≠ user.id) (.notFound "Export not found or expired")
  return stored.bundle

end

inductive ExportEvent
  | markRead (now : Instant) (user : AuthenticatedUser) (threadId : Id)
  | createExport (now : Instant) (user : AuthenticatedUser) (exportId : String)
  | change (tables : ExportTables)

inductive ExportStep (ids : Id ↪ Uuid) (before : ExportDb) : ExportEvent → ExportDb → Prop
  | markRead {now : Instant} {user : AuthenticatedUser} {threadId : Id} {tables : ExportTables} :
      Users.markRead now user threadId before.data = .ok tables →
      ExportStep ids before (.markRead now user threadId) { before with data := tables }
  | createExport {now : Instant} {user : AuthenticatedUser} {exportId : String} {after : ExportDb} {described : UserDataExportMeta} :
      Users.createExport ids now user exportId before = .ok (after, described) →
      ExportStep ids before (.createExport now user exportId) after
  | change {tables : ExportTables} : (tables.threads.threads.map Thread.id).Nodup →
      ExportStep ids before (.change tables) { before with data := tables }

end SmartResidence.Users
