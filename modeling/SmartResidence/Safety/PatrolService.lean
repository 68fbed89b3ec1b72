import SmartResidence.Safety.SosService

/-!
# `patrol.service.ts`

A time zone is given by how far it is ahead of UTC at each instant. Positions and coordinates, which nothing here reads,
are left out.
-/

namespace SmartResidence.Safety

open Foundation Billing Settings Parcels

structure PatrolCheckpoint where
  id : Id
  condoId : Id
  name : String
  code : String
  active : Bool
  expectedIntervalMinutes : Option Nat
  lastOverdueNotifiedAt : Option Instant
  createdAt : Instant
  deriving DecidableEq

inductive PatrolScanSource
  | online | offline
  deriving DecidableEq

structure PatrolScan where
  id : Id
  checkpointId : Id
  condoId : Id
  guardUserId : Id
  scannedAt : Instant
  note : Option String
  source : PatrolScanSource
  deriving DecidableEq

structure PatrolDb where
  nextId : Nat
  guardNames : List (Id × String)
  checkpoints : List PatrolCheckpoint
  scans : List PatrolScan

inductive PatrolNote
  | scanned (checkpointId scanId : Id) (scannedAt : Instant)
  | overdue (checkpointId : Id) (lastScanAt : Option Instant) (at' : Instant)
  deriving DecidableEq

def msPerMinute : ℤ := 60000

def PatrolCheckpoint.intervalMs (checkpoint : PatrolCheckpoint) : Option ℤ :=
  (checkpoint.expectedIntervalMinutes.filter fun minutes => decide (minutes ≠ 0)).map fun minutes : Nat => (minutes : ℤ) * msPerMinute

def isCheckpointOverdue (checkpoint : PatrolCheckpoint) (lastScanAt : Option Instant) (now : Instant) : Bool :=
  match checkpoint.active, checkpoint.intervalMs with
  | true, some intervalMs => decide (intervalMs < now - lastScanAt.getD checkpoint.createdAt)
  | _, _ => false

def PatrolDb.scansOf (db : PatrolDb) (checkpointId : Id) : List PatrolScan :=
  db.scans.filter fun scan => decide (scan.checkpointId = checkpointId)

/-- `orderBy: { scannedAt: 'desc' }, distinct: ['checkpointId']` -/
def PatrolDb.lastScan (db : PatrolDb) (checkpointId : Id) : Option PatrolScan :=
  latestBy PatrolScan.scannedAt (db.scansOf checkpointId)

def PatrolDb.lastScanAt (db : PatrolDb) (checkpointId : Id) : Option Instant := (db.lastScan checkpointId).map PatrolScan.scannedAt

/-- What `toLocaleString` shows of an instant, and `new Date` reads again. -/
def wholeSeconds (t : Instant) : Instant := t / 1000 * 1000

def zonedStartOfDay (offset : Instant → ℤ) (now : Instant) : Instant :=
  let asUtc := wholeSeconds now
  let asTz := wholeSeconds (now + offset now)
  let offsetMs := asTz - asUtc
  let tzNow := now + offsetMs
  tzNow / 86400000 * 86400000 - offsetMs

structure CheckpointStatus where
  checkpoint : PatrolCheckpoint
  lastScanAt : Option Instant
  lastScanGuardName : Option String
  scansToday : Nat
  overdue : Bool

/-- A line of `withStatus`, in the time zone of the condo. -/
def checkpointStatus (offset : Instant → ℤ) (now : Instant) (db : PatrolDb) (checkpoint : PatrolCheckpoint) : CheckpointStatus where
  checkpoint := checkpoint
  lastScanAt := db.lastScanAt checkpoint.id
  lastScanGuardName := (db.lastScan checkpoint.id).bind fun scan => db.guardNames.lookup scan.guardUserId
  scansToday := ((db.scansOf checkpoint.id).filter fun scan => decide (zonedStartOfDay offset now ≤ scan.scannedAt)).length
  overdue := isCheckpointOverdue checkpoint (db.lastScanAt checkpoint.id) now

def withStatus (offset : Instant → ℤ) (now : Instant) (checkpoints : List PatrolCheckpoint) (db : PatrolDb) : List CheckpointStatus :=
  checkpoints.map (checkpointStatus offset now db)

def isManagement (user : AuthenticatedUser) (condoId : Id) : Bool :=
  user.roles.any fun r => decide (r.roleId = .superAdmin ∨
    ((r.roleId = .managementAdmin ∨ r.roleId = .managementStaff) ∧ r.condoId = some condoId))

def isGuardOrManagement (user : AuthenticatedUser) (condoId : Id) : Bool :=
  isManagement user condoId || user.roles.any fun r => decide (r.roleId = .securityGuard ∧ r.condoId = some condoId)

def assertGuardOrManagement (user : AuthenticatedUser) (condoId : Id) : Result Unit :=
  throwIf (¬ isGuardOrManagement user condoId) (.forbidden "Guard or management access required for this condo")

structure PatrolScanDto where
  code : String
  note : Option String
  source : Option PatrolScanSource
  scannedAt : Option (Option Instant)

def PatrolScanDto.instant (dto : PatrolScanDto) (now : Instant) : Option Instant :=
  match dto.scannedAt with
  | none => some now
  | some date => date

def PatrolCheckpoint.unflag (checkpoint : PatrolCheckpoint) : PatrolCheckpoint := { checkpoint with lastOverdueNotifiedAt := none }

abbrev PatrolOutcome : Type := PatrolDb × List PatrolNote

def scan (now : Instant) (actor : AuthenticatedUser) (dto : PatrolScanDto) (db : PatrolDb) : Result PatrolOutcome := do
  let checkpoint ← orThrow (findBy PatrolCheckpoint.code (trimText dto.code) db.checkpoints) (.notFound "Unknown checkpoint code")
  throwIf (checkpoint.active = false) (.badRequest "This checkpoint is inactive")
  assertGuardOrManagement actor checkpoint.condoId
  let scannedAt ← orThrow (dto.instant now) (.badRequest "Invalid scannedAt")
  let row : PatrolScan :=
    { id := db.nextId, checkpointId := checkpoint.id, condoId := checkpoint.condoId, guardUserId := actor.id, scannedAt := scannedAt
      note := trimmedOrNull dto.note, source := dto.source.getD .online }
  let checkpoints :=
    if checkpoint.lastOverdueNotifiedAt.isSome then
      updateBy PatrolCheckpoint.id checkpoint.id PatrolCheckpoint.unflag db.checkpoints
    else db.checkpoints
  return ({ db with nextId := db.nextId + 1, scans := db.scans ++ [row], checkpoints := checkpoints },
    [.scanned checkpoint.id row.id scannedAt])

def newlyOverdue (now : Instant) (lastScanAt : Option Instant) (checkpoint : PatrolCheckpoint) : Bool :=
  isCheckpointOverdue checkpoint lastScanAt now &&
    ! checkpoint.lastOverdueNotifiedAt.any fun notified => decide (now - notified < checkpoint.intervalMs.getD 0)

def PatrolCheckpoint.flag (now : Instant) (checkpoint : PatrolCheckpoint) : PatrolCheckpoint :=
  { checkpoint with lastOverdueNotifiedAt := some now }

def flagOverdue (now : Instant) (outcome : PatrolOutcome) (read : PatrolCheckpoint × Option Instant) : PatrolOutcome :=
  if newlyOverdue now read.2 read.1 then
    ({ outcome.1 with checkpoints := updateBy PatrolCheckpoint.id read.1.id (PatrolCheckpoint.flag now) outcome.1.checkpoints },
      outcome.2 ++ [.overdue read.1.id read.2 now])
  else outcome

def watched (db : PatrolDb) : List PatrolCheckpoint :=
  db.checkpoints.filter fun checkpoint => checkpoint.active && checkpoint.expectedIntervalMinutes.isSome

def detectOverdue (now : Instant) (db : PatrolDb) : PatrolOutcome :=
  ((watched db).map fun checkpoint => (checkpoint, db.lastScanAt checkpoint.id)).foldl (flagOverdue now) (db, [])

inductive PatrolCall
  | scan (actor : AuthenticatedUser) (dto : PatrolScanDto)
  | sweep

structure PatrolEvent where
  now : Instant
  call : PatrolCall

structure PatrolWorld where
  clock : Instant
  db : PatrolDb
  notes : List PatrolNote

def PatrolWorld.after (world : PatrolWorld) (now : Instant) (outcome : PatrolOutcome) : PatrolWorld :=
  ⟨now, outcome.1, world.notes ++ outcome.2⟩

def PatrolWorld.next (world : PatrolWorld) (event : PatrolEvent) : PatrolWorld :=
  match event.call with
  | .sweep => world.after event.now (detectOverdue event.now world.db)
  | .scan actor dto =>
      match scan event.now actor dto world.db with
      | .ok outcome => world.after event.now outcome
      | .error _ => world.after event.now (world.db, [])

def PatrolStep (before : PatrolWorld) (event : PatrolEvent) (after : PatrolWorld) : Prop :=
  before.clock ≤ event.now ∧ before.next event = after

end SmartResidence.Safety
