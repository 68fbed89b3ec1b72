import SmartResidence.Billing.Invoices
import SmartResidence.Foundation.Calendar
import SmartResidence.Foundation.Calls

/-!
# The visitor tables
-/

namespace SmartResidence.Visitors

open Foundation Billing

inductive VisitorVisitType
  | preReg | walkinUnit | walkinOffice
  deriving DecidableEq

inductive VisitorStatus
  | pendingOwnerApproval | pendingManagementApproval | approved | rejected
  | checkedIn | checkedOut | expired | cancelled
  deriving DecidableEq

def VisitorStatus.name : VisitorStatus → String
  | pendingOwnerApproval => "PENDING_OWNER_APPROVAL"
  | pendingManagementApproval => "PENDING_MANAGEMENT_APPROVAL"
  | approved => "APPROVED"
  | rejected => "REJECTED"
  | checkedIn => "CHECKED_IN"
  | checkedOut => "CHECKED_OUT"
  | expired => "EXPIRED"
  | cancelled => "CANCELLED"

def VisitorStatus.upcoming (status : VisitorStatus) : Bool :=
  status ∈ [pendingOwnerApproval, pendingManagementApproval, approved]

structure Visitor where
  id : Id
  condoId : Id
  visitType : VisitorVisitType
  unitId : Option Id
  hostUserId : Option Id
  name : String
  identification : Option String
  phone : Option String
  vehiclePlate : Option String
  overnight : Bool
  expectedAt : Instant
  expectedDurationMins : Option Nat
  qrCode : Option String
  qrPayload : Option String
  accessCode : Option String
  expiresAt : Option Instant
  approvalDeadline : Option Instant
  status : VisitorStatus
  approvedByUserId : Option Id
  approvedAt : Option Instant
  cancelledAt : Option Instant
  createdAt : Instant
  deriving DecidableEq

def Visitor.isWalkIn (visitor : Visitor) : Bool :=
  visitor.visitType ∈ [.walkinUnit, .walkinOffice]

structure VisitorCheckIn where
  id : Id
  visitorId : Id
  checkInAt : Instant
  checkInGuardId : Id
  checkOutAt : Option Instant
  checkOutGuardId : Option Id
  deriving DecidableEq

structure VisitorBlacklist where
  id : Id
  condoId : Id
  name : Option String
  phone : Option String
  vehiclePlate : Option String
  idNumber : Option String
  reason : String
  expiresAt : Option Instant
  active : Bool
  createdAt : Instant
  deriving DecidableEq

structure RecurringPassSchedule where
  daysOfWeek : List Nat
  start : String
  stop : String
  deriving DecidableEq

structure RecurringPass where
  id : Id
  condoId : Id
  unitId : Id
  hostUserId : Id
  guestName : String
  guestPhone : Option String
  vehiclePlate : Option String
  schedule : RecurringPassSchedule
  validFrom : Instant
  validUntil : Instant
  accessCode : Option String
  qrPayload : Option String
  qrCode : Option String
  active : Bool
  deriving DecidableEq

structure UnitVisitorPolicy where
  unitId : Id
  userId : Id
  overnightSuspendedUntil : Option Instant
  suspendReason : Option String
  deriving DecidableEq

structure CondoVisitorSettings where
  maxOvernightVisitsPerUnitPerMonth : ℚ
  overnightSlotsPerNight : Nat
  walkInApprovalMinutes : Nat
  walkInRequireOwnerApproval : Bool
  preRegExpiryBufferMins : Nat
  urgentOvernightMinHours : Nat
  weekdays : List Nat
  publicHolidays : List ℤ
  holidayOvernightAutoApprove : Bool
  countPendingTowardCap : Bool
  requirePlatePhotoOvernight : Bool
  maxOvernight_pos : 0 < maxOvernightVisitsPerUnitPerMonth
  overnightSlots_pos : 0 < overnightSlotsPerNight

structure VisitorCondo where
  id : Id
  timezone : String
  settings : CondoVisitorSettings

structure VisitorUnit where
  id : Id
  condoId : Id
  deriving DecidableEq

structure VisitorDb where
  nextId : Nat
  condos : List VisitorCondo
  units : List VisitorUnit
  visitors : List Visitor
  checkIns : List VisitorCheckIn
  blacklist : List VisitorBlacklist
  recurringPasses : List RecurringPass
  policies : List UnitVisitorPolicy
  formCodes : List (Id × String)

namespace VisitorDb

variable (db : VisitorDb)

def condo? (id : Id) : Option VisitorCondo := findBy VisitorCondo.id id db.condos
def unit? (id : Id) : Option VisitorUnit := findBy VisitorUnit.id id db.units
def visitor? (id : Id) : Option Visitor := findBy Visitor.id id db.visitors
def recurringPass? (id : Id) : Option RecurringPass := findBy RecurringPass.id id db.recurringPasses

def updateVisitor (id : Id) (change : Visitor → Visitor) : VisitorDb :=
  { db with visitors := updateBy Visitor.id id change db.visitors }

def checkInsOf (visitorId : Id) : List VisitorCheckIn :=
  db.checkIns.filter fun checkIn => decide (checkIn.visitorId = visitorId)

end VisitorDb

structure GateUser extends AuthenticatedUser where
  activeCondoId : Option Id

def userIsManagement (user : AuthenticatedUser) (condoId : Id) : Bool :=
  user.roles.any fun r => isSuperAdmin r ||
    decide ((r.roleId = .managementAdmin ∨ r.roleId = .managementStaff) ∧ r.condoId = some condoId)

structure LocalCalendar where
  day : Instant → ℤ
  hour : ℤ → Nat → Instant
  begins : ∀ instant, hour (day instant) 0 ≤ instant
  ends : ∀ instant, instant < hour (day instant + 1) 0
  ordered : ∀ day, hour day 0 < hour (day + 1) 0

namespace LocalCalendar

variable (calendar : LocalCalendar)

theorem midnights_mono : StrictMono fun day => calendar.hour day 0 :=
  strictMono_int_of_lt_succ calendar.ordered

theorem day_mem_iff {first last : ℤ} {instant : Instant} :
    calendar.hour first 0 ≤ instant ∧ instant < calendar.hour last 0 ↔
      first ≤ calendar.day instant ∧ calendar.day instant < last := by
  have mono := calendar.midnights_mono
  have begins := calendar.begins instant
  have ends := calendar.ends instant
  constructor
  · intro ⟨after, before⟩
    have first : first < calendar.day instant + 1 := mono.lt_iff_lt.mp (lt_of_le_of_lt after ends)
    have last : calendar.day instant < last := mono.lt_iff_lt.mp (lt_of_le_of_lt begins before)
    exact ⟨Int.lt_add_one_iff.mp first, last⟩
  · intro ⟨after, before⟩
    exact ⟨(mono.monotone after).trans begins, ends.trans_le (mono.monotone (Int.add_one_le_iff.mpr before))⟩

end LocalCalendar

structure VisitorEnv where
  uuid : Id → String
  parseUuid : String → Option Id
  calendar : LocalCalendar
  defaultSettings : CondoVisitorSettings
  condoDayStart : String → Instant → Instant
  zonedIsoWeekday : String → Instant → Nat
  zonedTimeHm : String → Instant → String
  toUpperCase : String → String
  toLowerCase : String → String
  insensitiveEquals : String → String → Bool
  mayUse : AuthenticatedUser → Id → String → Bool
  numberString : ℚ → String
  localeString : Instant → String
  localeDateString : Instant → String

abbrev VisitorCall (α : Type) := Call VisitorDb ApiError α

end SmartResidence.Visitors
