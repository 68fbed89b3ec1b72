import SmartResidence.Billing.Schema

/-!
# Users, sessions, one-time codes and role assignments
-/

namespace SmartResidence.Auth

open Foundation Billing

inductive UserStatus
  | active | invited | suspended | deactivated
  deriving DecidableEq

inductive VerificationPurpose
  | emailVerify | phoneVerify | passwordReset | loginOtp
  deriving DecidableEq

structure User where
  id : Id
  email : Option String
  phone : Option String
  name : String
  passwordHash : Option String
  emailVerifiedAt : Option Instant
  phoneVerifiedAt : Option Instant
  totpSecret : Option String
  status : UserStatus
  lastSeenAt : Option Instant
  deletedAt : Option Instant
  deriving DecidableEq

structure Session where
  id : Id
  userId : Id
  refreshTokenHash : Option String
  expiresAt : Instant
  revokedAt : Option Instant
  revokeReason : Option String
  lastUsedAt : Option Instant
  deriving DecidableEq

structure VerificationCode where
  id : Id
  userId : Option Id
  identifier : String
  codeHash : String
  purpose : VerificationPurpose
  expiresAt : Instant
  consumedAt : Option Instant
  attempts : Nat
  createdAt : Instant
  deriving DecidableEq

structure AssignedRole extends RoleAssignment where
  id : Id
  userId : Id
  expiresAt : Option Instant
  revokedAt : Option Instant
  deriving DecidableEq

def AssignedRole.inForce (now : Instant) (row : AssignedRole) : Bool :=
  decide (row.revokedAt = none) && row.expiresAt.all fun stop => decide (now < stop)

/-- The roles of a user that `loadUserFromDb` finds. -/
def rolesInForce (now : Instant) (userId : Id) (rows : List AssignedRole) : List RoleAssignment :=
  (rows.filter fun row => decide (row.userId = userId) && row.inForce now).map AssignedRole.toRoleAssignment

structure AccessToken where
  sub : Id
  jti : String
  iat : Int
  exp : Int
  deriving DecidableEq

structure LoadedUser extends AuthenticatedUser where
  activeCondoId : Option Id
  activeRole : Option RoleId

/-- An entry of the cache under `auth:user:<id>:v<version>:<hint>`. -/
structure CachedUser where
  userId : Id
  version : Nat
  hint : Option Id
  user : LoadedUser
  expiresAt : Instant

structure AuthDb where
  nextId : Nat
  draws : Nat
  users : List User
  sessions : List Session
  codes : List VerificationCode
  assignments : List AssignedRole
  signed : List (AccessToken × Id)
  blocklist : List String
  cacheVersion : Id → Nat
  cache : List CachedUser

structure AuthEnv where
  uuid : Id → String
  nanoid : Nat → String
  argonHash : Nat → String → String
  argonVerify : String → String → Bool
  totpVerify : Instant → String → String → Bool
  toLowerCase : String → String

namespace AuthDb

variable (db : AuthDb)

def user? (id : Id) : Option User := findBy User.id id db.users
def session? (id : Id) : Option Session := findBy Session.id id db.sessions
def code? (id : Id) : Option VerificationCode := findBy VerificationCode.id id db.codes

def writeUser (id : Id) (change : User → User) : Result AuthDb := do
  let _ ← orThrow (db.user? id) (.failure "Record to update not found")
  return { db with users := updateBy User.id id change db.users }

def writeSession (id : Id) (change : Session → Session) : Result AuthDb := do
  let _ ← orThrow (db.session? id) (.failure "Record to update not found")
  return { db with sessions := updateBy Session.id id change db.sessions }

def writeCode (id : Id) (change : VerificationCode → VerificationCode) : Result AuthDb := do
  let _ ← orThrow (db.code? id) (.failure "Record to update not found")
  return { db with codes := updateBy VerificationCode.id id change db.codes }

end AuthDb

end SmartResidence.Auth
