import Mathlib.Data.List.Sort
import SmartResidence.Foundation.Services
import SmartResidence.Visitors.Blacklist
import SmartResidence.Auth.Schema

/-!
# `session.service.ts`, `token.service.ts` and `auth.service.ts`
-/

namespace SmartResidence.Auth

open Foundation Billing

def accessTtlSeconds : Int := 15 * 60
def refreshTtlMs : Int := 30 * 24 * 60 * 60 * 1000

/-- `issueAccessToken`. The session is not among the claims. -/
def AuthDb.issueAccessToken (db : AuthDb) (env : AuthEnv) (now : Instant) (userId sessionId : Id) : AuthDb :=
  let iat := now / 1000
  let token : AccessToken := ⟨userId, env.nanoid db.draws, iat, iat + accessTtlSeconds⟩
  { db with draws := db.draws + 1, signed := db.signed ++ [(token, sessionId)] }

/-- `verifyAccessToken`: the signature, the time and the blocklist. -/
def AuthDb.verifyAccessToken (db : AuthDb) (now : Instant) (token : AccessToken) : Bool :=
  decide (token ∈ db.signed.map Prod.fst) && decide (now / 1000 < token.exp) && decide (token.jti ∉ db.blocklist)

def AuthDb.nextRefreshToken (db : AuthDb) (env : AuthEnv) : String := env.nanoid db.draws

def AuthDb.nextRefreshHash (db : AuthDb) (env : AuthEnv) : String := env.argonHash db.draws (db.nextRefreshToken env)

def newSession (env : AuthEnv) (now : Instant) (userId : Id) (db : AuthDb) : Session :=
  { id := db.nextId, userId := userId, refreshTokenHash := some (db.nextRefreshHash env), expiresAt := now + refreshTtlMs
    revokedAt := none, revokeReason := none, lastUsedAt := some now }

/-- The row that `SessionService.create` inserts for a user that exists -/
def storeSession (env : AuthEnv) (now : Instant) (userId : Id) (db : AuthDb) : AuthDb :=
  { db with nextId := db.nextId + 1, draws := db.draws + 1, sessions := db.sessions ++ [newSession env now userId db] }

def Session.revoke (now : Instant) (reason : String) (row : Session) : Session :=
  { row with revokedAt := some now, revokeReason := some reason }

/-- The sessions that `updateMany` of a user's sessions revokes. -/
def Session.liveOf (userId : Id) (row : Session) : Bool := decide (row.userId = userId ∧ row.revokedAt = none)

def AuthDb.liveSessions (db : AuthDb) (userId : Id) : List Id := (db.sessions.filter (Session.liveOf userId)).map Session.id

def AuthDb.revokeAllForUser (db : AuthDb) (now : Instant) (userId : Id) (reason : String) : AuthDb :=
  { db with sessions := updateWhere (Session.liveOf userId) (Session.revoke now reason) db.sessions }

def Session.active (now : Instant) (row : Session) : Bool := decide (row.revokedAt = none ∧ now < row.expiresAt)

def usedLater (first second : Session) : Bool :=
  match first.lastUsedAt, second.lastUsedAt with
  | none, _ => true
  | some _, none => false
  | some one, some two => decide (two ≤ one)

def rotationCandidates (now : Instant) (db : AuthDb) : List Session :=
  ((db.sessions.filter (Session.active now)).insertionSort fun first second => usedLater first second).take 100

def Session.rotate (now : Instant) (hash : String) (row : Session) : Session :=
  { row with refreshTokenHash := some hash, lastUsedAt := some now }

/-- The update of `rotate`: by the id of the candidate only. -/
def replaceToken (env : AuthEnv) (now : Instant) (candidate : Session) (db : AuthDb) : Result AuthDb :=
  let drawn : AuthDb := { db with draws := db.draws + 1 }
  drawn.writeSession candidate.id (Session.rotate now (db.nextRefreshHash env))

def otpTtlMs : Int := 10 * 60 * 1000
def authUserTtlMs : Int := 90 * 1000

inductive Login
  | signUp
  | password (read : User) (totp : Option (Instant × String))
  | code (codeId : Id)
  deriving DecidableEq

inductive AuthNote
  | sessionCreated (sessionId : Id) (user : User) (login : Login)
  | rotated (sessionId : Id) (presented drawn : String)
  | revoked (sessionId : Id)
  | revocationReturned (sessionId : Id)
  | guessed (codeId : Id) (right : Bool)
  | accountDeleted (userId : Id) (version : Nat)
  | accepted (request : Nat) (token : AccessToken)
  deriving DecidableEq

structure SignUpDto where
  email : String
  name : String
  password : String
  phone : String

def signUpUser (env : AuthEnv) (dto : SignUpDto) (db : AuthDb) : Result AuthDb := do
  let phone := Visitors.normalizeMalaysiaPhone dto.phone
  throwIf (¬ Visitors.isValidMalaysiaPhone phone)
    (.badRequest "Enter a valid Malaysia mobile number (e.g. +60123456789 or 012-345 6789)")
  let email := env.toLowerCase dto.email
  throwIf (∃ user ∈ db.users, user.phone = some phone) (.badRequest "Phone number already in use")
  throwIf (∃ user ∈ db.users, user.email = some email) (.badRequest "Email already in use")
  let user : User :=
    { id := db.nextId, email := some email, phone := some phone, name := dto.name
      passwordHash := some (env.argonHash db.draws dto.password), emailVerifiedAt := none, phoneVerifiedAt := none
      totpSecret := none, status := .active, lastSeenAt := none, deletedAt := none }
  return { db with nextId := db.nextId + 1, draws := db.draws + 1, users := db.users ++ [user] }

structure SignInDto where
  email : String
  password : String
  totp : Option String

def given (text : Option String) : Option String := text.filter fun text => decide (text ≠ "")

def invalidCredentials : ApiError := .unauthorized "Invalid credentials"

/-- The user that may sign in, by the checks of `signIn`. -/
def readSignIn (env : AuthEnv) (now : Instant) (dto : SignInDto) (db : AuthDb) : Result User := do
  let email := env.toLowerCase dto.email
  let user ← orThrow (db.users.find? fun user => decide (user.email = some email)) invalidCredentials
  let passwordHash ← orThrow (given user.passwordHash) invalidCredentials
  throwIf (user.status ≠ .active) (.forbidden "Account is not active")
  throwIf (¬ env.argonVerify passwordHash dto.password) invalidCredentials
  match given user.totpSecret with
  | none => return user
  | some secret => do
      let totp ← orThrow (given dto.totp) (.unauthorized "2FA code required")
      throwIf (¬ env.totpVerify now totp secret) (.unauthorized "Invalid 2FA code")
      return user

structure RequestOtpDto where
  identifier : String
  purpose : VerificationPurpose

def otpUser (env : AuthEnv) (dto : RequestOtpDto) (db : AuthDb) : Option Id :=
  if dto.purpose = .loginOtp ∨ dto.purpose = .passwordReset then
    (db.users.find? fun user => decide (user.email = some (env.toLowerCase dto.identifier) ∨ user.phone = some dto.identifier)).map
      User.id
  else none

/-- `requestOtp`, with the code that was drawn -/
def requestOtp (env : AuthEnv) (now : Instant) (dto : RequestOtpDto) (code : String) (db : AuthDb) : AuthDb :=
  let row : VerificationCode :=
    { id := db.nextId, userId := otpUser env dto db, identifier := env.toLowerCase dto.identifier
      codeHash := env.argonHash db.draws code, purpose := dto.purpose, expiresAt := now + otpTtlMs, consumedAt := none
      attempts := 0, createdAt := now }
  { db with nextId := db.nextId + 1, draws := db.draws + 1, codes := db.codes ++ [row] }

structure VerifyOtpDto where
  identifier : String
  purpose : VerificationPurpose
  code : String

def readOtp (env : AuthEnv) (now : Instant) (dto : VerifyOtpDto) (db : AuthDb) : Result VerificationCode := do
  let usable := db.codes.filter fun row => decide (row.identifier = env.toLowerCase dto.identifier ∧ row.purpose = dto.purpose ∧
    row.consumedAt = none ∧ now < row.expiresAt)
  let record ← orThrow (latestBy VerificationCode.createdAt usable) (.badRequest "Code expired or unknown")
  throwIf (5 ≤ record.attempts) (.forbidden "Too many attempts")
  return record

def VerificationCode.miss (row : VerificationCode) : VerificationCode := { row with attempts := row.attempts + 1 }

def VerificationCode.consume (now : Instant) (row : VerificationCode) : VerificationCode := { row with consumedAt := some now }

def readDelegatedRole (actor : AuthenticatedUser) (assignmentId : Id) (db : AuthDb) : Result AssignedRole := do
  let assignment ← orThrow (findBy AssignedRole.id assignmentId db.assignments) (.notFound "Role assignment not found")
  let isOwnerOfUnit := assignment.unitId.isSome && actor.roles.any fun r =>
    decide (r.roleId = .unitOwner ∧ r.unitId = assignment.unitId)
  let isAdmin := actor.roles.any fun r =>
    decide (r.roleId = .superAdmin ∨ (r.roleId = .managementAdmin ∧ r.condoId = assignment.condoId))
  throwIf (¬ isOwnerOfUnit ∧ ¬ isAdmin) (.forbidden "You cannot revoke this role")
  return assignment

def AssignedRole.revoke (now : Instant) (row : AssignedRole) : AssignedRole := { row with revokedAt := some now }

def revokeRole (now : Instant) (assignment : AssignedRole) (db : AuthDb) : Result AuthDb := do
  let _ ← orThrow (findBy AssignedRole.id assignment.id db.assignments) (.failure "Record to update not found")
  return { db.revokeAllForUser now assignment.userId "role-revoked" with
    assignments := updateBy AssignedRole.id assignment.id (AssignedRole.revoke now) db.assignments }

def readAccount (userId : Id) (db : AuthDb) : Result User := do
  let existing ← orThrow (db.user? userId) (.notFound "User not found")
  throwIf (existing.deletedAt ≠ none ∨ existing.status = .deactivated) (.conflict "Account is already deleted")
  return existing

def User.bury (env : AuthEnv) (now : Instant) (row : User) : User :=
  { row with
    status := .deactivated, deletedAt := some now, name := "Deleted User"
    email := some ("deleted+" ++ env.uuid row.id ++ "@invalid.local"), phone := some ("deleted:" ++ env.uuid row.id)
    passwordHash := none, totpSecret := none, emailVerifiedAt := none, phoneVerifiedAt := none, lastSeenAt := none }

/-- The transaction of `deleteAccount`, as far as it concerns these tables. -/
def buryAccount (env : AuthEnv) (now : Instant) (userId : Id) (db : AuthDb) : Result AuthDb := do
  let revoked := db.revokeAllForUser now userId "account-deleted"
  let buried ← revoked.writeUser userId (User.bury env now)
  return { buried with
    assignments := updateWhere (fun row => decide (row.userId = userId ∧ row.revokedAt = none)) (AssignedRole.revoke now) db.assignments
    codes := db.codes.filter fun row => decide (row.userId ≠ some userId) }

def AuthDb.invalidate (db : AuthDb) (userId : Id) : AuthDb :=
  { db with cacheVersion := fun id => if id = userId then db.cacheVersion id + 1 else db.cacheVersion id }

/-- `revokeDelegatedRole`, when no other call comes between its steps -/
def revokeDelegatedRole (now : Instant) (actor : AuthenticatedUser) (assignmentId : Id) (db : AuthDb) : Result AuthDb := do
  let assignment ← readDelegatedRole actor assignmentId db
  let revoked ← revokeRole now assignment db
  return revoked.invalidate assignment.userId

structure DelegatedGrant where
  id : Id
  roleId : RoleId
  unitId : Option Id
  expiresAt : Option Instant
  grantedAt : Instant
  userId : Id
  name : Option String
  email : Option String
  deriving DecidableEq

def delegatedRoles : List RoleId := [.tenant, .householdMember, .contractor]

def ownedUnitIds (user : AuthenticatedUser) : List Id :=
  (user.roles.filter fun r => decide (r.roleId = .unitOwner)).filterMap RoleAssignment.unitId

def listDelegatedAccess (grantedAt : Id → Instant) (user : AuthenticatedUser) (db : AuthDb) : List DelegatedGrant :=
  if ownedUnitIds user = [] then []
  else
    let rows := db.assignments.filter fun row =>
      row.unitId.any (fun unitId => decide (unitId ∈ ownedUnitIds user)) && decide (row.revokedAt = none ∧ row.roleId ∈ delegatedRoles)
    (rows.mergeSort fun first second => decide (grantedAt second.id ≤ grantedAt first.id)).map fun row =>
      { id := row.id, roleId := row.roleId, unitId := row.unitId, expiresAt := row.expiresAt, grantedAt := grantedAt row.id
        userId := row.userId, name := (db.user? row.userId).map User.name, email := (db.user? row.userId).bind User.email }

def rolePriority : RoleId → Nat
  | .superAdmin => 100
  | .managementAdmin => 80
  | .managementStaff => 70
  | .securityGuard => 60
  | .unitOwner => 50
  | .tenant => 40
  | .householdMember => 30
  | .contractor => 20

def activeCondo (roles : List RoleAssignment) (hint : Option Id) : Option Id :=
  let condoIds := (roles.filterMap RoleAssignment.condoId).dedup
  match hint.filter fun condoId => decide (condoId ∈ condoIds) || roles.any (fun r => decide (r.roleId = .superAdmin)) with
  | some condoId => some condoId
  | none =>
      match condoIds with
      | [condoId] => some condoId
      | _ => none

def activeRole (roles : List RoleAssignment) (condoId : Option Id) : Option RoleId :=
  let eligible := roles.filter fun r => decide (r.condoId = condoId ∨ r.condoId = none)
  (eligible.foldl (fun best r => match best with
    | none => some r.roleId
    | some leading => if rolePriority leading < rolePriority r.roleId then some r.roleId else some leading) none)

def loadUserFromDb (now : Instant) (userId : Id) (hint : Option Id) (db : AuthDb) : Result LoadedUser := do
  let user ← orThrow (db.user? userId) (.unauthorized "User no longer exists")
  throwIf (user.status = .deactivated ∨ user.deletedAt ≠ none) (.unauthorized "Account has been deleted")
  let roles := rolesInForce now userId db.assignments
  let condoId := activeCondo roles hint
  return ⟨⟨userId, roles⟩, condoId, activeRole roles condoId⟩

def CachedUser.keyed (userId : Id) (version : Nat) (hint : Option Id) (entry : CachedUser) : Bool :=
  decide (entry.userId = userId ∧ entry.version = version ∧ entry.hint = hint)

def AuthDb.cached? (db : AuthDb) (now : Instant) (userId : Id) (version : Nat) (hint : Option Id) : Option LoadedUser :=
  (db.cache.find? fun entry => entry.keyed userId version hint && decide (now < entry.expiresAt)).map CachedUser.user

def AuthDb.store (db : AuthDb) (now : Instant) (userId : Id) (version : Nat) (hint : Option Id) (user : LoadedUser) : AuthDb :=
  { db with cache := ⟨userId, version, hint, user, now + authUserTtlMs⟩ ::
      db.cache.filter fun entry => ! entry.keyed userId version hint }

inductive AuthRequest
  | signUp (dto : SignUpDto)
  | signIn (dto : SignInDto)
  | requestOtp (dto : RequestOtpDto) (code : String)
  | verifyOtp (dto : VerifyOtpDto)
  | confirmTotp (userId : Id) (secret code : String)
  | refresh (refreshToken : String)
  | signOut (sessionId : Id)
  | revokeSession (userId sessionId : Id)
  | revokeAllForUser (userId : Id)
  | revokeDelegatedRole (actor : AuthenticatedUser) (assignmentId : Id)
  | deleteAccount (userId : Id)
  | access (token : AccessToken) (hint : Option Id)

inductive AuthFlight
  | signingIn (read : User) (totp : Option (Instant × String))
  | checkingCode (record : VerificationCode) (dto : VerifyOtpDto)
  | verifyingEmail (userId : Id)
  | creating (userId : Id) (login : Login)
  | issuing (userId sessionId : Id) (rotation : Option (String × String))
  | rotating (refreshToken : String) (candidates : List Session)
  | replacing (refreshToken : String) (candidate : Session)
  | revoking (sessionId : Id)
  | revokingRole (assignment : AssignedRole)
  | deleting (userId : Id)
  | invalidating (userId : Id) (sessionIds : List Id) (deleted : Bool)
  | authorizing (request : Nat) (token : AccessToken) (hint : Option Id)
  | fetching (request : Nat) (token : AccessToken) (hint : Option Id) (version : Nat)
  | loading (request : Nat) (token : AccessToken) (hint : Option Id) (version : Nat)
  | storing (request : Nat) (token : AccessToken) (hint : Option Id) (version : Nat) (user : LoadedUser)

abbrev AuthOutcome : Type := Outcome AuthDb AuthFlight AuthNote

def revokeOne (now : Instant) (sessionId : Id) (reason : String) (db : AuthDb) : AuthOutcome :=
  .ofWrite db (db.writeSession sessionId (Session.revoke now reason)) [.revoked sessionId, .revocationReturned sessionId]

def beginAuth (env : AuthEnv) (now : Instant) (request : AuthRequest) (db : AuthDb) : AuthOutcome :=
  match request with
  | .signUp dto => .thenGo db (signUpUser env dto db) (fun _ => [.creating db.nextId .signUp]) []
  | .signIn dto => .ofRead db (readSignIn env now dto db) fun user => .signingIn user (dto.totp.map fun totp => (now, totp))
  | .requestOtp dto code => ⟨requestOtp env now dto code db, [], []⟩
  | .verifyOtp dto => .ofRead db (readOtp env now dto db) fun record => .checkingCode record dto
  | .confirmTotp userId secret code =>
      if env.totpVerify now code secret then
        .ofWrite db (db.writeUser userId fun user => { user with totpSecret := some secret }) []
      else .ended db
  | .refresh refreshToken => .reads db [.rotating refreshToken (rotationCandidates now db)]
  | .signOut sessionId => revokeOne now sessionId "user-signout" db
  | .revokeSession userId sessionId =>
      if (db.session? sessionId).any fun session => decide (session.userId = userId) then .reads db [.revoking sessionId]
      else .ended db
  | .revokeAllForUser userId =>
      ⟨db.revokeAllForUser now userId "security", [],
        (db.liveSessions userId).map .revoked ++ (db.liveSessions userId).map .revocationReturned⟩
  | .revokeDelegatedRole actor assignmentId => .ofRead db (readDelegatedRole actor assignmentId db) .revokingRole
  | .deleteAccount userId => .ofRead db (readAccount userId db) fun _ => .deleting userId
  | .access token hint =>
      if db.verifyAccessToken now token then
        ⟨{ db with draws := db.draws + 1 }, [.authorizing db.draws token hint], []⟩
      else .ended { db with draws := db.draws + 1 }

def afterCode (record : VerificationCode) (purpose : VerificationPurpose) : List AuthFlight :=
  match purpose, record.userId with
  | .loginOtp, some userId => [.creating userId (.code record.id)]
  | .emailVerify, some userId => [.verifyingEmail userId]
  | _, _ => []

def checkCode (env : AuthEnv) (now : Instant) (record : VerificationCode) (dto : VerifyOtpDto) (db : AuthDb) : AuthOutcome :=
  let right := env.argonVerify record.codeHash dto.code
  let written := db.writeCode record.id (if right then VerificationCode.consume now else VerificationCode.miss)
  match written with
  | .ok after => ⟨after, if right then afterCode record dto.purpose else [], [.guessed record.id right]⟩
  | .error _ => ⟨db, [], [.guessed record.id right]⟩

def openSession (env : AuthEnv) (now : Instant) (userId : Id) (login : Login) (db : AuthDb) : AuthOutcome :=
  match db.user? userId with
  | some user => ⟨storeSession env now userId db, [.issuing userId db.nextId none], [.sessionCreated db.nextId user login]⟩
  | none => .ended db

def tryCandidate (env : AuthEnv) (refreshToken : String) (candidate : Session) (rest : List Session) : AuthFlight :=
  if candidate.refreshTokenHash.any fun hash => env.argonVerify hash refreshToken then .replacing refreshToken candidate
  else .rotating refreshToken rest

def proceedAuth (env : AuthEnv) (now : Instant) (flight : AuthFlight) (db : AuthDb) : AuthOutcome :=
  match flight with
  | .signingIn read totp =>
      .thenGo db (db.writeUser read.id fun user => { user with lastSeenAt := some now })
        (fun _ => [.creating read.id (.password read totp)]) []
  | .checkingCode record dto => checkCode env now record dto db
  | .verifyingEmail userId => .ofWrite db (db.writeUser userId fun user => { user with emailVerifiedAt := some now }) []
  | .creating userId login => openSession env now userId login db
  | .issuing userId sessionId rotation =>
      ⟨db.issueAccessToken env now userId sessionId, [],
        rotation.toList.map fun tokens => .rotated sessionId tokens.1 tokens.2⟩
  | .rotating _ [] => .ended db
  | .rotating refreshToken (candidate :: rest) => .reads db [tryCandidate env refreshToken candidate rest]
  | .replacing refreshToken candidate =>
      .thenGo db (replaceToken env now candidate db)
        (fun _ => [.issuing candidate.userId candidate.id (some (refreshToken, db.nextRefreshToken env))]) []
  | .revoking sessionId => revokeOne now sessionId "user-revoke" db
  | .revokingRole assignment =>
      .thenGo db (revokeRole now assignment db) (fun _ => [.invalidating assignment.userId (db.liveSessions assignment.userId) false])
        ((db.liveSessions assignment.userId).map .revoked)
  | .deleting userId =>
      .thenGo db (buryAccount env now userId db) (fun _ => [.invalidating userId (db.liveSessions userId) true])
        ((db.liveSessions userId).map .revoked)
  | .invalidating userId sessionIds deleted =>
      ⟨db.invalidate userId, [], (if deleted then [.accountDeleted userId (db.cacheVersion userId + 1)] else []) ++
        sessionIds.map .revocationReturned⟩
  | .authorizing request token hint => .reads db [.fetching request token hint (db.cacheVersion token.sub)]
  | .fetching request token hint version =>
      match db.cached? now token.sub version hint with
      | some _ => ⟨db, [], [.accepted request token]⟩
      | none => .reads db [.loading request token hint version]
  | .loading request token hint version =>
      .ofRead db (loadUserFromDb now token.sub hint db) fun user => .storing request token hint version user
  | .storing request token hint version user => ⟨db.store now token.sub version hint user, [], [.accepted request token]⟩

def authService (env : AuthEnv) : Service Instant AuthDb AuthRequest AuthFlight AuthNote := ⟨beginAuth env, proceedAuth env⟩

namespace Sample

def env : AuthEnv where
  uuid := fun id => toString id
  nanoid := fun draw => String.ofList (List.replicate draw 'x')
  argonHash := fun _ text => "#" ++ text
  argonVerify := fun hash text => decide (hash = "#" ++ text)
  totpVerify := fun _ code secret => decide (code = secret)
  toLowerCase := fun text => text

theorem nanoid_injective : Function.Injective env.nanoid := by
  intro first second same
  have length := congrArg (fun text : String => text.toList.length) same
  simpa [env] using length

def resident : User :=
  { id := 1, email := some "r", phone := none, name := "Resident", passwordHash := some "#p", emailVerifiedAt := none
    phoneVerifiedAt := none, totpSecret := none, status := .active, lastSeenAt := none, deletedAt := none }

def phone : Session :=
  { id := 2, userId := 1, refreshTokenHash := some "#", expiresAt := refreshTtlMs, revokedAt := none, revokeReason := none
    lastUsedAt := some 0 }

def signedIn : AuthDb :=
  { nextId := 3, draws := 1, users := [resident], sessions := [phone], codes := [], assignments := [], signed := []
    blocklist := [], cacheVersion := fun _ => 0, cache := [] }

end Sample

end SmartResidence.Auth
