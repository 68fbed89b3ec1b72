import SmartResidence.Visitors.Schema
import SmartResidence.Gateway.JsValue

/-!
# `access-code.ts` and `visitor-blacklist.service.ts`
-/

namespace SmartResidence.Visitors

open Foundation Billing

def isHex (c : Char) : Bool := c.isDigit || decide ('a' ≤ c ∧ c ≤ 'f') || decide ('A' ≤ c ∧ c ≤ 'F')

def isUuid (text : List Char) : Bool :=
  match text.splitOn '-' with
  | [first, second, version :: third, kind :: fourth, last] =>
      decide (first.length = 8 ∧ second.length = 4 ∧ third.length = 3 ∧ fourth.length = 3 ∧ last.length = 12 ∧
        '1' ≤ version ∧ version ≤ '5' ∧ kind ∈ ['8', '9', 'a', 'b', 'A', 'B']) &&
        (first ++ second ++ third ++ fourth ++ last).all isHex
  | _ => false

structure QrPayload where
  condoId : String
  visitorId : String
  accessCode : String
  deriving DecidableEq

def buildQrPayload (condoId visitorId accessCode : String) : String :=
  condoId ++ ":" ++ visitorId ++ ":" ++ accessCode

def parseQrPayload (env : VisitorEnv) (payload : String) : Option QrPayload :=
  match (trim payload.toList).splitOn ':' with
  | [condoId, visitorId, accessCode] =>
      if condoId = [] ∨ visitorId = [] ∨ accessCode = [] then none
      else some ⟨.ofList condoId, .ofList visitorId, env.toUpperCase (.ofList accessCode)⟩
  | _ => none

def normalizePassInput (pass : String) : String :=
  let trimmed := trim pass.toList
  if isUuid trimmed then .ofList (trimmed.map Char.toLower)
  else if trimmed.length ≤ 8 ∧ trimmed ≠ [] ∧ trimmed.all Char.isAlphanum then .ofList (trimmed.map Char.toUpper)
  else .ofList trimmed

def isVisitorId (pass : String) : Bool := isUuid (trim pass.toList)

def requireUuid (env : VisitorEnv) (text : String) : Result Id :=
  orThrow (env.parseUuid text) (.failure "Inconsistent column data: Error creating UUID")

section

variable {Row : Type} (env : VisitorEnv) (id condoId : Row → Id) (rows : List Row)

def findById (normalized : String) : Result (Option Row) :=
  if isVisitorId normalized then do
    let wanted ← requireUuid env normalized
    return findBy id wanted rows
  else return none

def findByPayload (normalized : String) : Result (Option Row) :=
  match parseQrPayload env normalized with
  | none => return none
  | some payload => do
      let wanted ← requireUuid env payload.visitorId
      let condo ← requireUuid env payload.condoId
      return rows.find? fun row => decide (id row = wanted ∧ condoId row = condo)

end

def accessCodeFree (db : VisitorDb) (condoId : Id) (accessCode : String) : Prop :=
  (∀ visitor ∈ db.visitors, ¬ (visitor.condoId = condoId ∧ visitor.accessCode = some accessCode)) ∧
    (∀ pass ∈ db.recurringPasses, ¬ (pass.condoId = condoId ∧ pass.accessCode = some accessCode)) ∧
    (condoId, accessCode) ∉ db.formCodes

instance (db : VisitorDb) (condoId : Id) (accessCode : String) : Decidable (accessCodeFree db condoId accessCode) :=
  inferInstanceAs (Decidable (_ ∧ _ ∧ _))

/-- `assertAccessCodeFree`: on a conflict the caller tries another random code. -/
def assertAccessCodeFree (db : VisitorDb) (condoId : Id) (accessCode : String) : Result Unit :=
  throwIf (¬ accessCodeFree db condoId accessCode) (.conflict "Access code already in use")

def orNull (text : String) : Option String := if text = "" then none else some text

def trimText (text : String) : String := String.ofList (trim text.toList)

def withoutSpacesAndDashes (text : String) : String :=
  String.ofList (text.toList.filter fun c => !(isSpace c || decide (c = '-')))

def normalizeMalaysiaPhone (input : String) : String :=
  let compact := withoutSpacesAndDashes (trimText input)
  match compact.toList with
  | [] => ""
  | '+' :: '6' :: '0' :: _ => compact
  | '6' :: '0' :: _ => "+" ++ compact
  | '0' :: _ => "+6" ++ compact
  | _ => "+60" ++ compact

/-- `MALAYSIA_PHONE_E164_REGEX` on the normalized number -/
def isValidMalaysiaPhone (input : String) : Bool :=
  match (normalizeMalaysiaPhone input).toList with
  | '+' :: '6' :: '0' :: '1' :: digits =>
      decide (digits.length = 8 ∨ digits.length = 9) && digits.all Char.isDigit
  | _ => false

def normalizePhone (phone : String) : Result String := do
  let normalized := normalizeMalaysiaPhone phone
  throwIf (¬ isValidMalaysiaPhone normalized) (.badRequest "Enter a valid Malaysia mobile number")
  return normalized

def normalizePlate (env : VisitorEnv) (plate : Option String) : Option String :=
  plate.bind fun plate => orNull (withoutSpacesAndDashes (env.toUpperCase (trimText plate)))

def normalizeName (env : VisitorEnv) (name : Option String) : Option String :=
  name.bind fun name => (orNull (trimText name)).map env.toLowerCase

def trimmedOrNull (text : Option String) : Option String := text.bind fun text => orNull (trimText text)

structure CreateVisitorBlacklistDto where
  name : Option String
  phone : Option String
  vehiclePlate : Option String
  idNumber : Option String
  reason : String
  expiresAt : Option Instant

structure UpdateVisitorBlacklistDto where
  name : Option String
  phone : Option String
  vehiclePlate : Option String
  idNumber : Option String
  reason : Option String
  expiresAt : Option Instant
  active : Option Bool

def assertCondoManagement (user : AuthenticatedUser) (condoId : Id) : Result Unit :=
  throwIf (¬ userIsManagement user condoId) (.forbidden "Management access required for this condo")

def normalizedPhone (phone : Option String) : Result (Option String) :=
  match phone.bind orNull with
  | none => return none
  | some phone => do return some (← normalizePhone phone)

def createEntry (env : VisitorEnv) (now : Instant) (db : VisitorDb) (condoId : Id) (user : AuthenticatedUser)
    (dto : CreateVisitorBlacklistDto) : Result VisitorDb := do
  assertCondoManagement user condoId
  let phone ← normalizedPhone dto.phone
  let vehiclePlate := normalizePlate env dto.vehiclePlate
  let name := trimmedOrNull dto.name
  let idNumber := trimmedOrNull dto.idNumber
  throwIf (name = none ∧ phone = none ∧ vehiclePlate = none ∧ idNumber = none)
    (.badRequest "Provide at least one identifier (name, phone, plate, or ID number)")
  let entry : VisitorBlacklist := {
    id := db.nextId
    condoId := condoId
    name := name
    phone := phone
    vehiclePlate := vehiclePlate
    idNumber := idNumber
    reason := trimText dto.reason
    expiresAt := dto.expiresAt
    active := true
    createdAt := now }
  return { db with blacklist := db.blacklist ++ [entry], nextId := db.nextId + 1 }

def updateEntry (env : VisitorEnv) (db : VisitorDb) (entryId : Id) (user : AuthenticatedUser)
    (dto : UpdateVisitorBlacklistDto) : Result VisitorDb := do
  let existing ← orThrow (findBy VisitorBlacklist.id entryId db.blacklist) (.notFound "Blacklist entry not found")
  assertCondoManagement user existing.condoId
  let phone ← normalizedPhone dto.phone
  let edited (entry : VisitorBlacklist) : VisitorBlacklist :=
    { entry with
      reason := (dto.reason.map trimText).getD entry.reason
      active := dto.active.getD entry.active
      expiresAt := dto.expiresAt.or entry.expiresAt
      name := if dto.name.isSome then trimmedOrNull dto.name else entry.name
      idNumber := if dto.idNumber.isSome then trimmedOrNull dto.idNumber else entry.idNumber
      phone := if dto.phone.isSome then phone else entry.phone
      vehiclePlate := if dto.vehiclePlate.isSome then normalizePlate env dto.vehiclePlate else entry.vehiclePlate }
  return { db with blacklist := updateBy VisitorBlacklist.id entryId edited db.blacklist }

def removeEntry (db : VisitorDb) (entryId : Id) (user : AuthenticatedUser) : Result VisitorDb := do
  let existing ← orThrow (findBy VisitorBlacklist.id entryId db.blacklist) (.notFound "Blacklist entry not found")
  assertCondoManagement user existing.condoId
  return { db with blacklist := db.blacklist.filter fun entry => decide (entry.id ≠ entryId) }

structure BlacklistInput where
  name : Option String
  phone : Option String
  vehiclePlate : Option String
  idNumber : Option String

def BlacklistInput.names (env : VisitorEnv) (input : BlacklistInput) (entry : VisitorBlacklist) : Bool :=
  let phone := (input.phone.bind orNull).bind fun phone => orNull (normalizeMalaysiaPhone phone)
  let plate := normalizePlate env input.vehiclePlate
  let name := normalizeName env input.name
  let idNumber := trimmedOrNull input.idNumber
  (phone.any fun phone => decide (entry.phone = some phone)) ||
    (plate.any fun plate => decide (entry.vehiclePlate = some plate)) ||
    (name.any fun name => entry.name.any fun listed => env.insensitiveEquals listed name) ||
    idNumber.any fun idNumber => decide (entry.idNumber = some idNumber)

def VisitorBlacklist.inForce (entry : VisitorBlacklist) (now : Instant) : Bool :=
  entry.active && entry.expiresAt.all fun stop => decide (now < stop)

def findMatch (env : VisitorEnv) (now : Instant) (db : VisitorDb) (condoId : Id) (input : BlacklistInput) :
    Option VisitorBlacklist :=
  latestBy VisitorBlacklist.createdAt
    (db.blacklist.filter fun entry => decide (entry.condoId = condoId) && entry.inForce now && input.names env entry)

def assertNotBlacklisted (env : VisitorEnv) (now : Instant) (db : VisitorDb) (condoId : Id) (input : BlacklistInput) :
    Result Unit :=
  match findMatch env now db condoId input with
  | none => .ok ()
  | some entry => .error (.forbidden ("Visitor blocked — blacklist: " ++ entry.reason))

end SmartResidence.Visitors
