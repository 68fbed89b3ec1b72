import Mathlib.Algebra.Order.Field.Rat
import SmartResidence.Billing.Invoices
import SmartResidence.Settings.Json

/-!
# The tables of the access restriction

Amounts are in sen.
-/

namespace SmartResidence.Access

open Foundation Billing Settings

inductive AccessRestrictionZone
  | carPark | amenities | commonFacilities
  deriving DecidableEq

inductive AccessRestrictionSource
  | auto | manual
  deriving DecidableEq

inductive AccessRestrictionCapability
  | facility | visitors | deliveryPasses | recurringPasses
  deriving DecidableEq

structure UnitAccessRestriction where
  condoId : Id
  unitId : Id
  active : Bool
  source : AccessRestrictionSource
  manualExempt : Bool
  zones : List AccessRestrictionZone
  reason : Option String
  outstandingAmount : ℤ
  oldestDueDate : Option Instant
  activatedAt : Option Instant
  clearedAt : Option Instant
  updatedByUserId : Option Id
  deriving DecidableEq

structure ArrearsInvoice where
  id : Id
  condoId : Id
  unitId : Id
  status : InvoiceStatus
  total : ℤ
  amountPaid : ℤ
  dueDate : Instant
  deriving DecidableEq

structure AccessCondo where
  id : Id
  deletedAt : Option Instant
  settings : Json

structure AccessUnit where
  id : Id
  condoId : Id
  deriving DecidableEq

structure Occupancy where
  userId : Id
  unitId : Id
  deriving DecidableEq

structure AccessDb where
  condos : List AccessCondo
  units : List AccessUnit
  ownerships : List Occupancy
  tenancies : List Occupancy
  invoices : List ArrearsInvoice
  restrictions : List UnitAccessRestriction
  restrictions_unique : (restrictions.map UnitAccessRestriction.unitId).Nodup

namespace AccessDb

variable (db : AccessDb)

def condo? (id : Id) : Option AccessCondo := findBy AccessCondo.id id db.condos
def unit? (id : Id) : Option AccessUnit := findBy AccessUnit.id id db.units
def invoice? (id : Id) : Option ArrearsInvoice := findBy ArrearsInvoice.id id db.invoices
def restriction? (unitId : Id) : Option UnitAccessRestriction :=
  findBy UnitAccessRestriction.unitId unitId db.restrictions

def settingsOf (condoId : Id) : Json := ((db.condo? condoId).map AccessCondo.settings).getD .null

end AccessDb

def assertCondoManagement (user : AuthenticatedUser) (condoId : Id) : Result Unit :=
  throwIf (¬ user.roles.any fun r => isSuperAdmin r ||
      decide ((r.roleId = .managementAdmin ∨ r.roleId = .managementStaff) ∧ r.condoId = some condoId))
    (.forbidden "Management access required for this condo")

structure StoredAccessRestrictionSettings where
  enabled : Bool
  graceDays : ℚ
  minOutstanding : ℚ
  softBlockFacility : Bool
  softBlockVisitors : Bool
  softBlockDeliveryPasses : Bool
  softBlockRecurringPasses : Bool
  zones : List AccessRestrictionZone
  webhookUrl : Option String
  webhookSecret : Option String
  autoSyncEnabled : Bool

def defaultZones : List AccessRestrictionZone := [.carPark, .amenities]

def defaultSettings : StoredAccessRestrictionSettings where
  enabled := false
  graceDays := 14
  minOutstanding := 1 / 100
  softBlockFacility := true
  softBlockVisitors := true
  softBlockDeliveryPasses := true
  softBlockRecurringPasses := true
  zones := defaultZones
  webhookUrl := none
  webhookSecret := none
  autoSyncEnabled := false

structure Url where
  protocol : String
  href : String

/-- `new URL(text)`, which throws on what is no URL. -/
structure AccessEnv where
  url : String → Option Url

def parseBoolean (value : Json) (fallback : Bool) : Bool :=
  match value with
  | .bool value => value
  | _ => fallback

def parseNonNegNumber (value : Json) (fallback : ℚ) : ℚ :=
  match value with
  | .number value => if 0 ≤ value then value else fallback
  | _ => fallback

def parseGraceDays (value : Json) (fallback : ℚ) : ℚ :=
  match value with
  | .number value => if value.den = 1 ∧ 0 ≤ value ∧ value ≤ 365 then value else fallback
  | _ => fallback

def zoneName : AccessRestrictionZone → String
  | .carPark => "CAR_PARK"
  | .amenities => "AMENITIES"
  | .commonFacilities => "COMMON_FACILITIES"

def zone? : Json → Option AccessRestrictionZone
  | .string name => [.carPark, .amenities, .commonFacilities].find? fun zone => decide (zoneName zone = name)
  | _ => none

def parseZones (value : Json) (fallback : List AccessRestrictionZone) : List AccessRestrictionZone :=
  match value with
  | .array items => if items.filterMap zone? = [] then fallback else items.filterMap zone?
  | _ => fallback

def parseUrl (env : AccessEnv) (value : Json) : Option String :=
  match value with
  | .string text =>
      if trimText text = "" then none
      else (env.url (trimText text)).bind fun url =>
        if url.protocol = "http:" ∨ url.protocol = "https:" then some url.href else none
  | _ => none

def trimSecret (text : String) : Option String :=
  if trimText text = "" then none else some (String.ofList ((trim text.toList).take 256))

def parseSecret (value : Json) : Option String :=
  match value with
  | .string text => trimSecret text
  | _ => none

def parseAccessRestrictionSettings (env : AccessEnv) (raw : Json) : StoredAccessRestrictionSettings :=
  let nested := raw.get "accessRestriction"
  { enabled := parseBoolean (nested.get "enabled") defaultSettings.enabled
    graceDays := parseGraceDays (nested.get "graceDays") defaultSettings.graceDays
    minOutstanding := parseNonNegNumber (nested.get "minOutstanding") defaultSettings.minOutstanding
    softBlockFacility := parseBoolean (nested.get "softBlockFacility") defaultSettings.softBlockFacility
    softBlockVisitors := parseBoolean (nested.get "softBlockVisitors") defaultSettings.softBlockVisitors
    softBlockDeliveryPasses :=
      parseBoolean (nested.get "softBlockDeliveryPasses") defaultSettings.softBlockDeliveryPasses
    softBlockRecurringPasses :=
      parseBoolean (nested.get "softBlockRecurringPasses") defaultSettings.softBlockRecurringPasses
    zones := parseZones (nested.get "zones") defaultSettings.zones
    webhookUrl := parseUrl env (nested.get "webhookUrl")
    webhookSecret := parseSecret (nested.get "webhookSecret")
    autoSyncEnabled := parseBoolean (nested.get "autoSyncEnabled") defaultSettings.autoSyncEnabled }

def textOrNull : Option String → Json
  | some text => .string text
  | none => .null

def StoredAccessRestrictionSettings.toJson (settings : StoredAccessRestrictionSettings) : Json :=
  .object
    [("enabled", .bool settings.enabled), ("graceDays", .number settings.graceDays),
      ("minOutstanding", .number settings.minOutstanding),
      ("softBlockFacility", .bool settings.softBlockFacility),
      ("softBlockVisitors", .bool settings.softBlockVisitors),
      ("softBlockDeliveryPasses", .bool settings.softBlockDeliveryPasses),
      ("softBlockRecurringPasses", .bool settings.softBlockRecurringPasses),
      ("zones", .array (settings.zones.map fun zone => .string (zoneName zone))),
      ("webhookUrl", textOrNull settings.webhookUrl), ("webhookSecret", textOrNull settings.webhookSecret),
      ("autoSyncEnabled", .bool settings.autoSyncEnabled)]

def mergeAccessRestrictionSettings (condoSettings : Json) (next : StoredAccessRestrictionSettings) : Json :=
  .object (assign "accessRestriction" next.toJson condoSettings.record)

/-- What a manager sends; `none` leaves a setting as it is. -/
structure UpdateSettingsDto where
  enabled : Option Bool
  graceDays : Option ℚ
  minOutstanding : Option ℚ
  softBlockFacility : Option Bool
  softBlockVisitors : Option Bool
  softBlockDeliveryPasses : Option Bool
  softBlockRecurringPasses : Option Bool
  zones : Option (List AccessRestrictionZone)
  webhookUrl : Option (Option String)
  webhookSecret : Option String
  autoSyncEnabled : Option Bool

/-- The settings that `updateSettings` stores. -/
def UpdateSettingsDto.next (dto : UpdateSettingsDto) (current : StoredAccessRestrictionSettings) :
    StoredAccessRestrictionSettings where
  enabled := dto.enabled.getD current.enabled
  graceDays := dto.graceDays.getD current.graceDays
  minOutstanding := dto.minOutstanding.getD current.minOutstanding
  softBlockFacility := dto.softBlockFacility.getD current.softBlockFacility
  softBlockVisitors := dto.softBlockVisitors.getD current.softBlockVisitors
  softBlockDeliveryPasses := dto.softBlockDeliveryPasses.getD current.softBlockDeliveryPasses
  softBlockRecurringPasses := dto.softBlockRecurringPasses.getD current.softBlockRecurringPasses
  zones := dto.zones.getD current.zones
  webhookUrl := (dto.webhookUrl.map fun url => url.filter fun text => decide (text ≠ "")).getD current.webhookUrl
  webhookSecret := (dto.webhookSecret.map trimSecret).getD current.webhookSecret
  autoSyncEnabled := dto.autoSyncEnabled.getD current.autoSyncEnabled

end SmartResidence.Access
