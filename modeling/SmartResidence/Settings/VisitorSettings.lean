import SmartResidence.Settings.AutomationSettings
import SmartResidence.Foundation.Calendar

/-!
# `visitor-settings.ts` and `holidays.ts`
-/

namespace SmartResidence.Settings

open Foundation Billing

/-- The settings as they are stored. Holidays are dates such as `2026-01-01`. -/
structure VisitorSettings where
  maxOvernightVisitsPerUnitPerMonth : ℚ
  overnightSlotsPerNight : ℚ
  walkInApprovalMinutes : ℚ
  walkInRequireOwnerApproval : Bool
  preRegExpiryBufferMins : ℚ
  urgentOvernightMinHours : ℚ
  weekdays : List ℚ
  holidayAuto : Bool
  holidayState : String
  customHolidays : List String
  holidayExclusions : List String
  publicHolidays : List String
  holidayOvernightAutoApprove : Bool
  countPendingTowardCap : Bool
  requirePlatePhotoOvernight : Bool
  defaultPurpose : String

structure HolidayEnv where
  myHolidays : Instant → String → List String

def digitsOf (digits : List Char) : Nat := digits.foldl (fun value c => 10 * value + (c.toNat - '0'.toNat)) 0

/-- `Date.UTC` takes a year below 100 for one of the last century. -/
def isHolidayDateString (text : String) : Bool :=
  match text.toList with
  | [y₁, y₂, y₃, y₄, '-', m₁, m₂, '-', d₁, d₂] =>
      let year := digitsOf [y₁, y₂, y₃, y₄]
      let month := digitsOf [m₁, m₂]
      let day := digitsOf [d₁, d₂]
      [y₁, y₂, y₃, y₄, m₁, m₂, d₁, d₂].all Char.isDigit && decide (100 ≤ year ∧ 1 ≤ month ∧ month ≤ 12 ∧ 1 ≤ day ∧
        (day : ℤ) ≤ monthLength (((year : ℤ) - 1970) * 12 + month - 1))
  | _ => false

def stateCodes : List String :=
  ["01", "02", "03", "04", "05", "06", "07", "08", "09", "10", "11", "12", "13", "14", "15", "16"]

def normalizeHolidayState (state : Json) : String :=
  match state with
  | .string state => if state ∈ stateCodes then state else ""
  | _ => ""

structure HolidayConfig where
  holidayAuto : Bool
  holidayState : String
  customHolidays : List String
  holidayExclusions : List String

def resolveCondoHolidayDates (env : HolidayEnv) (now : Instant) (config : HolidayConfig) : List String :=
  let auto := if config.holidayAuto then env.myHolidays now config.holidayState else []
  let dates := membersOf (auto ++ config.customHolidays.filter isHolidayDateString)
  (dates.filter fun date => decide (date ∉ config.holidayExclusions.filter isHolidayDateString)).mergeSort
    fun first second => decide (first ≤ second)

def holidayDates (value : Json) : List String :=
  ((value.items?.getD []).filterMap Json.string?).filter isHolidayDateString

/-- A record of the old form knows only `publicHolidays`. -/
def parseHolidayConfig (env : HolidayEnv) (now : Instant) (visitor : Json) : HolidayConfig :=
  let holidayState := normalizeHolidayState (visitor.get "holidayState")
  let custom := holidayDates (visitor.get "customHolidays")
  match (visitor.get "holidayAuto").bool? with
  | some holidayAuto => ⟨holidayAuto, holidayState, custom, holidayDates (visitor.get "holidayExclusions")⟩
  | none =>
      let legacy := holidayDates (visitor.get "publicHolidays")
      { holidayAuto := true
        holidayState := holidayState
        customHolidays := if custom = [] then legacy.filter fun date => decide (date ∉ env.myHolidays now holidayState)
          else custom
        holidayExclusions := holidayDates (visitor.get "holidayExclusions") }

def parsePositiveInt (value : Json) (fallback : ℚ) : ℚ :=
  match value with
  | .number n => if 0 < n ∧ n.den = 1 then n else fallback
  | _ => fallback

def visitorPurposes : List String :=
  ["VISITOR", "CONTRACTOR", "GOVERNMENT_UTILITIES", "DELIVERY", "MAINTENANCE", "OTHER"]

def parsePurpose (value : Json) (fallback : String) : String :=
  match value with
  | .string text => if text ∈ visitorPurposes then text else fallback
  | _ => fallback

def positive? (value : Json) : Option ℚ := value.number?.filter fun n => decide (0 < n)

def isoWeekdays (value : Json) : List ℚ :=
  ((value.items?.getD []).filterMap Json.number?).filter fun day => decide (1 ≤ day ∧ day ≤ 7)

def parseWeekdays (value : Json) : List ℚ :=
  let weekdays := match value.items? with
    | some _ => isoWeekdays value
    | none => [1, 2, 3, 4, 5]
  if weekdays = [] then [1, 2, 3, 4, 5] else weekdays

def parseCondoVisitorSettings (env : HolidayEnv) (now : Instant) (settings : Json) : VisitorSettings :=
  let visitor := settings.get "visitor"
  let config := if visitor.isRecord then parseHolidayConfig env now visitor else ⟨true, "", [], []⟩
  { maxOvernightVisitsPerUnitPerMonth := (positive? (visitor.get "maxOvernightVisitsPerUnitPerMonth") <|>
      positive? (visitor.get "maxOvernightVisitsPerOwnerPerMonth")).getD 4
    overnightSlotsPerNight := parsePositiveInt (visitor.get "overnightSlotsPerNight") 10
    walkInApprovalMinutes := parsePositiveInt (visitor.get "walkInApprovalMinutes") 15
    walkInRequireOwnerApproval := (visitor.get "walkInRequireOwnerApproval").bool?.getD true
    preRegExpiryBufferMins := parsePositiveInt (visitor.get "preRegExpiryBufferMins") 120
    urgentOvernightMinHours := parsePositiveInt (visitor.get "urgentOvernightMinHours") 24
    weekdays := parseWeekdays ((visitor.get "workingDays").get "weekdays")
    holidayAuto := config.holidayAuto
    holidayState := config.holidayState
    customHolidays := config.customHolidays
    holidayExclusions := config.holidayExclusions
    publicHolidays := resolveCondoHolidayDates env now config
    holidayOvernightAutoApprove := (visitor.get "holidayOvernightAutoApprove").bool?.getD true
    countPendingTowardCap := (visitor.get "countPendingTowardCap").bool?.getD true
    requirePlatePhotoOvernight := (visitor.get "requirePlatePhotoOvernight").bool?.getD true
    defaultPurpose := parsePurpose (visitor.get "defaultPurpose") "VISITOR" }

/-- What a manager sends; `none` leaves a setting as it is. -/
structure UpdateVisitorSettingsDto where
  maxOvernightVisitsPerUnitPerMonth : Option ℚ
  overnightSlotsPerNight : Option ℚ
  walkInApprovalMinutes : Option ℚ
  walkInRequireOwnerApproval : Option Bool
  preRegExpiryBufferMins : Option ℚ
  urgentOvernightMinHours : Option ℚ
  weekdays : Option (List ℚ)
  holidayAuto : Option Bool
  holidayState : Option String
  customHolidays : Option (List String)
  holidayExclusions : Option (List String)
  publicHolidays : Option (List String)
  holidayOvernightAutoApprove : Option Bool
  countPendingTowardCap : Option Bool
  requirePlatePhotoOvernight : Option Bool
  defaultPurpose : Option String

/-- The settings that `mergeVisitorSettings` stores. -/
def UpdateVisitorSettingsDto.next (env : HolidayEnv) (now : Instant) (dto : UpdateVisitorSettingsDto)
    (current : VisitorSettings) : VisitorSettings :=
  let config : HolidayConfig :=
    { holidayAuto := dto.holidayAuto.getD current.holidayAuto
      holidayState := normalizeHolidayState (.string (dto.holidayState.getD current.holidayState))
      customHolidays :=
        ((dto.customHolidays <|> dto.publicHolidays).getD current.customHolidays).filter isHolidayDateString
      holidayExclusions := (dto.holidayExclusions.getD current.holidayExclusions).filter isHolidayDateString }
  { maxOvernightVisitsPerUnitPerMonth :=
      dto.maxOvernightVisitsPerUnitPerMonth.getD current.maxOvernightVisitsPerUnitPerMonth
    overnightSlotsPerNight := dto.overnightSlotsPerNight.getD current.overnightSlotsPerNight
    walkInApprovalMinutes := dto.walkInApprovalMinutes.getD current.walkInApprovalMinutes
    walkInRequireOwnerApproval := dto.walkInRequireOwnerApproval.getD current.walkInRequireOwnerApproval
    preRegExpiryBufferMins := dto.preRegExpiryBufferMins.getD current.preRegExpiryBufferMins
    urgentOvernightMinHours := dto.urgentOvernightMinHours.getD current.urgentOvernightMinHours
    weekdays := (dto.weekdays.map fun days => days.filter fun day => decide (1 ≤ day ∧ day ≤ 7)).getD current.weekdays
    holidayAuto := config.holidayAuto
    holidayState := config.holidayState
    customHolidays := config.customHolidays
    holidayExclusions := config.holidayExclusions
    publicHolidays := resolveCondoHolidayDates env now config
    holidayOvernightAutoApprove := dto.holidayOvernightAutoApprove.getD current.holidayOvernightAutoApprove
    countPendingTowardCap := dto.countPendingTowardCap.getD current.countPendingTowardCap
    requirePlatePhotoOvernight := dto.requirePlatePhotoOvernight.getD current.requirePlatePhotoOvernight
    defaultPurpose := dto.defaultPurpose.getD current.defaultPurpose }

def texts (items : List String) : Json := .array (items.map .string)

def VisitorSettings.toJson (settings : VisitorSettings) : Json :=
  .object
    [("maxOvernightVisitsPerUnitPerMonth", .number settings.maxOvernightVisitsPerUnitPerMonth),
      ("overnightSlotsPerNight", .number settings.overnightSlotsPerNight),
      ("walkInApprovalMinutes", .number settings.walkInApprovalMinutes),
      ("walkInRequireOwnerApproval", .bool settings.walkInRequireOwnerApproval),
      ("preRegExpiryBufferMins", .number settings.preRegExpiryBufferMins),
      ("urgentOvernightMinHours", .number settings.urgentOvernightMinHours),
      ("workingDays", .object [("weekdays", .array (settings.weekdays.map .number))]),
      ("holidayAuto", .bool settings.holidayAuto), ("holidayState", .string settings.holidayState),
      ("customHolidays", texts settings.customHolidays), ("holidayExclusions", texts settings.holidayExclusions),
      ("publicHolidays", texts settings.publicHolidays),
      ("holidayOvernightAutoApprove", .bool settings.holidayOvernightAutoApprove),
      ("countPendingTowardCap", .bool settings.countPendingTowardCap),
      ("requirePlatePhotoOvernight", .bool settings.requirePlatePhotoOvernight),
      ("defaultPurpose", .string settings.defaultPurpose)]

def mergeVisitorSettings (env : HolidayEnv) (now : Instant) (condoSettings : Json) (dto : UpdateVisitorSettingsDto) : Json :=
  .object (assign "visitor" (dto.next env now (parseCondoVisitorSettings env now condoSettings)).toJson
    condoSettings.spread)

end SmartResidence.Settings
