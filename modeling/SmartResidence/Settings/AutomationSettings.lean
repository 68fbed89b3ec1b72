import SmartResidence.Settings.HelpdeskSettings

/-!
# `BillingAutomationSettingsSchema`
-/

namespace SmartResidence.Settings

open Foundation Billing

@[ext]
structure RunRecord where
  lastRunAt : Option String
  lastRunPeriodStart : Option String
  lastRunPeriodEnd : Option String
  lastRunCreated : Option ℚ
  lastRunSkipped : Option ℚ
  lastRunSkippedNoRate : Option ℚ

structure StoredAutomation where
  settings : BillingAutomationSettings
  run : RunRecord

/-- `z.coerce.number()`. A list of one number is not taken for the number. -/
def coerceNumber : Json → Option ℚ
  | .null => some 0
  | .bool value => some (if value then 1 else 0)
  | .number value => some value
  | .string text => numberOf text
  | _ => none

def wholeWithin (least most : Nat) (value : ℚ) : Option {n : Nat // least ≤ n ∧ n ≤ most} :=
  if bounds : value.den = 1 ∧ 0 ≤ value.num ∧ least ≤ value.num.toNat ∧ value.num.toNat ≤ most then
    some ⟨value.num.toNat, bounds.2.2⟩
  else none

/-- `z.coerce.number().int().min(least).max(most).default(fallback)` -/
def parseWhole (least most : Nat) (fallback : {n : Nat // least ≤ n ∧ n ≤ most}) :
    Option Json → Option {n : Nat // least ≤ n ∧ n ≤ most}
  | none => some fallback
  | some value => (coerceNumber value).bind (wholeWithin least most)

def parseDefault {α : Type} (parse : Json → Option α) (fallback : α) : Option Json → Option α
  | none => some fallback
  | some value => parse value

def parseOptional {α : Type} (parse : Json → Option α) : Option Json → Option (Option α)
  | none => some none
  | some value => (parse value).map some

def Json.string? : Json → Option String
  | .string text => some text
  | _ => none

def periodStrategyName : PeriodStrategy → String
  | .currentMonth => "CURRENT_MONTH"
  | .nextMonth => "NEXT_MONTH"

def dueStrategyName : DueStrategy → String
  | .dayOfMonth => "DAY_OF_MONTH"
  | .offsetDays => "OFFSET_DAYS"

def parseEnum {α : Type} (members : List α) (name : α → String) (value : Json) : Option α :=
  value.string?.bind fun text => members.find? fun member => decide (name member = text)

def parseRunRecord (field : String → Option Json) : Option RunRecord := do
  let lastRunAt ← parseOptional Json.string? (field "lastRunAt")
  let lastRunPeriodStart ← parseOptional Json.string? (field "lastRunPeriodStart")
  let lastRunPeriodEnd ← parseOptional Json.string? (field "lastRunPeriodEnd")
  let lastRunCreated ← parseOptional Json.number? (field "lastRunCreated")
  let lastRunSkipped ← parseOptional Json.number? (field "lastRunSkipped")
  let lastRunSkippedNoRate ← parseOptional Json.number? (field "lastRunSkippedNoRate")
  return ⟨lastRunAt, lastRunPeriodStart, lastRunPeriodEnd, lastRunCreated, lastRunSkipped, lastRunSkippedNoRate⟩

def parseConfiguration (field : String → Option Json) : Option BillingAutomationSettings := do
  let enabled ← parseDefault Json.bool? false (field "enabled")
  let generationDay ← parseWhole 1 31 ⟨1, by decide⟩ (field "generationDay")
  let periodStrategy ←
    parseDefault (parseEnum [.currentMonth, .nextMonth] periodStrategyName) .nextMonth (field "periodStrategy")
  let dueStrategy ← parseDefault (parseEnum [.dayOfMonth, .offsetDays] dueStrategyName) .dayOfMonth (field "dueStrategy")
  let dueDay ← parseWhole 1 31 ⟨15, by decide⟩ (field "dueDay")
  let dueOffsetDays ← parseWhole 0 90 ⟨14, by decide⟩ (field "dueOffsetDays")
  return ⟨enabled, generationDay, periodStrategy, dueStrategy, dueDay, dueOffsetDays, generationDay.property,
    dueDay.property, dueOffsetDays.property.2⟩

def parseAutomationFields (fields : List (String × Json)) : Option StoredAutomation := do
  let settings ← parseConfiguration fun name => fields.lookup name
  let run ← parseRunRecord fun name => fields.lookup name
  return ⟨settings, run⟩

/-- `parseAutomationSettings`, where `null` is read as no fields. What is neither is refused. -/
def parseAutomationSettings (settings : Json) : Option StoredAutomation :=
  match settings.get "billingAutomation" with
  | .null => parseAutomationFields []
  | .object fields => parseAutomationFields fields
  | _ => none

def StoredAutomation.fields (stored : StoredAutomation) : List (String × Option Json) :=
  [("enabled", some (.bool stored.settings.enabled)), ("generationDay", some (.number stored.settings.generationDay)),
    ("periodStrategy", some (.string (periodStrategyName stored.settings.periodStrategy))),
    ("dueStrategy", some (.string (dueStrategyName stored.settings.dueStrategy))),
    ("dueDay", some (.number stored.settings.dueDay)), ("dueOffsetDays", some (.number stored.settings.dueOffsetDays)),
    ("lastRunAt", stored.run.lastRunAt.map .string), ("lastRunPeriodStart", stored.run.lastRunPeriodStart.map .string),
    ("lastRunPeriodEnd", stored.run.lastRunPeriodEnd.map .string),
    ("lastRunCreated", stored.run.lastRunCreated.map .number), ("lastRunSkipped", stored.run.lastRunSkipped.map .number),
    ("lastRunSkippedNoRate", stored.run.lastRunSkippedNoRate.map .number)]

def StoredAutomation.toJson (stored : StoredAutomation) : Json := .object (present stored.fields)

def mergeAutomation (existing : Json) (next : StoredAutomation) : Json :=
  .object (assign "billingAutomation" next.toJson existing.record)

section

variable {α : Type}

variable {least most n : Nat}

theorem wholeWithin_nat (bounds : least ≤ n ∧ n ≤ most) : wholeWithin least most (n : ℚ) = some ⟨n, bounds⟩ := by
  unfold wholeWithin
  rw [dif_pos]
  · rfl
  · exact ⟨rfl, Int.natCast_nonneg n, bounds⟩

theorem parseWhole_nat (fallback : {n : Nat // least ≤ n ∧ n ≤ most}) (bounds : least ≤ n ∧ n ≤ most) :
    parseWhole least most fallback (some (.number n)) = some ⟨n, bounds⟩ :=
  wholeWithin_nat bounds

theorem parseOptional_map {parse : Json → Option α} {make : α → Json} (reads : ∀ value, parse (make value) = some value)
    (value : Option α) : parseOptional parse (value.map make) = some value := by
  cases value with
  | none => rfl
  | some value =>
    show (parse (make value)).map some = _
    rw [reads]
    rfl

theorem parseEnum_period (strategy : PeriodStrategy) :
    parseEnum [.currentMonth, .nextMonth] periodStrategyName (.string (periodStrategyName strategy)) = some strategy := by
  cases strategy <;> decide

theorem parseEnum_due (strategy : DueStrategy) :
    parseEnum [.dayOfMonth, .offsetDays] dueStrategyName (.string (dueStrategyName strategy)) = some strategy := by
  cases strategy <;> decide

end

theorem lookup_stored (stored : StoredAutomation) (name : String) :
    (present stored.fields).lookup name = (stored.fields.lookup name).join := by
  apply lookup_present
  show ["enabled", "generationDay", "periodStrategy", "dueStrategy", "dueDay", "dueOffsetDays", "lastRunAt",
    "lastRunPeriodStart", "lastRunPeriodEnd", "lastRunCreated", "lastRunSkipped", "lastRunSkippedNoRate"].Nodup
  decide

theorem parse_automation (stored : StoredAutomation) (fields : List (String × Json)) :
    parseAutomationSettings (.object (assign "billingAutomation" stored.toJson fields)) = some stored := by
  unfold parseAutomationSettings
  rw [get_assign_self]
  have configuration : parseConfiguration (fun name => (present stored.fields).lookup name) = some stored.settings := by
    obtain ⟨⟨enabled, generationDay, periodStrategy, dueStrategy, dueDay, dueOffsetDays, first, second, third⟩, run⟩ := stored
    unfold parseConfiguration
    simp only [lookup_stored]
    simp [StoredAutomation.fields, List.lookup_cons, parseDefault, Json.bool?, parseEnum_period, parseEnum_due,
      parseWhole_nat _ first, parseWhole_nat _ second, parseWhole_nat _ ⟨Nat.zero_le _, third⟩]
  have run : parseRunRecord (fun name => (present stored.fields).lookup name) = some stored.run := by
    unfold parseRunRecord
    simp only [lookup_stored]
    have texts := @parseOptional_map String Json.string? Json.string fun _ => rfl
    have numbers := @parseOptional_map ℚ Json.number? Json.number fun _ => rfl
    simp [StoredAutomation.fields, List.lookup_cons, texts, numbers]
  show parseAutomationFields (present stored.fields) = some stored
  unfold parseAutomationFields
  rw [configuration, run]
  rfl

end SmartResidence.Settings
