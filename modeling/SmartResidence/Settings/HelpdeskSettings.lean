import SmartResidence.Settings.Json
import Mathlib.Algebra.Order.Field.Rat

/-!
# `helpdesk-settings.ts`
-/

namespace SmartResidence.Settings

open Foundation

@[ext]
structure AutoAssignment where
  generalTriagePool : List Json
  categoryPools : List Json
  seniorStaffPool : List Json
  priorityPools : Option (List Json)
  mlEnabled : Bool

@[ext]
structure HelpdeskSettings where
  resolutionConfirmationGraceDays : ℚ
  autoAssignment : Option AutoAssignment
  mlPriorityEnabled : Bool
  grace_bounds : 1 ≤ resolutionConfirmationGraceDays ∧ resolutionConfirmationGraceDays ≤ 30

def Json.items? : Json → Option (List Json)
  | .array items => some items
  | _ => none

def Json.bool? : Json → Option Bool
  | .bool value => some value
  | _ => none

def Json.number? : Json → Option ℚ
  | .number value => some value
  | _ => none

def Json.isRecord : Json → Bool
  | .object _ | .array _ => true
  | _ => false

def parseAutoAssignment (aa : Json) : AutoAssignment where
  generalTriagePool := (aa.get "generalTriagePool").items?.getD []
  categoryPools := (aa.get "categoryPools").items?.getD []
  seniorStaffPool := (aa.get "seniorStaffPool").items?.getD []
  priorityPools := (aa.get "priorityPools").items?
  mlEnabled := (aa.get "mlEnabled").bool?.getD false

def clampGrace (days : ℚ) : ℚ := max 1 (min 30 days)

theorem clampGrace_bounds (days : ℚ) : 1 ≤ clampGrace days ∧ clampGrace days ≤ 30 :=
  ⟨le_max_left _ _, max_le (by norm_num) (min_le_left _ _)⟩

theorem clampGrace_of_bounds {days : ℚ} (bounds : 1 ≤ days ∧ days ≤ 30) : clampGrace days = days := by
  unfold clampGrace
  rw [min_eq_right bounds.2, max_eq_right bounds.1]

def parseHelpdeskSettings (raw : Json) : HelpdeskSettings :=
  let helpdesk := raw.get "helpdesk"
  let autoAssignment := helpdesk.get "autoAssignment"
  { resolutionConfirmationGraceDays := clampGrace ((helpdesk.get "resolutionConfirmationGraceDays").number?.getD 7)
    autoAssignment := if autoAssignment.isRecord then some (parseAutoAssignment autoAssignment) else none
    mlPriorityEnabled := (helpdesk.get "mlPriorityEnabled").bool?.getD false
    grace_bounds := clampGrace_bounds _ }

def AutoAssignment.fields (auto : AutoAssignment) : List (String × Option Json) :=
  [("generalTriagePool", some (.array auto.generalTriagePool)), ("categoryPools", some (.array auto.categoryPools)),
    ("seniorStaffPool", some (.array auto.seniorStaffPool)), ("priorityPools", auto.priorityPools.map .array),
    ("mlEnabled", some (.bool auto.mlEnabled))]

def AutoAssignment.toJson (auto : AutoAssignment) : Json := .object (present auto.fields)

def HelpdeskSettings.fields (settings : HelpdeskSettings) : List (String × Option Json) :=
  [("resolutionConfirmationGraceDays", some (.number settings.resolutionConfirmationGraceDays)),
    ("autoAssignment", settings.autoAssignment.map AutoAssignment.toJson),
    ("mlPriorityEnabled", some (.bool settings.mlPriorityEnabled))]

def HelpdeskSettings.toJson (settings : HelpdeskSettings) : Json := .object (present settings.fields)

/-- `mergeHelpdeskSettings`, whose patch is what becomes of the parsed settings. -/
def mergeHelpdeskSettings (existing : Json) (patch : HelpdeskSettings → HelpdeskSettings) : Json :=
  .object (assign "helpdesk" (patch (parseHelpdeskSettings existing)).toJson existing.spread)

@[simp] theorem get_object (fields : List (String × Json)) (name : String) :
    (Json.object fields).get name = (fields.lookup name).getD .null := rfl

theorem get_assign_self (fields : List (String × Json)) (name : String) (value : Json) :
    (Json.object (assign name value fields)).get name = value := by
  rw [get_object, lookup_assign_self]
  rfl

theorem get_present {fields : List (String × Option Json)} (nodup : (fields.map Prod.fst).Nodup) (name : String) :
    (Json.object (present fields)).get name = (fields.lookup name).join.getD .null := by
  rw [get_object, lookup_present nodup]

theorem parse_autoAssignment (auto : AutoAssignment) : parseAutoAssignment auto.toJson = auto := by
  have nodup : (auto.fields.map Prod.fst).Nodup := by
    show ["generalTriagePool", "categoryPools", "seniorStaffPool", "priorityPools", "mlEnabled"].Nodup
    decide
  unfold parseAutoAssignment AutoAssignment.toJson
  simp only [get_present nodup]
  ext1
  · rfl
  · rfl
  · rfl
  · cases pools : auto.priorityPools with
    | none => simp [AutoAssignment.fields, List.lookup_cons, pools, Json.items?]
    | some pools => simp [AutoAssignment.fields, List.lookup_cons, pools, Json.items?]
  · rfl

theorem parse_helpdesk (settings : HelpdeskSettings) (fields : List (String × Json)) :
    parseHelpdeskSettings (.object (assign "helpdesk" settings.toJson fields)) = settings := by
  have nodup : (settings.fields.map Prod.fst).Nodup := by
    show ["resolutionConfirmationGraceDays", "autoAssignment", "mlPriorityEnabled"].Nodup
    decide
  unfold parseHelpdeskSettings
  simp only [get_assign_self]
  unfold HelpdeskSettings.toJson
  simp only [get_present nodup]
  ext1
  · exact clampGrace_of_bounds settings.grace_bounds
  · cases stored : settings.autoAssignment with
    | none => simp [HelpdeskSettings.fields, List.lookup_cons, stored, Json.isRecord]
    | some auto =>
      have read : ((settings.fields.lookup "autoAssignment").join.getD .null) = auto.toJson := by
        simp [HelpdeskSettings.fields, List.lookup_cons, stored]
      rw [read]
      exact congrArg some (parse_autoAssignment auto)
  · rfl

end SmartResidence.Settings
