import SmartResidence.Foundation.Entries
import SmartResidence.Gateway.JsValue
import Mathlib.Data.Rat.Defs

/-!
# Values of a JSON column
-/

namespace SmartResidence.Settings

inductive Json
  | null
  | bool (value : Bool)
  | number (value : ℚ)
  | string (value : String)
  | array (items : List Json)
  | object (fields : List (String × Json))

namespace Json

/-- `value && typeof value === 'object' ? value : {}`. An array has no fields of a name. -/
def record : Json → List (String × Json)
  | object fields => fields
  | _ => []

def spread : Json → List (String × Json)
  | object fields => fields
  | array items => items.mapIdx fun i item => (toString i, item)
  | _ => []

/-- A field of a record; one that is missing reads as `null`. -/
def get (name : String) (value : Json) : Json := (value.record.lookup name).getD null

end Json

open Billing in
def trimText (text : String) : String := String.ofList (trim text.toList)

end SmartResidence.Settings
