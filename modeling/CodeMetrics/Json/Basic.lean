import CodeMetrics.Entries
/-!
Documents as values: what options, settings, results and configuration files hold.
-/
namespace CodeMetrics

/-- A number is an integer of at most 64 bits, signed or not, or else a finite double. The bounds
are `-2 ^ 63` and `2 ^ 64`. -/
inductive Number where
  | integer (value : Int) (lower : -9223372036854775808 ≤ value)
    (upper : value < 18446744073709551616)
  | float (value : Float) (finite : value.isFinite = true)
  deriving DecidableEq

inductive Json where
  | null
  | bool (value : Bool)
  | number (value : Number)
  | string (value : String)
  | array (items : List Json)
  | object (members : List (String × Json))

instance : Inhabited Json := ⟨.null⟩

namespace Number

def ofInt? (value : Int) : Option Number :=
  if range : -9223372036854775808 ≤ value ∧ value < 18446744073709551616 then
    some (.integer value range.1 range.2)
  else none

def ofFloat? (value : Float) : Option Number :=
  if finite : value.isFinite = true then some (.float value finite) else none

end Number

namespace Json

def ofWord32 (word : UInt32) : Json :=
  .number (.integer word.toNat (by omega) (by have := word.toNat_lt; omega))

def ofWord64 (word : UInt64) : Json :=
  .number (.integer word.toNat (by omega) (by have := word.toNat_lt; omega))

/-- A double without a number's value, infinite or undefined, is written as null. -/
def ofFloat (value : Float) : Json := ((Number.ofFloat? value).map Json.number).getD .null

def ofOption {α : Type} (encode : α → Json) : Option α → Json
  | none => .null
  | some value => encode value

def bool? : Json → Option Bool
  | .bool value => some value
  | _ => none

def kindName : Json → String
  | .null => "null"
  | .bool _ => "boolean"
  | .number _ => "number"
  | .string _ => "string"
  | .array _ => "array"
  | .object _ => "object"

end Json
end CodeMetrics
