import CodeMetrics.Entries.Sorted
import CodeMetrics.Json.Basic
import CodeMetrics.Decimal.Layout
import CodeMetrics.Schema
import CodeMetrics.Text.Quoted
/-!
The values of a configuration file. Tables are in ascending order of key. A number may be written
that has no value or one out of range, and that counts only where its value is asked for.
-/
namespace CodeMetrics.Toml

inductive Value where
  | bool (value : Bool)
  | integer (value : Int)
  | float (value : Float)
  /-- A number without a value: beyond the greatest double, or not made of digits throughout. -/
  | valueless
  | string (value : String)
  | moment (text : String)
  | array (items : List Value)
  | table (entries : List (String × Value))

namespace Value

def momentKey : String := "$__toml_private_datetime"

mutual
/-- A number that is infinite, undefined, out of range or without a value turns into null. -/
def toJson : Value → Json
  | .bool value => .bool value
  | .integer value => ((Number.ofInt? value).map Json.number).getD .null
  | .float value => .ofFloat value
  | .valueless => .null
  | .string value => .string value
  | .moment text => .object [(momentKey, .string text)]
  | .array items => .array (itemsToJson items)
  | .table entries => .object (entriesToJson entries)

def itemsToJson : List Value → List Json
  | [] => []
  | item :: rest => item.toJson :: itemsToJson rest

def entriesToJson : List (String × Value) → List (String × Json)
  | [] => []
  | (key, value) :: rest => (key, value.toJson) :: entriesToJson rest
end

/-- How messages name a value that they did not expect. A number is never written with an
exponent here. -/
def describe : Value → String
  | .bool value => s!"boolean `{value}`"
  | .integer value => s!"integer `{value}`"
  | .float value =>
    let digits := String.ofList (Decimal.Layout.positional.float value)
    s!"floating point `{digits}`"
  | .valueless => "number without a value"
  | .string value => s!"string {Text.quoted value}"
  | .moment _ => "map"
  | .array _ => "sequence"
  | .table _ => "map"

mutual
def numbersWithin (least greatest : Int) : Value → Bool
  | .integer value => least ≤ value && value ≤ greatest
  | .valueless => false
  | .array items => itemsWithin least greatest items
  | .table entries => entriesWithin least greatest entries
  | _ => true

def itemsWithin (least greatest : Int) : List Value → Bool
  | [] => true
  | item :: rest => item.numbersWithin least greatest && itemsWithin least greatest rest

def entriesWithin (least greatest : Int) : List (String × Value) → Bool
  | [] => true
  | (_, value) :: rest => value.numbersWithin least greatest && entriesWithin least greatest rest
end

def isPlain (value : Value) : Bool :=
  value.numbersWithin (-9223372036854775808) 9223372036854775807

def fitsJson (value : Value) : Bool :=
  value.numbersWithin (-9223372036854775808) 18446744073709551615

/-- A value that is passed over may hold integers of 128 bits, with a sign or without. -/
def isPassable (value : Value) : Bool :=
  value.numbersWithin (-170141183460469231731687303715884105728)
    340282366920938463463374607431768211455

def wrongType {α : Type} (found : Value) (expected : String) : Decoded α :=
  .error (.wrongType found.describe expected)

def toBool : Value → Decoded Bool
  | .bool value => .ok value
  | other => other.wrongType "a boolean"

/-- The members of a table, or of the map that a moment turns into. -/
def members? : Value → Option (List (String × Value))
  | .table entries => some entries
  | .moment text => some [(momentKey, .string text)]
  | _ => none

end Value
end CodeMetrics.Toml
