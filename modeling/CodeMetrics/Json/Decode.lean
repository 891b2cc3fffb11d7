import CodeMetrics.Schema
import CodeMetrics.Text.Quoted
import CodeMetrics.Json.Number
/-!
Reading the parts of records from documents: truth values, counts, figures, strings, lists, and
records themselves.
-/
namespace CodeMetrics

/-- How messages name a value that they did not expect. -/
def Number.describe (number : Number) : String :=
  let digits := String.ofList number.write
  match number with
  | .integer .. => s!"integer `{digits}`"
  | .float .. => s!"floating point `{digits}`"

namespace Json

def describe : Json → String
  | .null => "null"
  | .bool value => s!"boolean `{value}`"
  | .number value => value.describe
  | .string value => s!"string {Text.quoted value}"
  | .array _ => "sequence"
  | .object _ => "map"

def wrongType {α : Type} (found : Json) (expected : String) : Decoded α :=
  .error (.wrongType found.describe expected)

def toBool : Json → Decoded Bool
  | .bool value => .ok value
  | other => wrongType other "a boolean"

def toText : Json → Decoded String
  | .string value => .ok value
  | other => wrongType other "a string"

def toWord32 : Json → Decoded UInt32
  | .number (.integer value lower upper) =>
    if 0 ≤ value ∧ value < 4294967296 then .ok value.toNat.toUInt32
    else .error (.wrongValue (Number.integer value lower upper).describe "u32")
  | other => wrongType other "u32"

def toWord64 : Json → Decoded UInt64
  | .number (.integer value lower upper) =>
    if 0 ≤ value then .ok value.toNat.toUInt64
    else .error (.wrongValue (Number.integer value lower upper).describe "usize")
  | other => wrongType other "usize"

/-- An integer stands for the nearest double. -/
def toFloat : Json → Decoded Float
  | .number (.float value _) => .ok value
  | .number (.integer value _ _) => .ok (Float.ofInt value)
  | other => wrongType other "f64"

def toOption {α : Type} (decode : Json → Decoded α) : Json → Decoded (Option α)
  | .null => .ok none
  | other => (decode other).map some

/-- The first wrong item is reported. -/
def toItems {α : Type} (decode : Json → Decoded α) : List Json → Decoded (List α)
  | [] => .ok []
  | item :: rest => do
    let first ← decode item
    let more ← toItems decode rest
    return first :: more

def toList {α : Type} (decode : Json → Decoded α) : Json → Decoded (List α)
  | .array items => toItems decode items
  | other => wrongType other "a sequence"

def toMembers : Json → Decoded (List (String × Json))
  | .object members => .ok members
  | other => wrongType other "a map"

def toRecord {α : Type} (typeName : String) (schema : Schema Json α) : Json → Decoded α
  | .object members => schema.decodeMembers members
  | .array items => schema.decodeItems typeName items
  | other => wrongType other s!"struct {typeName}"

/-- One of several names, as a string or as the only key of a map to null. -/
def toVariant {α : Type} (variants : List (String × α)) : Json → Decoded α
  | .string name => named name
  | .object [(name, value)] => do
    let variant ← named name
    match value with
    | .null => return variant
    | other => wrongType other "unit"
  | .object _ => .error (.wrongValue "map" "map with a single key")
  | other => wrongType other "string or map"
where
  named (name : String) : Decoded α :=
    match findEntry name variants with
    | some variant => .ok variant
    | none => .error (.unknownVariant name (variants.map Prod.fst))

/-! What was written is read back. -/

theorem toWord32_ofWord32 (word : UInt32) : toWord32 (ofWord32 word) = .ok word := by
  have bound := word.toNat_lt
  have upper : (word.toNat : Int) < 4294967296 := by omega
  simp [toWord32, ofWord32, upper]

theorem toWord64_ofWord64 (word : UInt64) : toWord64 (ofWord64 word) = .ok word := by
  simp [toWord64, ofWord64]

theorem toFloat_ofFloat {value : Float} (finite : value.isFinite = true) :
    toFloat (ofFloat value) = .ok value := by
  simp [ofFloat, Number.ofFloat?, finite, toFloat]

theorem toItems_map {α : Type} (encode : α → Json) (decode : Json → Decoded α) (items : List α)
    (inverse : ∀ item ∈ items, decode (encode item) = .ok item) :
    toItems decode (items.map encode) = .ok items := by
  induction items with
  | nil => rfl
  | cons item rest ih =>
    have first := inverse item List.mem_cons_self
    have more := ih fun other member => inverse other (List.mem_cons_of_mem item member)
    simp only [List.map_cons, toItems, first, more]
    rfl

end Json
end CodeMetrics
