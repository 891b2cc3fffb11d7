import CodeMetrics.Entries
/-!
Reading records from values of any kind. A schema names the fields of a record in order, and one
schema reads a record both from named members and from a bare sequence of values.

From members, a field is found by its name wherever it stands, and unknown names are passed over.
Of several wrong members the one that comes first in the document is reported, and a missing field
only when no member is wrong.
-/
namespace CodeMetrics

inductive DecodeError where
  | wrongType (found expected : String)
  | wrongValue (found expected : String)
  | wrongLength (length : Nat) (expected : String)
  | missingField (name : String)
  | unknownVariant (name : String) (variants : List String)
  | numberOutOfRange
  deriving DecidableEq

def DecodeError.message : DecodeError → String
  | .wrongType found expected => s!"invalid type: {found}, expected {expected}"
  | .wrongValue found expected => s!"invalid value: {found}, expected {expected}"
  | .wrongLength length expected => s!"invalid length {length}, expected {expected}"
  | .missingField name => s!"missing field `{name}`"
  | .unknownVariant name variants =>
    let listed := ", ".intercalate (variants.map fun variant => s!"`{variant}`")
    s!"unknown variant `{name}`, expected one of {listed}"
  | .numberOutOfRange => "number out of range"

abbrev Decoded (α : Type) := Except DecodeError α

/-- What is wrong with one field of a record. -/
inductive Fault where
  | wrong (name : String) (error : DecodeError)
  | missing (name : String)

def Fault.error : Fault → DecodeError
  | .wrong _ error => error
  | .missing name => .missingField name

def Fault.wrongAt? (key : String) : Fault → Option DecodeError
  | .wrong name error => if name = key then some error else none
  | .missing _ => none

/-- What the members of a record give: the record, or all that is wrong with its fields, in the
order of their declaration. -/
inductive Reading (α : Type) where
  | complete (value : α)
  | faulty (first : Fault) (others : List Fault)

def Reading.both {α β : Type} : Reading (α → β) → Reading α → Reading β
  | .complete build, .complete value => .complete (build value)
  | .complete _, .faulty first others => .faulty first others
  | .faulty first others, .complete _ => .faulty first others
  | .faulty first others, .faulty second more => .faulty first (others ++ second :: more)

/-- Records over values of type `ν`. -/
structure Schema (ν α : Type) where
  names : List String
  ofMembers : (String → Option ν) → Reading α
  /-- Reads from the front of a sequence, of which `index` values are gone. -/
  ofItems : (expected : String) → (index : Nat) → List ν → Decoded (α × List ν)

namespace Schema
variable {ν α β : Type}

def size (schema : Schema ν α) : Nat := schema.names.length

def build (value : α) : Schema ν α :=
  ⟨[], fun _ => .complete value, fun _ _ items => .ok (value, items)⟩

/-- A field that may be absent when there is a value to stand for it. -/
def fieldOr (absent : Option α) (name : String) (decode : ν → Decoded α) : Schema ν α where
  names := [name]
  ofMembers find :=
    match find name, absent with
    | some value, _ =>
      match decode value with
      | .ok result => .complete result
      | .error error => .faulty (.wrong name error) []
    | none, some result => .complete result
    | none, none => .faulty (.missing name) []
  ofItems expected index
    | value :: rest => (decode value).map fun result => (result, rest)
    | [] =>
      match absent with
      | some result => .ok (result, [])
      | none => .error (.wrongLength index expected)

def field (name : String) (decode : ν → Decoded α) : Schema ν α := fieldOr none name decode

def optional (absent : α) (name : String) (decode : ν → Decoded α) : Schema ν α :=
  fieldOr (some absent) name decode

/-- The fields of the first schema, then those of the second. -/
def and (first : Schema ν (α → β)) (second : Schema ν α) : Schema ν β where
  names := first.names ++ second.names
  ofMembers find := (first.ofMembers find).both (second.ofMembers find)
  ofItems expected index items := do
    let front ← first.ofItems expected index items
    let back ← second.ofItems expected (index + first.size) front.2
    return (front.1 back.1, back.2)

/-- The error to report for faulty members. -/
def reported (members : List (String × ν)) (first : Fault) (others : List Fault) : DecodeError :=
  let wrong := members.findSome? fun entry => (first :: others).findSome? (Fault.wrongAt? entry.1)
  wrong.getD first.error

/-- The members that the record has no field for. -/
def unknownMembers (schema : Schema ν α) (members : List (String × ν)) : List (String × ν) :=
  members.filter fun entry => !schema.names.contains entry.1

def decodeMembers (schema : Schema ν α) (members : List (String × ν)) : Decoded α :=
  match schema.ofMembers fun name => findEntry name members with
  | .complete value => .ok value
  | .faulty first others => .error (reported members first others)

/-- The record at the front of a sequence, and the values that are left over. -/
def decodeFront (schema : Schema ν α) (typeName : String) (items : List ν) :
    Decoded (α × List ν) :=
  let size := schema.size
  schema.ofItems s!"struct {typeName} with {size} elements" 0 items

/-- No value may be left over. -/
def decodeItems (schema : Schema ν α) (typeName : String) (items : List ν) : Decoded α := do
  let front ← schema.decodeFront typeName items
  if front.2.isEmpty then return front.1
  else throw (.wrongLength items.length "fewer elements in array")

end Schema
end CodeMetrics
