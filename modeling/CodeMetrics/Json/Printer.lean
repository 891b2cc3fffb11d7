import CodeMetrics.Json.Quote
import CodeMetrics.Json.Number
/-!
Documents as text, in one line without gaps or with each item and member on a line of its own.
-/
namespace CodeMetrics.Json

def wordText (value : Bool) : List Char := (if value then "true" else "false").toList

def joinWith (separator : List Char) : List (List Char) → List Char
  | [] => []
  | [last] => last
  | first :: rest => first ++ separator ++ joinWith separator rest

mutual
def compactChars : Json → List Char
  | .null => "null".toList
  | .bool value => wordText value
  | .number value => value.write
  | .string value => quote value
  | .array items => '[' :: joinWith [','] (compactItems items) ++ [']']
  | .object members => '\x7b' :: joinWith [','] (compactMembers members) ++ ['\x7d']

def compactItems : List Json → List (List Char)
  | [] => []
  | item :: rest => compactChars item :: compactItems rest

def compactMembers : List (String × Json) → List (List Char)
  | [] => []
  | (key, value) :: rest => (quote key ++ ':' :: compactChars value) :: compactMembers rest
end

/-- A new line at the given depth, two spaces for each level. -/
def newLine (depth : Nat) : List Char := '\n' :: List.replicate (2 * depth) ' '

/-- Parts between brackets, each on a line of its own one level deeper; no parts, no lines. -/
def block (first last : Char) (depth : Nat) (parts : List (List Char)) : List Char :=
  if parts.isEmpty then [first, last]
  else first :: newLine (depth + 1) ++ joinWith (',' :: newLine (depth + 1)) parts ++
    newLine depth ++ [last]

mutual
def prettyChars (depth : Nat) : Json → List Char
  | .null => "null".toList
  | .bool value => wordText value
  | .number value => value.write
  | .string value => quote value
  | .array items => block '[' ']' depth (prettyItems (depth + 1) items)
  | .object members => block '\x7b' '\x7d' depth (prettyMembers (depth + 1) members)

def prettyItems (depth : Nat) : List Json → List (List Char)
  | [] => []
  | item :: rest => prettyChars depth item :: prettyItems depth rest

def prettyMembers (depth : Nat) : List (String × Json) → List (List Char)
  | [] => []
  | (key, value) :: rest =>
    (quote key ++ ':' :: ' ' :: prettyChars depth value) :: prettyMembers depth rest
end

def compact (value : Json) : String := String.ofList (compactChars value)

def pretty (value : Json) : String := String.ofList (prettyChars 0 value)

end CodeMetrics.Json
