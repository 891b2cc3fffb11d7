import CodeMetrics.Toml.Outline
import CodeMetrics.Toml.Scalar
import CodeMetrics.Toml.Table
/-!
From a text to a table. The outline of the whole text comes first; then its statements are read in
order and build the table one after the other, and the first that cannot be read is what is wrong
with the document. Pairs fill the table of the header above them, which takes its place in the
document when the next header comes.
-/
namespace CodeMetrics.Toml

/-- What is wrong with a text that is not a document. -/
inductive Defect where
  | malformed
  | pathTooLong
  deriving DecidableEq

abbrev Read (α : Type) := Except Defect α

def orMalformed {α : Type} : Option α → Read α
  | some value => .ok value
  | none => .error .malformed

/-! Keys. -/

def isBareKeyChar (char : Char) : Bool := char.isAlphanum || char == '_' || char == '-'

def Piece.key? : Piece → Option String
  | .word text =>
    if !text.isEmpty && text.all isBareKeyChar then some (String.ofList text) else none
  | .quoted text => if text.style.lines then none else text.read?

/-- No more than 80 keys stand in a path. -/
def pathLimit : Nat := 80

def readPath (path : List Piece) : Read (List String) := do
  let keys ← orMalformed (path.mapM Piece.key?)
  if pathLimit < keys.length then throw .pathTooLong
  return keys

/-! Values. -/

def Piece.value? : Piece → Option Value
  | .word text => scalar? text
  | .quoted text => text.read?.map .string

mutual
def Written.read : Written → Read Value
  | .piece piece => orMalformed piece.value?
  | .array items => (readItems items).map .array
  | .pairs entries => (readPairs [] entries).map fun found => .table (tableOf found)

def readItems : List Written → Read (List Value)
  | [] => return []
  | item :: rest => do
    let value ← item.read
    let more ← readItems rest
    return value :: more

/-- The pairs of an inline table, added to those that came before them. -/
def readPairs (entries : List (String × Item)) :
    List (List Piece × Written) → Read (List (String × Item))
  | [] => return entries
  | (path, written) :: rest => do
    let keys ← readPath path
    let value ← written.read
    let entries ← orMalformed (assign keys value entries)
    readPairs entries rest
end

/-! Statements. -/

/-- The table that is being filled: that of the document itself, or one below a header. -/
inductive Header where
  | document
  | table (path : List String)
  | row (path : List String)

/-- The tables that are complete, and the one that pairs go to. -/
structure Draft where
  root : List (String × Item) := []
  header : Header := .document
  current : List (String × Item) := []

/-- Puts the current table in its place. -/
def Draft.close (draft : Draft) : Read (List (String × Item)) :=
  match draft.header with
  | .document => return draft.current
  | .table path => orMalformed (closeTable path draft.current draft.root)
  | .row path => orMalformed (addRow path draft.current draft.root)

def Draft.add (draft : Draft) : Statement → Read Draft
  | .blank => return draft
  | .table path => do
    let root ← draft.close
    let keys ← readPath path
    let current ← orMalformed (openTable keys root)
    return ⟨root, .table keys, current⟩
  | .row path => do
    let root ← draft.close
    let keys ← readPath path
    return ⟨root, .row keys, []⟩
  | .pair path written => do
    let keys ← readPath path
    let value ← written.read
    let current ← orMalformed (assign keys value draft.current)
    return { draft with current := current }

/-- The entries of a document. -/
def read (text : String) : Read (List (String × Value)) := do
  let statements ← orMalformed (outline? text)
  let draft ← statements.foldlM Draft.add {}
  let root ← draft.close
  return tableOf root

end CodeMetrics.Toml
