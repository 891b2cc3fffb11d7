/-!
Parsed programs: a tree whose nodes carry a kind, their place in the source, and the fields of the
node above that they fill.
-/
namespace CodeMetrics

/-- Rows and columns count from zero, columns in bytes. -/
structure Position where
  row : Nat
  column : Nat
  deriving DecidableEq, Inhabited

/-- `faulty` marks text that fits nowhere, `missing` a token that should have been there, and
`damaged` a node at or below which either occurs. -/
structure Label where
  kind : String
  named : Bool
  faulty : Bool := false
  missing : Bool := false
  damaged : Bool := false
  start : Position
  stop : Position
  startByte : Nat
  stopByte : Nat
  fields : List String := []
  deriving DecidableEq, Inhabited

inductive Tree where
  | node (label : Label) (children : List Tree)

namespace Tree

def label : Tree → Label
  | .node label _ => label

def children : Tree → List Tree
  | .node _ children => children

def kind (tree : Tree) : String := tree.label.kind

def fills (field : String) (tree : Tree) : Bool := tree.label.fields.contains field

def field? (tree : Tree) (name : String) : Option Tree := tree.children.find? (fills name)

/-- Lines count from one. -/
def line (tree : Tree) : Nat := tree.label.start.row + 1

end Tree

/-- A program text with the tree that was parsed from it. -/
structure Program where
  source : String
  root : Tree

/-- The text that a node covers. -/
def Tree.text? (source : String) (tree : Tree) : Option String :=
  String.fromUTF8? (source.toUTF8.extract tree.label.startByte tree.label.stopByte)

end CodeMetrics
