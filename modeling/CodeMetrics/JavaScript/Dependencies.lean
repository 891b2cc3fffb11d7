import CodeMetrics.Tree
import CodeMetrics.Report
/-!
The modules that a script names, in the order in which it names them, at any depth.
-/
namespace CodeMetrics.JavaScript

def isQuoteMark (char : Char) : Bool := char.toNat == 0x22 || char.toNat == 0x27

/-- Removes quotes of either kind from both ends, as many as there are. -/
def trimQuotes (text : List Char) : List Char :=
  ((text.dropWhile isQuoteMark).reverse.dropWhile isQuoteMark).reverse

def stringContent? (source : String) (tree : Tree) : Option String :=
  if tree.kind == "string" then
    (tree.text? source).map fun text => String.ofList (trimQuotes text.toList)
  else none

def firstArgument? (call : Tree) : Option Tree :=
  (call.field? "arguments").bind fun list => list.children.find? (·.label.named)

def callKind? (source : String) (call : Tree) : Option DependencyKind :=
  (call.field? "function").bind fun called =>
    if called.kind == "import" then some .dynamic
    else if called.text? source == some "require" then some .commonJs
    else none

def dependency? (source : String) (tree : Tree) : Option Dependency :=
  match tree.kind with
  | "import_statement" | "export_statement" =>
    ((tree.field? "source").bind (stringContent? source)).map fun path =>
      ⟨path, .esm, tree.line.toUInt64⟩
  | "call_expression" => do
    let kind ← callKind? source tree
    let argument ← firstArgument? tree
    let path ← stringContent? source argument
    return ⟨path, kind, tree.line.toUInt64⟩
  | _ => none

mutual
def dependencies (source : String) : Tree → List Dependency
  | .node label children =>
    (dependency? source (.node label children)).toList ++ dependenciesEach source children

def dependenciesEach (source : String) : List Tree → List Dependency
  | [] => []
  | child :: rest => dependencies source child ++ dependenciesEach source rest
end

end CodeMetrics.JavaScript
