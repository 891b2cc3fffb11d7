import CodeMetrics.JavaScript.Branches
import CodeMetrics.JavaScript.Nesting
import CodeMetrics.Report
/-!
The functions of a script, each with its own figures, in the order in which they begin.
-/
namespace CodeMetrics.JavaScript

/-- A function without a name of its own takes that of the variable it is declared for. -/
def functionName (source : String) (above : Option Tree) (function : Tree) : String :=
  let nameOf (tree : Tree) := (tree.field? "name").bind (Tree.text? source)
  let declared := above.bind fun tree =>
    if tree.kind == "variable_declarator" then nameOf tree else none
  ((nameOf function).or declared).getD "<anonymous>"

def isParameter (tree : Tree) : Bool := tree.label.named && tree.kind != "comment"

section Counting
variable {α : Type} [Add α] [OfNat α 0] [OfNat α 1]

/-- A parameter list counts what is named in it, a lone parameter without a list is one. -/
def parameterCount (function : Tree) : α :=
  match function.field? "parameters" with
  | some list => tally isParameter list.children
  | none => one (function.field? "parameter").isSome

end Counting

def functionReport (source : String) (rules : BranchRules) (above : Option Tree)
    (function : Tree) : FunctionReport where
  name := functionName source above function
  line := function.line.toUInt64
  params := parameterCount function
  sloc := {
    physical := (function.label.stop.row - function.label.start.row + 1).toUInt32
    logical := logicalLines false function }
  cyclomatic := cyclomatic rules false function
  cognitive := cognitive 0 function
  maxNesting := maxNesting 0 function

mutual
def functionReports (source : String) (rules : BranchRules) (above : Option Tree) :
    Tree → List FunctionReport
  | .node label children =>
    let tree := Tree.node label children
    let below := functionReportsEach source rules tree children
    if label.named && isFunction tree then functionReport source rules above tree :: below
    else below

def functionReportsEach (source : String) (rules : BranchRules) (above : Tree) :
    List Tree → List FunctionReport
  | [] => []
  | child :: rest =>
    functionReports source rules (some above) child ++ functionReportsEach source rules above rest
end

end CodeMetrics.JavaScript
