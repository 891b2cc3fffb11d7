import CodeMetrics.Tree
import CodeMetrics.Failure
/-!
The first place where a program did not parse.
-/
namespace CodeMetrics.JavaScript

mutual
/-- Looks only below nodes that are marked as damaged. -/
def firstFault? : Tree → Option Tree
  | .node label children =>
    if label.faulty || label.missing then some (.node label children)
    else if label.damaged then firstFaultAmong? children
    else none

def firstFaultAmong? : List Tree → Option Tree
  | [] => none
  | child :: rest => (firstFault? child).or (firstFaultAmong? rest)
end

def faultText (tree : Tree) : String :=
  let kind := tree.kind
  if tree.label.missing then s!"missing `{kind}`" else "unexpected token"

/-- Lines and columns count from one. -/
def faultMessage (root : Tree) : String :=
  match firstFault? root with
  | some tree =>
    let line := tree.line
    let column := tree.label.start.column + 1
    let text := faultText tree
    s!"Syntax error at line {line}, column {column}: {text}"
  | none => "Syntax error"

def faultError (root : Tree) : AnalyzerError := ⟨.malformed, faultMessage root⟩

end CodeMetrics.JavaScript
