import CodeMetrics.Tree
/-!
The kinds of nodes that the figures of a script depend on.
-/
namespace CodeMetrics.JavaScript

def functionKinds : List String := [
  "function_declaration", "function_expression", "arrow_function", "method_definition",
  "generator_function_declaration", "generator_function"]

def statementKinds : List String := [
  "expression_statement", "variable_declaration", "lexical_declaration", "return_statement",
  "if_statement", "else_clause", "for_statement", "for_in_statement", "while_statement",
  "do_statement", "switch_statement", "switch_case", "switch_default", "try_statement",
  "catch_clause", "finally_clause", "throw_statement", "break_statement", "continue_statement",
  "function_declaration", "generator_function_declaration", "class_declaration",
  "import_statement", "export_statement", "labeled_statement", "debugger_statement"]

def isFunction (tree : Tree) : Bool := functionKinds.contains tree.kind

def isStatement (tree : Tree) : Bool := statementKinds.contains tree.kind

def logicalOperators : List String := ["&&", "||", "??"]

def logicalAssignments : List String := ["&&=", "||=", "??="]

def hasOperator (operators : List String) (tree : Tree) : Bool :=
  match tree.field? "operator" with
  | some operator => operators.contains operator.kind
  | none => false

theorem hasOperator_eq (operators : List String) (tree : Tree) :
    hasOperator operators tree =
      (tree.field? "operator").any fun operator => operators.contains operator.kind := by
  unfold hasOperator
  cases tree.field? "operator" <;> rfl

/-! Figures are counted in any type of numbers: reports hold words of 32 bits. -/
section Counting
variable {α β : Type} [Add α] [OfNat α 0] [OfNat α 1]

def one (holds : Bool) : α := if holds then 1 else 0

def total (figure : β → α) : List β → α
  | [] => 0
  | item :: rest => figure item + total figure rest

def tally (holds : β → Bool) (items : List β) : α := total (fun item => one (holds item)) items

mutual
/-- Sums a weight over all nodes below one, but over none below a nested function unless told to
enter it. The nested function itself belongs to the scope around it. -/
def sumScope (enter : Bool) (weight : Tree → α) : Tree → α
  | .node _ children => sumScopes enter weight children

def sumScopes (enter : Bool) (weight : Tree → α) : List Tree → α
  | [] => 0
  | child :: rest =>
    weight child + (if enter || !isFunction child then sumScope enter weight child else 0) +
      sumScopes enter weight rest
end

def logicalLines (enter : Bool) (tree : Tree) : α :=
  sumScope enter (fun node => one (isStatement node)) tree

end Counting
end CodeMetrics.JavaScript
