import CodeMetrics.JavaScript.Kinds
/-!
Cognitive complexity, where a construct costs the more the deeper it is nested, and the greatest
depth of nesting itself.
-/
namespace CodeMetrics.JavaScript

/-- What a node means to a reader who follows the flow of control. -/
inductive Flow where
  | conditional
  | loop
  | fork
  | ternary
  | logical
  | straight
  deriving DecidableEq

def flow (tree : Tree) : Flow :=
  match tree.kind with
  | "if_statement" => .conditional
  | "while_statement" | "do_statement" | "for_statement" | "for_in_statement" => .loop
  | "switch_statement" | "catch_clause" => .fork
  | "ternary_expression" => .ternary
  | "binary_expression" => if hasOperator logicalOperators tree then .logical else .straight
  | _ => .straight

def isElse (tree : Tree) : Bool := tree.kind == "else_clause"

def nestingKinds : List String := [
  "if_statement", "while_statement", "do_statement", "for_statement", "for_in_statement",
  "switch_statement", "try_statement", "catch_clause"]

def nests (tree : Tree) : Bool := nestingKinds.contains tree.kind

section Counting
variable {α : Type} [Add α] [OfNat α 0] [OfNat α 1]

/-- A fork costs its depth alone, a logical operator one whatever its depth. -/
def Flow.cost (level : α) : Flow → α
  | .conditional | .loop | .ternary => 1 + level
  | .fork => level
  | .logical => 1
  | .straight => 0

/-- The level inside. -/
def Flow.inside (level : α) : Flow → α
  | .conditional | .loop | .fork => level + 1
  | .ternary | .logical | .straight => level

mutual
/-- The cost of a tree that stands at a level of nesting. Each `else` of a conditional costs one
more. -/
def cognitive (level : α) : Tree → α
  | .node label children =>
    let flow := flow (.node label children)
    flow.cost level + cognitiveEach (flow == .conditional) (flow.inside level) children

def cognitiveEach (elses : Bool) (level : α) : List Tree → α
  | [] => 0
  | child :: rest =>
    one (elses && isElse child) + cognitive level child + cognitiveEach elses level rest
end

variable [Max α]

mutual
/-- The greatest number of nested constructs on a path down, added to a starting depth. -/
def maxNesting (depth : α) : Tree → α
  | .node label children =>
    maxNestingEach (if nests (.node label children) then depth + 1 else depth) children

def maxNestingEach (depth : α) : List Tree → α
  | [] => depth
  | child :: rest => max (maxNesting depth child) (maxNestingEach depth rest)
end

end Counting
end CodeMetrics.JavaScript
