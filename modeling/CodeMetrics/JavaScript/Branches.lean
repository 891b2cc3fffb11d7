import CodeMetrics.JavaScript.Kinds
import CodeMetrics.Options
/-!
Cyclomatic complexity: one more than the number of branches. Which constructs besides conditionals,
loops over a condition and loops over values are branches is a matter of rules.
-/
namespace CodeMetrics.JavaScript

structure BranchRules where
  logicalor : Bool := true
  switchcase : Bool := true
  forin : Bool := false
  trycatch : Bool := false
  deriving DecidableEq, Inhabited

/-- A truth value among the options goes before the rule of the same name. -/
def BranchRules.overriddenBy (rules : BranchRules) (options : Options) : BranchRules where
  logicalor := (options.bool? "logicalor").getD rules.logicalor
  switchcase := (options.bool? "switchcase").getD rules.switchcase
  forin := (options.bool? "forin").getD rules.forin
  trycatch := (options.bool? "trycatch").getD rules.trycatch

inductive Branch where
  | decision
  | logical
  | switchCase
  | forIn
  | catchClause
  deriving DecidableEq

def BranchRules.counts (rules : BranchRules) : Branch → Bool
  | .decision => true
  | .logical => rules.logicalor
  | .switchCase => rules.switchcase
  | .forIn => rules.forin
  | .catchClause => rules.trycatch

def isForOf (tree : Tree) : Bool := tree.children.any fun child => child.kind == "of"

def branch? (tree : Tree) : Option Branch :=
  match tree.kind with
  | "if_statement" | "ternary_expression" => some .decision
  | "while_statement" | "do_statement" | "for_statement" => some .decision
  | "for_in_statement" => some (if isForOf tree then .decision else .forIn)
  | "switch_case" => some .switchCase
  | "catch_clause" => some .catchClause
  | "binary_expression" => if hasOperator logicalOperators tree then some .logical else none
  | "augmented_assignment_expression" =>
    if hasOperator logicalAssignments tree then some .logical else none
  | _ => none

def branches (rules : BranchRules) (tree : Tree) : Bool := (branch? tree).any rules.counts

section Counting
variable {α : Type} [Add α] [OfNat α 0] [OfNat α 1]

def branchWeight (rules : BranchRules) (tree : Tree) : α := one (branches rules tree)

def cyclomatic (rules : BranchRules) (enter : Bool) (tree : Tree) : α :=
  1 + sumScope enter (branchWeight rules) tree

end Counting
end CodeMetrics.JavaScript
