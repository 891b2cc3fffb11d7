import CodeMetrics.Proofs.Scopes

/-!
What the rules of an analyzer decide. Apart from decisions, which are always branches, each sort of
branch has one rule. A cyclomatic figure is therefore a sum of counts that depend on the tree alone,
of which the rules choose some, and nothing else in a report depends on the rules.
-/

namespace CodeMetrics

/-- The report on a function with the figure that counts branches struck out. -/
def FunctionReport.withoutBranches (report : FunctionReport) : FunctionReport :=
  { report with cyclomatic := 0 }

/-- A report with all figures that count branches struck out. -/
def ModuleReport.withoutBranches (report : ModuleReport) : ModuleReport :=
  { report with
    aggregate := { report.aggregate with cyclomatic := 0, cyclomaticDensity := 0.0 }
    functions := report.functions.map FunctionReport.withoutBranches }

namespace JavaScript

def decisionKinds : List String := [
  "if_statement", "ternary_expression", "while_statement", "do_statement", "for_statement"]

/-- The sorts of branches, told by the kind of a node and by what it holds. A loop over values, which
holds the word `of`, is a decision, while one over keys is a sort of its own. -/
def isBranch : Branch → Tree → Bool
  | .decision, tree =>
    decisionKinds.contains tree.kind ||
      (tree.kind == "for_in_statement" && tree.children.any fun child => child.kind == "of")
  | .logical, tree =>
    (tree.kind == "binary_expression" &&
        (tree.field? "operator").any fun operator => ["&&", "||", "??"].contains operator.kind) ||
      (tree.kind == "augmented_assignment_expression" &&
        (tree.field? "operator").any fun operator => ["&&=", "||=", "??="].contains operator.kind)
  | .switchCase, tree => tree.kind == "switch_case"
  | .forIn, tree =>
    tree.kind == "for_in_statement" && tree.children.all fun child => child.kind != "of"
  | .catchClause, tree => tree.kind == "catch_clause"

theorem branch?_eq_some_iff (sort : Branch) (tree : Tree) :
    branch? tree = some sort ↔ isBranch sort tree = true := by
  have keys : (tree.children.all fun child => child.kind != "of") = !isForOf tree := by
    rw [isForOf, List.not_any_eq_all_not]
    rfl
  unfold branch?
  split
  -- A loop over keys or values is of one of two sorts, and two kinds are asked for their operator.
  case h_6 loop =>
    cases loops : isForOf tree <;> cases sort <;>
      simp_all [isBranch, decisionKinds, isForOf]
  case h_9 kind =>
    cases sort <;> simp [isBranch, decisionKinds, kind, hasOperator_eq, logicalOperators]
  case h_10 kind =>
    cases sort <;> simp [isBranch, decisionKinds, kind, hasOperator_eq, logicalAssignments]
  all_goals cases sort <;> simp_all [isBranch, decisionKinds]

theorem branchWeight_eq (rules : BranchRules) (tree : Tree) :
    branchWeight rules tree = one (isBranch .decision tree) +
      (if rules.logicalor then one (isBranch .logical tree) else 0) +
      (if rules.switchcase then one (isBranch .switchCase tree) else 0) +
      (if rules.forin then one (isBranch .forIn tree) else 0) +
      (if rules.trycatch then one (isBranch .catchClause tree) else 0) := by
  have sorts (sort : Branch) : isBranch sort tree = (branch? tree == some sort) := by
    rw [Bool.eq_iff_iff, ← branch?_eq_some_iff, beq_iff_eq]
  simp only [sorts, branchWeight, branches]
  cases branch? tree with
  | none => simp [one]
  | some sort => cases sort <;> simp only [Option.any_some, BranchRules.counts] <;> simp [one]

section Nodes
variable (weight : Tree → Nat)

/-- The nodes below a tree that its figures count: all of them, or those around which there is no
function but the tree itself. -/
def counted (enter : Bool) (root : Tree) : List Tree :=
  (root.sites.tail.filter fun site => enter || (enclosing? root site.1).all List.isEmpty).map
    Prod.snd

mutual
theorem total_sites (tree : Tree) :
    total (fun site => weight site.2) tree.sites = weight tree + sumScope true weight tree := by
  cases tree with
  | node label children => rw [Tree.sites, total, sumScope, total_sitesFrom 0 children]

theorem total_sitesFrom (index : Nat) (children : List Tree) :
    total (fun site => weight site.2) (Tree.sitesFrom index children) =
      sumScopes true weight children := by
  cases children with
  | nil => rfl
  | cons child rest =>
      rw [Tree.sitesFrom, total_append, total_map, total_sites child,
        total_sitesFrom (index + 1) rest, sumScopes, Bool.true_or, if_pos rfl]
end

/-- The nodes in a child around which there is no function but perhaps the root are those of the
child's outer scope. -/
theorem total_counted_child {root child : Tree} {index : Nat}
    (found : root.children[index]? = some child) :
    total (fun site => weight site.2) ((Tree.sitesBelow (child, index)).filter fun site =>
        (enclosing? root site.1).all List.isEmpty) =
      total weight (scope child none) := by
  have nearest (inner : Option (List Nat)) : ((inner.map (index :: ·)).or
      (if isFunction root then some [] else none)).all List.isEmpty = decide (inner = none) := by
    cases inner <;> cases isFunction root <;> rfl
  rw [Tree.sitesBelow, List.filter_map, total_map, scope, total_map]
  simp only [Function.comp_def, enclosing?_cons found, nearest]

theorem total_counted (enter : Bool) (tree : Tree) :
    total weight (counted enter tree) = sumScope enter weight tree := by
  rw [counted, total_map]
  cases enter with
  | true =>
      have whole := total_sites weight tree
      rw [Tree.sites_eq, total] at whole
      simp only [Bool.true_or, List.filter_true, Tree.sites_eq, List.tail_cons]
      exact Nat.add_left_cancel whole
  | false =>
      simp only [Bool.false_or, Tree.sites_eq, List.tail_cons]
      rw [List.filter_flatMap, total_flatMap]
      calc total (fun entry => total (fun site => weight site.2) ((Tree.sitesBelow entry).filter
              fun site => (enclosing? tree site.1).all List.isEmpty)) tree.children.zipIdx
          = total (fun entry => total weight (scope entry.1 none)) tree.children.zipIdx := by
            apply total_congr
            rintro ⟨child, index⟩ member
            exact total_counted_child weight (List.mem_zipIdx_iff_getElem?.mp member)
        _ = total (fun child => total weight (scope child none)) tree.children :=
            total_zipIdx (fun child => total weight (scope child none)) tree.children 0
        _ = sumScopes false weight tree.children := total_scopes_none weight tree.children
        _ = sumScope false weight tree := by
            cases tree with
            | node label children => rfl

end Nodes

/-- How many of the nodes that count are branches of a sort. -/
def branchCount (enter : Bool) (tree : Tree) (sort : Branch) : Nat :=
  tally (isBranch sort) (counted enter tree)

theorem cyclomatic_eq (rules : BranchRules) (enter : Bool) (tree : Tree) :
    cyclomatic rules enter tree = 1 + branchCount enter tree .decision +
      (if rules.logicalor then branchCount enter tree .logical else 0) +
      (if rules.switchcase then branchCount enter tree .switchCase else 0) +
      (if rules.forin then branchCount enter tree .forIn else 0) +
      (if rules.trycatch then branchCount enter tree .catchClause else 0) := by
  rw [cyclomatic, ← total_counted, funext (branchWeight_eq rules)]
  simp only [total_add, total_if, branchCount, tally, Nat.add_assoc]

/-! Reports under two sets of rules. -/
section Reports
variable (source : String) (rules others : BranchRules)

theorem functionReport_withoutBranches (above : Option Tree) (function : Tree) :
    (functionReport source rules above function).withoutBranches =
      (functionReport source others above function).withoutBranches := by
  simp only [functionReport, FunctionReport.withoutBranches]

mutual
theorem functionReports_withoutBranches (above : Option Tree) (tree : Tree) :
    (functionReports source rules above tree).map FunctionReport.withoutBranches =
      (functionReports source others above tree).map FunctionReport.withoutBranches := by
  cases tree with
  | node label children =>
      have below := functionReportsEach_withoutBranches (.node label children) children
      rw [functionReports, functionReports]
      by_cases reported : (label.named && isFunction (.node label children)) = true
      · rw [if_pos reported, if_pos reported, List.map_cons, List.map_cons, below,
          functionReport_withoutBranches source rules others]
      · rw [if_neg reported, if_neg reported, below]

theorem functionReportsEach_withoutBranches (above : Tree) (children : List Tree) :
    (functionReportsEach source rules above children).map FunctionReport.withoutBranches =
      (functionReportsEach source others above children).map FunctionReport.withoutBranches := by
  cases children with
  | nil => rfl
  | cons child rest =>
      rw [functionReportsEach, functionReportsEach, List.map_append, List.map_append,
        functionReports_withoutBranches (some above) child,
        functionReportsEach_withoutBranches above rest]
end

theorem total_params (reports : List FunctionReport) :
    total FunctionReport.params (reports.map FunctionReport.withoutBranches) =
      total FunctionReport.params reports :=
  total_map FunctionReport.params FunctionReport.withoutBranches reports

theorem moduleReport_withoutBranches (program : Program) :
    (moduleReport program rules).withoutBranches =
      (moduleReport program others).withoutBranches := by
  have same := functionReports_withoutBranches program.source rules others none program.root
  have params := congrArg (total FunctionReport.params) same
  rw [total_params, total_params] at params
  simp only [moduleReport, moduleAggregate, ModuleReport.withoutBranches, same, params]

end Reports

/-- A cyclomatic figure is one more than its decisions and the branches that the rules choose,
whichever nodes it counts. Under any two sets of rules and options a program is refused alike, or
its reports differ in nothing but these figures and not at all under rules that come to the same. -/
theorem rules_choose_branches (program : Program) (rules others : BranchRules)
    (options further : Options) :
    (∀ enter tree, cyclomatic rules enter tree = 1 + branchCount enter tree .decision +
        (if rules.logicalor then branchCount enter tree .logical else 0) +
        (if rules.switchcase then branchCount enter tree .switchCase else 0) +
        (if rules.forin then branchCount enter tree .forIn else 0) +
        (if rules.trycatch then branchCount enter tree .catchClause else 0)) ∧
    (∀ enter tree, (cyclomatic rules enter tree : UInt32) =
        (cyclomatic rules enter tree : Nat).toUInt32) ∧
    (analyze rules program options).map ModuleReport.withoutBranches =
      (analyze others program further).map ModuleReport.withoutBranches ∧
    (rules.overriddenBy options = others.overriddenBy further →
      analyze rules program options = analyze others program further) := by
  refine ⟨cyclomatic_eq rules, cyclomatic_toWord rules, ?_, ?_⟩
  · unfold analyze
    by_cases damaged : program.root.label.damaged = true
    · rw [if_pos damaged, if_pos damaged]
    · rw [if_neg damaged, if_neg damaged]
      exact congrArg Except.ok (moduleReport_withoutBranches _ _ program)
  · intro same
    rw [analyze, analyze, same]

/-- Loops over values and over keys, a case, a handler with a conditional in it, and operators of
which all but the last are logical. -/
def loopSample : Program where
  source := ""
  root := sampleNode "program" [
    sampleNode "for_in_statement" [sampleNode "of" []],
    sampleNode "for_in_statement" [],
    sampleNode "switch_case" [],
    sampleNode "catch_clause" [sampleNode "if_statement" []],
    sampleNode "binary_expression" [sign "&&" 0 ["operator"]],
    sampleNode "augmented_assignment_expression" [sign "??=" 0 ["operator"]],
    sampleNode "binary_expression" [sign "+" 0 ["operator"]]]

theorem rules_choose_branches_loopSample :
    [Branch.decision, .logical, .switchCase, .forIn, .catchClause].map
      (branchCount true loopSample.root) = [2, 2, 1, 1, 1] ∧
    cyclomatic { forin := true } true loopSample.root = 7 ∧
    analyze { forin := true } loopSample
        ((Options.empty.insert "switchcase" (.string "no")).insert "logicalor" (.bool false)) =
      analyze { logicalor := false } loopSample (Options.empty.insert "forin" (.bool true)) := by
  have chosen := rules_choose_branches loopSample { forin := true } { logicalor := false }
    ((Options.empty.insert "switchcase" (.string "no")).insert "logicalor" (.bool false))
    (Options.empty.insert "forin" (.bool true))
  exact ⟨by decide, (chosen.1 true loopSample.root).trans (by decide), chosen.2.2.2 (by decide)⟩

end JavaScript
end CodeMetrics
