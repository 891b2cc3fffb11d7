import CodeMetrics.JavaScript.Analysis
import CodeMetrics.Proofs.Sites
import CodeMetrics.Proofs.Counting
import Mathlib.Data.List.Forall2

/-!
Scopes. A node belongs to the nearest function above it, or to the module when there is none. The
figures of a function count what belongs to it, so those of all functions together with those of
the module's own scope are the figures of the whole.
-/

namespace CodeMetrics.JavaScript

/-- The addresses above an address, from the nearest to the root. -/
def addressesAbove : List Nat → List (List Nat)
  | [] => []
  | index :: rest => (addressesAbove rest).map (index :: ·) ++ [[]]

/-- The nearest function above an address. -/
def enclosing? (root : Tree) (address : List Nat) : Option (List Nat) :=
  (addressesAbove address).find? fun above => (root.at? above).any isFunction

/-- The nodes that belong to a function, or to none. -/
def scope (root : Tree) (owner : Option (List Nat)) : List Tree :=
  (root.sites.filter fun site => enclosing? root site.1 = owner).map Prod.snd

/-- The functions with their addresses, each before those inside it. -/
def functionSites (root : Tree) : List (List Nat × Tree) :=
  root.sites.filter fun site => isFunction site.2

theorem enclosing?_cons {root child : Tree} {index : Nat}
    (found : root.children[index]? = some child) (rest : List Nat) :
    enclosing? root (index :: rest) =
      ((enclosing? child rest).map (index :: ·)).or
        (if isFunction root then some [] else none) := by
  have below (above : List Nat) :
      (root.at? (index :: above)).any isFunction = (child.at? above).any isFunction := by
    simp [Tree.at?, found]
  simp only [enclosing?, addressesAbove, List.find?_append, List.find?_map, Function.comp_def,
    below]
  cases function : isFunction root <;> simp [Tree.at?, function]

/-! Sums over scopes, from each node to its children. -/
section Sums
variable (weight : Tree → Nat)

/-- The part of a scope that lies in one child. -/
def childSum (root : Tree) (owner : Option (List Nat)) (entry : Tree × Nat) : Nat :=
  total (fun site => weight site.2)
    ((Tree.sitesBelow entry).filter fun site => enclosing? root site.1 = owner)

theorem total_scope (root : Tree) (owner : Option (List Nat)) :
    total weight (scope root owner) =
      (if owner = none then weight root else 0) +
        total (childSum weight root owner) root.children.zipIdx := by
  have below : total (fun site => weight site.2)
      ((root.children.zipIdx.flatMap Tree.sitesBelow).filter fun site =>
        enclosing? root site.1 = owner) =
      total (childSum weight root owner) root.children.zipIdx := by
    rw [List.filter_flatMap, total_flatMap]
    rfl
  have top : enclosing? root [] = none := rfl
  rw [scope, total_map, Tree.sites_eq]
  -- The root itself has nothing above it, so it belongs to no function.
  by_cases outer : owner = none
  · subst outer
    rw [List.filter_cons_of_pos (by simp [top]), total, if_pos rfl, below]
  · rw [List.filter_cons_of_neg (by simpa [top] using Ne.symm outer), if_neg outer, Nat.zero_add,
      below]

/-- What a child adds to the scope of an owner, told by the owner within the child. -/
theorem childSum_eq {root child : Tree} {index : Nat} (found : root.children[index]? = some child)
    {owner : Option (List Nat)} (belongs : Option (List Nat) → Bool)
    (owned : ∀ inner : Option (List Nat), (inner.map (index :: ·)).or
      (if isFunction root then some [] else none) = owner ↔ belongs inner = true) :
    childSum weight root owner (child, index) =
      total weight ((child.sites.filter fun site => belongs (enclosing? child site.1)).map
        Prod.snd) := by
  -- From above, an owner within the child has the index in front, and none becomes the root.
  rw [childSum, Tree.sitesBelow, List.filter_map, total_map, total_map]
  simp only [Function.comp_def, enclosing?_cons found, owned, Bool.decide_eq_true]

theorem childSum_outer {root child : Tree} {index : Nat}
    (found : root.children[index]? = some child) {owner : Option (List Nat)}
    (owned : owner = if isFunction root then some [] else none) :
    childSum weight root owner (child, index) = total weight (scope child none) := by
  have belongs (inner : Option (List Nat)) : (inner.map (index :: ·)).or
      (if isFunction root then some [] else none) = owner ↔ decide (inner = none) = true := by
    subst owned
    cases inner <;> cases isFunction root <;> simp
  rw [childSum_eq weight found _ belongs, scope]

theorem childSum_apart {root child : Tree} {index : Nat}
    (found : root.children[index]? = some child) (function : isFunction root = true) :
    childSum weight root none (child, index) = 0 := by
  have belongs (inner : Option (List Nat)) : (inner.map (index :: ·)).or
      (if isFunction root then some [] else none) = none ↔ false = true := by
    cases inner <;> simp [function]
  rw [childSum_eq weight found _ belongs]
  simp [total]

theorem childSum_inner {root child : Tree} {index : Nat}
    (found : root.children[index]? = some child) (place : Nat) (rest : List Nat) :
    childSum weight root (some (place :: rest)) (child, index) =
      if index = place then total weight (scope child (some rest)) else 0 := by
  have belongs (inner : Option (List Nat)) : (inner.map (index :: ·)).or
      (if isFunction root then some [] else none) = some (place :: rest) ↔
        decide (index = place ∧ inner = some rest) = true := by
    cases inner <;> cases isFunction root <;> simp
  rw [childSum_eq weight found _ belongs]
  by_cases here : index = place
  · simp [here, scope]
  · simp [here, total]

mutual
/-- The outer scope of a tree: the tree itself, and what it holds down to the functions. -/
theorem total_scope_none (tree : Tree) :
    total weight (scope tree none) =
      weight tree + if isFunction tree then 0 else sumScope false weight tree := by
  rw [total_scope, if_pos rfl]
  congr 1
  by_cases function : isFunction tree = true
  · -- All that a function holds is inside of it or of a function further down.
    rw [if_pos function]
    apply total_eq_zero
    rintro ⟨child, index⟩ member
    exact childSum_apart weight (List.mem_zipIdx_iff_getElem?.mp member) function
  · rw [if_neg function]
    have outer : total (childSum weight tree none) tree.children.zipIdx =
        total (fun child => total weight (scope child none)) tree.children := by
      rw [← total_zipIdx _ tree.children 0]
      apply total_congr
      rintro ⟨child, index⟩ member
      exact childSum_outer weight (List.mem_zipIdx_iff_getElem?.mp member) (by simp [function])
    rw [outer]
    cases tree with
    | node label children => exact total_scopes_none children

theorem total_scopes_none (children : List Tree) :
    total (fun child => total weight (scope child none)) children =
      sumScopes false weight children := by
  cases children with
  | nil => rfl
  | cons child rest =>
      rw [total, sumScopes, total_scope_none child, total_scopes_none rest]
      cases isFunction child <;> simp
end

/-- The scope of a function is what the function sums over. -/
theorem total_scope_function {root function : Tree} {address : List Nat}
    (reached : root.at? address = some function) (isOne : isFunction function = true) :
    total weight (scope root (some address)) = sumScope false weight function := by
  rw [total_scope, if_neg (by simp), Nat.zero_add]
  induction address generalizing root with
  | nil =>
      obtain rfl := Option.some.inj reached
      have outer : total (childSum weight root (some [])) root.children.zipIdx =
          total (fun child => total weight (scope child none)) root.children := by
        rw [← total_zipIdx _ root.children 0]
        apply total_congr
        rintro ⟨child, index⟩ member
        exact childSum_outer weight (List.mem_zipIdx_iff_getElem?.mp member) (by simp [isOne])
      rw [outer, total_scopes_none]
      cases root with
      | node label children => rfl
  | cons place rest ih =>
      rcases Option.bind_eq_some_iff.mp reached with ⟨child, found, below⟩
      -- Of the children only the one on the way to the function holds any of its scope.
      calc total (childSum weight root (some (place :: rest))) root.children.zipIdx
          = total (fun entry => if entry.2 = 0 + place then
              total weight (scope entry.1 (some rest)) else 0) root.children.zipIdx := by
            apply total_congr
            rintro ⟨child, index⟩ member
            rw [childSum_inner weight (List.mem_zipIdx_iff_getElem?.mp member), Nat.zero_add]
        _ = total weight (scope child (some rest)) :=
            total_zipIdx_at (fun child => total weight (scope child (some rest))) 0 found
        _ = sumScope false weight function := by
            rw [total_scope, if_neg (by simp), Nat.zero_add]
            exact ih below

end Sums

/-! The reported functions are the named function nodes, in order. -/
section Reports
variable (source : String) (rules : BranchRules)

def Reports (site : List Nat × Tree) (report : FunctionReport) : Prop :=
  ∃ above, report = functionReport source rules above site.2

def isReported (site : List Nat × Tree) : Bool := site.2.label.named && isFunction site.2

mutual
theorem functionReports_sites (above : Option Tree) (tree : Tree) :
    List.Forall₂ (Reports source rules) (tree.sites.filter isReported)
      (functionReports source rules above tree) := by
  cases tree with
  | node label children =>
      have below := functionReportsEach_sites 0 (.node label children) children
      have top : isReported ([], .node label children) =
        (label.named && isFunction (.node label children)) := rfl
      rw [Tree.sites, functionReports, List.filter_cons, top]
      by_cases reported : (label.named && isFunction (.node label children)) = true
      · rw [if_pos reported, if_pos reported]
        exact .cons ⟨above, rfl⟩ below
      · rw [if_neg reported, if_neg reported]
        exact below

theorem functionReportsEach_sites (index : Nat) (above : Tree) (children : List Tree) :
    List.Forall₂ (Reports source rules) ((Tree.sitesFrom index children).filter isReported)
      (functionReportsEach source rules above children) := by
  cases children with
  | nil => exact .nil
  | cons child rest =>
      rw [Tree.sitesFrom, functionReportsEach, List.filter_append, List.filter_map]
      apply List.rel_append
      · rw [List.forall₂_map_left_iff]
        exact functionReports_sites (some above) child
      · exact functionReportsEach_sites (index + 1) above rest
end

theorem functionSites_eq {root : Tree}
    (named : ∀ site ∈ root.sites, isFunction site.2 = true → site.2.label.named = true) :
    functionSites root = root.sites.filter isReported := by
  apply List.filter_congr
  intro site member
  have known := named site member
  cases function : isFunction site.2 with
  | false => simp [isReported, function]
  | true => simp [isReported, function, known function]

theorem total_forall₂ {β γ : Type} {left : β → UInt32} {right : γ → UInt32} {items : List β}
    {others : List γ}
    (same : List.Forall₂ (fun item other => right other = left item) items others) :
    total right others = total left items := by
  induction same with
  | nil => rfl
  | cons first _ ih => rw [total, total, first, ih]

end Reports

/-! Going into functions adds what each of them sums over. -/
section Nested
variable (weight : Tree → Nat)

/-- What the function at a site sums over. -/
def scopeSum (site : List Nat × Tree) : Nat := sumScope false weight site.2

mutual
theorem sumScope_enter (tree : Tree) :
    sumScope true weight tree + (if isFunction tree then sumScope false weight tree else 0) =
      sumScope false weight tree + total (scopeSum weight) (functionSites tree) := by
  cases tree with
  | node label children =>
      have inside := sumScopes_enter 0 children
      rw [functionSites, Tree.sites, sumScope, sumScope, List.filter_cons]
      by_cases function : isFunction (.node label children) = true
      · rw [if_pos function, if_pos function, total, scopeSum, sumScope]
        omega
      · rw [if_neg function, if_neg function]
        omega

theorem sumScopes_enter (index : Nat) (children : List Tree) :
    sumScopes true weight children = sumScopes false weight children +
      total (scopeSum weight)
        ((Tree.sitesFrom index children).filter fun site => isFunction site.2) := by
  cases children with
  | nil => rfl
  | cons child rest =>
      have first := sumScope_enter child
      have others := sumScopes_enter (index + 1) rest
      have same : total (scopeSum weight)
          ((child.sites.map fun site => (index :: site.1, site.2)).filter
            fun site => isFunction site.2) = total (scopeSum weight) (functionSites child) := by
        rw [List.filter_map, total_map]
        rfl
      rw [Tree.sitesFrom, List.filter_append, total_append, same, sumScopes, sumScopes, others]
      -- A function is left out of the outer sum, and is then the first of its own sites.
      by_cases function : isFunction child = true
      · rw [if_pos function] at first
        rw [if_pos (by simp), if_neg (by simp [function])]
        omega
      · rw [if_neg function] at first
        rw [if_pos (by simp), if_pos (by simp [function])]
        omega
end

end Nested

/-! What is reported of a program in which every function has a name as a kind of node. -/
section Shares
variable (program : Program) (rules : BranchRules)

theorem report_own {root function : Tree} {address : List Nat} {source : String}
    {report : FunctionReport} (reached : root.at? address = some function)
    (isOne : isFunction function = true)
    (reports : Reports source rules (address, function) report) :
    report.cyclomatic =
        (1 + total (branchWeight rules) (scope root (some address))).toUInt32 ∧
      report.sloc.logical = (tally isStatement (scope root (some address))).toUInt32 := by
  rcases reports with ⟨above, rfl⟩
  rw [tally, total_scope_function _ reached isOne, total_scope_function _ reached isOne]
  constructor
  · exact cyclomatic_toWord rules false function
  · exact logicalLines_toWord false function

theorem reports_own
    (named : ∀ site ∈ program.root.sites, isFunction site.2 = true → site.2.label.named = true) :
    List.Forall₂ (fun site report => Reports program.source rules site report ∧
        report.cyclomatic =
          (1 + total (branchWeight rules) (scope program.root (some site.1))).toUInt32 ∧
        report.sloc.logical = (tally isStatement (scope program.root (some site.1))).toUInt32)
      (functionSites program.root) (moduleReport program rules).functions := by
  have reported := functionReports_sites program.source rules none program.root
  rw [← functionSites_eq named] at reported
  have members (site : List Nat × Tree) (member : site ∈ functionSites program.root) :
      program.root.at? site.1 = some site.2 ∧ isFunction site.2 = true := by
    rcases List.mem_filter.mp member with ⟨member, isOne⟩
    exact ⟨Tree.mem_sites.mp member, isOne⟩
  have both := (List.forall₂_and_left _ _).mpr ⟨members, reported⟩
  apply both.imp
  rintro ⟨address, function⟩ report ⟨⟨reached, isOne⟩, reports⟩
  exact ⟨reports, report_own rules reached isOne reports⟩

/-- The figure of a whole tree is that of its outer scope and those of all functions together. -/
theorem sumScope_shared {weight : Tree → Nat} {root : Tree} (outside : isFunction root = false) :
    sumScope true weight root =
      sumScope false weight root + total (scopeSum weight) (functionSites root) := by
  have entered := sumScope_enter weight root
  rw [if_neg (by simp [outside])] at entered
  exact entered

theorem sumScope_reported {weight : Tree → Nat} {root : Tree} {figure : FunctionReport → UInt32}
    {reports : List FunctionReport} (outside : isFunction root = false)
    (reported : List.Forall₂ (fun site report => figure report = (scopeSum weight site).toUInt32)
      (functionSites root) reports) :
    (sumScope true weight root).toUInt32 =
      (sumScope false weight root).toUInt32 + total figure reports := by
  rw [total_forall₂ reported, total_toWord, ← toWord_add, sumScope_shared outside]

/-- The scopes share out a program: the figures of a function are those of its own scope, and what
the functions count and what lies outside them all adds up to the figures of the whole. -/
theorem scopes_partition (outside : isFunction program.root = false)
    (named : ∀ site ∈ program.root.sites, isFunction site.2 = true → site.2.label.named = true) :
    List.Forall₂ (fun site report => Reports program.source rules site report ∧
        report.cyclomatic =
          (1 + total (branchWeight rules) (scope program.root (some site.1))).toUInt32 ∧
        report.sloc.logical = (tally isStatement (scope program.root (some site.1))).toUInt32)
      (functionSites program.root) (moduleReport program rules).functions ∧
    (moduleReport program rules).aggregate.cyclomatic - 1 =
      (cyclomatic rules false program.root - 1) +
        total (fun report => report.cyclomatic - 1) (moduleReport program rules).functions ∧
    (moduleReport program rules).aggregate.sloc.logical =
      logicalLines false program.root +
        total (fun report => report.sloc.logical) (moduleReport program rules).functions := by
  have own := reports_own program rules named
  -- Each report gives its function's sum in words; the sums themselves add up in natural numbers.
  have branching : List.Forall₂ (fun site report => report.cyclomatic - 1 =
      (scopeSum (branchWeight rules) site).toUInt32)
      (functionSites program.root) (moduleReport program rules).functions := by
    apply own.imp
    rintro site report ⟨⟨above, rfl⟩, -, -⟩
    exact (congrArg (· - 1) (cyclomatic_toWord rules false site.2)).trans (toWord_succ_sub_one _)
  have counting : List.Forall₂ (fun site report => report.sloc.logical =
      (scopeSum (fun node => one (isStatement node)) site).toUInt32)
      (functionSites program.root) (moduleReport program rules).functions := by
    apply own.imp
    rintro site report ⟨⟨above, rfl⟩, -, -⟩
    exact logicalLines_toWord false site.2
  refine ⟨own, ?_, ?_⟩
  · have whole (enter : Bool) : cyclomatic rules enter program.root - 1 =
        (sumScope enter (branchWeight rules) program.root).toUInt32 := by
      rw [cyclomatic_toWord]
      exact toWord_succ_sub_one _
    rw [whole false, ← sumScope_reported outside branching]
    exact whole true
  · rw [logicalLines_toWord]
    rw [logicalLines, ← sumScope_reported outside counting]
    exact logicalLines_toWord true program.root

def sampleNode (kind : String) (children : List Tree) : Tree := spot kind 0 0 [] children

/-- Conditionals inside and outside of a function that holds another one. -/
def nestedSample : Program where
  source := ""
  root := sampleNode "program" [
    sampleNode "if_statement" [],
    sampleNode "function_declaration" [
      sampleNode "if_statement" [sampleNode "ternary_expression" []],
      sampleNode "arrow_function" [sampleNode "return_statement" []]]]

theorem scopes_partition_nestedSample :
    functionSites nestedSample.root = [
      ([1], sampleNode "function_declaration" [
        sampleNode "if_statement" [sampleNode "ternary_expression" []],
        sampleNode "arrow_function" [sampleNode "return_statement" []]]),
      ([1, 1], sampleNode "arrow_function" [sampleNode "return_statement" []])] ∧
    scope nestedSample.root (some [1]) = [
      sampleNode "if_statement" [sampleNode "ternary_expression" []],
      sampleNode "ternary_expression" [],
      sampleNode "arrow_function" [sampleNode "return_statement" []]] ∧
    (moduleReport nestedSample {}).functions.map (fun report => report.cyclomatic) = [3, 1] ∧
    (moduleReport nestedSample {}).aggregate.cyclomatic - 1 =
      (cyclomatic {} false nestedSample.root - 1) +
        total (fun report => report.cyclomatic - 1) (moduleReport nestedSample {}).functions ∧
    (moduleReport nestedSample {}).aggregate.sloc.logical =
      logicalLines false nestedSample.root +
        total (fun report => report.sloc.logical) (moduleReport nestedSample {}).functions := by
  have partition := scopes_partition nestedSample {} (by decide) (by decide)
  exact ⟨rfl, rfl, by decide, partition.2⟩

end Shares

end CodeMetrics.JavaScript
