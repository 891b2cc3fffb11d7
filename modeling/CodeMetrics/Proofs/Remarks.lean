import CodeMetrics.Proofs.Removal
import CodeMetrics.Proofs.Sizes

/-!
Comments and the figures of a program. Wherever a comment stands as a leaf that fills no field, it is
no construct, no parameter and no part by which a construct is told, so leaving out any of them leaves
the figures of the module and the reports on all of its functions as they are.
-/

namespace CodeMetrics.JavaScript

/-- A comment that is a leaf and fills no field. -/
def isRemark (tree : Tree) : Bool :=
  tree.kind == "comment" && tree.children.isEmpty && tree.label.fields.isEmpty

/-! Leaving out a choice of comments by their addresses leaves a tree without some remarks. -/

theorem isRemark_comment {tree : Tree} (isOne : isComment tree = true) : isRemark tree = true := by
  simp only [isComment, isRemark, Bool.and_eq_true] at isOne ⊢
  exact ⟨⟨isOne.1.1.1, isOne.1.2⟩, isOne.2⟩

mutual
theorem without_uncommented (chosen : List Nat → Bool) (tree : Tree) :
    Without isRemark tree (uncommented chosen tree) := by
  cases tree with
  | node label children => exact .node (shortened_uncommented chosen 0 children)

theorem shortened_uncommented (chosen : List Nat → Bool) (index : Nat) (children : List Tree) :
    Shortened isRemark (Without isRemark) children (uncommentedFrom chosen index children) := by
  cases children with
  | nil => exact .nil
  | cons child rest =>
      have later := shortened_uncommented chosen (index + 1) rest
      rw [uncommentedFrom]
      by_cases out : isLeftOut chosen (child, index) = true
      · rw [if_pos out]
        exact .missing (isRemark_comment (Bool.and_eq_true_iff.mp out).1) later
      · rw [if_neg out]
        exact .kept (without_uncommented (inside chosen index) child) later
end

/-! What a remark is not. -/
section Remark
variable {remark : Tree} (isOne : isRemark remark = true)
include isOne

theorem kind_remark : remark.kind = "comment" := by
  simp only [isRemark, Bool.and_eq_true, beq_iff_eq] at isOne
  exact isOne.1.1

theorem children_remark : remark.children = [] := by
  simp only [isRemark, Bool.and_eq_true, List.isEmpty_iff] at isOne
  exact isOne.1.2

theorem fills_remark (field : String) : remark.fills field = false := by
  simp only [isRemark, Bool.and_eq_true, List.isEmpty_iff] at isOne
  rw [Tree.fills, isOne.2]
  rfl

theorem isFunction_remark : isFunction remark = false := by
  rw [isFunction, kind_remark isOne]
  decide

theorem isStatement_remark : isStatement remark = false := by
  rw [isStatement, kind_remark isOne]
  decide

theorem branches_remark (rules : BranchRules) : branches rules remark = false := by
  simp [branches, branch?, kind_remark isOne]

theorem isParameter_remark : isParameter remark = false := by
  simp [isParameter, kind_remark isOne]

theorem isElse_remark : isElse remark = false := by
  simp [isElse, kind_remark isOne]

theorem nests_remark : nests remark = false := by
  rw [nests, kind_remark isOne]
  decide

theorem maxNesting_remark (depth : UInt32) : maxNesting depth remark = depth := by
  have leaf := children_remark isOne
  have flat := nests_remark isOne
  cases remark with
  | node label children =>
      obtain rfl : children = [] := leaf
      rw [maxNesting, flat]
      rfl

theorem sumScope_remark (enter : Bool) (weight : Tree → Nat) :
    sumScope enter weight remark = 0 := by
  have leaf := children_remark isOne
  cases remark with
  | node label children =>
      obtain rfl : children = [] := leaf
      rfl

theorem cognitive_remark (level : Nat) : cognitive level remark = 0 := by
  rw [cognitive_node, children_remark isOne]
  simp [ownCost, weighs, deepens, isLogical, kind_remark isOne, chargedKinds, deepeningKinds, one,
    total]

end Remark

/-! Figures from a node to its children. -/

theorem sumScopes_eq (enter : Bool) (weight : Tree → Nat) (children : List Tree) :
    sumScopes enter weight children = total (fun child => weight child +
      if enter || !isFunction child then sumScope enter weight child else 0) children := by
  induction children with
  | nil => rfl
  | cons child rest ih => rw [sumScopes, total, ih]

theorem sumScope_node (enter : Bool) (weight : Tree → Nat) (tree : Tree) :
    sumScope enter weight tree = total (fun child => weight child +
      if enter || !isFunction child then sumScope enter weight child else 0) tree.children := by
  cases tree with
  | node label children => exact sumScopes_eq enter weight children

theorem maxNesting_word_node (depth : UInt32) (tree : Tree) :
    maxNesting depth tree =
      maxNestingEach (if nests tree then depth + 1 else depth) tree.children := by
  cases tree with
  | node label children => rfl

theorem le_maxNestingEach_word (depth : UInt32) (children : List Tree) :
    depth ≤ maxNestingEach depth children := by
  have small := depth.toNat_lt
  have deep := le_maxNestingEach depth.toNat children
  have word := maxNestingEach_saturates small children
  rw [show depth.toNat.toUInt32 = depth from UInt32.ofNat_toNat] at word
  rw [UInt32.le_iff_toNat_le]
  omega

theorem functionReports_node (source : String) (rules : BranchRules) (above : Option Tree)
    (tree : Tree) :
    functionReports source rules above tree =
      (if tree.label.named && isFunction tree then [functionReport source rules above tree]
      else []) ++ functionReportsEach source rules tree tree.children := by
  cases tree with
  | node label children =>
      rw [functionReports, Tree.label, Tree.children]
      by_cases reported : (label.named && isFunction (.node label children)) = true
      · rw [if_pos reported, if_pos reported]
        rfl
      · rw [if_neg reported, if_neg reported]
        rfl

theorem functionReports_remark {remark : Tree} (isOne : isRemark remark = true) (source : String)
    (rules : BranchRules) (above : Option Tree) :
    functionReports source rules above remark = [] := by
  rw [functionReports_node, isFunction_remark isOne, children_remark isOne, Bool.and_false]
  rfl

/-! Lists of children without some remarks. -/

theorem maxNestingEach_shortened {children others : List Tree}
    (shortened : Shortened isRemark (fun child other => Without isRemark child other ∧
      ∀ depth : UInt32, maxNesting depth other = maxNesting depth child) children others)
    (depth : UInt32) : maxNestingEach depth others = maxNestingEach depth children := by
  induction shortened with
  | nil => rfl
  | kept here _ ih => rw [maxNestingEach, maxNestingEach, here.2, ih]
  | @missing remark children _ isOne _ ih =>
      -- A remark is no deeper than the list in which it stands.
      have deeper := le_maxNestingEach_word depth children
      rw [maxNestingEach, maxNesting_remark isOne, ih]
      exact (if_pos deeper).symm

/-- The reports on the functions in a tree, below nodes that are told alike. -/
def SameReports (source : String) (rules : BranchRules) (whole rest : Tree) : Prop :=
  ∀ above other, Option.Rel (Without isRemark) above other →
    functionReports source rules other rest = functionReports source rules above whole

theorem functionReportsEach_shortened {source : String} {rules : BranchRules} {above other : Tree}
    {children others : List Tree} (outer : Without isRemark above other)
    (shortened : Shortened isRemark (fun child other => Without isRemark child other ∧
      SameReports source rules child other) children others) :
    functionReportsEach source rules other others =
      functionReportsEach source rules above children := by
  induction shortened with
  | nil => rfl
  | kept here _ ih =>
      rw [functionReportsEach, functionReportsEach, ih, here.2 _ _ (.some outer)]
  | missing isOne _ ih =>
      rw [functionReportsEach, functionReports_remark isOne, List.nil_append, ih]

theorem bind_rel {β : Type} {replaces : Tree → Tree → Prop} {left right : Option Tree}
    {find? : Tree → Option β} (related : Option.Rel replaces left right)
    (same : ∀ {child other}, replaces child other → find? other = find? child) :
    right.bind find? = left.bind find? := by
  cases related with
  | none => rfl
  | some here => exact same here

/-! Trees without some remarks, and what they are told by. -/
section Pruned
variable {whole rest : Tree} (pruned : Without isRemark whole rest)
include pruned

theorem field?_pruned (name : String) :
    Option.Rel (Without isRemark) (whole.field? name) (rest.field? name) :=
  pruned.field? (fun field isOne => fills_remark isOne field) name

theorem hasOperator_pruned (operators : List String) :
    hasOperator operators rest = hasOperator operators whole := by
  have found := field?_pruned pruned "operator"
  rw [hasOperator, hasOperator]
  generalize whole.field? "operator" = left at found ⊢
  generalize rest.field? "operator" = right at found ⊢
  cases found with
  | none => rfl
  | some here => exact congrArg operators.contains here.kind

theorem isForOf_pruned : isForOf rest = isForOf whole := by
  apply pruned.children.any_eq
  · intro child other inner
    rw [inner.kind]
  · intro remark isOne
    simp [kind_remark isOne]

theorem branch?_pruned : branch? rest = branch? whole := by
  unfold branch?
  rw [pruned.kind, isForOf_pruned pruned, hasOperator_pruned pruned, hasOperator_pruned pruned]

theorem isFunction_pruned : isFunction rest = isFunction whole := by
  rw [isFunction, isFunction, pruned.kind]

theorem isLogical_pruned : isLogical rest = isLogical whole := by
  by_cases kind : whole.kind = "binary_expression"
  · rw [isLogical_eq kind, isLogical_eq (pruned.kind.trans kind), hasOperator_pruned pruned]
  · have other : (whole.kind == "binary_expression") = false := beq_eq_false_iff_ne.mpr kind
    rw [isLogical, isLogical, pruned.kind, other, Bool.false_and, Bool.false_and]

/-! Figures. -/

theorem sumScope_pruned (enter : Bool) {weight : Tree → Nat}
    (same : ∀ {child other}, Without isRemark child other → weight other = weight child)
    (nothing : ∀ {remark}, isRemark remark = true → weight remark = 0) :
    sumScope enter weight rest = sumScope enter weight whole := by
  refine Without.induction ?_ pruned
  intro whole rest _ inside
  rw [sumScope_node, sumScope_node]
  apply inside.total_eq
  · intro child other inner
    rw [same inner.1, isFunction_pruned inner.1, inner.2]
  · intro remark isOne
    rw [nothing isOne, sumScope_remark isOne, ite_self]

theorem logicalLines_pruned (enter : Bool) :
    (logicalLines enter rest : UInt32) = logicalLines enter whole := by
  rw [logicalLines_toWord, logicalLines_toWord]
  apply congrArg Nat.toUInt32
  apply sumScope_pruned pruned
  · intro child other inner
    rw [isStatement, isStatement, inner.kind]
  · intro remark isOne
    rw [isStatement_remark isOne]
    rfl

theorem cyclomatic_pruned (rules : BranchRules) (enter : Bool) :
    (cyclomatic rules enter rest : UInt32) = cyclomatic rules enter whole := by
  rw [cyclomatic_toWord, cyclomatic_toWord]
  apply congrArg fun count : Nat => (1 + count).toUInt32
  apply sumScope_pruned pruned
  · intro child other inner
    rw [branchWeight, branchWeight, branches, branches, branch?_pruned inner]
  · intro remark isOne
    rw [branchWeight, branches_remark isOne]
    rfl

theorem ownCost_pruned : ownCost rest = ownCost whole := by
  have elses : (tally isElse rest.children : Nat) = tally isElse whole.children := by
    apply pruned.children.total_eq
    · intro child other inner
      rw [isElse, isElse, inner.kind]
    · intro remark isOne
      rw [isElse_remark isOne]
      rfl
  rw [ownCost, ownCost, isLogical_pruned pruned, pruned.kind, elses]

theorem cognitive_pruned_eq : ∀ level : Nat, cognitive level rest = cognitive level whole := by
  refine Without.induction ?_ pruned
  intro whole rest outer inside level
  rw [cognitive_node, cognitive_node, ownCost_pruned outer, weighs, weighs, deepens, deepens,
    outer.kind]
  apply congrArg
  apply inside.total_eq
  · intro child other inner
    exact inner.2 _
  · intro remark isOne
    exact cognitive_remark isOne _

theorem cognitive_pruned : (cognitive 0 rest : UInt32) = cognitive 0 whole := by
  have words (tree : Tree) : (cognitive 0 tree : UInt32) = (cognitive 0 tree : Nat).toUInt32 :=
    cognitive_toWord 0 tree
  rw [words, words, cognitive_pruned_eq pruned]

theorem maxNesting_pruned : ∀ depth : UInt32, maxNesting depth rest = maxNesting depth whole := by
  refine Without.induction ?_ pruned
  intro whole rest outer inside depth
  rw [maxNesting_word_node, maxNesting_word_node, nests, nests, outer.kind]
  exact maxNestingEach_shortened inside _

theorem parameterCount_pruned : (parameterCount rest : UInt32) = parameterCount whole := by
  have lists := field?_pruned pruned "parameters"
  have lone := field?_pruned pruned "parameter"
  rw [parameterCount_toWord, parameterCount_toWord, parameterCount, parameterCount]
  generalize whole.field? "parameters" = left at lists ⊢
  generalize rest.field? "parameters" = right at lists ⊢
  generalize whole.field? "parameter" = first at lone ⊢
  generalize rest.field? "parameter" = second at lone ⊢
  apply congrArg Nat.toUInt32
  cases lists with
  | none => cases lone <;> rfl
  | some list =>
      apply list.children.total_eq
      · intro child other inner
        rw [isParameter, isParameter, inner.label, inner.kind]
      · intro remark isOne
        rw [isParameter_remark isOne]
        rfl

/-! Reports. -/

theorem text?_pruned (source : String) : rest.text? source = whole.text? source := by
  rw [Tree.text?, Tree.text?, pruned.label]

theorem nameText?_pruned (source : String) :
    (rest.field? "name").bind (Tree.text? source) =
      (whole.field? "name").bind (Tree.text? source) :=
  bind_rel (field?_pruned pruned "name") fun inner => text?_pruned inner source

theorem functionName_pruned (source : String) {above other : Option Tree}
    (outer : Option.Rel (Without isRemark) above other) :
    functionName source other rest = functionName source above whole := by
  rw [functionName, functionName]
  simp only [nameText?_pruned pruned source]
  congr 2
  apply bind_rel outer
  intro child other inner
  simp only [inner.kind, nameText?_pruned inner source]

theorem functionReport_pruned (source : String) (rules : BranchRules)
    {above other : Option Tree} (outer : Option.Rel (Without isRemark) above other) :
    functionReport source rules other rest = functionReport source rules above whole := by
  rw [functionReport, functionReport]
  simp only [functionName_pruned pruned source outer, Tree.line, pruned.label,
    parameterCount_pruned pruned, logicalLines_pruned pruned, cyclomatic_pruned pruned,
    cognitive_pruned pruned, maxNesting_pruned pruned]

theorem functionReports_pruned (source : String) (rules : BranchRules) :
    SameReports source rules whole rest := by
  refine Without.induction ?_ pruned
  intro whole rest here inside above other outer
  rw [functionReports_node, functionReports_node, functionReport_pruned here source rules outer,
    here.label, isFunction_pruned here, functionReportsEach_shortened here inside]

theorem moduleAggregate_pruned (source : String) (rules : BranchRules)
    (functions : List FunctionReport) :
    moduleAggregate ⟨source, rest⟩ rules functions =
      moduleAggregate ⟨source, whole⟩ rules functions := by
  rw [moduleAggregate, moduleAggregate]
  simp only [physicalLines, pruned.label, logicalLines_pruned pruned, cyclomatic_pruned pruned,
    cognitive_pruned pruned, maxNesting_pruned pruned]

end Pruned

/-- Leaving out any of the comments in a program changes none of the reports on its functions and none
of its own figures, whatever the rules and options. -/
theorem figures_pruned {whole rest : Tree} (pruned : Without isRemark whole rest)
    (intact : whole.label.damaged = false) (source : String) (rules : BranchRules)
    (options : Options) :
    ∃ report other, analyze rules ⟨source, whole⟩ options = .ok report ∧
      analyze rules ⟨source, rest⟩ options = .ok other ∧
      other.functions = report.functions ∧ other.aggregate = report.aggregate := by
  have sound : rest.label.damaged = false := by rw [pruned.label, intact]
  have functions := functionReports_pruned pruned source (rules.overriddenBy options) none none .none
  refine ⟨_, _, if_neg (Bool.eq_false_iff.mp intact), if_neg (Bool.eq_false_iff.mp sound),
    functions, ?_⟩
  rw [moduleReport, moduleReport, functions]
  exact moduleAggregate_pruned pruned source _ _

/-- The declaration `const g = /* c */ (a /* none */) => a;`. -/
def remarkedSample : Program where
  source := "const g = /* c */ (a /* none */) => a;"
  root := spot "program" 0 38 [] [
    spot "lexical_declaration" 0 38 [] [
      sign "const" 0 ["kind"],
      spot "variable_declarator" 6 37 [] [
        spot "identifier" 6 7 ["name"] [],
        sign "=" 8 [],
        spot "comment" 10 17 [] [],
        spot "arrow_function" 18 37 ["value"] [
          spot "formal_parameters" 18 32 ["parameters"] [
            sign "(" 18 [], spot "identifier" 19 20 [] [], spot "comment" 21 31 [] [],
            sign ")" 31 []],
          sign "=>" 33 [],
          spot "identifier" 36 37 ["body"] []]],
      sign ";" 37 []]]

/-- The same declaration without its comments. -/
def unremarkedSample : Program where
  source := remarkedSample.source
  root := uncommented (fun _ => true) remarkedSample.root

theorem figures_pruned_remarkedSample :
    Without isRemark remarkedSample.root unremarkedSample.root ∧
    remarkedSample.root.sites.length = unremarkedSample.root.sites.length + 2 ∧
    ∃ report other, analyze {} remarkedSample .empty = .ok report ∧
      analyze {} unremarkedSample .empty = .ok other ∧
      (report.functions.map FunctionReport.name = ["g"] ∧
        report.functions.map FunctionReport.params = [1]) ∧
      other.functions = report.functions ∧ other.aggregate = report.aggregate := by
  have pruned : Without isRemark remarkedSample.root unremarkedSample.root :=
    without_uncommented _ _
  obtain ⟨report, other, analyzed, again, functions, aggregate⟩ :=
    figures_pruned pruned rfl remarkedSample.source {} .empty
  refine ⟨pruned, by decide, report, other, analyzed, again, ?_, functions, aggregate⟩
  obtain rfl := analyze_eq_ok analyzed
  exact ⟨by decide +kernel, by decide +kernel⟩

end CodeMetrics.JavaScript
