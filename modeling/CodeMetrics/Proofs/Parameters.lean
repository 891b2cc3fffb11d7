import CodeMetrics.ProjectMetrics
import CodeMetrics.Proofs.Removal
import CodeMetrics.Proofs.Sizes

/-!
Parameters beside comments. There are two kinds of comments, and either may stand anywhere in a list
of parameters. Those of one kind are passed over, those of the other are counted as parameters: the
figure of a function is the number of its parameters and of such comments in its list, and without
some comments of either kind it is the same exactly when none of those that are counted is missing.
-/

namespace CodeMetrics.JavaScript

def commentKinds : List String := ["comment", "html_comment"]

/-- A comment of either kind, as a leaf that fills no field. -/
def isNote (tree : Tree) : Bool :=
  commentKinds.contains tree.kind && tree.label.named && tree.children.isEmpty &&
    tree.label.fields.isEmpty

def isDeclared (tree : Tree) : Bool := tree.label.named && !commentKinds.contains tree.kind

/-- The parameters that a function declares: what is named in its list and no comment of either kind,
or one without a list. -/
def declaredParameters (function : Tree) : Nat :=
  match function.field? "parameters" with
  | some list => tally isDeclared list.children
  | none => one (function.field? "parameter").isSome

def isCountedComment (tree : Tree) : Bool := tree.label.named && tree.kind == "html_comment"

/-- The comments in the list of a function that are counted like parameters. -/
def countedComments (function : Tree) : Nat :=
  match function.field? "parameters" with
  | some list => tally isCountedComment list.children
  | none => 0

/-- The functions that are reported, each before those inside it. -/
def functionNodes (root : Tree) : List Tree := (reportedSites root).map Prod.snd

/-! The figure of one function. -/

theorem isParameter_eq (tree : Tree) :
    (one (isParameter tree) : Nat) = one (isDeclared tree) + one (isCountedComment tree) := by
  unfold isParameter isDeclared isCountedComment
  by_cases plain : tree.kind = "comment"
  · simp [plain, commentKinds, one]
  · by_cases counted : tree.kind = "html_comment"
    · cases tree.label.named <;> simp [counted, commentKinds, one]
    · cases tree.label.named <;> simp [plain, counted, commentKinds, one]

theorem parameterCount_eq (function : Tree) :
    (parameterCount function : Nat) = declaredParameters function + countedComments function := by
  rw [parameterCount, declaredParameters, countedComments]
  cases function.field? "parameters" with
  | some list =>
      simp only [tally]
      rw [← total_add]
      exact total_congr fun child _ => isParameter_eq child
  | none => rfl

/-! Functions without some of the comments. -/

theorem fills_note {note : Tree} (field : String) (isOne : isNote note = true) :
    note.fills field = false := by
  simp only [isNote, Bool.and_eq_true, List.isEmpty_iff] at isOne
  rw [Tree.fills, isOne.2]
  rfl

theorem kind_note {note : Tree} (isOne : isNote note = true) :
    commentKinds.contains note.kind = true := by
  simp only [isNote, Bool.and_eq_true] at isOne
  exact isOne.1.1.1

theorem isDeclared_note {note : Tree} (isOne : isNote note = true) : isDeclared note = false := by
  rw [isDeclared, kind_note isOne, Bool.not_true, Bool.and_false]

theorem isFunction_note {note : Tree} (isOne : isNote note = true) : isFunction note = false := by
  have known := kind_note isOne
  simp only [commentKinds, List.contains_cons, List.contains_nil, Bool.or_false, Bool.or_eq_true,
    beq_iff_eq] at known
  rcases known with kind | kind <;> simp [isFunction, kind, functionKinds]

theorem children_note {note : Tree} (isOne : isNote note = true) : note.children = [] := by
  simp only [isNote, Bool.and_eq_true, List.isEmpty_iff] at isOne
  exact isOne.1.2

section Fewer
variable {whole rest : Tree} (fewer : Without isNote whole rest)
include fewer

theorem declaredParameters_fewer : declaredParameters rest = declaredParameters whole := by
  have lists := fewer.field? fills_note "parameters"
  have lone := fewer.field? fills_note "parameter"
  rw [declaredParameters, declaredParameters]
  generalize whole.field? "parameters" = left at lists ⊢
  generalize rest.field? "parameters" = right at lists ⊢
  cases lists with
  | none =>
      generalize whole.field? "parameter" = first at lone ⊢
      generalize rest.field? "parameter" = second at lone ⊢
      cases lone <;> rfl
  | some list =>
      apply list.children.total_eq
      · intro child other inner
        rw [isDeclared, isDeclared, inner.label, inner.kind]
      · intro note isOne
        rw [isDeclared_note isOne, one_false]

theorem countedComments_fewer : countedComments rest ≤ countedComments whole := by
  have lists := fewer.field? fills_note "parameters"
  rw [countedComments, countedComments]
  generalize whole.field? "parameters" = left at lists ⊢
  generalize rest.field? "parameters" = right at lists ⊢
  cases lists with
  | none => exact Nat.le_refl 0
  | some list =>
      apply list.children.total_le
      intro child other inner
      rw [isCountedComment, isCountedComment, inner.label, inner.kind]

end Fewer

/-! Functions correspond to each other, whichever comments are missing. -/

theorem functionNodes_node (root : Tree) :
    functionNodes root = (if root.label.named && isFunction root then [root] else []) ++
      root.children.flatMap functionNodes := by
  have below : ∀ entry ∈ root.children.zipIdx,
      ((Tree.sitesBelow entry).filter isReported).map Prod.snd = functionNodes entry.1 := by
    intro entry _
    rw [Tree.sitesBelow, List.filter_map, List.map_map]
    rfl
  have top : isReported ([], root) = (root.label.named && isFunction root) := rfl
  have children : root.children.flatMap functionNodes =
      root.children.zipIdx.flatMap fun entry => functionNodes entry.1 := by
    conv_lhs => rw [← List.zipIdx_map_fst 0 root.children, List.flatMap_map]
  rw [functionNodes, reportedSites, Tree.sites_eq, List.filter_cons, List.filter_flatMap, top,
    children, ← List.flatMap_congr below]
  split
  · rw [List.map_cons, List.map_flatMap, List.singleton_append]
  · rw [List.map_flatMap, List.nil_append]

theorem functionNodes_note {note : Tree} (isOne : isNote note = true) : functionNodes note = [] := by
  rw [functionNodes_node, isFunction_note isOne, children_note isOne, Bool.and_false]
  rfl

theorem functionNodes_fewer {whole rest : Tree} (fewer : Without isNote whole rest) :
    List.Forall₂ (Without isNote) (functionNodes whole) (functionNodes rest) := by
  refine Without.induction ?_ fewer
  intro whole rest here inside
  have function : isFunction rest = isFunction whole := by rw [isFunction, isFunction, here.kind]
  rw [functionNodes_node whole, functionNodes_node rest, here.label, function]
  apply List.rel_append
  · split
    · exact .cons here .nil
    · exact .nil
  · exact inside.forall₂_flatMap (fun inner => inner.2) functionNodes_note

/-! What is reported. -/

/-- What is reported for a function: its parameters, and the comments that are counted with them. -/
def reportedParameters (function : Tree) : UInt32 :=
  (declaredParameters function + countedComments function).toUInt32

structure CountsParameters (root : Tree) (report : ModuleReport) : Prop where
  functions : report.functions.map FunctionReport.params =
    (functionNodes root).map reportedParameters
  module : report.aggregate.params = (total declaredParameters (functionNodes root) +
    total countedComments (functionNodes root)).toUInt32

theorem countsParameters (program : Program) (rules : BranchRules) :
    CountsParameters program.root (moduleReport program rules) := by
  have each (function : Tree) : (parameterCount function : UInt32) = reportedParameters function := by
    rw [parameterCount_toWord, parameterCount_eq, reportedParameters]
  constructor
  · rw [moduleReport, functionReports_eq, functionNodes, List.map_map, List.map_map]
    exact List.map_congr_left fun site _ => each site.2
  · have summed : total parameterCount (functionNodes program.root) =
        total declaredParameters (functionNodes program.root) +
          total countedComments (functionNodes program.root) := by
      rw [← total_add]
      exact total_congr fun function _ => parameterCount_eq function
    rw [← summed, functionNodes, total_map]
    exact total_params_eq program.source rules program.root

/-- A module brings the same to the mean of a project when its parameters are reported alike. -/
theorem moduleShare_params {α : Type} [Add α] [Div α] [OfNat α 0] [NatCast α]
    {report other : ModuleReport}
    (functions : other.functions.map FunctionReport.params =
      report.functions.map FunctionReport.params)
    (module : other.aggregate.params = report.aggregate.params) :
    (moduleShare .params other : α) = moduleShare .params report := by
  have asMap (list : List FunctionReport) :
      list.map (fun function => ((Figure.params.ofFunction function).toNat : α)) =
        (list.map FunctionReport.params).map fun word => (word.toNat : α) := by
    rw [List.map_map]
    rfl
  have mapped (list : List FunctionReport) :
      (list.map FunctionReport.params).isEmpty = list.isEmpty := List.isEmpty_map
  have bare : other.functions.isEmpty = report.functions.isEmpty := by
    rw [← mapped, functions, mapped]
  have figure : Figure.params.ofModule other.aggregate =
      Figure.params.ofModule report.aggregate := module
  rw [moduleShare, moduleShare, asMap, asMap, bare, functions, figure]

theorem projectMean_params {report other : ModuleReport}
    (functions : other.functions.map FunctionReport.params =
      report.functions.map FunctionReport.params)
    (module : other.aggregate.params = report.aggregate.params) (before after : List ModuleReport) :
    (projectMean .params (before ++ other :: after) : Float) =
      projectMean .params (before ++ report :: after) := by
  rw [projectMean, projectMean, List.map_append, List.map_append, List.map_cons, List.map_cons,
    moduleShare_params functions module]

/-! Corresponding functions, when as many comments are counted for the one as for the other. -/
section Corresponding
variable {functions others : List Tree} (fewer : List.Forall₂ (Without isNote) functions others)
include fewer

theorem declared_eq : others.map declaredParameters = functions.map declaredParameters := by
  induction fewer with
  | nil => rfl
  | cons here _ ih => rw [List.map_cons, List.map_cons, declaredParameters_fewer here, ih]

theorem reportedParameters_eq
    (counted : others.map countedComments = functions.map countedComments) :
    others.map reportedParameters = functions.map reportedParameters := by
  induction fewer with
  | nil => rfl
  | cons here _ ih =>
      obtain ⟨same, later⟩ := List.cons.inj counted
      rw [List.map_cons, List.map_cons, reportedParameters, reportedParameters,
        declaredParameters_fewer here, same, ih later]

/-- Where no sum passes a word, the words tell how many comments are counted. -/
theorem countedComments_eq
    (small : ∀ function ∈ functions,
      declaredParameters function + countedComments function < 4294967296)
    (reported : others.map reportedParameters = functions.map reportedParameters) :
    others.map countedComments = functions.map countedComments := by
  induction fewer with
  | nil => rfl
  | cons here _ ih =>
      obtain ⟨fits, smaller⟩ := List.forall_mem_cons.mp small
      obtain ⟨same, later⟩ := List.cons.inj reported
      have less := countedComments_fewer here
      have numbers := congrArg UInt32.toNat same
      rw [reportedParameters, reportedParameters, declaredParameters_fewer here,
        toNat_toWord (by omega), toNat_toWord fits, Nat.add_left_cancel_iff] at numbers
      rw [List.map_cons, List.map_cons, numbers, ih smaller later]

end Corresponding

theorem total_eq_of_map {figure : Tree → Nat} {items others : List Tree}
    (same : others.map figure = items.map figure) : total figure others = total figure items := by
  have listed (list : List Tree) : total figure list = total (fun count => count) (list.map figure) :=
    (total_map (fun count => count) figure list).symm
  rw [listed, listed, same]

theorem functionNodes_small {root function : Tree} (member : function ∈ functionNodes root) :
    declaredParameters function + countedComments function < root.size := by
  obtain ⟨site, reported, rfl⟩ := List.mem_map.mp member
  have below := size_below (Tree.mem_sites.mp (List.mem_of_mem_filter reported))
  have few := parameterCount_lt_size site.2
  rw [parameterCount_eq] at few
  omega

/-- The parameters that are reported are those that are declared and the comments that are counted
with them. Without some comments the functions declare the same; the figures of the functions and the
module and the mean of every project with it stay when none of the counted ones is missing, and the
figures of the functions stay only then. -/
theorem parameters_beside_comments {whole rest : Tree} (fewer : Without isNote whole rest)
    (intact : whole.label.damaged = false) (source : String) (rules : BranchRules)
    (options : Options) :
    ∃ report other, analyze rules ⟨source, whole⟩ options = .ok report ∧
      analyze rules ⟨source, rest⟩ options = .ok other ∧
      CountsParameters whole report ∧ CountsParameters rest other ∧
      List.Forall₂ (fun function other => declaredParameters other = declaredParameters function ∧
        countedComments other ≤ countedComments function)
        (functionNodes whole) (functionNodes rest) ∧
      ((functionNodes rest).map countedComments = (functionNodes whole).map countedComments →
        other.functions.map FunctionReport.params = report.functions.map FunctionReport.params ∧
        other.aggregate.params = report.aggregate.params ∧
        ∀ before after : List ModuleReport, (projectMean .params (before ++ other :: after) : Float) =
          projectMean .params (before ++ report :: after)) ∧
      (whole.size < 4294967296 →
        other.functions.map FunctionReport.params = report.functions.map FunctionReport.params →
        (functionNodes rest).map countedComments = (functionNodes whole).map countedComments) := by
  have sound : rest.label.damaged = false := by rw [fewer.label, intact]
  have nodes := functionNodes_fewer fewer
  have here := countsParameters ⟨source, whole⟩ (rules.overriddenBy options)
  have there := countsParameters ⟨source, rest⟩ (rules.overriddenBy options)
  refine ⟨_, _, if_neg (Bool.eq_false_iff.mp intact), if_neg (Bool.eq_false_iff.mp sound), here,
    there, nodes.imp fun _ _ inner => ⟨declaredParameters_fewer inner, countedComments_fewer inner⟩,
    ?_, ?_⟩
  · intro counted
    have functions : (moduleReport ⟨source, rest⟩ (rules.overriddenBy options)).functions.map
        FunctionReport.params = (moduleReport ⟨source, whole⟩ (rules.overriddenBy options)).functions.map
          FunctionReport.params := by
      rw [here.functions, there.functions, reportedParameters_eq nodes counted]
    have module : (moduleReport ⟨source, rest⟩ (rules.overriddenBy options)).aggregate.params =
        (moduleReport ⟨source, whole⟩ (rules.overriddenBy options)).aggregate.params := by
      rw [here.module, there.module, total_eq_of_map (declared_eq nodes), total_eq_of_map counted]
    exact ⟨functions, module, projectMean_params functions module⟩
  · intro few same
    rw [here.functions, there.functions] at same
    exact countedComments_eq nodes
      (fun function member => Nat.lt_trans (functionNodes_small member) few) same

/-- The declaration of `f` with the lines `function f(a, <!-- x` and `b) {}`, where something is to
stand after the comma. -/
def declarationWith (between : List Tree) : Program where
  source := "function f(a, <!-- x\nb) \x7b\x7d"
  root :=
    let spot := spotAt (placeOf [0, 21])
    let sign := signAt (placeOf [0, 21])
    spot "program" 0 26 [] [
      spot "function_declaration" 0 26 [] [
        sign "function" 0 [],
        spot "identifier" 9 10 ["name"] [],
        spot "formal_parameters" 10 23 ["parameters"]
          (sign "(" 10 [] :: spot "identifier" 11 12 [] [] :: sign "," 12 [] :: between ++ [
            spot "identifier" 21 22 [] [], sign ")" 22 []]),
        spot "statement_block" 24 26 ["body"] [sign "\x7b" 24 [], sign "\x7d" 25 []]]]

def countedSample : Program := declarationWith [spot "html_comment" 14 20 [] []]

def uncountedSample : Program := declarationWith []

theorem parameters_beside_comments_countedSample :
    Without isNote countedSample.root uncountedSample.root ∧
    ∃ report other, analyze {} countedSample .empty = .ok report ∧
      analyze {} uncountedSample .empty = .ok other ∧
      report.functions.map FunctionReport.params = [3] ∧
      other.functions.map FunctionReport.params = [2] ∧
      List.Forall₂ (fun function other => declaredParameters other = declaredParameters function ∧
        countedComments other ≤ countedComments function)
        (functionNodes countedSample.root) (functionNodes uncountedSample.root) := by
  have fewer : Without isNote countedSample.root uncountedSample.root := by
    refine .node (.kept (.node ?_) .nil)
    refine .kept (.refl _ _) (.kept (.refl _ _) (.kept (.node ?_) (.kept (.refl _ _) .nil)))
    refine .kept (.refl _ _) (.kept (.refl _ _) (.kept (.refl _ _) (.missing rfl ?_)))
    exact .kept (.refl _ _) (.kept (.refl _ _) .nil)
  obtain ⟨report, other, analyzed, again, figures, otherFigures, same, -⟩ :=
    parameters_beside_comments fewer rfl countedSample.source {} .empty
  refine ⟨fewer, report, other, analyzed, again, ?_, ?_, same⟩
  · rw [figures.functions]
    decide +kernel
  · rw [otherFigures.functions]
    decide +kernel

/-- A function with two parameters is reported with three. -/
theorem parameters_counted_comment :
    (functionNodes countedSample.root).map declaredParameters = [2] ∧
    (moduleReport countedSample {}).functions.map FunctionReport.params = [3] ∧
    (moduleReport countedSample {}).aggregate.params = 3 := by
  decide +kernel

end CodeMetrics.JavaScript
