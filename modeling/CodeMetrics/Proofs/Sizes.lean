import CodeMetrics.Proofs.Branching
import CodeMetrics.Proofs.Listings

/-!
Figures against the size of a tree. A node is counted at most once in each figure that counts nodes,
and a parameter belongs to one function only, so that these figures stay below the number of nodes:
of a tree that a parser can make, they are exact in words of 32 bits.
-/

namespace CodeMetrics

def Tree.size (tree : Tree) : Nat := tree.sites.length

namespace JavaScript

/-! The number of nodes bounds what counts them. -/

/-- A sum over the nodes of a tree, from each node to its children. -/
theorem total_sites_node (weight : Tree → Nat) (tree : Tree) :
    total (fun site => weight site.2) tree.sites =
      weight tree +
        total (fun child => total (fun site => weight site.2) child.sites) tree.children := by
  rw [Tree.sites_eq, total, total_flatMap, ← total_zipIdx _ tree.children 0]
  congr 1
  apply total_congr
  intro entry _
  rw [Tree.sitesBelow, total_map]

theorem size_eq (tree : Tree) : tree.size = 1 + total Tree.size tree.children := by
  have nodes := total_sites_node (fun _ => 1) tree
  simp only [total_one] at nodes
  exact nodes

theorem size_pos (tree : Tree) : 0 < tree.size := by
  rw [size_eq]
  omega

theorem length_children_lt (tree : Tree) : tree.children.length < tree.size := by
  have each : total (fun _ => 1) tree.children ≤ total Tree.size tree.children :=
    total_le fun child _ => size_pos child
  rw [total_one] at each
  rw [size_eq]
  omega

theorem size_child {root child : Tree} (member : child ∈ root.children) :
    child.size < root.size := by
  have one := le_total Tree.size member
  rw [size_eq root]
  omega

theorem size_below {root node : Tree} {address : List Nat}
    (reached : root.at? address = some node) : address.length + node.size ≤ root.size := by
  induction address generalizing root with
  | nil =>
      obtain rfl := Option.some.inj reached
      exact Nat.le_of_eq (Nat.zero_add _)
  | cons index rest ih =>
      obtain ⟨child, found, below⟩ := Option.bind_eq_some_iff.mp reached
      have inner := ih below
      have smaller := size_child (List.mem_of_getElem? found)
      rw [List.length_cons]
      omega

theorem sumScope_lt_size {weight : Tree → Nat} (small : ∀ node, weight node ≤ 1) (enter : Bool)
    (tree : Tree) : sumScope enter weight tree < tree.size := by
  have few : (counted enter tree).length ≤ tree.sites.tail.length := by
    rw [counted, List.length_map]
    exact List.length_filter_le _ _
  have each : total weight (counted enter tree) ≤ (counted enter tree).length := by
    rw [← total_one]
    exact total_le fun node _ => small node
  have nodes : tree.size = tree.sites.tail.length + 1 := by
    rw [Tree.size, Tree.sites_eq]
    rfl
  rw [← total_counted]
  omega

theorem logicalLines_lt_size (enter : Bool) (tree : Tree) :
    (logicalLines enter tree : Nat) < tree.size :=
  sumScope_lt_size (fun _ => one_le _) enter tree

theorem cyclomatic_le_size (rules : BranchRules) (enter : Bool) (tree : Tree) :
    (cyclomatic rules enter tree : Nat) ≤ tree.size := by
  have few : sumScope enter (branchWeight rules) tree < tree.size :=
    sumScope_lt_size (fun _ => one_le _) enter tree
  rw [cyclomatic]
  omega

theorem length_addressesAbove (address : List Nat) :
    (addressesAbove address).length = address.length := by
  induction address with
  | nil => rfl
  | cons index rest ih => simp [addressesAbove, ih]

theorem maxNesting_le_size (tree : Tree) : (maxNesting 0 tree : Nat) ≤ tree.size := by
  obtain ⟨address, node, reached, deepest⟩ := maxNesting_reached 0 tree
  have few : nestingAt tree address ≤ (address :: addressesAbove address).length :=
    List.countP_le_length
  have deep := size_below reached
  have some := size_pos node
  rw [List.length_cons, length_addressesAbove] at few
  omega

theorem parameterCount_lt_size (function : Tree) :
    (parameterCount function : Nat) < function.size := by
  rw [parameterCount]
  cases found : function.field? "parameters" with
  | some list =>
      have named := tally_le_length isParameter list.children
      have inner := length_children_lt list
      have outer := size_child (List.mem_of_find?_eq_some found)
      simp only
      omega
  | none =>
      cases lone : function.field? "parameter" with
      | none => exact size_pos function
      | some parameter =>
          have outer := size_child (List.mem_of_find?_eq_some lone)
          have inner := size_pos parameter
          have counted : (one (some parameter).isSome : Nat) = 1 := rfl
          simp only [counted]
          omega

/-! The parameters of different functions are different nodes: those on a list belong to the function
whose list it is, and one without a list belongs to the function right above it. -/

/-- No function stands in the place of a parameter list. -/
def ListsApart (root : Tree) : Prop :=
  ∀ site ∈ root.sites, ∀ child ∈ site.2.children, isFunction child = true →
    child.fills "parameters" = false

instance instDecidableListsApart (root : Tree) : Decidable (ListsApart root) :=
  inferInstanceAs (Decidable (∀ site ∈ root.sites, ∀ child ∈ site.2.children, _))

theorem ListsApart.child {root child : Tree} (apart : ListsApart root)
    (member : child ∈ root.children) : ListsApart child := by
  obtain ⟨index, found⟩ := List.getElem?_of_mem member
  intro site below
  exact apart (index :: site.1, site.2) (Tree.mem_sites_child found below)

theorem ListsApart.no_function {tree list : Tree} (apart : ListsApart tree)
    (found : tree.field? "parameters" = some list) : isFunction list = false := by
  have fills : list.fills "parameters" = true := List.find?_some found
  cases function : isFunction list with
  | false => rfl
  | true =>
      have unfilled := apart ([], tree) (Tree.mem_sites.mpr rfl) list
        (List.mem_of_find?_eq_some found) function
      exact nomatch fills.symm.trans unfilled

/-- The parameters of a node, when it is a function that is reported. -/
def ownParameters (tree : Tree) : Nat :=
  if tree.label.named && isFunction tree then parameterCount tree else 0

/-- The parameters of all functions in a tree. -/
def allParameters (tree : Tree) : Nat :=
  total (fun site => parameterCount site.2) (reportedSites tree)

theorem allParameters_eq (tree : Tree) :
    allParameters tree = ownParameters tree + total allParameters tree.children := by
  have nodes (tree : Tree) :
      allParameters tree = total (fun site => ownParameters site.2) tree.sites :=
    total_filter isReported (fun site => parameterCount site.2) tree.sites
  rw [nodes, total_sites_node]
  congr 1
  exact total_congr fun child _ => (nodes child).symm

theorem ownParameters_le (tree : Tree) : ownParameters tree ≤ parameterCount tree := by
  unfold ownParameters
  split
  · exact Nat.le_refl _
  · exact Nat.zero_le _

/-- Some nodes of a tree are no parameters of a function in it: the tree itself, and its children too
if it is no function. -/
def HasRoom (tree : Tree) : Prop :=
  allParameters tree < tree.size ∧
    (isFunction tree = false → allParameters tree + tree.children.length < tree.size)

theorem total_hasRoom {children : List Tree} (inside : ∀ child ∈ children, HasRoom child) :
    total allParameters children + children.length ≤ total Tree.size children := by
  rw [← total_one, ← total_add]
  exact total_le fun child member => (inside child member).1

/-- The parameters of a node find room among the nodes below it: those on a list among the children
of the list, and a lone one where it stands. -/
theorem parameterCount_room {tree : Tree} (apart : ListsApart tree)
    (inside : ∀ child ∈ tree.children, HasRoom child) :
    parameterCount tree + total allParameters tree.children ≤ total Tree.size tree.children := by
  have each : ∀ child ∈ tree.children, allParameters child ≤ child.size :=
    fun child member => Nat.le_of_lt (inside child member).1
  rw [parameterCount, Nat.add_comm]
  cases found : tree.field? "parameters" with
  | some list =>
      have member := List.mem_of_find?_eq_some found
      have room := (inside list member).2 (apart.no_function found)
      have named := tally_le_length isParameter list.children
      exact total_spare each member (by simp only; omega)
  | none =>
      have room := total_hasRoom inside
      simp only
      cases lone : tree.field? "parameter" with
      | none => exact total_le each
      | some parameter =>
          have child := List.length_pos_of_mem (List.mem_of_find?_eq_some lone)
          have counted := one_le (Option.some parameter).isSome
          omega

theorem hasRoom {tree : Tree} (apart : ListsApart tree) : HasRoom tree := by
  induction tree using Tree.induction with
  | step tree below =>
      have inside : ∀ child ∈ tree.children, HasRoom child :=
        fun child member => below child member (apart.child member)
      have own := ownParameters_le tree
      have room := parameterCount_room apart inside
      have children := total_hasRoom inside
      rw [HasRoom, allParameters_eq, size_eq]
      refine ⟨by omega, fun other => ?_⟩
      have none : ownParameters tree = 0 := by simp [ownParameters, other]
      omega

/-! Figures in words of 32 bits. -/

theorem parameterCount_toWord (function : Tree) :
    (parameterCount function : UInt32) = (parameterCount function : Nat).toUInt32 := by
  rw [parameterCount, parameterCount]
  cases function.field? "parameters" with
  | none => exact one_toWord _
  | some list =>
      have ones : (fun child => one (isParameter child) : Tree → UInt32) =
          fun child => (one (isParameter child) : Nat).toUInt32 :=
        funext fun child => one_toWord _
      simp only [tally]
      rw [ones, total_toWord]

theorem total_params_eq (source : String) (rules : BranchRules) (root : Tree) :
    total FunctionReport.params (functionReports source rules none root) =
      (allParameters root).toUInt32 := by
  have own : (fun site : List Nat × Tree => (parameterCount site.2 : UInt32)) =
      fun site => (parameterCount site.2 : Nat).toUInt32 :=
    funext fun site => parameterCount_toWord site.2
  rw [functionReports_eq, total_map, allParameters, ← total_toWord, ← own]
  rfl

/-- The figures of a node that count nodes: in words they are what they are in numbers, and a number
of nodes bounds them. -/
structure Exact (rules : BranchRules) (limit : Nat) (node : Tree) : Prop where
  logical (enter : Bool) : (logicalLines enter node : UInt32).toNat = logicalLines enter node ∧
    (logicalLines enter node : UInt32).toNat < limit
  branching (enter : Bool) : (cyclomatic rules enter node : UInt32).toNat =
      cyclomatic rules enter node ∧ (cyclomatic rules enter node : UInt32).toNat ≤ limit
  nesting : (maxNesting 0 node : UInt32).toNat = maxNesting 0 node ∧
    (maxNesting 0 node : UInt32).toNat ≤ limit
  parameters : (parameterCount node : UInt32).toNat = parameterCount node ∧
    (parameterCount node : UInt32).toNat < limit

theorem exact_of_small {rules : BranchRules} {limit : Nat} {node : Tree} (small : node.size ≤ limit)
    (few : limit < 4294967296) : Exact rules limit node where
  logical enter := by
    have bound := logicalLines_lt_size enter node
    rw [logicalLines_toWord, toNat_toWord (by omega)]
    exact ⟨rfl, by omega⟩
  branching enter := by
    have bound := cyclomatic_le_size rules enter node
    rw [cyclomatic_toWord, toNat_toWord (by omega)]
    exact ⟨rfl, by omega⟩
  nesting := by
    have bound := maxNesting_le_size node
    have word : (maxNesting 0 node : UInt32) = (maxNesting 0 node : Nat).toUInt32 :=
      maxNesting_toWord 0 node (by omega)
    rw [word, toNat_toWord (by omega)]
    exact ⟨rfl, by omega⟩
  parameters := by
    have bound := parameterCount_lt_size node
    rw [parameterCount_toWord, toNat_toWord (by omega)]
    exact ⟨rfl, by omega⟩

/-- Figures that count nodes never leave the words that hold them: of every node of a tree, and in
the report on its module and on each of its functions, they are the exact figures, and none is greater
than the number of nodes. Nor is the number of the parameters of all functions together. -/
theorem counting_figures_exact {program : Program} (few : program.root.size < 4294967296)
    (apart : ListsApart program.root) (rules : BranchRules) :
    (∀ site ∈ program.root.sites, Exact rules program.root.size site.2) ∧
    List.Forall₂ (fun site report =>
        (report.sloc.logical.toNat = logicalLines false site.2 ∧
          report.sloc.logical.toNat < program.root.size) ∧
        (report.cyclomatic.toNat = cyclomatic rules false site.2 ∧
          report.cyclomatic.toNat ≤ program.root.size) ∧
        (report.maxNesting.toNat = maxNesting 0 site.2 ∧
          report.maxNesting.toNat ≤ program.root.size) ∧
        report.params.toNat = parameterCount site.2 ∧
          report.params.toNat < program.root.size)
      (reportedSites program.root) (moduleReport program rules).functions ∧
    ((moduleReport program rules).aggregate.sloc.logical.toNat = logicalLines true program.root ∧
      (moduleReport program rules).aggregate.sloc.logical.toNat < program.root.size) ∧
    ((moduleReport program rules).aggregate.cyclomatic.toNat = cyclomatic rules true program.root ∧
      (moduleReport program rules).aggregate.cyclomatic.toNat ≤ program.root.size) ∧
    ((moduleReport program rules).aggregate.maxNesting.toNat = maxNesting 0 program.root ∧
      (moduleReport program rules).aggregate.maxNesting.toNat ≤ program.root.size) ∧
    (moduleReport program rules).aggregate.params.toNat =
      total (fun site => parameterCount site.2) (reportedSites program.root) ∧
    (moduleReport program rules).aggregate.params.toNat ≤ program.root.size := by
  have nodes : ∀ site ∈ program.root.sites, Exact rules program.root.size site.2 := by
    intro site member
    have inner := size_below (Tree.mem_sites.mp member)
    exact exact_of_small (by omega) few
  have whole := nodes ([], program.root) (Tree.mem_sites.mpr rfl)
  have params : (moduleReport program rules).aggregate.params.toNat =
      allParameters program.root := by
    have bound := (hasRoom apart).1
    rw [moduleReport, moduleAggregate, total_params_eq, toNat_toWord (by omega)]
  refine ⟨nodes, ?_, whole.logical true, whole.branching true, whole.nesting, params, ?_⟩
  · apply reports_forall₂
    intro site member
    have exact := nodes site (List.mem_of_mem_filter member)
    exact ⟨exact.logical false, exact.branching false, exact.nesting, exact.parameters⟩
  · rw [params]
    exact Nat.le_of_lt (hasRoom apart).1

def inField (field : String) : Tree → Tree
  | .node label children => .node { label with fields := [field] } children

/-- A function with two parameters, of which the last has a function of one parameter as default. -/
def defaultSample : Program where
  source := ""
  root := sampleNode "program" [
    sampleNode "function_declaration" [
      inField "parameters" (sampleNode "formal_parameters" [
        sampleNode "identifier" [],
        sampleNode "assignment_pattern" [
          sampleNode "arrow_function" [
            inField "parameter" (sampleNode "identifier" []),
            sampleNode "ternary_expression" []]]])]]

theorem counting_figures_exact_defaultSample :
    defaultSample.root.size = 8 ∧ ListsApart defaultSample.root ∧
    (moduleReport defaultSample {}).functions.map FunctionReport.params = [2, 1] ∧
    (moduleReport defaultSample {}).aggregate.params.toNat =
      total (fun site => parameterCount site.2) (reportedSites defaultSample.root) ∧
    (moduleReport defaultSample {}).aggregate.params.toNat ≤ 8 ∧
    (moduleReport defaultSample {}).aggregate.cyclomatic.toNat =
      cyclomatic {} true defaultSample.root := by
  have apart : ListsApart defaultSample.root := by decide
  obtain ⟨-, -, -, branching, -, params, bound⟩ :=
    counting_figures_exact (by decide : defaultSample.root.size < 4294967296) apart {}
  exact ⟨by decide, apart, by decide, params, bound, branching.1⟩

end JavaScript
end CodeMetrics
