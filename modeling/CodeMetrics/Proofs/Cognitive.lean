import CodeMetrics.JavaScript.Nesting
import CodeMetrics.Proofs.Scopes

/-!
What each node of a tree adds to its cognitive complexity. A node is charged for itself and once
more for each construct around it that deepens, so the complexity is a sum over the nodes, and it
grows in proportion to the level at which the tree stands.
-/

namespace CodeMetrics.JavaScript

/-- The constructs inside of which a reader has to go one level deeper. -/
def deepeningKinds : List String := [
  "if_statement", "switch_statement", "while_statement", "do_statement", "for_statement",
  "for_in_statement", "catch_clause"]

/-- The constructs that cost one wherever they stand. -/
def chargedKinds : List String := [
  "if_statement", "while_statement", "do_statement", "for_statement", "for_in_statement",
  "ternary_expression"]

def deepens (tree : Tree) : Bool := deepeningKinds.contains tree.kind

/-- Whether a node costs one more for each level of its depth. -/
def weighs (tree : Tree) : Bool := deepens tree || tree.kind == "ternary_expression"

/-- A binary expression whose operator is one of the three logical ones. -/
def isLogical (tree : Tree) : Bool :=
  tree.kind == "binary_expression" &&
    (tree.field? "operator").any fun operator => ["&&", "||", "??"].contains operator.kind

theorem isLogical_eq {tree : Tree} (kind : tree.kind = "binary_expression") :
    isLogical tree = hasOperator logicalOperators tree := by
  rw [isLogical, hasOperator_eq, kind]
  rfl

/-- What a node costs at any depth. An `if` pays for each `else` that it has. -/
def ownCost (tree : Tree) : Nat :=
  one (chargedKinds.contains tree.kind || isLogical tree) +
    if tree.kind = "if_statement" then tally isElse tree.children else 0

/-- The number of constructs around an address that deepen. -/
def depthAt (root : Tree) (address : List Nat) : Nat :=
  (addressesAbove address).countP fun above => (root.at? above).any deepens

/-- What a node costs where it stands, when the whole tree stands at a level. -/
def chargeAt (level : Nat) (root : Tree) (site : List Nat × Tree) : Nat :=
  ownCost site.2 + one (weighs site.2) * (level + depthAt root site.1)

/-- The number of nodes of a sort above an address. -/
def countAbove (holds : Tree → Bool) (root : Tree) (address : List Nat) : Nat :=
  (addressesAbove address).countP fun above => (root.at? above).any holds

theorem countAbove_cons (holds : Tree → Bool) {root child : Tree} {index : Nat}
    (found : root.children[index]? = some child) (rest : List Nat) :
    countAbove holds root (index :: rest) = one (holds root) + countAbove holds child rest := by
  have below (above : List Nat) :
      (root.at? (index :: above)).any holds = (child.at? above).any holds := by
    simp [Tree.at?, found]
  simp only [countAbove, addressesAbove, List.countP_append, List.countP_map, Function.comp_def,
    below]
  cases here : holds root <;> simp [Tree.at?, here, one, Nat.add_comm]

theorem depthAt_cons {root child : Tree} {index : Nat}
    (found : root.children[index]? = some child) (rest : List Nat) :
    depthAt root (index :: rest) = one (deepens root) + depthAt child rest :=
  countAbove_cons deepens found rest

/-! The charges of a tree are those of its root and of its children, one level deeper if the root
deepens. -/

theorem chargeAt_below {root child : Tree} {index : Nat}
    (found : root.children[index]? = some child) (level : Nat) (site : List Nat × Tree) :
    chargeAt level root (index :: site.1, site.2) =
      chargeAt (level + one (deepens root)) child site := by
  rw [chargeAt, chargeAt, depthAt_cons found, Nat.add_assoc]

theorem total_chargeAt (level : Nat) (root : Tree) :
    total (chargeAt level root) root.sites =
      ownCost root + one (weighs root) * level +
        total (fun child => total (chargeAt (level + one (deepens root)) child) child.sites)
          root.children := by
  have below : total (chargeAt level root) (root.children.zipIdx.flatMap Tree.sitesBelow) =
      total (fun child => total (chargeAt (level + one (deepens root)) child) child.sites)
        root.children := by
    rw [total_flatMap, ← total_zipIdx _ root.children 0]
    apply total_congr
    rintro ⟨child, index⟩ member
    rw [Tree.sitesBelow, total_map]
    apply total_congr
    intro site _
    exact chargeAt_below (List.mem_zipIdx_iff_getElem?.mp member) level site
  have top : chargeAt level root ([], root) = ownCost root + one (weighs root) * level := rfl
  rw [Tree.sites_eq, total, below, top]

/-! The cost and the level inside of a node, told by its kind. -/

-- Each kind that has a flow of its own is looked up in the lists above; a binary expression is asked
-- for its operator besides.
theorem flow_inside (level : Nat) (tree : Tree) :
    (flow tree).inside level = level + one (deepens tree) := by
  unfold flow
  split <;> try split
  all_goals simp_all [Flow.inside, deepens, deepeningKinds, one]

theorem flow_cost (level : Nat) (tree : Tree) :
    (flow tree).cost level =
      one (chargedKinds.contains tree.kind || isLogical tree) + one (weighs tree) * level := by
  unfold flow
  split
  case h_9 kind =>
    -- Only of a binary expression the operator is asked for.
    rw [isLogical_eq kind]
    split <;> simp_all [Flow.cost, deepens, deepeningKinds, chargedKinds, weighs, one]
  all_goals simp_all [Flow.cost, deepens, deepeningKinds, chargedKinds, weighs, isLogical, one]

theorem flow_conditional (tree : Tree) :
    (flow tree == .conditional) = decide (tree.kind = "if_statement") := by
  unfold flow
  split <;> try split
  all_goals simp_all

theorem cognitiveEach_eq (elses : Bool) (level : Nat) (children : List Tree) :
    cognitiveEach elses level children =
      (if elses then tally isElse children else 0) + total (cognitive level) children := by
  induction children with
  | nil => cases elses <;> rfl
  | cons child rest ih =>
      rw [cognitiveEach, ih, total]
      cases elses with
      | true =>
          simp only [Bool.true_and, if_true, tally, total]
          omega
      | false =>
          simp only [Bool.false_and, one, Bool.false_eq_true, if_false]
          omega

theorem cognitive_node (level : Nat) (tree : Tree) :
    cognitive level tree = ownCost tree + one (weighs tree) * level +
      total (cognitive (level + one (deepens tree))) tree.children := by
  rcases tree with ⟨label, children⟩
  rw [cognitive, cognitiveEach_eq, flow_cost, flow_inside, flow_conditional, ownCost]
  simp only [decide_eq_true_eq, Tree.children]
  omega

mutual
theorem cognitive_eq_charges (level : Nat) (tree : Tree) :
    cognitive level tree = total (chargeAt level tree) tree.sites := by
  rw [cognitive_node, total_chargeAt]
  cases tree with
  | node label children =>
      rw [Tree.children, total_cognitive _ children]

theorem total_cognitive (level : Nat) (children : List Tree) :
    total (cognitive level) children =
      total (fun child => total (chargeAt level child) child.sites) children := by
  cases children with
  | nil => rfl
  | cons child rest =>
      rw [total, total, cognitive_eq_charges level child, total_cognitive level rest]
end

/-- Raising a tree costs its level once for each node that weighs. -/
theorem total_chargeAt_level (level : Nat) (root : Tree) (sites : List (List Nat × Tree)) :
    total (chargeAt level root) sites =
      total (chargeAt 0 root) sites + level * (sites.filter fun site => weighs site.2).length := by
  induction sites with
  | nil => rfl
  | cons site rest ih =>
      rw [total, total, ih, chargeAt, chargeAt, List.filter_cons]
      cases weight : weighs site.2 with
      | true =>
          rw [if_pos rfl, List.length_cons, Nat.mul_succ]
          simp only [one, if_true, Nat.one_mul]
          omega
      | false =>
          rw [if_neg nofun]
          simp only [one, Bool.false_eq_true, if_false, Nat.zero_mul]
          omega

/-! Reports hold words of 32 bits. -/

theorem Flow.cost_toWord (level : Nat) (flow : Flow) :
    flow.cost level.toUInt32 = (flow.cost level).toUInt32 := by
  cases flow <;> first | rfl | exact (toWord_add 1 level).symm

theorem Flow.inside_toWord (level : Nat) (flow : Flow) :
    flow.inside level.toUInt32 = (flow.inside level).toUInt32 := by
  cases flow <;> first | rfl | exact (toWord_add level 1).symm

mutual
theorem cognitive_toWord (level : Nat) (tree : Tree) :
    cognitive level.toUInt32 tree = (cognitive level tree).toUInt32 := by
  cases tree with
  | node label children =>
      rw [cognitive, cognitive, Flow.cost_toWord, Flow.inside_toWord, toWord_add,
        cognitiveEach_toWord _ _ children]

theorem cognitiveEach_toWord (elses : Bool) (level : Nat) (children : List Tree) :
    cognitiveEach elses level.toUInt32 children = (cognitiveEach elses level children).toUInt32 := by
  cases children with
  | nil => rfl
  | cons child rest =>
      rw [cognitiveEach, cognitiveEach, toWord_add, toWord_add, one_toWord,
        cognitive_toWord level child, cognitiveEach_toWord elses level rest]
end

/-- The complexity of a tree is the sum of what its nodes cost where they stand. It grows with the
level by the number of nodes that weigh, and what is reported is its word. -/
theorem cognitive_eq_total (level : Nat) (root : Tree) :
    cognitive level root =
      total (fun site => ownCost site.2 + one (weighs site.2) * (level + depthAt root site.1))
        root.sites ∧
    cognitive level root =
      cognitive 0 root + level * (root.sites.filter fun site => weighs site.2).length ∧
    cognitive level.toUInt32 root = (cognitive level root).toUInt32 := by
  have charges := cognitive_eq_charges level root
  refine ⟨charges, ?_, cognitive_toWord level root⟩
  rw [charges, cognitive_eq_charges 0 root]
  exact total_chargeAt_level level root root.sites

-- `while(a||b);` one level deep: two for the loop and one for the operator, wherever that stands.
example :
    let loop := sampleNode "while_statement" [
      sampleNode "binary_expression" [sign "||" 0 ["operator"]]]
    cognitive 1 loop = 3 ∧ total (chargeAt 1 loop) loop.sites = 3 := by decide

end CodeMetrics.JavaScript
