import CodeMetrics.JavaScript.Analysis
import CodeMetrics.Proofs.Cognitive

/-!
How deep the constructs of a script are nested. The greatest depth is that of the deepest way down,
and what stands inside of a tree is never deeper nor more complex than the whole.
-/

namespace CodeMetrics

theorem Tree.at?_append (root : Tree) (above below : List Nat) :
    root.at? (above ++ below) = (root.at? above).bind fun node => node.at? below := by
  induction above generalizing root with
  | nil => rfl
  | cons index rest ih =>
      rw [List.cons_append, Tree.at?, Tree.at?]
      cases root.children[index]? with
      | none => rfl
      | some child => exact ih child

namespace JavaScript

/-- The number of nesting constructs on the way down to an address, both ends included. -/
def nestingAt (root : Tree) (address : List Nat) : Nat :=
  (address :: addressesAbove address).countP fun place => (root.at? place).any nests

theorem nestingAt_eq {root node : Tree} {address : List Nat}
    (reached : root.at? address = some node) :
    nestingAt root address = countAbove nests root address + one (nests node) := by
  rw [nestingAt, List.countP_cons, reached, countAbove]
  rfl

theorem nestingAt_root (tree : Tree) : nestingAt tree [] = one (nests tree) := by
  rw [nestingAt_eq rfl]
  exact Nat.zero_add _

theorem nestingAt_cons {root child node : Tree} {index : Nat} {rest : List Nat}
    (found : root.children[index]? = some child) (reached : child.at? rest = some node) :
    nestingAt root (index :: rest) = one (nests root) + nestingAt child rest := by
  have whole : root.at? (index :: rest) = some node := by
    rw [Tree.at?, found]
    exact reached
  rw [nestingAt_eq whole, nestingAt_eq reached, countAbove_cons nests found, Nat.add_assoc]

/-! From a node to its children. -/

theorem maxNesting_node (depth : Nat) (tree : Tree) :
    maxNesting depth tree = maxNestingEach (depth + one (nests tree)) tree.children := by
  cases tree with
  | node label children =>
      rw [maxNesting, Tree.children]
      cases nests (.node label children) <;> rfl

theorem le_maxNestingEach (depth : Nat) (children : List Tree) :
    depth ≤ maxNestingEach depth children := by
  induction children with
  | nil => exact Nat.le_refl depth
  | cons child rest ih => exact Nat.le_trans ih (Nat.le_max_right _ _)

theorem maxNesting_le_each (depth : Nat) {child : Tree} {children : List Tree}
    (member : child ∈ children) : maxNesting depth child ≤ maxNestingEach depth children := by
  induction children with
  | nil => cases member
  | cons other rest ih =>
      rw [maxNestingEach]
      rcases List.mem_cons.mp member with rfl | later
      · exact Nat.le_max_left _ _
      · exact Nat.le_trans (ih later) (Nat.le_max_right _ _)

theorem maxNesting_child (depth : Nat) {root child : Tree} {index : Nat}
    (found : root.children[index]? = some child) :
    maxNesting (depth + one (nests root)) child ≤ maxNesting depth root := by
  rw [maxNesting_node depth root]
  exact maxNesting_le_each _ (List.mem_of_getElem? found)

theorem le_total {β : Type} (figure : β → Nat) {item : β} {items : List β}
    (member : item ∈ items) : figure item ≤ total figure items := by
  induction items with
  | nil => cases member
  | cons other rest ih =>
      rw [total]
      rcases List.mem_cons.mp member with rfl | later
      · exact Nat.le_add_right _ _
      · exact Nat.le_trans (ih later) (Nat.le_add_left _ _)

theorem cognitive_child (level : Nat) {root child : Tree} {index : Nat}
    (found : root.children[index]? = some child) :
    cognitive (level + one (deepens root)) child ≤ cognitive level root := by
  rw [cognitive_node level root]
  exact Nat.le_trans (le_total _ (List.mem_of_getElem? found)) (Nat.le_add_left _ _)

/-- What no child exceeds, one level deeper below a node of some sort, is exceeded nowhere below, as
many levels deeper as there are such nodes above. -/
theorem figure_below {figure : Nat → Tree → Nat} {holds : Tree → Bool}
    (child_le : ∀ level {root child : Tree} {index : Nat}, root.children[index]? = some child →
      figure (level + one (holds root)) child ≤ figure level root)
    {root node : Tree} {address : List Nat} (reached : root.at? address = some node)
    (level : Nat) : figure (level + countAbove holds root address) node ≤ figure level root := by
  induction address generalizing root level with
  | nil =>
      obtain rfl := Option.some.inj reached
      exact Nat.le_refl _
  | cons index rest ih =>
      obtain ⟨child, found, below⟩ := Option.bind_eq_some_iff.mp reached
      rw [countAbove_cons holds found, ← Nat.add_assoc]
      exact Nat.le_trans (ih below _) (child_le level found)

/-! The greatest depth is reached somewhere, and exceeded nowhere. -/

theorem nestingAt_le (depth : Nat) {root node : Tree} {address : List Nat}
    (reached : root.at? address = some node) :
    depth + nestingAt root address ≤ maxNesting depth root := by
  have below := figure_below maxNesting_child reached depth
  have here := le_maxNestingEach (depth + countAbove nests root address + one (nests node))
    node.children
  rw [maxNesting_node] at below
  rw [nestingAt_eq reached, ← Nat.add_assoc]
  exact Nat.le_trans here below

mutual
theorem maxNesting_reached (depth : Nat) (tree : Tree) :
    ∃ address node, tree.at? address = some node ∧
      maxNesting depth tree = depth + nestingAt tree address := by
  rw [maxNesting_node]
  cases tree with
  | node label children =>
      rw [Tree.children]
      rcases maxNestingEach_reached (depth + one (nests (.node label children))) children with
        same | ⟨index, child, address, node, found, reached, same⟩
      · exact ⟨[], _, rfl, by rw [same, nestingAt_root]⟩
      · refine ⟨index :: address, node, ?_, ?_⟩
        · rw [Tree.at?, Tree.children, found]
          exact reached
        · rw [same, nestingAt_cons found reached, Nat.add_assoc]

theorem maxNestingEach_reached (depth : Nat) (children : List Tree) :
    maxNestingEach depth children = depth ∨
    ∃ (index : Nat) (child : Tree) (address : List Nat) (node : Tree),
      children[index]? = some child ∧ child.at? address = some node ∧
      maxNestingEach depth children = depth + nestingAt child address := by
  cases children with
  | nil => exact .inl rfl
  | cons child rest =>
      rw [maxNestingEach]
      rcases Nat.le_total (maxNesting depth child) (maxNestingEach depth rest) with less | more
      · rw [Nat.max_eq_right less]
        rcases maxNestingEach_reached depth rest with
          same | ⟨index, other, address, node, found, reached, same⟩
        · exact .inl same
        · exact .inr ⟨index + 1, other, address, node, found, reached, same⟩
      · rw [Nat.max_eq_left more]
        obtain ⟨address, node, reached, same⟩ := maxNesting_reached depth child
        exact .inr ⟨0, child, address, node, rfl, reached, same⟩
end

theorem maxNesting_level (depth : Nat) (tree : Tree) :
    maxNesting depth tree = depth + maxNesting 0 tree := by
  obtain ⟨address, node, reached, same⟩ := maxNesting_reached depth tree
  obtain ⟨address', node', reached', same'⟩ := maxNesting_reached 0 tree
  have bound := nestingAt_le 0 reached
  have bound' := nestingAt_le depth reached'
  omega

/-! What stands inside of a tree, against the whole. -/

/-- The number of nodes that cost one more for each level of their depth. -/
def weighing (tree : Tree) : Nat := (tree.sites.filter fun site => weighs site.2).length

theorem cognitive_level (level : Nat) (tree : Tree) :
    cognitive level tree = cognitive 0 tree + level * weighing tree := by
  rw [cognitive_eq_charges level, cognitive_eq_charges 0]
  exact total_chargeAt_level level tree tree.sites

theorem maxNesting_below {root node : Tree} {address : List Nat}
    (reached : root.at? address = some node) : maxNesting 0 node ≤ maxNesting 0 root := by
  have below := figure_below maxNesting_child reached 0
  rw [maxNesting_level] at below
  omega

theorem cognitive_below {root node : Tree} {address : List Nat}
    (reached : root.at? address = some node) :
    cognitive 0 node + depthAt root address * weighing node ≤ cognitive 0 root := by
  have below := figure_below cognitive_child reached 0
  rw [cognitive_level, Nat.zero_add] at below
  exact below

/-! Depths in words of 32 bits are those in natural numbers, as far as words go. -/

theorem toNat_toWord {count : Nat} (fits : count < 4294967296) : count.toUInt32.toNat = count :=
  UInt32.toNat_ofNat_of_lt fits

theorem toNat_max (left right : UInt32) :
    (max left right).toNat = max left.toNat right.toNat := by
  have chosen : max left right = if left ≤ right then right else left := rfl
  rw [chosen]
  split
  case isTrue less => exact (Nat.max_eq_right (UInt32.le_iff_toNat_le.mp less)).symm
  case isFalse more =>
      exact (Nat.max_eq_left (Nat.le_of_not_le (mt UInt32.le_iff_toNat_le.mpr more))).symm

mutual
/-- A depth that is too great for a word is reported as the greatest one: the depths on the way down
grow by one, and so the greatest word is among them. -/
theorem maxNesting_saturates {depth : Nat} {tree : Tree}
    (room : depth + one (nests tree) < 4294967296) :
    (maxNesting depth.toUInt32 tree).toNat = min (maxNesting depth tree) 4294967295 := by
  cases tree with
  | node label children =>
      rw [maxNesting, maxNesting]
      cases here : nests (.node label children) with
      | false =>
          rw [here] at room
          exact maxNestingEach_saturates room children
      | true =>
          rw [here] at room
          have deeper : depth.toUInt32 + 1 = (depth + 1).toUInt32 := (toWord_add depth 1).symm
          rw [if_pos rfl, if_pos rfl, deeper]
          exact maxNestingEach_saturates room children

theorem maxNestingEach_saturates {depth : Nat} (room : depth < 4294967296)
    (children : List Tree) :
    (maxNestingEach depth.toUInt32 children).toNat =
      min (maxNestingEach depth children) 4294967295 := by
  cases children with
  | nil =>
      rw [maxNestingEach, maxNestingEach, toNat_toWord room]
      omega
  | cons child rest =>
      have later := maxNestingEach_saturates room rest
      have deep := le_maxNestingEach depth rest
      rw [maxNestingEach, maxNestingEach, toNat_max, later]
      by_cases inside : depth + one (nests child) < 4294967296
      · have here := maxNesting_saturates inside
        omega
      · -- The list stands at the greatest word already, whatever the child wraps around to.
        have word := (maxNesting depth.toUInt32 child).toNat_lt
        have unit := one_le (nests child)
        omega
end

theorem maxNesting_word (tree : Tree) :
    (maxNesting 0 tree : UInt32).toNat = min (maxNesting 0 tree) 4294967295 := by
  have unit := one_le (nests tree)
  have room : 0 + one (nests tree) < 4294967296 := by omega
  exact maxNesting_saturates room

theorem maxNesting_toWord (depth : Nat) (tree : Tree)
    (fits : maxNesting depth tree < 4294967296) :
    maxNesting depth.toUInt32 tree = (maxNesting depth tree).toUInt32 := by
  have deep := le_maxNestingEach (depth + one (nests tree)) tree.children
  rw [← maxNesting_node] at deep
  have word := maxNesting_saturates (Nat.lt_of_le_of_lt deep fits)
  apply UInt32.toNat.inj
  rw [word, toNat_toWord fits]
  omega

/-! What is reported. -/

/-- The functions that are reported with their addresses, each before those inside it. -/
def reportedSites (root : Tree) : List (List Nat × Tree) := root.sites.filter isReported

theorem analyze_eq_ok {rules : BranchRules} {program : Program} {options : Options}
    {report : ModuleReport} (analyzed : analyze rules program options = .ok report) :
    report = moduleReport program (rules.overriddenBy options) := by
  unfold analyze at analyzed
  split at analyzed
  · cases analyzed
  · cases analyzed
    rfl

end JavaScript
end CodeMetrics
