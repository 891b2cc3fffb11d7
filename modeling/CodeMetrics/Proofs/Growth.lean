import CodeMetrics.Proofs.Sizes
import Mathlib.Data.Nat.Choose.Basic

/-!
How fast cognitive complexity grows. Each node costs its depth, so the complexity of a tree is not
bounded by the number of its nodes, but by the product of this number with the depth, and at most by
half of its square. It leaves the words of 32 bits that hold it when nearly a hundred thousand
conditionals stand inside one another.
-/

namespace CodeMetrics.JavaScript

theorem choose_two_succ (count : Nat) : (count + 1).choose 2 = count + count.choose 2 := by
  rw [Nat.choose_succ_succ, Nat.choose_one_right]

theorem choose_two_add (left right : Nat) :
    left.choose 2 + right.choose 2 ≤ (left + right).choose 2 := by
  induction left with
  | zero => simp
  | succ left ih =>
      rw [Nat.add_right_comm, choose_two_succ, choose_two_succ]
      omega

theorem total_choose_two {β : Type} (figure : β → Nat) (items : List β) :
    total (fun item => (figure item).choose 2) items ≤ (total figure items).choose 2 := by
  induction items with
  | nil => exact Nat.zero_le _
  | cons item rest ih =>
      have joined := choose_two_add (figure item) (total figure rest)
      rw [total, total]
      omega

/-! Bounds on the complexity, from each node to its children. The charge for an `else` is put to the
node that is the `else`, so that each node costs one at most besides its level. -/

theorem ownCost_le (tree : Tree) : ownCost tree ≤ 1 + tally isElse tree.children := by
  have charged := one_le (chargedKinds.contains tree.kind || isLogical tree)
  rw [ownCost]
  split <;> omega

theorem ownCost_else {tree : Tree} (isOne : isElse tree = true) :
    ownCost tree = 0 ∧ weighs tree = false := by
  have kind : tree.kind = "else_clause" := beq_iff_eq.mp isOne
  simp [ownCost, weighs, deepens, isLogical, kind, chargedKinds, deepeningKinds, one]

theorem charge_le (level : Nat) (tree : Tree) :
    one (isElse tree) + (ownCost tree + one (weighs tree) * level) ≤
      1 + level + tally isElse tree.children := by
  cases clause : isElse tree with
  | true =>
      obtain ⟨own, light⟩ := ownCost_else clause
      rw [own, light, one_false]
      have clause := one_le true
      omega
  | false =>
      have own := ownCost_le tree
      have weight := Nat.mul_le_mul_right level (one_le (weighs tree))
      rw [one_false]
      omega

/-- A bound that covers each node with what bounds its children covers every tree. -/
theorem cognitive_le {bound : Nat → Tree → Nat}
    (covers : ∀ level tree,
      1 + level + total (bound (level + one (deepens tree))) tree.children ≤ bound level tree)
    (level : Nat) (tree : Tree) : one (isElse tree) + cognitive level tree ≤ bound level tree := by
  induction tree using Tree.induction generalizing level with
  | step tree below =>
      have inside : tally isElse tree.children +
          total (cognitive (level + one (deepens tree))) tree.children ≤
          total (bound (level + one (deepens tree))) tree.children := by
        rw [tally, ← total_add]
        exact total_le fun child member => below child member _
      have here := charge_le level tree
      have covered := covers level tree
      rw [cognitive_node]
      omega

/-- What a number of conditionals cost from a level on, each of them inside of the one before. -/
def nestedCost (level count : Nat) : Nat := count * (level + 1) + count.choose 2

theorem nestedCost_succ (level count : Nat) :
    nestedCost level (count + 1) = 1 + level + nestedCost (level + 1) count := by
  rw [nestedCost, nestedCost, choose_two_succ, Nat.succ_mul, Nat.mul_succ count (level + 1)]
  omega

def squareBound (level : Nat) (tree : Tree) : Nat := nestedCost level tree.size

theorem squareBound_covers (level : Nat) (tree : Tree) :
    1 + level + total (squareBound (level + one (deepens tree))) tree.children ≤
      squareBound level tree := by
  have deeper := one_le (deepens tree)
  have square := total_choose_two Tree.size tree.children
  have line : total Tree.size tree.children * (level + one (deepens tree) + 1) ≤
      total Tree.size tree.children * (level + 1 + 1) :=
    Nat.mul_le_mul_left _ (by omega)
  have split : total (squareBound (level + one (deepens tree))) tree.children =
      total Tree.size tree.children * (level + one (deepens tree) + 1) +
        total (fun child => child.size.choose 2) tree.children := by
    rw [← total_mul, ← total_add]
    rfl
  rw [split, squareBound, size_eq, Nat.add_comm 1 (total _ _), nestedCost_succ, nestedCost]
  omega

theorem deepens_nests (tree : Tree) : (one (deepens tree) : Nat) ≤ one (nests tree) := by
  cases deep : deepens tree with
  | false => exact Nat.zero_le _
  | true =>
      have kind : tree.kind ∈ deepeningKinds := by simpa [deepens] using deep
      have listed : ∀ kind ∈ deepeningKinds, kind ∈ nestingKinds := by decide
      have nested : nests tree = true := by simpa [nests] using listed tree.kind kind
      rw [nested]

theorem maxNesting_step {tree child : Tree} (member : child ∈ tree.children) :
    one (deepens tree) + maxNesting 0 child ≤ maxNesting 0 tree := by
  obtain ⟨index, found⟩ := List.getElem?_of_mem member
  have deeper := maxNesting_child 0 found
  have nested := deepens_nests tree
  rw [maxNesting_level, Nat.zero_add] at deeper
  omega

/-- The number of nodes times the depth. -/
def depthBound (level : Nat) (tree : Tree) : Nat := tree.size * (1 + level + maxNesting 0 tree)

theorem depthBound_covers (level : Nat) (tree : Tree) :
    1 + level + total (depthBound (level + one (deepens tree))) tree.children ≤
      depthBound level tree := by
  have each : total (depthBound (level + one (deepens tree))) tree.children ≤
      total (fun child => child.size * (1 + level + maxNesting 0 tree)) tree.children := by
    apply total_le
    intro child member
    have step := maxNesting_step member
    exact Nat.mul_le_mul_left _ (by omega)
  rw [total_mul] at each
  rw [depthBound, size_eq, Nat.add_mul, Nat.one_mul]
  omega

theorem cognitive_le_square (tree : Tree) :
    (cognitive 0 tree : Nat) ≤ tree.size * (tree.size + 1) / 2 := by
  have bounded := cognitive_le squareBound_covers 0 tree
  have half := Nat.choose_two_right (tree.size + 1)
  rw [choose_two_succ, Nat.add_sub_cancel, Nat.mul_comm] at half
  rw [squareBound, nestedCost] at bounded
  omega

theorem cognitive_le_depth (tree : Tree) :
    (cognitive 0 tree : Nat) ≤ tree.size * (1 + maxNesting 0 tree) :=
  Nat.le_trans (Nat.le_add_left _ _) (cognitive_le depthBound_covers 0 tree)

/-! Words of 32 bits. -/

theorem cognitive_word (tree : Tree) :
    (cognitive 0 tree : UInt32).toNat = cognitive 0 tree % 4294967296 := by
  have word : (cognitive 0 tree : UInt32) = (cognitive 0 tree : Nat).toUInt32 :=
    cognitive_toWord 0 tree
  rw [word]
  exact UInt32.toNat_ofNat'

theorem cognitive_word_eq_iff (tree : Tree) :
    (cognitive 0 tree : UInt32).toNat = cognitive 0 tree ↔
      (cognitive 0 tree : Nat) < 4294967296 := by
  rw [cognitive_word]
  exact Nat.mod_eq_iff_lt (by decide)

theorem cognitive_fits {tree : Tree} (few : tree.size ≤ 92681) :
    (cognitive 0 tree : Nat) < 4294967296 := by
  have square : tree.size * (tree.size + 1) ≤ 92681 * 92682 :=
    Nat.mul_le_mul few (Nat.succ_le_succ few)
  have bound := cognitive_le_square tree
  omega

/-! Conditionals inside one another cost the most. -/

/-- Bare conditionals, one in another. -/
def tower : Nat → Tree
  | 0 => sampleNode "if_statement" []
  | height + 1 => sampleNode "if_statement" [tower height]

theorem isElse_tower (height : Nat) : isElse (tower height) = false := by
  cases height <;> rfl

theorem size_tower (height : Nat) : (tower height).size = height + 1 := by
  induction height with
  | zero => rfl
  | succ height ih =>
      rw [size_eq]
      change 1 + (tower height).size = _
      omega

theorem cognitive_tower (level height : Nat) :
    cognitive level (tower height) = nestedCost level (height + 1) := by
  induction height generalizing level with
  | zero =>
      rw [nestedCost_succ, nestedCost, Nat.zero_mul]
      rfl
  | succ height ih =>
      have step : cognitive level (tower (height + 1)) =
          1 + level + (one (isElse (tower height)) + cognitive (level + 1) (tower height)) := rfl
      rw [step, isElse_tower, ih, nestedCost_succ level (height + 1), one_false, Nat.zero_add]

/-- A statement behind `if(a)`, which begins at a column. -/
def conditional (first last : Nat) (fields : List String) (inner : Tree) : Tree :=
  spot "if_statement" first last fields [
    sign "if" first [],
    spot "parenthesized_expression" (first + 2) (first + 5) ["condition"] [
      sign "(" (first + 2) [], spot "identifier" (first + 3) (first + 4) [] [],
      sign ")" (first + 4) []],
    inner]

/-- Neither the keyword nor the condition costs anything. -/
theorem cognitive_conditional (level first last : Nat) (fields : List String) (inner : Tree) :
    cognitive level (conditional first last fields inner) =
      1 + level + (one (isElse inner) + cognitive (level + 1) inner) := by
  have step : cognitive level (conditional first last fields inner) =
      1 + level + (0 + (0 + (one (isElse inner) + cognitive (level + 1) inner))) := rfl
  rw [step, Nat.zero_add, Nat.zero_add]

theorem size_spot (kind : String) (first last : Nat) (fields : List String) (children : List Tree) :
    (spot kind first last fields children).size = 1 + total Tree.size children :=
  size_eq _

theorem size_sign (text : String) (first : Nat) (fields : List String) :
    (sign text first fields).size = 1 := rfl

theorem size_conditional (first last : Nat) (fields : List String) (inner : Tree) :
    (conditional first last fields inner).size = 6 + inner.size := by
  simp only [conditional, size_spot, size_sign, total]
  omega

/-- The statement `if(a)if(a)…;` from a column on. -/
def conditionals (first : Nat) (fields : List String) : Nat → Tree
  | 0 => spot "empty_statement" first (first + 1) fields [sign ";" first []]
  | depth + 1 =>
    conditional first (first + 5 * depth + 6) fields (conditionals (first + 5) ["consequence"] depth)

/-- A program of that statement alone. -/
def conditionalScript (depth : Nat) : Program where
  source := String.join (List.replicate depth "if(a)") ++ ";"
  root := spot "program" 0 (5 * depth + 1) [] [conditionals 0 [] depth]

theorem isElse_conditionals (first : Nat) (fields : List String) (depth : Nat) :
    isElse (conditionals first fields depth) = false := by
  cases depth <;> rfl

theorem size_conditionals (first : Nat) (fields : List String) (depth : Nat) :
    (conditionals first fields depth).size = 6 * depth + 2 := by
  induction depth generalizing first fields with
  | zero => rfl
  | succ depth ih =>
      rw [conditionals, size_conditional, ih]
      omega

theorem cognitive_conditionals (level first : Nat) (fields : List String) (depth : Nat) :
    cognitive level (conditionals first fields depth) = nestedCost level depth := by
  induction depth generalizing level first fields with
  | zero =>
      rw [nestedCost, Nat.zero_mul]
      rfl
  | succ depth ih =>
      rw [conditionals, cognitive_conditional, isElse_conditionals, ih, nestedCost_succ, one_false,
        Nat.zero_add]

theorem size_conditionalScript (depth : Nat) :
    (conditionalScript depth).root.size = 6 * depth + 3 := by
  simp only [conditionalScript, size_spot, total, size_conditionals]
  omega

theorem cognitive_conditionalScript (depth : Nat) :
    cognitive 0 (conditionalScript depth).root = nestedCost 0 depth := by
  have root : cognitive 0 (conditionalScript depth).root =
      0 + (one false + cognitive 0 (conditionals 0 [] depth)) := rfl
  rw [root, cognitive_conditionals, one_false, Nat.zero_add, Nat.zero_add]

theorem functions_cognitive {program : Program} (rules : BranchRules)
    (fits : (cognitive 0 program.root : Nat) < 4294967296) :
    List.Forall₂ (fun site report => report.cognitive.toNat = cognitive 0 site.2)
      (reportedSites program.root) (moduleReport program rules).functions := by
  apply reports_forall₂
  intro site member
  have reached := Tree.mem_sites.mp (List.mem_of_mem_filter member)
  have inner := cognitive_below reached
  exact (cognitive_word_eq_iff site.2).mpr (by omega)

/-- What is reported as the complexity of a tree is the true figure modulo the words that hold it, and
so it is the true one exactly when this is a number of 32 bits. This is the case for trees of no more
than 92681 nodes and for all whose number of nodes times their depth is a number of 32 bits, but not
for all trees of one node more. It is then also the case for every function of a module. -/
theorem cognitive_exact :
    (∀ tree : Tree,
      (cognitive 0 tree : UInt32).toNat = cognitive 0 tree % 4294967296 ∧
      ((cognitive 0 tree : UInt32).toNat = cognitive 0 tree ↔
        (cognitive 0 tree : Nat) < 4294967296) ∧
      (cognitive 0 tree : Nat) ≤ tree.size * (1 + maxNesting 0 tree) ∧
      (cognitive 0 tree : Nat) ≤ tree.size * (tree.size + 1) / 2 ∧
      (tree.size ≤ 92681 → (cognitive 0 tree : UInt32).toNat = cognitive 0 tree)) ∧
    (∃ tree : Tree, tree.size = 92682 ∧ (cognitive 0 tree : UInt32).toNat ≠ cognitive 0 tree) ∧
    ∀ program rules, (cognitive 0 program.root : Nat) < 4294967296 →
      (moduleReport program rules).aggregate.cognitive.toNat = cognitive 0 program.root ∧
      List.Forall₂ (fun site report => report.cognitive.toNat = cognitive 0 site.2)
        (reportedSites program.root) (moduleReport program rules).functions := by
  refine ⟨fun tree => ⟨cognitive_word tree, cognitive_word_eq_iff tree, cognitive_le_depth tree,
    cognitive_le_square tree, fun few => ?_⟩, ⟨tower 92681, size_tower 92681, ?_⟩, ?_⟩
  · exact (cognitive_word_eq_iff tree).mpr (cognitive_fits few)
  · rw [Ne, cognitive_word_eq_iff, cognitive_tower, nestedCost, Nat.choose_two_right]
    decide
  · intro program rules fits
    exact ⟨(cognitive_word_eq_iff program.root).mpr fits, functions_cognitive rules fits⟩

theorem cognitive_exact_conditionalScript :
    (conditionalScript 15000).root.size ≤ 92681 ∧
    (cognitive 0 (conditionalScript 15000).root : UInt32).toNat = 112507500 ∧
    (moduleReport (conditionalScript 15000) {}).aggregate.cognitive.toNat =
      cognitive 0 (conditionalScript 15000).root := by
  obtain ⟨trees, -, reports⟩ := cognitive_exact
  have few : (conditionalScript 15000).root.size ≤ 92681 := by
    rw [size_conditionalScript]
    decide
  have figure : cognitive 0 (conditionalScript 15000).root = 112507500 := by
    rw [cognitive_conditionalScript, nestedCost, Nat.choose_two_right]
  have exact := (trees (conditionalScript 15000).root).2.2.2.2 few
  refine ⟨few, exact.trans figure, (reports (conditionalScript 15000) {} ?_).1⟩
  rw [figure]
  decide

/-- Of nearly a hundred thousand conditionals inside one another, in a program of less than half a
million characters, the complexity is not what is reported. -/
theorem cognitive_leaves_words :
    (conditionalScript 92682).root.size < 4294967296 ∧
    cognitive 0 (conditionalScript 92682).root = 4295022903 ∧
    (cognitive 0 (conditionalScript 92682).root : UInt32).toNat ≠
      cognitive 0 (conditionalScript 92682).root ∧
    (moduleReport (conditionalScript 92682) {}).aggregate.cognitive.toNat = 55607 := by
  have exact : cognitive 0 (conditionalScript 92682).root = 4295022903 := by
    rw [cognitive_conditionalScript, nestedCost, Nat.choose_two_right]
  have word : (cognitive 0 (conditionalScript 92682).root : UInt32).toNat = 55607 := by
    rw [cognitive_word, exact]
  refine ⟨?_, exact, ?_, word⟩
  · rw [size_conditionalScript]
    decide
  · rw [word, exact]
    decide

end CodeMetrics.JavaScript
