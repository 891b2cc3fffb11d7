import CodeMetrics.Proofs.Counting
import CodeMetrics.Proofs.Sites
import Mathlib.Data.List.Forall2

/-!
Trees from which some of the nodes of a sort are missing. What is asked of the children of a node has
the same answer without those that are missing, as long as it does not ask for any of them.
-/

namespace CodeMetrics

/-- A list of trees from which some of a sort are missing, and in which the others are replaced. -/
inductive Shortened (sort : Tree → Bool) (replaces : Tree → Tree → Prop) :
    List Tree → List Tree → Prop where
  | nil : Shortened sort replaces [] []
  | kept {child other : Tree} {children others : List Tree} (here : replaces child other)
      (later : Shortened sort replaces children others) :
      Shortened sort replaces (child :: children) (other :: others)
  | missing {child : Tree} {children others : List Tree} (isOne : sort child = true)
      (later : Shortened sort replaces children others) :
      Shortened sort replaces (child :: children) others

/-- A tree from which some of the nodes of a sort are missing, at any depth. -/
inductive Without (sort : Tree → Bool) : Tree → Tree → Prop where
  | node {label : Label} {children others : List Tree}
      (each : Shortened sort (Without sort) children others) :
      Without sort (.node label children) (.node label others)

namespace Shortened
open JavaScript (total)
variable {sort : Tree → Bool} {replaces becomes : Tree → Tree → Prop} {children others : List Tree}

theorem imp_mem (shortened : Shortened sort replaces children others)
    (implies : ∀ child ∈ children, ∀ other, replaces child other → becomes child other) :
    Shortened sort becomes children others := by
  induction shortened with
  | nil => exact .nil
  | kept here _ ih =>
      exact .kept (implies _ List.mem_cons_self _ here)
        (ih fun child member => implies child (List.mem_cons_of_mem _ member))
  | missing isOne _ ih =>
      exact .missing isOne (ih fun child member => implies child (List.mem_cons_of_mem _ member))

theorem total_eq {figure : Tree → Nat} (shortened : Shortened sort replaces children others)
    (same : ∀ {child other}, replaces child other → figure other = figure child)
    (nothing : ∀ {child}, sort child = true → figure child = 0) :
    total figure others = total figure children := by
  induction shortened with
  | nil => rfl
  | kept here _ ih => rw [total, total, same here, ih]
  | missing isOne _ ih => rw [total, nothing isOne, Nat.zero_add, ih]

theorem total_le {figure : Tree → Nat} (shortened : Shortened sort replaces children others)
    (same : ∀ {child other}, replaces child other → figure other = figure child) :
    total figure others ≤ total figure children := by
  induction shortened with
  | nil => exact Nat.le_refl 0
  | kept here _ ih =>
      rw [total, total, same here]
      exact Nat.add_le_add_left ih _
  | missing _ _ ih => exact Nat.le_trans ih (Nat.le_add_left _ _)

theorem any_eq {holds : Tree → Bool} (shortened : Shortened sort replaces children others)
    (same : ∀ {child other}, replaces child other → holds other = holds child)
    (nothing : ∀ {child}, sort child = true → holds child = false) :
    others.any holds = children.any holds := by
  induction shortened with
  | nil => rfl
  | kept here _ ih => rw [List.any_cons, List.any_cons, same here, ih]
  | missing isOne _ ih => rw [List.any_cons, nothing isOne, Bool.false_or, ih]

theorem find?_rel {holds : Tree → Bool} (shortened : Shortened sort replaces children others)
    (same : ∀ {child other}, replaces child other → holds other = holds child)
    (nothing : ∀ {child}, sort child = true → holds child = false) :
    Option.Rel replaces (children.find? holds) (others.find? holds) := by
  induction shortened with
  | nil => exact .none
  | @kept child other _ _ here _ ih =>
      cases held : holds child with
      | true =>
          rw [List.find?_cons_of_pos held, List.find?_cons_of_pos ((same here).trans held)]
          exact .some here
      | false =>
          rw [List.find?_cons_of_neg (by simp [held]),
            List.find?_cons_of_neg (by simp [same here, held])]
          exact ih
  | missing isOne _ ih =>
      rw [List.find?_cons_of_neg (by simp [nothing isOne])]
      exact ih

/-- What is listed child by child corresponds item by item, when nothing is listed for what is
missing. -/
theorem forall₂_flatMap {β : Type} {relates : β → β → Prop} {parts : Tree → List β}
    (shortened : Shortened sort replaces children others)
    (same : ∀ {child other}, replaces child other →
      List.Forall₂ relates (parts child) (parts other))
    (nothing : ∀ {child}, sort child = true → parts child = []) :
    List.Forall₂ relates (children.flatMap parts) (others.flatMap parts) := by
  induction shortened with
  | nil => exact .nil
  | kept here _ ih =>
      rw [List.flatMap_cons, List.flatMap_cons]
      exact List.rel_append (same here) ih
  | missing isOne _ ih =>
      rw [List.flatMap_cons, nothing isOne, List.nil_append]
      exact ih

end Shortened

namespace Without
variable {sort : Tree → Bool} {whole rest : Tree}

theorem label (without : Without sort whole rest) : rest.label = whole.label := by
  cases without
  rfl

theorem children (without : Without sort whole rest) :
    Shortened sort (Without sort) whole.children rest.children := by
  cases without with
  | node each => exact each

theorem kind (without : Without sort whole rest) : rest.kind = whole.kind :=
  congrArg Label.kind without.label

/-- What holds of a tree without some nodes when it holds of what its children are replaced by. -/
@[elab_as_elim]
theorem induction {motive : Tree → Tree → Prop}
    (step : ∀ {whole rest : Tree}, Without sort whole rest →
      Shortened sort (fun child other => Without sort child other ∧ motive child other)
        whole.children rest.children → motive whole rest)
    {whole rest : Tree} (without : Without sort whole rest) : motive whole rest := by
  induction whole using Tree.induction generalizing rest with
  | step whole below =>
      exact step without (without.children.imp_mem fun child member _ inner =>
        ⟨inner, below child member inner⟩)

theorem refl (sort : Tree → Bool) (tree : Tree) : Without sort tree tree := by
  induction tree using Tree.induction with
  | step tree below =>
      have each : ∀ children : List Tree, (∀ child ∈ children, Without sort child child) →
          Shortened sort (Without sort) children children := by
        intro children inside
        induction children with
        | nil => exact .nil
        | cons child rest ih =>
            obtain ⟨here, later⟩ := List.forall_mem_cons.mp inside
            exact .kept here (ih later)
      cases tree with
      | node label children => exact .node (each children below)

/-- What fills a field is never missing, if no node of the sort fills one. -/
theorem field? (without : Without sort whole rest)
    (unfilled : ∀ {child} (field : String), sort child = true → child.fills field = false)
    (name : String) : Option.Rel (Without sort) (whole.field? name) (rest.field? name) := by
  apply without.children.find?_rel
  · intro child other inner
    rw [Tree.fills, Tree.fills, inner.label]
  · intro child isOne
    exact unfilled name isOne

end Without
end CodeMetrics
