import CodeMetrics.Tree
import Mathlib.Data.List.Basic

/-!
The nodes of a tree with their places. An address is the list of the indices of the children on the
way down from the root; the sites of a tree are its nodes with their addresses, each node before
those below it.
-/

namespace CodeMetrics
namespace Tree

def at? : Tree → List Nat → Option Tree
  | tree, [] => some tree
  | tree, index :: rest => tree.children[index]?.bind fun child => child.at? rest

mutual
def sites : Tree → List (List Nat × Tree)
  | .node label children => ([], .node label children) :: sitesFrom 0 children

def sitesFrom (index : Nat) : List Tree → List (List Nat × Tree)
  | [] => []
  | child :: rest =>
    (sites child).map (fun site => (index :: site.1, site.2)) ++ sitesFrom (index + 1) rest
end

/-- The sites below a child, seen from above it. -/
def sitesBelow (entry : Tree × Nat) : List (List Nat × Tree) :=
  entry.1.sites.map fun site => (entry.2 :: site.1, site.2)

theorem sitesFrom_eq (index : Nat) (children : List Tree) :
    sitesFrom index children = (children.zipIdx index).flatMap sitesBelow := by
  induction children generalizing index with
  | nil => rfl
  | cons child rest ih => rw [sitesFrom, ih, List.zipIdx_cons, List.flatMap_cons, sitesBelow]

theorem sites_eq (tree : Tree) :
    tree.sites = ([], tree) :: tree.children.zipIdx.flatMap sitesBelow := by
  cases tree with
  | node label children =>
      rw [sites, sitesFrom_eq]
      rfl

theorem mem_sitesBelow {root : Tree} {site : List Nat × Tree} :
    site ∈ root.children.zipIdx.flatMap sitesBelow ↔
      ∃ index child below, root.children[index]? = some child ∧ below ∈ child.sites ∧
        site = (index :: below.1, below.2) := by
  simp only [List.mem_flatMap, sitesBelow, List.mem_map, List.mem_zipIdx_iff_getElem?]
  constructor
  · rintro ⟨⟨child, index⟩, found, below, member, rfl⟩
    exact ⟨index, child, below, found, member, rfl⟩
  · rintro ⟨index, child, below, found, member, rfl⟩
    exact ⟨(child, index), found, below, member, rfl⟩

theorem mem_sites {root : Tree} {site : List Nat × Tree} :
    site ∈ root.sites ↔ root.at? site.1 = some site.2 := by
  rcases site with ⟨address, node⟩
  rw [sites_eq, List.mem_cons, mem_sitesBelow]
  induction address generalizing root with
  | nil => simp [at?, eq_comm]
  | cons index rest ih =>
      -- The hypothesis is about all sites of the child, so its list is opened once more.
      simp only [at?, Option.bind_eq_some_iff]
      constructor
      · rintro (same | ⟨place, child, below, found, member, same⟩)
        · cases same
        · cases same
          rw [sites_eq, List.mem_cons, mem_sitesBelow] at member
          exact ⟨child, found, ih.mp member⟩
      · rintro ⟨child, found, reached⟩
        refine .inr ⟨index, child, (rest, node), found, ?_, rfl⟩
        rw [sites_eq, List.mem_cons, mem_sitesBelow]
        exact ih.mpr reached

mutual
/-- What holds of a tree when it holds of its children holds of every tree. -/
theorem induction {motive : Tree → Prop}
    (step : ∀ tree : Tree, (∀ child ∈ tree.children, motive child) → motive tree) (tree : Tree) :
    motive tree := by
  cases tree with
  | node label children => exact step _ (inductionEach step children)

theorem inductionEach {motive : Tree → Prop}
    (step : ∀ tree : Tree, (∀ child ∈ tree.children, motive child) → motive tree)
    (children : List Tree) : ∀ child ∈ children, motive child := by
  cases children with
  | nil => exact fun _ member => absurd member List.not_mem_nil
  | cons child rest =>
      exact List.forall_mem_cons.mpr ⟨induction step child, inductionEach step rest⟩
end

theorem mem_sites_child {root child : Tree} {index : Nat} {site : List Nat × Tree}
    (found : root.children[index]? = some child) (member : site ∈ child.sites) :
    (index :: site.1, site.2) ∈ root.sites := by
  rw [mem_sites] at member ⊢
  rw [at?, found]
  exact member

end Tree

/-! Nodes of samples, by the bytes that they cover and the place of each byte. -/

/-- Where a byte stands in a text whose lines begin at given bytes. -/
def placeOf (lines : List Nat) (byte : Nat) : Position :=
  let begun := lines.takeWhile (· ≤ byte)
  ⟨begun.length - 1, byte - begun.getLastD 0⟩

def spotAt (place : Nat → Position) (kind : String) (first last : Nat) (fields : List String)
    (children : List Tree) : Tree :=
  .node ⟨kind, true, false, false, false, place first, place last, first, last, fields⟩ children

def signAt (place : Nat → Position) (text : String) (first : Nat) (fields : List String) : Tree :=
  let last := first + text.length
  .node ⟨text, false, false, false, false, place first, place last, first, last, fields⟩ []

/-- A node on the first line, where the columns are the bytes. -/
def spot : String → Nat → Nat → List String → List Tree → Tree := spotAt fun byte => ⟨0, byte⟩

def sign : String → Nat → List String → Tree := signAt fun byte => ⟨0, byte⟩

end CodeMetrics
