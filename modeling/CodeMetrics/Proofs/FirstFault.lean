import CodeMetrics.JavaScript.Analysis
import CodeMetrics.Proofs.Sites

/-!
Where a program did not parse. Each node tells whether there is a fault at it or below, and the
search for the first fault goes only where there is one. What it finds is the first of all faults in
the order of the text.
-/

namespace CodeMetrics.JavaScript

def isFault (tree : Tree) : Bool := tree.label.faulty || tree.label.missing

/-- A node is marked exactly when it is a fault itself or a child is marked. -/
def Coherent (root : Tree) : Prop :=
  ∀ site ∈ root.sites, site.2.label.damaged =
    (isFault site.2 || site.2.children.any fun child => child.label.damaged)

instance instDecidableCoherent (root : Tree) : Decidable (Coherent root) :=
  inferInstanceAs (Decidable (∀ site ∈ root.sites, _))

theorem Coherent.root {tree : Tree} (coherent : Coherent tree) :
    tree.label.damaged = (isFault tree || tree.children.any fun child => child.label.damaged) :=
  coherent ([], tree) (Tree.mem_sites.mpr rfl)

theorem Coherent.child {tree child : Tree} (coherent : Coherent tree)
    (member : child ∈ tree.children) : Coherent child := by
  intro site below
  obtain ⟨index, found⟩ := List.getElem?_of_mem member
  refine coherent (index :: site.1, site.2) (Tree.mem_sites.mpr ?_)
  rw [Tree.at?, found, Option.bind_some]
  exact Tree.mem_sites.mp below

/-! Nodes that are not marked hold no fault, so that nothing is missed where the search stops. -/

mutual
theorem damaged_eq {tree : Tree} (coherent : Coherent tree) :
    tree.label.damaged = tree.sites.any fun site => isFault site.2 := by
  cases tree with
  | node label children =>
      rw [coherent.root, Tree.sites, List.any_cons]
      congr 1
      exact damagedEach_eq 0 children fun child member => coherent.child member

theorem damagedEach_eq (index : Nat) (children : List Tree)
    (coherent : ∀ child ∈ children, Coherent child) :
    (children.any fun child => child.label.damaged) =
      (Tree.sitesFrom index children).any fun site => isFault site.2 := by
  cases children with
  | nil => rfl
  | cons child rest =>
      rw [Tree.sitesFrom, List.any_cons, List.any_append, List.any_map,
        damaged_eq (coherent child List.mem_cons_self),
        damagedEach_eq (index + 1) rest fun other member =>
          coherent other (List.mem_cons_of_mem child member)]
      rfl
end

mutual
theorem firstFault?_eq {tree : Tree} (coherent : Coherent tree) :
    firstFault? tree = (tree.sites.find? fun site => isFault site.2).map Prod.snd := by
  cases tree with
  | node label children =>
      have marked : label.damaged = _ := damaged_eq coherent
      rw [firstFault?]
      cases fault : isFault (.node label children) with
      | true =>
          rw [Tree.sites, List.find?_cons, fault]
          exact if_pos fault
      | false =>
          refine (if_neg (Bool.eq_false_iff.mp fault)).trans ?_
          by_cases damaged : label.damaged = true
          · rw [if_pos damaged, Tree.sites, List.find?_cons, fault]
            exact firstFaultAmong?_eq 0 children fun child member => coherent.child member
          · -- Nothing is looked at below, and there is nothing to be found.
            rw [Bool.eq_false_iff.mpr damaged, eq_comm, List.any_eq_false] at marked
            rw [if_neg damaged, List.find?_eq_none.mpr marked, Option.map_none]

theorem firstFaultAmong?_eq (index : Nat) (children : List Tree)
    (coherent : ∀ child ∈ children, Coherent child) :
    firstFaultAmong? children =
      ((Tree.sitesFrom index children).find? fun site => isFault site.2).map Prod.snd := by
  cases children with
  | nil => rfl
  | cons child rest =>
      rw [firstFaultAmong?, Tree.sitesFrom, List.find?_append, List.find?_map, Option.map_or,
        Option.map_map,
        firstFault?_eq (coherent child List.mem_cons_self),
        firstFaultAmong?_eq (index + 1) rest fun other member =>
          coherent other (List.mem_cons_of_mem child member)]
      rfl
end

theorem exists_firstFault {tree : Tree} (coherent : Coherent tree)
    (damaged : tree.label.damaged = true) :
    ∃ site, tree.sites.find? (fun site => isFault site.2) = some site := by
  rw [damaged_eq coherent, List.any_eq_true] at damaged
  exact Option.isSome_iff_exists.mp (List.find?_isSome.mpr damaged)

/-! What is said of the first fault. -/

theorem faultMessage_of_found {root fault : Tree} (found : firstFault? root = some fault) :
    faultMessage root =
      "Syntax error at line " ++ toString (fault.label.start.row + 1) ++
        ", column " ++ toString (fault.label.start.column + 1) ++ ": " ++
        if fault.label.missing then "missing `" ++ fault.kind ++ "`" else "unexpected token" := by
  rw [faultMessage, found]
  simp only [faultText]
  rfl

/-- A message with a place in it is not the one without. -/
theorem placed_ne (place : String) : "Syntax error at line " ++ place ≠ "Syntax error" := by
  intro same
  have lengths := congrArg String.length same
  rw [String.length_append] at lengths
  have longer : "Syntax error at line ".length = 21 := rfl
  have shorter : "Syntax error".length = 12 := rfl
  omega

theorem analyze_eq_error_iff (rules : BranchRules) (program : Program) (options : Options)
    (error : AnalyzerError) :
    analyze rules program options = .error error ↔
      program.root.label.damaged = true ∧ error = faultError program.root := by
  unfold analyze
  by_cases damaged : program.root.label.damaged = true
  · simp [damaged, eq_comm]
  · simp [damaged]

/-- A program is refused exactly when it holds a fault, whatever the rules and options. What is
said is where the first of all its faults stands, and whether something is missing there. -/
theorem refused_at_first_fault {program : Program} (coherent : Coherent program.root)
    (rules : BranchRules) (options : Options) :
    ((∃ error, analyze rules program options = .error error) ↔
      ∃ site ∈ program.root.sites, isFault site.2 = true) ∧
    ∀ error, analyze rules program options = .error error →
      error.kind = .malformed ∧ error.message ≠ "Syntax error" ∧
      (∃ before site after, program.root.sites = before ++ site :: after ∧
        (∀ earlier ∈ before, isFault earlier.2 = false) ∧ isFault site.2 = true ∧
        error.message =
          "Syntax error at line " ++ toString (site.2.label.start.row + 1) ++
            ", column " ++ toString (site.2.label.start.column + 1) ++ ": " ++
            if site.2.label.missing then "missing `" ++ site.2.kind ++ "`"
            else "unexpected token") ∧
      ∀ others further, analyze others program further = .error error := by
  have marked := damaged_eq coherent
  constructor
  · rw [← List.any_eq_true, ← marked]
    simp only [analyze_eq_error_iff, exists_and_left, exists_eq, and_true]
  · intro error refused
    obtain ⟨damaged, rfl⟩ := (analyze_eq_error_iff ..).mp refused
    obtain ⟨site, found⟩ := exists_firstFault coherent damaged
    obtain ⟨fault, before, after, order, intact⟩ := List.find?_eq_some_iff_append.mp found
    have first : firstFault? program.root = some site.2 := by
      rw [firstFault?_eq coherent, found, Option.map_some]
    have message := faultMessage_of_found first
    refine ⟨rfl, ?_, ⟨before, site, after, order, ?_, fault, message⟩, ?_⟩
    · change faultMessage program.root ≠ _
      rw [message]
      simp only [String.append_assoc]
      exact placed_ne _
    · intro earlier member
      simpa using intact earlier member
    · intro others further
      exact (analyze_eq_error_iff ..).mpr ⟨damaged, rfl⟩

/-- A node that is marked as it should be. -/
def markedNode (kind : String) (place : Position) (faulty missing : Bool) (children : List Tree) :
    Tree :=
  .node { kind := kind, named := true, faulty := faulty, missing := missing
          damaged := faulty || missing || children.any fun child => child.label.damaged
          start := place, stop := place, startByte := 0, stopByte := 0 } children

/-- A statement that is whole, one that lacks its end, and text that fits nowhere. -/
def gapSample : Program where
  source := ""
  root := markedNode "program" ⟨0, 0⟩ false false [
    markedNode "empty_statement" ⟨0, 0⟩ false false [],
    markedNode "expression_statement" ⟨1, 0⟩ false false [
      markedNode "identifier" ⟨1, 0⟩ false false [], markedNode ";" ⟨1, 4⟩ false true []],
    markedNode "ERROR" ⟨2, 0⟩ true false []]

theorem refused_at_first_fault_gapSample :
    Coherent gapSample.root ∧ (∃ site ∈ gapSample.root.sites, isFault site.2 = true) ∧
    ∀ rules options, analyze rules gapSample options =
      .error ⟨.malformed, "Syntax error at line 2, column 5: missing `;`"⟩ := by
  have coherent : Coherent gapSample.root := by decide
  have refused : analyze {} gapSample .empty =
      .error ⟨.malformed, "Syntax error at line 2, column 5: missing `;`"⟩ := rfl
  have first := refused_at_first_fault coherent {} .empty
  exact ⟨coherent, first.1.mp ⟨_, refused⟩, (first.2 _ refused).2.2.2⟩

end CodeMetrics.JavaScript
