import CodeMetrics.Proofs.Growth

/-!
Functions against what stands around them. A function is no deeper and no more complex than the
function or the module that holds it. So are the depths that are reported, since those too great for
a word are all reported as the greatest one; complexities that are too great wrap around instead, and
then a function may be reported as more complex than its module.
-/

namespace CodeMetrics.JavaScript

/-! Figures of two trees, in words of 32 bits. -/

theorem maxNesting_word_le {node tree : Tree}
    (shallow : (maxNesting 0 node : Nat) ≤ maxNesting 0 tree) :
    (maxNesting 0 node : UInt32) ≤ maxNesting 0 tree := by
  rw [UInt32.le_iff_toNat_le, maxNesting_word, maxNesting_word]
  omega

theorem cognitive_word_le {node tree : Tree} (fits : (cognitive 0 tree : Nat) < 4294967296)
    (simple : (cognitive 0 node : Nat) ≤ cognitive 0 tree) :
    (cognitive 0 node : UInt32) ≤ cognitive 0 tree := by
  have inner := (cognitive_word_eq_iff node).mpr (Nat.lt_of_le_of_lt simple fits)
  have whole := (cognitive_word_eq_iff tree).mpr fits
  rw [UInt32.le_iff_toNat_le, inner, whole]
  exact simple

/-! Functions that are reported. -/
section Reports
variable {source : String} {rules : BranchRules} {root : Tree} {reports : List FunctionReport}

theorem reported_reached
    (listed : List.Forall₂ (Reports source rules) (reportedSites root) reports)
    {site : List Nat × Tree} {report : FunctionReport}
    (member : (site, report) ∈ (reportedSites root).zip reports) :
    root.at? site.1 = some site.2 ∧ Reports source rules site report := by
  have inside := List.mem_of_mem_filter (List.of_mem_zip member).1
  exact ⟨Tree.mem_sites.mp inside, List.forall₂_zip listed member⟩

theorem reached_inside {outer inner : List Nat × Tree} (nested : outer.1 <+: inner.1)
    (here : root.at? outer.1 = some outer.2) (there : root.at? inner.1 = some inner.2) :
    ∃ address, outer.2.at? address = some inner.2 := by
  obtain ⟨address, same⟩ := nested
  rw [← same, Tree.at?_append, here] at there
  exact ⟨address, there⟩

theorem Reports.figures {site : List Nat × Tree} {report : FunctionReport}
    (reported : Reports source rules site report) :
    report.maxNesting = maxNesting 0 site.2 ∧ report.cognitive = cognitive 0 site.2 := by
  obtain ⟨above, rfl⟩ := reported
  exact ⟨rfl, rfl⟩

end Reports

/-- The greatest depth of a tree is that of its deepest node, and what is reported of it is the least
of this and the greatest word. A function is no deeper and no more complex than the function or the
module around it, and the module is more complex by what its own constructs around the function add
to each node that weighs. So it is reported, of complexities as far as the greater one is a word. -/
theorem nesting_dominated {rules : BranchRules} {program : Program} {options : Options}
    {report : ModuleReport} (analyzed : analyze rules program options = .ok report) :
    (∀ (tree : Tree) (depth : Nat),
      (∃ site ∈ tree.sites, maxNesting depth tree = depth + nestingAt tree site.1) ∧
      (∀ site ∈ tree.sites, depth + nestingAt tree site.1 ≤ maxNesting depth tree) ∧
      (maxNesting depth tree < 4294967296 →
        maxNesting depth.toUInt32 tree = (maxNesting depth tree).toUInt32) ∧
      (maxNesting 0 tree : UInt32).toNat = min (maxNesting 0 tree) 4294967295) ∧
    List.Forall₂ (Reports program.source (rules.overriddenBy options))
      (reportedSites program.root) report.functions ∧
    ∀ outer f inner g,
      (outer, f) ∈ (reportedSites program.root).zip report.functions →
      (inner, g) ∈ (reportedSites program.root).zip report.functions →
      outer.1 <+: inner.1 →
      (maxNesting 0 inner.2 ≤ maxNesting 0 outer.2 ∧
        maxNesting 0 outer.2 ≤ maxNesting 0 program.root) ∧
      (cognitive 0 inner.2 ≤ cognitive 0 outer.2 ∧
        cognitive 0 outer.2 + depthAt program.root outer.1 * weighing outer.2 ≤
          cognitive 0 program.root) ∧
      (g.maxNesting ≤ f.maxNesting ∧ f.maxNesting ≤ report.aggregate.maxNesting) ∧
      (cognitive 0 outer.2 < 4294967296 → g.cognitive ≤ f.cognitive) ∧
      (cognitive 0 program.root < 4294967296 →
        f.cognitive ≤ report.aggregate.cognitive ∧
        f.cognitive.toNat + depthAt program.root outer.1 * weighing outer.2 ≤
          report.aggregate.cognitive.toNat) := by
  obtain rfl := analyze_eq_ok analyzed
  have listed := functionReports_sites program.source (rules.overriddenBy options) none program.root
  refine ⟨?_, listed, ?_⟩
  · intro tree depth
    obtain ⟨address, node, reached, same⟩ := maxNesting_reached depth tree
    refine ⟨⟨(address, node), Tree.mem_sites.mpr reached, same⟩, ?_, maxNesting_toWord depth tree,
      maxNesting_word tree⟩
    intro site member
    exact nestingAt_le depth (Tree.mem_sites.mp member)
  · intro outer f inner g outerListed innerListed nested
    obtain ⟨here, reported⟩ := reported_reached listed outerListed
    obtain ⟨there, reported'⟩ := reported_reached listed innerListed
    obtain ⟨address, inside⟩ := reached_inside nested here there
    have shallow := maxNesting_below inside
    have shallow' := maxNesting_below here
    have simple : (cognitive 0 inner.2 : Nat) ≤ cognitive 0 outer.2 :=
      Nat.le_trans (Nat.le_add_right _ _) (cognitive_below inside)
    have simple' := cognitive_below here
    obtain ⟨depth, cost⟩ := reported.figures
    obtain ⟨depth', cost'⟩ := reported'.figures
    rw [depth, cost, depth', cost', moduleReport, moduleAggregate]
    refine ⟨⟨shallow, shallow'⟩, ⟨simple, simple'⟩,
      ⟨maxNesting_word_le shallow, maxNesting_word_le shallow'⟩, ?_, ?_⟩
    · exact fun fits => cognitive_word_le fits simple
    · intro fits
      have whole := (cognitive_word_eq_iff program.root).mpr fits
      have middle := (cognitive_word_eq_iff outer.2).mpr (by omega)
      refine ⟨cognitive_word_le fits (by omega), ?_⟩
      rw [whole, middle]
      exact simple'

/-- A function inside of a conditional, and inside of its handler another one with a loop that has a
logical operator in it. -/
def guardedSample : Program where
  source := ""
  root := sampleNode "program" [
    sampleNode "if_statement" [
      sampleNode "function_declaration" [
        sampleNode "try_statement" [
          sampleNode "for_statement" [],
          sampleNode "catch_clause" [
            sampleNode "arrow_function" [
              sampleNode "while_statement" [
                sampleNode "binary_expression" [sign "||" 0 ["operator"]],
                sampleNode "ternary_expression" []]]]]]]]

theorem nesting_dominated_guardedSample :
    ∃ report f g, analyze {} guardedSample .empty = .ok report ∧ report.functions = [f, g] ∧
      [g.maxNesting, f.maxNesting, report.aggregate.maxNesting] = [1, 3, 4] ∧
      [g.cognitive, f.cognitive, report.aggregate.cognitive] = [4, 7, 12] ∧
      (g.maxNesting ≤ f.maxNesting ∧ f.maxNesting ≤ report.aggregate.maxNesting) ∧
      g.cognitive ≤ f.cognitive ∧ f.cognitive.toNat + 1 * 4 ≤ report.aggregate.cognitive.toNat := by
  have listed : ∃ outer f inner g,
      (reportedSites guardedSample.root).zip (moduleReport guardedSample {}).functions =
        [(outer, f), (inner, g)] ∧
      (moduleReport guardedSample {}).functions = [f, g] ∧
      [g.maxNesting, f.maxNesting, (moduleReport guardedSample {}).aggregate.maxNesting] =
        [1, 3, 4] ∧
      [g.cognitive, f.cognitive, (moduleReport guardedSample {}).aggregate.cognitive] =
        [4, 7, 12] ∧
      outer.1 <+: inner.1 ∧ depthAt guardedSample.root outer.1 = 1 ∧ weighing outer.2 = 4 :=
    ⟨_, _, _, _, rfl, rfl, by decide, by decide, by decide, rfl, rfl⟩
  obtain ⟨outer, f, inner, g, zipped, functions, deep, complex, nested, depth, weight⟩ := listed
  have analyzed : analyze {} guardedSample .empty = .ok (moduleReport guardedSample {}) := rfl
  have dominated := (nesting_dominated analyzed).2.2 outer f inner g
  rw [zipped] at dominated
  obtain ⟨-, ⟨-, simple⟩, nesting, inner_le, cognition⟩ :=
    dominated List.mem_cons_self (List.mem_cons_of_mem _ List.mem_cons_self) nested
  have fits : (cognitive 0 guardedSample.root : Nat) < 4294967296 := by decide
  obtain ⟨-, weighted⟩ := cognition fits
  rw [depth, weight] at weighted
  exact ⟨_, f, g, analyzed, functions, deep, complex, nesting, inner_le (by omega), weighted⟩

/-! A function in a conditional, with conditionals inside one another as its body. -/

theorem functionReports_conditional (source : String) (rules : BranchRules) (above : Option Tree)
    (first last : Nat) (fields : List String) (inner : Tree) :
    functionReports source rules above (conditional first last fields inner) =
      functionReports source rules (some (conditional first last fields inner)) inner :=
  List.append_nil _

theorem functionReports_conditionals (source : String) (rules : BranchRules) (above : Option Tree)
    (first : Nat) (fields : List String) (depth : Nat) :
    functionReports source rules above (conditionals first fields depth) = [] := by
  induction depth generalizing above first fields with
  | zero => rfl
  | succ depth ih => rw [conditionals, functionReports_conditional, ih]

/-- The declaration `function f()\x7b…\x7d` behind `if(a)`, with conditionals as its body. -/
def shelteredFunction (depth : Nat) : Tree :=
  spot "function_declaration" 5 (5 * depth + 20) ["consequence"] [
    sign "function" 5 [],
    spot "identifier" 14 15 ["name"] [],
    spot "formal_parameters" 15 17 ["parameters"] [sign "(" 15 [], sign ")" 16 []],
    spot "statement_block" 17 (5 * depth + 20) ["body"] [
      sign "\x7b" 17 [], conditionals 18 [] depth, sign "\x7d" (5 * depth + 19) []]]

/-- The program `if(a)function f()\x7bif(a)if(a)…;\x7d`. -/
def shelteringScript (depth : Nat) : Program where
  source := "if(a)function f()\x7b" ++ String.join (List.replicate depth "if(a)") ++ ";\x7d"
  root := spot "program" 0 (5 * depth + 20) [] [
    conditional 0 (5 * depth + 20) [] (shelteredFunction depth)]

theorem root_shelteringScript (depth : Nat) :
    (shelteringScript depth).root = spot "program" 0 (5 * depth + 20) [] [
      conditional 0 (5 * depth + 20) [] (shelteredFunction depth)] := rfl

theorem functions_shelteringScript (depth : Nat) (rules : BranchRules) :
    ∃ f, (moduleReport (shelteringScript depth) rules).functions = [f] ∧
      f.cognitive = cognitive 0 (shelteredFunction depth) := by
  obtain ⟨outer, inner, step⟩ : ∃ outer inner,
      (moduleReport (shelteringScript depth) rules).functions =
        functionReport (shelteringScript depth).source rules outer (shelteredFunction depth) ::
          ((((functionReports (shelteringScript depth).source rules inner
            (conditionals 18 [] depth) ++ []) ++ []) ++ []) ++ []) := ⟨_, _, rfl⟩
  rw [functionReports_conditionals] at step
  exact ⟨_, step, rfl⟩

theorem cognitive_shelteredFunction (level depth : Nat) :
    cognitive level (shelteredFunction depth) = nestedCost level depth := by
  have step : cognitive level (shelteredFunction depth) =
      0 + (0 + (0 + (0 + (0 + (0 + (0 + (0 + cognitive level (conditionals 18 [] depth)))))))) := rfl
  simp only [step, Nat.zero_add, cognitive_conditionals]

theorem cognitive_shelteringScript (depth : Nat) :
    cognitive 0 (shelteringScript depth).root = nestedCost 0 (depth + 1) := by
  have step (last : Nat) (inner : Tree) :
      cognitive 0 (spot "program" 0 last [] [inner]) = 0 + (0 + cognitive 0 inner) := rfl
  have other : isElse (shelteredFunction depth) = false := rfl
  rw [root_shelteringScript, step, cognitive_conditional, cognitive_shelteredFunction, nestedCost_succ,
    other, one_false]
  omega

theorem size_shelteringScript (depth : Nat) :
    (shelteringScript depth).root.size = 6 * depth + 18 := by
  simp only [root_shelteringScript, shelteredFunction, size_spot, size_sign, size_conditional, total,
    size_conditionals]
  omega

/-- The function around 92681 conditionals has a complexity that is a word, and the module with one
more around it has not: what is reported of the module is less than what is reported of the function.
From the greatest depth that is a word, a conditional comes to no depth at all. -/
theorem nesting_dominated_sheltering :
    (shelteringScript 92681).root.size < 4294967296 ∧
    ∃ report f, analyze {} (shelteringScript 92681) .empty = .ok report ∧ report.functions = [f] ∧
      (f.cognitive.toNat = 4294930221 ∧ report.aggregate.cognitive.toNat = 55607) ∧
      ¬f.cognitive ≤ report.aggregate.cognitive ∧
      (maxNesting 4294967295 (sampleNode "if_statement" []) : UInt32) = 0 := by
  obtain ⟨f, functions, figure⟩ :=
    functions_shelteringScript 92681 (BranchRules.overriddenBy {} .empty)
  have inner : f.cognitive.toNat = 4294930221 := by
    rw [figure, cognitive_word, cognitive_shelteredFunction, nestedCost, Nat.choose_two_right]
  have whole : (cognitive 0 (shelteringScript 92681).root : UInt32).toNat = 55607 := by
    rw [cognitive_word, cognitive_shelteringScript, nestedCost, Nat.choose_two_right]
  refine ⟨?_, _, f, rfl, functions, ⟨inner, whole⟩, ?_, rfl⟩
  · rw [size_shelteringScript]
    decide
  · rw [UInt32.le_iff_toNat_le, inner]
    exact fun less => absurd (whole ▸ less) (by decide)

end CodeMetrics.JavaScript
