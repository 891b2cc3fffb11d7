import CodeMetrics.Proofs.Comments
import CodeMetrics.Proofs.Depths

/-!
What a report lists, against the tree. Its functions are those of the tree and its dependencies those
of the nodes that name a module by a literal, each one once, in the order in which they begin and so
with lines that never go back.
-/

namespace CodeMetrics

/-- Whether a position is not behind another one. -/
def Position.NotAfter (first second : Position) : Prop :=
  first.row < second.row ∨ first.row = second.row ∧ first.column ≤ second.column

instance Position.instDecidableNotAfter (first second : Position) :
    Decidable (first.NotAfter second) :=
  inferInstanceAs (Decidable (_ ∨ _ ∧ _))

theorem Position.NotAfter.row_le {first second : Position} (ordered : first.NotAfter second) :
    first.row ≤ second.row := by
  rcases ordered with above | ⟨same, -⟩
  · exact Nat.le_of_lt above
  · exact Nat.le_of_eq same

/-- A tree lies over its text as a parser leaves it: nodes start in the order in which they come, the
numbers of their lines are words, and literals cover text. -/
structure Program.Placed (program : Program) : Prop where
  starts : program.root.sites.Pairwise fun before after =>
    before.2.label.start.NotAfter after.2.label.start
  lines : ∀ site ∈ program.root.sites, site.2.line < 18446744073709551616
  literals : ∀ site ∈ program.root.sites, site.2.kind = "string" →
    (site.2.text? program.source).isSome

namespace Tree

/-! The addresses of the sites grow in the order of words in a dictionary: a node comes before those
below it, and a child with all below it before the next child. -/

def Before (first second : List Nat × Tree) : Prop := List.Lex (· < ·) first.1 second.1

theorem address_sitesFrom {index : Nat} {children : List Tree} {site : List Nat × Tree}
    (member : site ∈ sitesFrom index children) :
    ∃ place rest, site.1 = place :: rest ∧ index ≤ place := by
  rw [sitesFrom_eq, List.mem_flatMap] at member
  obtain ⟨⟨child, place⟩, placed, below⟩ := member
  obtain ⟨inner, -, rfl⟩ := List.mem_map.mp below
  exact ⟨place, inner.1, rfl, List.le_snd_of_mem_zipIdx placed⟩

mutual
theorem sites_pairwise (tree : Tree) : tree.sites.Pairwise Before := by
  cases tree with
  | node label children =>
      rw [sites]
      refine .cons ?_ (sitesFrom_pairwise 0 children)
      intro site member
      obtain ⟨place, rest, address, -⟩ := address_sitesFrom member
      rw [Before, address]
      exact .nil

theorem sitesFrom_pairwise (index : Nat) (children : List Tree) :
    (sitesFrom index children).Pairwise Before := by
  cases children with
  | nil => exact .nil
  | cons child rest =>
      rw [sitesFrom, List.pairwise_append, List.pairwise_map]
      refine ⟨(sites_pairwise child).imp .cons, sitesFrom_pairwise (index + 1) rest, ?_⟩
      intro first member second later
      obtain ⟨inner, -, rfl⟩ := List.mem_map.mp member
      obtain ⟨place, below, address, behind⟩ := address_sitesFrom later
      rw [Before, address]
      exact .rel behind
end

/-- The node above an address, where one may be given that stands above the root. -/
def above? (outer : Option Tree) (root : Tree) : List Nat → Option Tree
  | [] => outer
  | index :: rest => root.children[index]?.bind fun child => child.above? (some root) rest

end Tree

namespace JavaScript

/-! Functions. -/
section Functions
variable (source : String) (rules : BranchRules)

/-- The report on the function at a site. -/
def reportAt (outer : Option Tree) (root : Tree) (site : List Nat × Tree) : FunctionReport :=
  functionReport source rules (root.above? outer site.1) site.2

mutual
theorem functionReports_eq (outer : Option Tree) (tree : Tree) :
    functionReports source rules outer tree =
      (reportedSites tree).map (reportAt source rules outer tree) := by
  cases tree with
  | node label children =>
      have below := functionReportsEach_eq outer (.node label children) [] children rfl
      have top : isReported ([], .node label children) =
        (label.named && isFunction (.node label children)) := rfl
      rw [functionReports, reportedSites, Tree.sites, List.filter_cons, top, below]
      by_cases reported : (label.named && isFunction (.node label children)) = true
      · rw [if_pos reported, if_pos reported]
        rfl
      · rw [if_neg reported, if_neg reported]
        rfl

/-- The reports on the last children of a node. -/
theorem functionReportsEach_eq (outer : Option Tree) (root : Tree) (before children : List Tree)
    (whole : root.children = before ++ children) :
    functionReportsEach source rules root children =
      ((Tree.sitesFrom before.length children).filter isReported).map
        (reportAt source rules outer root) := by
  cases children with
  | nil => rfl
  | cons child rest =>
      have later := functionReportsEach_eq outer root (before ++ [child]) rest (by simp [whole])
      have found : root.children[before.length]? = some child := by simp [whole]
      rw [List.length_append, List.length_singleton] at later
      rw [functionReportsEach, Tree.sitesFrom, List.filter_append, List.map_append, later,
        functionReports_eq (some root) child, reportedSites, List.filter_map, List.map_map]
      congr 2
      funext site
      simp only [Function.comp_def, reportAt, Tree.above?, found, Option.bind_some]
end

end Functions

theorem reports_forall₂ {program : Program} {rules : BranchRules}
    {holds : List Nat × Tree → FunctionReport → Prop}
    (each : ∀ site ∈ reportedSites program.root,
      holds site (reportAt program.source rules none program.root site)) :
    List.Forall₂ holds (reportedSites program.root) (moduleReport program rules).functions := by
  rw [moduleReport, functionReports_eq, List.forall₂_map_right_iff]
  exact List.forall₂_same.mpr each

/-! Dependencies. -/
section Dependencies
variable {source : String} {tree : Tree}

def isLiteral (tree : Tree) : Bool := tree.kind == "string"

def isLoader (source : String) (called : Tree) : Bool :=
  called.kind == "import" || called.text? source == some "require"

/-- Whether a node names a module by a literal: a statement by its source, a call by the first of its
arguments. -/
def namesModule (source : String) (tree : Tree) : Bool :=
  if tree.kind == "call_expression" then
    (tree.field? "function").any (isLoader source) && (firstArgument? tree).any isLiteral
  else
    (tree.kind == "import_statement" || tree.kind == "export_statement") &&
      (tree.field? "source").any isLiteral

/-- A dependency is what a node names, and it is on the line on which the node starts. -/
def Lists (source : String) (site : List Nat × Tree) (dependency : Dependency) : Prop :=
  (∃ specifier, Specifies source site.2 specifier dependency.kind ∧ specifier.kind = "string" ∧
    stringContent? source specifier = some dependency.path) ∧
  dependency.line = site.2.line.toUInt64

theorem namesModule_iff :
    namesModule source tree = true ↔
      ∃ specifier kind, Specifies source tree specifier kind ∧ specifier.kind = "string" := by
  constructor
  · intro names
    unfold namesModule at names
    split at names
    case isTrue call =>
      rw [Bool.and_eq_true, Option.any_eq_true, Option.any_eq_true] at names
      obtain ⟨⟨called, function, loader⟩, argument, first, literal⟩ := names
      have kind := beq_iff_eq.mp call
      by_cases isImport : called.kind = "import"
      · exact ⟨argument, _, .importCall kind function isImport first, beq_iff_eq.mp literal⟩
      · have text : called.text? source = some "require" := by
          simpa [isLoader, isImport] using loader
        exact ⟨argument, _, .requireCall kind function isImport text first, beq_iff_eq.mp literal⟩
    case isFalse =>
      rw [Bool.and_eq_true, Bool.or_eq_true, Option.any_eq_true] at names
      obtain ⟨kind, literal, found, isOne⟩ := names
      exact ⟨literal, _, .statement (kind.imp beq_iff_eq.mp beq_iff_eq.mp) found,
        beq_iff_eq.mp isOne⟩
  · rintro ⟨specifier, kind, specifies, literal⟩
    cases specifies with
    | statement kind found =>
        rcases kind with kind | kind <;> simp [namesModule, kind, found, isLiteral, literal]
    | requireCall kind function other text argument =>
        simp [namesModule, kind, function, isLoader, text, argument, isLiteral, literal]
    | importCall kind function isImport argument =>
        simp [namesModule, kind, function, isLoader, isImport, argument, isLiteral, literal]

theorem stringContent?_eq_some {specifier : Tree} {path : String}
    (content : stringContent? source specifier = some path) : specifier.kind = "string" := by
  unfold stringContent? at content
  split at content
  case isTrue literal => exact beq_iff_eq.mp literal
  case isFalse => cases content

theorem specifies_of_dependency? {dependency : Dependency}
    (found : dependency? source tree = some dependency) :
    ∃ specifier kind, Specifies source tree specifier kind := by
  by_cases call : tree.kind = "call_expression"
  · rw [dependency?_call call, Option.bind_eq_some_iff] at found
    obtain ⟨kind, called, named⟩ := found
    obtain ⟨path, content, -⟩ := Option.map_eq_some_iff.mp named
    obtain ⟨argument, first, -⟩ := Option.bind_eq_some_iff.mp content
    obtain ⟨function, isCalled, loads⟩ := Option.bind_eq_some_iff.mp called
    by_cases isImport : function.kind = "import"
    · exact ⟨argument, _, .importCall call isCalled isImport first⟩
    · have text : function.text? source = some "require" := by
        by_contra other
        simp [isImport, other] at loads
      exact ⟨argument, _, .requireCall call isCalled isImport text first⟩
  · unfold dependency? at found
    split at found
    case h_3 kind => exact absurd kind call
    case h_4 => cases found
    all_goals
      rename_i kind
      obtain ⟨path, content, -⟩ := Option.map_eq_some_iff.mp found
      obtain ⟨specifier, isSource, -⟩ := Option.bind_eq_some_iff.mp content
    · exact ⟨specifier, _, .statement (.inl kind) isSource⟩
    · exact ⟨specifier, _, .statement (.inr kind) isSource⟩

theorem lists_of_dependency? {site : List Nat × Tree} {dependency : Dependency}
    (found : dependency? source site.2 = some dependency) : Lists source site dependency := by
  obtain ⟨specifier, kind, specifies⟩ := specifies_of_dependency? found
  rw [specifies.dependency?_eq] at found
  obtain ⟨path, content, rfl⟩ := Option.map_eq_some_iff.mp found
  exact ⟨⟨specifier, specifies, stringContent?_eq_some content, content⟩, rfl⟩

theorem field?_reached {name : String} {child : Tree} (found : tree.field? name = some child) :
    ∃ index, tree.at? [index] = some child := by
  obtain ⟨index, place⟩ := List.getElem?_of_mem (List.mem_of_find?_eq_some found)
  exact ⟨index, by rw [Tree.at?, place]; rfl⟩

theorem firstArgument?_reached {argument : Tree} (found : firstArgument? tree = some argument) :
    ∃ address, tree.at? address = some argument := by
  obtain ⟨list, isList, first⟩ := Option.bind_eq_some_iff.mp found
  obtain ⟨index, place⟩ := field?_reached isList
  obtain ⟨inner, innerPlace⟩ := List.getElem?_of_mem (List.mem_of_find?_eq_some first)
  refine ⟨[index] ++ [inner], ?_⟩
  rw [Tree.at?_append, place, Option.bind_some, Tree.at?, innerPlace]
  rfl

/-- What names a module stands inside of the node that names it. -/
theorem Specifies.reached {specifier : Tree} {kind : DependencyKind}
    (specifies : Specifies source tree specifier kind) :
    ∃ address, tree.at? address = some specifier := by
  cases specifies with
  | statement _ found =>
      obtain ⟨index, place⟩ := field?_reached found
      exact ⟨[index], place⟩
  | requireCall _ _ _ _ argument => exact firstArgument?_reached argument
  | importCall _ _ _ argument => exact firstArgument?_reached argument

end Dependencies

theorem forall₂_filterMap {β γ : Type} (find? : β → Option γ) (items : List β) :
    List.Forall₂ (fun item found => find? item = some found)
      (items.filter fun item => (find? item).isSome) (items.filterMap find?) := by
  induction items with
  | nil => exact .nil
  | cons item rest ih =>
      cases found : find? item with
      | none =>
          rw [List.filterMap_cons_none found, List.filter_cons_of_neg (by simp [found])]
          exact ih
      | some result =>
          rw [List.filterMap_cons_some found, List.filter_cons_of_pos (by simp [found])]
          exact .cons found ih

section Placed
variable {program : Program} (placed : program.Placed)
include placed

theorem isSome_dependency? {site : List Nat × Tree} (member : site ∈ program.root.sites) :
    (dependency? program.source site.2).isSome = namesModule program.source site.2 := by
  rw [Bool.eq_iff_iff, namesModule_iff]
  constructor
  · intro found
    obtain ⟨dependency, found⟩ := Option.isSome_iff_exists.mp found
    obtain ⟨⟨specifier, specifies, literal, -⟩, -⟩ := lists_of_dependency? found
    exact ⟨specifier, _, specifies, literal⟩
  · rintro ⟨specifier, kind, specifies, literal⟩
    obtain ⟨address, below⟩ := specifies.reached
    have reached : program.root.at? (site.1 ++ address) = some specifier := by
      rw [Tree.at?_append, Tree.mem_sites.mp member, Option.bind_some, below]
    have covers := placed.literals (_, specifier) (Tree.mem_sites.mpr reached) literal
    rw [specifies.dependency?_eq, Option.isSome_map, stringContent?, literal]
    simpa using covers

theorem dependencies_listed :
    List.Forall₂ (Lists program.source)
      (program.root.sites.filter fun site => namesModule program.source site.2)
      (dependencies program.source program.root) := by
  have listed := forall₂_filterMap (fun site => dependency? program.source site.2)
    program.root.sites
  rw [List.filter_congr fun site member => isSome_dependency? placed member] at listed
  rw [dependencies_eq]
  exact listed.imp fun _ _ found => lists_of_dependency? found

theorem toNat_line {site : List Nat × Tree} (member : site ∈ program.root.sites) :
    site.2.line.toUInt64.toNat = site.2.label.start.row + 1 :=
  UInt64.toNat_ofNat_of_lt (placed.lines site member)

theorem lines_pairwise :
    program.root.sites.Pairwise fun before after =>
      before.2.line.toUInt64 ≤ after.2.line.toUInt64 := by
  apply placed.starts.imp_of_mem
  intro before after member later ordered
  have rows := ordered.row_le
  rw [UInt64.le_iff_toNat_le, toNat_line placed member, toNat_line placed later]
  omega

theorem functions_pairwise (rules : BranchRules) :
    ((functionReports program.source rules none program.root).map
      FunctionReport.line).Pairwise (· ≤ ·) := by
  rw [functionReports_eq, List.map_map, List.pairwise_map]
  exact (lines_pairwise placed).filter _

theorem dependencies_pairwise :
    ((dependencies program.source program.root).map Dependency.line).Pairwise (· ≤ ·) := by
  rw [dependencies_eq, List.pairwise_map, List.pairwise_filterMap]
  apply (lines_pairwise placed).imp
  intro before after ordered first found second later
  rw [(lists_of_dependency? found).2, (lists_of_dependency? later).2]
  exact ordered

/-- The functions that are reported are the named function nodes of the tree and the dependencies
are those of the nodes that name a module by a literal, at any depth, each one once and in the order
of the text. Each is on the line on which its node starts, and lines never go back. -/
theorem report_lists_in_order (intact : program.root.label.damaged = false) (rules : BranchRules)
    (options : Options) :
    ∃ report, analyze rules program options = .ok report ∧
      (∀ site, site ∈ program.root.sites ↔ program.root.at? site.1 = some site.2) ∧
      program.root.sites.Pairwise Tree.Before ∧
      List.Forall₂ (fun site function =>
          function = reportAt program.source (rules.overriddenBy options) none program.root site ∧
          function.line.toNat = site.2.label.start.row + 1)
        (program.root.sites.filter fun site => site.2.label.named && isFunction site.2)
        report.functions ∧
      List.Forall₂ (fun site dependency => Lists program.source site dependency ∧
          dependency.line.toNat = site.2.label.start.row + 1)
        (program.root.sites.filter fun site => namesModule program.source site.2)
        report.dependencies ∧
      (report.functions.map FunctionReport.line).Pairwise (· ≤ ·) ∧
      (report.dependencies.map Dependency.line).Pairwise (· ≤ ·) := by
  refine ⟨moduleReport program (rules.overriddenBy options), ?_, fun _ => Tree.mem_sites,
    program.root.sites_pairwise, ?_, ?_, functions_pairwise placed _, dependencies_pairwise placed⟩
  · rw [analyze, if_neg (Bool.eq_false_iff.mp intact)]
  · apply reports_forall₂
    intro site member
    exact ⟨rfl, toNat_line placed (List.mem_of_mem_filter member)⟩
  · have within (site : List Nat × Tree)
        (member : site ∈ program.root.sites.filter fun site => namesModule program.source site.2) :
        site ∈ program.root.sites := List.mem_of_mem_filter member
    have both := (List.forall₂_and_left _ _).mpr ⟨within, dependencies_listed placed⟩
    apply both.imp
    rintro site dependency ⟨member, lists⟩
    refine ⟨lists, ?_⟩
    rw [lists.2]
    exact toNat_line placed member

end Placed

/-- A function on three lines, with a call that names a module inside of a call that names one. -/
def loadingSample : Program where
  source := "const load = () => \x7b\n  require(\"a\", import(\"b\"));\n\x7d;"
  root :=
    let spot := spotAt (placeOf [0, 21, 50])
    let sign := signAt (placeOf [0, 21, 50])
    spot "program" 0 52 [] [
      spot "lexical_declaration" 0 52 [] [
        sign "const" 0 ["kind"],
        spot "variable_declarator" 6 51 [] [
          spot "identifier" 6 10 ["name"] [],
          sign "=" 11 [],
          spot "arrow_function" 13 51 ["value"] [
            spot "formal_parameters" 13 15 ["parameters"] [sign "(" 13 [], sign ")" 14 []],
            sign "=>" 16 [],
            spot "statement_block" 19 51 ["body"] [
              sign "\x7b" 19 [],
              spot "expression_statement" 23 49 [] [
                spot "call_expression" 23 48 [] [
                  spot "identifier" 23 30 ["function"] [],
                  spot "arguments" 30 48 ["arguments"] [
                    sign "(" 30 [],
                    spot "string" 31 34 [] [
                      sign "\"" 31 [], spot "string_fragment" 32 33 [] [], sign "\"" 33 []],
                    sign "," 34 [],
                    spot "call_expression" 36 47 [] [
                      spot "import" 36 42 ["function"] [],
                      spot "arguments" 42 47 ["arguments"] [
                        sign "(" 42 [],
                        spot "string" 43 46 [] [
                          sign "\"" 43 [], spot "string_fragment" 44 45 [] [],
                          sign "\"" 45 []],
                        sign ")" 46 []]],
                    sign ")" 47 []]],
                sign ";" 48 []],
              sign "\x7d" 50 []]]],
        sign ";" 51 []]]

theorem placed_loadingSample : loadingSample.Placed where
  starts := by decide +kernel
  lines := by decide +kernel
  literals := by decide +kernel

theorem report_lists_in_order_loadingSample :
    ∃ report, analyze {} loadingSample .empty = .ok report ∧
      ((loadingSample.root.sites.filter isReported).map Prod.fst = [[0, 1, 2]] ∧
        report.functions.map FunctionReport.line = [1] ∧ report.functions.length = 1) ∧
      (loadingSample.root.sites.filter fun site =>
          namesModule loadingSample.source site.2).map Prod.fst =
        [[0, 1, 2, 2, 1, 0], [0, 1, 2, 2, 1, 0, 1, 3]] ∧
      report.dependencies = [⟨"a", .commonJs, 2⟩, ⟨"b", .dynamic, 2⟩] ∧
      (report.dependencies.map Dependency.line).Pairwise (· ≤ ·) := by
  obtain ⟨report, analyzed, -, -, functions, -, -, lines⟩ :=
    report_lists_in_order placed_loadingSample rfl {} .empty
  have functionSites : (loadingSample.root.sites.filter isReported).map Prod.fst = [[0, 1, 2]] := by
    decide +kernel
  have count := functions.length_eq
  obtain rfl := analyze_eq_ok analyzed
  refine ⟨_, analyzed, ⟨functionSites, by decide +kernel, ?_⟩, by decide +kernel,
    by decide +kernel, lines⟩
  rw [← count, ← List.length_map Prod.fst]
  exact congrArg List.length functionSites

end JavaScript
end CodeMetrics
