import CodeMetrics.JavaScript.Dependencies
import CodeMetrics.Proofs.Sites
import Mathlib.Data.List.DropRight

/-!
How a script spells the modules that it names. The path of a dependency is the text of a literal
without the quote marks at its ends. These are more than the two that delimit the literal when what
stands between begins or ends with a quote mark of its own.
-/

namespace CodeMetrics.JavaScript

/-- No quote mark stands at either end. -/
def BareEnds (text : List Char) : Prop :=
  text.head?.any isQuoteMark = false ∧ text.getLast?.any isQuoteMark = false

instance instDecidableBareEnds (text : List Char) : Decidable (BareEnds text) :=
  inferInstanceAs (Decidable (_ ∧ _))

/-- What is left of a text when the quote marks at both of its ends are gone. -/
structure Bares (text inner : List Char) : Prop where
  around : ∃ left right, text = left ++ inner ++ right ∧
    ∀ char ∈ left ++ right, isQuoteMark char = true
  bare : BareEnds inner

theorem trimQuotes_eq (text : List Char) :
    trimQuotes text = (text.dropWhile isQuoteMark).rdropWhile isQuoteMark := rfl

theorem bare_head_dropWhile (text : List Char) :
    (text.dropWhile isQuoteMark).head?.any isQuoteMark = false := by
  have first := List.head?_dropWhile_not isQuoteMark text
  cases head : (text.dropWhile isQuoteMark).head? with
  | none => rfl
  | some char =>
      rw [head] at first
      exact first

theorem bares_trimQuotes (text : List Char) : Bares text (trimQuotes text) := by
  rw [trimQuotes_eq]
  constructor
  · refine ⟨text.takeWhile isQuoteMark, (text.dropWhile isQuoteMark).rtakeWhile isQuoteMark, ?_, ?_⟩
    · rw [List.append_assoc, List.rdropWhile_append_rtakeWhile, List.takeWhile_append_dropWhile]
    · intro char member
      rcases List.mem_append.mp member with member | member
      · exact List.mem_takeWhile_imp member
      · exact List.mem_rtakeWhile_imp member
  · constructor
    · -- What is dropped at the end leaves the head where it is, if there is one.
      have bare := bare_head_dropWhile text
      obtain ⟨rest, whole⟩ := List.rdropWhile_prefix isQuoteMark (text.dropWhile isQuoteMark)
      cases first : ((text.dropWhile isQuoteMark).rdropWhile isQuoteMark).head? with
      | none => rfl
      | some char =>
          rw [← whole, List.head?_append, first] at bare
          exact bare
    · rw [List.rdropWhile, List.getLast?_reverse]
      exact bare_head_dropWhile _

/-- The marks that delimit a literal go with those that stand next to them. -/
theorem trimQuotes_delimited {mark : Char} (quote : isQuoteMark mark = true) (body : List Char) :
    trimQuotes (mark :: body ++ [mark]) = trimQuotes body := by
  rw [trimQuotes_eq, trimQuotes_eq, List.cons_append, List.dropWhile_cons_of_pos quote,
    List.dropWhile_append]
  by_cases nothing : (body.dropWhile isQuoteMark).isEmpty = true
  · rw [if_pos nothing, List.dropWhile_cons_of_pos quote, List.isEmpty_iff.mp nothing]
    rfl
  · rw [if_neg nothing, List.rdropWhile_concat_pos _ _ _ quote]

theorem Bares.eq_iff {text inner : List Char} (bares : Bares text inner) :
    inner = text ↔ BareEnds text := by
  obtain ⟨left, right, rfl, marks⟩ := bares.around
  constructor
  · intro same
    rw [← same]
    exact bares.bare
  · intro bare
    have first : left = [] := by
      cases left with
      | nil => rfl
      | cons char rest =>
          have mark := marks char (by simp)
          exact absurd mark (Bool.eq_false_iff.mp bare.1)
    have last : right = [] := by
      rcases List.eq_nil_or_concat' right with rfl | ⟨rest, char, rfl⟩
      · rfl
      · have mark := marks char (by simp)
        have unmarked := bare.2
        rw [← List.append_assoc, List.getLast?_concat] at unmarked
        exact absurd mark (Bool.eq_false_iff.mp unmarked)
    rw [first, last, List.nil_append, List.append_nil]

/-- How a node names a module, and the node that spells its name. -/
inductive Specifies (source : String) (tree specifier : Tree) : DependencyKind → Prop where
  | statement (kind : tree.kind = "import_statement" ∨ tree.kind = "export_statement")
      (found : tree.field? "source" = some specifier) : Specifies source tree specifier .esm
  | requireCall {called : Tree} (kind : tree.kind = "call_expression")
      (function : tree.field? "function" = some called) (other : called.kind ≠ "import")
      (text : called.text? source = some "require")
      (argument : firstArgument? tree = some specifier) : Specifies source tree specifier .commonJs
  | importCall {called : Tree} (kind : tree.kind = "call_expression")
      (function : tree.field? "function" = some called) (isImport : called.kind = "import")
      (argument : firstArgument? tree = some specifier) : Specifies source tree specifier .dynamic

theorem Specifies.dependency?_eq {source : String} {tree specifier : Tree} {kind : DependencyKind}
    (specifies : Specifies source tree specifier kind) :
    dependency? source tree = (stringContent? source specifier).map fun path =>
      ⟨path, kind, tree.line.toUInt64⟩ := by
  cases specifies with
  | statement kind found =>
      rcases kind with kind | kind <;> simp [dependency?, kind, found]
  | requireCall kind function other text argument =>
      cases content : stringContent? source specifier <;>
        simp [dependency?, callKind?, kind, function, other, text, argument, content]
  | importCall kind function isImport argument =>
      cases content : stringContent? source specifier <;>
        simp [dependency?, callKind?, kind, function, isImport, argument, content]

/-! The dependencies of a script are those of its nodes, in order. -/

theorem filterMap_cons_append {β γ : Type} (find? : β → Option γ) (item : β) (rest : List β) :
    (item :: rest).filterMap find? = (find? item).toList ++ rest.filterMap find? := by
  rw [List.filterMap_cons]
  cases find? item <;> rfl

mutual
theorem dependencies_eq (source : String) (tree : Tree) :
    dependencies source tree = tree.sites.filterMap fun site => dependency? source site.2 := by
  cases tree with
  | node label children =>
      rw [dependencies, Tree.sites, filterMap_cons_append, dependenciesEach_eq source 0 children]

theorem dependenciesEach_eq (source : String) (index : Nat) (children : List Tree) :
    dependenciesEach source children =
      (Tree.sitesFrom index children).filterMap fun site => dependency? source site.2 := by
  cases children with
  | nil => rfl
  | cons child rest =>
      rw [dependenciesEach, Tree.sitesFrom, List.filterMap_append, List.filterMap_map,
        dependencies_eq source child, dependenciesEach_eq source (index + 1) rest]
      rfl
end

/-! Literals. -/

/-- A node names a module by a literal that holds a body between two marks of one kind. -/
def Quotes (source : String) (tree : Tree) (kind : DependencyKind) (body : String) : Prop :=
  ∃ specifier mark, Specifies source tree specifier kind ∧ specifier.kind = "string" ∧
    isQuoteMark mark = true ∧
    specifier.text? source = some (String.singleton mark ++ body ++ String.singleton mark)

theorem stringContent?_delimited {source body : String} {literal : Tree} {mark : Char}
    (kind : literal.kind = "string") (quote : isQuoteMark mark = true)
    (text : literal.text? source = some (String.singleton mark ++ body ++ String.singleton mark)) :
    stringContent? source literal = some (String.ofList (trimQuotes body.toList)) := by
  have chars : (String.singleton mark ++ body ++ String.singleton mark).toList =
      mark :: body.toList ++ [mark] := by simp
  rw [stringContent?, kind, beq_self_eq_true, if_pos rfl, text, Option.map_some, chars,
    trimQuotes_delimited quote]

theorem Quotes.dependency?_eq {source : String} {tree : Tree} {kind : DependencyKind}
    {body : String} (quoted : Quotes source tree kind body) :
    dependency? source tree =
      some ⟨String.ofList (trimQuotes body.toList), kind, tree.line.toUInt64⟩ := by
  obtain ⟨specifier, mark, specifies, literal, quote, text⟩ := quoted
  rw [specifies.dependency?_eq, stringContent?_delimited literal quote text, Option.map_some]

theorem trimQuotes_eq_body_iff (body : String) :
    String.ofList (trimQuotes body.toList) = body ↔ BareEnds body.toList := by
  rw [← (bares_trimQuotes body.toList).eq_iff, ← String.toList_inj, String.toList_ofList]

/-- A module that is named by a literal is reported by what is left of the body of the literal
without the quote marks at its ends. This is the body itself exactly when it has none there, and
bodies that have none there are told apart by their paths. -/
theorem path_of_literal {source : String} {root : Tree} {site : List Nat × Tree}
    {kind : DependencyKind} {body : String} (member : site ∈ root.sites)
    (quoted : Quotes source site.2 kind body) :
    ∃ path, dependency? source site.2 = some ⟨path, kind, site.2.line.toUInt64⟩ ∧
      ⟨path, kind, site.2.line.toUInt64⟩ ∈ dependencies source root ∧
      Bares body.toList path.toList ∧ (path = body ↔ BareEnds body.toList) ∧
      ∀ other otherKind otherBody, Quotes source other otherKind otherBody →
        BareEnds body.toList → BareEnds otherBody.toList →
        (dependency? source other).map Dependency.path = some path → otherBody = body := by
  have reported := quoted.dependency?_eq
  refine ⟨_, reported, ?_, ?_, trimQuotes_eq_body_iff body, ?_⟩
  · rw [dependencies_eq]
    exact List.mem_filterMap.mpr ⟨site, member, reported⟩
  · rw [String.toList_ofList]
    exact bares_trimQuotes body.toList
  · intro other otherKind otherBody alike bare otherBare same
    rw [alike.dependency?_eq, Option.map_some, Option.some.injEq,
      (trimQuotes_eq_body_iff otherBody).mpr otherBare,
      (trimQuotes_eq_body_iff body).mpr bare] at same
    exact same

/-- The call `require("…")` at the beginning of a line. -/
def requireCall (body : String) : Tree :=
  let stop := 9 + body.utf8ByteSize
  spot "call_expression" 0 (stop + 2) [] [
    spot "identifier" 0 7 ["function"] [],
    spot "arguments" 7 (stop + 2) ["arguments"] [
      sign "(" 7 [],
      spot "string" 8 (stop + 1) [] [
        sign "\"" 8 [], spot "string_fragment" 9 stop [] [], sign "\"" stop []],
      sign ")" (stop + 1) []]]

/-- A program of that call alone. -/
def requiring (body : String) : Program :=
  let stop := 12 + body.utf8ByteSize
  { source := "require(\"" ++ body ++ "\");"
    root := spot "program" 0 stop [] [
      spot "expression_statement" 0 stop [] [requireCall body, sign ";" (stop - 1) []]] }

theorem path_of_literal_innerQuote :
    ([0, 0], requireCall "it's") ∈ (requiring "it's").root.sites ∧
    Quotes (requiring "it's").source (requireCall "it's") .commonJs "it's" ∧
    ⟨"it's", .commonJs, 1⟩ ∈ dependencies (requiring "it's").source (requiring "it's").root := by
  have member : ([0, 0], requireCall "it's") ∈ (requiring "it's").root.sites :=
    Tree.mem_sites.mpr rfl
  have quoted : Quotes (requiring "it's").source (requireCall "it's") .commonJs "it's" :=
    ⟨_, '"', .requireCall rfl rfl (by decide) (by decide +kernel) rfl, rfl, rfl, by decide +kernel⟩
  obtain ⟨path, -, reported, -, whole, -⟩ := path_of_literal member quoted
  rw [whole.mpr (by decide)] at reported
  exact ⟨member, quoted, reported⟩

/-- A quote mark at the end of the body is lost, and one module is taken for another. -/
theorem path_of_literal_quoteAtEnd :
    (Quotes (requiring "a'").source (requireCall "a'") .commonJs "a'" ∧
      dependencies (requiring "a'").source (requiring "a'").root = [⟨"a", .commonJs, 1⟩]) ∧
    Quotes (requiring "a").source (requireCall "a") .commonJs "a" ∧
      dependencies (requiring "a").source (requiring "a").root = [⟨"a", .commonJs, 1⟩] := by
  refine ⟨⟨?_, by decide +kernel⟩, ?_, by decide +kernel⟩
  · exact ⟨_, '"', .requireCall rfl rfl (by decide) (by decide +kernel) rfl, rfl, rfl,
      by decide +kernel⟩
  · exact ⟨_, '"', .requireCall rfl rfl (by decide) (by decide +kernel) rfl, rfl, rfl,
      by decide +kernel⟩

end CodeMetrics.JavaScript
