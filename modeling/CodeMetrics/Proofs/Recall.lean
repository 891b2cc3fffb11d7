import CodeMetrics.Proofs.Keeping
import CodeMetrics.Proofs.Runs
import CodeMetrics.Proofs.Sites

/-!
What the plain analyzer of scripts finds, kept in a file and taken up again. Nothing but a density or
a mean can keep a result from coming back as it was: its shortest digits are not always read as the
double that they were written for.
-/

namespace CodeMetrics

def plainAnalyzer (σ : Type) : ProjectAnalyzer σ Program := ProjectOptions.toAnalyzer {}

section Plain
variable {σ : Type}

theorem configure_plain {options : Options} {settings : Settings} {before after : σ}
    (configured : (plainAnalyzer σ).pipeline.configure options before = .ok settings after) :
    settings = (Settings.ofOptions options).set noCoreSizeKey
      (.bool ((options.bool? noCoreSizeKey).getD false)) := by
  cases configured
  rfl

/-- Whether finished or not, a result holds the settings of its run and no extension. -/
theorem analyze_plain {modules : List (ModuleInput Program)} {options : Options}
    {result : ProjectResult} {before after : σ}
    (analyzed : (plainAnalyzer σ).analyze modules options before = .ok result after) :
    result.settings = some ((Settings.ofOptions options).set noCoreSizeKey
      (.bool ((options.bool? noCoreSizeKey).getD false))) ∧
    result.extensions = .empty := by
  obtain ⟨-, settings, configured, started, reports, reported, configuring, -, -, ending⟩ :=
    analyze_eq_ok analyzed
  have chosen := configure_plain configuring
  split at ending
  · obtain ⟨rfl, -⟩ := ending
    rw [chosen]
    exact ⟨rfl, rfl⟩
  · cases ending
    rw [chosen]
    exact ⟨rfl, rfl⟩

theorem keepable_plain {modules : List (ModuleInput Program)} {options : Options}
    {result : ProjectResult} {before after : σ}
    (analyzed : (plainAnalyzer σ).analyze modules options before = .ok result after) :
    result.Keepable := by
  obtain ⟨chosen, extensions⟩ := analyze_plain analyzed
  have values : result.values = [.bool ((options.bool? noCoreSizeKey).getD false)] := by
    rw [ProjectResult.values, chosen, extensions]
    rfl
  have flag : ∀ settings ∈ result.settings, settings.extra.find? Settings.skipKey = none := by
    rw [chosen]
    rintro settings ⟨⟩
    exact Entries.find?_insert _ _ _ _
  have fits : ∀ value ∈ result.values, value.Fits 4 := by
    rw [values]
    exact List.forall_mem_singleton.mpr (Json.fits_bool 4 _)
  constructor
  · rw [values]
    cases (options.bool? noCoreSizeKey).getD false <;> decide
  · exact flag
  · exact Nat.le_trans (ProjectResult.fits_toJson (Nat.le_refl 4) flag fits).nesting (by decide)

/-- A result that was kept is loaded as it was exactly when each density and mean in it survives. -/
theorem load_save_plain {modules : List (ModuleInput Program)} {options : Options}
    {result : ProjectResult} {before after : σ} {files grown : FileTree} {path : String}
    (analyzed : (plainAnalyzer σ).analyze modules options before = .ok result after)
    (saved : result.save files path = .ok grown) :
    ProjectResult.load grown path = .ok result ↔
      ∀ figure ∈ result.figures, rereadFigure figure = some figure := by
  rw [ProjectResult.load_of_save saved]
  exact ProjectResult.ofFileContent_eq_self (keepable_plain analyzed)

end Plain

/-! Scripts of one line. -/

def conjunction (fields : List String) : Nat → Tree
  | 0 => spot "identifier" 0 1 fields []
  | more + 1 => spot "binary_expression" 0 (5 * more + 6) fields [
      conjunction ["left"] more,
      sign "&&" (5 * more + 2) ["operator"],
      spot "identifier" (5 * more + 5) (5 * more + 6) ["right"] []]

def mention (first : Nat) : Tree :=
  spot "expression_statement" first (first + 2) [] [
    spot "identifier" first (first + 1) [] [], sign ";" (first + 1) []]

/-- Complexity 2 on two statements, which is a density of 100. -/
def evenScript : Program where
  source := "a && b; c;"
  root := spot "program" 0 10 [] [
    spot "expression_statement" 0 7 [] [conjunction [] 1, sign ";" 6 []], mention 8]

theorem load_save_plain_evenScript :
    ∃ result, (plainAnalyzer Unit).analyze [⟨evenScript, "a.js", none, none⟩] .empty () =
      .ok result () ∧
    ∃ grown, result.save {} "kept.json" = .ok grown ∧
      ProjectResult.load grown "kept.json" = .ok result := by
  have even : ∃ result,
      (plainAnalyzer Unit).analyze [⟨evenScript, "a.js", none, none⟩] .empty () = .ok result () ∧
      ∀ figure ∈ result.figures, rereadFigure figure = some figure :=
    ⟨_, rfl, by decide +kernel⟩
  obtain ⟨result, analyzed, survive⟩ := even
  have saved : result.save {} "kept.json" =
    .ok (FileTree.put {} ["kept.json"] (.file result.fileText.toUTF8)) := rfl
  exact ⟨result, analyzed, _, saved, (load_save_plain analyzed saved).mpr survive⟩

/-- Complexity 7 on three statements. The density is written as `233.33333333333334`, whose digits
are too many for a double, and so it is read as the second double after it. -/
def unevenScript : Program where
  source := "a && b && c && d && e && f && g; h; i;"
  root := spot "program" 0 38 [] [
    spot "expression_statement" 0 32 [] [conjunction [] 6, sign ";" 31 []], mention 33, mention 36]

theorem load_save_unevenScript :
    ∃ result, (plainAnalyzer Unit).analyze [⟨unevenScript, "a.js", none, none⟩] .empty () =
      .ok result () ∧
    ∃ grown, result.save {} "kept.json" = .ok grown ∧
      ProjectResult.load grown "kept.json" ≠ .ok result := by
  have uneven : ∃ result,
      (plainAnalyzer Unit).analyze [⟨unevenScript, "a.js", none, none⟩] .empty () = .ok result () ∧
      ¬∀ figure ∈ result.figures, rereadFigure figure = some figure :=
    ⟨_, rfl, by decide +kernel⟩
  obtain ⟨result, analyzed, changed⟩ := uneven
  have saved : result.save {} "kept.json" =
    .ok (FileTree.put {} ["kept.json"] (.file result.fileText.toUTF8)) := rfl
  refine ⟨result, analyzed, _, saved, ?_⟩
  rw [ProjectResult.load_of_save saved, ne_eq,
    ProjectResult.ofFileContent_eq_self (keepable_plain analyzed)]
  exact changed

end CodeMetrics
