import CodeMetrics.Proofs.Runs

/-!
Taking up a partial result. Scripts are analyzed without regard to whether the project is to be
finished, so an analysis that was skipped over and is finished later ends like one in a single call.
-/

namespace CodeMetrics

/-- The options that ask for reports alone. -/
def Options.skipping (options : Options) : Options := options.insert Settings.skipKey (.bool true)

namespace JavaScript

def BranchRules.keys : List String := ["logicalor", "switchcase", "forin", "trycatch"]

theorem overriddenBy_insert (rules : BranchRules) (options : Options) (key : String) (value : Json)
    (foreign : key ∉ BranchRules.keys) :
    rules.overriddenBy (options.insert key value) = rules.overriddenBy options := by
  have kept (other : String) (known : other ∈ BranchRules.keys) :
      (options.insert key value).bool? other = options.bool? other := by
    have different : other ≠ key := fun same => foreign (same ▸ known)
    simp [Options.bool?, Options.find?_insert, different]
  unfold BranchRules.overriddenBy
  rw [kept "logicalor" (by decide), kept "switchcase" (by decide), kept "forin" (by decide),
    kept "trycatch" (by decide)]

theorem analyze_skipping (rules : BranchRules) (program : Program) (options : Options) :
    analyze rules program options.skipping = analyze rules program options := by
  have foreign : Settings.skipKey ∉ BranchRules.keys := by decide
  simp [analyze, Options.skipping, overriddenBy_insert rules options _ _ foreign]

end JavaScript

section Scripts
variable {σ : Type}

theorem report_skipping (pipeline : Pipeline σ) (rules : JavaScript.BranchRules)
    (options : Options) (module : ModuleInput Program) :
    ProjectAnalyzer.report ⟨pipeline, JavaScript.analyzer rules⟩ options.skipping module =
      ProjectAnalyzer.report ⟨pipeline, JavaScript.analyzer rules⟩ options module := by
  funext memory
  simp [ProjectAnalyzer.report, JavaScript.analyzer, JavaScript.analyze_skipping]

theorem reports_skipping (pipeline : Pipeline σ) (rules : JavaScript.BranchRules)
    (options : Options) (modules : List (ModuleInput Program)) :
    ProjectAnalyzer.reports ⟨pipeline, JavaScript.analyzer rules⟩ options.skipping modules =
      ProjectAnalyzer.reports ⟨pipeline, JavaScript.analyzer rules⟩ options modules :=
  reports_congr (report_skipping pipeline rules options) modules

end Scripts

/-- Plugins without memory are functions of what they are shown. A partial result holds the settings
it was configured with. -/
theorem processResults_of_partial (rules : JavaScript.BranchRules) (pipeline : Pipeline Unit)
    (modules : List (ModuleInput Program)) (options : Options) (partialResult : ProjectResult)
    (settings : Settings)
    (configured : pipeline.configure options.skipping () = .ok settings ())
    (skips : settings.skipCalculation = true)
    (analyzed : ProjectAnalyzer.analyze ⟨pipeline, JavaScript.analyzer rules⟩ modules
      options.skipping () = .ok partialResult ())
    (finishes : ∀ settings, pipeline.configure options () = .ok settings () →
      settings.skipCalculation = false) :
    partialResult.settings = some settings ∧
    ProjectAnalyzer.processResults ⟨pipeline, JavaScript.analyzer rules⟩ partialResult options () =
      ProjectAnalyzer.analyze ⟨pipeline, JavaScript.analyzer rules⟩ modules options () := by
  rcases analyze_eq_ok analyzed with
    ⟨named, chosen, ⟨⟩, ⟨⟩, reports, ⟨⟩, configuring, starting, reporting, ending⟩
  rw [configured] at configuring
  cases configuring
  rw [if_pos skips] at ending
  rcases ending with ⟨rfl, -⟩
  rw [reports_skipping] at reporting
  constructor
  · rfl
  rw [processResults_eq, analyze_eq named]
  unfold ProjectAnalyzer.analyzeChecked
  -- Both calls configure and start alike; only then does the one analyze what the other was given.
  cases configuring : pipeline.configure options () with
  | error failure after => rw [bind_of_error configuring, bind_of_error configuring]
  | ok wanted after =>
      have unskipped := finishes wanted configuring
      rw [bind_of_ok configuring, bind_of_ok configuring]
      cases starting : pipeline.start wanted after with
      | error failure after => rw [bind_of_error starting, bind_of_error starting]
      | ok done after =>
          rw [bind_of_ok starting, bind_of_ok starting, bind_of_ok reporting]
          simp [unskipped]

def reversing : Pipeline Unit :=
  ⟨[standardPlugin,
    { name := "reversing"
      hooks := [.finish]
      finish := Step.change fun state =>
        ({ state.1 with reports := state.1.reports.reverse }, state.2) }]⟩

def lone (kind : String) : Program :=
  ⟨"a", .node ⟨kind, true, false, false, false, ⟨0, 0⟩, ⟨0, 1⟩, 0, 1, []⟩ []⟩

theorem processResults_of_partial_reversing :
    ∃ partialResult,
      ProjectAnalyzer.analyze ⟨reversing, JavaScript.analyzer {}⟩
        [⟨lone "program", "a.js", none, none⟩, ⟨lone "arrow_function", "b.js", none, none⟩]
        Options.empty.skipping () = .ok partialResult () ∧
      ProjectAnalyzer.processResults ⟨reversing, JavaScript.analyzer {}⟩ partialResult .empty () =
        ProjectAnalyzer.analyze ⟨reversing, JavaScript.analyzer {}⟩
          [⟨lone "program", "a.js", none, none⟩, ⟨lone "arrow_function", "b.js", none, none⟩]
          .empty () := by
  refine ⟨_, rfl, (processResults_of_partial {} reversing _ .empty _ _ rfl rfl rfl ?_).2⟩
  intro settings configured
  cases configured
  rfl

/-- Has every result finished, and notes in it that it was not. -/
def forging : Plugin Unit where
  name := "forging"
  hooks := [.configure, .finish]
  configure _ := Step.change fun state => ({ state.1 with skipCalculation := false }, state.2)
  finish := Step.change fun state =>
    ({ state.1 with
        reports := state.1.reports.reverse
        settings := state.1.settings.map fun settings => { settings with skipCalculation := true } },
      state.2)

/-- The flag in a result does not tell whether the run that gave it was skipped over: a plugin that
finishes a result may have set it there, and then the result is finished twice. -/
theorem processResults_of_partial_forging :
    ∃ partialResult finished direct,
      ProjectAnalyzer.analyze ⟨⟨[forging]⟩, JavaScript.analyzer {}⟩
        [⟨lone "program", "a.js", none, none⟩, ⟨lone "program", "b.js", none, none⟩]
        Options.empty.skipping () = .ok partialResult () ∧
      partialResult.settings.map Settings.skipCalculation = some true ∧
      (∃ settings, (⟨[forging]⟩ : Pipeline Unit).configure .empty () = .ok settings () ∧
        settings.skipCalculation = false) ∧
      ProjectAnalyzer.processResults ⟨⟨[forging]⟩, JavaScript.analyzer {}⟩ partialResult .empty () =
        .ok finished () ∧
      ProjectAnalyzer.analyze ⟨⟨[forging]⟩, JavaScript.analyzer {}⟩
        [⟨lone "program", "a.js", none, none⟩, ⟨lone "program", "b.js", none, none⟩] .empty () =
          .ok direct () ∧
      (finished.reports.map ModuleReport.srcPath = ["a.js", "b.js"] ∧
        direct.reports.map ModuleReport.srcPath = ["b.js", "a.js"]) ∧
      finished ≠ direct := by
  refine ⟨_, _, _, rfl, rfl, ⟨_, rfl, rfl⟩, rfl, rfl, ⟨rfl, rfl⟩, ?_⟩
  intro same
  have paths := congrArg (fun result => result.reports.map ModuleReport.srcPath) same
  exact absurd paths (by decide)

end CodeMetrics
