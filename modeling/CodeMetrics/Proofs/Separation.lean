import CodeMetrics.Proofs.Broadcasts
import CodeMetrics.Proofs.Resumption
import CodeMetrics.Proofs.Trace

/-!
What depends on what. Reports are the work of the analyzer under the options of the caller, whatever
the plugins make of the settings; the settings are the work of the plugins, whatever the modules are
and whatever the analyzer makes of them.
-/

namespace CodeMetrics

section Reports
variable {σ τ α : Type}

/-- Whatever the memory holds, the analyzer gives the same answer. -/
def Analyzer.Answers (analyzer : Analyzer σ α)
    (answer : α → Options → Except AnalyzerError ModuleReport) : Prop :=
  ∀ ast options memory, outcome (analyzer ast options memory) = answer ast options

/-- The analyzer's report on a module, with the paths of the module in place of its own. -/
def ReportsOn (answer : α → Options → Except AnalyzerError ModuleReport) (options : Options)
    (module : ModuleInput α) (report : ModuleReport) : Prop :=
  ∃ found, answer module.ast options = .ok found ∧
    report = { found with
      srcPath := module.srcPath
      filePath := module.filePath
      srcPathAlias := module.srcPathAlias }

/-- A successful analysis whose settings, as configured, skip the project figures. -/
structure SkippingRun (project : ProjectAnalyzer σ α) (modules : List (ModuleInput α))
    (options : Options) (before after : σ) (result : ProjectResult) : Prop where
  analyzed : project.analyze modules options before = .ok result after
  skips : ∀ settings configured,
    project.pipeline.configure options before = .ok settings configured →
      settings.skipCalculation = true

theorem SkippingRun.of_ok {project : ProjectAnalyzer σ α} {modules : List (ModuleInput α)}
    {options : Options} {before after configured : σ} {settings : Settings}
    {result : ProjectResult}
    (analyzed : project.analyze modules options before = .ok result after)
    (chosen : project.pipeline.configure options before = .ok settings configured)
    (skips : settings.skipCalculation = true) :
    SkippingRun project modules options before after result := by
  constructor
  · exact analyzed
  · intro other reached same
    rw [chosen] at same
    cases same
    exact skips

/-- What a skipping run has done: it never finished anything. -/
theorem SkippingRun.parts {project : ProjectAnalyzer σ α} {modules : List (ModuleInput α)}
    {options : Options} {before after : σ} {result : ProjectResult}
    (run : SkippingRun project modules options before after result) :
    ∃ settings configured started reports,
      project.pipeline.configure options before = .ok settings configured ∧
      project.pipeline.start settings configured = .ok () started ∧
      project.reports options modules started = .ok reports after ∧
      settings.skipCalculation = true ∧
      result = { reports := reports, settings := some settings } := by
  obtain ⟨-, settings, configured, started, reports, reported, configuring, starting, reporting,
    ending⟩ := analyze_eq_ok run.analyzed
  have skips := run.skips settings configured configuring
  rw [if_pos skips] at ending
  obtain ⟨same, rfl⟩ := ending
  exact ⟨settings, configured, started, reports, configuring, starting, reporting, skips, same⟩

theorem report_eq_ok {project : ProjectAnalyzer σ α}
    {answer : α → Options → Except AnalyzerError ModuleReport}
    (answers : project.analyzer.Answers answer) {options : Options} {module : ModuleInput α}
    {before after : σ} {report : ModuleReport}
    (reported : project.report options module before = .ok report after) :
    ReportsOn answer options module report := by
  have same := answers module.ast options before
  rw [ProjectAnalyzer.report] at reported
  cases answered : project.analyzer module.ast options before with
  | error error memory =>
      rw [answered] at reported
      cases reported
  | ok found memory =>
      rw [answered] at reported same
      cases reported
      exact ⟨found, same.symm, rfl⟩

theorem reports_eq_ok {project : ProjectAnalyzer σ α}
    {answer : α → Options → Except AnalyzerError ModuleReport}
    (answers : project.analyzer.Answers answer) {options : Options}
    {modules : List (ModuleInput α)} {before after : σ} {reports : List ModuleReport}
    (reported : project.reports options modules before = .ok reports after) :
    List.Forall₂ (ReportsOn answer options) modules reports := by
  induction modules generalizing before reports with
  | nil =>
      cases reported
      exact .nil
  | cons module rest ih =>
      obtain ⟨first, between, here, reported⟩ := bind_eq_ok reported
      obtain ⟨more, between, later, reported⟩ := bind_eq_ok reported
      cases reported
      exact .cons (report_eq_ok answers here) (ih later)

theorem JavaScript.analyzer_answers (rules : JavaScript.BranchRules) :
    (JavaScript.analyzer rules : Analyzer σ Program).Answers (JavaScript.analyze rules) := by
  intro program options memory
  rw [JavaScript.analyzer]
  cases JavaScript.analyze rules program options <;> rfl

theorem reportsOn_unique {answer : α → Options → Except AnalyzerError ModuleReport}
    {options : Options} : Relator.RightUnique (ReportsOn answer options) := by
  rintro module left right ⟨first, here, rfl⟩ ⟨second, there, rfl⟩
  rw [here] at there
  cases there
  rfl

/-- Plugins of two kinds, with memories of two kinds, leave the same reports. -/
theorem reports_alike {first : ProjectAnalyzer σ α} {second : ProjectAnalyzer τ α}
    {answer : α → Options → Except AnalyzerError ModuleReport}
    (firstAnswers : first.analyzer.Answers answer) (secondAnswers : second.analyzer.Answers answer)
    {modules : List (ModuleInput α)} {options : Options} {before after : σ}
    {before' after' : τ} {one other : ProjectResult}
    (run : SkippingRun first modules options before after one)
    (run' : SkippingRun second modules options before' after' other) :
    one.reports = other.reports ∧ List.Forall₂ (ReportsOn answer options) modules one.reports := by
  obtain ⟨_, _, _, reports, -, -, reporting, -, rfl⟩ := run.parts
  obtain ⟨_, _, _, reports', -, -, reporting', -, rfl⟩ := run'.parts
  have here := reports_eq_ok firstAnswers reporting
  have there := reports_eq_ok secondAnswers reporting'
  exact ⟨reportsOn_unique.forall₂ here there, here⟩

theorem SkippingRun.partial {project : ProjectAnalyzer σ α} {modules : List (ModuleInput α)}
    {options : Options} {before after : σ} {result : ProjectResult}
    (run : SkippingRun project modules options before after result) :
    result.metrics = none ∧ result.extensions = .empty := by
  obtain ⟨_, _, _, _, -, -, -, -, rfl⟩ := run.parts
  exact ⟨rfl, rfl⟩

end Reports

section Settings
variable {σ α β : Type}

/-- The configure hook does what its event determines, whatever the memory holds. -/
def Plugin.ConfiguresAlike (plugin : Plugin σ) : Prop :=
  ∀ options settings left right,
    outcome (plugin.configure options (settings, left)) =
      outcome (plugin.configure options (settings, right)) ∧
    (remaining (plugin.configure options (settings, left))).1 =
      (remaining (plugin.configure options (settings, right))).1

theorem inTurn_alike {steps : List (Step (Settings × σ))}
    (alike : ∀ step ∈ steps, ∀ settings left right,
      outcome (step (settings, left)) = outcome (step (settings, right)) ∧
      (remaining (step (settings, left))).1 = (remaining (step (settings, right))).1)
    {settings : Settings} {left right : σ} {one other : Settings × σ}
    (first : inTurn steps (settings, left) = .ok () one)
    (second : inTurn steps (settings, right) = .ok () other) : one.1 = other.1 := by
  induction steps generalizing settings left right with
  | nil =>
      cases first
      cases second
      rfl
  | cons step rest ih =>
      rw [List.forall_mem_cons] at alike
      obtain ⟨⟨chosen, memory⟩, here, first⟩ := inTurn_cons_eq_ok.mp first
      obtain ⟨⟨chosen', memory'⟩, there, second⟩ := inTurn_cons_eq_ok.mp second
      -- The next step is reached with the same settings, if not with the same memory.
      obtain ⟨-, same⟩ := alike.1 settings left right
      rw [here, there] at same
      obtain rfl : chosen = chosen' := same
      exact ih alike.2 first second

theorem configure_alike {pipeline : Pipeline σ}
    (alike : ∀ plugin ∈ pipeline.declaring .configure, plugin.ConfiguresAlike)
    {options : Options} {left right one other : σ} {first second : Settings}
    (here : pipeline.configure options left = .ok first one)
    (there : pipeline.configure options right = .ok second other) : first = second := by
  rw [Pipeline.configure, Pipeline.participants_eq] at here there
  split at here
  · rename_i state went
    split at there
    · rename_i state' went'
      cases here
      cases there
      refine inTurn_alike ?_ went went'
      exact List.forall_mem_map.mpr fun plugin member => alike plugin member options
    · cases there
  · cases here

/-- The place and the settings of a start event. -/
def Event.shownAtStart? : Event α → Option (Nat × Settings)
  | .start place settings _ => some (place, settings)
  | _ => none

def Duty.start? : Duty α → Option Nat
  | .hook .start place => some place
  | _ => none

theorem Meets.shown {options : Options} {duty : Duty α} {before after : Settings}
    {event : Event α} {failure : Option Failure}
    (met : Meets options duty before event after failure) :
    event.shownAtStart? = duty.start?.map (·, before) := by
  cases met <;> rfl

theorem Meets.kept {options : Options} {place : Nat} {before after : Settings}
    {event : Event α} {failure : Option Failure}
    (met : Meets options (.hook .start place) before event after failure) : after = before := by
  cases met
  rfl

theorem Follows.shown_none {options : Options} {duties : List (Duty α)} {before after : Settings}
    {events : List (Event α)} {failure : Option Failure}
    (follows : Follows options duties before events after failure)
    (others : ∀ duty ∈ duties, duty.start? = none) :
    events.filterMap Event.shownAtStart? = [] := by
  induction follows with
  | done => rfl
  | next met _ ih =>
      rw [List.forall_mem_cons] at others
      rw [List.filterMap_cons, met.shown, others.1, ih others.2]
      rfl
  | failed met =>
      rw [List.forall_mem_cons] at others
      rw [List.filterMap_cons, met.shown, others.1]
      rfl

theorem Follows.shown_start {options : Options} {entries : List (Plugin σ × Nat)}
    {settings after : Settings} {events : List (Event α)}
    (follows : Follows options (entries.map fun entry => .hook .start entry.2) settings events
      after none) :
    events.filterMap Event.shownAtStart? = entries.map fun entry => (entry.2, settings) := by
  induction entries generalizing events with
  | nil =>
      cases follows
      rfl
  | cons entry rest ih =>
      cases follows with
      | next met later =>
          rw [List.filterMap_cons, met.shown]
          rw [met.kept] at later
          rw [ih later]
          rfl

theorem Traced.of_ok {γ : Type} {run : EStateM Failure σ γ}
    {logged : EStateM Failure (List (Event α) × σ) γ}
    {law : List (Event α) → Except Failure γ → Prop} (traced : Traced run logged law)
    {before after : σ} {value : γ} (went : run before = .ok value after) (log : List (Event α)) :
    ∃ events, logged (log, before) = .ok value (log ++ events, after) ∧ law events (.ok value) := by
  obtain ⟨events, answer, state, plain, noted, holds⟩ := traced log before
  rw [went] at plain
  cases answer with
  | error failure => cases plain
  | ok other =>
      cases plain
      exact ⟨events, noted, holds⟩

/-- With a log, the run goes the same way, and every start hook is shown these settings. -/
def ShowsAtStart (project : ProjectAnalyzer σ α) (modules : List (ModuleInput α))
    (options : Options) (before after : σ) (result : ProjectResult) (settings : Settings) : Prop :=
  ∀ log, ∃ events,
    project.logged.analyze modules options (log, before) = .ok result (log ++ events, after) ∧
    events.filterMap Event.shownAtStart? =
      (project.pipeline.declarers .start).map fun entry => (entry.2, settings)

theorem SkippingRun.shown {project : ProjectAnalyzer σ α} {modules : List (ModuleInput α)}
    {options : Options} {before after : σ} {result : ProjectResult}
    (run : SkippingRun project modules options before after result) :
    ∃ settings configured,
      project.pipeline.configure options before = .ok settings configured ∧
      result.settings = some settings ∧
      ShowsAtStart project modules options before after result settings := by
  obtain ⟨settings, configured, started, reports, configuring, starting, reporting, skips, rfl⟩ :=
    run.parts
  have named := (analyze_eq_ok run.analyzed).1
  refine ⟨settings, configured, configuring, rfl, ?_⟩
  intro log
  obtain ⟨first, configuring, _, configures, -⟩ :=
    (configure_traced project.pipeline options).of_ok configuring log
  obtain ⟨second, starting, starts⟩ :=
    (start_traced project.pipeline options settings).of_ok starting (log ++ first)
  obtain ⟨third, reporting, analyses⟩ :=
    (reports_traced project options settings modules).of_ok reporting (log ++ first ++ second)
  refine ⟨first ++ (second ++ third), ?_, ?_⟩
  · have pipeline : project.logged.pipeline = project.pipeline.logged := rfl
    rw [analyze_eq named, ProjectAnalyzer.analyzeChecked, pipeline, bind_of_ok configuring,
      bind_of_ok starting, bind_of_ok reporting, if_pos skips, ← List.append_assoc,
      ← List.append_assoc]
    rfl
  · -- Only the second phase has start events, one for each plugin that declares the hook.
    have configured : first.filterMap Event.shownAtStart? = [] := by
      apply configures.shown_none
      intro duty member
      obtain ⟨entry, -, rfl⟩ := List.mem_map.mp member
      rfl
    have analyzed : third.filterMap Event.shownAtStart? = [] := by
      apply analyses.shown_none
      intro duty member
      obtain ⟨module, -, rfl⟩ := List.mem_map.mp member
      rfl
    rw [List.filterMap_append, List.filterMap_append, configured, starts.shown_start, analyzed,
      List.nil_append, List.append_nil]

/-- Modules of two kinds and analyzers of two kinds leave the same settings. -/
theorem settings_alike {pipeline : Pipeline σ}
    (alike : ∀ plugin ∈ pipeline.declaring .configure, plugin.ConfiguresAlike)
    {first : Analyzer σ α} {second : Analyzer σ β} {modules : List (ModuleInput α)}
    {others : List (ModuleInput β)} {options : Options} {before after before' after' : σ}
    {one other : ProjectResult}
    (run : SkippingRun ⟨pipeline, first⟩ modules options before after one)
    (run' : SkippingRun ⟨pipeline, second⟩ others options before' after' other) :
    ∃ settings, one.settings = some settings ∧ other.settings = some settings ∧
      ShowsAtStart ⟨pipeline, first⟩ modules options before after one settings ∧
      ShowsAtStart ⟨pipeline, second⟩ others options before' after' other settings := by
  obtain ⟨settings, _, here, stored, shows⟩ := run.shown
  obtain ⟨settings', _, there, stored', shows'⟩ := run'.shown
  obtain rfl := configure_alike alike here there
  exact ⟨settings, stored, stored', shows, shows'⟩

end Settings

/-- In runs that skip the project figures, the reports do not depend on the plugins, and the
settings depend neither on the modules nor on the analyzer. -/
theorem skipping_runs_separate (options : Options) :
    (∀ {σ τ α : Type} (first : ProjectAnalyzer σ α) (second : ProjectAnalyzer τ α)
      (answer : α → Options → Except AnalyzerError ModuleReport)
      (modules : List (ModuleInput α)) (before after : σ) (before' after' : τ)
      (one other : ProjectResult),
      first.analyzer.Answers answer → second.analyzer.Answers answer →
      SkippingRun first modules options before after one →
      SkippingRun second modules options before' after' other →
      one.reports = other.reports ∧
      List.Forall₂ (ReportsOn answer options) modules one.reports ∧
      (one.metrics = none ∧ one.extensions = .empty) ∧
      (other.metrics = none ∧ other.extensions = .empty)) ∧
    (∀ {σ α β : Type} (pipeline : Pipeline σ) (first : Analyzer σ α) (second : Analyzer σ β)
      (modules : List (ModuleInput α)) (others : List (ModuleInput β))
      (before after before' after' : σ) (one other : ProjectResult),
      (∀ plugin ∈ pipeline.declaring .configure, plugin.ConfiguresAlike) →
      SkippingRun ⟨pipeline, first⟩ modules options before after one →
      SkippingRun ⟨pipeline, second⟩ others options before' after' other →
      ∃ settings, one.settings = some settings ∧ other.settings = some settings ∧
        ShowsAtStart ⟨pipeline, first⟩ modules options before after one settings ∧
        ShowsAtStart ⟨pipeline, second⟩ others options before' after' other settings) := by
  constructor
  · intro σ τ α first second answer modules before after before' after' one other
      firstAnswers secondAnswers run run'
    obtain ⟨same, reports⟩ := reports_alike firstAnswers secondAnswers run run'
    exact ⟨same, reports, run.partial, run'.partial⟩
  · intro σ α β pipeline first second modules others before after before' after' one other
      alike run run'
    exact settings_alike alike run run'

/-- Counts its calls, and marks the settings. -/
def marking : Plugin Nat where
  name := "marking"
  hooks := [.configure, .start]
  configure _ := Step.change fun state => (state.1.set "marked" (.bool true), state.2 + 1)

theorem skipping_runs_separate_marking :
    ∃ one other third,
      SkippingRun ⟨.ofPlugins true [], JavaScript.analyzer {}⟩
        [⟨lone "program", "a.js", none, none⟩] Options.empty.skipping () () one ∧
      SkippingRun ⟨⟨[marking]⟩, JavaScript.analyzer {}⟩
        [⟨lone "program", "a.js", none, none⟩] Options.empty.skipping 0 1 other ∧
      SkippingRun ⟨⟨[marking]⟩, fun name _ => pure { srcPath := name }⟩
        [⟨"b", "b.js", none, none⟩, ⟨"c", "c.js", none, none⟩] Options.empty.skipping 7 8 third ∧
      one.reports = other.reports ∧ other.settings = third.settings := by
  obtain ⟨one, plain⟩ : ∃ one, SkippingRun ⟨.ofPlugins true [], JavaScript.analyzer {}⟩
      [⟨lone "program", "a.js", none, none⟩] Options.empty.skipping () () one :=
    ⟨_, .of_ok rfl rfl rfl⟩
  obtain ⟨other, marked⟩ : ∃ other, SkippingRun ⟨⟨[marking]⟩, JavaScript.analyzer {}⟩
      [⟨lone "program", "a.js", none, none⟩] Options.empty.skipping 0 1 other :=
    ⟨_, .of_ok rfl rfl rfl⟩
  obtain ⟨third, named⟩ : ∃ third,
      SkippingRun ⟨⟨[marking]⟩, fun name _ => pure { srcPath := name }⟩
        [⟨"b", "b.js", none, none⟩, ⟨"c", "c.js", none, none⟩] Options.empty.skipping 7 8 third :=
    ⟨_, .of_ok rfl rfl rfl⟩
  have alike : ∀ plugin ∈ (⟨[marking]⟩ : Pipeline Nat).declaring .configure,
      plugin.ConfiguresAlike := by
    rintro plugin member options settings left right
    cases List.mem_singleton.mp (List.mem_of_mem_filter member)
    exact ⟨rfl, rfl⟩
  obtain ⟨reports, settings⟩ := skipping_runs_separate Options.empty.skipping
  have same := (reports _ _ _ _ _ _ _ _ one other (JavaScript.analyzer_answers {})
    (JavaScript.analyzer_answers {}) plain marked).1
  obtain ⟨chosen, here, there, -⟩ :=
    settings _ _ _ _ _ _ _ _ _ other third alike marked named
  exact ⟨one, other, third, plain, marked, named, same, here.trans there.symm⟩

end CodeMetrics
