import Mathlib
import CodeMetrics.Project

/-!
Runs taken apart: how a run ended and what it left, a sequence of runs step by step, which plugins
have a part in it, and what an analysis has done when it succeeds.
-/

namespace CodeMetrics

section Endings
variable {ε τ β γ : Type}

def outcome : EStateM.Result ε τ β → Except ε β
  | .ok value _ => .ok value
  | .error failure _ => .error failure

def remaining : EStateM.Result ε τ β → τ
  | .ok _ state => state
  | .error _ state => state

def ended : Except ε β → τ → EStateM.Result ε τ β
  | .ok value, state => .ok value state
  | .error failure, state => .error failure state

def failed? : Except ε β → Option ε
  | .ok _ => none
  | .error failure => some failure

@[simp] theorem outcome_ended (answer : Except ε β) (state : τ) :
    outcome (ended answer state) = answer := by
  cases answer <;> rfl

@[simp] theorem remaining_ended (answer : Except ε β) (state : τ) :
    remaining (ended answer state) = state := by
  cases answer <;> rfl

theorem ended_outcome (result : EStateM.Result ε τ β) :
    ended (outcome result) (remaining result) = result := by
  cases result <;> rfl

theorem bind_of_ok {run : EStateM ε τ β} {next : β → EStateM ε τ γ} {before between : τ}
    {value : β} (went : run before = .ok value between) :
    (run >>= next) before = next value between := by
  simp [bind, EStateM.bind, went]

theorem bind_of_error {run : EStateM ε τ β} {next : β → EStateM ε τ γ} {before after : τ}
    {failure : ε} (stopped : run before = .error failure after) :
    (run >>= next) before = .error failure after := by
  simp [bind, EStateM.bind, stopped]

theorem bind_eq_ok {run : EStateM ε τ β} {next : β → EStateM ε τ γ} {before after : τ}
    {value : γ} (went : (run >>= next) before = .ok value after) :
    ∃ middle between, run before = .ok middle between ∧ next middle between = .ok value after := by
  cases first : run before with
  | ok middle between =>
      rw [bind_of_ok first] at went
      exact ⟨middle, between, rfl, went⟩
  | error failure between =>
      rw [bind_of_error first] at went
      cases went

end Endings

section Declaring
variable {σ : Type}

theorem Plugin.implements_iff {plugin : Plugin σ} {hook : Hook} :
    plugin.implements hook = true ↔ hook ∈ plugin.hooks :=
  List.contains_iff_mem

/-- The plugins that declare a hook, in the order of registration. -/
def Pipeline.declaring (pipeline : Pipeline σ) (hook : Hook) : List (Plugin σ) :=
  pipeline.plugins.filter fun plugin => hook ∈ plugin.hooks

theorem Pipeline.participants_eq (pipeline : Pipeline σ) (hook : Hook) :
    pipeline.participants hook = pipeline.declaring hook := by
  apply List.filter_congr
  intro plugin _
  rw [Bool.eq_iff_iff, Plugin.implements_iff, decide_eq_true_iff]

theorem Pipeline.mem_declaring {pipeline : Pipeline σ} {hook : Hook} {plugin : Plugin σ} :
    plugin ∈ pipeline.declaring hook ↔ plugin ∈ pipeline.plugins ∧ hook ∈ plugin.hooks := by
  rw [declaring, List.mem_filter, decide_eq_true_iff]

end Declaring

section Analyses
variable {σ α : Type}

/-- Analyzers that report alike on single modules report alike on all of them. -/
theorem reports_congr {first second : ProjectAnalyzer σ α} {options others : Options}
    (same : ∀ module, first.report options module = second.report others module)
    (modules : List (ModuleInput α)) :
    first.reports options modules = second.reports others modules := by
  induction modules with
  | nil => rfl
  | cons module rest ih => rw [ProjectAnalyzer.reports, ProjectAnalyzer.reports, same, ih]

theorem processResults_eq (project : ProjectAnalyzer σ α) (result : ProjectResult)
    (options : Options) :
    project.processResults result options = (do
      let settings ← project.pipeline.configure options
      project.pipeline.start settings
      project.finished { result with settings := some settings }) := by
  funext memory
  simp only [ProjectAnalyzer.processResults, ProjectAnalyzer.reprocess, ProjectAnalyzer.finished,
    bind, EStateM.bind]
  cases project.pipeline.configure options memory with
  | error failure between => rfl
  | ok settings between =>
      dsimp only
      cases project.pipeline.start settings between <;> rfl

theorem analyze_eq {project : ProjectAnalyzer σ α} {modules : List (ModuleInput α)}
    (named : blankPath? modules = none) (options : Options) :
    project.analyze modules options = project.analyzeChecked modules options := by
  simp [ProjectAnalyzer.analyze, named]

/-- A successful analysis had no blank path, configured and started the plugins, had a report on
every module, and then either stopped there or finished the result. -/
theorem analyze_eq_ok {project : ProjectAnalyzer σ α} {modules : List (ModuleInput α)}
    {options : Options} {before after : σ} {result : ProjectResult}
    (went : project.analyze modules options before = .ok result after) :
    blankPath? modules = none ∧
    ∃ settings configured started reports reported,
      project.pipeline.configure options before = .ok settings configured ∧
      project.pipeline.start settings configured = .ok () started ∧
      project.reports options modules started = .ok reports reported ∧
      if settings.skipCalculation then
        result = { reports := reports, settings := some settings } ∧ after = reported
      else
        project.finished { reports := reports, settings := some settings } reported =
          .ok result after := by
  cases named : blankPath? modules with
  | some index =>
      simp [ProjectAnalyzer.analyze, named, throw, throwThe, MonadExceptOf.throw,
        EStateM.throw] at went
  | none =>
      rw [analyze_eq named] at went
      rcases bind_eq_ok went with ⟨settings, configured, configuring, went⟩
      rcases bind_eq_ok went with ⟨_, started, starting, went⟩
      rcases bind_eq_ok went with ⟨reports, reported, reporting, went⟩
      refine ⟨rfl, settings, configured, started, reports, reported, configuring, starting,
        reporting, ?_⟩
      by_cases skipped : settings.skipCalculation = true
      · simp only [skipped, if_true, pure, EStateM.pure] at went ⊢
        cases went
        exact ⟨rfl, rfl⟩
      · rw [if_neg skipped] at went ⊢
        exact went

end Analyses

end CodeMetrics
