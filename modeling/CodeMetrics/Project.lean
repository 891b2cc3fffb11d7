import CodeMetrics.JavaScript.Analysis
import CodeMetrics.Pipeline
import CodeMetrics.Text.Blank
/-!
Running a project: the plugins are configured and started, the modules analyzed in order, and the
plugins finish the result. A result that was kept can be finished anew without its modules.
-/
namespace CodeMetrics

/-- An analyzer of single modules, which may share the memory of the plugins. -/
abbrev Analyzer (σ α : Type) := α → Options → EStateM AnalyzerError σ ModuleReport

structure ProjectAnalyzer (σ α : Type) where
  pipeline : Pipeline σ
  analyzer : Analyzer σ α

def blankPath? {α : Type} (modules : List (ModuleInput α)) : Option Nat :=
  modules.findIdx? fun module => Text.isBlank module.srcPath

namespace ProjectAnalyzer
variable {σ α : Type}

def report (project : ProjectAnalyzer σ α) (options : Options) (module : ModuleInput α) :
    EStateM Failure σ ModuleReport :=
  fun memory =>
    match project.analyzer module.ast options memory with
    | .ok report memory => .ok (report.attachProvenance module) memory
    | .error error memory => .error (.moduleAnalysis module.srcPath error) memory

def reports (project : ProjectAnalyzer σ α) (options : Options) :
    List (ModuleInput α) → EStateM Failure σ (List ModuleReport)
  | [] => pure []
  | module :: rest => do
    let first ← project.report options module
    let more ← project.reports options rest
    return first :: more

/-- Lets the plugins finish a result. When one fails the result is lost. -/
def finished (project : ProjectAnalyzer σ α) (result : ProjectResult) :
    EStateM Failure σ ProjectResult :=
  fun memory =>
    match project.pipeline.finish (result, memory) with
    | .ok _ state => .ok state.1 state.2
    | .error failure state => .error failure state.2

/-- The settings after configuration decide whether the plugins finish the result. -/
def analyzeChecked (project : ProjectAnalyzer σ α) (modules : List (ModuleInput α))
    (options : Options) : EStateM Failure σ ProjectResult := do
  let settings ← project.pipeline.configure options
  project.pipeline.start settings
  let reports ← project.reports options modules
  let result := { reports := reports, settings := some settings }
  if settings.skipCalculation then return result
  project.finished result

def analyze (project : ProjectAnalyzer σ α) (modules : List (ModuleInput α)) (options : Options) :
    EStateM Failure σ ProjectResult :=
  match blankPath? modules with
  | some index => throw (.invalidArgument (.missingPath index))
  | none => project.analyzeChecked modules options

/-- Configures and starts the plugins, then finishes the result under the new settings. The result
is part of the state: what has been changed in it stays when a plugin fails. -/
def reprocess (project : ProjectAnalyzer σ α) (options : Options) :
    EStateM Failure (ProjectResult × σ) Unit :=
  fun state =>
    match project.pipeline.configure options state.2 with
    | .error failure memory => .error failure (state.1, memory)
    | .ok settings memory =>
      match project.pipeline.start settings memory with
      | .error failure memory => .error failure (state.1, memory)
      | .ok _ memory => project.pipeline.finish ({ state.1 with settings := some settings }, memory)

def processResults (project : ProjectAnalyzer σ α) (result : ProjectResult) (options : Options) :
    EStateM Failure σ ProjectResult :=
  fun memory =>
    match project.reprocess options (result, memory) with
    | .ok _ state => .ok state.1 state.2
    | .error failure state => .error failure state.2

end ProjectAnalyzer

def JavaScript.analyzer {σ : Type} (rules : JavaScript.BranchRules) : Analyzer σ Program :=
  fun program options memory =>
    match JavaScript.analyze rules program options with
    | .ok report => .ok report memory
    | .error error => .error error memory

structure ProjectOptions (σ : Type) where
  loadStandard : Bool := true
  plugins : List (Plugin σ) := []
  rules : JavaScript.BranchRules := {}

def ProjectOptions.toAnalyzer {σ : Type} (options : ProjectOptions σ) : ProjectAnalyzer σ Program :=
  ⟨.ofPlugins options.loadStandard options.plugins, JavaScript.analyzer options.rules⟩

end CodeMetrics
