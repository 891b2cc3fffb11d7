import CodeMetrics.Plugin.Standard
import CodeMetrics.Text.Quoted
/-!
The plugins of a project in the order of their registration. At each moment of a run those that
declare it are called one after the other, and the first that fails ends it.
-/
namespace CodeMetrics

def inTurn {τ : Type} : List (Step τ) → Step τ
  | [] => Step.idle
  | step :: rest => fun state =>
    match step state with
    | .ok _ state => inTurn rest state
    | .error complaint state => .error complaint state

structure Pipeline (σ : Type) where
  plugins : List (Plugin σ)

namespace Pipeline
variable {σ : Type}

/-- The standard plugin, if wanted, comes before all others. -/
def ofPlugins (standard : Bool) (plugins : List (Plugin σ)) : Pipeline σ :=
  ⟨(if standard then [standardPlugin] else []) ++ plugins⟩

def names (pipeline : Pipeline σ) : List String := pipeline.plugins.map Plugin.name

def participants (pipeline : Pipeline σ) (hook : Hook) : List (Plugin σ) :=
  pipeline.plugins.filter (·.implements hook)

/-- The settings of a call: those of its options, as the plugins leave them. -/
def configure (pipeline : Pipeline σ) (options : Options) : EStateM Failure σ Settings :=
  fun memory =>
    let steps := (pipeline.participants .configure).map (·.configure options)
    match inTurn steps (Settings.ofOptions options, memory) with
    | .ok _ state => .ok state.1 state.2
    | .error complaint state => .error (.collaborator complaint) state.2

def start (pipeline : Pipeline σ) (settings : Settings) : EStateM Failure σ Unit :=
  fun memory =>
    let steps := (pipeline.participants .start).map (·.start settings)
    match inTurn steps memory with
    | .ok _ memory => .ok () memory
    | .error complaint memory => .error (.collaborator complaint) memory

def finish (pipeline : Pipeline σ) : EStateM Failure (ProjectResult × σ) Unit :=
  fun state =>
    let steps := (pipeline.participants .finish).map (·.finish)
    match inTurn steps state with
    | .ok _ state => .ok () state
    | .error complaint state => .error (.collaborator complaint) state

def describe (pipeline : Pipeline σ) : String :=
  let names := ", ".intercalate (pipeline.names.map Text.quoted)
  s!"PluginPipeline \x7b plugins: [{names}] \x7d"

end Pipeline
end CodeMetrics
