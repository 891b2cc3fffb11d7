import CodeMetrics.Failure
import CodeMetrics.Result
/-!
Plugins: what takes part in a run without being the analyzer. A plugin says at which moments of a
run it wants to be called, and what it does there.
-/
namespace CodeMetrics

/-- The moments of a run, in the order in which they come. -/
inductive Hook where
  | configure
  | start
  | finish
  deriving DecidableEq

def Hook.name : Hook → String
  | .configure => "onConfigure"
  | .start => "onProjectStart"
  | .finish => "onProjectEnd"

/-- A step changes a state, and what it has changed stays changed when it fails. -/
abbrev Step (τ : Type) := EStateM Complaint τ Unit

def Step.idle {τ : Type} : Step τ := fun state => .ok () state

def Step.change {τ : Type} (change : τ → τ) : Step τ := fun state => .ok () (change state)

/-- Every part also sees a memory of type `σ`, which all plugins share and which lasts from run to
run. Beside it, configuring may change the settings, and finishing the result. -/
structure Plugin (σ : Type) where
  name : String
  hooks : List Hook
  configure : Options → Step (Settings × σ) := fun _ => Step.idle
  start : Settings → Step σ := fun _ => Step.idle
  finish : Step (ProjectResult × σ) := Step.idle

def Plugin.implements {σ : Type} (plugin : Plugin σ) (hook : Hook) : Bool :=
  plugin.hooks.contains hook

end CodeMetrics
