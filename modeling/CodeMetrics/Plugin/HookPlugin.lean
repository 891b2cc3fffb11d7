import CodeMetrics.Plugin
import CodeMetrics.Text.Quoted
/-!
Plugins put together hook by hook. A hook that is given again keeps its place among the declared
ones and takes the later body.
-/
namespace CodeMetrics

structure HookPlugin (σ : Type) where
  name : String
  hooks : List Hook := []
  configure : Option (Options → Step (Settings × σ)) := none
  start : Option (Settings → Step σ) := none
  finish : Option (Step (ProjectResult × σ)) := none

namespace HookPlugin
variable {σ : Type}

def declared (hook : Hook) (hooks : List Hook) : List Hook :=
  if hooks.contains hook then hooks else hooks ++ [hook]

def onConfigure (plugin : HookPlugin σ) (body : Options → Step (Settings × σ)) : HookPlugin σ :=
  { plugin with configure := some body, hooks := declared .configure plugin.hooks }

def onStart (plugin : HookPlugin σ) (body : Settings → Step σ) : HookPlugin σ :=
  { plugin with start := some body, hooks := declared .start plugin.hooks }

def onFinish (plugin : HookPlugin σ) (body : Step (ProjectResult × σ)) : HookPlugin σ :=
  { plugin with finish := some body, hooks := declared .finish plugin.hooks }

/-- A hook without a body does nothing. -/
def toPlugin (plugin : HookPlugin σ) : Plugin σ where
  name := plugin.name
  hooks := plugin.hooks
  configure options := (plugin.configure.map (· options)).getD Step.idle
  start settings := (plugin.start.map (· settings)).getD Step.idle
  finish := plugin.finish.getD Step.idle

def hookLabel : Hook → String
  | .configure => "Configure"
  | .start => "ProjectStart"
  | .finish => "ProjectEnd"

def describe (plugin : HookPlugin σ) : String :=
  let name := Text.quoted plugin.name
  let hooks := ", ".intercalate (plugin.hooks.map hookLabel)
  s!"HookPlugin \x7b name: {name}, hooks: [{hooks}] \x7d"

end HookPlugin
end CodeMetrics
