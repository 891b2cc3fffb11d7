import CodeMetrics.Pipeline.Builder
import CodeMetrics.Plugin.HookPlugin
import CodeMetrics.Proofs.Broadcasts

/-!
Plugins and pipelines that are put together call by call. A plugin declares the hooks for which it
was given a body, and a broadcast calls the last body given for its hook. A pipeline has the plugins
of all calls that take effect, in their order, behind the standard one if that is wanted in the end.
-/

namespace CodeMetrics

/-- What a plugin does at a moment of a run. -/
abbrev Hook.Body (σ : Type) : Hook → Type
  | .configure => Options → Step (Settings × σ)
  | .start => Settings → Step σ
  | .finish => Step (ProjectResult × σ)

section Bodies
variable {σ : Type}

def Plugin.body (plugin : Plugin σ) : (hook : Hook) → hook.Body σ
  | .configure => plugin.configure
  | .start => plugin.start
  | .finish => plugin.finish

end Bodies

/-! A plugin is put together by calls that each give it a body for a hook. -/

structure HookCall (σ : Type) where
  hook : Hook
  body : hook.Body σ

namespace HookCall
variable {σ : Type}

def onto (plugin : HookPlugin σ) : HookCall σ → HookPlugin σ
  | ⟨.configure, body⟩ => plugin.onConfigure body
  | ⟨.start, body⟩ => plugin.onStart body
  | ⟨.finish, body⟩ => plugin.onFinish body

def bodyFor? (hook : Hook) (call : HookCall σ) : Option (hook.Body σ) :=
  if same : call.hook = hook then some (same ▸ call.body) else none

theorem isSome_bodyFor? (hook : Hook) (call : HookCall σ) :
    (call.bodyFor? hook).isSome = true ↔ hook = call.hook := by
  rw [bodyFor?]
  by_cases same : call.hook = hook
  · simp [same]
  · simp [same, Ne.symm same]

end HookCall

namespace HookPlugin
variable {σ : Type}

def body? (plugin : HookPlugin σ) : (hook : Hook) → Option (hook.Body σ)
  | .configure => plugin.configure
  | .start => plugin.start
  | .finish => plugin.finish

theorem hooks_onto (plugin : HookPlugin σ) (call : HookCall σ) :
    (call.onto plugin).hooks = declared call.hook plugin.hooks := by
  obtain ⟨hook, body⟩ := call
  cases hook <;> rfl

theorem body?_onto (plugin : HookPlugin σ) (call : HookCall σ) (hook : Hook) :
    (call.onto plugin).body? hook = (call.bodyFor? hook).or (plugin.body? hook) := by
  obtain ⟨given, body⟩ := call
  cases given <;> cases hook <;> rfl

theorem mem_declared {hook given : Hook} {hooks : List Hook} :
    hook ∈ declared given hooks ↔ hook = given ∨ hook ∈ hooks := by
  rw [declared]
  by_cases known : given ∈ hooks
  · rw [if_pos (List.contains_iff_mem.mpr known)]
    constructor
    · exact Or.inr
    · rintro (rfl | member)
      · exact known
      · exact member
  · rw [if_neg (mt List.contains_iff_mem.mp known), List.mem_append, List.mem_singleton, or_comm]

theorem nodup_declared (given : Hook) {hooks : List Hook} (distinct : hooks.Nodup) :
    (declared given hooks).Nodup := by
  rw [declared]
  by_cases known : given ∈ hooks
  · rwa [if_pos (List.contains_iff_mem.mpr known)]
  · rw [if_neg (mt List.contains_iff_mem.mp known)]
    exact distinct.append (List.nodup_singleton given) (List.disjoint_singleton.mpr known)

/-- No hook is declared twice, and those are declared that have a body. -/
structure Coherent (plugin : HookPlugin σ) : Prop where
  distinct : plugin.hooks.Nodup
  declares : ∀ hook, hook ∈ plugin.hooks ↔ (plugin.body? hook).isSome

theorem Coherent.onto {plugin : HookPlugin σ} (coherent : plugin.Coherent) (call : HookCall σ) :
    (call.onto plugin).Coherent where
  distinct := by
    rw [hooks_onto]
    exact nodup_declared call.hook coherent.distinct
  declares hook := by
    rw [hooks_onto, body?_onto, mem_declared, coherent.declares, Option.isSome_or, Bool.or_eq_true,
      HookCall.isSome_bodyFor?]

theorem Coherent.implements_iff {plugin : HookPlugin σ} (coherent : plugin.Coherent) (hook : Hook) :
    plugin.toPlugin.implements hook = true ↔ (plugin.body? hook).isSome :=
  Plugin.implements_iff.trans (coherent.declares hook)

end HookPlugin

namespace PipelineBuilder
variable {σ : Type}

/-! A pipeline is put together by calls, whole sequences of which may stand under conditions. -/

inductive Call (σ : Type) where
  | plugin (added : Plugin σ)
  | plugins (added : List (Plugin σ))
  | loadStandard (load : Bool)
  | withoutStandard

namespace Call

def onto (builder : PipelineBuilder σ) : Call σ → PipelineBuilder σ
  | .plugin added => builder.plugin added
  | .plugins added => builder.appendPlugins added
  | .loadStandard load => builder.loadStandard load
  | .withoutStandard => builder.withoutStandard

end Call

inductive Script (σ : Type) where
  | done
  | call (first : Call σ) (rest : Script σ)
  | when (condition : Bool) (inner rest : Script σ)

namespace Script

/-- The calls one after the other, those under a condition as a block of their own. -/
def run : Script σ → PipelineBuilder σ → PipelineBuilder σ
  | .done => id
  | .call first rest => fun builder => rest.run (first.onto builder)
  | .when condition inner rest => fun builder => rest.run (builder.when condition inner.run)

end Script

end PipelineBuilder

end CodeMetrics
