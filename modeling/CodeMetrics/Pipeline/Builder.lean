import CodeMetrics.Pipeline
/-!
Building a pipeline call by call.
-/
namespace CodeMetrics

structure PipelineBuilder (σ : Type) where
  standard : Bool := true
  plugins : List (Plugin σ) := []

namespace PipelineBuilder
variable {σ : Type}

def loadStandard (builder : PipelineBuilder σ) (load : Bool) : PipelineBuilder σ :=
  { builder with standard := load }

def withoutStandard (builder : PipelineBuilder σ) : PipelineBuilder σ := builder.loadStandard false

def plugin (builder : PipelineBuilder σ) (plugin : Plugin σ) : PipelineBuilder σ :=
  { builder with plugins := builder.plugins ++ [plugin] }

def appendPlugins (builder : PipelineBuilder σ) (plugins : List (Plugin σ)) : PipelineBuilder σ :=
  { builder with plugins := builder.plugins ++ plugins }

def when (builder : PipelineBuilder σ) (condition : Bool)
    (calls : PipelineBuilder σ → PipelineBuilder σ) : PipelineBuilder σ :=
  if condition then calls builder else builder

def build (builder : PipelineBuilder σ) : Pipeline σ := .ofPlugins builder.standard builder.plugins

end PipelineBuilder
end CodeMetrics
