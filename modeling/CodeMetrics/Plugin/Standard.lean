import CodeMetrics.Plugin
/-!
The plugin that computes the figures of a project.
-/
namespace CodeMetrics

def noCoreSizeKey : String := "noCoreSize"

/-- It also passes one option on into the settings, as a truth value, for plugins that measure
dependency graphs. -/
def standardPlugin {σ : Type} : Plugin σ where
  name := "project-metrics"
  hooks := [.configure, .finish]
  configure options := Step.change fun state =>
    let noCoreSize := (options.bool? noCoreSizeKey).getD false
    (state.1.set noCoreSizeKey (.bool noCoreSize), state.2)
  finish := Step.change fun state =>
    ({ state.1 with metrics := some (.ofReports state.1.reports) }, state.2)

end CodeMetrics
