import CodeMetrics.Entries.Sorted
import CodeMetrics.ProjectMetrics
import CodeMetrics.Settings
/-!
The result of a project: the reports on its modules, and what the plugins made of them.
-/
namespace CodeMetrics

structure ProjectResult where
  reports : List ModuleReport := []
  settings : Option Settings := none
  metrics : Option ProjectMetrics := none
  extensions : SortedEntries Json := .empty
  deriving Inhabited

/-- Nothing has been computed for the project as a whole. -/
def ProjectResult.isPartial (result : ProjectResult) : Bool :=
  result.metrics.isNone && result.extensions.isEmpty

end CodeMetrics
