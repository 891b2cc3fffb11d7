import CodeMetrics.Report.Json
import CodeMetrics.Result
/-!
Results as documents. What has not been computed is left out.
-/
namespace CodeMetrics

namespace ProjectMetrics

def toJson (metrics : ProjectMetrics) : Json :=
  .object [
    ("moduleCount", .ofWord64 metrics.moduleCount),
    ("functionCount", .ofWord64 metrics.functionCount),
    ("dependencyCount", .ofWord64 metrics.dependencyCount),
    ("loc", .ofFloat metrics.loc),
    ("cyclomatic", .ofFloat metrics.cyclomatic),
    ("cognitive", .ofFloat metrics.cognitive),
    ("params", .ofFloat metrics.params),
    ("maxNesting", .ofFloat metrics.maxNesting)]

def schema : Schema Json ProjectMetrics :=
  (Schema.build ProjectMetrics.mk).and (.field "moduleCount" Json.toWord64)
    |>.and (.field "functionCount" Json.toWord64)
    |>.and (.field "dependencyCount" Json.toWord64)
    |>.and (.field "loc" Json.toFloat)
    |>.and (.field "cyclomatic" Json.toFloat)
    |>.and (.field "cognitive" Json.toFloat)
    |>.and (.field "params" Json.toFloat)
    |>.and (.field "maxNesting" Json.toFloat)

def ofJson : Json → Decoded ProjectMetrics := Json.toRecord "ProjectMetrics" schema

end ProjectMetrics

namespace ProjectResult

def extensionMembers (extensions : SortedEntries Json) : List (String × Json) :=
  if extensions.isEmpty then [] else [("extensions", .object extensions.toList)]

def toJson (result : ProjectResult) : Json :=
  .object (
    ("reports", .array (result.reports.map ModuleReport.toJson)) ::
    memberIfSome "settings" Settings.toJson result.settings ++
    memberIfSome "metrics" ProjectMetrics.toJson result.metrics ++
    extensionMembers result.extensions)

def extensionsOfJson (value : Json) : Decoded (SortedEntries Json) :=
  value.toMembers.map SortedEntries.ofList

/-- Only the reports have to be there. -/
def schema : Schema Json ProjectResult :=
  (Schema.build ProjectResult.mk).and (.field "reports" (Json.toList ModuleReport.ofJson))
    |>.and (.optional none "settings" (Json.toOption Settings.ofJson))
    |>.and (.optional none "metrics" (Json.toOption ProjectMetrics.ofJson))
    |>.and (.optional .empty "extensions" extensionsOfJson)

/-- A result is always an object, never a bare sequence of its fields. -/
def ofJson : Json → Except Failure ProjectResult
  | .object members =>
    match schema.decodeMembers members with
    | .ok result => .ok result
    | .error error => .error (.invalidArgument (.resultsMalformed error))
  | other => .error (.invalidArgument (.resultsNotObject other.kindName))

end ProjectResult
end CodeMetrics
