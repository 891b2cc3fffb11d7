import CodeMetrics.Report
import CodeMetrics.Json.Decode
/-!
Reports as documents. Members come in the order of the fields; paths that are absent are left out.
-/
namespace CodeMetrics

/-- The member for a value that may be absent. -/
def memberIfSome {α : Type} (name : String) (encode : α → Json) : Option α → List (String × Json)
  | none => []
  | some value => [(name, encode value)]

namespace Sloc

def toJson (sloc : Sloc) : Json :=
  .object [("physical", .ofWord32 sloc.physical), ("logical", .ofWord32 sloc.logical)]

def schema : Schema Json Sloc :=
  (Schema.build Sloc.mk).and (.field "physical" Json.toWord32)
    |>.and (.field "logical" Json.toWord32)

def ofJson : Json → Decoded Sloc := Json.toRecord "Sloc" schema

end Sloc

namespace ModuleAggregate

def toJson (figures : ModuleAggregate) : Json :=
  .object [
    ("sloc", figures.sloc.toJson),
    ("cyclomatic", .ofWord32 figures.cyclomatic),
    ("cyclomaticDensity", .ofFloat figures.cyclomaticDensity),
    ("cognitive", .ofWord32 figures.cognitive),
    ("maxNesting", .ofWord32 figures.maxNesting),
    ("params", .ofWord32 figures.params)]

def schema : Schema Json ModuleAggregate :=
  (Schema.build ModuleAggregate.mk).and (.field "sloc" Sloc.ofJson)
    |>.and (.field "cyclomatic" Json.toWord32)
    |>.and (.field "cyclomaticDensity" Json.toFloat)
    |>.and (.field "cognitive" Json.toWord32)
    |>.and (.field "maxNesting" Json.toWord32)
    |>.and (.field "params" Json.toWord32)

def ofJson : Json → Decoded ModuleAggregate := Json.toRecord "ModuleAggregate" schema

end ModuleAggregate

namespace FunctionReport

def toJson (report : FunctionReport) : Json :=
  .object [
    ("name", .string report.name),
    ("line", .ofWord64 report.line),
    ("params", .ofWord32 report.params),
    ("sloc", report.sloc.toJson),
    ("cyclomatic", .ofWord32 report.cyclomatic),
    ("cognitive", .ofWord32 report.cognitive),
    ("maxNesting", .ofWord32 report.maxNesting)]

def schema : Schema Json FunctionReport :=
  (Schema.build FunctionReport.mk).and (.field "name" Json.toText)
    |>.and (.field "line" Json.toWord64)
    |>.and (.field "params" Json.toWord32)
    |>.and (.field "sloc" Sloc.ofJson)
    |>.and (.field "cyclomatic" Json.toWord32)
    |>.and (.field "cognitive" Json.toWord32)
    |>.and (.field "maxNesting" Json.toWord32)

def ofJson : Json → Decoded FunctionReport := Json.toRecord "FunctionReport" schema

end FunctionReport

namespace DependencyKind

def name : DependencyKind → String
  | .esm => "esm"
  | .commonJs => "commonJs"
  | .dynamic => "dynamic"

def toJson (kind : DependencyKind) : Json := .string kind.name

def ofJson : Json → Decoded DependencyKind :=
  Json.toVariant ([esm, commonJs, dynamic].map fun kind => (kind.name, kind))

end DependencyKind

namespace Dependency

def toJson (dependency : Dependency) : Json :=
  .object [
    ("path", .string dependency.path),
    ("kind", dependency.kind.toJson),
    ("line", .ofWord64 dependency.line)]

def schema : Schema Json Dependency :=
  (Schema.build Dependency.mk).and (.field "path" Json.toText)
    |>.and (.field "kind" DependencyKind.ofJson)
    |>.and (.field "line" Json.toWord64)

def ofJson : Json → Decoded Dependency := Json.toRecord "Dependency" schema

end Dependency

namespace ModuleReport

def toJson (report : ModuleReport) : Json :=
  .object (
    ("srcPath", .string report.srcPath) ::
    memberIfSome "filePath" Json.string report.filePath ++
    memberIfSome "srcPathAlias" Json.string report.srcPathAlias ++ [
    ("aggregate", report.aggregate.toJson),
    ("functions", .array (report.functions.map FunctionReport.toJson)),
    ("dependencies", .array (report.dependencies.map Dependency.toJson))])

/-- Only the aggregate has to be there. -/
def schema : Schema Json ModuleReport :=
  (Schema.build ModuleReport.mk).and (.optional "" "srcPath" Json.toText)
    |>.and (.optional none "filePath" (Json.toOption Json.toText))
    |>.and (.optional none "srcPathAlias" (Json.toOption Json.toText))
    |>.and (.field "aggregate" ModuleAggregate.ofJson)
    |>.and (.optional [] "functions" (Json.toList FunctionReport.ofJson))
    |>.and (.optional [] "dependencies" (Json.toList Dependency.ofJson))

def ofJson : Json → Decoded ModuleReport := Json.toRecord "ModuleReport" schema

end ModuleReport
end CodeMetrics
