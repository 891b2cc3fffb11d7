import CodeMetrics.Report
/-!
The figures of a project. Each is a mean over its modules, to which a module brings the mean over
its functions, or its own figure when it has none.
-/
namespace CodeMetrics

inductive Figure where
  | loc
  | cyclomatic
  | cognitive
  | params
  | maxNesting
  deriving DecidableEq

namespace Figure

def ofModule : Figure → ModuleAggregate → UInt32
  | .loc, figures => figures.sloc.logical
  | .cyclomatic, figures => figures.cyclomatic
  | .cognitive, figures => figures.cognitive
  | .params, figures => figures.params
  | .maxNesting, figures => figures.maxNesting

def ofFunction : Figure → FunctionReport → UInt32
  | .loc, report => report.sloc.logical
  | .cyclomatic, report => report.cyclomatic
  | .cognitive, report => report.cognitive
  | .params, report => report.params
  | .maxNesting, report => report.maxNesting

end Figure

instance instNatCastFloat : NatCast Float := ⟨Float.ofNat⟩

/-! Means are taken in any type of numbers with addition and division: in doubles for a report. -/
section Averages
variable {α : Type} [Add α] [Div α] [OfNat α 0] [NatCast α]

/-- The mean of nothing is zero. -/
def mean (values : List α) : α :=
  if values.isEmpty then 0 else values.foldl (· + ·) 0 / (values.length : α)

def moduleShare (figure : Figure) (report : ModuleReport) : α :=
  if report.functions.isEmpty then ((figure.ofModule report.aggregate).toNat : α)
  else mean (report.functions.map fun function => ((figure.ofFunction function).toNat : α))

def projectMean (figure : Figure) (reports : List ModuleReport) : α :=
  mean (reports.map (moduleShare figure))

end Averages

structure ProjectMetrics where
  moduleCount : UInt64
  functionCount : UInt64
  dependencyCount : UInt64
  loc : Float
  cyclomatic : Float
  cognitive : Float
  params : Float
  maxNesting : Float
  deriving DecidableEq, Inhabited

def ProjectMetrics.ofReports (reports : List ModuleReport) : ProjectMetrics where
  moduleCount := reports.length.toUInt64
  functionCount := (reports.flatMap ModuleReport.functions).length.toUInt64
  dependencyCount := (reports.flatMap ModuleReport.dependencies).length.toUInt64
  loc := projectMean .loc reports
  cyclomatic := projectMean .cyclomatic reports
  cognitive := projectMean .cognitive reports
  params := projectMean .params reports
  maxNesting := projectMean .maxNesting reports

end CodeMetrics
