import CodeMetrics.JavaScript.Dependencies
import CodeMetrics.JavaScript.Faults
import CodeMetrics.JavaScript.Functions
import CodeMetrics.JavaScript.Lines
/-!
The report on one script. A program that did not parse has none.
-/
namespace CodeMetrics.JavaScript

def moduleAggregate (program : Program) (rules : BranchRules) (functions : List FunctionReport) :
    ModuleAggregate :=
  let logical := logicalLines true program.root
  let complexity := cyclomatic rules true program.root
  { sloc := ⟨(physicalLines program).toUInt32, logical⟩
    cyclomatic := complexity
    cyclomaticDensity := ModuleAggregate.density complexity logical
    cognitive := cognitive 0 program.root
    maxNesting := maxNesting 0 program.root
    params := total FunctionReport.params functions }

def moduleReport (program : Program) (rules : BranchRules) : ModuleReport :=
  let functions := functionReports program.source rules none program.root
  { aggregate := moduleAggregate program rules functions
    functions := functions
    dependencies := dependencies program.source program.root }

/-- The options of the call go before the rules the analyzer was made with. -/
def analyze (rules : BranchRules) (program : Program) (options : Options) :
    Except AnalyzerError ModuleReport :=
  if program.root.label.damaged then .error (faultError program.root)
  else .ok (moduleReport program (rules.overriddenBy options))

end CodeMetrics.JavaScript
