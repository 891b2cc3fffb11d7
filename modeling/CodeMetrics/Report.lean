/-!
What is reported about a module: its figures, those of its functions, and what it depends on.
-/
namespace CodeMetrics

/-- Source lines: those of the text, and the statements on them. -/
structure Sloc where
  physical : UInt32 := 0
  logical : UInt32 := 0
  deriving DecidableEq, Inhabited

structure ModuleAggregate where
  sloc : Sloc := {}
  cyclomatic : UInt32 := 0
  cyclomaticDensity : Float := 0.0
  cognitive : UInt32 := 0
  maxNesting : UInt32 := 0
  params : UInt32 := 0
  deriving DecidableEq, Inhabited

/-- Cyclomatic complexity for each hundred logical lines. -/
def ModuleAggregate.density (cyclomatic logical : UInt32) : Float :=
  if logical = 0 then 0.0 else cyclomatic.toFloat / logical.toFloat * 100.0

structure FunctionReport where
  name : String
  line : UInt64
  params : UInt32
  sloc : Sloc
  cyclomatic : UInt32
  cognitive : UInt32
  maxNesting : UInt32
  deriving DecidableEq, Inhabited

/-- How a module names another: `import` and `export` statements, `require` calls, `import` calls. -/
inductive DependencyKind where
  | esm
  | commonJs
  | dynamic
  deriving DecidableEq, Inhabited

structure Dependency where
  path : String
  kind : DependencyKind
  line : UInt64
  deriving DecidableEq, Inhabited

structure ModuleReport where
  srcPath : String := ""
  filePath : Option String := none
  srcPathAlias : Option String := none
  aggregate : ModuleAggregate := {}
  functions : List FunctionReport := []
  dependencies : List Dependency := []
  deriving DecidableEq, Inhabited

/-- A module to analyze, with the paths that its report is to carry. -/
structure ModuleInput (α : Type) where
  ast : α
  srcPath : String
  filePath : Option String := none
  srcPathAlias : Option String := none

/-- Whatever paths the report had are replaced. -/
def ModuleReport.attachProvenance {α : Type} (report : ModuleReport) (module : ModuleInput α) :
    ModuleReport :=
  { report with
    srcPath := module.srcPath
    filePath := module.filePath
    srcPathAlias := module.srcPathAlias }

end CodeMetrics
