import CodeMetrics.JavaScript.Branches.Json
import CodeMetrics.Project
import CodeMetrics.Toml.Document
/-!
The configuration of a project: whether the standard plugin takes part, the options of every call,
and the rules for scripts. A table or key that is left out has its default, and unknown keys are
passed over.
-/
namespace CodeMetrics

structure ProjectConfig where
  loadDefaultPlugins : Bool := true
  analysis : Options := .empty
  rules : JavaScript.BranchRules := {}
  deriving Inhabited

/-- Why a text is no configuration. Only who parses a text can tell these apart: where a file is
looked for, every one of them is the same failure. -/
inductive ConfigError where
  | notToml
  | pathTooLong
  | wrongShape (error : DecodeError)
  deriving DecidableEq

def ConfigError.ofDefect : Toml.Defect → ConfigError
  | .malformed => .notToml
  | .pathTooLong => .pathTooLong

namespace ProjectConfig

/-- Members without a field are passed over, but their numbers must be readable. -/
def decodeMembers {α : Type} (schema : Schema Toml.Value α) (members : List (String × Toml.Value)) :
    Decoded α :=
  if (schema.unknownMembers members).all fun entry => entry.2.isPassable then
    schema.decodeMembers members
  else .error .numberOutOfRange

/-- Options keep the ascending order of the keys in a table, at every level. -/
def optionsOf (value : Toml.Value) : Decoded Options :=
  match value.members? with
  | some entries =>
    if entries.all fun entry => entry.2.fitsJson then
      .ok ⟨.ofList (Toml.Value.entriesToJson entries)⟩
    else .error .numberOutOfRange
  | none => value.wrongType "a map"

/-- Rules may also stand in an array, in the order of their fields; what follows them is passed
over. -/
def rulesOf (value : Toml.Value) : Decoded JavaScript.BranchRules :=
  let schema := JavaScript.BranchRules.schema Toml.Value.toBool
  let name := JavaScript.BranchRules.typeName
  match value, value.members? with
  | .array items, _ => (schema.decodeFront name items).map Prod.fst
  | _, some entries => decodeMembers schema entries
  | _, none => value.wrongType s!"struct {name}"

def schema : Schema Toml.Value ProjectConfig :=
  (Schema.build ProjectConfig.mk).and (.optional true "load_default_plugins" Toml.Value.toBool)
    |>.and (.optional .empty "analysis" optionsOf)
    |>.and (.optional {} "module" rulesOf)

def ofTable (entries : List (String × Toml.Value)) : Decoded ProjectConfig :=
  decodeMembers schema entries

/-- A shape is told only of a table whose integers are all plain; any other that does not decode
counts as malformed. -/
def shapeError (entries : List (String × Toml.Value)) (error : DecodeError) : ConfigError :=
  if (Toml.Value.table entries).isPlain then .wrongShape error else .notToml

def parse (text : String) : Except ConfigError ProjectConfig := do
  let entries ← (Toml.read text).mapError .ofDefect
  (ofTable entries).mapError (shapeError entries)

def isDefault (config : ProjectConfig) : Bool :=
  config.loadDefaultPlugins && config.analysis.isEmpty && config.rules == {}

/-- Plugins cannot be named in a file. -/
def toOptions {σ : Type} (config : ProjectConfig) : ProjectOptions σ where
  loadStandard := config.loadDefaultPlugins
  rules := config.rules

end ProjectConfig
end CodeMetrics
