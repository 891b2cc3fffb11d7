import CodeMetrics.Config
import CodeMetrics.Proofs.Runs
import CodeMetrics.Proofs.Tables

/-!
The layers of a configuration. Whether a construct counts as a branch is decided by the options of the
call, if they hold a truth value for it, else by the rules in the file, else by default; each key has
its say alone, whatever stands beside it.
-/

namespace CodeMetrics

/-! Branch rules, one by one. -/
namespace JavaScript

/-- The constructs that count as branches or not, depending on the rules. -/
inductive Flag where
  | logicalor
  | switchcase
  | forin
  | trycatch
  deriving DecidableEq

def Flag.key : Flag → String
  | .logicalor => "logicalor"
  | .switchcase => "switchcase"
  | .forin => "forin"
  | .trycatch => "trycatch"

namespace BranchRules

def get (rules : BranchRules) : Flag → Bool
  | .logicalor => rules.logicalor
  | .switchcase => rules.switchcase
  | .forin => rules.forin
  | .trycatch => rules.trycatch

def ofFlags (choice : Flag → Bool) : BranchRules :=
  ⟨choice .logicalor, choice .switchcase, choice .forin, choice .trycatch⟩

@[simp] theorem get_ofFlags (choice : Flag → Bool) (flag : Flag) :
    (ofFlags choice).get flag = choice flag := by
  cases flag <;> rfl

theorem eq_of_get {rules others : BranchRules} (same : ∀ flag, rules.get flag = others.get flag) :
    rules = others := by
  cases rules
  cases others
  congr
  · exact same .logicalor
  · exact same .switchcase
  · exact same .forin
  · exact same .trycatch

theorem get_overriddenBy (rules : BranchRules) (options : Options) (flag : Flag) :
    (rules.overriddenBy options).get flag = (options.bool? flag.key).getD (rules.get flag) := by
  cases flag <;> rfl

theorem overriddenBy_empty (rules : BranchRules) : rules.overriddenBy .empty = rules :=
  eq_of_get fun flag => get_overriddenBy rules .empty flag

end BranchRules

/-- Only the rules that are in force matter, wherever they come from. -/
theorem analyze_eq_inForce (rules : BranchRules) (program : Program) (options : Options) :
    analyze rules program options = analyze (rules.overriddenBy options) program .empty := by
  rw [analyze, analyze, BranchRules.overriddenBy_empty]

end JavaScript

/-! Runs with no plugin, or with the standard one. -/
section Runs
variable {σ α : Type}

/-- The standard plugin adds to settings and results and leaves the reports as they are. -/
theorem analyze_reports (standard : Bool) (analyzer : Analyzer σ α) (modules : List (ModuleInput α))
    (options : Options) (memory : σ) :
    (outcome (ProjectAnalyzer.analyze ⟨.ofPlugins standard [], analyzer⟩ modules options
        memory)).map ProjectResult.reports =
      match blankPath? modules with
      | some index => .error (.invalidArgument (.missingPath index))
      | none =>
        outcome (ProjectAnalyzer.reports ⟨.ofPlugins standard [], analyzer⟩ options modules memory) := by
  -- None of the hooks can fail, and none touches the memory.
  have configured : ∃ settings, (Pipeline.ofPlugins standard []).configure options memory =
      .ok settings memory := by
    cases standard <;> exact ⟨_, rfl⟩
  have started (settings : Settings) :
      (Pipeline.ofPlugins standard []).start settings memory = .ok () memory := by
    cases standard <;> rfl
  have finished (result : ProjectResult) (memory : σ) :
      ∃ done, ProjectAnalyzer.finished ⟨.ofPlugins standard [], analyzer⟩ result memory =
        .ok done memory ∧ done.reports = result.reports := by
    cases standard <;> exact ⟨_, rfl, rfl⟩
  cases named : blankPath? modules with
  | some index =>
      rw [ProjectAnalyzer.analyze, named]
      rfl
  | none =>
      obtain ⟨settings, configured⟩ := configured
      rw [analyze_eq named, ProjectAnalyzer.analyzeChecked, bind_of_ok configured,
        bind_of_ok (started settings)]
      dsimp only
      cases reported : ProjectAnalyzer.reports ⟨.ofPlugins standard [], analyzer⟩ options modules
          memory with
      | error failure after =>
          rw [bind_of_error reported]
          rfl
      | ok reports after =>
          rw [bind_of_ok reported]
          split
          · rfl
          · obtain ⟨done, went, same⟩ := finished ⟨reports, some settings, none, .empty⟩ after
            rw [went]
            exact congrArg Except.ok same

end Runs

/-! What stands under a key of a document. -/
namespace Toml.Value

def truth? : Value → Option Bool
  | .bool value => some value
  | _ => none

theorem bool?_toJson (value : Value) : value.toJson.bool? = value.truth? := by
  cases value with
  | integer value =>
      rw [toJson]
      cases Number.ofInt? value <;> rfl
  | float value =>
      rw [toJson, Json.ofFloat]
      cases Number.ofFloat? value <;> rfl
  | _ => rfl

theorem Ordered.nodup_keys {value : Value} {members : List (String × Value)} (ordered : value.Ordered)
    (inside : value.members? = some members) : (members.map Prod.fst).Nodup := by
  cases ordered <;> cases inside
  case moment => exact List.nodup_singleton _
  case table ascending inner => exact ascending.imp Std.ne_of_lt

theorem keys_entriesToJson (entries : List (String × Value)) :
    (entriesToJson entries).map Prod.fst = entries.map Prod.fst := by
  induction entries with
  | nil => rfl
  | cons entry rest ih => rw [entriesToJson, List.map_cons, ih, List.map_cons]

theorem findEntry_entriesToJson (key : String) (entries : List (String × Value)) :
    findEntry key (entriesToJson entries) = (findEntry key entries).map toJson := by
  induction entries with
  | nil => rfl
  | cons entry rest ih =>
      rw [entriesToJson, findEntry, findEntry]
      split
      · rfl
      · exact ih

/-- What an optional truth value is read as: it is one, if there is anything. -/
theorem optional_toBool {found : Option Value} {standing value : Bool}
    (read : (found.map toBool).getD (.ok standing) = .ok value) :
    value = (found.bind truth?).getD standing ∧ ∀ item, found = some item → item.truth? ≠ none := by
  cases found with
  | none =>
      cases read
      exact ⟨rfl, nofun⟩
  | some item =>
      cases item <;> cases read
      exact ⟨rfl, fun item same => by cases same; rintro ⟨⟩⟩

end Toml.Value

namespace ProjectConfig
open JavaScript (BranchRules Flag)
open Toml (Value)

/-- The value of a key in a table of the document, if there are both. -/
def valueIn (entries : List (String × Value)) (table key : String) : Option Value :=
  ((findEntry table entries).bind Value.members?).bind (findEntry key)

/-- The truth value of a key in a table. Any other value is passed over. -/
def truthIn (entries : List (String × Value)) (table key : String) : Option Bool :=
  (valueIn entries table key).bind Value.truth?

/-- What a flag is in force as: as the options say, else as the rules of the file say, else its
default. -/
def inForce (entries : List (String × Value)) (flag : Flag) : Bool :=
  ((truthIn entries "analysis" flag.key).or (truthIn entries "module" flag.key)).getD
    (BranchRules.get {} flag)

section Decoding
variable {text : String} {entries members : List (String × Value)} {config : ProjectConfig}

theorem decodeMembers_eq_ok {α : Type} {schema : Schema Value α} {value : α}
    (decoded : decodeMembers schema members = .ok value) :
    schema.Reads (fun name => findEntry name members) value := by
  rw [decodeMembers] at decoded
  split at decoded
  · rw [Schema.decodeMembers] at decoded
    split at decoded <;> cases decoded
    assumption
  · cases decoded

/-- Each of the rules is read from its own member. -/
theorem rulesOf_members {value : Value} {rules : BranchRules}
    (inside : value.members? = some members) (decoded : rulesOf value = .ok rules) (flag : Flag) :
    ((findEntry flag.key members).map Value.toBool).getD (.ok (BranchRules.get {} flag)) =
      .ok (rules.get flag) := by
  have four : (BranchRules.schema Value.toBool).Reads (fun name => findEntry name members)
      rules := by
    cases value <;> cases inside <;> exact decodeMembers_eq_ok decoded
  obtain ⟨_, trycatch, three, fourth, rfl⟩ := four.of_optional
  obtain ⟨_, forin, two, third, rfl⟩ := three.of_optional
  obtain ⟨_, switchcase, one, second, rfl⟩ := two.of_optional
  obtain ⟨_, logicalor, none, first, rfl⟩ := one.of_optional
  cases none
  cases flag with
  | logicalor => exact first
  | switchcase => exact second
  | forin => exact third
  | trycatch => exact fourth

theorem find?_optionsOf {value : Value} {options : Options} (ordered : value.Ordered)
    (decoded : optionsOf value = .ok options) (key : String) :
    options.find? key = (value.members?.bind (findEntry key)).map Value.toJson := by
  rw [optionsOf] at decoded
  split at decoded
  · rename_i members inside
    split at decoded <;> cases decoded
    -- Of equal keys the last would be stored and the first looked up.
    have distinct : ((Value.entriesToJson members).map Prod.fst).Nodup := by
      rw [Value.keys_entriesToJson]
      exact ordered.nodup_keys inside
    rw [Options.find?, Entries.find?_ofList distinct, Value.findEntry_entriesToJson, inside]
    rfl
  · cases decoded

/-- The parts of a configuration are read from their own members. -/
theorem parse_eq_ok (found : Toml.read text = .ok entries) (parsed : parse text = .ok config) :
    ((findEntry "load_default_plugins" entries).map Value.toBool).getD (.ok true) =
        .ok config.loadDefaultPlugins ∧
      ((findEntry "analysis" entries).map optionsOf).getD (.ok .empty) = .ok config.analysis ∧
      ((findEntry "module" entries).map rulesOf).getD (.ok {}) = .ok config.rules := by
  have decoded : decodeMembers schema entries = .ok config := by
    rw [parse, found] at parsed
    exact except_mapError_eq_ok parsed
  obtain ⟨_, rules, two, third, rfl⟩ := (decodeMembers_eq_ok decoded).of_optional
  obtain ⟨_, analysis, one, second, rfl⟩ := two.of_optional
  obtain ⟨_, standard, none, first, rfl⟩ := one.of_optional
  cases none
  exact ⟨first, second, third⟩

/-- A configuration key by key: every key counts alone, and has a default where it is left out. -/
structure Layered (entries : List (String × Value)) (config : ProjectConfig) : Prop where
  standard : config.loadDefaultPlugins =
    ((findEntry "load_default_plugins" entries).bind Value.truth?).getD true
  options (key : String) :
    config.analysis.find? key = (valueIn entries "analysis" key).map Value.toJson
  rules (flag : Flag) :
    config.rules.get flag = (truthIn entries "module" flag.key).getD (BranchRules.get {} flag)

/-- The document has something other than a truth value where only a truth value may stand. -/
def Misplaces (entries : List (String × Value)) : Prop :=
  (∃ value, findEntry "load_default_plugins" entries = some value ∧ value.truth? = none) ∨
    ∃ (flag : Flag) (value : Value), valueIn entries "module" flag.key = some value ∧
      value.truth? = none

theorem find?_analysis (found : Toml.read text = .ok entries) {options : Options}
    (decoded : ((findEntry "analysis" entries).map optionsOf).getD (.ok .empty) = .ok options)
    (key : String) : options.find? key = (valueIn entries "analysis" key).map Value.toJson := by
  rw [valueIn]
  cases here : findEntry "analysis" entries with
  | none =>
      rw [here] at decoded
      cases decoded
      rfl
  | some value =>
      rw [here] at decoded
      have ordered : value.Ordered := by
        cases Toml.read_ordered found with
        | table _ inner => exact findEntry_holds inner here
      exact find?_optionsOf ordered decoded key

theorem get_module {rules : BranchRules}
    (tables : ∀ value ∈ findEntry "module" entries, ∃ members, value = .table members)
    (decoded : ((findEntry "module" entries).map rulesOf).getD (.ok {}) = .ok rules)
    (flag : Flag) :
    rules.get flag = (truthIn entries "module" flag.key).getD (BranchRules.get {} flag) := by
  rw [truthIn, valueIn]
  cases here : findEntry "module" entries with
  | none =>
      rw [here] at decoded
      cases decoded
      rfl
  | some value =>
      obtain ⟨members, rfl⟩ := tables value here
      rw [here] at decoded
      have decoded : rulesOf (.table members) = .ok rules := decoded
      exact (Value.optional_toBool (rulesOf_members rfl decoded flag)).1

theorem layered_of_parse (found : Toml.read text = .ok entries)
    (tables : ∀ value ∈ findEntry "module" entries, ∃ members, value = .table members)
    (parsed : parse text = .ok config) : Layered entries config := by
  obtain ⟨standard, analysis, rules⟩ := parse_eq_ok found parsed
  exact ⟨(Value.optional_toBool standard).1, find?_analysis found analysis, get_module tables rules⟩

theorem not_misplaces_of_parse (found : Toml.read text = .ok entries)
    (parsed : parse text = .ok config) : ¬Misplaces entries := by
  obtain ⟨standard, -, rules⟩ := parse_eq_ok found parsed
  rintro (⟨value, here, wrong⟩ | ⟨flag, value, inside, wrong⟩)
  · exact (Value.optional_toBool standard).2 value here wrong
  · obtain ⟨members, inside, member⟩ := Option.bind_eq_some_iff.mp inside
    obtain ⟨table, here, inside⟩ := Option.bind_eq_some_iff.mp inside
    rw [here] at rules
    exact (Value.optional_toBool (rulesOf_members inside rules flag)).2 value member wrong

/-- The options of the file go before its rules, and those before the defaults. -/
theorem Layered.inForce (layered : Layered entries config) :
    config.rules.overriddenBy config.analysis = .ofFlags (inForce entries) := by
  refine BranchRules.eq_of_get fun flag => ?_
  have option : config.analysis.bool? flag.key = truthIn entries "analysis" flag.key := by
    rw [Options.bool?, layered.options, truthIn]
    cases valueIn entries "analysis" flag.key with
    | none => rfl
    | some value => exact value.bool?_toJson
  rw [BranchRules.get_overriddenBy, BranchRules.get_ofFlags, option, layered.rules,
    ProjectConfig.inForce]
  cases truthIn entries "analysis" flag.key <;> rfl

/-- The reports of an analysis, or the failure that ended it. -/
def reportsOf {σ : Type} (project : ProjectAnalyzer σ Program)
    (modules : List (ModuleInput Program)) (options : Options) (memory : σ) :
    Except Failure (List ModuleReport) :=
  (outcome (project.analyze modules options memory)).map ProjectResult.reports

/-- The analyzer of a configuration, called with the options of the configuration, reports like one
that was made with the rules in force and is called without options: a truth value among the options
of the file goes first, then the rule in the file, then the default. Every key counts alone. Where
only a truth value may stand, nothing else is accepted. -/
theorem layers_precedence (found : Toml.read text = .ok entries) :
    (∀ config, parse text = .ok config →
      (∀ value ∈ findEntry "module" entries, ∃ members, value = .table members) →
      Layered entries config ∧
        ∀ {σ : Type} (modules : List (ModuleInput Program)) (memory : σ),
          reportsOf config.toOptions.toAnalyzer modules config.analysis memory =
            reportsOf (ProjectOptions.toAnalyzer { rules := .ofFlags (inForce entries) }) modules
              .empty memory) ∧
    (Misplaces entries → ∃ error, parse text = .error error) := by
  constructor
  · intro config parsed tables
    have layered := layered_of_parse found tables parsed
    refine ⟨layered, fun {σ} modules memory => ?_⟩
    have same (module : ModuleInput Program) :
        config.toOptions.toAnalyzer.report config.analysis module =
          (ProjectOptions.toAnalyzer { rules := .ofFlags (inForce entries) } :
            ProjectAnalyzer σ Program).report .empty module := by
      funext memory
      simp only [ProjectAnalyzer.report, ProjectOptions.toAnalyzer, toOptions, JavaScript.analyzer,
        JavaScript.analyze_eq_inForce config.rules, layered.inForce]
    refine (analyze_reports config.loadDefaultPlugins _ modules config.analysis memory).trans
      (Eq.trans ?_ (analyze_reports true _ modules .empty memory).symm)
    cases blankPath? modules with
    | some index => rfl
    | none => exact congrArg (fun run => outcome (run memory)) (reports_congr same modules)
  · intro misplaced
    cases parsed : parse text with
    | error error => exact ⟨error, rfl⟩
    | ok config => exact absurd misplaced (not_misplaces_of_parse found parsed)

end Decoding

/-- Two layers speak of `forin`, one of `trycatch`. -/
def layersSample : String := "[analysis]\nforin = true\n[module]\nforin = false\ntrycatch = true"

def layersEntries : List (String × Value) :=
  [("analysis", .table [("forin", .bool true)]),
    ("module", .table [("forin", .bool false), ("trycatch", .bool true)])]

/-- A number where a truth value has to stand. -/
def misplacedSample : String := "[module]\nforin = 1"

theorem layers_precedence_samples :
    Toml.read layersSample = .ok layersEntries ∧
    (∃ config, parse layersSample = .ok config ∧ config.loadDefaultPlugins = true ∧
      config.rules = { trycatch := true } ∧
      ∀ modules : List (ModuleInput Program),
        reportsOf config.toOptions.toAnalyzer modules config.analysis () =
          reportsOf (ProjectOptions.toAnalyzer { rules := { forin := true, trycatch := true } })
            modules .empty ()) ∧
    ∃ error, parse misplacedSample = .error error := by
  have found : Toml.read layersSample = .ok layersEntries := by
    cbv
  have misplaced : Toml.read misplacedSample = .ok [("module", .table [("forin", .integer 1)])] := by
    cbv
  obtain ⟨config, parsed, standard, rules⟩ : ∃ config, parse layersSample = .ok config ∧
      config.loadDefaultPlugins = true ∧ config.rules = { trycatch := true } := by
    rw [parse, found]
    exact ⟨_, rfl, rfl, rfl⟩
  obtain ⟨-, alike⟩ := (layers_precedence found).1 config parsed fun value present => by
    cases present
    exact ⟨_, rfl⟩
  exact ⟨found, ⟨config, parsed, standard, rules, fun modules => alike modules ()⟩,
    (layers_precedence misplaced).2 (.inr ⟨.forin, .integer 1, rfl, rfl⟩)⟩

end ProjectConfig
end CodeMetrics
