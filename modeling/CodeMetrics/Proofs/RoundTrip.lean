import CodeMetrics.Proofs.Finite
import CodeMetrics.Proofs.Reading
import CodeMetrics.Result.Json

/-!
Results written as documents and read back. Figures that are not finite are written as null, and
settings beside the flag could hide it under its own name; a result without either comes back as it
was, and no other result is ever read.
-/

namespace CodeMetrics

open Schema (Reads Gives)

/-! Members that are left out when there is nothing to write. -/

theorem findEntry_memberIfSome {α : Type} (key name : String) (encode : α → Json)
    (value : Option α) :
    findEntry key (memberIfSome name encode value) =
      if name = key then value.map encode else none := by
  cases value with
  | none => simp [memberIfSome, findEntry]
  | some value => rfl

theorem Schema.Reads.optionMember {α β : Type} {front : Schema Json (Option α → β)}
    {find : String → Option Json} {make : Option α → β} {name : String} {encode : α → Json}
    {decode : Json → Decoded α} {value : Option α} (read : front.Reads find make)
    (found : find name = value.map encode)
    (inverse : ∀ item ∈ value, decode (encode item) = .ok item)
    (present : ∀ item, encode item ≠ .null) :
    (front.and (.optional none name (Json.toOption decode))).Reads find (make value) := by
  cases value with
  | none => exact read.missing found
  | some item =>
      exact read.optional found (Json.toOption_present (inverse item rfl) (present item))

/-! Each record is read field by field, from the last one to the first. -/

theorem Sloc.ofJson_toJson (sloc : Sloc) : ofJson sloc.toJson = .ok sloc := by
  rcases sloc with ⟨physical, logical⟩
  apply Json.toRecord_object
  refine Reads.field ?_ rfl (Json.toWord32_ofWord32 logical)
  refine Reads.field ?_ rfl (Json.toWord32_ofWord32 physical)
  exact Reads.build _ _

theorem ModuleAggregate.ofJson_toJson {figures : ModuleAggregate}
    (finite : figures.cyclomaticDensity.isFinite = true) :
    ofJson figures.toJson = .ok figures := by
  rcases figures with ⟨sloc, cyclomatic, density, cognitive, maxNesting, params⟩
  apply Json.toRecord_object
  refine Reads.field ?_ rfl (Json.toWord32_ofWord32 params)
  refine Reads.field ?_ rfl (Json.toWord32_ofWord32 maxNesting)
  refine Reads.field ?_ rfl (Json.toWord32_ofWord32 cognitive)
  refine Reads.field ?_ rfl (Json.toFloat_ofFloat finite)
  refine Reads.field ?_ rfl (Json.toWord32_ofWord32 cyclomatic)
  refine Reads.field ?_ rfl (Sloc.ofJson_toJson sloc)
  exact Reads.build _ _

theorem FunctionReport.ofJson_toJson (report : FunctionReport) :
    ofJson report.toJson = .ok report := by
  rcases report with ⟨name, line, params, sloc, cyclomatic, cognitive, maxNesting⟩
  have text : Json.toText (.string name) = .ok name := rfl
  apply Json.toRecord_object
  refine Reads.field ?_ rfl (Json.toWord32_ofWord32 maxNesting)
  refine Reads.field ?_ rfl (Json.toWord32_ofWord32 cognitive)
  refine Reads.field ?_ rfl (Json.toWord32_ofWord32 cyclomatic)
  refine Reads.field ?_ rfl (Sloc.ofJson_toJson sloc)
  refine Reads.field ?_ rfl (Json.toWord32_ofWord32 params)
  refine Reads.field ?_ rfl (Json.toWord64_ofWord64 line)
  refine Reads.field ?_ rfl text
  exact Reads.build _ _

theorem DependencyKind.ofJson_toJson (kind : DependencyKind) : ofJson kind.toJson = .ok kind := by
  cases kind <;> rfl

theorem Dependency.ofJson_toJson (dependency : Dependency) :
    ofJson dependency.toJson = .ok dependency := by
  rcases dependency with ⟨path, kind, line⟩
  have text : Json.toText (.string path) = .ok path := rfl
  apply Json.toRecord_object
  refine Reads.field ?_ rfl (Json.toWord64_ofWord64 line)
  refine Reads.field ?_ rfl (DependencyKind.ofJson_toJson kind)
  refine Reads.field ?_ rfl text
  exact Reads.build _ _

theorem ModuleReport.ofJson_toJson {report : ModuleReport}
    (finite : report.aggregate.cyclomaticDensity.isFinite = true) :
    ofJson report.toJson = .ok report := by
  obtain ⟨srcPath, filePath, srcPathAlias, aggregate, functions, dependencies⟩ := report
  have text (path : String) : Json.toText (.string path) = .ok path := rfl
  apply Json.toRecord_object
  refine Reads.optional ?_ ?_ (Json.toList_array fun item _ => Dependency.ofJson_toJson item)
  refine Reads.optional ?_ ?_ (Json.toList_array fun item _ => FunctionReport.ofJson_toJson item)
  refine Reads.field ?_ ?_ (ModuleAggregate.ofJson_toJson finite)
  refine Reads.optionMember ?_ ?_ (fun path _ => text path) nofun
  refine Reads.optionMember ?_ ?_ (fun path _ => text path) nofun
  refine Reads.optional ?_ rfl (text srcPath)
  exact Reads.build _ _
  -- What is left is where each member stands in a document from which others may be left out.
  all_goals simp [findEntry, findEntry_append, findEntry_memberIfSome]

/-- Whatever stands in the flag's place is read as the flag, and all else as the other entries. -/
theorem Settings.ofJson_flagged (value : Json) {extra : Entries Json}
    (apart : extra.find? skipKey = none) :
    ofJson (.object ((skipKey, value) :: extra.toList)) =
      value.toBool.map fun skip => { skipCalculation := skip, extra := extra } := by
  rcases extra with ⟨members, distinct⟩
  have new : skipKey ∉ members.map Prod.fst := (Entries.find?_eq_none_iff _ skipKey).mp apart
  have listed : (Entries.ofList ((skipKey, value) :: members)).toList =
      (skipKey, value) :: members :=
    Entries.toList_ofList (List.nodup_cons.mpr ⟨new, distinct⟩)
  -- The flag is erased from the listed members again, and with it nothing else.
  have kept : members.filter (fun entry => entry.1 ≠ skipKey) = members := by
    apply List.filter_eq_self.mpr
    intro entry member
    have other : entry.1 ≠ skipKey := by
      rintro same
      exact new (same ▸ List.mem_map_of_mem member)
    exact decide_eq_true other
  have rest : (Entries.ofList ((skipKey, value) :: members)).erase skipKey =
      ⟨members, distinct⟩ := by
    have filtered : ((skipKey, value) :: members).filter (fun entry => entry.1 ≠ skipKey) =
        members := by
      rw [List.filter_cons_of_neg (by simp), kept]
    simp only [Entries.erase, listed, filtered]
  rw [ofJson, findEntry, if_pos rfl, rest]
  dsimp only
  cases value.toBool <;> rfl

theorem Settings.ofJson_toJson {settings : Settings}
    (apart : settings.extra.find? skipKey = none) : ofJson settings.toJson = .ok settings :=
  ofJson_flagged (.bool settings.skipCalculation) apart

/-- No figure is infinite or undefined. -/
structure ProjectMetrics.Finite (metrics : ProjectMetrics) : Prop where
  loc : metrics.loc.isFinite = true
  cyclomatic : metrics.cyclomatic.isFinite = true
  cognitive : metrics.cognitive.isFinite = true
  params : metrics.params.isFinite = true
  maxNesting : metrics.maxNesting.isFinite = true

theorem ProjectMetrics.ofJson_toJson {metrics : ProjectMetrics} (finite : metrics.Finite) :
    ofJson metrics.toJson = .ok metrics := by
  rcases metrics with
    ⟨modules, functions, dependencies, loc, cyclomatic, cognitive, params, maxNesting⟩
  apply Json.toRecord_object
  refine Reads.field ?_ rfl (Json.toFloat_ofFloat finite.maxNesting)
  refine Reads.field ?_ rfl (Json.toFloat_ofFloat finite.params)
  refine Reads.field ?_ rfl (Json.toFloat_ofFloat finite.cognitive)
  refine Reads.field ?_ rfl (Json.toFloat_ofFloat finite.cyclomatic)
  refine Reads.field ?_ rfl (Json.toFloat_ofFloat finite.loc)
  refine Reads.field ?_ rfl (Json.toWord64_ofWord64 dependencies)
  refine Reads.field ?_ rfl (Json.toWord64_ofWord64 functions)
  refine Reads.field ?_ rfl (Json.toWord64_ofWord64 modules)
  exact Reads.build _ _

/-- What a result has to be like for its document to hold all of it. -/
structure ProjectResult.Storable (result : ProjectResult) : Prop where
  reports : ∀ report ∈ result.reports, report.aggregate.cyclomaticDensity.isFinite = true
  settings : ∀ settings ∈ result.settings, settings.extra.find? Settings.skipKey = none
  metrics : ∀ metrics ∈ result.metrics, metrics.Finite

/-- All of a result but its settings. -/
def ProjectResult.bare (result : ProjectResult) : ProjectResult := { result with settings := none }

theorem ProjectResult.apart_bare (result : ProjectResult) :
    ∀ settings ∈ result.bare.settings, settings.extra.find? Settings.skipKey = none := nofun

theorem ProjectResult.Storable.bare {result : ProjectResult} (storable : result.Storable) :
    result.bare.Storable :=
  ⟨storable.reports, result.apart_bare, storable.metrics⟩

theorem ProjectResult.ofJson_object {members : List (String × Json)} {result : ProjectResult}
    (read : schema.Reads (fun name => findEntry name members) result) :
    ofJson (.object members) = .ok result := by
  rw [ofJson, read.decodeMembers]

theorem ProjectResult.findEntry_extensionMembers (key : String) (extensions : SortedEntries Json) :
    findEntry key (extensionMembers extensions) =
      if "extensions" = key ∧ extensions.isEmpty = false then some (.object extensions.toList)
      else none := by
  rw [extensionMembers]
  cases extensions.isEmpty with
  | true => simp [findEntry]
  | false => simp [findEntry]

theorem Schema.Reads.extensions {β : Type} {front : Schema Json (SortedEntries Json → β)}
    {find : String → Option Json} {make : SortedEntries Json → β}
    {extensions : SortedEntries Json} (read : front.Reads find make)
    (found : find "extensions" =
      if extensions.isEmpty = false then some (.object extensions.toList) else none) :
    (front.and (.optional .empty "extensions" ProjectResult.extensionsOfJson)).Reads find
      (make extensions) := by
  cases bare : extensions.isEmpty with
  | true =>
      -- An empty map is left out, and what stands for a missing one is the empty map.
      have none : extensions = .empty := by
        rcases extensions with ⟨entries, ascending⟩
        cases List.isEmpty_iff.mp bare
        rfl
      rw [bare, if_neg nofun] at found
      rw [none]
      exact read.missing found
  | false =>
      rw [bare, if_pos rfl] at found
      apply read.optional found
      exact congrArg Except.ok extensions.ofList_toList

theorem ProjectResult.ofJson_toJson {result : ProjectResult} (storable : result.Storable) :
    ofJson result.toJson = .ok result := by
  rcases result with ⟨reports, settings, metrics, extensions⟩
  apply ofJson_object
  refine Reads.extensions ?_ ?_
  refine Reads.optionMember ?_ ?_
    (fun item member => ProjectMetrics.ofJson_toJson (storable.metrics item member)) nofun
  refine Reads.optionMember ?_ ?_
    (fun item member => Settings.ofJson_toJson (storable.settings item member)) nofun
  refine Reads.field ?_ rfl (Json.toList_array fun item member =>
    ModuleReport.ofJson_toJson (storable.reports item member))
  exact Reads.build _ _
  all_goals
    simp [findEntry, findEntry_append, findEntry_memberIfSome, findEntry_extensionMembers]

/-! What is read has finite figures, and settings apart from the flag. -/

theorem ModuleAggregate.finite_of_ofJson (value : Json) (figures : ModuleAggregate)
    (read : ofJson value = .ok figures) : figures.cyclomaticDensity.isFinite = true := by
  apply Json.toRecord_gives _ value figures read
  refine .other (.other (.other (.field (.other (.other ?_)) fun _ _ => Json.isFinite_toFloat)))
  exact .build fun _ _ _ finite _ _ _ => finite

theorem ModuleReport.finite_of_ofJson (value : Json) (report : ModuleReport)
    (read : ofJson value = .ok report) :
    report.aggregate.cyclomaticDensity.isFinite = true := by
  apply Json.toRecord_gives _ value report read
  refine .other (.other (.field (.other (.other (.other ?_))) ModuleAggregate.finite_of_ofJson))
  exact .build fun _ _ _ _ finite _ _ => finite

theorem Settings.apart_of_ofJson (value : Json) (settings : Settings)
    (read : ofJson value = .ok settings) : settings.extra.find? skipKey = none := by
  have erased (members : List (String × Json)) :
      ((Entries.ofList members).erase skipKey).find? skipKey = none := by
    rw [Entries.find?_erase, if_pos rfl]
  unfold ofJson at read
  split at read
  · dsimp only at read
    split at read
    · rcases except_bind_eq_ok read with ⟨skip, -, read⟩
      cases read
      exact erased _
    · cases read
      exact erased _
  · cases read

theorem ProjectMetrics.finite_of_ofJson (value : Json) (metrics : ProjectMetrics)
    (read : ofJson value = .ok metrics) : metrics.Finite := by
  have finite (item : Json) (figure : Float) := @Json.isFinite_toFloat item figure
  apply Json.toRecord_gives _ value metrics read
  refine .field (.field (.field (.field (.field ?_ finite) finite) finite) finite) finite
  refine .other (.other (.other ?_))
  exact .build fun _ _ _ _ loc _ cyclomatic _ cognitive _ params _ maxNesting =>
    ⟨loc, cyclomatic, cognitive, params, maxNesting⟩

theorem ProjectResult.schema_storable : schema.Gives Storable := by
  refine .other (.optional (.optional (.field ?_ (Json.toList_gives ModuleReport.finite_of_ofJson))
    (Json.toOption_gives Settings.apart_of_ofJson) nofun)
    (Json.toOption_gives ProjectMetrics.finite_of_ofJson) nofun)
  exact .build fun _ reports _ settings _ metrics _ => ⟨reports, settings, metrics⟩

theorem ProjectResult.storable_of_ofJson {value : Json} {result : ProjectResult}
    (read : ofJson value = .ok result) : result.Storable := by
  unfold ofJson at read
  split at read
  · split at read
    · rename_i decoded
      cases read
      exact schema_storable.decodeMembers decoded
    · cases read
  · cases read

/-- The document of a result is read back as the same result exactly when its figures are finite
and its settings apart from the flag; and no other result is ever read. -/
theorem ProjectResult.documents_faithful :
    (∀ result : ProjectResult, ofJson result.toJson = .ok result ↔ result.Storable) ∧
    ∀ value result, ofJson value = .ok result →
      result.Storable ∧ ofJson result.toJson = .ok result := by
  constructor
  · intro result
    constructor
    · exact storable_of_ofJson
    · exact ofJson_toJson
  · intro value result read
    have storable := storable_of_ofJson read
    exact ⟨storable, ofJson_toJson storable⟩

/-- Settings and extensions of some depth, and a report without one of its paths. -/
def keptSample : ProjectResult where
  reports := [{
    srcPath := "src/a.js"
    srcPathAlias := some "a"
    aggregate := { cyclomatic := 3, cyclomaticDensity := 37.5 }
    functions := [{
      name := "run", line := 4, params := 2, sloc := ⟨9, 8⟩, cyclomatic := 3, cognitive := 2
      maxNesting := 1 }]
    dependencies := [⟨"./b", .dynamic, 5⟩] }]
  settings := some {
    skipCalculation := true
    extra := Entries.empty.insert "depth" (.array [.null, .object [("limit", .string "none")]]) }
  metrics := some ⟨1, 1, 1, 8.0, 3.0, 2.0, 2.0, 1.5⟩
  extensions := (SortedEntries.empty.insert "notes" .null).insert "late" (.object [("at", .null)])

theorem ProjectResult.documents_faithful_keptSample :
    keptSample.Storable ∧ ofJson keptSample.toJson = .ok keptSample := by
  have storable : keptSample.Storable := by
    constructor
    · exact List.forall_mem_singleton.mpr (by decide +kernel)
    · rintro settings ⟨⟩
      decide +kernel
    · rintro metrics ⟨⟩
      constructor <;> decide +kernel
  exact documents_faithful.2 keptSample.toJson keptSample
    ((documents_faithful.1 keptSample).mpr storable)

end CodeMetrics
