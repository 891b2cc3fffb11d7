import CodeMetrics.Proofs.Documents
import CodeMetrics.Proofs.RoundTrip

/-!
Results as they are read again. Of all that a record holds only its figures may change on the way
through a text, and those of a result that comes back are finite.
-/

namespace CodeMetrics

/-! Figures read again, alone and in the records that hold them. -/

def Number.float? : Number → Option Float
  | .float value _ => some value
  | .integer .. => none

/-- What a figure comes back as; an infinite or undefined one does not come back. -/
def rereadFigure (figure : Float) : Option Float :=
  (Number.ofFloat? figure).bind fun number => number.reread.bind Number.float?

theorem Json.reread_ofFloat {figure : Float} (finite : figure.isFinite = true) :
    (Json.ofFloat figure).reread = (rereadFigure figure).map Json.ofFloat := by
  have written : Number.ofFloat? figure = some (.float figure finite) := dif_pos finite
  rw [ofFloat, rereadFigure, written, Option.map_some, Option.getD_some, Option.bind_some, reread]
  cases back : (Number.float figure finite).reread with
  | none => rfl
  | some number =>
      -- No double comes back as an integer, so a figure comes back as a figure.
      obtain ⟨other, proper, rfl⟩ := Number.reread_float finite back
      have again : Number.ofFloat? other = some (.float other proper) := dif_pos proper
      simp [Number.float?, ofFloat, again]

theorem Json.reread_ofWord32 (word : UInt32) : (ofWord32 word).reread = some (ofWord32 word) := by
  rw [ofWord32, reread, Number.reread_integer]
  rfl

theorem Json.reread_ofWord64 (word : UInt64) : (ofWord64 word).reread = some (ofWord64 word) := by
  rw [ofWord64, reread, Number.reread_integer]
  rfl

def ModuleAggregate.reread (figures : ModuleAggregate) : Option ModuleAggregate :=
  (rereadFigure figures.cyclomaticDensity).map fun density =>
    { figures with cyclomaticDensity := density }

def ModuleReport.reread (report : ModuleReport) : Option ModuleReport :=
  report.aggregate.reread.map fun figures => { report with aggregate := figures }

def ProjectMetrics.reread (metrics : ProjectMetrics) : Option ProjectMetrics := do
  let loc ← rereadFigure metrics.loc
  let cyclomatic ← rereadFigure metrics.cyclomatic
  let cognitive ← rereadFigure metrics.cognitive
  let params ← rereadFigure metrics.params
  let maxNesting ← rereadFigure metrics.maxNesting
  some { metrics with loc, cyclomatic, cognitive, params, maxNesting }

theorem Sloc.reread_toJson (sloc : Sloc) : sloc.toJson.reread = some sloc.toJson := by
  simp [toJson, Json.reread, Json.rereadMembers, Json.reread_ofWord32]

theorem ModuleAggregate.reread_toJson {figures : ModuleAggregate}
    (finite : figures.cyclomaticDensity.isFinite = true) :
    figures.toJson.reread = figures.reread.map toJson := by
  simp only [toJson, Json.reread, Json.rereadMembers, Sloc.reread_toJson, Json.reread_ofWord32,
    Json.reread_ofFloat finite, reread]
  cases rereadFigure figures.cyclomaticDensity <;> rfl

theorem FunctionReport.reread_toJson (report : FunctionReport) :
    report.toJson.reread = some report.toJson := by
  simp [toJson, Json.reread, Json.rereadMembers, Json.reread_ofWord32, Json.reread_ofWord64,
    Sloc.reread_toJson]

theorem Dependency.reread_toJson (dependency : Dependency) :
    dependency.toJson.reread = some dependency.toJson := by
  simp [toJson, DependencyKind.toJson, Json.reread, Json.rereadMembers, Json.reread_ofWord64]

theorem ProjectMetrics.reread_toJson {metrics : ProjectMetrics} (finite : metrics.Finite) :
    metrics.toJson.reread = metrics.reread.map toJson := by
  simp only [toJson, Json.reread, Json.rereadMembers, Json.reread_ofWord64,
    Json.reread_ofFloat finite.loc, Json.reread_ofFloat finite.cyclomatic,
    Json.reread_ofFloat finite.cognitive, Json.reread_ofFloat finite.params,
    Json.reread_ofFloat finite.maxNesting, reread]
  cases rereadFigure metrics.loc <;> cases rereadFigure metrics.cyclomatic <;>
    cases rereadFigure metrics.cognitive <;> cases rereadFigure metrics.params <;>
    cases rereadFigure metrics.maxNesting <;> rfl

theorem rereadMembers_memberIfSome {α : Type} {name : String} {encode : α → Json}
    {back : α → Option α} {value : Option α}
    (same : ∀ item ∈ value, (encode item).reread = (back item).map encode) :
    Json.rereadMembers (memberIfSome name encode value) =
      (value.mapM back).map (memberIfSome name encode) := by
  cases value with
  | none => rfl
  | some item =>
      rw [memberIfSome, Json.rereadMembers, same item rfl]
      cases read : back item <;> simp [read, memberIfSome, Json.rereadMembers]

theorem ModuleReport.reread_toJson {report : ModuleReport}
    (finite : report.aggregate.cyclomaticDensity.isFinite = true) :
    report.toJson.reread = report.reread.map toJson := by
  have path (name : String) (value : Option String) :
      Json.rereadMembers (memberIfSome name Json.string value) =
        some (memberIfSome name Json.string value) := by
    cases value <;> simp [memberIfSome, Json.rereadMembers, Json.reread]
  have functions := Json.rereadItems_self
    (List.forall_mem_map.mpr fun item (_ : item ∈ report.functions) => item.reread_toJson)
  have dependencies := Json.rereadItems_self
    (List.forall_mem_map.mpr fun item (_ : item ∈ report.dependencies) => item.reread_toJson)
  simp only [toJson, Json.reread, Json.rereadMembers_append, Json.rereadMembers, path,
    ModuleAggregate.reread_toJson finite, functions, dependencies, reread]
  cases report.aggregate.reread <;> simp [toJson]

theorem Settings.reread_toJson {settings : Settings}
    (survive : ∀ entry ∈ settings.extra.toList, entry.2.Survives) :
    settings.toJson.reread = some settings.toJson := by
  have extra := Json.rereadMembers_self fun entry member =>
    Json.reread_of_survives entry.2 (survive entry member)
  simp only [toJson, Json.reread, Json.rereadMembers, extra]
  rfl

/-- The settings and extensions by which plugins speak to a later run. -/
def ProjectResult.values (result : ProjectResult) : List Json :=
  (result.settings.toList.flatMap fun settings => settings.extra.toList.map Prod.snd) ++
    result.extensions.toList.map Prod.snd

theorem ProjectResult.mem_values_settings {result : ProjectResult} {settings : Settings}
    (stored : result.settings = some settings) {entry : String × Json}
    (member : entry ∈ settings.extra.toList) : entry.2 ∈ result.values := by
  rw [values, stored, Option.toList_some, List.flatMap_singleton]
  exact List.mem_append_left _ (List.mem_map_of_mem member)

theorem ProjectResult.mem_values_extensions {result : ProjectResult} {entry : String × Json}
    (member : entry ∈ result.extensions.toList) : entry.2 ∈ result.values :=
  List.mem_append_right _ (List.mem_map_of_mem member)

def ProjectResult.reread (result : ProjectResult) : Option ProjectResult := do
  let reports ← result.reports.mapM ModuleReport.reread
  let metrics ← result.metrics.mapM ProjectMetrics.reread
  some { result with reports, metrics }

theorem ProjectResult.reread_toJson_of_finite {result : ProjectResult}
    (finite : result.bare.Storable) (survive : ∀ value ∈ result.values, value.Survives) :
    result.toJson.reread = result.reread.map toJson := by
  have reports := Json.rereadItems_map fun report (member : report ∈ result.reports) =>
    ModuleReport.reread_toJson (finite.reports report member)
  -- What the plugins left survives, so of the members only reports and metrics may change.
  have settings : Json.rereadMembers (memberIfSome "settings" Settings.toJson result.settings) =
      some (memberIfSome "settings" Settings.toJson result.settings) := by
    cases stored : result.settings with
    | none => rfl
    | some settings =>
        have kept := Settings.reread_toJson fun entry member =>
          survive entry.2 (mem_values_settings stored member)
        simp [memberIfSome, Json.rereadMembers, kept]
  have metrics : Json.rereadMembers (memberIfSome "metrics" ProjectMetrics.toJson result.metrics) =
      (result.metrics.mapM ProjectMetrics.reread).map
        (memberIfSome "metrics" ProjectMetrics.toJson) :=
    rereadMembers_memberIfSome fun metrics member =>
      ProjectMetrics.reread_toJson (finite.metrics metrics member)
  have extensions : Json.rereadMembers (extensionMembers result.extensions) =
      some (extensionMembers result.extensions) := by
    have kept := Json.rereadMembers_self fun entry member =>
      Json.reread_of_survives entry.2 (survive entry.2 (mem_values_extensions member))
    rw [extensionMembers]
    cases result.extensions.isEmpty <;> simp [Json.rereadMembers, Json.reread, kept]
  simp only [toJson, Json.reread, Json.rereadMembers_append, Json.rereadMembers, reports, settings,
    metrics, extensions, reread]
  cases result.reports.mapM ModuleReport.reread <;>
    cases result.metrics.mapM ProjectMetrics.reread <;> simp [toJson]

theorem ProjectResult.reread_toJson {result : ProjectResult} (storable : result.Storable)
    (survive : ∀ value ∈ result.values, value.Survives) :
    result.toJson.reread = result.reread.map toJson :=
  reread_toJson_of_finite storable.bare survive

/-! A result comes back as itself exactly when each of its figures does. -/

def ProjectMetrics.means (metrics : ProjectMetrics) : List Float :=
  [metrics.loc, metrics.cyclomatic, metrics.cognitive, metrics.params, metrics.maxNesting]

/-- The doubles among the fields of a result. -/
def ProjectResult.figures (result : ProjectResult) : List Float :=
  result.reports.map (fun report => report.aggregate.cyclomaticDensity) ++
    result.metrics.toList.flatMap ProjectMetrics.means

theorem ModuleReport.reread_eq_self {report : ModuleReport} :
    report.reread = some report ↔
      rereadFigure report.aggregate.cyclomaticDensity =
        some report.aggregate.cyclomaticDensity := by
  rcases report with ⟨_, _, _, ⟨_, _, density, _, _, _⟩, _, _⟩
  simp [reread, ModuleAggregate.reread]

theorem ProjectMetrics.reread_eq_self {metrics : ProjectMetrics} :
    metrics.reread = some metrics ↔ ∀ mean ∈ metrics.means, rereadFigure mean = some mean := by
  rcases metrics with ⟨_, _, _, loc, cyclomatic, cognitive, params, maxNesting⟩
  simp only [reread, means, List.forall_mem_cons]
  constructor
  · intro same
    simp only [Option.bind_eq_bind, Option.bind_eq_some_iff] at same
    rcases same with ⟨_, first, _, second, _, third, _, fourth, _, fifth, same⟩
    cases same
    exact ⟨first, second, third, fourth, fifth, nofun⟩
  · rintro ⟨first, second, third, fourth, fifth, -⟩
    simp [first, second, third, fourth, fifth]

theorem mapM_eq_self {α : Type} {back : α → Option α} {items : List α} :
    items.mapM back = some items ↔ ∀ item ∈ items, back item = some item := by
  induction items with
  | nil => simp
  | cons item rest ih =>
      rw [List.mapM_cons, List.forall_mem_cons, ← ih]
      cases back item <;> cases rest.mapM back <;> simp

theorem ProjectResult.reread_eq_self {result : ProjectResult} :
    result.reread = some result ↔ ∀ figure ∈ result.figures, rereadFigure figure = some figure := by
  rcases result with ⟨reports, settings, metrics, extensions⟩
  have fields : reread ⟨reports, settings, metrics, extensions⟩ =
        some ⟨reports, settings, metrics, extensions⟩ ↔
      reports.mapM ModuleReport.reread = some reports ∧
        metrics.mapM ProjectMetrics.reread = some metrics := by
    rw [reread]
    cases reports.mapM ModuleReport.reread <;> cases metrics.mapM ProjectMetrics.reread <;> simp
  have means : metrics.mapM ProjectMetrics.reread = some metrics ↔
      ∀ mean ∈ metrics.toList.flatMap ProjectMetrics.means, rereadFigure mean = some mean := by
    cases metrics with
    | none => simp
    | some metrics =>
        rw [Option.toList_some, List.flatMap_singleton, ← ProjectMetrics.reread_eq_self]
        cases same : metrics.reread <;> simp [same]
  rw [fields, means, mapM_eq_self, figures, List.forall_mem_append, List.forall_mem_map]
  simp only [ModuleReport.reread_eq_self]

/-! What comes back can be stored again. -/

theorem isFinite_reread {figure other : Float} (back : rereadFigure figure = some other) :
    other.isFinite = true := by
  obtain ⟨written, -, back⟩ := Option.bind_eq_some_iff.mp back
  obtain ⟨number, -, same⟩ := Option.bind_eq_some_iff.mp back
  cases number with
  | integer value lower upper => cases same
  | float value finite =>
      cases same
      exact finite

theorem mem_of_mapM {α : Type} {back : α → Option α} {items others : List α}
    (read : items.mapM back = some others) :
    ∀ other ∈ others, ∃ item ∈ items, back item = some other := by
  induction items generalizing others with
  | nil =>
      cases read
      exact nofun
  | cons item rest ih =>
      rw [List.mapM_cons] at read
      obtain ⟨first, here, read⟩ := Option.bind_eq_some_iff.mp read
      obtain ⟨more, later, read⟩ := Option.bind_eq_some_iff.mp read
      cases read
      refine List.forall_mem_cons.mpr ⟨⟨item, List.mem_cons_self, here⟩, ?_⟩
      intro other member
      obtain ⟨source, listed, same⟩ := ih later other member
      exact ⟨source, List.mem_cons_of_mem item listed, same⟩

theorem ModuleReport.finite_of_reread {report back : ModuleReport}
    (read : report.reread = some back) : back.aggregate.cyclomaticDensity.isFinite = true := by
  obtain ⟨figures, inner, rfl⟩ := Option.map_eq_some_iff.mp read
  obtain ⟨density, figure, rfl⟩ := Option.map_eq_some_iff.mp inner
  exact isFinite_reread figure

theorem ProjectMetrics.finite_of_reread {metrics back : ProjectMetrics}
    (read : metrics.reread = some back) : back.Finite := by
  simp only [reread, Option.bind_eq_bind, Option.bind_eq_some_iff] at read
  rcases read with ⟨_, first, _, second, _, third, _, fourth, _, fifth, same⟩
  cases same
  exact ⟨isFinite_reread first, isFinite_reread second, isFinite_reread third,
    isFinite_reread fourth, isFinite_reread fifth⟩

/-- What the plugins left stays as it is, and has no part in how the rest is read again. -/
theorem ProjectResult.reread_bare {result back : ProjectResult} (read : result.reread = some back) :
    result.bare.reread = some back.bare ∧ back.settings = result.settings ∧
      back.extensions = result.extensions := by
  obtain ⟨reports, listed, read⟩ := Option.bind_eq_some_iff.mp read
  obtain ⟨metrics, measured, read⟩ := Option.bind_eq_some_iff.mp read
  cases read
  refine ⟨?_, rfl, rfl⟩
  simp only [reread, bare, listed, measured]
  rfl

/-- Whatever comes back can be stored again, and the plugins find all that they left. -/
theorem ProjectResult.storable_of_reread {result back : ProjectResult}
    (flag : ∀ settings ∈ result.settings, settings.extra.find? Settings.skipKey = none)
    (read : result.reread = some back) :
    back.Storable ∧ back.settings = result.settings ∧ back.extensions = result.extensions := by
  obtain ⟨reports, listed, read⟩ := Option.bind_eq_some_iff.mp read
  obtain ⟨metrics, measured, read⟩ := Option.bind_eq_some_iff.mp read
  cases read
  refine ⟨⟨?_, flag, ?_⟩, rfl, rfl⟩
  · intro report member
    obtain ⟨source, -, same⟩ := mem_of_mapM listed report member
    exact ModuleReport.finite_of_reread same
  · intro found stored
    cases source : result.metrics with
    | none =>
        rw [source] at measured
        cases measured
        cases stored
    | some old =>
        rw [source] at measured
        obtain ⟨new, same, rfl⟩ := Option.map_eq_some_iff.mp measured
        cases stored
        exact ProjectMetrics.finite_of_reread same

end CodeMetrics
