import CodeMetrics.Proofs.Files
import CodeMetrics.Proofs.Printed
import CodeMetrics.Proofs.Rereading
import CodeMetrics.Result.Storage

/-!
Results kept as text. The document of a result is printed and read again; of all that it holds only
doubles may change on the way, so a result whose doubles survive comes back from its file as it was.
-/

namespace CodeMetrics

open Json (Fits fits_array fits_object fits_bool fits_number fits_string fits_ofFloat)

/-! How deeply the records nest, and that none names a key twice. -/

theorem Sloc.fits_toJson (sloc : Sloc) : sloc.toJson.Fits 1 := by
  apply fits_object
  · simp
  · simp [Json.ofWord32, fits_number]

theorem ModuleAggregate.fits_toJson (figures : ModuleAggregate) : figures.toJson.Fits 2 := by
  apply fits_object
  · simp
  · simp [Json.ofWord32, fits_number, fits_ofFloat, Sloc.fits_toJson]

theorem FunctionReport.fits_toJson (report : FunctionReport) : report.toJson.Fits 2 := by
  apply fits_object
  · simp
  · simp [Json.ofWord32, Json.ofWord64, fits_number, fits_string, Sloc.fits_toJson]

theorem Dependency.fits_toJson (dependency : Dependency) : dependency.toJson.Fits 1 := by
  apply fits_object
  · simp
  · simp [Json.ofWord64, DependencyKind.toJson, fits_number, fits_string]

theorem ProjectMetrics.fits_toJson (metrics : ProjectMetrics) : metrics.toJson.Fits 1 := by
  apply fits_object
  · simp
  · simp [Json.ofWord64, fits_number, fits_ofFloat]

theorem fits_memberIfSome {α : Type} {levels : Nat} {name : String} {encode : α → Json}
    {value : Option α} (inner : ∀ item ∈ value, (encode item).Fits levels) :
    ∀ member ∈ memberIfSome name encode value, member.2.Fits levels := by
  cases value with
  | none => exact nofun
  | some item => exact List.forall_mem_singleton.mpr (inner item rfl)

theorem ModuleReport.fits_toJson (report : ModuleReport) : report.toJson.Fits 4 := by
  have path (name : String) (value : Option String) :
      ∀ member ∈ memberIfSome name Json.string value, member.2.Fits 3 :=
    fits_memberIfSome fun item _ => fits_string 3 item
  have functions : (Json.array (report.functions.map FunctionReport.toJson)).Fits 3 :=
    fits_array (List.forall_mem_map.mpr fun item _ => item.fits_toJson)
  have dependencies : (Json.array (report.dependencies.map Dependency.toJson)).Fits 2 :=
    fits_array (List.forall_mem_map.mpr fun item _ => item.fits_toJson)
  apply fits_object
  · cases report.filePath <;> cases report.srcPathAlias <;> simp [memberIfSome]
  · simp only [List.forall_mem_append, List.forall_mem_cons]
    refine ⟨⟨⟨fits_string 3 _, path _ _⟩, path _ _⟩, ?_, functions, ?_,
      List.forall_mem_nil _⟩
    · exact report.aggregate.fits_toJson.mono (by decide)
    · exact dependencies.mono (by decide)

theorem Settings.fits_toJson {settings : Settings} {levels : Nat}
    (apart : settings.extra.find? skipKey = none)
    (inner : ∀ entry ∈ settings.extra.toList, entry.2.Fits levels) :
    settings.toJson.Fits (levels + 1) := by
  apply fits_object
  · exact List.nodup_cons.mpr
      ⟨(Entries.find?_eq_none_iff _ skipKey).mp apart, settings.extra.distinct⟩
  · exact List.forall_mem_cons.mpr ⟨fits_bool levels _, inner⟩

theorem ProjectResult.fits_toJson {result : ProjectResult} {levels : Nat} (deep : 4 ≤ levels)
    (apart : ∀ settings ∈ result.settings, settings.extra.find? Settings.skipKey = none)
    (inner : ∀ value ∈ result.values, value.Fits levels) :
    result.toJson.Fits (levels + 2) := by
  simp only [values, List.forall_mem_append, List.forall_mem_flatMap, List.forall_mem_map]
    at inner
  have reports : (Json.array (result.reports.map ModuleReport.toJson)).Fits (levels + 1) :=
    fits_array (List.forall_mem_map.mpr fun report _ => report.fits_toJson.mono deep)
  have extensions : (Json.object result.extensions.toList).Fits (levels + 1) :=
    fits_object (result.extensions.ascending.imp Std.ne_of_lt) inner.2
  apply fits_object
  · rw [extensionMembers]
    cases result.settings <;> cases result.metrics <;> cases result.extensions.isEmpty <;>
      simp [memberIfSome]
  · simp only [List.forall_mem_append, List.forall_mem_cons]
    refine ⟨⟨⟨reports, fits_memberIfSome ?_⟩, fits_memberIfSome ?_⟩, ?_⟩
    · intro settings stored
      exact Settings.fits_toJson (apart settings stored)
        (inner.1 settings (Option.mem_toList.mpr stored))
    · exact fun metrics _ => metrics.fits_toJson.mono (by omega)
    · rw [extensionMembers]
      split
      · exact List.forall_mem_nil _
      · exact List.forall_mem_singleton.mpr extensions

/-! The text of a result, read back, and the file that holds it. -/

/-- What a result needs beside its figures for its text to hold all of it: objects that name no key
twice and doubles that survive in what plugins left, and not too many levels. -/
structure ProjectResult.Keepable (result : ProjectResult) : Prop where
  values : ∀ value ∈ result.values, value.Distinct ∧ value.Survives
  flag : ∀ settings ∈ result.settings, settings.extra.find? Settings.skipKey = none
  nesting : result.toJson.nesting ≤ 127

theorem ProjectResult.distinct_toJson {result : ProjectResult}
    (apart : ∀ settings ∈ result.settings, settings.extra.find? Settings.skipKey = none)
    (maps : ∀ value ∈ result.values, value.Distinct) : result.toJson.Distinct := by
  -- Any bound on the levels will do here: what is wanted of it is that no key comes twice.
  have inner : ∀ value ∈ result.values, value.Fits (4 + Json.nestingOfItems result.values) := by
    intro value member
    exact ⟨Nat.le_trans (Json.le_nestingOfItems member) (Nat.le_add_left _ 4), maps value member⟩
  exact (fits_toJson (Nat.le_add_right 4 _) apart inner).distinct

theorem ProjectResult.Keepable.distinct {result back : ProjectResult} (keepable : result.Keepable)
    (read : result.reread = some back) : back.toJson.Distinct := by
  obtain ⟨storable, settings, extensions⟩ := storable_of_reread keepable.flag read
  have kept : back.values = result.values := by
    rw [ProjectResult.values, settings, extensions, ProjectResult.values]
  refine distinct_toJson storable.settings ?_
  rw [kept]
  exact fun value member => (keepable.values value member).1

theorem fromUTF8?_toUTF8 (text : String) : String.fromUTF8? text.toUTF8 = some text := by
  rw [String.fromUTF8?, String.toUTF8, dif_pos text.isValidUTF8]
  rfl

theorem ProjectResult.readBytes?_fileText (result : ProjectResult) :
    Json.readBytes? result.fileText.toUTF8 = Json.read? result.toJson.pretty := by
  rw [Json.readBytes?, fromUTF8?_toUTF8]
  rfl

/-- A result whose figures are finite comes back with its figures as they are read again. -/
theorem ProjectResult.ofFileContent_fileText {result : ProjectResult} (keepable : result.Keepable)
    (storable : result.Storable) :
    ofFileContent result.fileText.toUTF8 =
      match result.reread with
      | some back => .ok back
      | none => .error .notJson := by
  have survive := fun value member => (keepable.values value member).2
  have reread := reread_toJson storable survive
  have readable : ∀ value ∈ result.toJson.reread,
      value.nesting ≤ Json.nestingLimit ∧ value.Distinct := by
    intro value again
    refine ⟨Json.nesting_of_reread _ again ▸ keepable.nesting, ?_⟩
    rw [reread] at again
    obtain ⟨back, same, rfl⟩ := Option.map_eq_some_iff.mp again
    exact keepable.distinct same
  rw [ofFileContent, readBytes?_fileText, Json.read?_pretty _ readable, reread]
  cases same : result.reread with
  | none => rfl
  | some back => exact ofJson_toJson (storable_of_reread keepable.flag same).1

/-- A result comes back as itself exactly when each of its figures does. -/
theorem ProjectResult.ofFileContent_eq_self {result : ProjectResult} (keepable : result.Keepable) :
    ofFileContent result.fileText.toUTF8 = .ok result ↔
      ∀ figure ∈ result.figures, rereadFigure figure = some figure := by
  rw [← reread_eq_self]
  constructor
  · intro read
    -- Whatever is loaded has finite figures, so the result has them before it is written.
    have storable : result.Storable := by
      rw [ofFileContent] at read
      split at read
      · exact storable_of_ofJson read
      · cases read
    rw [ofFileContent_fileText keepable storable] at read
    split at read
    · rename_i same
      cases read
      exact same
    · cases read
  · intro same
    have storable := (storable_of_reread keepable.flag same).1
    rw [ofFileContent_fileText keepable storable, same]

/-- Saving fails only where nothing can be written. -/
theorem ProjectResult.save_eq_ok {result : ProjectResult} {files grown : FileTree}
    {path : String} :
    result.save files path = .ok grown ↔
      files.write path result.fileText.toUTF8 = .ok grown := by
  rw [save]
  cases files.write path result.fileText.toUTF8 <;> simp [Except.mapError]

theorem ProjectResult.load_of_save {result : ProjectResult} {files grown : FileTree}
    {path : String} (saved : result.save files path = .ok grown) :
    load grown path = ofFileContent result.fileText.toUTF8 := by
  rw [load, FileTree.read_of_write (save_eq_ok.mp saved)]

/-- Whatever strings, counts, settings and extensions a result holds: when its doubles survive and
it does not nest too deeply, its text is read as that result, in memory and from any file. -/
theorem ProjectResult.load_save {result : ProjectResult} (keepable : result.Keepable)
    (survive : ∀ figure ∈ result.figures, rereadFigure figure = some figure) :
    ofFileContent result.fileText.toUTF8 = .ok result ∧
    ∀ files path grown, files.write path result.fileText.toUTF8 = .ok grown →
      result.save files path = .ok grown ∧ load grown path = .ok result := by
  have same := (ofFileContent_eq_self keepable).mpr survive
  constructor
  · exact same
  · intro files path grown written
    have saved := save_eq_ok.mpr written
    exact ⟨saved, (load_of_save saved).trans same⟩

/-- Strings of several sorts, counts at their limits, and a double among the settings. -/
def spokenSample : ProjectResult where
  reports := [{
    srcPath := "src/\"a\\b\".js"
    srcPathAlias := some "ä\n😀"
    aggregate := { sloc := ⟨4294967295, 8⟩, cyclomatic := 3, cyclomaticDensity := 37.5 }
    functions := [{
      name := "", line := 18446744073709551615, params := 0, sloc := ⟨1, 1⟩, cyclomatic := 1
      cognitive := 0, maxNesting := 0 }] }]
  settings := some {
    extra := Entries.empty.insert "ratio" (.number (.float 0.1 (by decide +kernel))) }
  extensions := SortedEntries.empty.insert "\x00" (.object [
    ("least", .number (.integer (-9223372036854775808) (by decide) (by decide))),
    ("none", .array [])])

theorem ProjectResult.load_save_spokenSample :
    ofFileContent spokenSample.fileText.toUTF8 = .ok spokenSample ∧
    load (FileTree.put {} ["kept.json"] (.file spokenSample.fileText.toUTF8)) "kept.json" =
      .ok spokenSample := by
  have keepable : spokenSample.Keepable := by
    constructor
    · decide +kernel
    · rintro settings ⟨⟩
      decide +kernel
    · decide +kernel
  have survive : ∀ figure ∈ spokenSample.figures, rereadFigure figure = some figure := by
    decide +kernel
  obtain ⟨text, files⟩ := load_save keepable survive
  exact ⟨text, (files {} "kept.json" _ rfl).2⟩

end CodeMetrics
