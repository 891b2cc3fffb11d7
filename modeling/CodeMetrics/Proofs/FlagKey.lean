import CodeMetrics.Proofs.Broadcasts
import CodeMetrics.Proofs.Keeping

/-!
Settings that are read back. The flag and the entries of the plugins are written side by side, and
nothing keeps a plugin from storing an entry under the name of the flag. Settings with such an entry
are written with that name twice, and what is read in the place of the flag is the entry.
-/

namespace CodeMetrics

open Settings (skipKey)
open Schema (Reads Refuses)

/-! Settings read back alone. -/
namespace Settings
variable {settings : Settings}

/-- What settings are read back as: an entry under the name of the flag counts as the flag. -/
def reloaded (settings : Settings) : Decoded Settings :=
  match settings.extra.find? skipKey with
  | none => .ok settings
  | some value => value.toBool.map fun skip =>
    { skipCalculation := skip, extra := settings.extra.erase skipKey }

theorem reloaded_eq_ok_iff : settings.reloaded = .ok settings ↔
    settings.extra.find? skipKey = none := by
  rw [reloaded]
  cases found : settings.extra.find? skipKey with
  | none => simp
  | some value =>
      simp only [reduceCtorEq, iff_false]
      intro same
      -- What is left has no such entry, and the settings do.
      obtain ⟨skip, -, same⟩ := except_map_eq_ok same
      rw [← same, Entries.find?_erase, if_pos rfl] at found
      cases found

/-- No name comes twice in the document exactly when no entry has the name of the flag. -/
theorem distinct_toJson_iff (maps : ∀ entry ∈ settings.extra.toList, entry.2.Distinct) :
    settings.toJson.Distinct ↔ settings.extra.find? skipKey = none := by
  constructor
  · intro distinct
    rw [Entries.find?_eq_none_iff]
    exact (List.nodup_cons.mp (distinct _ List.mem_cons_self)).1
  · intro apart
    have inner : ∀ entry ∈ settings.extra.toList,
        entry.2.Fits (Json.nestingOfItems (settings.extra.toList.map Prod.snd)) := by
      intro entry member
      exact ⟨Json.le_nestingOfItems (List.mem_map_of_mem member), maps entry member⟩
    exact (fits_toJson apart inner).distinct

theorem merged_toJson (maps : ∀ entry ∈ settings.extra.toList, entry.2.Distinct) {value : Json}
    (found : settings.extra.find? skipKey = some value) :
    settings.toJson.merged =
      .object ((skipKey, value) :: (settings.extra.erase skipKey).toList) := by
  have kept := Json.mergedMembers_self fun entry member =>
    Json.merged_of_distinct entry.2 (maps entry member)
  have flag : (Json.bool settings.skipCalculation).merged = .bool settings.skipCalculation := rfl
  rw [toJson, Json.merged, Json.mergedMembers, flag, kept, Entries.toList_ofList_again _ found]

theorem merged_toJson_ne_null (settings : Settings) : settings.toJson.merged ≠ .null := by
  rw [toJson, Json.merged]
  rintro ⟨⟩

theorem ofJson_merged (maps : ∀ entry ∈ settings.extra.toList, entry.2.Distinct) :
    ofJson settings.toJson.merged = settings.reloaded := by
  rw [reloaded]
  cases found : settings.extra.find? skipKey with
  | none =>
      rw [Json.merged_of_distinct _ ((distinct_toJson_iff maps).mpr found)]
      exact ofJson_toJson found
  | some value =>
      rw [merged_toJson maps found]
      apply ofJson_flagged
      rw [Entries.find?_erase, if_pos rfl]

end Settings

/-! Settings read back with the result that holds them. -/
namespace ProjectResult
variable {result : ProjectResult}

/-- The document of a result, with some document in the place of its settings. -/
def toJsonWith (settings : Json) (result : ProjectResult) : Json :=
  .object (("reports", .array (result.reports.map ModuleReport.toJson)) :: ("settings", settings) ::
    (memberIfSome "metrics" ProjectMetrics.toJson result.metrics ++
      extensionMembers result.extensions))

theorem toJson_eq {settings : Settings} (stored : result.settings = some settings) :
    result.toJson = result.toJsonWith settings.toJson := by
  rw [toJson, stored]
  rfl

theorem merged_toJsonWith (maps : ∀ value ∈ result.values, value.Distinct) (settings : Json) :
    (result.toJsonWith settings).merged = result.toJsonWith settings.merged := by
  have distinct : result.bare.toJson.Distinct := distinct_toJson result.apart_bare
    fun value member => maps value (List.mem_append_right _ member)
  have kept : Json.mergedMembers (("reports", .array (result.reports.map ModuleReport.toJson)) ::
      (memberIfSome "metrics" ProjectMetrics.toJson result.metrics ++
        extensionMembers result.extensions)) = _ :=
    Json.mergedMembers_of_distinct _ fun members member =>
      distinct members (List.mem_cons_of_mem _ member)
  rw [Json.mergedMembers] at kept
  obtain ⟨reports, others⟩ := List.cons.inj kept
  have names : ((("reports", Json.array (result.reports.map ModuleReport.toJson)) ::
      ("settings", settings.merged) ::
        (memberIfSome "metrics" ProjectMetrics.toJson result.metrics ++
          extensionMembers result.extensions)).map Prod.fst).Nodup := by
    rw [extensionMembers]
    cases result.metrics <;> cases result.extensions.isEmpty <;> simp [memberIfSome]
  rw [toJsonWith, Json.merged, Json.mergedMembers, Json.mergedMembers, reports, others,
    Entries.toList_ofList names, toJsonWith]

theorem ofJson_refused {members : List (String × Json)} {error : DecodeError}
    (refused : schema.Refuses (fun name => findEntry name members) error) :
    ofJson (.object members) = .error (.invalidArgument (.resultsMalformed error)) := by
  rw [ofJson, refused.decodeMembers]

theorem ofJson_toJsonWith (finite : result.bare.Storable) {document : Json}
    (present : document ≠ .null) :
    ofJson (result.toJsonWith document) =
      match Settings.ofJson document with
      | .ok settings => .ok { result with settings := some settings }
      | .error wrong => .error (.invalidArgument (.resultsMalformed wrong)) := by
  rcases result with ⟨reports, old, metrics, extensions⟩
  have listed := Json.toList_array fun item (member : item ∈ reports) =>
    ModuleReport.ofJson_toJson (finite.reports item member)
  have measured := fun item (member : item ∈ metrics) =>
    ProjectMetrics.ofJson_toJson (finite.metrics item member)
  cases decoded : Settings.ofJson document with
  | ok settings =>
      apply ofJson_object
      refine Reads.extensions ?_ ?_
      refine Reads.optionMember ?_ ?_ measured nofun
      refine Reads.optional ?_ ?_ (Json.toOption_present decoded present)
      refine Reads.field ?_ rfl listed
      exact Reads.build _ _
      all_goals
        simp [findEntry, findEntry_append, findEntry_memberIfSome, findEntry_extensionMembers]
  | error wrong =>
      apply ofJson_refused
      refine Refuses.other extensions ?_ (Reads.extensions (Reads.build _ _) ?_)
      refine Refuses.other metrics ?_ (Reads.optionMember (Reads.build _ _) ?_ measured nofun)
      refine Refuses.optional (Reads.field (Reads.build _ _) rfl listed) ?_
        (Json.toOption_refused decoded present)
      all_goals
        simp [findEntry, findEntry_append, findEntry_memberIfSome, findEntry_extensionMembers]

/-- The settings come back as they would alone, and the figures as they are read again. -/
theorem ofFileContent_fileText_with {settings : Settings}
    (stored : result.settings = some settings) (finite : result.bare.Storable)
    (values : ∀ value ∈ result.values, value.Distinct ∧ value.Survives)
    (nesting : result.toJson.nesting ≤ Json.nestingLimit) :
    ofFileContent result.fileText.toUTF8 =
      match result.reread with
      | none => .error .notJson
      | some back =>
        match settings.reloaded with
        | .ok again => .ok { back with settings := some again }
        | .error wrong => .error (.invalidArgument (.resultsMalformed wrong)) := by
  have again := reread_toJson_of_finite finite fun value member => (values value member).2
  rw [ofFileContent, readBytes?_fileText, Json.read?_pretty_merged _ fun back read =>
    Json.nesting_of_reread _ read ▸ nesting, again]
  cases read : result.reread with
  | none => rfl
  | some back =>
      obtain ⟨bare, kept, extensions⟩ := reread_bare read
      have maps : ∀ value ∈ back.values, value.Distinct := by
        rw [ProjectResult.values, kept, extensions]
        exact fun value member => (values value member).1
      have entries : ∀ entry ∈ settings.extra.toList, entry.2.Distinct := fun entry member =>
        (values entry.2 (mem_values_settings stored member)).1
      have proper := (storable_of_reread result.apart_bare bare).1
      rw [Option.map_some, Option.map_some, toJson_eq (kept.trans stored), merged_toJsonWith maps]
      dsimp only
      rw [ofJson_toJsonWith proper settings.merged_toJson_ne_null, Settings.ofJson_merged entries]

/-- Settings kept in a result that holds nothing else. -/
theorem ofFileContent_settings {settings : Settings}
    (entries : ∀ entry ∈ settings.extra.toList, entry.2.Distinct ∧ entry.2.Survives)
    (nesting : (toJson { settings := some settings }).nesting ≤ Json.nestingLimit) :
    ofFileContent (fileText { settings := some settings }).toUTF8 =
      match settings.reloaded with
      | .ok again => .ok { settings := some again }
      | .error wrong => .error (.invalidArgument (.resultsMalformed wrong)) := by
  have finite : (bare { settings := some settings }).Storable := by
    constructor
    · exact List.forall_mem_nil _
    · exact apart_bare _
    · rintro metrics ⟨⟩
  refine ofFileContent_fileText_with rfl finite ?_ nesting
  intro value member
  rw [values, Option.toList_some, List.flatMap_singleton, List.mem_append] at member
  rcases member with inside | ⟨⟨⟩⟩
  obtain ⟨entry, listed, rfl⟩ := List.mem_map.mp inside
  exact entries entry listed

end ProjectResult

/-! Settings of a call, as its plugins have left them. -/
section Configured
variable {σ : Type}

/-- A configure hook that goes well stores nothing under the name of the flag. -/
def Plugin.SparesFlag (plugin : Plugin σ) : Prop :=
  ∀ ⦃options settings memory left after⦄,
    plugin.configure options (settings, memory) = .ok () (left, after) →
    settings.extra.find? skipKey = none → left.extra.find? skipKey = none

variable {pipeline : Pipeline σ} {options : Options} {settings : Settings} {before after : σ}

theorem configure_apart
    (spare : ∀ plugin ∈ pipeline.plugins, Hook.configure ∈ plugin.hooks → plugin.SparesFlag)
    (configured : pipeline.configure options before = .ok settings after) :
    settings.extra.find? skipKey = none := by
  obtain ⟨left, passed, rfl, -⟩ :=
    (pipeline.configure_isPhase options before).eq_ok_iff.mp configured
  apply passed.keeps_hook
  · intro plugin present declared before after went apart
    exact spare plugin present declared went apart
  · rfl

/-- Settings come back as they were exactly when no plugin has left an entry under the name of the
flag. Such an entry makes the name come twice, and is read as the flag, alone and in any result. -/
theorem configured_settings_reload
    (configured : pipeline.configure options before = .ok settings after)
    (maps : ∀ entry ∈ settings.extra.toList, entry.2.Distinct) :
    (settings.toJson.Distinct ↔ settings.extra.find? skipKey = none) ∧
    (Settings.ofJson settings.toJson.merged = .ok settings ↔
      settings.extra.find? skipKey = none) ∧
    Settings.ofJson settings.toJson.merged = settings.reloaded ∧
    ((∀ plugin ∈ pipeline.plugins, Hook.configure ∈ plugin.hooks → plugin.SparesFlag) →
      settings.extra.find? skipKey = none) ∧
    ∀ result : ProjectResult, result.settings = some settings → result.bare.Storable →
      (∀ value ∈ result.values, value.Distinct ∧ value.Survives) →
      result.toJson.nesting ≤ Json.nestingLimit →
      ProjectResult.ofFileContent result.fileText.toUTF8 =
        match result.reread with
        | none => .error .notJson
        | some back =>
          match settings.reloaded with
          | .ok again => .ok { back with settings := some again }
          | .error wrong => .error (.invalidArgument (.resultsMalformed wrong)) := by
  refine ⟨?_, ?_, ?_, ?_, ?_⟩
  · exact Settings.distinct_toJson_iff maps
  · rw [Settings.ofJson_merged maps]
    exact Settings.reloaded_eq_ok_iff
  · exact Settings.ofJson_merged maps
  · exact fun spare => configure_apart spare configured
  · intro result stored finite values nesting
    exact ProjectResult.ofFileContent_fileText_with stored finite values nesting

/-- Stores one entry when it is configured. -/
def storing (key : String) (value : Json) : Plugin Unit where
  name := "storing"
  hooks := [.configure]
  configure _ := Step.change fun state => (state.1.set key value, state.2)

theorem configured_settings_reload_storing :
    ∃ settings, (⟨[storing "mode" (.string "full")]⟩ : Pipeline Unit).configure
        (Options.empty.insert skipKey (.bool true)) () = .ok settings () ∧
      settings.skipCalculation = true ∧ settings.toJson.Distinct ∧
      Settings.ofJson settings.toJson.merged = .ok settings := by
  obtain ⟨settings, configured, skipped, maps⟩ : ∃ settings,
      (⟨[storing "mode" (.string "full")]⟩ : Pipeline Unit).configure
        (Options.empty.insert skipKey (.bool true)) () = .ok settings () ∧
      settings.skipCalculation = true ∧ ∀ entry ∈ settings.extra.toList, entry.2.Distinct :=
    ⟨_, rfl, rfl, by decide⟩
  have spare : ∀ plugin ∈ [storing "mode" (.string "full")],
      Hook.configure ∈ plugin.hooks → plugin.SparesFlag := by
    rintro plugin member - options settings memory left after went apart
    obtain rfl := List.mem_singleton.mp member
    cases went
    rw [Settings.set, Entries.find?_insert, if_neg (by decide), apart]
  obtain ⟨distinct, alone, -, spared, -⟩ := configured_settings_reload configured maps
  exact ⟨settings, configured, skipped, distinct.mpr (spared spare), alone.mpr (spared spare)⟩

/-- With an entry that is no truth value a result cannot be loaded. With one that is true it is
loaded as the result of a call that skips the project figures, which this call had not asked for. -/
theorem configured_settings_reload_shadowing :
    ∃ wrong other,
      (⟨[storing skipKey (.string "yes")]⟩ : Pipeline Unit).configure .empty () = .ok wrong () ∧
      ¬wrong.toJson.Distinct ∧
      ProjectResult.ofFileContent ({ settings := some wrong } : ProjectResult).fileText.toUTF8 =
        .error (.invalidArgument (.resultsMalformed (.wrongType "string \"yes\"" "a boolean"))) ∧
      (⟨[storing skipKey (.bool true)]⟩ : Pipeline Unit).configure .empty () = .ok other () ∧
      other.skipCalculation = false ∧
      ProjectResult.ofFileContent ({ settings := some other } : ProjectResult).fileText.toUTF8 =
        .ok { settings := some { skipCalculation := true } } := by
  have told : (Json.string "yes").describe = "string \"yes\"" := by decide +kernel
  have refused : (Json.string "yes").toBool =
      .error (.wrongType "string \"yes\"" "a boolean") := by
    rw [← told]
    rfl
  refine ⟨{ extra := Entries.empty.insert skipKey (.string "yes") },
    { extra := Entries.empty.insert skipKey (.bool true) }, rfl, by decide, ?_, rfl, rfl, ?_⟩
  · rw [ProjectResult.ofFileContent_settings (by decide) (by decide), Settings.reloaded,
      Entries.find?_insert, if_pos rfl]
    dsimp only
    rw [refused]
    rfl
  · rw [ProjectResult.ofFileContent_settings (by decide) (by decide)]
    rfl

end Configured

end CodeMetrics
