import CodeMetrics.Proofs.Broadcasts

/-!
Results that are finished again. A reprocessing that fails leaves the result as it was until the
plugins begin to finish it, and from then on as the last of them has left it. One that succeeds has
put the settings of the call and, with the standard plugin, new figures in place of the old ones.
-/

namespace CodeMetrics

/-! Where a reprocessing ends. -/
section Endings
variable {σ α : Type}

/-- Where a reprocessing stopped, and what it left of the result and of the memory. -/
inductive Stopped (pipeline : Pipeline σ) (options : Options) (result : ProjectResult)
    (memory : σ) (complaint : Complaint) : ProjectResult × σ → Prop where
  | configuring {place : Nat} {settings : Settings} {after : σ}
      (stopped : StopsAt place (pipeline.configureSteps options) (.ofOptions options, memory)
        complaint (settings, after)) :
      Stopped pipeline options result memory complaint (result, after)
  | starting {settings : Settings} {configured after : σ} {place : Nat}
      (passed : Passes (pipeline.configureSteps options) (.ofOptions options, memory)
        (settings, configured))
      (stopped : StopsAt place (pipeline.startSteps settings) configured complaint after) :
      Stopped pipeline options result memory complaint (result, after)
  | finishing {settings : Settings} {configured started : σ} {place : Nat}
      {after : ProjectResult × σ}
      (passed : Passes (pipeline.configureSteps options) (.ofOptions options, memory)
        (settings, configured))
      (begun : Passes (pipeline.startSteps settings) configured started)
      (stopped : StopsAt place pipeline.finishSteps
        ({ result with settings := some settings }, started) complaint after) :
      Stopped pipeline options result memory complaint after

variable {project : ProjectAnalyzer σ α} {options : Options} {result : ProjectResult} {memory : σ}
  {settings : Settings} {configured started : σ} {after : ProjectResult × σ} {failure : Failure}

theorem reprocess_of_configure_error {left : σ}
    (stopped : project.pipeline.configure options memory = .error failure left) :
    project.reprocess options (result, memory) = .error failure (result, left) := by
  simp only [ProjectAnalyzer.reprocess, stopped]

theorem reprocess_of_start_error {left : σ}
    (configuring : project.pipeline.configure options memory = .ok settings configured)
    (stopped : project.pipeline.start settings configured = .error failure left) :
    project.reprocess options (result, memory) = .error failure (result, left) := by
  simp only [ProjectAnalyzer.reprocess, configuring, stopped]

theorem reprocess_of_start_ok
    (configuring : project.pipeline.configure options memory = .ok settings configured)
    (starting : project.pipeline.start settings configured = .ok () started) :
    project.reprocess options (result, memory) =
      project.pipeline.finish ({ result with settings := some settings }, started) := by
  simp only [ProjectAnalyzer.reprocess, configuring, starting]

theorem reprocess_eq_ok_iff :
    project.reprocess options (result, memory) = .ok () after ↔
      project.processResults result options memory = .ok after.1 after.2 := by
  rw [ProjectAnalyzer.processResults]
  cases project.reprocess options (result, memory) <;> simp [Prod.ext_iff]

theorem stopped_of_reprocess
    (failed : project.reprocess options (result, memory) = .error failure after) :
    ∃ complaint, failure = .collaborator complaint ∧
      Stopped project.pipeline options result memory complaint after := by
  cases configuring : project.pipeline.configure options memory with
  | error failure' left =>
      rw [reprocess_of_configure_error configuring] at failed
      cases failed
      obtain ⟨complaint, place, ⟨settings, _⟩, rfl, stopped, rfl⟩ :=
        (project.pipeline.configure_isPhase options memory).eq_error_iff.mp configuring
      exact ⟨complaint, rfl, .configuring stopped⟩
  | ok settings configured =>
      obtain ⟨_, passed, rfl, rfl⟩ :=
        (project.pipeline.configure_isPhase options memory).eq_ok_iff.mp configuring
      cases starting : project.pipeline.start _ _ with
      | error failure' left =>
          rw [reprocess_of_start_error configuring starting] at failed
          cases failed
          obtain ⟨complaint, place, _, rfl, stopped, rfl⟩ :=
            (project.pipeline.start_isPhase _ _).eq_error_iff.mp starting
          exact ⟨complaint, rfl, .starting passed stopped⟩
      | ok done started =>
          rw [reprocess_of_start_ok configuring starting] at failed
          obtain ⟨_, begun, -, rfl⟩ := (project.pipeline.start_isPhase _ _).eq_ok_iff.mp starting
          obtain ⟨complaint, place, _, rfl, stopped, rfl⟩ :=
            (project.pipeline.finish_isPhase _).eq_error_iff.mp failed
          exact ⟨complaint, rfl, .finishing passed begun stopped⟩

theorem reprocess_of_stopped {complaint : Complaint}
    (stopped : Stopped project.pipeline options result memory complaint after) :
    project.reprocess options (result, memory) = .error (.collaborator complaint) after := by
  cases stopped with
  | configuring stopped =>
      apply reprocess_of_configure_error
      exact (project.pipeline.configure_isPhase options memory).eq_error_iff.mpr
        ⟨complaint, _, _, rfl, stopped, rfl⟩
  | starting passed stopped =>
      refine reprocess_of_start_error
        ((project.pipeline.configure_isPhase options memory).eq_ok_iff.mpr
          ⟨_, passed, rfl, rfl⟩) ?_
      exact (project.pipeline.start_isPhase _ _).eq_error_iff.mpr
        ⟨complaint, _, _, rfl, stopped, rfl⟩
  | finishing passed begun stopped =>
      rw [reprocess_of_start_ok
        ((project.pipeline.configure_isPhase options memory).eq_ok_iff.mpr
          ⟨_, passed, rfl, rfl⟩)
        ((project.pipeline.start_isPhase _ _).eq_ok_iff.mpr ⟨_, begun, rfl, rfl⟩)]
      exact (project.pipeline.finish_isPhase _).eq_error_iff.mpr
        ⟨complaint, _, _, rfl, stopped, rfl⟩

/-- A reprocessing that fails leaves the result untouched, or with the settings of the call and what
the finish hooks up to the one that failed have made of it, and no later hook had a part in that.
One that succeeds leaves what processing the result by itself gives. -/
theorem reprocess_leaves (project : ProjectAnalyzer σ α) (options : Options)
    (result : ProjectResult) (memory : σ) (after : ProjectResult × σ) :
    (project.reprocess options (result, memory) = .ok () after ↔
      project.processResults result options memory = .ok after.1 after.2) ∧
    (∀ failure, project.reprocess options (result, memory) = .error failure after ↔
      ∃ complaint, failure = .collaborator complaint ∧
        Stopped project.pipeline options result memory complaint after) ∧
    ∀ place complaint begun, StopsAt place project.pipeline.finishSteps begun complaint after →
      ∀ others, inTurn (project.pipeline.finishSteps.take (place + 1) ++ others) begun =
        .error complaint after := by
  refine ⟨reprocess_eq_ok_iff, ?_, ?_⟩
  · intro failure
    constructor
    · exact stopped_of_reprocess
    · rintro ⟨complaint, rfl, stopped⟩
      exact reprocess_of_stopped stopped
  · intro place complaint begun stopped others
    exact stopped.whatever_follows others

end Endings

/-! What a reprocessing makes of a result when the standard plugin is the first to finish it. -/
section Figures
variable {σ α : Type}

/-- A finish hook that goes well changes nothing of a result but its extensions. -/
def Plugin.OnlyExtends (plugin : Plugin σ) : Prop :=
  ∀ ⦃result memory left after⦄, plugin.finish (result, memory) = .ok () (left, after) →
    ∃ extensions, left = { result with extensions := extensions }

/-- Reports with the figures that they give. -/
def ProjectResult.fresh (reports : List ModuleReport) (settings : Settings)
    (extensions : SortedEntries Json) : ProjectResult where
  reports := reports
  settings := some settings
  metrics := some (.ofReports reports)
  extensions := extensions

def ProjectResult.IsFresh (reports : List ModuleReport) (settings : Settings)
    (result : ProjectResult) : Prop :=
  ∃ extensions, result = .fresh reports settings extensions

/-- The settings of a call when no plugin but the standard one is configured. -/
def Settings.standard (options : Options) : Settings where
  skipCalculation := (options.bool? skipKey).getD false
  extra := Entries.empty.insert noCoreSizeKey (.bool ((options.bool? noCoreSizeKey).getD false))

def ProjectAnalyzer.standardFirst (plugins : List (Plugin σ)) (analyzer : Analyzer σ α) :
    ProjectAnalyzer σ α :=
  ⟨.ofPlugins true plugins, analyzer⟩

variable {plugins : List (Plugin σ)} {analyzer : Analyzer σ α} {options : Options}
  {result done : ProjectResult} {settings : Settings} {before after : σ}

open ProjectAnalyzer (standardFirst)

theorem finishSteps_standardFirst :
    (standardFirst plugins analyzer).pipeline.finishSteps =
      standardPlugin.finish :: ((Pipeline.mk plugins).declaring .finish).map (·.finish) := rfl

theorem finished_fresh
    (extend : ∀ plugin ∈ plugins, Hook.finish ∈ plugin.hooks → plugin.OnlyExtends)
    (stored : result.settings = some settings)
    (went : (standardFirst plugins analyzer).finished result before = .ok done after) :
    done.IsFresh result.reports settings := by
  rw [ProjectAnalyzer.finished] at went
  split at went
  case h_2 => cases went
  rename_i state ended
  cases went
  obtain ⟨left, passed, -, same⟩ :=
    ((standardFirst plugins analyzer).pipeline.finish_isPhase _).eq_ok_iff.mp ended
  obtain rfl : left = state := same
  rw [finishSteps_standardFirst] at passed
  obtain ⟨between, first, later⟩ := passed
  cases first
  -- What the standard plugin leaves is fresh, and no later step changes that.
  apply later.keeps_hook
  · rintro plugin present declared before after went ⟨extensions, same⟩
    obtain ⟨others, changed⟩ := extend plugin present declared went
    exact ⟨others, by rw [changed, same]; rfl⟩
  · exact ⟨result.extensions, by rw [ProjectResult.fresh, ← stored]⟩

theorem processResults_fresh
    (extend : ∀ plugin ∈ plugins, Hook.finish ∈ plugin.hooks → plugin.OnlyExtends)
    (went : (standardFirst plugins analyzer).processResults result options before =
      .ok done after) :
    ∃ settings configured,
      (standardFirst plugins analyzer).pipeline.configure options before =
        .ok settings configured ∧
      done.IsFresh result.reports settings := by
  rw [processResults_eq] at went
  obtain ⟨settings, configured, configuring, went⟩ := bind_eq_ok went
  obtain ⟨_, started, -, went⟩ := bind_eq_ok went
  have fresh := finished_fresh extend (by rfl) went
  exact ⟨settings, configured, configuring, fresh⟩

theorem analyze_fresh
    (extend : ∀ plugin ∈ plugins, Hook.finish ∈ plugin.hooks → plugin.OnlyExtends)
    {modules : List (ModuleInput α)}
    (went : (standardFirst plugins analyzer).analyze modules options before = .ok done after) :
    ∃ settings configured,
      (standardFirst plugins analyzer).pipeline.configure options before =
        .ok settings configured ∧
      (settings.skipCalculation = false → done.IsFresh done.reports settings) := by
  obtain ⟨-, settings, configured, started, reports, reported, configuring, -, -, ending⟩ :=
    analyze_eq_ok went
  refine ⟨settings, configured, configuring, ?_⟩
  intro wanted
  rw [wanted, if_neg (by decide)] at ending
  obtain ⟨extensions, rfl⟩ := finished_fresh extend (by rfl) ending
  exact ⟨extensions, rfl⟩

/-- The standard plugin puts new figures in place of the old ones before any other plugin could
look at them. -/
theorem processResults_stale (result : ProjectResult) (settings : Option Settings)
    (metrics : Option ProjectMetrics) :
    (standardFirst plugins analyzer).processResults
        { result with settings := settings, metrics := metrics } options =
      (standardFirst plugins analyzer).processResults result options := by
  rw [processResults_eq, processResults_eq]
  rfl

/-- The standard plugin alone never fails, and leaves the memory as it was. -/
theorem processResults_standard (result : ProjectResult) (memory : σ) :
    (standardFirst [] analyzer).processResults result options memory =
      .ok (.fresh result.reports (.standard options) result.extensions) memory := rfl

/-- A result that has been finished with the standard plugin has the settings of the call and the
figures of its reports, whatever settings and figures it had before. The standard plugin alone
always succeeds, and a second time changes nothing. -/
theorem metrics_fresh
    (extend : ∀ plugin ∈ plugins, Hook.finish ∈ plugin.hooks → plugin.OnlyExtends)
    (analyzer : Analyzer σ α) (options : Options) (before : σ) :
    (∀ result done after,
      (standardFirst plugins analyzer).processResults result options before = .ok done after →
      ∃ settings configured,
        (standardFirst plugins analyzer).pipeline.configure options before =
          .ok settings configured ∧
        done.IsFresh result.reports settings) ∧
    (∀ result settings metrics,
      (standardFirst plugins analyzer).processResults
          { result with settings := settings, metrics := metrics } options =
        (standardFirst plugins analyzer).processResults result options) ∧
    (∀ modules done after,
      (standardFirst plugins analyzer).analyze modules options before = .ok done after →
      ∃ settings configured,
        (standardFirst plugins analyzer).pipeline.configure options before =
          .ok settings configured ∧
        (settings.skipCalculation = false → done.IsFresh done.reports settings)) ∧
    ∀ result, ∃ done,
      done = .fresh result.reports (.standard options) result.extensions ∧
      (∀ memory, (standardFirst [] analyzer).processResults result options memory =
        .ok done memory) ∧
      ∀ memory, (standardFirst [] analyzer).processResults done options memory =
        .ok done memory := by
  refine ⟨?_, ?_, ?_, ?_⟩
  · intro result done after went
    exact processResults_fresh extend went
  · intro result settings metrics
    exact processResults_stale result settings metrics
  · intro modules done after went
    exact analyze_fresh extend went
  · intro result
    exact ⟨_, rfl, processResults_standard result, processResults_standard _⟩

/-- Names the call in the settings and in the extensions, and counts in the memory. -/
def naming : Plugin Nat where
  name := "naming"
  hooks := [.configure, .finish]
  configure _ := Step.change fun state => (state.1.set "call" (.string "second"), state.2 + 1)
  finish := Step.change fun state =>
    ({ state.1 with extensions := state.1.extensions.insert "call" (.string "second") },
      state.2 + 1)

/-- One report, and what another call has left. -/
def staleSample : ProjectResult where
  reports := [{ srcPath := "a.js", aggregate := { sloc := ⟨1, 1⟩, cyclomatic := 4 } }]
  settings := some { skipCalculation := true, extra := Entries.empty.insert "call" .null }
  metrics := some ⟨7, 0, 0, 0.0, 0.0, 0.0, 0.0, 0.0⟩
  extensions := SortedEntries.empty.insert "notes" (.array [])

theorem metrics_fresh_staleSample :
    ∃ done, (standardFirst [naming] (JavaScript.analyzer {})).processResults staleSample .empty 5 =
        .ok done 7 ∧
      done.reports = staleSample.reports ∧
      done.metrics = some (.ofReports staleSample.reports) ∧
      done.settings = some ((Settings.standard .empty).set "call" (.string "second")) := by
  have extend : ∀ plugin ∈ [naming], Hook.finish ∈ plugin.hooks → plugin.OnlyExtends := by
    rintro plugin member - result memory left after went
    obtain rfl := List.mem_singleton.mp member
    cases went
    exact ⟨_, rfl⟩
  obtain ⟨done, went⟩ : ∃ done, (standardFirst [naming] (JavaScript.analyzer {})).processResults
      staleSample .empty 5 = .ok done 7 := ⟨_, rfl⟩
  obtain ⟨settings, configured, configuring, extensions, rfl⟩ :=
    (metrics_fresh extend (JavaScript.analyzer {}) .empty 5).1 staleSample done 7 went
  cases configuring
  exact ⟨_, went, rfl, rfl, rfl⟩

end Figures

end CodeMetrics
