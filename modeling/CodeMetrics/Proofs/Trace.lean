import CodeMetrics.Proofs.Runs
import Mathlib.Data.List.Forall2

/-!
What a run calls, and in which order. Plugins and analyzer are made to write down each of their
calls in a log that is part of the memory; the project itself is left as it is. The log of every
call then follows the list of duties of that call up to the first failure, and the failure that is
returned is the one written down last.
-/

namespace CodeMetrics

/-- A call that was made: what the one called was shown, how it left the settings where it may
change them, and what it complained of. -/
inductive Event (α : Type) where
  | configure (place : Nat) (options : Options) (shown left : Settings)
    (fault : Option Complaint)
  | start (place : Nat) (settings : Settings) (fault : Option Complaint)
  | analyze (ast : α) (options : Options) (fault : Option AnalyzerError)
  | finish (place : Nat) (fault : Option Complaint)

/-- A call to make: of a plugin, known by its place in the registration, or for a module. -/
inductive Duty (α : Type) where
  | hook (hook : Hook) (place : Nat)
  | analysis (module : ModuleInput α)

section Laws
variable {α : Type}

/-- An event is the right one for a duty when it shows the options of the run and the settings as
they are by then. Only configuring changes the settings. -/
inductive Meets (options : Options) :
    Duty α → Settings → Event α → Settings → Option Failure → Prop where
  | configure (place : Nat) (shown left : Settings) (fault : Option Complaint) :
      Meets options (.hook .configure place) shown
        (.configure place options shown left fault) left (fault.map .collaborator)
  | start (place : Nat) (settings : Settings) (fault : Option Complaint) :
      Meets options (.hook .start place) settings
        (.start place settings fault) settings (fault.map .collaborator)
  | analysis (module : ModuleInput α) (settings : Settings) (fault : Option AnalyzerError) :
      Meets options (.analysis module) settings
        (.analyze module.ast options fault) settings (fault.map (.moduleAnalysis module.srcPath))
  | finish (place : Nat) (settings : Settings) (fault : Option Complaint) :
      Meets options (.hook .finish place) settings
        (.finish place fault) settings (fault.map .collaborator)

/-- Duties are met one after the other until one fails; nothing is called after that. -/
inductive Follows (options : Options) :
    List (Duty α) → Settings → List (Event α) → Settings → Option Failure → Prop where
  | done (settings : Settings) : Follows options [] settings [] settings none
  | next {duty : Duty α} {duties : List (Duty α)} {event : Event α} {events : List (Event α)}
      {before between after : Settings} {failure : Option Failure}
      (met : Meets options duty before event between none)
      (later : Follows options duties between events after failure) :
      Follows options (duty :: duties) before (event :: events) after failure
  | failed {duty : Duty α} {duties : List (Duty α)} {event : Event α}
      {before after : Settings} {failure : Failure}
      (met : Meets options duty before event after (some failure)) :
      Follows options (duty :: duties) before [event] after (some failure)

theorem follows_append {options : Options} {first second : List (Duty α)}
    {before between after : Settings} {early late : List (Event α)} {failure : Option Failure}
    (left : Follows options first before early between none)
    (right : Follows options second between late after failure) :
    Follows options (first ++ second) before (early ++ late) after failure := by
  generalize ending : (none : Option Failure) = outcome at left
  induction left with
  | done => exact right
  | next met _ ih => exact .next met (ih right ending)
  | failed => cases ending

theorem follows_append_failed {options : Options} {first : List (Duty α)}
    (second : List (Duty α)) {before after : Settings} {events : List (Event α)}
    {failure : Failure} (left : Follows options first before events after (some failure)) :
    Follows options (first ++ second) before events after (some failure) := by
  generalize ending : some failure = outcome at left ⊢
  induction left with
  | done => cases ending
  | next met _ ih => exact .next met (ih ending)
  | failed met => exact .failed met

end Laws

/-! Plugins and analyzer that write down their calls. What they do, and what they answer, is what
they did and answered before. -/
section Logging
variable {σ α : Type}

def Plugin.logged (plugin : Plugin σ) (place : Nat) : Plugin (List (Event α) × σ) where
  name := plugin.name
  hooks := plugin.hooks
  configure options := fun (settings, log, memory) =>
    let result := plugin.configure options (settings, memory)
    let (left, memory) := remaining result
    let event := Event.configure place options settings left (failed? (outcome result))
    ended (outcome result) (left, log ++ [event], memory)
  start settings := fun (log, memory) =>
    let result := plugin.start settings memory
    let event := Event.start place settings (failed? (outcome result))
    ended (outcome result) (log ++ [event], remaining result)
  finish := fun (project, log, memory) =>
    let result := plugin.finish (project, memory)
    let (project, memory) := remaining result
    let event := Event.finish place (failed? (outcome result))
    ended (outcome result) (project, log ++ [event], memory)

def Analyzer.logged (analyzer : Analyzer σ α) : Analyzer (List (Event α) × σ) α :=
  fun ast options (log, memory) =>
    let result := analyzer ast options memory
    let event := Event.analyze ast options (failed? (outcome result))
    ended (outcome result) (log ++ [event], remaining result)

def Pipeline.logged (pipeline : Pipeline σ) : Pipeline (List (Event α) × σ) :=
  ⟨pipeline.plugins.mapIdx fun place plugin => plugin.logged place⟩

def ProjectAnalyzer.logged (project : ProjectAnalyzer σ α) :
    ProjectAnalyzer (List (Event α) × σ) α :=
  ⟨project.pipeline.logged, project.analyzer.logged⟩

end Logging

/-! The duties of a call, and what it means that a call did them. -/
section Calls
variable {σ α : Type}

/-- The plugins that declare a hook with their places, in the order of registration. -/
def Pipeline.declarers (pipeline : Pipeline σ) (hook : Hook) : List (Plugin σ × Nat) :=
  pipeline.plugins.zipIdx.filter fun entry => hook ∈ entry.1.hooks

def Pipeline.duties (pipeline : Pipeline σ) (hook : Hook) : List (Duty α) :=
  (pipeline.declarers hook).map fun entry => .hook hook entry.2

/-- A call on a project analyzer. -/
inductive Request (α : Type) where
  | analyze (modules : List (ModuleInput α)) (options : Options)
  | process (result : ProjectResult) (options : Options)

def Request.options : Request α → Options
  | .analyze _ options => options
  | .process _ options => options

/-- What a call has to refuse before it begins. -/
def Request.refused? : Request α → Option Failure
  | .analyze modules _ =>
    (blankPath? modules).map fun index => .invalidArgument (.missingPath index)
  | .process .. => none

/-- What a call has to do under the settings that its configuration gives. Whether an analysis is
finished depends on them alone. -/
def Request.duties (pipeline : Pipeline σ) (settings : Settings) : Request α → List (Duty α)
  | .analyze modules _ =>
    pipeline.duties .configure ++ (pipeline.duties .start ++ (modules.map .analysis ++
      if settings.skipCalculation then [] else pipeline.duties .finish))
  | .process .. =>
    pipeline.duties .configure ++ (pipeline.duties .start ++ pipeline.duties .finish)

/-- A refused call does nothing. Any other starts from the settings of its options, does its duties
under the settings it ends with, and fails with the failure of the duty it stopped at, if any. -/
def Request.Obeyed (pipeline : Pipeline σ) (request : Request α) (events : List (Event α))
    (answer : Except Failure ProjectResult) : Prop :=
  match request.refused? with
  | some failure => events = [] ∧ answer = .error failure
  | none => ∃ settings,
      Follows request.options (request.duties pipeline settings)
        (.ofOptions request.options) events settings (failed? answer)

def ProjectAnalyzer.serve (project : ProjectAnalyzer σ α) :
    Request α → EStateM Failure σ ProjectResult
  | .analyze modules options => project.analyze modules options
  | .process result options => project.processResults result options

/-- Calls one after the other, whether they fail or not; the memory passes from each to the next. -/
def ProjectAnalyzer.serveAll (project : ProjectAnalyzer σ α) :
    List (Request α) → σ → List (Except Failure ProjectResult) × σ
  | [], memory => ([], memory)
  | request :: rest, memory =>
    let result := project.serve request memory
    let later := project.serveAll rest (remaining result)
    (outcome result :: later.1, later.2)

end Calls

/-! Broadcasts. A step and its logged twin run from states of which one is a view of the other. -/
section Broadcasts
variable {σ τ υ ι α : Type}

def Notes (options : Options) (view : υ → τ) (log : υ → List (Event α)) (settings : υ → Settings)
    (duty : Duty α) (step : Step τ) (noted : Step υ) : Prop :=
  ∀ state, ∃ event after answer,
    step (view state) = ended answer (view after) ∧
    noted state = ended answer after ∧
    log after = log state ++ [event] ∧
    Meets options duty (settings state) event (settings after)
      ((failed? answer).map .collaborator)

/-- What holds of single steps holds of all in turn. -/
theorem inTurn_notes {options : Options} {view : υ → τ} {log : υ → List (Event α)}
    {settings : υ → Settings} (duty : ι → Duty α) (step : ι → Step τ) (noted : ι → Step υ)
    (each : ∀ item, Notes options view log settings (duty item) (step item) (noted item))
    (items : List ι) (state : υ) :
    ∃ events after answer,
      inTurn (items.map step) (view state) = ended answer (view after) ∧
      inTurn (items.map noted) state = ended answer after ∧
      log after = log state ++ events ∧
      Follows options (items.map duty) (settings state) events (settings after)
        ((failed? answer).map .collaborator) := by
  induction items generalizing state with
  | nil => exact ⟨[], state, .ok (), rfl, rfl, by simp, .done _⟩
  | cons item rest ih =>
      rcases each item state with ⟨event, between, answer, plain, logged, grown, met⟩
      cases answer with
      | error complaint =>
          -- Nobody is called after a complaint, so its event is the last one.
          refine ⟨[event], between, .error complaint, ?_, ?_, grown, .failed met⟩
          · simp [inTurn, plain, ended]
          · simp [inTurn, logged, ended]
      | ok done =>
          rcases ih between with ⟨events, after, answer, plainRest, loggedRest, grownRest, later⟩
          refine ⟨event :: events, after, answer, ?_, ?_, ?_, .next met later⟩
          · simp [inTurn, plain, ended, plainRest]
          · simp [inTurn, logged, ended, loggedRest]
          · rw [grownRest, grown, List.append_assoc]
            rfl

/-! What the dispatcher selects are the plugins that declare the hook. -/

theorem participants_declarers (pipeline : Pipeline σ) (hook : Hook) :
    pipeline.participants hook = (pipeline.declarers hook).map Prod.fst := by
  have unplaced : pipeline.plugins.zipIdx.map Prod.fst = pipeline.plugins :=
    List.zipIdx_map_fst 0 pipeline.plugins
  rw [pipeline.participants_eq, Pipeline.declaring, Pipeline.declarers]
  conv_lhs => rw [← unplaced]
  rw [List.filter_map]
  rfl

theorem logged_participants_declarers (pipeline : Pipeline σ) (hook : Hook) :
    (pipeline.logged (α := α)).participants hook =
      (pipeline.declarers hook).map fun entry => entry.1.logged entry.2 := by
  rw [Pipeline.participants_eq, Pipeline.declaring, Pipeline.declarers, Pipeline.logged,
    List.mapIdx_eq_zipIdx_map, List.filter_map]
  rfl

theorem broadcast_notes {options : Options} {view : υ → τ} {log : υ → List (Event α)}
    {settings : υ → Settings} (pipeline : Pipeline σ) (hook : Hook) (step : Plugin σ → Step τ)
    (noted : Plugin (List (Event α) × σ) → Step υ)
    (each : ∀ plugin place, Notes options view log settings (.hook hook place)
      (step plugin) (noted (plugin.logged place)))
    (state : υ) :
    ∃ events after answer,
      inTurn ((pipeline.participants hook).map step) (view state) = ended answer (view after) ∧
      inTurn ((pipeline.logged.participants hook).map noted) state = ended answer after ∧
      log after = log state ++ events ∧
      Follows options (pipeline.duties hook) (settings state) events (settings after)
        ((failed? answer).map .collaborator) := by
  rw [participants_declarers, logged_participants_declarers, List.map_map, List.map_map]
  exact inTurn_notes _ _ _ (fun entry => each entry.1 entry.2) (pipeline.declarers hook) state

end Broadcasts

/-! The phases of a run. -/
section Phases
variable {σ α β γ : Type}

/-- A run and its logged twin answer alike and leave the same memory, and what the twin has added
to the log obeys a law. -/
def Traced (run : EStateM Failure σ β) (logged : EStateM Failure (List (Event α) × σ) β)
    (law : List (Event α) → Except Failure β → Prop) : Prop :=
  ∀ log memory, ∃ events answer after,
    run memory = ended answer after ∧
    logged (log, memory) = ended answer (log ++ events, after) ∧
    law events answer

theorem traced_pure (value : β) {law : List (Event α) → Except Failure β → Prop}
    (holds : law [] (.ok value)) :
    Traced (σ := σ) (pure value) (pure value) law := by
  intro log memory
  exact ⟨[], .ok value, memory, rfl, by simp [pure, EStateM.pure, ended], holds⟩

/-- In a sequence the second run adds its events to those of the first, or the first has failed. -/
theorem traced_bind {run : EStateM Failure σ β}
    {logged : EStateM Failure (List (Event α) × σ) β}
    {next : β → EStateM Failure σ γ}
    {loggedNext : β → EStateM Failure (List (Event α) × σ) γ}
    {first : List (Event α) → Except Failure β → Prop}
    {second : β → List (Event α) → Except Failure γ → Prop}
    {law : List (Event α) → Except Failure γ → Prop}
    (traced : Traced run logged first)
    (tracedNext : ∀ value, Traced (next value) (loggedNext value) (second value))
    (stops : ∀ events failure, first events (.error failure) → law events (.error failure))
    (goesOn : ∀ early late value answer, first early (.ok value) → second value late answer →
      law (early ++ late) answer) :
    Traced (run >>= next) (logged >>= loggedNext) law := by
  intro log memory
  rcases traced log memory with ⟨early, answer, between, plain, noted, holds⟩
  cases answer with
  | error failure =>
      refine ⟨early, .error failure, between, ?_, ?_, stops early failure holds⟩
      · simp [bind, EStateM.bind, plain, ended]
      · simp [bind, EStateM.bind, noted, ended]
  | ok value =>
      -- The second run goes on from the log that the first has left.
      rcases tracedNext value (log ++ early) between with
        ⟨late, answer, after, plainNext, notedNext, holdsNext⟩
      refine ⟨early ++ late, answer, after, ?_, ?_, goesOn early late value answer holds holdsNext⟩
      · simp [bind, EStateM.bind, plain, ended, plainNext]
      · simp [bind, EStateM.bind, noted, ended, notedNext, List.append_assoc]

/-- Meets duties under settings that stay as they are. -/
def Does (options : Options) (duties : List (Duty α)) (settings : Settings)
    (events : List (Event α)) (answer : Except Failure β) : Prop :=
  Follows options duties settings events settings (failed? answer)

theorem does_bind {options : Options} {settings : Settings} {first second : List (Duty α)}
    {run : EStateM Failure σ β} {logged : EStateM Failure (List (Event α) × σ) β}
    {next : β → EStateM Failure σ γ}
    {loggedNext : β → EStateM Failure (List (Event α) × σ) γ}
    (traced : Traced run logged (Does options first settings))
    (tracedNext : ∀ value,
      Traced (next value) (loggedNext value) (Does options second settings)) :
    Traced (run >>= next) (logged >>= loggedNext) (Does options (first ++ second) settings) := by
  apply traced_bind traced tracedNext
  · intro events failure stopped
    exact follows_append_failed second stopped
  · intro early late value answer went later
    exact follows_append went later

theorem configure_traced (pipeline : Pipeline σ) (options : Options) :
    Traced (α := α) (pipeline.configure options) (pipeline.logged.configure options)
      fun events answer => ∃ settings,
        Follows options (pipeline.duties .configure) (.ofOptions options) events settings
          (failed? answer) ∧
        ∀ chosen, answer = .ok chosen → chosen = settings := by
  intro log memory
  -- Configuring is shown the settings, so here the law follows them from plugin to plugin.
  have notes (plugin : Plugin σ) (place : Nat) :
      Notes options (fun state : Settings × List (Event α) × σ => (state.1, state.2.2))
        (fun state => state.2.1) Prod.fst (.hook .configure place)
        (plugin.configure options) ((plugin.logged place).configure options) := by
    intro state
    exact ⟨_, _, _, (ended_outcome _).symm, rfl, rfl, .configure ..⟩
  obtain ⟨events, ⟨settings, log', memory'⟩, answer, plain, noted, grown, follows⟩ :=
    broadcast_notes pipeline .configure (·.configure options) (·.configure options) notes
      (Settings.ofOptions options, log, memory)
  dsimp only at plain noted grown follows
  subst grown
  cases answer with
  | ok done =>
      refine ⟨events, .ok settings, memory', ?_, ?_, settings, follows, ?_⟩
      · simp [Pipeline.configure, plain, ended]
      · simp [Pipeline.configure, noted, ended]
      · intro chosen same
        exact (Except.ok.inj same).symm
  | error complaint =>
      refine ⟨events, .error (.collaborator complaint), memory', ?_, ?_, settings, follows, ?_⟩
      · simp [Pipeline.configure, plain, ended]
      · simp [Pipeline.configure, noted, ended]
      · intro chosen same
        cases same

theorem start_traced (pipeline : Pipeline σ) (options : Options) (settings : Settings) :
    Traced (α := α) (pipeline.start settings) (pipeline.logged.start settings)
      (Does options (pipeline.duties .start) settings) := by
  intro log memory
  have notes (plugin : Plugin σ) (place : Nat) :
      Notes options (Prod.snd : List (Event α) × σ → σ) Prod.fst (fun _ => settings)
        (.hook .start place) (plugin.start settings) ((plugin.logged place).start settings) := by
    intro state
    exact ⟨_, _, _, (ended_outcome _).symm, rfl, rfl, .start ..⟩
  obtain ⟨events, ⟨log', memory'⟩, answer, plain, noted, grown, follows⟩ :=
    broadcast_notes pipeline .start (·.start settings) (·.start settings) notes (log, memory)
  dsimp only at plain noted grown follows
  subst grown
  cases answer with
  | ok done =>
      refine ⟨events, .ok (), memory', ?_, ?_, follows⟩
      · simp [Pipeline.start, plain, ended]
      · simp [Pipeline.start, noted, ended]
  | error complaint =>
      refine ⟨events, .error (.collaborator complaint), memory', ?_, ?_, follows⟩
      · simp [Pipeline.start, plain, ended]
      · simp [Pipeline.start, noted, ended]

theorem finished_traced (project : ProjectAnalyzer σ α) (options : Options) (settings : Settings)
    (result : ProjectResult) :
    Traced (project.finished result) (project.logged.finished result)
      (Does options (project.pipeline.duties .finish) settings) := by
  intro log memory
  have notes (plugin : Plugin σ) (place : Nat) :
      Notes options (fun state : ProjectResult × List (Event α) × σ => (state.1, state.2.2))
        (fun state => state.2.1) (fun _ => settings) (.hook .finish place)
        plugin.finish (plugin.logged place).finish := by
    intro state
    exact ⟨_, _, _, (ended_outcome _).symm, rfl, rfl, .finish ..⟩
  obtain ⟨events, ⟨left, log', memory'⟩, answer, plain, noted, grown, follows⟩ :=
    broadcast_notes project.pipeline .finish (·.finish) (·.finish) notes (result, log, memory)
  dsimp only at plain noted grown follows
  subst grown
  cases answer with
  | ok done =>
      refine ⟨events, .ok left, memory', ?_, ?_, follows⟩
      · simp [ProjectAnalyzer.finished, Pipeline.finish, plain, ended]
      · simp [ProjectAnalyzer.finished, ProjectAnalyzer.logged, Pipeline.finish, noted, ended]
  | error complaint =>
      refine ⟨events, .error (.collaborator complaint), memory', ?_, ?_, follows⟩
      · simp [ProjectAnalyzer.finished, Pipeline.finish, plain, ended]
      · simp [ProjectAnalyzer.finished, ProjectAnalyzer.logged, Pipeline.finish, noted, ended]

theorem report_traced (project : ProjectAnalyzer σ α) (options : Options) (settings : Settings)
    (module : ModuleInput α) :
    Traced (project.report options module) (project.logged.report options module)
      (Does options [.analysis module] settings) := by
  intro log memory
  cases answered : project.analyzer module.ast options memory with
  | ok report after =>
      refine ⟨[.analyze module.ast options none], .ok (report.attachProvenance module), after,
        ?_, ?_, .next (.analysis module settings none) (.done settings)⟩
      · simp [ProjectAnalyzer.report, answered, ended]
      · simp [ProjectAnalyzer.report, ProjectAnalyzer.logged, Analyzer.logged, answered, outcome,
          remaining, failed?, ended]
  | error error after =>
      refine ⟨[.analyze module.ast options (some error)],
        .error (.moduleAnalysis module.srcPath error), after,
        ?_, ?_, .failed (.analysis module settings (some error))⟩
      · simp [ProjectAnalyzer.report, answered, ended]
      · simp [ProjectAnalyzer.report, ProjectAnalyzer.logged, Analyzer.logged, answered, outcome,
          remaining, failed?, ended]

theorem reports_traced (project : ProjectAnalyzer σ α) (options : Options) (settings : Settings)
    (modules : List (ModuleInput α)) :
    Traced (project.reports options modules) (project.logged.reports options modules)
      (Does options (modules.map .analysis) settings) := by
  induction modules with
  | nil => exact traced_pure [] (.done settings)
  | cons module rest ih =>
      apply does_bind (report_traced project options settings module)
      intro report
      rw [← List.append_nil (rest.map Duty.analysis)]
      apply does_bind ih
      intro reports
      exact traced_pure (report :: reports) (.done settings)

/-- The end of an analysis, which the settings may skip. -/
theorem concluded_traced (project : ProjectAnalyzer σ α) (options : Options)
    (settings : Settings) (result : ProjectResult) :
    Traced (if settings.skipCalculation then pure result else project.finished result)
      (if settings.skipCalculation then pure result else project.logged.finished result)
      (Does options
        (if settings.skipCalculation then [] else project.pipeline.duties .finish) settings) := by
  by_cases skipped : settings.skipCalculation = true
  · simp only [skipped, if_true]
    exact traced_pure result (.done settings)
  · simp only [skipped]
    exact finished_traced project options settings result

/-- Configuration comes first and settles the settings for all that follows. -/
theorem configured_traced (pipeline : Pipeline σ) (options : Options)
    (duties : Settings → List (Duty α)) {next : Settings → EStateM Failure σ β}
    {loggedNext : Settings → EStateM Failure (List (Event α) × σ) β}
    (tracedNext : ∀ settings,
      Traced (next settings) (loggedNext settings) (Does options (duties settings) settings)) :
    Traced (pipeline.configure options >>= next) (pipeline.logged.configure options >>= loggedNext)
      fun events answer => ∃ settings,
        Follows options (pipeline.duties .configure ++ duties settings) (.ofOptions options)
          events settings (failed? answer) := by
  apply traced_bind (configure_traced pipeline options) tracedNext
  · rintro events failure ⟨settings, stopped, -⟩
    exact ⟨settings, follows_append_failed _ stopped⟩
  · -- The duties that follow are those under the settings that configuring has ended with.
    rintro early late settings answer ⟨chosen, went, same⟩ later
    obtain rfl := same settings rfl
    exact ⟨settings, follows_append went later⟩

theorem serve_traced (project : ProjectAnalyzer σ α) (request : Request α) :
    Traced (project.serve request) (project.logged.serve request)
      (request.Obeyed project.pipeline) := by
  cases request with
  | process result options =>
      simp only [ProjectAnalyzer.serve, processResults_eq]
      apply configured_traced
      intro settings
      apply does_bind (start_traced project.pipeline options settings)
      intro _
      exact finished_traced project options settings _
  | analyze modules options =>
      cases blank : blankPath? modules with
      | some index =>
          intro log memory
          refine ⟨[], .error (.invalidArgument (.missingPath index)), memory, ?_, ?_, ?_⟩
          · simp [ProjectAnalyzer.serve, ProjectAnalyzer.analyze, blank, throw, throwThe,
              MonadExceptOf.throw, EStateM.throw, ended]
          · simp [ProjectAnalyzer.serve, ProjectAnalyzer.analyze, blank, throw, throwThe,
              MonadExceptOf.throw, EStateM.throw, ended]
          · simp [Request.Obeyed, Request.refused?, blank]
      | none =>
          unfold Request.Obeyed
          simp only [ProjectAnalyzer.serve, ProjectAnalyzer.analyze, Request.refused?, blank,
            Option.map_none, ProjectAnalyzer.analyzeChecked]
          apply configured_traced
          intro settings
          apply does_bind (start_traced project.pipeline options settings)
          intro _
          apply does_bind (reports_traced project options settings modules)
          intro reports
          exact concluded_traced project options settings _

/-- Every sequence of calls answers and leaves the memory as it does without a log, and call by
call the log is what the calls were obliged to do. The failure of a module is told of its path. -/
theorem serveAll_trace (project : ProjectAnalyzer σ α) (requests : List (Request α))
    (log : List (Event α)) (memory : σ) :
    ∃ (visits : List (List (Event α) × Except Failure ProjectResult)) (after : σ),
      project.serveAll requests memory = (visits.map Prod.snd, after) ∧
      project.logged.serveAll requests (log, memory) =
        (visits.map Prod.snd, log ++ (visits.map Prod.fst).flatten, after) ∧
      List.Forall₂ (fun request visit => request.Obeyed project.pipeline visit.1 visit.2)
        requests visits ∧
      ∀ path error, (Failure.moduleAnalysis path error).message? =
        some (path ++ ": " ++ error.message) := by
  have told (path : String) (error : AnalyzerError) :
      (Failure.moduleAnalysis path error).message? = some (path ++ ": " ++ error.message) := rfl
  induction requests generalizing log memory with
  | nil =>
      refine ⟨[], memory, rfl, ?_, .nil, told⟩
      simp [ProjectAnalyzer.serveAll]
  | cons request rest ih =>
      rcases serve_traced project request log memory with
        ⟨events, answer, between, plain, noted, obeyed⟩
      -- A failed call leaves the memory as it got it that far, and the next call begins there.
      rcases ih (log ++ events) between with ⟨visits, after, plainRest, notedRest, obeyedRest, -⟩
      refine ⟨(events, answer) :: visits, after, ?_, ?_, .cons obeyed obeyedRest, told⟩
      · simp [ProjectAnalyzer.serveAll, plain, plainRest]
      · simp [ProjectAnalyzer.serveAll, noted, notedRest, List.append_assoc]

end Phases

end CodeMetrics
