import CodeMetrics.Proofs.Runs

/-!
Broadcasts taken apart. Steps in turn either all go well, or those before some place do and the one
at this place fails; what it leaves is then what is left, and no later step has seen it. So goes
each phase of a run, whose steps are the bodies of one hook in the order of registration.
-/

namespace CodeMetrics

section Steps
variable {τ : Type}

/-- All steps go well, one after the other. -/
def Passes : List (Step τ) → τ → τ → Prop
  | [], before, after => after = before
  | step :: rest, before, after =>
    ∃ between, step before = .ok () between ∧ Passes rest between after

/-- The steps before a place go well, and the one at this place fails. -/
def StopsAt (place : Nat) (steps : List (Step τ)) (before : τ) (complaint : Complaint)
    (after : τ) : Prop :=
  ∃ between step, Passes (steps.take place) before between ∧ steps[place]? = some step ∧
    step between = .error complaint after

theorem inTurn_of_ok {step : Step τ} {before between : τ} (went : step before = .ok () between)
    (rest : List (Step τ)) : inTurn (step :: rest) before = inTurn rest between := by
  simp only [inTurn, went]

theorem inTurn_of_error {step : Step τ} {before after : τ} {complaint : Complaint}
    (stopped : step before = .error complaint after) (rest : List (Step τ)) :
    inTurn (step :: rest) before = .error complaint after := by
  simp only [inTurn, stopped]

theorem inTurn_cons_eq_ok {step : Step τ} {rest : List (Step τ)} {before after : τ} :
    inTurn (step :: rest) before = .ok () after ↔
      ∃ between, step before = .ok () between ∧ inTurn rest between = .ok () after := by
  cases here : step before with
  | error complaint between =>
      rw [inTurn_of_error here]
      simp
  | ok done between =>
      rw [inTurn_of_ok here]
      simp

theorem inTurn_eq_ok_iff {steps : List (Step τ)} {before after : τ} :
    inTurn steps before = .ok () after ↔ Passes steps before after := by
  induction steps generalizing before with
  | nil =>
      constructor
      · rintro ⟨⟩
        rfl
      · rintro rfl
        rfl
  | cons step rest ih => simp only [inTurn_cons_eq_ok, Passes, ih]

theorem inTurn_eq_error_iff {steps : List (Step τ)} {before after : τ} {complaint : Complaint} :
    inTurn steps before = .error complaint after ↔
      ∃ place, StopsAt place steps before complaint after := by
  induction steps generalizing before with
  | nil =>
      constructor
      · rintro ⟨⟩
      · rintro ⟨place, between, step, -, none, -⟩
        cases none
  | cons step rest ih =>
      constructor
      · intro stopped
        cases here : step before with
        | error other between =>
            rw [inTurn_of_error here] at stopped
            cases stopped
            exact ⟨0, before, step, rfl, rfl, here⟩
        | ok done between =>
            rw [inTurn_of_ok here, ih] at stopped
            obtain ⟨place, last, failing, passed, found, failed⟩ := stopped
            exact ⟨place + 1, last, failing, ⟨between, here, passed⟩, found, failed⟩
      · rintro ⟨place, last, failing, passed, found, failed⟩
        cases place with
        | zero =>
            cases passed
            cases found
            exact inTurn_of_error failed rest
        | succ place =>
            obtain ⟨between, here, passed⟩ := passed
            rw [inTurn_of_ok here, ih]
            exact ⟨place, last, failing, passed, found, failed⟩

/-- Whatever comes after the step that fails is never called. -/
theorem StopsAt.whatever_follows {place : Nat} {steps : List (Step τ)} {before after : τ}
    {complaint : Complaint} (stopped : StopsAt place steps before complaint after)
    (others : List (Step τ)) :
    inTurn (steps.take (place + 1) ++ others) before = .error complaint after := by
  obtain ⟨between, step, passed, found, failed⟩ := stopped
  obtain ⟨inside, same⟩ := List.getElem?_eq_some_iff.mp found
  have short : (steps.take place).length = place := List.length_take_of_le (Nat.le_of_lt inside)
  rw [inTurn_eq_error_iff]
  refine ⟨place, between, step, ?_, ?_, failed⟩
  · rw [List.take_append_of_le_length (by rw [List.length_take]; omega), List.take_take,
      Nat.min_eq_left (Nat.le_succ place)]
    exact passed
  · rw [List.getElem?_append_left (by rw [List.length_take]; omega),
      List.getElem?_take_of_lt (Nat.lt_succ_self place)]
    exact found

/-- What each step keeps when it goes well, all steps together keep. -/
theorem Passes.keeps {holds : τ → Prop} {steps : List (Step τ)}
    (each : ∀ step ∈ steps, ∀ {before after}, step before = .ok () after → holds before →
      holds after)
    {before after : τ} (passed : Passes steps before after) (first : holds before) :
    holds after := by
  induction steps generalizing before with
  | nil =>
      obtain rfl := passed
      exact first
  | cons step rest ih =>
      rw [List.forall_mem_cons] at each
      obtain ⟨between, here, later⟩ := passed
      exact ih each.2 later (each.1 here first)

/-- What each plugin's hook keeps when it goes well, a whole broadcast of the hook keeps. -/
theorem Passes.keeps_hook {σ : Type} {holds : τ → Prop} {plugins : List (Plugin σ)} {hook : Hook}
    {body : Plugin σ → Step τ}
    (each : ∀ plugin ∈ plugins, hook ∈ plugin.hooks →
      ∀ {before after}, body plugin before = .ok () after → holds before → holds after)
    {before after : τ}
    (passed : Passes (((Pipeline.mk plugins).declaring hook).map body) before after)
    (first : holds before) : holds after := by
  refine passed.keeps ?_ first
  intro step member before after went kept
  obtain ⟨plugin, listed, rfl⟩ := List.mem_map.mp member
  obtain ⟨present, declared⟩ := Pipeline.mem_declaring.mp listed
  exact each plugin present declared went kept

end Steps

/-! Each phase of a run is a broadcast that starts from some state and shows a part of how it ends. -/
section Phases
variable {σ τ β : Type}

/-- The run of a phase ends as its steps do. -/
def IsPhase (run : EStateM.Result Failure σ β) (steps : List (Step τ)) (state : τ)
    (value : τ → β) (memory : τ → σ) : Prop :=
  run = match inTurn steps state with
    | .ok _ left => .ok (value left) (memory left)
    | .error complaint left => .error (.collaborator complaint) (memory left)

variable {run : EStateM.Result Failure σ β} {steps : List (Step τ)} {state : τ} {value : τ → β}
  {memory : τ → σ}

theorem IsPhase.eq_ok_iff (phase : IsPhase run steps state value memory) {given : β} {after : σ} :
    run = .ok given after ↔
      ∃ left, Passes steps state left ∧ value left = given ∧ memory left = after := by
  obtain rfl := phase
  constructor
  · intro went
    split at went
    · rename_i left ended
      cases went
      exact ⟨left, inTurn_eq_ok_iff.mp ended, rfl, rfl⟩
    · cases went
  · rintro ⟨left, passed, rfl, rfl⟩
    rw [inTurn_eq_ok_iff.mpr passed]

theorem IsPhase.eq_error_iff (phase : IsPhase run steps state value memory) {failure : Failure}
    {after : σ} :
    run = .error failure after ↔
      ∃ complaint place left, failure = .collaborator complaint ∧
        StopsAt place steps state complaint left ∧ memory left = after := by
  obtain rfl := phase
  constructor
  · intro went
    split at went
    · cases went
    · rename_i complaint left ended
      cases went
      obtain ⟨place, stopped⟩ := inTurn_eq_error_iff.mp ended
      exact ⟨complaint, place, left, rfl, stopped, rfl⟩
  · rintro ⟨complaint, place, left, rfl, stopped, rfl⟩
    rw [inTurn_eq_error_iff.mpr ⟨place, stopped⟩]

end Phases

namespace Pipeline
variable {σ : Type} (pipeline : Pipeline σ)

def configureSteps (options : Options) : List (Step (Settings × σ)) :=
  (pipeline.declaring .configure).map (·.configure options)

def startSteps (settings : Settings) : List (Step σ) :=
  (pipeline.declaring .start).map (·.start settings)

def finishSteps : List (Step (ProjectResult × σ)) :=
  (pipeline.declaring .finish).map (·.finish)

theorem configure_isPhase (options : Options) (memory : σ) :
    IsPhase (pipeline.configure options memory) (pipeline.configureSteps options)
      (.ofOptions options, memory) Prod.fst Prod.snd := by
  rw [IsPhase, configure, configureSteps, participants_eq]
  cases inTurn ((pipeline.declaring .configure).map (·.configure options))
    (Settings.ofOptions options, memory) <;> rfl

theorem start_isPhase (settings : Settings) (memory : σ) :
    IsPhase (pipeline.start settings memory) (pipeline.startSteps settings) memory
      (fun _ => ()) id := by
  rw [IsPhase, start, startSteps, participants_eq]
  cases inTurn ((pipeline.declaring .start).map (·.start settings)) memory <;> rfl

theorem finish_isPhase (state : ProjectResult × σ) :
    IsPhase (pipeline.finish state) pipeline.finishSteps state (fun _ => ()) id := by
  rw [IsPhase, finish, finishSteps, participants_eq]
  cases inTurn ((pipeline.declaring .finish).map (·.finish)) state <;> rfl

end Pipeline
end CodeMetrics
