import CodeMetrics.ProjectMetrics
import Mathlib.Algebra.Order.BigOperators.Group.List
import Mathlib.Algebra.Order.Field.Rat
import Mathlib.Data.Finset.Max
import Mathlib.Data.List.Forall2
import Mathlib.Tactic.Linarith

/-!
The means of a project in exact numbers. A module brings the mean over its functions, or its own
figure when it has none, and a project's figure is the mean of what its modules bring. Reports hold
doubles instead, in which the same sums and quotients are rounded.
-/

namespace CodeMetrics

/-! Means of rational numbers. -/

theorem mean_eq (values : List ℚ) : mean values = values.sum / values.length := by
  cases values with
  | nil => simp [mean]
  | cons value rest => rw [mean, if_neg nofun, ← List.sum_eq_foldl]

theorem length_mul_mean (values : List ℚ) : values.length * mean values = values.sum := by
  cases values with
  | nil => simp
  | cons value rest =>
      rw [mean_eq]
      exact mul_div_cancel₀ _ (Nat.cast_ne_zero.mpr nofun)

theorem mean_perm {left right : List ℚ} (same : left.Perm right) : mean left = mean right := by
  rw [mean_eq, mean_eq, same.sum_eq, same.length_eq]

theorem le_mean {low : ℚ} {values : List ℚ} (filled : values ≠ [])
    (above : ∀ value ∈ values, low ≤ value) : low ≤ mean values := by
  have positive : (0 : ℚ) < values.length := Nat.cast_pos.mpr (List.length_pos_iff.mpr filled)
  have bound := List.card_nsmul_le_sum values low above
  rw [mean_eq, le_div_iff₀ positive, mul_comm, ← nsmul_eq_mul]
  exact bound

theorem mean_le {high : ℚ} {values : List ℚ} (filled : values ≠ [])
    (below : ∀ value ∈ values, value ≤ high) : mean values ≤ high := by
  have positive : (0 : ℚ) < values.length := Nat.cast_pos.mpr (List.length_pos_iff.mpr filled)
  have bound := List.sum_le_card_nsmul values high below
  rw [mean_eq, div_le_iff₀ positive, mul_comm, ← nsmul_eq_mul]
  exact bound

/-! Rational numbers of which a quotient by zero is none. -/

structure Checked where
  value? : Option ℚ

namespace Checked

def exact (value : ℚ) : Checked := ⟨some value⟩

instance : Add Checked where
  add left right := ⟨Option.map₂ (· + ·) left.value? right.value?⟩

instance : Div Checked where
  div left right := ⟨left.value?.bind fun dividend => right.value?.bind fun divisor =>
    if divisor = 0 then none else some (dividend / divisor)⟩

instance : OfNat Checked 0 := ⟨exact 0⟩

instance : NatCast Checked := ⟨fun count => exact count⟩

theorem foldl_exact (values : List ℚ) (start : ℚ) :
    (values.map exact).foldl (· + ·) (exact start) = exact (values.foldl (· + ·) start) := by
  induction values generalizing start with
  | nil => rfl
  | cons value rest ih => exact ih (start + value)

theorem exact_div {dividend divisor : ℚ} (nonzero : divisor ≠ 0) :
    exact dividend / exact divisor = exact (dividend / divisor) := by
  change Checked.mk (if divisor = 0 then none else some (dividend / divisor)) = _
  rw [if_neg nonzero]
  rfl

/-- A mean divides by the number of values, and does not divide when there are none. -/
theorem mean_exact (values : List ℚ) : mean (values.map exact) = exact (mean values) := by
  cases values with
  | nil => rfl
  | cons value rest =>
      -- The only quotient is this one, and an empty list never comes to it.
      have divisor : ((value :: rest).length : ℚ) ≠ 0 := Nat.cast_ne_zero.mpr nofun
      rw [mean, mean, if_neg nofun, if_neg nofun, List.length_map, ← exact_div divisor]
      exact congrArg (· / exact ((value :: rest).length : ℚ)) (foldl_exact (value :: rest) 0)

theorem moduleShare_exact (figure : Figure) (report : ModuleReport) :
    moduleShare figure report = exact (moduleShare figure report) := by
  rw [moduleShare, moduleShare]
  by_cases bare : report.functions.isEmpty = true
  · rw [if_pos bare, if_pos bare]
    rfl
  · rw [if_neg bare, if_neg bare, ← mean_exact, List.map_map]
    rfl

theorem projectMean_exact (figure : Figure) (reports : List ModuleReport) :
    projectMean figure reports = exact (projectMean figure reports) := by
  rw [projectMean, projectMean, ← mean_exact, List.map_map]
  exact congrArg mean (List.map_congr_left fun report _ => moduleShare_exact figure report)

end Checked

/-- The fields that hold one figure: of a module, of a function and of a project. -/
inductive Figure.Fields :
    Figure → (ModuleAggregate → UInt32) → (FunctionReport → UInt32) → (ProjectMetrics → Float) → Prop
  | loc : Fields .loc (·.sloc.logical) (·.sloc.logical) ProjectMetrics.loc
  | cyclomatic : Fields .cyclomatic ModuleAggregate.cyclomatic FunctionReport.cyclomatic
      ProjectMetrics.cyclomatic
  | cognitive : Fields .cognitive ModuleAggregate.cognitive FunctionReport.cognitive
      ProjectMetrics.cognitive
  | params : Fields .params ModuleAggregate.params FunctionReport.params ProjectMetrics.params
  | maxNesting : Fields .maxNesting ModuleAggregate.maxNesting FunctionReport.maxNesting
      ProjectMetrics.maxNesting

/-- What a module brings, by the fields that hold the figure. -/
def contribution (ofModule : ModuleAggregate → UInt32) (ofFunction : FunctionReport → UInt32)
    (report : ModuleReport) : ℚ :=
  if report.functions = [] then (ofModule report.aggregate).toNat
  else (report.functions.map fun function => ((ofFunction function).toNat : ℚ)).sum /
    report.functions.length

section Fields
variable {figure : Figure} {ofModule : ModuleAggregate → UInt32}
  {ofFunction : FunctionReport → UInt32} {ofProject : ProjectMetrics → Float}
  (fields : figure.Fields ofModule ofFunction ofProject)
include fields

theorem Figure.Fields.selects :
    figure.ofModule = ofModule ∧ figure.ofFunction = ofFunction ∧
      ∀ reports, ofProject (.ofReports reports) = projectMean figure reports := by
  cases fields <;> exact ⟨rfl, rfl, fun _ => rfl⟩

theorem moduleShare_eq (report : ModuleReport) :
    moduleShare figure report = contribution ofModule ofFunction report := by
  obtain ⟨rfl, rfl, -⟩ := fields.selects
  rw [moduleShare, contribution]
  by_cases bare : report.functions = []
  · rw [if_pos bare, if_pos (List.isEmpty_iff.mpr bare)]
  · rw [if_neg bare, if_neg (mt List.isEmpty_iff.mp bare), mean_eq, List.length_map]

theorem projectMean_eq (reports : List ModuleReport) :
    projectMean figure reports = mean (reports.map (contribution ofModule ofFunction)) :=
  congrArg mean (List.map_congr_left fun report _ => moduleShare_eq fields report)

end Fields

/-- A value is the mean of what single reports bring, and so lies between the least and the greatest
of it. -/
structure MeanOver (share : ModuleReport → ℚ) (reports : List ModuleReport) (value : ℚ) : Prop where
  sum : reports.length * value = (reports.map share).sum
  between : ∃ least ∈ reports, ∃ greatest ∈ reports,
    (∀ report ∈ reports, share least ≤ share report ∧ share report ≤ share greatest) ∧
      share least ≤ value ∧ value ≤ share greatest

theorem meanOver_mean (share : ModuleReport → ℚ) {reports : List ModuleReport}
    (filled : reports ≠ []) : MeanOver share reports (mean (reports.map share)) where
  sum := by
    have sum := length_mul_mean (reports.map share)
    rwa [List.length_map] at sum
  between := by
    have nonempty := (List.toFinset_nonempty_iff reports).mpr filled
    obtain ⟨least, here, lowest⟩ := Finset.exists_min_image reports.toFinset share nonempty
    obtain ⟨greatest, there, highest⟩ := Finset.exists_max_image reports.toFinset share nonempty
    simp only [List.mem_toFinset] at here lowest there highest
    have brought : reports.map share ≠ [] := mt List.map_eq_nil_iff.mp filled
    refine ⟨least, here, greatest, there, fun report member =>
      ⟨lowest report member, highest report member⟩, ?_, ?_⟩
    · exact le_mean brought (List.forall_mem_map.mpr lowest)
    · exact mean_le brought (List.forall_mem_map.mpr highest)

theorem map_eq_of_related {β : Type} {related : ModuleReport → ModuleReport → Prop}
    {view : ModuleReport → β} {reports others : List ModuleReport}
    (pairs : List.Forall₂ related reports others)
    (each : ∀ {report other}, related report other → view other = view report) :
    others.map view = reports.map view := by
  induction pairs with
  | nil => rfl
  | cons here _ ih => rw [List.map_cons, List.map_cons, each here, ih]

/-- The same functions in some order, and the same figures of the module if there are none. -/
structure ModuleReport.SameShare (report other : ModuleReport) : Prop where
  functions : report.functions.Perm other.functions
  aggregate : report.functions = [] → other.aggregate = report.aggregate

theorem ModuleReport.SameShare.contribution_eq {report other : ModuleReport}
    (same : report.SameShare other) (ofModule : ModuleAggregate → UInt32)
    (ofFunction : FunctionReport → UInt32) :
    contribution ofModule ofFunction other = contribution ofModule ofFunction report := by
  rw [contribution, contribution]
  by_cases bare : report.functions = []
  · have bareToo : other.functions = [] := List.nil_perm.mp (bare ▸ same.functions)
    rw [if_pos bare, if_pos bareToo, same.aggregate bare]
  · have filled : other.functions ≠ [] := fun empty =>
      bare (List.perm_nil.mp (empty ▸ same.functions))
    rw [if_neg bare, if_neg filled, same.functions.length_eq,
      (same.functions.map fun function => ((ofFunction function).toNat : ℚ)).sum_eq]

/-- The same functions, and the same figures of the module if there are none; and the same
dependencies, which are counted. -/
structure ModuleReport.SameListed (report other : ModuleReport) : Prop where
  functions : other.functions = report.functions
  dependencies : other.dependencies = report.dependencies
  aggregate : report.functions = [] → other.aggregate = report.aggregate

section Averages
variable {α : Type} [Add α] [Div α] [OfNat α 0] [NatCast α]

theorem moduleShare_listed {report other : ModuleReport} (same : report.SameListed other)
    (figure : Figure) : (moduleShare figure other : α) = moduleShare figure report := by
  rw [moduleShare, moduleShare, same.functions]
  by_cases bare : report.functions.isEmpty = true
  · rw [if_pos bare, if_pos bare, same.aggregate (List.isEmpty_iff.mp bare)]
  · rw [if_neg bare, if_neg bare]

theorem projectMean_listed {reports others : List ModuleReport}
    (same : List.Forall₂ ModuleReport.SameListed reports others) (figure : Figure) :
    (projectMean figure others : α) = projectMean figure reports :=
  congrArg mean (map_eq_of_related same fun here => moduleShare_listed here figure)

end Averages

/-- A count of a project, and what a module adds to it. -/
inductive ProjectMetrics.Counts : (ProjectMetrics → UInt64) → (ModuleReport → Nat) → Prop
  | modules : Counts ProjectMetrics.moduleCount fun _ => 1
  | functions : Counts ProjectMetrics.functionCount fun report => report.functions.length
  | dependencies : Counts ProjectMetrics.dependencyCount fun report => report.dependencies.length

namespace ProjectMetrics

theorem Counts.ofReports_eq {count : ProjectMetrics → UInt64} {each : ModuleReport → Nat}
    (counts : Counts count each) (reports : List ModuleReport) :
    count (.ofReports reports) = (reports.map each).sum.toUInt64 := by
  cases counts with
  | modules => simp [ofReports]
  | functions => simp [ofReports, List.length_flatMap]
  | dependencies => simp [ofReports, List.length_flatMap]

theorem Counts.ofReports_append {count : ProjectMetrics → UInt64} {each : ModuleReport → Nat}
    (counts : Counts count each) (reports others : List ModuleReport) :
    count (.ofReports (reports ++ others)) =
      count (.ofReports reports) + count (.ofReports others) := by
  rw [counts.ofReports_eq, counts.ofReports_eq, counts.ofReports_eq, List.map_append,
    List.sum_append]
  exact UInt64.ofNat_add ..

/-- As long as the counts of both parts together fit into a word, none wraps around. -/
theorem Counts.toNat_append {count : ProjectMetrics → UInt64} {each : ModuleReport → Nat}
    (counts : Counts count each) {reports others : List ModuleReport}
    (fits : ((reports ++ others).map each).sum < 18446744073709551616) :
    (count (.ofReports (reports ++ others))).toNat =
      (count (.ofReports reports)).toNat + (count (.ofReports others)).toNat := by
  have word {size : Nat} (small : size < 18446744073709551616) : size.toUInt64.toNat = size :=
    UInt64.toNat_ofNat_of_lt small
  rw [List.map_append, List.sum_append] at fits
  rw [counts.ofReports_eq, counts.ofReports_eq, counts.ofReports_eq, List.map_append,
    List.sum_append, word fits, word (by omega), word (by omega)]

theorem ofReports_listed {reports others : List ModuleReport}
    (same : List.Forall₂ ModuleReport.SameListed reports others) :
    ofReports others = ofReports reports := by
  have means (figure : Figure) : (projectMean figure others : Float) = projectMean figure reports :=
    projectMean_listed same figure
  have functions := map_eq_of_related same ModuleReport.SameListed.functions
  have dependencies := map_eq_of_related same ModuleReport.SameListed.dependencies
  simp only [ofReports, means, List.flatMap_def, functions, dependencies, same.length_eq]

end ProjectMetrics

/-- What the fields of one figure say together about the reports of a project. -/
structure TwoLevel (figure : Figure) (ofModule : ModuleAggregate → UInt32)
    (ofFunction : FunctionReport → UInt32) (ofProject : ProjectMetrics → Float)
    (reports : List ModuleReport) : Prop where
  reported : ofProject (.ofReports reports) = projectMean figure reports
  defined : projectMean figure reports = Checked.exact (projectMean figure reports)
  mean : reports ≠ [] →
    MeanOver (contribution ofModule ofFunction) reports (projectMean figure reports)
  rearranged : ∀ {permuted others}, reports.Perm permuted →
    List.Forall₂ ModuleReport.SameShare permuted others →
    (projectMean figure others : ℚ) = projectMean figure reports

theorem Figure.Fields.twoLevel {figure : Figure} {ofModule : ModuleAggregate → UInt32}
    {ofFunction : FunctionReport → UInt32} {ofProject : ProjectMetrics → Float}
    (fields : figure.Fields ofModule ofFunction ofProject) (reports : List ModuleReport) :
    TwoLevel figure ofModule ofFunction ofProject reports where
  reported := fields.selects.2.2 reports
  defined := Checked.projectMean_exact figure reports
  mean filled := by
    rw [projectMean_eq fields]
    exact meanOver_mean _ filled
  rearranged {permuted others} order same := by
    -- Changes inside of reports leave the list of shares as it is, only the order of reports moves it.
    have shares : others.map (contribution ofModule ofFunction) =
        permuted.map (contribution ofModule ofFunction) :=
      map_eq_of_related same fun here => here.contribution_eq ofModule ofFunction
    rw [projectMean_eq fields, projectMean_eq fields, shares]
    exact (mean_perm (order.map _)).symm

/-- Each figure of a project is, in exact numbers, the mean of what its modules bring; it keeps
between the least and the greatest of it, and neither an order nor the own figures of a module with
functions count. No mean divides by zero, and the counts of two parts add up. -/
theorem project_figures_two_level (reports : List ModuleReport) :
    (∀ {figure ofModule ofFunction ofProject}, Figure.Fields figure ofModule ofFunction ofProject →
      TwoLevel figure ofModule ofFunction ofProject reports) ∧
    (∀ {others}, List.Forall₂ ModuleReport.SameListed reports others →
      ProjectMetrics.ofReports others = .ofReports reports) ∧
    ∀ {count each}, ProjectMetrics.Counts count each → ∀ others,
      count (.ofReports (reports ++ others)) =
        count (.ofReports reports) + count (.ofReports others) ∧
      (((reports ++ others).map each).sum < 18446744073709551616 →
        (count (.ofReports (reports ++ others))).toNat =
          (count (.ofReports reports)).toNat + (count (.ofReports others)).toNat) := by
  refine ⟨fun fields => fields.twoLevel reports, ProjectMetrics.ofReports_listed, ?_⟩
  intro count each counts others
  exact ⟨counts.ofReports_append reports others, counts.toNat_append⟩

def firstFunction : FunctionReport := ⟨"first", 1, 1, ⟨2, 2⟩, 1, 0, 1⟩

def secondFunction : FunctionReport := ⟨"second", 3, 3, ⟨6, 6⟩, 4, 2, 1⟩

/-- A module without functions. -/
def flatModule : ModuleReport := { aggregate := ⟨⟨4, 4⟩, 2, 50.0, 1, 1, 0⟩ }

def mixedSample : List ModuleReport := [
  { aggregate := ⟨⟨20, 20⟩, 9, 45.0, 8, 1, 5⟩, functions := [firstFunction, secondFunction] },
  flatModule]

theorem project_figures_two_level_mixedSample :
    Figure.Fields .cyclomatic (·.cyclomatic) (·.cyclomatic) (·.cyclomatic) ∧ mixedSample ≠ [] ∧
      projectMean .cyclomatic mixedSample = (9 / 4 : ℚ) ∧
      projectMean .cyclomatic [flatModule, { functions := [secondFunction, firstFunction] }] =
        (9 / 4 : ℚ) ∧
      ProjectMetrics.ofReports [{ functions := [firstFunction, secondFunction] }, flatModule] =
        .ofReports mixedSample ∧
      (ProjectMetrics.ofReports (mixedSample ++ mixedSample)).functionCount.toNat = 2 + 2 := by
  obtain ⟨figures, listed, counts⟩ := project_figures_two_level mixedSample
  have level := figures .cyclomatic
  have mean : projectMean .cyclomatic mixedSample = (9 / 4 : ℚ) := by
    have brought : (mixedSample.map (contribution (·.cyclomatic) (·.cyclomatic))).sum = 9 / 2 := by
      decide +kernel
    have sum := (level.mean nofun).sum
    rw [brought, show mixedSample.length = 2 from rfl, Nat.cast_ofNat] at sum
    linarith
  have order : mixedSample.Perm (mixedSample.reverse) := (List.reverse_perm _).symm
  refine ⟨.cyclomatic, nofun, mean, ?_, ?_, ?_⟩
  · rw [← mean]
    exact level.rearranged order (.cons ⟨.refl _, fun _ => rfl⟩ (.cons ⟨.swap .., nofun⟩ .nil))
  · exact listed (.cons ⟨rfl, rfl, nofun⟩ (.cons ⟨rfl, rfl, fun _ => rfl⟩ .nil))
  · exact (counts .functions mixedSample).2 (by decide)

end CodeMetrics
