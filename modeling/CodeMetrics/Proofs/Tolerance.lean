import CodeMetrics.Proofs.Arrangement
import CodeMetrics.Proofs.RoundTrip

/-!
Documents that say the same of a result. Wherever in a document the members of a record stand in
another order or among others for which there is no field, it is read as the same result, or refused
as before.
-/

namespace CodeMetrics

/-! Records that are arranged anew, from the innermost to the outermost. -/

def Sloc.Alike : Json → Json → Prop := Rearranged schema.names fun _ => Eq

theorem Sloc.ofJson_alike {value other : Json} (alike : Alike value other) :
    EndAlike Eq (ofJson value) (ofJson other) := by
  refine Json.toRecord_alike ?_ (fun _ => rfl) alike
  refine .plain rfl (.plain rfl ?_)
  exact .build fun _ _ => rfl

def ModuleAggregate.likeness : Likeness
  | "sloc" => Sloc.Alike
  | _ => Eq

def ModuleAggregate.Alike : Json → Json → Prop := Rearranged schema.names likeness

theorem ModuleAggregate.ofJson_alike {value other : Json} (alike : Alike value other) :
    EndAlike Eq (ofJson value) (ofJson other) := by
  refine Json.toRecord_alike ?_ (fun _ => rfl) alike
  refine .plain rfl (.plain rfl (.plain rfl (.plain rfl (.plain rfl ?_))))
  refine .and (.build ?_) (.fieldOr nofun fun _ _ => Sloc.ofJson_alike)
  rintro sloc _ rfl _ _ _ _ _
  rfl

def FunctionReport.likeness : Likeness
  | "sloc" => Sloc.Alike
  | _ => Eq

def FunctionReport.Alike : Json → Json → Prop := Rearranged schema.names likeness

theorem FunctionReport.ofJson_alike {value other : Json} (alike : Alike value other) :
    EndAlike Eq (ofJson value) (ofJson other) := by
  refine Json.toRecord_alike ?_ (fun _ => rfl) alike
  refine .plain rfl (.plain rfl (.plain rfl ?_))
  refine .and (.plain rfl (.plain rfl (.plain rfl ?_))) (.fieldOr nofun fun _ _ => Sloc.ofJson_alike)
  refine .build ?_
  rintro _ _ _ sloc _ rfl _ _ _
  rfl

def Dependency.Alike : Json → Json → Prop := Rearranged schema.names fun _ => Eq

theorem Dependency.ofJson_alike {value other : Json} (alike : Alike value other) :
    EndAlike Eq (ofJson value) (ofJson other) := by
  refine Json.toRecord_alike ?_ (fun _ => rfl) alike
  refine .plain rfl (.plain rfl (.plain rfl ?_))
  exact .build fun _ _ _ => rfl

def ModuleReport.likeness : Likeness
  | "aggregate" => ModuleAggregate.Alike
  | "functions" => EachAlike FunctionReport.Alike
  | "dependencies" => EachAlike Dependency.Alike
  | _ => Eq

def ModuleReport.Alike : Json → Json → Prop := Rearranged schema.names likeness

theorem ModuleReport.ofJson_alike {value other : Json} (alike : Alike value other) :
    EndAlike Eq (ofJson value) (ofJson other) := by
  refine Json.toRecord_alike ?_ (fun _ => rfl) alike
  refine .and ?_ (.fieldOr (fun _ _ => rfl)
    fun _ _ => Json.toList_alike fun _ _ => Dependency.ofJson_alike)
  refine .and ?_ (.fieldOr (fun _ _ => rfl)
    fun _ _ => Json.toList_alike fun _ _ => FunctionReport.ofJson_alike)
  refine .and ?_ (.fieldOr nofun fun _ _ => ModuleAggregate.ofJson_alike)
  refine .plain rfl (.plain rfl (.plain rfl ?_))
  refine .build ?_
  rintro _ _ _ aggregate _ rfl functions _ rfl dependencies _ rfl
  rfl

def ProjectMetrics.Alike : Json → Json → Prop := Rearranged schema.names fun _ => Eq

theorem ProjectMetrics.ofJson_alike {value other : Json} (alike : Alike value other) :
    EndAlike Eq (ofJson value) (ofJson other) := by
  refine Json.toRecord_alike ?_ (fun _ => rfl) alike
  refine .plain rfl (.plain rfl (.plain rfl (.plain rfl ?_)))
  refine .plain rfl (.plain rfl (.plain rfl (.plain rfl ?_)))
  exact .build fun _ _ _ _ _ _ _ _ => rfl

/-- The same flag, and the same value under every key. -/
structure Settings.Same (settings other : Settings) : Prop where
  skipCalculation : other.skipCalculation = settings.skipCalculation
  extra (key : String) : other.extra.find? key = settings.extra.find? key

theorem Settings.Same.refl (settings : Settings) : settings.Same settings := ⟨rfl, fun _ => rfl⟩

theorem Settings.ofJson_reordered {value other : Json} (reordered : Reordered value other) :
    EndAlike Same (ofJson value) (ofJson other) := by
  cases reordered with
  | same value => exact .refl Same.refl _
  | @members members others distinct moved =>
      have apart := (moved.map Prod.fst).nodup_iff.mpr distinct
      have extra (key : String) : ((Entries.ofList others).erase skipKey).find? key =
          ((Entries.ofList members).erase skipKey).find? key := by
        rw [Entries.find?_erase, Entries.find?_erase, Entries.find?_ofList apart,
          Entries.find?_ofList distinct, findEntry_perm moved distinct]
      rw [ofJson, ofJson, findEntry_perm moved distinct]
      cases findEntry skipKey members with
      | none => exact .ok ⟨rfl, extra⟩
      | some flag =>
          apply (EndAlike.refl (fun _ => rfl) flag.toBool).bind
          rintro skip _ rfl
          exact .ok ⟨rfl, extra⟩

theorem ProjectResult.extensionsOfJson_reordered {value other : Json}
    (reordered : Reordered value other) :
    EndAlike Eq (extensionsOfJson value) (extensionsOfJson other) := by
  cases reordered with
  | same value => exact .refl (fun _ => rfl) _
  | members distinct moved =>
      exact .ok (SortedEntries.ofList_perm moved distinct).symm

namespace ProjectResult

/-- The entries of the settings and the extensions may stand in another order too. -/
def likeness : Likeness
  | "reports" => EachAlike ModuleReport.Alike
  | "settings" => Reordered
  | "metrics" => ProjectMetrics.Alike
  | "extensions" => Reordered
  | _ => Eq

/-- A document of a result in which records are arranged anew, at any place. -/
def Alike : Json → Json → Prop := Rearranged schema.names likeness

/-- The same result, where the entries of the settings may be in another order. -/
structure Same (result other : ProjectResult) : Prop where
  reports : other.reports = result.reports
  settings : Option.Rel Settings.Same result.settings other.settings
  metrics : other.metrics = result.metrics
  extensions : other.extensions = result.extensions

theorem Same.refl (result : ProjectResult) : result.Same result := by
  refine ⟨rfl, ?_, rfl, rfl⟩
  cases result.settings with
  | none => exact .none
  | some settings => exact .some (Settings.Same.refl settings)

theorem optionRel_eq {α : Type} {first second : Option α} (same : Option.Rel Eq first second) :
    second = first := by
  cases same with
  | none => rfl
  | some here => rw [here]

theorem schema_tolerates : schema.Tolerates likeness Same := by
  refine .and ?_ (.fieldOr (fun _ _ => rfl) fun _ _ => extensionsOfJson_reordered)
  refine .and (Q := Option.Rel Eq) ?_ (.fieldOr (by rintro _ ⟨⟩; exact .none) fun _ _ alike =>
    Json.toOption_alike alike.null_iff (ProjectMetrics.ofJson_alike alike))
  refine .and (Q := Option.Rel Settings.Same) ?_ (.fieldOr (by rintro _ ⟨⟩; exact .none)
    fun _ _ reordered => Json.toOption_alike reordered.null_iff (Settings.ofJson_reordered reordered))
  refine .and ?_ (.fieldOr nofun fun _ _ => Json.toList_alike fun _ _ => ModuleReport.ofJson_alike)
  refine .build ?_
  rintro reports _ rfl settings found alike metrics others equal extensions _ rfl
  exact ⟨rfl, alike, optionRel_eq equal, rfl⟩

/-- A document of a result in which the members of records stand in another order, with any others
besides for which there is no field, is read as the same result, or refused as before; and whatever
is refused is a bad argument. -/
theorem reading_rearranged {value other : Json} (alike : Alike value other) :
    EndAlike Same (ofJson value) (ofJson other) ∧
    ∀ failure, ofJson value = .error failure ∨ ofJson other = .error failure →
      failure.isInvalidArgument = true := by
  have refused (value : Json) (failure : Failure) (wrong : ofJson value = .error failure) :
      failure.isInvalidArgument = true := by
    unfold ofJson at wrong
    split at wrong
    · split at wrong
      · cases wrong
      · cases wrong
        rfl
    · cases wrong
      rfl
  refine ⟨?_, ?_⟩
  · cases alike with
    | members regrouped =>
        have ended := schema_tolerates.decodeMembers regrouped
        rw [ofJson, ofJson]
        generalize schema.decodeMembers _ = first at ended ⊢
        generalize schema.decodeMembers _ = second at ended ⊢
        cases ended with
        | ok here => exact .ok here
        | error => exact .error
    | items placed => exact .error
    | same value => exact .refl Same.refl _
  · rintro failure (wrong | wrong)
    · exact refused value failure wrong
    · exact refused other failure wrong

/-- An object with its members backwards, and before them others. -/
def backwards (members added : List (String × Json)) : Json := .object (members ++ added).reverse

theorem rearranged_backwards {names : List String} {like : Likeness}
    {members changed added : List (String × Json)}
    (each : List.Forall₂ (fun member other => other.1 = member.1 ∧ like member.1 member.2 other.2)
      members changed)
    (distinct : ((changed ++ added).reverse.map Prod.fst).Nodup)
    (unknown : ∀ entry ∈ added, entry.1 ∉ names) :
    Rearranged names like (.object members) (backwards changed added) :=
  .members ⟨distinct, changed, added, each, List.reverse_perm _, unknown⟩

/-- One report, without functions, and settings with two entries. -/
def plainSample : ProjectResult where
  reports := [{ srcPath := "a.js", aggregate := { sloc := ⟨2, 1⟩, cyclomatic := 3 } }]
  settings := some { extra := (Entries.empty.insert "b" .null).insert "a" (.bool true) }

def backwardsSloc : Json :=
  backwards [("physical", .ofWord32 2), ("logical", .ofWord32 1)] [("unit", .null)]

def backwardsAggregate : Json :=
  backwards [("sloc", backwardsSloc), ("cyclomatic", .ofWord32 3), ("cyclomaticDensity", .ofFloat 0.0),
    ("cognitive", .ofWord32 0), ("maxNesting", .ofWord32 0), ("params", .ofWord32 0)]
    [("note", .string "")]

def backwardsReport : Json :=
  backwards [("srcPath", .string "a.js"), ("aggregate", backwardsAggregate), ("functions", .array []),
    ("dependencies", .array [])] [("origin", .null), ("kind", .string "module")]

/-- The document of the sample with all members backwards and with others that have no field. -/
def backwardsSample : Json :=
  backwards [("reports", .array [backwardsReport]), ("settings", .object
    [("a", .bool true), ("b", .null), ("skipCalculation", .bool false)])] [("version", .string "2")]

theorem alike_backwardsSample : Alike plainSample.toJson backwardsSample := by
  have sloc : Sloc.Alike (Sloc.toJson ⟨2, 1⟩) backwardsSloc :=
    rearranged_backwards (.cons ⟨rfl, rfl⟩ (.cons ⟨rfl, rfl⟩ .nil)) (by decide) (by decide)
  have aggregate : ModuleAggregate.Alike
      (ModuleAggregate.toJson { sloc := ⟨2, 1⟩, cyclomatic := 3 }) backwardsAggregate := by
    refine rearranged_backwards (.cons ⟨rfl, sloc⟩ ?_) (by decide) (by decide)
    refine .cons ⟨rfl, rfl⟩ (.cons ⟨rfl, rfl⟩ (.cons ⟨rfl, rfl⟩ ?_))
    exact .cons ⟨rfl, rfl⟩ (.cons ⟨rfl, rfl⟩ .nil)
  have report : ModuleReport.Alike (ModuleReport.toJson
      { srcPath := "a.js", aggregate := { sloc := ⟨2, 1⟩, cyclomatic := 3 } }) backwardsReport := by
    refine rearranged_backwards (.cons ⟨rfl, rfl⟩ (.cons ⟨rfl, aggregate⟩ ?_)) (by decide) (by decide)
    exact .cons ⟨rfl, .same _⟩ (.cons ⟨rfl, .same _⟩ .nil)
  refine rearranged_backwards (.cons ⟨rfl, .items (.cons report .nil)⟩ (.cons ⟨rfl, ?_⟩ .nil))
    (by decide) (by decide)
  exact .members (by decide) (List.reverse_perm [_, _, _])

theorem reading_rearranged_backwardsSample :
    Alike plainSample.toJson backwardsSample ∧
    ∃ result, ofJson backwardsSample = .ok result ∧ plainSample.Same result := by
  have storable : plainSample.Storable := by
    refine ⟨?_, ?_, nofun⟩
    · exact List.forall_mem_singleton.mpr (by decide +kernel)
    · rintro settings ⟨⟩
      decide +kernel
  refine ⟨alike_backwardsSample, ?_⟩
  have ended := (reading_rearranged alike_backwardsSample).1
  rw [ofJson_toJson storable] at ended
  generalize ofJson backwardsSample = read at ended ⊢
  cases ended with
  | ok here => exact ⟨_, rfl, here⟩

end ProjectResult
end CodeMetrics
