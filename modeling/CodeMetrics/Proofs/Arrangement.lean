import CodeMetrics.Proofs.Reading
import Mathlib.Data.List.Forall2

/-!
Documents arranged anew. The members of a record may stand in any order, and there may be others
besides for which the record has no field: a schema whose fields read alike values alike reads such
records alike.
-/

namespace CodeMetrics

/-! Two ends that are alike. -/

/-- Both succeed, with values that are related, or both fail. -/
inductive EndAlike {ε α β : Type} (same : α → β → Prop) : Except ε α → Except ε β → Prop where
  | ok {value : α} {other : β} (here : same value other) : EndAlike same (.ok value) (.ok other)
  | error {first second : ε} : EndAlike same (.error first) (.error second)

inductive Reading.Alike {α β : Type} (same : α → β → Prop) : Reading α → Reading β → Prop where
  | complete {value : α} {other : β} (here : same value other) :
      Alike same (.complete value) (.complete other)
  | faulty {first second : Fault} {others more : List Fault} :
      Alike same (.faulty first others) (.faulty second more)

theorem EndAlike.refl {ε α : Type} {same : α → α → Prop} (reflexive : ∀ value, same value value)
    (ended : Except ε α) : EndAlike same ended ended := by
  cases ended with
  | ok value => exact .ok (reflexive value)
  | error wrong => exact .error

theorem EndAlike.map {ε α β γ δ : Type} {same : α → β → Prop} {alike : γ → δ → Prop}
    {first : Except ε α} {second : Except ε β} {view : α → γ} {other : β → δ}
    (ended : EndAlike same first second)
    (views : ∀ value found, same value found → alike (view value) (other found)) :
    EndAlike alike (first.map view) (second.map other) := by
  cases ended with
  | ok here => exact .ok (views _ _ here)
  | error => exact .error

theorem EndAlike.bind {ε α β γ δ : Type} {same : α → β → Prop} {alike : γ → δ → Prop}
    {first : Except ε α} {second : Except ε β} {next : α → Except ε γ} {other : β → Except ε δ}
    (ended : EndAlike same first second)
    (later : ∀ value found, same value found → EndAlike alike (next value) (other found)) :
    EndAlike alike (first >>= next) (second >>= other) := by
  cases ended with
  | ok here => exact later _ _ here
  | error => exact .error

/-! Documents that are alike. -/

/-- How the values of fields are to be alike, by the name of the field. -/
abbrev Likeness := String → Json → Json → Prop

/-- The members of an object stand in another order and have values that are alike, and among them
are others whose keys are none of some names. -/
structure Regrouped (names : List String) (like : Likeness) (members others : List (String × Json)) :
    Prop where
  distinct : (others.map Prod.fst).Nodup
  listed : ∃ changed added,
    List.Forall₂ (fun member other => other.1 = member.1 ∧ like member.1 member.2 other.2)
      members changed ∧
    others.Perm (changed ++ added) ∧ ∀ entry ∈ added, entry.1 ∉ names

/-- The values of fields in their order, and whatever follows them. -/
inductive InPlace (like : Likeness) : List String → List Json → List Json → Prop where
  | nil {names : List String} : InPlace like names [] []
  | field {name : String} {names : List String} {item other : Json} {items others : List Json}
      (here : like name item other) (later : InPlace like names items others) :
      InPlace like (name :: names) (item :: items) (other :: others)
  | beyond {items : List Json} : InPlace like [] items items

/-- A record is arranged anew. -/
inductive Rearranged (names : List String) (like : Likeness) : Json → Json → Prop where
  | members {members others : List (String × Json)} (regrouped : Regrouped names like members others) :
      Rearranged names like (.object members) (.object others)
  | items {items others : List Json} (placed : InPlace like names items others) :
      Rearranged names like (.array items) (.array others)
  | same (value : Json) : Rearranged names like value value

/-- The items of a list are replaced by others that are alike. -/
inductive EachAlike (like : Json → Json → Prop) : Json → Json → Prop where
  | items {items others : List Json} (each : List.Forall₂ like items others) :
      EachAlike like (.array items) (.array others)
  | same (value : Json) : EachAlike like value value

/-- The members of an object stand in another order. -/
inductive Reordered : Json → Json → Prop where
  | members {members others : List (String × Json)} (distinct : (members.map Prod.fst).Nodup)
      (moved : others.Perm members) : Reordered (.object members) (.object others)
  | same (value : Json) : Reordered value value

theorem Rearranged.null_iff {names : List String} {like : Likeness} {value other : Json}
    (rearranged : Rearranged names like value other) : value = .null ↔ other = .null := by
  cases rearranged <;> simp

theorem Reordered.null_iff {value other : Json} (reordered : Reordered value other) :
    value = .null ↔ other = .null := by
  cases reordered <;> simp

/-! Look-up by a key does not depend on the order. -/

theorem findEntry_of_mem {α : Type} {key : String} {value : α} {entries : List (String × α)}
    (distinct : (entries.map Prod.fst).Nodup) (member : (key, value) ∈ entries) :
    findEntry key entries = some value := by
  induction entries with
  | nil => cases member
  | cons entry rest ih =>
      obtain ⟨new, later⟩ := List.nodup_cons.mp distinct
      rcases List.mem_cons.mp member with rfl | below
      · rw [findEntry, if_pos rfl]
      · have other : entry.1 ≠ key := by
          rintro same
          exact new (same ▸ List.mem_map_of_mem below)
        rw [findEntry, if_neg other, ih later below]

theorem findEntry_perm {α : Type} {entries others : List (String × α)} (moved : others.Perm entries)
    (distinct : (entries.map Prod.fst).Nodup) (key : String) :
    findEntry key others = findEntry key entries := by
  cases found : findEntry key entries with
  | some value =>
      obtain ⟨front, back, rfl⟩ := findEntry_eq_some found
      refine findEntry_of_mem ((moved.map Prod.fst).nodup_iff.mpr distinct) ?_
      exact moved.mem_iff.mpr (List.mem_append_right _ List.mem_cons_self)
  | none =>
      rw [findEntry_eq_none_iff] at found ⊢
      exact fun member => found ((moved.map Prod.fst).mem_iff.mp member)

theorem findEntry_forall₂ {like : Likeness} {members changed : List (String × Json)}
    (each : List.Forall₂ (fun member other => other.1 = member.1 ∧ like member.1 member.2 other.2)
      members changed) (name : String) :
    Option.Rel (like name) (findEntry name members) (findEntry name changed) := by
  induction each with
  | nil => exact .none
  | @cons member other _ _ here _ ih =>
      rw [findEntry, findEntry, here.1]
      split
      · rename_i same
        exact .some (same ▸ here.2)
      · exact ih

theorem Regrouped.findEntry_rel {names : List String} {like : Likeness}
    {members others : List (String × Json)} (regrouped : Regrouped names like members others)
    {name : String} (known : name ∈ names) :
    Option.Rel (like name) (findEntry name members) (findEntry name others) := by
  obtain ⟨distinct, changed, added, each, moved, unknown⟩ := regrouped
  have apart := (moved.map Prod.fst).nodup_iff.mp distinct
  have absent : findEntry name added = none := by
    rw [findEntry_eq_none_iff]
    rintro member
    obtain ⟨entry, inside, same⟩ := List.mem_map.mp member
    exact unknown entry inside (same ▸ known)
  rw [findEntry_perm moved apart, findEntry_append, absent, Option.or_none]
  exact findEntry_forall₂ each name

/-! Schemas that read alike records alike. -/
namespace Schema
variable {α β : Type}

structure Tolerates (schema : Schema Json α) (like : Likeness) (same : α → α → Prop) : Prop where
  members : ∀ find other : String → Option Json,
    (∀ name ∈ schema.names, Option.Rel (like name) (find name) (other name)) →
      (schema.ofMembers find).Alike same (schema.ofMembers other)
  items : ∀ more expected index items others, InPlace like (schema.names ++ more) items others →
    EndAlike (fun read found => same read.1 found.1 ∧ InPlace like more read.2 found.2)
      (schema.ofItems expected index items) (schema.ofItems expected index others)

variable {like : Likeness} {P : β → β → Prop} {Q : α → α → Prop} {front : Schema Json (α → β)}
  {name : String} {decode : Json → Decoded α}

theorem Tolerates.build {value : α} (here : Q value value) :
    (Schema.build value).Tolerates like Q where
  members _ _ _ := .complete here
  items _ _ _ _ _ placed := .ok ⟨here, placed⟩

theorem Tolerates.and {back : Schema Json α}
    (first : front.Tolerates like fun make other =>
      ∀ value found, Q value found → P (make value) (other found))
    (second : back.Tolerates like Q) : (front.and back).Tolerates like P where
  members find other related := by
    have before := first.members find other fun name known =>
      related name (List.mem_append_left _ known)
    have after := second.members find other fun name known =>
      related name (List.mem_append_right _ known)
    simp only [Schema.and]
    generalize front.ofMembers find = makes at before ⊢
    generalize front.ofMembers other = others at before ⊢
    generalize back.ofMembers find = values at after ⊢
    generalize back.ofMembers other = founds at after ⊢
    cases before with
    | complete make =>
        cases after with
        | complete here => exact .complete (make _ _ here)
        | faulty => exact .faulty
    | faulty => cases after <;> exact .faulty
  items more expected index items others placed := by
    simp only [Schema.and, List.append_assoc] at placed ⊢
    apply (first.items _ expected index items others placed).bind
    rintro read found ⟨makes, rest⟩
    apply (second.items more expected _ read.2 found.2 rest).bind
    rintro value other ⟨here, left⟩
    exact .ok ⟨makes _ _ here, left⟩

theorem Tolerates.fieldOr {absent : Option α} (standing : ∀ value ∈ absent, Q value value)
    (decoded : ∀ item other, like name item other → EndAlike Q (decode item) (decode other)) :
    (Schema.fieldOr absent name decode).Tolerates like Q where
  members find other related := by
    have here := related name List.mem_cons_self
    simp only [Schema.fieldOr]
    generalize find name = item at here ⊢
    generalize other name = found at here ⊢
    cases here with
    | none =>
        cases absent with
        | none => exact .faulty
        | some value => exact .complete (standing value rfl)
    | some alike =>
        have ended := decoded _ _ alike
        dsimp only
        generalize decode _ = first at ended ⊢
        generalize decode _ = second at ended ⊢
        cases ended with
        | ok same => exact .complete same
        | error => exact .faulty
  items more expected index items others placed := by
    cases placed with
    | nil =>
        cases absent with
        | none => exact .error
        | some value => exact .ok ⟨standing value rfl, .nil⟩
    | field here later =>
        exact (decoded _ _ here).map fun _ _ same => ⟨same, later⟩

theorem Tolerates.imp {schema : Schema Json β} {R : β → β → Prop} (first : schema.Tolerates like P)
    (implies : ∀ value found, P value found → R value found) : schema.Tolerates like R where
  members find other related := by
    have ended := first.members find other related
    generalize schema.ofMembers find = reading at ended ⊢
    generalize schema.ofMembers other = found at ended ⊢
    cases ended with
    | complete here => exact .complete (implies _ _ here)
    | faulty => exact .faulty
  items more expected index items others placed := by
    have ended := first.items more expected index items others placed
    generalize schema.ofItems expected index items = read at ended ⊢
    generalize schema.ofItems expected index others = found at ended ⊢
    cases ended with
    | ok here => exact .ok ⟨implies _ _ here.1, here.2⟩
    | error => exact .error

/-- A field whose values are not arranged anew. -/
theorem Tolerates.plain {absent : Option α} (equal : like name = Eq)
    (first : front.Tolerates like fun make other => ∀ value, P (make value) (other value)) :
    (front.and (.fieldOr absent name decode)).Tolerates like P := by
  have any : front.Tolerates like fun make other =>
      ∀ value found, value = found → P (make value) (other found) := by
    refine first.imp fun make other here value found same => ?_
    exact same ▸ here value
  refine any.and (.fieldOr (fun _ _ => rfl) ?_)
  rw [equal]
  rintro item _ rfl
  exact .refl (fun _ => rfl) _

variable {schema : Schema Json α}

theorem Tolerates.decodeMembers (tolerates : schema.Tolerates like Q)
    {members others : List (String × Json)}
    (regrouped : Regrouped schema.names like members others) :
    EndAlike Q (schema.decodeMembers members) (schema.decodeMembers others) := by
  have ended := tolerates.members (fun name => findEntry name members)
    (fun name => findEntry name others) fun name known => regrouped.findEntry_rel known
  rw [Schema.decodeMembers, Schema.decodeMembers]
  generalize schema.ofMembers _ = first at ended ⊢
  generalize schema.ofMembers _ = second at ended ⊢
  cases ended with
  | complete here => exact .ok here
  | faulty => exact .error

theorem Tolerates.decodeItems (tolerates : schema.Tolerates like Q) {typeName : String}
    {items others : List Json} (placed : InPlace like schema.names items others) :
    EndAlike Q (schema.decodeItems typeName items) (schema.decodeItems typeName others) := by
  have padded : InPlace like (schema.names ++ []) items others := by rwa [List.append_nil]
  apply (tolerates.items [] _ 0 items others padded).bind
  rintro read found ⟨here, left⟩
  have same : found.2 = read.2 := by
    generalize read.2 = leftover at left ⊢
    generalize found.2 = others at left ⊢
    cases left <;> rfl
  rw [same]
  split
  · exact .ok here
  · exact .error

end Schema

/-! The parts of documents. -/
namespace Json
variable {α : Type} {like : Likeness} {same : α → α → Prop} {schema : Schema Json α}
  {decode : Json → Decoded α} {value other : Json}

theorem toRecord_alike (tolerates : schema.Tolerates like same)
    (reflexive : ∀ value, same value value) {typeName : String}
    (rearranged : Rearranged schema.names like value other) :
    EndAlike same (toRecord typeName schema value) (toRecord typeName schema other) := by
  cases rearranged with
  | members regrouped => exact tolerates.decodeMembers regrouped
  | items placed => exact tolerates.decodeItems placed
  | same value => exact .refl reflexive _

theorem toOption_alike (nulls : value = .null ↔ other = .null)
    (ended : EndAlike same (decode value) (decode other)) :
    EndAlike (Option.Rel same) (toOption decode value) (toOption decode other) := by
  by_cases absent : value = .null
  · rw [absent, nulls.mp absent]
    exact .ok .none
  · have present : other ≠ .null := fun found => absent (nulls.mpr found)
    rw [toOption_of_ne_null absent, toOption_of_ne_null present]
    exact ended.map fun _ _ => .some

theorem toList_alike {likeItems : Json → Json → Prop}
    (decoded : ∀ item other, likeItems item other → EndAlike Eq (decode item) (decode other))
    (alike : EachAlike likeItems value other) :
    EndAlike Eq (toList decode value) (toList decode other) := by
  cases alike with
  | same value => exact .refl (fun _ => rfl) _
  | items each =>
      rw [toList, toList]
      induction each with
      | nil => exact .ok rfl
      | cons here _ ih =>
          apply (decoded _ _ here).bind
          rintro first _ rfl
          apply ih.bind
          rintro more _ rfl
          exact .ok rfl

end Json

end CodeMetrics
