import CodeMetrics.Entries.Sorted
import CodeMetrics.Json.Decode

/-!
Reading records back. A schema reads a record field by field, so what it reads from the members
that a record was written as follows field by field, and so does what holds of every record that it
ever reads.
-/

namespace CodeMetrics

theorem findEntry_append {α : Type} (key : String) (first second : List (String × α)) :
    findEntry key (first ++ second) = (findEntry key first).or (findEntry key second) := by
  induction first with
  | nil => rfl
  | cons entry rest ih =>
      rw [List.cons_append, findEntry, findEntry]
      by_cases same : entry.1 = key
      · rw [if_pos same, if_pos same, Option.some_or]
      · rw [if_neg same, if_neg same, ih]

section Endings
variable {ε δ α β : Type} {result : β}

theorem except_bind_eq_ok {first : Except ε α} {next : α → Except ε β}
    (read : first >>= next = .ok result) :
    ∃ value, first = .ok value ∧ next value = .ok result := by
  cases first with
  | ok value => exact ⟨value, rfl, read⟩
  | error wrong => cases read

theorem except_map_eq_ok {first : Except ε α} {view : α → β} (read : first.map view = .ok result) :
    ∃ value, first = .ok value ∧ view value = result := by
  cases first with
  | ok value => exact ⟨value, rfl, Except.ok.inj read⟩
  | error wrong => cases read

theorem except_mapError_eq_ok {first : Except ε β} {view : ε → δ}
    (read : first.mapError view = .ok result) : first = .ok result := by
  cases first with
  | ok value => exact congrArg Except.ok (Except.ok.inj read)
  | error wrong => cases read

end Endings

theorem Reading.both_eq_complete {α β : Type} {first : Reading (α → β)} {second : Reading α}
    {result : β} (read : first.both second = .complete result) :
    ∃ make value, first = .complete make ∧ second = .complete value ∧ make value = result := by
  cases first with
  | complete make =>
      cases second with
      | complete value => exact ⟨make, value, rfl, rfl, Reading.complete.inj read⟩
      | faulty fault others => cases read
  | faulty fault others => cases second <;> cases read

namespace Schema
variable {ν α β : Type}

/-- The members give the record. -/
def Reads (schema : Schema ν α) (find : String → Option ν) (value : α) : Prop :=
  schema.ofMembers find = .complete value

theorem Reads.build (find : String → Option ν) (value : α) : (build value).Reads find value := rfl

section Members
variable {front : Schema ν (α → β)} {find : String → Option ν} {make : α → β} {name : String}
  {decode : ν → Decoded α} {item : ν} {value omitted : α}

theorem Reads.fieldOr {default : Option α} (read : front.Reads find make)
    (found : find name = some item) (decoded : decode item = .ok value) :
    (front.and (.fieldOr default name decode)).Reads find (make value) := by
  have before : front.ofMembers find = .complete make := read
  simp only [Reads, Schema.and, Schema.fieldOr, before, found, decoded, Reading.both]

theorem Reads.field (read : front.Reads find make) (found : find name = some item)
    (decoded : decode item = .ok value) :
    (front.and (.field name decode)).Reads find (make value) :=
  read.fieldOr found decoded

theorem Reads.optional (read : front.Reads find make) (found : find name = some item)
    (decoded : decode item = .ok value) :
    (front.and (.optional omitted name decode)).Reads find (make value) :=
  read.fieldOr found decoded

theorem Reads.missing (read : front.Reads find make) (left : find name = none) :
    (front.and (.optional omitted name decode)).Reads find (make omitted) := by
  have before : front.ofMembers find = .complete make := read
  simp only [Reads, Schema.and, Schema.optional, Schema.fieldOr, before, left, Reading.both]

/-- What an optional field gives is read from its member, if there is one. -/
theorem Reads.of_optional {result : β}
    (read : (front.and (.optional omitted name decode)).Reads find result) :
    ∃ make value, front.Reads find make ∧
      ((find name).map decode).getD (.ok omitted) = .ok value ∧ make value = result := by
  obtain ⟨make, value, before, here, same⟩ := Reading.both_eq_complete read
  refine ⟨make, value, before, ?_, same⟩
  simp only [Schema.optional, Schema.fieldOr] at here
  split at here
  · rename_i found
    rw [found]
    split at here <;> cases here
    assumption
  · rename_i left standing
    cases standing
    cases here
    rw [left]
    rfl
  · rename_i standing
    cases standing

theorem Reads.decodeMembers {schema : Schema ν α} {members : List (String × ν)}
    (read : schema.Reads (fun name => findEntry name members) value) :
    schema.decodeMembers members = .ok value := by
  have complete : schema.ofMembers (fun name => findEntry name members) = .complete value := read
  rw [Schema.decodeMembers, complete]

end Members

/-- The members give no record, because exactly one of them is wrong. -/
def Refuses (schema : Schema ν α) (find : String → Option ν) (error : DecodeError) : Prop :=
  ∃ name, schema.ofMembers find = .faulty (.wrong name error) []

section Wrong
variable {front : Schema ν (α → β)} {find : String → Option ν} {make : α → β} {name : String}
  {decode : ν → Decoded α} {item : ν} {value : α} {error : DecodeError}

theorem Refuses.fieldOr {default : Option α} (read : front.Reads find make)
    (found : find name = some item) (wrong : decode item = .error error) :
    (front.and (.fieldOr default name decode)).Refuses find error := by
  have before : front.ofMembers find = .complete make := read
  exact ⟨name, by simp only [Schema.and, Schema.fieldOr, before, found, wrong, Reading.both]⟩

theorem Refuses.optional {omitted : α} (read : front.Reads find make)
    (found : find name = some item) (wrong : decode item = .error error) :
    (front.and (.optional omitted name decode)).Refuses find error :=
  fieldOr read found wrong

/-- Other fields, when they are right, add nothing to what is wrong. -/
theorem Refuses.other {back : Schema ν α} (value : α) (refused : front.Refuses find error)
    (read : ((Schema.build id).and back).Reads find value) :
    (front.and back).Refuses find error := by
  obtain ⟨name, wrong⟩ := refused
  obtain ⟨make, value, -, right, -⟩ := Reading.both_eq_complete read
  exact ⟨name, by simp only [Schema.and, wrong, right, Reading.both]⟩

theorem reported_wrong (members : List (String × ν)) (name : String) (error : DecodeError) :
    reported members (.wrong name error) [] = error := by
  rw [reported]
  cases found : members.findSome? fun entry =>
    [Fault.wrong name error].findSome? (Fault.wrongAt? entry.1) with
  | none => rfl
  | some reason =>
      obtain ⟨entry, -, here⟩ := List.exists_of_findSome?_eq_some found
      obtain ⟨fault, member, same⟩ := List.exists_of_findSome?_eq_some here
      obtain rfl := List.mem_singleton.mp member
      rw [Fault.wrongAt?] at same
      split at same
      · exact (Option.some.inj same).symm
      · cases same

theorem Refuses.decodeMembers {schema : Schema ν α} {members : List (String × ν)}
    (refused : schema.Refuses (fun name => findEntry name members) error) :
    schema.decodeMembers members = .error error := by
  obtain ⟨name, wrong⟩ := refused
  rw [Schema.decodeMembers, wrong]
  exact congrArg Except.error (reported_wrong members name error)

end Wrong

/-- Whatever a schema reads, from members or from a sequence, has a property. -/
structure Gives (schema : Schema ν α) (property : α → Prop) : Prop where
  members : ∀ find value, schema.ofMembers find = .complete value → property value
  items : ∀ expected index items value rest,
    schema.ofItems expected index items = .ok (value, rest) → property value

section Always
variable {front : Schema ν (α → β)} {P : β → Prop} {Q : α → Prop} {name : String}
  {decode : ν → Decoded α}

theorem Gives.build {R : α → Prop} {value : α} (holds : R value) :
    (Schema.build value : Schema ν α).Gives R where
  members find result read := by
    cases read
    exact holds
  items expected index items result rest read := by
    cases read
    exact holds

theorem Gives.and {back : Schema ν α}
    (first : front.Gives fun make => ∀ value, Q value → P (make value)) (second : back.Gives Q) :
    (front.and back).Gives P where
  members find result read := by
    rcases Reading.both_eq_complete read with ⟨make, value, before, after, rfl⟩
    exact first.members find make before value (second.members find value after)
  items expected index items result rest read := by
    rcases except_bind_eq_ok read with ⟨made, before, read⟩
    rcases except_bind_eq_ok read with ⟨found, after, read⟩
    cases read
    exact first.items expected index items made.1 made.2 before found.1
      (second.items _ _ _ found.1 found.2 after)

theorem Gives.fieldOr {absent : Option α}
    (decoded : ∀ item value, decode item = .ok value → Q value)
    (standing : ∀ value ∈ absent, Q value) : (Schema.fieldOr absent name decode).Gives Q where
  members find result read := by
    simp only [Schema.fieldOr] at read
    split at read
    · rename_i item _
      cases met : decode item with
      | ok value =>
          rw [met] at read
          cases read
          exact decoded item result met
      | error wrong =>
          rw [met] at read
          cases read
    · cases read
      exact standing result rfl
    · cases read
  items expected index items result rest read := by
    -- When the sequence is at its end, only what stands for the field can have been read.
    cases items with
    | nil =>
        simp only [Schema.fieldOr] at read
        split at read
        · cases read
          exact standing result rfl
        · cases read
    | cons item more =>
        rcases except_map_eq_ok read with ⟨value, met, same⟩
        cases same
        exact decoded item result met

theorem Gives.field (first : front.Gives fun make => ∀ value, Q value → P (make value))
    (decoded : ∀ item value, decode item = .ok value → Q value) :
    (front.and (.field name decode)).Gives P :=
  first.and (.fieldOr decoded nofun)

theorem Gives.optional {omitted : α}
    (first : front.Gives fun make => ∀ value, Q value → P (make value))
    (decoded : ∀ item value, decode item = .ok value → Q value) (standing : Q omitted) :
    (front.and (.optional omitted name decode)).Gives P := by
  apply first.and
  apply Gives.fieldOr decoded
  rintro value ⟨⟩
  exact standing

/-- A field that the property does not speak of. -/
theorem Gives.other {default : Option α}
    (first : front.Gives fun make => ∀ value, P (make value)) :
    (front.and (.fieldOr default name decode)).Gives P := by
  have any : front.Gives fun make => ∀ value, True → P (make value) :=
    ⟨fun find make read value _ => first.members find make read value,
      fun expected index items make rest read value _ =>
        first.items expected index items make rest read value⟩
  exact any.and (.fieldOr (fun _ _ _ => trivial) fun _ _ => trivial)

variable {schema : Schema ν β} {result : β}

theorem Gives.decodeMembers (gives : schema.Gives P) {members : List (String × ν)}
    (read : schema.decodeMembers members = .ok result) : P result := by
  rw [Schema.decodeMembers] at read
  split at read
  · rename_i complete
    cases read
    exact gives.members _ result complete
  · cases read

theorem Gives.decodeItems (gives : schema.Gives P) {typeName : String} {items : List ν}
    (read : schema.decodeItems typeName items = .ok result) : P result := by
  rcases except_bind_eq_ok read with ⟨front, taken, read⟩
  split at read
  · cases read
    exact gives.items _ 0 items front.1 front.2 taken
  · cases read

end Always
end Schema

/-! The parts of documents. -/
namespace Json
variable {α : Type} {P : α → Prop} {decode : Json → Decoded α}

theorem toRecord_object {typeName : String} {schema : Schema Json α}
    {members : List (String × Json)} {value : α}
    (read : schema.Reads (fun name => findEntry name members) value) :
    toRecord typeName schema (.object members) = .ok value :=
  read.decodeMembers

theorem toList_array {encode : α → Json} {items : List α}
    (inverse : ∀ item ∈ items, decode (encode item) = .ok item) :
    toList decode (.array (items.map encode)) = .ok items :=
  toItems_map encode decode items inverse

theorem toOption_of_ne_null {value : Json} (present : value ≠ .null) :
    toOption decode value = (decode value).map some := by
  unfold toOption
  split
  · contradiction
  · rfl

theorem toOption_present {value : Json} {result : α} (decoded : decode value = .ok result)
    (present : value ≠ .null) : toOption decode value = .ok (some result) := by
  rw [toOption_of_ne_null present, decoded]
  rfl

theorem toOption_refused {value : Json} {error : DecodeError} (wrong : decode value = .error error)
    (present : value ≠ .null) : toOption decode value = .error error := by
  rw [toOption_of_ne_null present, wrong]
  rfl

theorem toRecord_gives {typeName : String} {schema : Schema Json α} (gives : schema.Gives P)
    (value : Json) (result : α) (read : toRecord typeName schema value = .ok result) :
    P result := by
  unfold toRecord at read
  split at read
  · exact gives.decodeMembers read
  · exact gives.decodeItems read
  · cases read

/-- Null stands for nothing, whatever the decoder of the values makes of it. -/
theorem toOption_gives (decoded : ∀ value result, decode value = .ok result → P result)
    (value : Json) (result : Option α) (read : toOption decode value = .ok result) :
    ∀ item ∈ result, P item := by
  unfold toOption at read
  split at read
  · cases read
    exact nofun
  · rcases except_map_eq_ok read with ⟨item, met, rfl⟩
    rintro _ ⟨⟩
    exact decoded value item met

theorem toItems_gives (decoded : ∀ value result, decode value = .ok result → P result)
    {values : List Json} {results : List α} (read : toItems decode values = .ok results) :
    ∀ item ∈ results, P item := by
  induction values generalizing results with
  | nil =>
      cases read
      exact nofun
  | cons value rest ih =>
      rcases except_bind_eq_ok read with ⟨first, met, read⟩
      rcases except_bind_eq_ok read with ⟨more, others, read⟩
      cases read
      exact List.forall_mem_cons.mpr ⟨decoded value first met, ih others⟩

theorem toList_gives (decoded : ∀ value result, decode value = .ok result → P result)
    (value : Json) (results : List α) (read : toList decode value = .ok results) :
    ∀ item ∈ results, P item := by
  unfold toList at read
  split at read
  · exact toItems_gives decoded read
  · cases read

end Json

/-! Keyed values that were listed in their order come back in it. -/
section Listed
variable {α : Type}

theorem findEntry_eq_some {key : String} {value : α} {entries : List (String × α)}
    (found : findEntry key entries = some value) :
    ∃ front back, entries = front ++ (key, value) :: back := by
  induction entries with
  | nil => cases found
  | cons entry rest ih =>
      rw [findEntry] at found
      split at found
      · rename_i same
        cases found
        subst same
        exact ⟨[], rest, rfl⟩
      · obtain ⟨front, back, rfl⟩ := ih found
        exact ⟨entry :: front, back, rfl⟩

theorem putEntry_new {key : String} (value : α) {entries : List (String × α)}
    (new : key ∉ entries.map Prod.fst) :
    putEntry key value entries = entries ++ [(key, value)] := by
  induction entries with
  | nil => rfl
  | cons entry rest ih =>
      rw [List.map_cons, List.mem_cons, not_or] at new
      rw [putEntry, if_neg (Ne.symm new.1), ih new.2, List.cons_append]

theorem placeEntry_last {key : String} (value : α) {entries : List (String × α)}
    (last : ∀ other ∈ entries.map Prod.fst, other < key) :
    placeEntry key value entries = entries ++ [(key, value)] := by
  induction entries with
  | nil => rfl
  | cons entry rest ih =>
      rw [List.map_cons, List.forall_mem_cons] at last
      rw [placeEntry, if_neg (Std.not_gt_of_lt last.1), if_neg (Std.ne_of_lt last.1).symm,
        ih last.2, List.cons_append]

theorem Entries.toList_foldl_insert (pairs : List (String × α)) (entries : Entries α)
    (distinct : ((entries.toList ++ pairs).map Prod.fst).Nodup) :
    (pairs.foldl (fun entries pair => entries.insert pair.1 pair.2) entries).toList =
      entries.toList ++ pairs := by
  induction pairs generalizing entries with
  | nil => rw [List.foldl_nil, List.append_nil]
  | cons pair rest ih =>
      have new : pair.1 ∉ entries.toList.map Prod.fst := by
        rw [List.map_append, List.map_cons] at distinct
        intro present
        exact (List.nodup_append.mp distinct).2.2 _ present _ List.mem_cons_self rfl
      -- A new key goes to the end, so that the entries and the rest keep their joint order.
      have stored := putEntry_new pair.2 new
      rw [List.append_cons] at distinct ⊢
      rw [List.foldl_cons, ih (entries.insert pair.1 pair.2), toList_insert, stored]
      rw [toList_insert, stored]
      exact distinct

theorem Entries.toList_ofList {pairs : List (String × α)} (distinct : (pairs.map Prod.fst).Nodup) :
    (Entries.ofList pairs).toList = pairs :=
  Entries.toList_foldl_insert pairs .empty distinct

theorem Entries.find?_ofList {pairs : List (String × α)} (distinct : (pairs.map Prod.fst).Nodup)
    (key : String) : (Entries.ofList pairs).find? key = findEntry key pairs := by
  rw [find?, toList_ofList distinct]

/-- What is stored under a key stands at one place, and without it the rest is left. -/
theorem Entries.find?_eq_some {entries : Entries α} {key : String} {value : α}
    (found : entries.find? key = some value) :
    ∃ front back, entries.toList = front ++ (key, value) :: back ∧
      (entries.erase key).toList = front ++ back := by
  obtain ⟨front, back, listed⟩ := findEntry_eq_some found
  have distinct := entries.distinct
  rw [listed, List.map_append, List.map_cons] at distinct
  have before : ∀ entry ∈ front, entry.1 ≠ key := fun entry member =>
    (List.nodup_append.mp distinct).2.2 _ (List.mem_map_of_mem member) _ List.mem_cons_self
  have after : ∀ entry ∈ back, entry.1 ≠ key := by
    have new := (List.nodup_cons.mp (List.nodup_append.mp distinct).2.1).1
    rintro entry member same
    exact new (List.mem_map.mpr ⟨entry, member, same⟩)
  refine ⟨front, back, listed, ?_⟩
  rw [toList_erase, listed, List.filter_append, List.filter_cons_of_neg (by simp),
    List.filter_eq_self.mpr fun entry member => decide_eq_true (before entry member),
    List.filter_eq_self.mpr fun entry member => decide_eq_true (after entry member)]

/-- A key that is stored a second time keeps its place and takes the later value. -/
theorem Entries.toList_ofList_again {entries : Entries α} {key : String} {value : α} (first : α)
    (found : entries.find? key = some value) :
    (Entries.ofList ((key, first) :: entries.toList)).toList =
      (key, value) :: (entries.erase key).toList := by
  obtain ⟨front, back, listed, rest⟩ := find?_eq_some found
  have distinct := entries.distinct
  rw [listed] at distinct
  have apart : (((key, first) :: (front ++ back)).map Prod.fst).Nodup := by
    have moved : (front ++ (key, value) :: back).Perm ((key, value) :: (front ++ back)) :=
      List.perm_middle
    exact (moved.map Prod.fst).nodup_iff.mp distinct
  have before : (((key, first) :: front).map Prod.fst).Nodup :=
    apart.sublist (((List.sublist_append_left front back).cons_cons _).map Prod.fst)
  have replaced : ((Entries.ofList ((key, first) :: front)).insert key value).toList =
      (key, value) :: front := by
    rw [toList_insert, toList_ofList before, putEntry, if_pos rfl]
  rw [listed, rest, ← List.cons_append, Entries.ofList, List.foldl_append, List.foldl_cons,
    ← Entries.ofList, toList_foldl_insert, replaced, List.cons_append]
  rw [replaced]
  exact apart

theorem SortedEntries.toList_foldl_insert (pairs : List (String × α)) (entries : SortedEntries α)
    (ascending : ((entries.toList ++ pairs).map Prod.fst).Pairwise (· < ·)) :
    (pairs.foldl (fun entries pair => entries.insert pair.1 pair.2) entries).toList =
      entries.toList ++ pairs := by
  induction pairs generalizing entries with
  | nil => rw [List.foldl_nil, List.append_nil]
  | cons pair rest ih =>
      have last : ∀ other ∈ entries.toList.map Prod.fst, other < pair.1 := by
        rw [List.map_append, List.map_cons] at ascending
        intro other present
        exact (List.pairwise_append.mp ascending).2.2 other present _ List.mem_cons_self
      have stored := placeEntry_last pair.2 last
      rw [List.append_cons] at ascending ⊢
      rw [List.foldl_cons, ih (entries.insert pair.1 pair.2), toList_insert, stored]
      rw [toList_insert, stored]
      exact ascending

theorem SortedEntries.ofList_toList (entries : SortedEntries α) :
    SortedEntries.ofList entries.toList = entries := by
  rcases entries with ⟨pairs, ascending⟩
  have same := SortedEntries.toList_foldl_insert pairs .empty ascending
  rw [← SortedEntries.ofList] at same
  generalize SortedEntries.ofList pairs = listed at same
  cases listed
  cases same
  rfl

/-! Sorting moves the entries and changes none. -/

theorem placeEntry_perm {key : String} (value : α) {entries : List (String × α)}
    (new : key ∉ entries.map Prod.fst) :
    (placeEntry key value entries).Perm ((key, value) :: entries) := by
  induction entries with
  | nil => exact .refl _
  | cons entry rest ih =>
      rw [List.map_cons, List.mem_cons, not_or] at new
      rw [placeEntry]
      split
      · exact .refl _
      · rw [if_neg new.1]
        exact ((ih new.2).cons entry).trans (.swap ..)

theorem SortedEntries.foldl_insert_perm (pairs : List (String × α)) (entries : SortedEntries α)
    (distinct : ((entries.toList ++ pairs).map Prod.fst).Nodup) :
    (pairs.foldl (fun entries pair => entries.insert pair.1 pair.2) entries).toList.Perm
      (entries.toList ++ pairs) := by
  induction pairs generalizing entries with
  | nil =>
      rw [List.foldl_nil, List.append_nil]
  | cons pair rest ih =>
      have moved : (entries.toList ++ pair :: rest).Perm (pair :: (entries.toList ++ rest)) :=
        List.perm_middle
      have apart := (moved.map Prod.fst).nodup_iff.mp distinct
      have new : pair.1 ∉ entries.toList.map Prod.fst := by
        rw [List.map_cons, List.map_append, List.nodup_cons, List.mem_append, not_or] at apart
        exact apart.1.1
      have placed := (placeEntry_perm pair.2 new).append_right rest
      rw [List.foldl_cons]
      refine (ih (entries.insert pair.1 pair.2) ?_).trans (placed.trans moved.symm)
      exact (placed.map Prod.fst).nodup_iff.mpr apart

theorem SortedEntries.toList_ofList_perm {pairs : List (String × α)}
    (distinct : (pairs.map Prod.fst).Nodup) : (SortedEntries.ofList pairs).toList.Perm pairs :=
  SortedEntries.foldl_insert_perm pairs .empty distinct

theorem SortedEntries.ofList_perm {pairs others : List (String × α)} (moved : others.Perm pairs)
    (distinct : (pairs.map Prod.fst).Nodup) :
    SortedEntries.ofList others = SortedEntries.ofList pairs := by
  have apart := (moved.map Prod.fst).nodup_iff.mpr distinct
  have same : (SortedEntries.ofList others).toList.Perm (SortedEntries.ofList pairs).toList :=
    ((toList_ofList_perm apart).trans moved).trans (toList_ofList_perm distinct).symm
  have before := List.pairwise_map.mp (SortedEntries.ofList others).ascending
  have after := List.pairwise_map.mp (SortedEntries.ofList pairs).ascending
  have listed := same.eq_of_pairwise
    (fun _ _ _ _ less more => absurd more (Std.not_gt_of_lt less)) before after
  generalize SortedEntries.ofList others = left at listed ⊢
  generalize SortedEntries.ofList pairs = right at listed ⊢
  cases left
  cases right
  cases listed
  rfl

end Listed
end CodeMetrics
