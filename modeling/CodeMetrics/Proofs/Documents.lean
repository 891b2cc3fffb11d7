import CodeMetrics.Proofs.Numerals
import CodeMetrics.Proofs.Reading

/-!
What stands inside a document, and what a document comes back as when its numbers have been written
and read again: a double may come back as another one, and of a key that comes twice only the last
value is left; all else stays.
-/

namespace CodeMetrics.Json

mutual
/-- A document and all documents inside of it. -/
def parts : Json → List Json
  | .array items => .array items :: partsOfItems items
  | .object members => .object members :: partsOfMembers members
  | other => [other]

def partsOfItems : List Json → List Json
  | [] => []
  | item :: rest => item.parts ++ partsOfItems rest

def partsOfMembers : List (String × Json) → List Json
  | [] => []
  | (_, value) :: rest => value.parts ++ partsOfMembers rest
end

mutual
/-- The greatest number of arrays and objects around one place. -/
def nesting : Json → Nat
  | .array items => 1 + nestingOfItems items
  | .object members => 1 + nestingOfMembers members
  | _ => 0

def nestingOfItems : List Json → Nat
  | [] => 0
  | item :: rest => max item.nesting (nestingOfItems rest)

def nestingOfMembers : List (String × Json) → Nat
  | [] => 0
  | (_, value) :: rest => max value.nesting (nestingOfMembers rest)
end

mutual
/-- The document with each number as it is read again, if all of them are. -/
def reread : Json → Option Json
  | .number value => value.reread.map .number
  | .array items => (rereadItems items).map .array
  | .object members => (rereadMembers members).map .object
  | other => some other

def rereadItems : List Json → Option (List Json)
  | [] => some []
  | item :: rest => do
    let first ← item.reread
    let more ← rereadItems rest
    some (first :: more)

def rereadMembers : List (String × Json) → Option (List (String × Json))
  | [] => some []
  | (key, value) :: rest => do
    let first ← value.reread
    let more ← rereadMembers rest
    some ((key, first) :: more)
end

mutual
/-- The document with each key of an object once, at its first place and with its last value. -/
def merged : Json → Json
  | .array items => .array (mergedItems items)
  | .object members => .object (Entries.ofList (mergedMembers members)).toList
  | other => other

def mergedItems : List Json → List Json
  | [] => []
  | item :: rest => item.merged :: mergedItems rest

def mergedMembers : List (String × Json) → List (String × Json)
  | [] => []
  | (key, value) :: rest => (key, value.merged) :: mergedMembers rest
end

/-- No object names a key twice. -/
def Distinct (value : Json) : Prop :=
  ∀ members, .object members ∈ value.parts → (members.map Prod.fst).Nodup

/-- Every double in a document is read again as the same double. -/
def Survives (value : Json) : Prop :=
  ∀ number, .number number ∈ value.parts → number.reread = some number

def members? : Json → Option (List (String × Json))
  | .object members => some members
  | _ => none

def number? : Json → Option Number
  | .number value => some value
  | _ => none

instance instDecidableDistinct (value : Json) : Decidable value.Distinct :=
  decidable_of_iff
      (∀ part ∈ value.parts, ∀ members ∈ part.members?, (members.map Prod.fst).Nodup) <| by
    constructor
    · exact fun apart members member => apart _ member members rfl
    · rintro distinct part member members found
      cases part <;> cases found
      exact distinct members member

instance instDecidableSurvives (value : Json) : Decidable value.Survives :=
  decidable_of_iff
      (∀ part ∈ value.parts, ∀ number ∈ part.number?, number.reread = some number) <| by
    constructor
    · exact fun same number member => same _ member number rfl
    · rintro survives part member number found
      cases part <;> cases found
      exact survives number member

/-! A document whose doubles survive is read again as it was. -/

mutual
theorem reread_of_survives (value : Json)
    (survives : ∀ number, .number number ∈ value.parts → number.reread = some number) :
    value.reread = some value := by
  cases value with
  | null => rfl
  | bool value => rfl
  | string value => rfl
  | number number =>
      rw [reread, survives number List.mem_cons_self]
      rfl
  | array items =>
      have inside := fun number member => survives number (List.mem_cons_of_mem _ member)
      rw [reread, rereadItems_of_survives items inside]
      rfl
  | object members =>
      have inside := fun number member => survives number (List.mem_cons_of_mem _ member)
      rw [reread, rereadMembers_of_survives members inside]
      rfl

theorem rereadItems_of_survives (items : List Json)
    (survives : ∀ number, .number number ∈ partsOfItems items → number.reread = some number) :
    rereadItems items = some items := by
  cases items with
  | nil => rfl
  | cons item rest =>
      have first := fun number member => survives number (List.mem_append_left _ member)
      have others := fun number member => survives number (List.mem_append_right _ member)
      rw [rereadItems, reread_of_survives item first, rereadItems_of_survives rest others]
      rfl

theorem rereadMembers_of_survives (members : List (String × Json))
    (survives : ∀ number, .number number ∈ partsOfMembers members → number.reread = some number) :
    rereadMembers members = some members := by
  cases members with
  | nil => rfl
  | cons member rest =>
      obtain ⟨key, value⟩ := member
      have first := fun number member => survives number (List.mem_append_left _ member)
      have others := fun number member => survives number (List.mem_append_right _ member)
      rw [rereadMembers, reread_of_survives value first, rereadMembers_of_survives rest others]
      rfl
end

/-! Where no key comes twice, nothing is merged. -/

mutual
theorem merged_of_distinct (value : Json)
    (distinct : ∀ members, .object members ∈ value.parts → (members.map Prod.fst).Nodup) :
    value.merged = value := by
  cases value with
  | null => rfl
  | bool value => rfl
  | string value => rfl
  | number value => rfl
  | array items =>
      have inside := fun members member => distinct members (List.mem_cons_of_mem _ member)
      rw [merged, mergedItems_of_distinct items inside]
  | object members =>
      have inside := fun others member => distinct others (List.mem_cons_of_mem _ member)
      rw [merged, mergedMembers_of_distinct members inside,
        Entries.toList_ofList (distinct members List.mem_cons_self)]

theorem mergedItems_of_distinct (items : List Json)
    (distinct : ∀ members, .object members ∈ partsOfItems items → (members.map Prod.fst).Nodup) :
    mergedItems items = items := by
  cases items with
  | nil => rfl
  | cons item rest =>
      have first := fun members member => distinct members (List.mem_append_left _ member)
      have others := fun members member => distinct members (List.mem_append_right _ member)
      rw [mergedItems, merged_of_distinct item first, mergedItems_of_distinct rest others]

theorem mergedMembers_of_distinct (members : List (String × Json))
    (distinct : ∀ others, .object others ∈ partsOfMembers members →
      (others.map Prod.fst).Nodup) :
    mergedMembers members = members := by
  cases members with
  | nil => rfl
  | cons member rest =>
      obtain ⟨key, value⟩ := member
      have first := fun others member => distinct others (List.mem_append_left _ member)
      have others := fun others member => distinct others (List.mem_append_right _ member)
      rw [mergedMembers, merged_of_distinct value first, mergedMembers_of_distinct rest others]
end

theorem mergedMembers_self {members : List (String × Json)}
    (same : ∀ member ∈ members, member.2.merged = member.2) : mergedMembers members = members := by
  induction members with
  | nil => rfl
  | cons member rest ih =>
      rw [List.forall_mem_cons] at same
      rw [mergedMembers, same.1, ih same.2]

/-! Lists of documents, read again. -/

theorem rereadItems_map {α : Type} {encode : α → Json} {back : α → Option α} {items : List α}
    (same : ∀ item ∈ items, (encode item).reread = (back item).map encode) :
    rereadItems (items.map encode) = (items.mapM back).map (List.map encode) := by
  induction items with
  | nil => rfl
  | cons item rest ih =>
      rw [List.forall_mem_cons] at same
      rw [List.map_cons, rereadItems, same.1, ih same.2, List.mapM_cons]
      cases back item <;> cases rest.mapM back <;> rfl

theorem rereadItems_self {items : List Json}
    (same : ∀ item ∈ items, item.reread = some item) : rereadItems items = some items := by
  induction items with
  | nil => rfl
  | cons item rest ih =>
      rw [List.forall_mem_cons] at same
      rw [rereadItems, same.1, ih same.2]
      rfl

theorem rereadMembers_self {members : List (String × Json)}
    (same : ∀ member ∈ members, member.2.reread = some member.2) :
    rereadMembers members = some members := by
  induction members with
  | nil => rfl
  | cons member rest ih =>
      rw [List.forall_mem_cons] at same
      rw [rereadMembers, same.1, ih same.2]
      rfl

theorem rereadMembers_append (first second : List (String × Json)) :
    rereadMembers (first ++ second) =
      (rereadMembers first).bind fun front => (rereadMembers second).map (front ++ ·) := by
  induction first with
  | nil => simp [rereadMembers]
  | cons member rest ih =>
      rw [List.cons_append, rereadMembers, rereadMembers, ih]
      cases member.2.reread <;> cases rereadMembers rest <;> cases rereadMembers second <;> rfl

/-! A document nests as deeply when it is read again. -/

mutual
theorem nesting_of_reread (value : Json) {back : Json} (read : value.reread = some back) :
    back.nesting = value.nesting := by
  cases value with
  | null => cases read; rfl
  | bool value => cases read; rfl
  | string value => cases read; rfl
  | number number =>
      rw [reread] at read
      obtain ⟨other, -, rfl⟩ := Option.map_eq_some_iff.mp read
      rfl
  | array items =>
      rw [reread] at read
      obtain ⟨others, inner, rfl⟩ := Option.map_eq_some_iff.mp read
      rw [nesting, nesting, nestingOfItems_of_reread items inner]
  | object members =>
      rw [reread] at read
      obtain ⟨others, inner, rfl⟩ := Option.map_eq_some_iff.mp read
      rw [nesting, nesting, nestingOfMembers_of_reread members inner]

theorem nestingOfItems_of_reread (items : List Json) {back : List Json}
    (read : rereadItems items = some back) : nestingOfItems back = nestingOfItems items := by
  cases items with
  | nil => cases read; rfl
  | cons item rest =>
      rw [rereadItems] at read
      obtain ⟨first, here, read⟩ := Option.bind_eq_some_iff.mp read
      obtain ⟨more, later, read⟩ := Option.bind_eq_some_iff.mp read
      cases read
      rw [nestingOfItems, nestingOfItems, nesting_of_reread item here,
        nestingOfItems_of_reread rest later]

theorem nestingOfMembers_of_reread (members : List (String × Json))
    {back : List (String × Json)} (read : rereadMembers members = some back) :
    nestingOfMembers back = nestingOfMembers members := by
  cases members with
  | nil => cases read; rfl
  | cons member rest =>
      obtain ⟨key, value⟩ := member
      rw [rereadMembers] at read
      obtain ⟨first, here, read⟩ := Option.bind_eq_some_iff.mp read
      obtain ⟨more, later, read⟩ := Option.bind_eq_some_iff.mp read
      cases read
      rw [nestingOfMembers, nestingOfMembers, nesting_of_reread value here,
        nestingOfMembers_of_reread rest later]
end

/-! How deeply a document nests, and whether it names a key twice, is told by what it is made of. -/

/-- What a reader can take that goes only so many levels deep. -/
structure Fits (levels : Nat) (value : Json) : Prop where
  nesting : value.nesting ≤ levels
  distinct : value.Distinct

theorem Fits.mono {levels more : Nat} {value : Json} (fits : value.Fits levels)
    (less : levels ≤ more) : value.Fits more :=
  ⟨Nat.le_trans fits.nesting less, fits.distinct⟩

theorem fits_bool (levels : Nat) (value : Bool) : (Json.bool value).Fits levels := by
  constructor
  · exact Nat.zero_le levels
  · rintro members (_ | ⟨_, ⟨⟩⟩)

theorem fits_number (levels : Nat) (value : Number) : (Json.number value).Fits levels := by
  constructor
  · exact Nat.zero_le levels
  · rintro members (_ | ⟨_, ⟨⟩⟩)

theorem fits_string (levels : Nat) (value : String) : (Json.string value).Fits levels := by
  constructor
  · exact Nat.zero_le levels
  · rintro members (_ | ⟨_, ⟨⟩⟩)

theorem fits_ofFloat (levels : Nat) (figure : Float) : (Json.ofFloat figure).Fits levels := by
  rw [ofFloat]
  cases Number.ofFloat? figure with
  | none =>
      constructor
      · exact Nat.zero_le levels
      · rintro members (_ | ⟨_, ⟨⟩⟩)
  | some number => exact fits_number levels number

theorem nestingOfItems_le {levels : Nat} {items : List Json}
    (inner : ∀ item ∈ items, item.nesting ≤ levels) : nestingOfItems items ≤ levels := by
  induction items with
  | nil => exact Nat.zero_le levels
  | cons item rest ih =>
      rw [List.forall_mem_cons] at inner
      exact Nat.max_le.mpr ⟨inner.1, ih inner.2⟩

theorem le_nestingOfItems {item : Json} {items : List Json} (member : item ∈ items) :
    item.nesting ≤ nestingOfItems items := by
  induction items with
  | nil => cases member
  | cons other rest ih =>
      rw [nestingOfItems]
      rcases List.mem_cons.mp member with rfl | later
      · exact Nat.le_max_left _ _
      · exact Nat.le_trans (ih later) (Nat.le_max_right _ _)

theorem mem_partsOfItems {part : Json} {items : List Json} :
    part ∈ partsOfItems items ↔ ∃ item ∈ items, part ∈ item.parts := by
  induction items with
  | nil => simp [partsOfItems]
  | cons item rest ih => simp [partsOfItems, ih]

theorem nestingOfMembers_eq (members : List (String × Json)) :
    nestingOfMembers members = nestingOfItems (members.map Prod.snd) := by
  induction members with
  | nil => rfl
  | cons member rest ih => rw [nestingOfMembers, ih, List.map_cons, nestingOfItems]

theorem partsOfMembers_eq (members : List (String × Json)) :
    partsOfMembers members = partsOfItems (members.map Prod.snd) := by
  induction members with
  | nil => rfl
  | cons member rest ih => rw [partsOfMembers, ih, List.map_cons, partsOfItems]

theorem fits_array {levels : Nat} {items : List Json} (inner : ∀ item ∈ items, item.Fits levels) :
    (Json.array items).Fits (levels + 1) := by
  constructor
  · have bound := nestingOfItems_le fun item member => (inner item member).nesting
    rw [nesting]
    omega
  · intro members member
    rw [parts, List.mem_cons, mem_partsOfItems] at member
    rcases member with same | ⟨item, listed, inside⟩
    · cases same
    · exact (inner item listed).distinct members inside

theorem fits_object {levels : Nat} {members : List (String × Json)}
    (apart : (members.map Prod.fst).Nodup) (inner : ∀ member ∈ members, member.2.Fits levels) :
    (Json.object members).Fits (levels + 1) := by
  have values : ∀ value ∈ members.map Prod.snd, value.Fits levels := List.forall_mem_map.mpr inner
  constructor
  · have bound := nestingOfItems_le fun value member => (values value member).nesting
    rw [nesting, nestingOfMembers_eq]
    omega
  · intro others member
    rw [parts, List.mem_cons, partsOfMembers_eq, mem_partsOfItems] at member
    rcases member with same | ⟨value, listed, inside⟩
    · cases same
      exact apart
    · exact (values value listed).distinct others inside

end CodeMetrics.Json
