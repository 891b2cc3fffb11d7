import CodeMetrics.Proofs.Reading
import CodeMetrics.Toml.Document

/-!
The tables of a document. In whatever order a text fills them, by headers, dotted keys or in a line,
every table that is read has its keys in ascending order, and so none of them twice.
-/

namespace CodeMetrics

section Stored
variable {α : Type} {P : α → Prop} {key : String} {value : α} {entries : List (String × α)}

theorem forall_mem_putEntry (kept : ∀ entry ∈ entries, P entry.2) (new : P value) :
    ∀ entry ∈ putEntry key value entries, P entry.2 := by
  induction entries with
  | nil => exact List.forall_mem_singleton.mpr new
  | cons entry rest ih =>
      rw [List.forall_mem_cons] at kept
      rw [putEntry]
      split
      · exact List.forall_mem_cons.mpr ⟨new, kept.2⟩
      · exact List.forall_mem_cons.mpr ⟨kept.1, ih kept.2⟩

theorem forall_mem_placeEntry (kept : ∀ entry ∈ entries, P entry.2) (new : P value) :
    ∀ entry ∈ placeEntry key value entries, P entry.2 := by
  induction entries with
  | nil => exact List.forall_mem_singleton.mpr new
  | cons entry rest ih =>
      have whole := kept
      rw [List.forall_mem_cons] at kept
      rw [placeEntry]
      split
      · exact List.forall_mem_cons.mpr ⟨new, whole⟩
      · split
        · exact List.forall_mem_cons.mpr ⟨new, kept.2⟩
        · exact List.forall_mem_cons.mpr ⟨kept.1, ih kept.2⟩

theorem findEntry_holds (kept : ∀ entry ∈ entries, P entry.2)
    (found : findEntry key entries = some value) : P value := by
  obtain ⟨front, back, rfl⟩ := findEntry_eq_some found
  exact kept _ (List.mem_append_right front List.mem_cons_self)

end Stored

namespace Toml

/-- In a value, and in all values inside of it, tables have ascending keys. -/
inductive Value.Ordered : Value → Prop where
  | bool (value : Bool) : Ordered (.bool value)
  | integer (value : Int) : Ordered (.integer value)
  | float (value : Float) : Ordered (.float value)
  | valueless : Ordered .valueless
  | string (value : String) : Ordered (.string value)
  | moment (text : String) : Ordered (.moment text)
  | array {items : List Value} (inner : ∀ item ∈ items, Ordered item) : Ordered (.array items)
  | table {entries : List (String × Value)} (ascending : (entries.map Prod.fst).Pairwise (· < ·))
      (inner : ∀ entry ∈ entries, Ordered entry.2) : Ordered (.table entries)

/-- All values in a table in the making have a property. -/
inductive Item.Holds (P : Value → Prop) : Item → Prop where
  | leaf {value : Value} (holds : P value) : Holds P (.leaf value)
  | table {origin : Origin} {entries : List (String × Item)}
      (inner : ∀ entry ∈ entries, Holds P entry.2) : Holds P (.table origin entries)
  | rows {tables : List (List (String × Item))}
      (inner : ∀ entries ∈ tables, ∀ entry ∈ entries, Holds P entry.2) : Holds P (.rows tables)

def AllHold (P : Value → Prop) (entries : List (String × Item)) : Prop :=
  ∀ entry ∈ entries, entry.2.Holds P

section Making
variable {P : Value → Prop} {path : List String} {entries table root result : List (String × Item)}

theorem AllHold.nil : AllHold P [] := nofun

theorem AllHold.put {key : String} {item : Item} (kept : AllHold P entries) (new : item.Holds P) :
    AllHold P (putEntry key item entries) :=
  forall_mem_putEntry kept new

/-- Where rows are extended, the last one is. -/
theorem AllHold.last {tables : List (List (String × Item))}
    (rows : ∀ table ∈ tables, AllHold P table) : AllHold P (tables.getLast?.getD []) := by
  cases last : tables.getLast? with
  | none => exact .nil
  | some table => exact rows table (List.mem_of_getLast? last)

theorem AllHold.within {dotted : Bool} {origin : Origin}
    {change : Origin → List (String × Item) → Option (List (String × Item))}
    (keeps : ∀ origin entries changed, AllHold P entries → change origin entries = some changed →
      AllHold P changed)
    (kept : AllHold P entries) (changed : within dotted origin path change entries = some result) :
    AllHold P result := by
  induction path generalizing origin entries result with
  | nil => exact keeps origin entries result kept changed
  | cons key path ih =>
      rw [Toml.within] at changed
      split at changed
      · -- A key that is new gets a table of its own, which starts empty.
        obtain ⟨inner, below, rfl⟩ := Option.map_eq_some_iff.mp changed
        exact kept.put (.table (ih .nil below))
      · cases changed
      · rename_i found
        split at changed
        · cases changed
        · obtain ⟨inner, below, rfl⟩ := Option.map_eq_some_iff.mp changed
          cases findEntry_holds kept found with
          | table before => exact kept.put (.table (ih before below))
      · rename_i tables found
        obtain ⟨inner, below, rfl⟩ := Option.map_eq_some_iff.mp changed
        cases findEntry_holds kept found with
        | rows before =>
            -- Only the last row is replaced.
            refine kept.put (.rows (List.forall_mem_append.mpr ⟨fun table member => ?_, ?_⟩))
            · exact before table ((List.dropLast_sublist tables).mem member)
            · exact List.forall_mem_singleton.mpr (ih (AllHold.last before) below)

theorem AllHold.reach (kept : AllHold P entries) (found : reach path entries = some result) :
    AllHold P result := by
  induction path generalizing entries with
  | nil =>
      cases found
      exact kept
  | cons key path ih =>
      rw [Toml.reach] at found
      split at found
      · cases found
        exact .nil
      · cases found
      · rename_i here
        cases findEntry_holds kept here with
        | table inner => exact ih inner found
      · rename_i here
        cases findEntry_holds kept here with
        | rows inner => exact ih (AllHold.last inner) found

theorem AllHold.openTable (kept : AllHold P root) (opened : openTable path root = some result) :
    AllHold P result := by
  obtain ⟨above, reached, opened⟩ := Option.bind_eq_some_iff.mp opened
  have above := kept.reach reached
  split at opened
  · cases opened
    exact .nil
  · rename_i found
    cases opened
    cases findEntry_holds above found with
    | table inner => exact inner
  · cases opened

theorem AllHold.closeTable (kept : AllHold P root) (new : AllHold P table)
    (closed : closeTable path table root = some result) : AllHold P result := by
  refine kept.within (fun _ entries changed before put => ?_) closed
  cases put
  exact AllHold.put before (.table new)

theorem AllHold.addRow (kept : AllHold P root) (new : AllHold P table)
    (added : addRow path table root = some result) : AllHold P result := by
  refine kept.within (fun _ entries changed before put => ?_) added
  split at put
  · cases put
    exact AllHold.put before (.rows (List.forall_mem_singleton.mpr new))
  · rename_i tables found
    cases put
    cases findEntry_holds before found with
    | rows inner =>
        exact AllHold.put before (.rows (List.forall_mem_append.mpr
          ⟨inner, List.forall_mem_singleton.mpr new⟩))
  · cases put

theorem AllHold.assign {value : Value} (kept : AllHold P entries) (new : P value)
    (assigned : assign path value entries = some result) : AllHold P result := by
  refine kept.within (fun _ entries changed before put => ?_) assigned
  split at put
  · cases put
  · split at put
    · cases put
    · cases put
      exact AllHold.put before (.leaf new)

end Making

/-! Values. -/

theorem sortEntries_ascending (entries : List (String × Value)) :
    ((sortEntries entries).map Prod.fst).Pairwise (· < ·) :=
  (SortedEntries.ofList entries).ascending

theorem forall_mem_sortEntries {P : Value → Prop} {entries : List (String × Value)}
    (kept : ∀ entry ∈ entries, P entry.2) : ∀ entry ∈ sortEntries entries, P entry.2 := by
  -- Whatever was sorted before, storing one entry more keeps the property.
  have stored (sorted : SortedEntries Value) (before : ∀ entry ∈ sorted.toList, P entry.2) :
      ∀ entry ∈ (entries.foldl (fun sorted pair => sorted.insert pair.1 pair.2) sorted).toList,
        P entry.2 := by
    induction entries generalizing sorted with
    | nil => exact before
    | cons entry rest ih =>
        rw [List.forall_mem_cons] at kept
        exact ih kept.2 _ (forall_mem_placeEntry before kept.1)
  exact stored .empty nofun

mutual
theorem Item.value_ordered (item : Item) (holds : item.Holds Value.Ordered) :
    item.value.Ordered := by
  cases item with
  | leaf value =>
      cases holds with
      | leaf ordered => exact ordered
  | table origin entries =>
      cases holds with
      | table inner =>
          exact .table (sortEntries_ascending _)
            (forall_mem_sortEntries (itemValues_ordered entries inner))
  | rows tables =>
      cases holds with
      | rows inner => exact .array (rowValues_ordered tables inner)

theorem itemValues_ordered (entries : List (String × Item))
    (holds : AllHold Value.Ordered entries) : ∀ entry ∈ itemValues entries, entry.2.Ordered := by
  match entries with
  | [] => exact nofun
  | (key, item) :: rest =>
      rw [AllHold, List.forall_mem_cons] at holds
      exact List.forall_mem_cons.mpr
        ⟨Item.value_ordered item holds.1, itemValues_ordered rest holds.2⟩

theorem rowValues_ordered (tables : List (List (String × Item)))
    (holds : ∀ entries ∈ tables, AllHold Value.Ordered entries) :
    ∀ value ∈ rowValues tables, value.Ordered := by
  match tables with
  | [] => exact nofun
  | entries :: rest =>
      rw [List.forall_mem_cons] at holds
      exact List.forall_mem_cons.mpr
        ⟨.table (sortEntries_ascending _)
          (forall_mem_sortEntries (itemValues_ordered entries holds.1)),
          rowValues_ordered rest holds.2⟩
end

theorem tableOf_ordered {entries : List (String × Item)} (holds : AllHold Value.Ordered entries) :
    (Value.table (tableOf entries)).Ordered :=
  .table (sortEntries_ascending _) (forall_mem_sortEntries (itemValues_ordered entries holds))

theorem integer?_ordered {text : List Char} {value : Value} (read : integer? text = some value) :
    value.Ordered := by
  rw [integer?] at read
  split at read
  · cases read
    exact .integer _
  · split at read <;> cases read
    exact .valueless

theorem specialFloat?_ordered {text : List Char} {value : Value}
    (read : specialFloat? text = some value) : value.Ordered := by
  rw [specialFloat?] at read
  split at read
  · cases read
    exact .float _
  · split at read <;> cases read
    exact .float _

theorem finiteFloat?_ordered {text : List Char} {value : Value}
    (read : finiteFloat? text = some value) : value.Ordered := by
  rw [finiteFloat?] at read
  dsimp only at read
  split at read
  · cases read
  · obtain ⟨_, -, read⟩ := Option.bind_eq_some_iff.mp read
    obtain ⟨_, -, read⟩ := Option.bind_eq_some_iff.mp read
    obtain ⟨_, -, read⟩ := Option.bind_eq_some_iff.mp read
    split at read <;> cases read
    · exact .float _
    · exact .valueless

theorem moment?_ordered {text : List Char} {value : Value} (read : moment? text = some value) :
    value.Ordered := by
  rw [moment?] at read
  split at read
  · obtain ⟨_, -, read⟩ := Option.bind_eq_some_iff.mp read
    dsimp only at read
    split at read <;> cases read
    exact .moment _
  · cases read
    exact .moment _
  · split at read
    · cases read
    · obtain ⟨_, -, read⟩ := Option.bind_eq_some_iff.mp read
      dsimp only at read
      split at read
      · cases read
        exact .moment _
      · obtain ⟨_, -, read⟩ := Option.bind_eq_some_iff.mp read
        split at read <;> cases read
        exact .moment _

theorem scalar?_ordered {text : List Char} {value : Value} (read : scalar? text = some value) :
    value.Ordered := by
  rw [scalar?] at read
  split at read
  · cases read
    exact .bool true
  · split at read
    · cases read
      exact .bool false
    · rcases Option.or_eq_some_iff.mp read with read | ⟨-, moment⟩
      · rcases Option.or_eq_some_iff.mp read with read | ⟨-, special⟩
        · rcases Option.or_eq_some_iff.mp read with integer | ⟨-, finite⟩
          · exact integer?_ordered integer
          · exact finiteFloat?_ordered finite
        · exact specialFloat?_ordered special
      · exact moment?_ordered moment

theorem orMalformed_eq_ok {α : Type} {found : Option α} {value : α}
    (read : orMalformed found = .ok value) : found = some value := by
  cases found with
  | none => cases read
  | some other => exact congrArg some (Except.ok.inj read)

theorem Piece.value?_ordered {piece : Piece} {value : Value} (read : piece.value? = some value) :
    value.Ordered := by
  cases piece with
  | word text => exact scalar?_ordered read
  | quoted text =>
      obtain ⟨content, -, rfl⟩ := Option.map_eq_some_iff.mp read
      exact .string content

mutual
theorem Written.read_ordered (written : Written) (value : Value)
    (read : written.read = .ok value) : value.Ordered := by
  cases written with
  | piece piece => exact Piece.value?_ordered (orMalformed_eq_ok read)
  | array items =>
      obtain ⟨values, inner, rfl⟩ := except_map_eq_ok read
      exact .array (readItems_ordered items values inner)
  | pairs entries =>
      obtain ⟨found, inner, rfl⟩ := except_map_eq_ok read
      exact tableOf_ordered (readPairs_ordered entries [] found .nil inner)

theorem readItems_ordered (items : List Written) (values : List Value)
    (read : readItems items = .ok values) : ∀ value ∈ values, value.Ordered := by
  match items with
  | [] =>
      cases read
      exact nofun
  | item :: rest =>
      obtain ⟨value, first, read⟩ := except_bind_eq_ok read
      obtain ⟨more, others, read⟩ := except_bind_eq_ok read
      cases read
      exact List.forall_mem_cons.mpr
        ⟨Written.read_ordered item value first, readItems_ordered rest more others⟩

theorem readPairs_ordered (pairs : List (List Piece × Written))
    (entries result : List (String × Item)) (before : AllHold Value.Ordered entries)
    (read : readPairs entries pairs = .ok result) : AllHold Value.Ordered result := by
  match pairs with
  | [] =>
      cases read
      exact before
  | (path, written) :: rest =>
      obtain ⟨keys, -, read⟩ := except_bind_eq_ok read
      obtain ⟨value, here, read⟩ := except_bind_eq_ok read
      obtain ⟨grown, assigned, read⟩ := except_bind_eq_ok read
      have new := Written.read_ordered written value here
      exact readPairs_ordered rest grown result
        (before.assign new (orMalformed_eq_ok assigned)) read
end

/-! Statements. -/

/-- The values in the complete tables and in the one that is being filled are ordered. -/
structure Draft.Ordered (draft : Draft) : Prop where
  root : AllHold Value.Ordered draft.root
  current : AllHold Value.Ordered draft.current

theorem Draft.Ordered.close {draft : Draft} {result : List (String × Item)}
    (ordered : draft.Ordered) (closed : draft.close = .ok result) :
    AllHold Value.Ordered result := by
  rw [Draft.close] at closed
  split at closed
  · cases closed
    exact ordered.current
  · exact ordered.root.closeTable ordered.current (orMalformed_eq_ok closed)
  · exact ordered.root.addRow ordered.current (orMalformed_eq_ok closed)

theorem Draft.Ordered.add {draft grown : Draft} {statement : Statement} (ordered : draft.Ordered)
    (added : draft.add statement = .ok grown) : grown.Ordered := by
  cases statement with
  | blank =>
      cases added
      exact ordered
  | table path =>
      obtain ⟨root, closed, added⟩ := except_bind_eq_ok added
      obtain ⟨keys, -, added⟩ := except_bind_eq_ok added
      obtain ⟨current, opened, added⟩ := except_bind_eq_ok added
      cases added
      have whole := ordered.close closed
      exact ⟨whole, whole.openTable (orMalformed_eq_ok opened)⟩
  | row path =>
      obtain ⟨root, closed, added⟩ := except_bind_eq_ok added
      obtain ⟨keys, -, added⟩ := except_bind_eq_ok added
      cases added
      exact ⟨ordered.close closed, .nil⟩
  | pair path written =>
      obtain ⟨keys, -, added⟩ := except_bind_eq_ok added
      obtain ⟨value, here, added⟩ := except_bind_eq_ok added
      obtain ⟨current, assigned, added⟩ := except_bind_eq_ok added
      cases added
      have new := Written.read_ordered written value here
      exact ⟨ordered.root, ordered.current.assign new (orMalformed_eq_ok assigned)⟩

theorem Draft.Ordered.foldlM {statements : List Statement} {draft grown : Draft}
    (ordered : draft.Ordered) (added : statements.foldlM Draft.add draft = .ok grown) :
    grown.Ordered := by
  induction statements generalizing draft with
  | nil =>
      cases added
      exact ordered
  | cons statement rest ih =>
      obtain ⟨next, here, added⟩ := except_bind_eq_ok added
      exact ih (ordered.add here) added

/-- However a text is written, the tables that are read from it have ascending keys. -/
theorem read_ordered {text : String} {entries : List (String × Value)}
    (found : read text = .ok entries) : (Value.table entries).Ordered := by
  obtain ⟨statements, -, found⟩ := except_bind_eq_ok found
  obtain ⟨draft, added, found⟩ := except_bind_eq_ok found
  obtain ⟨root, closed, found⟩ := except_bind_eq_ok found
  cases found
  have empty : (Draft.Ordered {}) := ⟨.nil, .nil⟩
  exact tableOf_ordered ((empty.foldlM added).close closed)

end Toml
end CodeMetrics
