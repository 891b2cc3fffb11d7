/-!
Keyed values in ascending order of key, no key twice. Keys compare character by character, by code
point.
-/
namespace CodeMetrics

def placeEntry {α : Type} (key : String) (value : α) : List (String × α) → List (String × α)
  | [] => [(key, value)]
  | entry :: rest =>
    if key < entry.1 then (key, value) :: entry :: rest
    else if key = entry.1 then (key, value) :: rest
    else entry :: placeEntry key value rest

theorem mem_keys_placeEntry {α : Type} (key other : String) (value : α)
    (entries : List (String × α)) :
    other ∈ (placeEntry key value entries).map Prod.fst ↔
      other = key ∨ other ∈ entries.map Prod.fst := by
  induction entries with
  | nil => simp [placeEntry]
  | cons entry rest ih =>
    by_cases before : key < entry.1
    · simp [placeEntry, before]
    · by_cases same : key = entry.1
      · simp [placeEntry, same]
      · simp only [placeEntry, before, same, if_false, List.map_cons, List.mem_cons, ih]
        constructor
        · rintro (h | h | h) <;> simp [h]
        · rintro (h | h | h) <;> simp [h]

theorem ascending_placeEntry {α : Type} (key : String) (value : α) (entries : List (String × α))
    (ascending : (entries.map Prod.fst).Pairwise (· < ·)) :
    ((placeEntry key value entries).map Prod.fst).Pairwise (· < ·) := by
  induction entries with
  | nil => simp [placeEntry]
  | cons entry rest ih =>
    have parts := List.pairwise_cons.mp ascending
    by_cases before : key < entry.1
    · simp only [placeEntry, before, if_true, List.map_cons]
      refine List.pairwise_cons.mpr ⟨?_, ascending⟩
      intro other member
      rcases List.mem_cons.mp member with h | h
      · exact h ▸ before
      · exact String.lt_trans before (parts.1 other h)
    · by_cases same : key = entry.1
      · simpa [placeEntry, same] using ascending
      · simp only [placeEntry, before, same, if_false, List.map_cons]
        refine List.pairwise_cons.mpr ⟨?_, ih parts.2⟩
        intro other member
        rcases (mem_keys_placeEntry key other value rest).mp member with h | h
        · subst h
          exact Std.lt_of_le_of_ne (Std.not_lt.mp before) (Ne.symm same)
        · exact parts.1 other h

structure SortedEntries (α : Type) where
  toList : List (String × α)
  ascending : (toList.map Prod.fst).Pairwise (· < ·)

namespace SortedEntries
variable {α : Type}

def empty : SortedEntries α := ⟨[], .nil⟩

instance : Inhabited (SortedEntries α) := ⟨empty⟩
instance : EmptyCollection (SortedEntries α) := ⟨empty⟩

def isEmpty (entries : SortedEntries α) : Bool := entries.toList.isEmpty

def insert (entries : SortedEntries α) (key : String) (value : α) : SortedEntries α :=
  ⟨placeEntry key value entries.toList, ascending_placeEntry key value _ entries.ascending⟩

def erase (entries : SortedEntries α) (key : String) : SortedEntries α :=
  ⟨entries.toList.filter fun entry => entry.1 ≠ key,
    entries.ascending.sublist (List.filter_sublist.map Prod.fst)⟩

def ofList (pairs : List (String × α)) : SortedEntries α :=
  pairs.foldl (fun entries pair => entries.insert pair.1 pair.2) empty

@[simp] theorem toList_empty : (empty : SortedEntries α).toList = [] := rfl

@[simp] theorem toList_insert (entries : SortedEntries α) (key : String) (value : α) :
    (entries.insert key value).toList = placeEntry key value entries.toList := rfl

@[simp] theorem toList_erase (entries : SortedEntries α) (key : String) :
    (entries.erase key).toList = entries.toList.filter fun entry => entry.1 ≠ key := rfl

end SortedEntries
end CodeMetrics
