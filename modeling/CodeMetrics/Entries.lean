/-!
Keyed values in order of insertion, no key twice. Storing under a present key keeps the key's place
and replaces its value; erasing keeps the order of the rest.
-/
namespace CodeMetrics

/-- Stores in place when the key is present, at the end otherwise. -/
def putEntry {α : Type} (key : String) (value : α) : List (String × α) → List (String × α)
  | [] => [(key, value)]
  | entry :: rest =>
    if entry.1 = key then (key, value) :: rest else entry :: putEntry key value rest

def findEntry {α : Type} (key : String) : List (String × α) → Option α
  | [] => none
  | entry :: rest => if entry.1 = key then some entry.2 else findEntry key rest

theorem mem_keys_putEntry {α : Type} (key other : String) (value : α)
    (entries : List (String × α)) :
    other ∈ (putEntry key value entries).map Prod.fst ↔
      other = key ∨ other ∈ entries.map Prod.fst := by
  induction entries with
  | nil => simp [putEntry]
  | cons entry rest ih =>
    by_cases same : entry.1 = key
    · subst same
      simp [putEntry]
    · simp only [putEntry, same, if_false, List.map_cons, List.mem_cons, ih]
      constructor
      · rintro (h | h | h) <;> simp [h]
      · rintro (h | h | h) <;> simp [h]

theorem nodup_keys_putEntry {α : Type} (key : String) (value : α) (entries : List (String × α))
    (distinct : (entries.map Prod.fst).Nodup) :
    ((putEntry key value entries).map Prod.fst).Nodup := by
  induction entries with
  | nil => simp [putEntry]
  | cons entry rest ih =>
    have parts := List.nodup_cons.mp distinct
    by_cases same : entry.1 = key
    · subst same
      simpa [putEntry] using distinct
    · simp only [putEntry, same, if_false, List.map_cons]
      refine List.nodup_cons.mpr ⟨?_, ih parts.2⟩
      rw [mem_keys_putEntry]
      rintro (h | h)
      · exact same h
      · exact parts.1 h

theorem findEntry_putEntry {α : Type} (key other : String) (value : α)
    (entries : List (String × α)) :
    findEntry other (putEntry key value entries) =
      if other = key then some value else findEntry other entries := by
  induction entries with
  | nil => simp [putEntry, findEntry, eq_comm (a := other)]
  | cons entry rest ih =>
    by_cases same : entry.1 = key <;> by_cases asked : other = key <;>
      by_cases here : entry.1 = other <;> simp_all [putEntry, findEntry]

theorem findEntry_eq_none_iff {α : Type} (key : String) (entries : List (String × α)) :
    findEntry key entries = none ↔ key ∉ entries.map Prod.fst := by
  induction entries with
  | nil => simp [findEntry]
  | cons entry rest ih =>
    by_cases same : entry.1 = key
    · simp [findEntry, same]
    · simp only [findEntry, same, if_false, ih, List.map_cons, List.mem_cons, not_or]
      exact ⟨fun h => ⟨fun e => same e.symm, h⟩, fun h => h.2⟩

theorem findEntry_erase {α : Type} (key other : String) (entries : List (String × α)) :
    findEntry other (entries.filter fun entry => entry.1 ≠ key) =
      if other = key then none else findEntry other entries := by
  induction entries with
  | nil => simp [findEntry]
  | cons entry rest ih =>
    by_cases same : entry.1 = key <;> by_cases asked : other = key <;>
      by_cases here : entry.1 = other <;> simp_all [findEntry]

structure Entries (α : Type) where
  toList : List (String × α)
  distinct : (toList.map Prod.fst).Nodup

namespace Entries
variable {α : Type}

def empty : Entries α := ⟨[], List.nodup_nil⟩

instance : Inhabited (Entries α) := ⟨empty⟩
instance : EmptyCollection (Entries α) := ⟨empty⟩

def keys (entries : Entries α) : List String := entries.toList.map Prod.fst

def isEmpty (entries : Entries α) : Bool := entries.toList.isEmpty

def find? (entries : Entries α) (key : String) : Option α := findEntry key entries.toList

def insert (entries : Entries α) (key : String) (value : α) : Entries α :=
  ⟨putEntry key value entries.toList, nodup_keys_putEntry key value _ entries.distinct⟩

def erase (entries : Entries α) (key : String) : Entries α :=
  ⟨entries.toList.filter fun entry => entry.1 ≠ key,
    entries.distinct.sublist (List.filter_sublist.map Prod.fst)⟩

/-- Stores one after the other: of equal keys the first gives the place, the last the value. -/
def ofList (pairs : List (String × α)) : Entries α :=
  pairs.foldl (fun entries pair => entries.insert pair.1 pair.2) empty

@[simp] theorem toList_empty : (empty : Entries α).toList = [] := rfl

@[simp] theorem toList_insert (entries : Entries α) (key : String) (value : α) :
    (entries.insert key value).toList = putEntry key value entries.toList := rfl

@[simp] theorem toList_erase (entries : Entries α) (key : String) :
    (entries.erase key).toList = entries.toList.filter fun entry => entry.1 ≠ key := rfl

theorem find?_insert (entries : Entries α) (key other : String) (value : α) :
    (entries.insert key value).find? other = if other = key then some value else entries.find? other :=
  findEntry_putEntry key other value entries.toList

theorem find?_erase (entries : Entries α) (key other : String) :
    (entries.erase key).find? other = if other = key then none else entries.find? other :=
  findEntry_erase key other entries.toList

theorem find?_eq_none_iff (entries : Entries α) (key : String) :
    entries.find? key = none ↔ key ∉ entries.keys :=
  findEntry_eq_none_iff key entries.toList

end Entries
end CodeMetrics
