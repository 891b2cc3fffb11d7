import CodeMetrics.Toml.Value
/-!
Tables in the making. A table remembers how it came about, because that decides what may still be
added to it: a header may open a table once, a dotted key may extend only what dotted keys made, and
values that are complete in themselves may not be extended at all.
-/
namespace CodeMetrics.Toml

/-- A table was opened by a header, implied by a longer header, or made by dotted keys. -/
inductive Origin where
  | header
  | implied
  | dotted
  deriving DecidableEq

inductive Item where
  | leaf (value : Value)
  | table (origin : Origin) (entries : List (String × Item))
  | rows (tables : List (List (String × Item)))

/-- Changes the table at the end of a path, and makes the tables that are not there yet. In a list
of tables the path leads into the last one. -/
def within (dotted : Bool) (origin : Origin) :
    List String → (Origin → List (String × Item) → Option (List (String × Item))) →
    List (String × Item) → Option (List (String × Item))
  | [], change, entries => change origin entries
  | key :: path, change, entries =>
    match findEntry key entries with
    | none =>
      let made := if dotted then Origin.dotted else Origin.implied
      (within dotted made path change []).map fun inner =>
        putEntry key (.table made inner) entries
    | some (.leaf _) => none
    | some (.table origin inner) =>
      if dotted && origin == .header then none
      else (within dotted origin path change inner).map fun inner =>
        putEntry key (.table origin inner) entries
    | some (.rows tables) =>
      (within dotted .header path change (tables.getLast?.getD [])).map fun inner =>
        putEntry key (.rows (tables.dropLast ++ [inner])) entries

def splitPath (path : List String) : List String × String := (path.dropLast, path.getLast?.getD "")

def reach : List String → List (String × Item) → Option (List (String × Item))
  | [], entries => some entries
  | key :: path, entries =>
    match findEntry key entries with
    | none => some []
    | some (.leaf _) => none
    | some (.table _ inner) => reach path inner
    | some (.rows tables) => reach path (tables.getLast?.getD [])

/-- What the table of a header holds before the pairs below it: nothing, or what longer headers put
there. -/
def openTable (path : List String) (root : List (String × Item)) : Option (List (String × Item)) :=
  let (above, key) := splitPath path
  (reach above root).bind fun entries =>
    match findEntry key entries with
    | none => some []
    | some (.table .implied inner) => some inner
    | some _ => none

def closeTable (path : List String) (table root : List (String × Item)) :
    Option (List (String × Item)) :=
  let (above, key) := splitPath path
  within false .header above (fun _ entries => some (putEntry key (.table .header table) entries))
    root

def addRow (path : List String) (row root : List (String × Item)) :
    Option (List (String × Item)) :=
  let (above, key) := splitPath path
  within false .header above (fun _ entries =>
    match findEntry key entries with
    | none => some (putEntry key (.rows [row]) entries)
    | some (.rows tables) => some (putEntry key (.rows (tables ++ [row])) entries)
    | some _ => none) root

/-- Stores a value under a key that is new. A dotted key stores only in what dotted keys made. -/
def assign (path : List String) (value : Value) (entries : List (String × Item)) :
    Option (List (String × Item)) :=
  let (above, key) := splitPath path
  within true .header above (fun parent entries =>
    if (parent == .dotted) == above.isEmpty then none
    else if (findEntry key entries).isSome then none
    else some (putEntry key (.leaf value) entries)) entries

def sortEntries (entries : List (String × Value)) : List (String × Value) :=
  (SortedEntries.ofList entries).toList

mutual
def Item.value : Item → Value
  | .leaf value => value
  | .table _ entries => .table (sortEntries (itemValues entries))
  | .rows tables => .array (rowValues tables)

def itemValues : List (String × Item) → List (String × Value)
  | [] => []
  | (key, item) :: rest => (key, item.value) :: itemValues rest

def rowValues : List (List (String × Item)) → List Value
  | [] => []
  | entries :: rest => .table (sortEntries (itemValues entries)) :: rowValues rest
end

def tableOf (entries : List (String × Item)) : List (String × Value) :=
  sortEntries (itemValues entries)

end CodeMetrics.Toml
