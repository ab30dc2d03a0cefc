namespace PortableSql

/-- A finite map as a list of entries in ascending order of their keys. -/
abbrev SortedMap (α : Type) := List (String × α)

namespace SortedMap

def insert {α : Type} (key : String) (value : α) : SortedMap α → SortedMap α
  | [] => [(key, value)]
  | (k, v) :: rest =>
    if key = k then (key, value) :: rest
    else if key < k then (key, value) :: (k, v) :: rest
    else (k, v) :: insert key value rest

def find? {α : Type} (key : String) : SortedMap α → Option α
  | [] => none
  | (k, v) :: rest => if key = k then some v else find? key rest

/-- Of two entries with one key the later stays. -/
def ofList {α : Type} (entries : List (String × α)) : SortedMap α :=
  entries.foldl (fun m e => insert e.1 e.2 m) []

def keys {α : Type} (entries : SortedMap α) : List String := entries.map (·.1)

end SortedMap

end PortableSql
