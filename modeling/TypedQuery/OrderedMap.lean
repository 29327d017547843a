/-!
Maps from texts, as lists of entries in increasing order of their keys.
-/

set_option autoImplicit false

namespace TypedQuery

abbrev OrderedMap (α : Type) := List (String × α)

namespace OrderedMap

variable {α : Type}

def insert (key : String) (value : α) : OrderedMap α → OrderedMap α
  | [] => [(key, value)]
  | (k, v) :: rest =>
      if key < k then (key, value) :: (k, v) :: rest
      else if k = key then (key, value) :: rest
      else (k, v) :: insert key value rest

def get? (key : String) (map : OrderedMap α) : Option α := List.lookup key map

def ofList (entries : List (String × α)) : OrderedMap α :=
  entries.foldl (fun map (key, value) => map.insert key value) []

end OrderedMap

end TypedQuery
