import TypedQuery.Json.Basic

/-!
Tables under construction. A table is defined once: by a header, by dotted keys, or only because a
longer key passes through it, in which case a header may still define it.
-/

set_option autoImplicit false

namespace TypedQuery.Toml

inductive Item where
  | value (value : Json)
  | table (implicit dotted : Bool) (entries : List (String × Item))
  | tables (tables : List (List (String × Item)))
deriving Inhabited

abbrev Entries := List (String × Item)

structure Table where
  implicit : Bool
  dotted : Bool
  entries : Entries

namespace Table

def root : Table := ⟨false, false, []⟩

def passed (dotted : Bool) : Table := ⟨true, dotted, []⟩

def item (table : Table) : Item := .table table.implicit table.dotted table.entries

def find? (table : Table) (key : String) : Option Item := table.entries.lookup key

def putEntry (key : String) (item : Item) : Entries → Entries
  | [] => [(key, item)]
  | (k, old) :: rest => if k = key then (k, item) :: rest else (k, old) :: putEntry key item rest

def put (table : Table) (key : String) (item : Item) : Table :=
  { table with entries := putEntry key item table.entries }

/-- Changes the table at the end of a path, making the tables on the way. Dotted keys do not enter a
table that a header defined. -/
def changeAt (dotted : Bool) (change : Table → Option Table) : List String → Table → Option Table
  | [], table => change table
  | key :: path, table =>
      match table.find? key with
      | none => do
          let child ← changeAt dotted change path (passed dotted)
          some (table.put key child.item)
      | some (.value _) => none
      | some (.table implicit wasDotted entries) =>
          if dotted && !implicit then none
          else do
            let child ← changeAt dotted change path ⟨implicit, wasDotted, entries⟩
            some (table.put key child.item)
      | some (.tables []) => none
      | some (.tables (entries :: earlier)) => do
          let child ← changeAt dotted change path ⟨false, false, entries⟩
          some (table.put key (.tables (child.entries :: earlier)))

structure Pair where
  path : List String
  key : String
  value : Json

/-- Enters a pair. A key is given once, and dotted keys only extend tables that dotted keys made. -/
def enter (table : Table) (pair : Pair) : Option Table :=
  table.changeAt true (fun target =>
    if target.dotted = pair.path.isEmpty then none
    else if (target.find? pair.key).isSome then none
    else some (target.put pair.key (.value pair.value))) pair.path

def enterAll (table : Table) (pairs : List Pair) : Option Table := pairs.foldlM enter table

structure Section where
  path : List String
  key : String
  isArray : Bool
  pairs : List Pair

def tableFor? : Option Item → Option Table
  | none => some root
  | some (.table true false entries) => some ⟨false, false, entries⟩
  | some _ => none

def tablesFor? : Option Item → Option (List Entries)
  | none => some []
  | some (.tables tables) => some tables
  | some _ => none

def addSection (table : Table) (part : Section) : Option Table :=
  table.changeAt false (fun parent =>
    if part.isArray then do
      let earlier ← tablesFor? (parent.find? part.key)
      let filled ← root.enterAll part.pairs
      some (parent.put part.key (.tables (filled.entries :: earlier)))
    else do
      let start ← tableFor? (parent.find? part.key)
      let filled ← start.enterAll part.pairs
      some (parent.put part.key filled.item)) part.path

end Table

mutual
def Item.toJson : Item → Json
  | .value content => content
  | .table _ _ members => .obj (Item.entriesToJson members)
  | .tables latest => .arr (Item.tablesToJson latest).reverse
def Item.entriesToJson : List (String × Item) → List (String × Json)
  | [] => []
  | (key, item) :: rest => (key, item.toJson) :: Item.entriesToJson rest
def Item.tablesToJson : List (List (String × Item)) → List Json
  | [] => []
  | entries :: rest => .obj (Item.entriesToJson entries) :: Item.tablesToJson rest
end

def Table.toJson (table : Table) : Json := table.item.toJson

end TypedQuery.Toml
