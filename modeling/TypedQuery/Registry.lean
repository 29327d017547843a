import TypedQuery.Event
import TypedQuery.Schema

/-!
The operations that a client may call, by name. Of two with one name the later one counts, and a
query hides a mutation.
-/

set_option autoImplicit false

namespace TypedQuery

structure Registry where
  queries : OrderedMap FieldDescriptor
  mutations : OrderedMap FieldDescriptor
deriving DecidableEq

namespace Registry

def empty : Registry := ⟨[], []⟩

def insertAll (map : OrderedMap FieldDescriptor) (fields : List FieldDescriptor) :
    OrderedMap FieldDescriptor :=
  fields.foldl (fun map field => map.insert field.name field) map

def merge (registry : Registry) (schema : Schema) : Registry :=
  ⟨insertAll registry.queries schema.queries, insertAll registry.mutations schema.mutations⟩

def load (registry : Registry) (text : String) : Except SchemaError Unit × Registry :=
  match Schema.parse text with
  | .ok schema => (.ok (), registry.merge schema)
  | .error error => (.error error, registry)

def loadAll (registry : Registry) : List String → Except SchemaError Unit × Registry
  | [] => (.ok (), registry)
  | text :: rest =>
      let loaded := registry.load text
      if loaded.1.isOk then loaded.2.loadAll rest else loaded

def ofSchema (text : String) : Except SchemaError Registry :=
  let (loaded, registry) := empty.load text
  loaded.map fun () => registry

def lookup (registry : Registry) (name : String) : Option (FieldDescriptor × OperationKind) :=
  match registry.queries.get? name with
  | some field => some (field, .query)
  | none => (registry.mutations.get? name).map fun field => (field, .mutation)

def fields (registry : Registry) : List (FieldDescriptor × OperationKind) :=
  registry.queries.map (fun (_, field) => (field, .query)) ++
    registry.mutations.map (fun (_, field) => (field, .mutation))

def size (registry : Registry) : Nat := registry.queries.length + registry.mutations.length

def isEmpty (registry : Registry) : Bool := registry.size = 0

def event (registry : Registry) : Event :=
  ⟨.debug, "field registry loaded",
    [("queries", toString registry.queries.length),
      ("mutations", toString registry.mutations.length)]⟩

end Registry

end TypedQuery
