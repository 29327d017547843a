import TypedQuery.Failure
import TypedQuery.OrderedMap
import TypedQuery.Sdl.Grammar

/-!
A schema, as far as a client needs it: the fields of its roots and the kinds of its types.
-/

set_option autoImplicit false

namespace TypedQuery

inductive TypeKind where
  | scalar
  | object
  | interface
  | union
  | enumeration
  | input
deriving DecidableEq, Repr

structure Schema where
  queries : List FieldDescriptor
  mutations : List FieldDescriptor
  types : OrderedMap TypeKind
deriving DecidableEq

namespace Sdl

def TypeBody.kind : TypeBody → TypeKind
  | .scalar => .scalar
  | .object _ _ => .object
  | .interface _ _ => .interface
  | .union _ => .union
  | .enumeration _ => .enumeration
  | .input _ => .input

def InputValue.descriptor (value : InputValue) : ArgumentDescriptor := ⟨value.name, value.type⟩

def Field.descriptor (field : Field) : FieldDescriptor :=
  ⟨field.name, field.type, field.arguments.map InputValue.descriptor⟩

namespace Document

def objectFields (name : String) (document : Document) : List Field :=
  document.flatMap fun definition => match definition with
    | .type ⟨_, declared, _, .object _ fields⟩ => if declared = name then fields else []
    | _ => []

def root (kind : RootKind) (default : String) (document : Document) : String :=
  document.foldl (fun found definition => match definition with
    | .schema block => (block.root? kind).getD found
    | _ => found) default

def queryRoot (document : Document) : String := document.root .query "Query"
def mutationRoot (document : Document) : String := document.root .mutation "Mutation"

def typeEntry? : Definition → Option (String × TypeKind)
  | .type definition => some (definition.name, definition.body.kind)
  | _ => none

end Document

end Sdl

namespace Schema

def builtinScalars : List String := ["ID", "String", "Int", "Float", "Boolean"]

/-- The schema of a document. A type that is both roots gives its fields to the query root. -/
def ofDocument (document : Sdl.Document) : Schema :=
  let fieldsOf := fun name => (document.objectFields name).map Sdl.Field.descriptor
  { queries := fieldsOf document.queryRoot
    mutations :=
      if document.mutationRoot = document.queryRoot then [] else fieldsOf document.mutationRoot
    types := OrderedMap.ofList
      (builtinScalars.map (·, TypeKind.scalar) ++ document.filterMap Sdl.Document.typeEntry?) }

def parse (text : String) : Except SchemaError Schema :=
  match Sdl.parseDocument text with
  | .ok document => .ok (ofDocument document)
  | .error fault => .error ⟨fault.message⟩

def query? (schema : Schema) (name : String) : Option FieldDescriptor :=
  schema.queries.find? (·.name = name)

def mutation? (schema : Schema) (name : String) : Option FieldDescriptor :=
  schema.mutations.find? (·.name = name)

def root? (schema : Schema) (name : String) : Option FieldDescriptor :=
  (schema.query? name).or (schema.mutation? name)

def hasType (schema : Schema) (name : String) : Bool := (schema.types.get? name).isSome

def kind? (schema : Schema) (name : String) : Option TypeKind := schema.types.get? name

end Schema

end TypedQuery
