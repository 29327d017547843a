/-!
GraphQL type references and the declarations of root fields.
-/

set_option autoImplicit false

namespace TypedQuery

/-- A type as schema text writes it. `nonNull` may be doubled here; the constructor functions never
double it. -/
inductive TypeRef where
  | named (name : String)
  | list (element : TypeRef)
  | nonNull (inner : TypeRef)
deriving DecidableEq, Repr, Inhabited

namespace TypeRef

def required : TypeRef → TypeRef
  | .nonNull inner => .nonNull inner
  | other => .nonNull other

def leaf : TypeRef → String
  | .named name => name
  | .list element => element.leaf
  | .nonNull inner => inner.leaf

def isList : TypeRef → Bool
  | .named _ => false
  | .list _ => true
  | .nonNull inner => inner.isList

def isNonNull : TypeRef → Bool
  | .nonNull _ => true
  | _ => false

def nullable : TypeRef → TypeRef
  | .nonNull inner => inner
  | other => other

def chars : TypeRef → List Char
  | .named name => name.toList
  | .list element => ['['] ++ element.chars ++ [']']
  | .nonNull inner => inner.chars ++ ['!']

def text (type : TypeRef) : String := String.ofList type.chars

end TypeRef

structure ArgumentDescriptor where
  name : String
  type : TypeRef
deriving DecidableEq, Repr

structure FieldDescriptor where
  name : String
  type : TypeRef
  arguments : List ArgumentDescriptor
deriving DecidableEq, Repr

def FieldDescriptor.argument? (field : FieldDescriptor) (name : String) :
    Option ArgumentDescriptor :=
  field.arguments.find? (·.name = name)

inductive OperationKind where
  | query
  | mutation
deriving DecidableEq, Repr

def OperationKind.keyword : OperationKind → String
  | .query => "query"
  | .mutation => "mutation"

end TypedQuery
