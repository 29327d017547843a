import TypedQuery.Text.CaseMapping

/-!
The host side of the GraphQL boundary: what shape a value of the client program has. Models refer to
each other through keys into a table of descriptors, so they may be recursive.
-/

set_option autoImplicit false

namespace TypedQuery

inductive ScalarKind where
  | int
  | float
  | boolean
  | dateTime
  | string
deriving DecidableEq, Repr

def ScalarKind.graphqlName : ScalarKind → String
  | .int => "Int"
  | .float => "Float"
  | .boolean => "Boolean"
  | .dateTime => "DateTime"
  | .string => "String"

def supportedScalars : List String := ["ID", "String", "Int", "Float", "Boolean", "DateTime"]

def isSupportedScalar (name : String) : Bool := supportedScalars.contains name

inductive Naming where
  | identity
  | lowerCamelCase
deriving DecidableEq, Repr

namespace Naming

/-- Drops underscores, raises what follows one and lowers the first character; `started` says that
something has been written, `raise` that an underscore was dropped since. -/
def camelFrom (started raise : Bool) : List Char → List Char
  | [] => []
  | c :: rest =>
      if c = '_' then camelFrom started started rest
      else if !started then Text.lowerChar c ++ camelFrom true false rest
      else if raise then Text.upperChar c ++ camelFrom true false rest
      else c :: camelFrom true false rest

def apply : Naming → String → String
  | .identity, raw => raw
  | .lowerCamelCase, raw => String.ofList (camelFrom false false raw.toList)

end Naming

structure ModelRef where
  name : String
  key : String
deriving DecidableEq, Repr

inductive HostType where
  | scalar (kind : ScalarKind)
  | model (ref : ModelRef)
  | enumeration (name : String)
  | list (element : HostType)
  | foreign (name : String)
deriving DecidableEq, Repr, Inhabited

namespace HostType

def element : HostType → HostType
  | .list inner => inner.element
  | other => other

def name : HostType → String
  | .scalar kind => kind.graphqlName
  | .model ref => ref.name
  | .enumeration name => name
  | .foreign name => name
  | .list inner => "[" ++ inner.name ++ "]"

def isRepresentable : HostType → Bool
  | .scalar _ | .model _ | .enumeration _ => true
  | .list inner => inner.isRepresentable
  | .foreign _ => false

def isScalar (host : HostType) : Bool :=
  match host.element with
  | .scalar _ => true
  | _ => false

def model? (host : HostType) : Option ModelRef :=
  match host.element with
  | .model ref => some ref
  | _ => none

/-- Equality of host types, in which a model counts by its name. -/
def same : HostType → HostType → Bool
  | .scalar a, .scalar b => a = b
  | .model a, .model b => a.name = b.name
  | .enumeration a, .enumeration b => a = b
  | .foreign a, .foreign b => a = b
  | .list a, .list b => a.same b
  | _, _ => false

end HostType

structure ModelField where
  name : String
  rename : Option String
  type : HostType
deriving DecidableEq, Repr

def ModelField.mappedName (field : ModelField) (naming : Naming) : String :=
  field.rename.getD (naming.apply field.name)

structure ModelDescriptor where
  name : String
  naming : Naming
  fields : List ModelField
deriving DecidableEq, Repr

def ModelDescriptor.field? (descriptor : ModelDescriptor) (mapped : String) : Option ModelField :=
  descriptor.fields.find? fun field => field.mappedName descriptor.naming = mapped

abbrev ModelTable := List (String × ModelDescriptor)

def ModelTable.describe (models : ModelTable) (ref : ModelRef) : ModelDescriptor :=
  (List.lookup ref.key models).getD ⟨ref.name, .identity, []⟩

end TypedQuery
