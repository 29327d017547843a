import TypedQuery.Json.Number
import TypedQuery.TypeRef

/-!
Schema documents as they are written.
-/

set_option autoImplicit false

namespace TypedQuery.Sdl

inductive ConstValue where
  | number (written : Json.Decimal)
  | string
  | boolean (value : Bool)
  | null
  | choice (name : String)
  | list (items : List ConstValue)
  | object (fields : List (String × ConstValue))
deriving Inhabited

structure Directive where
  name : String
  arguments : List (String × ConstValue)

structure InputValue where
  name : String
  type : TypeRef
  default : Option ConstValue
  directives : List Directive

structure Field where
  name : String
  arguments : List InputValue
  type : TypeRef
  directives : List Directive

inductive RootKind where
  | query
  | mutation
  | subscription
deriving DecidableEq, Repr

def RootKind.keyword : RootKind → String
  | .query => "query"
  | .mutation => "mutation"
  | .subscription => "subscription"

structure SchemaBlock where
  extend : Bool
  directives : List Directive
  roots : List (RootKind × String)

inductive TypeBody where
  | scalar
  | object (interfaces : List String) (fields : List Field)
  | interface (interfaces : List String) (fields : List Field)
  | union (members : List String)
  | enumeration (values : List (String × List Directive))
  | input (fields : List InputValue)

structure TypeDefinition where
  extend : Bool
  name : String
  directives : List Directive
  body : TypeBody

inductive Definition where
  | schema (block : SchemaBlock)
  | type (definition : TypeDefinition)
  | directive (name : String) (arguments : List InputValue)

abbrev Document := List Definition

inductive SdlFault where
  | grammar
  | missingQueryRoot
  | multipleRoots (root : RootKind)
deriving DecidableEq, Repr

def SdlFault.message : SdlFault → String
  | .grammar => "syntax error"
  | .missingQueryRoot => "schema definition is missing query root"
  | .multipleRoots root => s!"multiple {root.keyword} roots in schema definition"

mutual
def ConstValue.isFinite : ConstValue → Bool
  | .number written => match written.value with
    | .ok _ => true
    | .error _ => false
  | .list items => ConstValue.areFinite items
  | .object fields => ConstValue.fieldsFinite fields
  | .string | .boolean _ | .null | .choice _ => true
def ConstValue.areFinite : List ConstValue → Bool
  | [] => true
  | item :: rest => item.isFinite && ConstValue.areFinite rest
def ConstValue.fieldsFinite : List (String × ConstValue) → Bool
  | [] => true
  | (_, value) :: rest => value.isFinite && ConstValue.fieldsFinite rest
end

def directivesFinite (directives : List Directive) : Bool :=
  directives.all fun directive => directive.arguments.all fun (_, value) => value.isFinite

def InputValue.isFinite (value : InputValue) : Bool :=
  value.default.all ConstValue.isFinite && directivesFinite value.directives

def Field.isFinite (field : Field) : Bool :=
  field.arguments.all InputValue.isFinite && directivesFinite field.directives

def TypeBody.isFinite : TypeBody → Bool
  | .scalar | .union _ => true
  | .object _ fields | .interface _ fields => fields.all Field.isFinite
  | .enumeration values => values.all fun (_, directives) => directivesFinite directives
  | .input fields => fields.all InputValue.isFinite

def repeatedRoot : List (RootKind × String) → List RootKind → Option RootKind
  | [], _ => none
  | (kind, _) :: rest, seen =>
      if seen.contains kind then some kind else repeatedRoot rest (kind :: seen)

def SchemaBlock.root? (block : SchemaBlock) (kind : RootKind) : Option String :=
  block.roots.lookup kind

def SchemaBlock.fault? (block : SchemaBlock) : Option SdlFault :=
  if !directivesFinite block.directives then some .grammar
  else match repeatedRoot block.roots [] with
    | some kind => some (.multipleRoots kind)
    | none =>
        if !block.extend && (block.root? .query).isNone then some .missingQueryRoot else none

def Definition.fault? : Definition → Option SdlFault
  | .schema block => block.fault?
  | .type definition =>
      if directivesFinite definition.directives && definition.body.isFinite then none
      else some .grammar
  | .directive _ arguments => if arguments.all InputValue.isFinite then none else some .grammar

end TypedQuery.Sdl
