import TypedQuery.Event
import TypedQuery.Schema

/-!
The comparison of a client's operations with a reference schema. Every problem is collected, in the
order of the visit.
-/

set_option autoImplicit false

namespace TypedQuery

inductive Problem where
  | fieldMissing (field : String)
  | resultType (field : String)
  | argumentMissing (field argument : String)
  | argumentType (field argument : String)
  | noHostType (type : String)
  | foreignType (type : String)
  | reported (text : String)
deriving DecidableEq, Repr

def Problem.message : Problem → String
  | .fieldMissing field => s!"{field} not found in schema."
  | .resultType field => s!"Result type of {field} does not match result type in schema."
  | .argumentMissing field argument =>
      s!"For {field}, couldn't find schema argument matching {argument}."
  | .argumentType field argument => s!"Argument {argument} of {field} does not match type in schema"
  | .noHostType type => s!"Type {type} can't be found as a host type."
  | .foreignType type => s!"Type {type} isn't a GraphQL type."
  | .reported text => text

structure Report where
  problems : List Problem
deriving DecidableEq, Repr

namespace Report

def empty : Report := ⟨[]⟩

def isOk (report : Report) : Bool := report.problems.isEmpty

def push (report : Report) (text : String) : Report := ⟨report.problems ++ [.reported text]⟩

def merge (report : Report) (texts : List String) : Report :=
  ⟨report.problems ++ texts.map .reported⟩

def messages (report : Report) : List String := report.problems.map Problem.message

def failure? (report : Report) : Option Failure :=
  if report.isOk then none
  else some (.validation s!"{report.problems.length} incompatibilities with schema" report.messages)

def toExcept (report : Report) : Except Failure Unit :=
  match report.failure? with
  | none => .ok ()
  | some failure => .error failure

def event (report : Report) (fields : Nat) : Event :=
  if report.isOk then ⟨.info, "schema validation passed", [("fields", toString fields)]⟩
  else ⟨.warn, "schema validation failed",
    [("fields", toString fields), ("failures", toString report.problems.length)]⟩

end Report

abbrev TypeOracle := TypeRef → Schema → List Problem

structure CatalogEntry where
  space : String
  host : HostType
deriving DecidableEq, Repr

abbrev Catalog := List CatalogEntry

namespace Catalog

def register (catalog : Catalog) (space : String) (host : HostType) : Catalog :=
  catalog ++ [⟨space, host⟩]

def resolve (catalog : Catalog) (name : String) (spaces : List String) : Option HostType :=
  (catalog.find? fun entry =>
    entry.host.element.name = name && spaces.contains entry.space).map (·.host)

end Catalog

structure Walk where
  visited : List String
  problems : List Problem

namespace Walk

def isComposite : HostType → Bool
  | .model _ | .foreign _ => true
  | .scalar _ | .enumeration _ | .list _ => false

/-- Looks into a type, entering each model once. A walk that never ends has no result. -/
def visit (models : ModelTable) (schema : Schema) (walk : Walk) (host : HostType) : Option Walk :=
  match host.element with
  | .foreign name => some { walk with problems := walk.problems ++ [.foreignType name] }
  | .model ref =>
      if walk.visited.contains ref.name then some walk
      else
        (models.describe ref).fields.foldlM
          (fun walk field =>
            let element := field.type.element
            if isComposite element && schema.hasType element.name then
              walk |>.visit models schema element
            else some walk)
          { walk with visited := ref.name :: walk.visited }
  | _ => some walk
partial_fixpoint

end Walk

def catalogOracle (models : ModelTable) (catalog : Catalog) (spaces : List String) : TypeOracle :=
  fun type schema =>
    if isSupportedScalar type.leaf then []
    else match catalog.resolve type.leaf spaces with
      | none => [.noHostType type.leaf]
      | some host => ((Walk.visit models schema ⟨[], []⟩ host).map (·.problems)).getD []

def argumentProblems (oracle : TypeOracle) (schema : Schema) (field : String)
    (reference : FieldDescriptor) (argument : ArgumentDescriptor) : List Problem :=
  match reference.argument? argument.name with
  | none => [.argumentMissing field argument.name]
  | some declared =>
      if argument.type ≠ declared.type then [.argumentType field argument.name]
      else oracle argument.type schema

def fieldProblems (oracle : TypeOracle) (schema : Schema) (field : FieldDescriptor) :
    List Problem :=
  match schema.root? field.name with
  | none => [.fieldMissing field.name]
  | some reference =>
      (if field.type ≠ reference.type then [.resultType field.name] else []) ++
        oracle field.type schema ++
        field.arguments.flatMap (argumentProblems oracle schema field.name reference)

def validateField (oracle : TypeOracle) (schema : Schema) (field : FieldDescriptor) : Report :=
  ⟨fieldProblems oracle schema field⟩

def validateAll (oracle : TypeOracle) (schema : Schema) (fields : List FieldDescriptor) : Report :=
  ⟨fields.flatMap (fieldProblems oracle schema)⟩

end TypedQuery
