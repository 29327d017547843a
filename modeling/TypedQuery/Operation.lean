import TypedQuery.Selection
import TypedQuery.TypeRef

/-!
The text of an operation: its kind, its name, its variables and the root field that it selects.
-/

set_option autoImplicit false

namespace TypedQuery

structure VariableDefinition where
  name : String
  type : TypeRef
deriving DecidableEq, Repr

def VariableDefinition.chars (definition : VariableDefinition) : List Char :=
  '$' :: definition.name.toList ++ [':', ' '] ++ definition.type.chars

def definitionsText : List VariableDefinition → List Char
  | [] => []
  | [definition] => definition.chars
  | definition :: rest => definition.chars ++ [',', ' '] ++ definitionsText rest

structure Operation where
  kind : OperationKind
  name : String
  definitions : List VariableDefinition
  root : FieldSelection

namespace Operation

def header (definitions : List VariableDefinition) : List Char :=
  if definitions.isEmpty then [] else ['('] ++ definitionsText definitions ++ [')']

def chars (operation : Operation) : List Char :=
  operation.kind.keyword.toList ++ [' '] ++ operation.name.toList ++ header operation.definitions ++
    [' ', '\x7b', ' '] ++ operation.root.chars ++ [' ', '\x7d']

def render (operation : Operation) : String := String.ofList operation.chars

end Operation

end TypedQuery
