import TypedQuery.Host

/-!
Selection sets: what a request asks of a composite value. `synthesize` unfolds a model down to a
depth, which is all that bounds a recursive one.
-/

set_option autoImplicit false

namespace TypedQuery

structure ArgumentBinding where
  name : String
  variableName : String
deriving DecidableEq, Repr

inductive FieldSelection where
  | mk (name : String) (arguments : List ArgumentBinding) (selection : List FieldSelection)
deriving Inhabited

abbrev SelectionSet := List FieldSelection

namespace FieldSelection

def name : FieldSelection → String
  | .mk name _ _ => name

def arguments : FieldSelection → List ArgumentBinding
  | .mk _ arguments _ => arguments

def selection : FieldSelection → SelectionSet
  | .mk _ _ selection => selection

end FieldSelection

mutual
def FieldSelection.depth : FieldSelection → Nat
  | .mk _ _ selection => SelectionSet.depth selection + 1
def SelectionSet.depth : List FieldSelection → Nat
  | [] => 0
  | field :: rest => max field.depth (SelectionSet.depth rest)
end

def bindingsText : List ArgumentBinding → List Char
  | [] => []
  | [binding] => binding.name.toList ++ [':', ' ', '$'] ++ binding.variableName.toList
  | binding :: rest =>
      binding.name.toList ++ [':', ' ', '$'] ++ binding.variableName.toList ++ [',', ' '] ++
        bindingsText rest

def argumentsText (arguments : List ArgumentBinding) : List Char :=
  if arguments.isEmpty then [] else ['('] ++ bindingsText arguments ++ [')']

mutual
def FieldSelection.chars : FieldSelection → List Char
  | .mk name arguments [] => name.toList ++ argumentsText arguments
  | .mk name arguments (field :: rest) =>
      name.toList ++ argumentsText arguments ++ [' ', '\x7b', ' '] ++ field.chars ++
        SelectionSet.spaced rest ++ [' ', '\x7d']
def SelectionSet.spaced : List FieldSelection → List Char
  | [] => []
  | field :: rest => ' ' :: field.chars ++ SelectionSet.spaced rest
end

def SelectionSet.chars (selection : SelectionSet) : List Char :=
  if selection.isEmpty then [] else ['\x7b'] ++ SelectionSet.spaced selection ++ [' ', '\x7d']

def defaultDepth : Nat := 3

def synthesize (models : ModelTable) : HostType → Nat → SelectionSet
  | _, 0 => []
  | host, depth + 1 =>
      match host.model? with
      | none => []
      | some ref =>
          let descriptor := models.describe ref
          (descriptor.fields.filter fun field => field.type.isRepresentable).map fun field =>
            .mk (field.mappedName descriptor.naming) []
              (if field.type.model?.isSome then synthesize models field.type depth else [])

end TypedQuery
