import Mathlib.Algebra.Ring.Nat
import TypedQuery.Proofs.Validation

/-!
What a report consists of. A comparison visits one place after the other: each field, its result if
the schema has the field, and its arguments. The report is what these places have to say, in the order
of the visit, and what a place says depends on nothing but that place.
-/

set_option autoImplicit false

namespace TypedQuery

-- The arguments of a field are looked up in the root field of its name. Where there is none, nothing is
-- said about them. Of several declarations with one name the first counts.
def argumentMessages (oracle : TypeOracle) (schema : Schema) (field : String) (argument : ArgumentDescriptor) : List String :=
  match schema.root? field with
  | none => []
  | some reference => match reference.argument? argument.name with
    | none => [s!"For {field}, couldn't find schema argument matching {argument.name}."]
    | some declared =>
        if argument.type = declared.type then (oracle argument.type schema).map Problem.message
        else [s!"Argument {argument.name} of {field} does not match type in schema"]

def resultMessages (oracle : TypeOracle) (schema : Schema) (field : String) (type : TypeRef) : List String :=
  match schema.root? field with
  | none => [s!"{field} not found in schema."]
  | some reference =>
      (if type = reference.type then [] else [s!"Result type of {field} does not match result type in schema."]) ++
        (oracle type schema).map Problem.message

def fieldMessages (oracle : TypeOracle) (schema : Schema) (field : FieldDescriptor) : List String :=
  resultMessages oracle schema field.name field.type ++
    field.arguments.flatMap (argumentMessages oracle schema field.name)

def argumentFaults (oracle : TypeOracle) (schema : Schema) (reference : FieldDescriptor) (argument : ArgumentDescriptor) : Nat :=
  match reference.argument? argument.name with
  | none => 1
  | some declared => if argument.type = declared.type then (oracle argument.type schema).length else 1

def fieldFaults (oracle : TypeOracle) (schema : Schema) (field : FieldDescriptor) : Nat :=
  match schema.root? field.name with
  | none => 1
  | some reference =>
      (if field.type = reference.type then 0 else 1) + (oracle field.type schema).length +
        (field.arguments.map (argumentFaults oracle schema reference)).sum

variable (oracle : TypeOracle) (schema : Schema)

theorem argument_problems_messages (field : String) (reference : FieldDescriptor) (argument : ArgumentDescriptor)
    (found : schema.root? field = some reference) :
    (argumentProblems oracle schema field reference argument).map Problem.message =
      argumentMessages oracle schema field argument := by
  unfold argumentProblems argumentMessages
  rw [found]
  dsimp only
  cases reference.argument? argument.name with
  | none => rfl
  | some declared =>
      by_cases same : argument.type = declared.type
      · simp only [ne_eq, same, not_true_eq_false, if_false, if_true]
      · simp only [ne_eq, same, not_false_eq_true, if_true, if_false]
        rfl

theorem missing_field_messages (field : FieldDescriptor) (missing : schema.root? field.name = none) :
    fieldMessages oracle schema field = [s!"{field.name} not found in schema."] := by
  have unasked : field.arguments.flatMap (argumentMessages oracle schema field.name) = [] := by
    rw [List.flatMap_eq_nil_iff]
    intro argument _
    rw [argumentMessages, missing]
  rw [fieldMessages, resultMessages, missing, unasked, List.append_nil]

theorem field_problems_messages (field : FieldDescriptor) :
    (fieldProblems oracle schema field).map Problem.message = fieldMessages oracle schema field := by
  unfold fieldProblems
  cases found : schema.root? field.name with
  | none =>
      rw [missing_field_messages oracle schema field found]
      rfl
  | some reference =>
      rw [fieldMessages, resultMessages, found]
      have each (argument : ArgumentDescriptor) :=
        argument_problems_messages oracle schema field.name reference argument found
      simp only [List.map_append, List.map_flatMap, each]
      by_cases same : field.type = reference.type
      · simp only [ne_eq, same, not_true_eq_false, if_false, if_true, List.map_nil]
      · simp only [ne_eq, same, not_false_eq_true, if_true, if_false]
        rfl

theorem report_messages (fields : List FieldDescriptor) :
    (validateAll oracle schema fields).messages = fields.flatMap (fieldMessages oracle schema) := by
  rw [Report.messages, validateAll, List.map_flatMap]
  simp only [field_problems_messages]

theorem argument_messages_length (field : String) (reference : FieldDescriptor) (argument : ArgumentDescriptor)
    (found : schema.root? field = some reference) :
    (argumentMessages oracle schema field argument).length = argumentFaults oracle schema reference argument := by
  unfold argumentMessages argumentFaults
  rw [found]
  dsimp only
  cases reference.argument? argument.name with
  | none => rfl
  | some declared =>
      dsimp only
      split
      · rw [List.length_map]
      · rfl

theorem field_messages_length (field : FieldDescriptor) :
    (fieldMessages oracle schema field).length = fieldFaults oracle schema field := by
  unfold fieldFaults
  cases found : schema.root? field.name with
  | none =>
      rw [missing_field_messages oracle schema field found]
      rfl
  | some reference =>
      rw [fieldMessages, resultMessages, found]
      have each (argument : ArgumentDescriptor) :=
        argument_messages_length oracle schema field.name reference argument found
      simp only [List.length_append, List.length_map, List.length_flatMap, each]
      split <;> rfl

theorem messages_around (before after : List FieldDescriptor) (field : FieldDescriptor)
    (left right : List ArgumentDescriptor) (argument : ArgumentDescriptor) :
    (validateAll oracle schema (before ++ { field with arguments := left ++ argument :: right } :: after)).messages =
      (validateAll oracle schema (before ++ [{ field with arguments := left }])).messages ++
        argumentMessages oracle schema field.name argument ++
        (right.flatMap (argumentMessages oracle schema field.name) ++ (validateAll oracle schema after).messages) := by
  simp only [report_messages, fieldMessages, List.flatMap_append, List.flatMap_cons, List.flatMap_nil, List.append_assoc,
    List.append_nil]

theorem report_exact (fields : List FieldDescriptor) :
    ((validateAll oracle schema fields).isOk ↔ ∀ field ∈ fields, ∃ reference, schema.root? field.name = some reference ∧
      reference.type = field.type ∧ oracle field.type schema = [] ∧
      ∀ argument ∈ field.arguments, ∃ declared, reference.argument? argument.name = some declared ∧
        declared.type = argument.type ∧ oracle argument.type schema = []) ∧
    (validateAll oracle schema fields).messages = fields.flatMap (fieldMessages oracle schema) ∧
    (validateAll oracle schema fields).messages.length = (fields.map (fieldFaults oracle schema)).sum ∧
    ∀ before field after left argument right,
      fields = before ++ field :: after → field.arguments = left ++ argument :: right →
        ∃ front back, (validateAll oracle schema fields).messages =
            front ++ argumentMessages oracle schema field.name argument ++ back ∧
          ∀ type, (validateAll oracle schema
              (before ++ { field with arguments := left ++ { argument with type := type } :: right } :: after)).messages =
            front ++ argumentMessages oracle schema field.name { argument with type := type } ++ back := by
  refine ⟨?_, report_messages oracle schema fields, ?_, ?_⟩
  · rw [Report.isOk, List.isEmpty_iff, validateAll, List.flatMap_eq_nil_iff]
    refine forall₂_congr fun field _ => ?_
    rw [field_problems_none]
    constructor
    · rintro ⟨⟨reference, found, covers⟩, silent, each⟩
      refine ⟨reference, found, covers.type, silent, ?_⟩
      intro argument member
      obtain ⟨declared, looked, same⟩ := covers.arguments argument member
      exact ⟨declared, looked, same, each argument member⟩
    · rintro ⟨reference, found, type, silent, each⟩
      refine ⟨⟨reference, found, type, ?_⟩, silent, ?_⟩
      · intro argument member
        obtain ⟨declared, looked, same, _⟩ := each argument member
        exact ⟨declared, looked, same⟩
      · intro argument member
        obtain ⟨_, _, _, quiet⟩ := each argument member
        exact quiet
  · rw [report_messages, List.length_flatMap]
    simp only [field_messages_length]
  · rintro before ⟨name, type, arguments⟩ after left argument right rfl split
    obtain rfl : arguments = left ++ argument :: right := split
    have around := messages_around oracle schema before after ⟨name, type, []⟩ left right
    exact ⟨_, _, around argument, fun other => around { argument with type := other }⟩

def doubtingOracle : TypeOracle := fun type _ =>
  if type.leaf = "Boolean" then [.noHostType "Boolean", .reported "Boolean is no model."] else []

def unlistedField : FieldDescriptor := ⟨"list", .named "Int", []⟩

def carelessDrop : FieldDescriptor :=
  ⟨"drop", .nonNull (.named "Boolean"),
    [⟨"id", .nonNull (.named "ID")⟩, ⟨"hint", .named "Int"⟩, ⟨"size", .named "Int"⟩]⟩

theorem careless_drop_reported :
    (validateAll doubtingOracle wideSchema [unlistedField, carelessDrop]).messages.length = 6 ∧
      ∃ front back, (validateAll doubtingOracle wideSchema [unlistedField, carelessDrop]).messages =
          front ++ ["Argument hint of drop does not match type in schema"] ++ back ∧
        (validateAll doubtingOracle wideSchema [unlistedField, { carelessDrop with
          arguments := [⟨"id", .nonNull (.named "ID")⟩, ⟨"hint", .named "String"⟩, ⟨"size", .named "Int"⟩] }]).messages =
          front ++ [] ++ back := by
  obtain ⟨_, _, count, apart⟩ := report_exact doubtingOracle wideSchema [unlistedField, carelessDrop]
  obtain ⟨front, back, whole, other⟩ := apart [unlistedField] carelessDrop [] [⟨"id", .nonNull (.named "ID")⟩]
    ⟨"hint", .named "Int"⟩ [⟨"size", .named "Int"⟩] rfl rfl
  refine ⟨count.trans (by decide), front, back, ?_, ?_⟩
  · rw [whole]
    rfl
  · exact other (.named "String")

end TypedQuery
