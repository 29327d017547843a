import TypedQuery.Proofs.Definitions
import TypedQuery.Proofs.Lookup
import TypedQuery.Proofs.Roots

/-!
Root fields written out as blocks of a schema text, between other definitions, and read back: the same
fields in the same order, however they were spread over blocks and whatever stands between these.
-/

set_option autoImplicit false

namespace TypedQuery

open Sdl (Token Spells Each)

def OperationKind.rootType : OperationKind → String
  | .query => "Query"
  | .mutation => "Mutation"

def ArgumentDescriptor.tokens (argument : ArgumentDescriptor) : List Token :=
  [.word argument.name.toList, .mark ':', .word argument.type.chars]

def argumentTokens (arguments : List ArgumentDescriptor) : List Token :=
  if arguments.isEmpty then [] else .mark '(' :: (arguments.flatMap ArgumentDescriptor.tokens ++ [.mark ')'])

def FieldDescriptor.tokens (field : FieldDescriptor) : List Token :=
  .word field.name.toList :: (argumentTokens field.arguments ++ [.mark ':', .word field.type.chars])

def blockTokens (kind : OperationKind) (extend : Bool) (fields : List FieldDescriptor) : List Token :=
  (if extend then [.word "extend".toList] else []) ++
    .word "type".toList :: .word kind.rootType.toList :: .mark '\x7b' ::
      (fields.flatMap FieldDescriptor.tokens ++ [.mark '\x7d'])

def ArgumentDescriptor.chars (argument : ArgumentDescriptor) : List Char :=
  argument.name.toList ++ ':' :: ' ' :: argument.type.chars

def FieldDescriptor.chars (field : FieldDescriptor) : List Char :=
  field.name.toList ++ (parenthesized ArgumentDescriptor.chars field.arguments ++ ':' :: ' ' :: field.type.chars)

def blockChars (kind : OperationKind) (extend : Bool) (fields : List FieldDescriptor) : List Char :=
  (if extend then "extend ".toList else []) ++ ("type ".toList ++ (kind.rootType.toList ++
    ' ' :: '\x7b' :: (fields.flatMap (fun field => ' ' :: field.chars) ++ [' ', '\x7d', '\n'])))

inductive Part where
  | block (kind : OperationKind) (extend : Bool) (fields : List FieldDescriptor)
  | other (definition : Sdl.Definition)

inductive Part.Written : Part → List Token → List Token → Prop
  | block (kind : OperationKind) (extend : Bool) (fields : List FieldDescriptor) (more : List Token) :
      Part.Written (.block kind extend fields) (blockTokens kind extend fields ++ more) more
  | other (definition : Sdl.Definition) (before after : List Token) : definition.Written before after →
      Part.Written (.other definition) before after

structure ArgumentDescriptor.Proper (argument : ArgumentDescriptor) : Prop where
  name : Sdl.isName argument.name
  type : argument.type.Proper

structure FieldDescriptor.Proper (field : FieldDescriptor) : Prop where
  name : Sdl.isName field.name
  arguments : ∀ argument ∈ field.arguments, argument.Proper
  type : field.type.Proper

instance (argument : ArgumentDescriptor) : Decidable argument.Proper :=
  decidable_of_iff (_ ∧ _) ⟨fun ⟨name, type⟩ => ⟨name, type⟩, fun ⟨name, type⟩ => ⟨name, type⟩⟩

instance (field : FieldDescriptor) : Decidable field.Proper :=
  decidable_of_iff (_ ∧ _ ∧ _)
    ⟨fun ⟨name, arguments, type⟩ => ⟨name, arguments, type⟩,
      fun ⟨name, arguments, type⟩ => ⟨name, arguments, type⟩⟩

def Sdl.Definition.object? : Sdl.Definition → Option String
  | .type ⟨_, name, _, .object _ _⟩ => some name
  | _ => none

-- A block has fields. Another definition has numbers in range and is no object type of a root's name.
def Part.Proper : Part → Prop
  | .block _ _ fields => fields ≠ [] ∧ ∀ field ∈ fields, field.Proper
  | .other definition => definition.fault? = none ∧ ∀ kind : OperationKind, definition.object? ≠ some kind.rootType

def Part.fieldsOf (kind : OperationKind) : Part → List FieldDescriptor
  | .block root _ fields => if root = kind then fields else []
  | .other _ => []

def Part.typeName? : Part → Option String
  | .block kind _ _ => some kind.rootType
  | .other (.type definition) => some definition.name
  | .other (.schema _) | .other (.directive _ _) => none

def rootFields (kind : OperationKind) (parts : List Part) : List FieldDescriptor := parts.flatMap (Part.fieldsOf kind)

def ArgumentDescriptor.input (argument : ArgumentDescriptor) : Sdl.InputValue := ⟨argument.name, argument.type, none, []⟩

def FieldDescriptor.field (field : FieldDescriptor) : Sdl.Field :=
  ⟨field.name, field.arguments.map ArgumentDescriptor.input, field.type, []⟩

def Part.definition : Part → Sdl.Definition
  | .block kind extend fields => .type ⟨extend, kind.rootType, [], .object [] (fields.map FieldDescriptor.field)⟩
  | .other definition => definition

theorem input_written (argument : ArgumentDescriptor) (proper : argument.Proper) (more : List Token) :
    argument.input.Written (argument.tokens ++ more) more :=
  .value _ _ _ _ _ more more _ (.none _) proper.name proper.type (.none _) (.nil _)

theorem inputs_written (arguments : List ArgumentDescriptor) (proper : ∀ argument ∈ arguments, argument.Proper)
    (more : List Token) :
    Each Sdl.InputValue.Written (arguments.map ArgumentDescriptor.input)
      (arguments.flatMap ArgumentDescriptor.tokens ++ more) more := by
  induction arguments with
  | nil => exact .nil _
  | cons argument rest ih =>
      rw [List.forall_mem_cons] at proper
      rw [List.flatMap_cons, List.append_assoc]
      exact .cons _ _ _ _ _ (input_written argument proper.1 _) (ih proper.2)

theorem arguments_written (arguments : List ArgumentDescriptor) (proper : ∀ argument ∈ arguments, argument.Proper)
    (more : List Token) :
    Sdl.Enclosed '(' ')' Sdl.InputValue.Written (arguments.map ArgumentDescriptor.input)
      (argumentTokens arguments ++ more) more := by
  cases arguments with
  | nil => exact .none _
  | cons argument rest =>
      have inputs := inputs_written (argument :: rest) proper (.mark ')' :: more)
      have tokens : argumentTokens (argument :: rest) ++ more =
          .mark '(' :: ((argument :: rest).flatMap ArgumentDescriptor.tokens ++ .mark ')' :: more) := by
        simp [argumentTokens]
      rw [tokens]
      exact .some _ _ _ (by simp) inputs

theorem field_written (field : FieldDescriptor) (proper : field.Proper) (more : List Token) :
    field.field.Written (field.tokens ++ more) more := by
  have arguments := arguments_written field.arguments proper.arguments (.mark ':' :: .word field.type.chars :: more)
  have tokens : field.tokens ++ more =
      .word field.name.toList :: (argumentTokens field.arguments ++ .mark ':' :: .word field.type.chars :: more) := by
    simp [FieldDescriptor.tokens]
  rw [tokens]
  exact .field _ _ _ _ _ _ more _ (.none _) proper.name arguments proper.type (.nil _)

theorem fields_written (fields : List FieldDescriptor) (proper : ∀ field ∈ fields, field.Proper) (more : List Token) :
    Each Sdl.Field.Written (fields.map FieldDescriptor.field) (fields.flatMap FieldDescriptor.tokens ++ more) more := by
  induction fields with
  | nil => exact .nil _
  | cons field rest ih =>
      rw [List.forall_mem_cons] at proper
      rw [List.flatMap_cons, List.append_assoc]
      exact .cons _ _ _ _ _ (field_written field proper.1 _) (ih proper.2)

theorem root_named_type (kind : OperationKind) : Sdl.isName kind.rootType := by
  cases kind <;> decide

theorem block_written (kind : OperationKind) (extend : Bool) (fields : List FieldDescriptor) (nonempty : fields ≠ [])
    (proper : ∀ field ∈ fields, field.Proper) (more : List Token) :
    (Part.block kind extend fields).definition.Written (blockTokens kind extend fields ++ more) more := by
  have inside : fields.map FieldDescriptor.field ≠ [] := by simpa using nonempty
  have each := fields_written fields proper (.mark '\x7d' :: more)
  have body : Sdl.TypeBody.Written (.object [] (fields.map FieldDescriptor.field)) []
      (.mark '\x7b' :: (fields.flatMap FieldDescriptor.tokens ++ .mark '\x7d' :: more)) more :=
    .object _ _ _ _ _ _ _ (.none _) (.nil _) (.some _ _ _ inside each)
  refine .type _ _ _ (.type _ _ _ _ _ _ _ ?_ (root_named_type kind) body fun _ => .inr (.inr inside))
  rw [blockTokens, List.append_assoc, List.cons_append, List.cons_append, List.cons_append, List.append_assoc]
  cases extend with
  | false => exact .definition _ _ (.none _)
  | true => exact .extension _

theorem parts_written (parts : List Part) (proper : ∀ part ∈ parts, part.Proper) (before after : List Token)
    (written : Each Part.Written parts before after) :
    Each Sdl.Definition.Written (parts.map Part.definition) before after := by
  induction written with
  | nil tokens => exact .nil tokens
  | cons part rest before middle after first _ ih =>
      rw [List.forall_mem_cons] at proper
      refine .cons _ _ _ middle _ ?_ (ih proper.2)
      cases first with
      | block kind extend fields => exact block_written kind extend fields proper.1.1 proper.1.2 middle
      | other definition _ _ written => exact written

theorem field_descriptor (field : FieldDescriptor) : field.field.descriptor = field := by
  have arguments : (field.arguments.map ArgumentDescriptor.input).map Sdl.InputValue.descriptor = field.arguments := by
    rw [List.map_map]
    exact List.map_id _
  rw [Sdl.Field.descriptor, FieldDescriptor.field, arguments]

theorem field_finite (field : FieldDescriptor) : field.field.isFinite := by
  simp [FieldDescriptor.field, Sdl.Field.isFinite, ArgumentDescriptor.input, Sdl.InputValue.isFinite, Sdl.directivesFinite]

theorem part_sound (part : Part) (proper : part.Proper) : part.definition.fault? = none := by
  cases part with
  | block kind extend fields =>
      have finite : (fields.map FieldDescriptor.field).all Sdl.Field.isFinite := by simp [field_finite]
      simp [Part.definition, Sdl.Definition.fault?, Sdl.directivesFinite, Sdl.TypeBody.isFinite, finite]
  | other definition => exact proper.1

theorem unblocked (parts : List Part) (before after : List Token) (written : Each Part.Written parts before after) :
    Sdl.Document.blocks (parts.map Part.definition) = [] := by
  induction written with
  | nil => rfl
  | cons part rest before middle after first _ ih =>
      cases first with
      | block kind extend fields => exact ih
      | other definition _ _ written => cases written <;> exact ih

theorem root_type_injective (first second : OperationKind) (same : first.rootType = second.rootType) : first = second := by
  cases first <;> cases second <;> first | rfl | exact absurd same (by decide)

theorem other_object_fields (definition : Sdl.TypeDefinition) (name : String)
    (other : (Sdl.Definition.type definition).object? ≠ some name) :
    (if definition.name = name then definition.objectFields else []) = [] := by
  obtain ⟨extend, declared, directives, body⟩ := definition
  cases body with
  | object interfaces fields => exact if_neg fun same => other (congrArg some same)
  | _ => exact ite_self _

theorem root_declared (kind : OperationKind) (parts : List Part) (proper : ∀ part ∈ parts, part.Proper) :
    Sdl.Document.declaredFields (parts.map Part.definition) kind.rootType = rootFields kind parts := by
  rw [← Sdl.Document.object_fields_declared]
  induction parts with
  | nil => rfl
  | cons part rest ih =>
      rw [List.forall_mem_cons] at proper
      rw [rootFields, List.flatMap_cons, ← rootFields, ← ih proper.2, List.map_cons]
      cases part with
      | block root extend fields =>
          have back : (fields.map FieldDescriptor.field).map Sdl.Field.descriptor = fields := by
            simp [Function.comp_def, field_descriptor]
          have decided : root.rootType = kind.rootType ↔ root = kind :=
            ⟨root_type_injective root kind, fun same => same ▸ rfl⟩
          rw [Part.definition, Sdl.Document.object_fields_type, List.map_append, Part.fieldsOf]
          refine congrArg (· ++ _) ?_
          simp only [decided]
          split
          · exact back
          · rfl
      | other definition =>
          cases definition with
          | type definition =>
              rw [Part.definition, Sdl.Document.object_fields_type, other_object_fields definition _ (proper.1.2 kind)]
              rfl
          | schema block => rfl
          | directive name arguments => rfl

theorem types_named (parts : List Part) (name : String) :
    (∃ entry ∈ (parts.map Part.definition).filterMap Sdl.Document.typeEntry?, entry.1 = name) ↔
      ∃ part ∈ parts, part.typeName? = some name := by
  have entry (part : Part) : (Sdl.Document.typeEntry? part.definition).map Prod.fst = part.typeName? := by
    cases part with
    | block kind extend fields => rfl
    | other definition => cases definition <;> rfl
  simp only [List.mem_filterMap, List.mem_map, ← entry, Option.map_eq_some_iff]
  constructor
  · rintro ⟨found, ⟨_, ⟨part, member, rfl⟩, same⟩, named⟩
    exact ⟨part, member, found, same, named⟩
  · rintro ⟨part, member, found, same, named⟩
    exact ⟨found, ⟨_, ⟨part, member, rfl⟩, same⟩, named⟩

theorem argument_spelled (argument : ArgumentDescriptor) (proper : argument.Proper) (more : List Token) (rest : List Char)
    (ends : Leaves Sdl.isWordChar rest) (spells : Spells more rest) :
    Spells (argument.tokens ++ more) (argument.chars ++ rest) := by
  have type := Sdl.spells_blank ' ' _ _ rfl
    (Sdl.spells_word argument.type.chars more rest (Sdl.type_starts _ proper.type.1) ends spells)
  have name := Sdl.spells_word argument.name.toList _ _ (Sdl.name_starts _ proper.name) (by exact rfl)
    (Sdl.spells_mark ':' _ _ rfl type)
  simpa [ArgumentDescriptor.tokens, ArgumentDescriptor.chars] using name

theorem list_end_spelled (arguments : List ArgumentDescriptor) (proper : ∀ argument ∈ arguments, argument.Proper)
    (more : List Token) (rest : List Char) (spells : Spells more rest) :
    Spells (arguments.flatMap ArgumentDescriptor.tokens ++ .mark ')' :: more)
      (listEnd ArgumentDescriptor.chars arguments ++ rest) := by
  induction arguments with
  | nil => exact Sdl.spells_mark ')' more rest rfl spells
  | cons argument others ih =>
      rw [List.forall_mem_cons] at proper
      have ends := leaves_list_end ArgumentDescriptor.chars Sdl.isWordChar rfl rfl others rest
      have first := argument_spelled argument proper.1 _ _ ends (ih proper.2)
      have spaced := Sdl.spells_blank ',' _ _ rfl (Sdl.spells_blank ' ' _ _ rfl first)
      simpa [listEnd] using spaced

theorem arguments_spelled (arguments : List ArgumentDescriptor) (proper : ∀ argument ∈ arguments, argument.Proper)
    (more : List Token) (rest : List Char) (spells : Spells more rest) :
    Spells (argumentTokens arguments ++ more) (parenthesized ArgumentDescriptor.chars arguments ++ rest) := by
  cases arguments with
  | nil => exact spells
  | cons argument others =>
      rw [List.forall_mem_cons] at proper
      have ends := leaves_list_end ArgumentDescriptor.chars Sdl.isWordChar rfl rfl others rest
      have first := argument_spelled argument proper.1 _ _ ends (list_end_spelled others proper.2 more rest spells)
      simpa [argumentTokens, parenthesized] using Sdl.spells_mark '(' _ _ rfl first

theorem field_spelled (field : FieldDescriptor) (proper : field.Proper) (more : List Token) (rest : List Char)
    (ends : Leaves Sdl.isWordChar rest) (spells : Spells more rest) :
    Spells (field.tokens ++ more) (field.chars ++ rest) := by
  have type := Sdl.spells_blank ' ' _ _ rfl
    (Sdl.spells_word field.type.chars more rest (Sdl.type_starts _ proper.type.1) ends spells)
  have arguments := arguments_spelled field.arguments proper.arguments _ _ (Sdl.spells_mark ':' _ _ rfl type)
  have behind : Leaves Sdl.isWordChar
      (parenthesized ArgumentDescriptor.chars field.arguments ++ ':' :: ' ' :: (field.type.chars ++ rest)) :=
    leaves_append _ _ _ (leaves_parenthesized _ _ rfl field.arguments) rfl
  have name := Sdl.spells_word field.name.toList _ _ (Sdl.name_starts _ proper.name) behind arguments
  simpa [FieldDescriptor.tokens, FieldDescriptor.chars] using name

theorem fields_spelled (fields : List FieldDescriptor) (proper : ∀ field ∈ fields, field.Proper) (more : List Token)
    (rest : List Char) (ends : Leaves Sdl.isWordChar rest) (spells : Spells more rest) :
    Spells (fields.flatMap FieldDescriptor.tokens ++ more)
      (fields.flatMap (fun field => ' ' :: field.chars) ++ rest) := by
  induction fields with
  | nil => exact spells
  | cons field others ih =>
      rw [List.forall_mem_cons] at proper
      have behind : Leaves Sdl.isWordChar (others.flatMap (fun field => ' ' :: field.chars) ++ rest) := by
        cases others with
        | nil => exact ends
        | cons next more => exact rfl
      have first := Sdl.spells_blank ' ' _ _ rfl (field_spelled field proper.1 _ _ behind (ih proper.2))
      simpa using first

theorem block_spelled (kind : OperationKind) (extend : Bool) (fields : List FieldDescriptor)
    (proper : ∀ field ∈ fields, field.Proper) (more : List Token) (rest : List Char) (spells : Spells more rest) :
    Spells (blockTokens kind extend fields ++ more) (blockChars kind extend fields ++ rest) := by
  have closing := Sdl.spells_blank ' ' _ _ rfl (Sdl.spells_mark '\x7d' _ _ rfl (Sdl.spells_blank '\n' more rest rfl spells))
  have inside := fields_spelled fields proper _ _ (by exact rfl) closing
  have opening := Sdl.spells_blank ' ' _ _ rfl (Sdl.spells_mark '\x7b' _ _ rfl inside)
  have name := Sdl.spells_blank ' ' _ _ rfl
    (Sdl.spells_word kind.rootType.toList _ _ (Sdl.name_starts _ (root_named_type kind)) (by exact rfl) opening)
  have word := Sdl.spells_word "type".toList _ _ (Sdl.name_starts _ rfl) (by exact rfl) name
  cases extend with
  | false => simpa [blockTokens, blockChars] using word
  | true =>
      have first := Sdl.spells_word "extend".toList _ _ (Sdl.name_starts _ rfl) (by exact rfl)
        (Sdl.spells_blank ' ' _ _ rfl word)
      simpa [blockTokens, blockChars] using first

theorem root_fields_proper (kind : OperationKind) (parts : List Part) (proper : ∀ part ∈ parts, part.Proper) :
    ∀ field ∈ rootFields kind parts, field.Proper := by
  intro field member
  obtain ⟨part, among, inside⟩ := List.mem_flatMap.mp member
  cases part with
  | block root extend fields =>
      rw [Part.fieldsOf] at inside
      split at inside
      · exact (proper _ among).2 field inside
      · simp at inside
  | other definition => simp [Part.fieldsOf] at inside

theorem root_undesignated (parts : List Part) (before after : List Token) (written : Each Part.Written parts before after)
    (kind : Sdl.RootKind) (default : String) :
    Sdl.Document.designated? (parts.map Part.definition) kind default = some default := by
  rw [Sdl.Document.designated?, Sdl.Document.named?, unblocked parts before after written]
  rfl

theorem has_type_iff (document : Sdl.Document) (name : String) :
    (Schema.ofDocument document).hasType name ↔
      name ∈ Schema.builtinScalars ∨ ∃ entry ∈ document.filterMap Sdl.Document.typeEntry?, entry.1 = name := by
  rw [Schema.hasType, Schema.ofDocument, get_of_list]
  simp only [List.mem_append, or_and_right, exists_or]
  refine or_congr_left ?_
  simp

theorem root_fields_round_trip (queries mutations : List FieldDescriptor) (parts : List Part) (tokens : List Token)
    (text : String) (queried : queries ≠ []) (proper : ∀ part ∈ parts, part.Proper)
    (spread : rootFields .query parts = queries ∧ rootFields .mutation parts = mutations)
    (written : Each Part.Written parts tokens []) (layout : Spells tokens text.toList) :
    (∀ kind extend fields, (∀ field ∈ fields, field.Proper) → ∀ more rest, Spells more rest →
        Spells (blockTokens kind extend fields ++ more) (blockChars kind extend fields ++ rest)) ∧
      ∃ schema, Schema.parse text = .ok schema ∧ schema.queries = queries ∧ schema.mutations = mutations ∧
        (∀ field ∈ schema.queries ++ schema.mutations,
          field.type.undoubled ∧ ∀ argument ∈ field.arguments, argument.type.undoubled) ∧
        ∀ name, schema.hasType name ↔ name ∈ Schema.builtinScalars ∨ ∃ part ∈ parts, part.typeName? = some name := by
  obtain ⟨rfl, rfl⟩ := spread
  have nonempty : parts.map Part.definition ≠ [] := by
    intro empty
    rw [List.map_eq_nil_iff.mp empty] at queried
    exact queried rfl
  have sound : ∀ definition ∈ parts.map Part.definition, definition.fault? = none := by
    intro definition member
    obtain ⟨part, among, rfl⟩ := List.mem_map.mp member
    exact part_sound part (proper part among)
  have run := Sdl.document_read _ tokens text.toList nonempty (parts_written parts proper tokens [] written) layout
  have parsed := (Sdl.parse_document_ok_iff text (parts.map Part.definition)).mpr ⟨⟨[], run⟩, sound⟩
  have root := root_undesignated parts tokens [] written
  have queries := of_document_queries _ sound
  rw [root] at queries
  have mutations := of_document_mutations _ sound
  rw [root, root, if_neg (by decide)] at mutations
  have queried := queries.trans (root_declared .query parts proper)
  have mutated := mutations.trans (root_declared .mutation parts proper)
  refine ⟨block_spelled, _, schema_parse_ok text _ parsed, queried, mutated, ?_, ?_⟩
  · intro field member
    rw [queried, mutated] at member
    have good : field.Proper :=
      (List.mem_append.mp member).elim (root_fields_proper .query parts proper field)
        (root_fields_proper .mutation parts proper field)
    exact ⟨good.type.2, fun argument among => (good.arguments argument among).type.2⟩
  · intro name
    rw [has_type_iff, types_named]

def shadeDefinition : Sdl.Definition :=
  .type ⟨false, "Shade", [], .enumeration [("DARK", []), ("PALE", [⟨"deprecated", [("reason", .string)]⟩])]⟩

def shadeTokens : List Token :=
  [.quote "A shade.\"".toList, .word "enum".toList, .word "Shade".toList, .mark '\x7b', .word "DARK".toList,
    .word "PALE".toList, .mark '@', .word "deprecated".toList, .mark '(', .word "reason".toList, .mark ':',
    .quote "old\"".toList, .mark ')', .mark '\x7d']

def shadeField : FieldDescriptor :=
  ⟨"shade", .named "Shade", [⟨"name", .nonNull (.named "String")⟩, ⟨"of", .list (.nonNull (.named "ID"))⟩]⟩

def laterField : FieldDescriptor := ⟨"later", .named "Int", []⟩

def dropField : FieldDescriptor := ⟨"drop", .nonNull (.list (.named "Boolean")), []⟩

def shadeParts : List Part :=
  [.block .query false [shadeField], .other shadeDefinition, .block .mutation true [dropField], .block .query true [laterField]]

def shadeText : String :=
  "type Query \x7b shade(name: String!, of: [ID!]): Shade \x7d\n" ++
    ("\"A shade.\" enum Shade \x7b DARK PALE @ deprecated ( reason : \"old\" ) \x7d " ++
      ("extend type Mutation \x7b drop: [Boolean]! \x7d\n" ++ "extend type Query \x7b later: Int \x7d\n"))

theorem shade_written (more : List Token) : shadeDefinition.Written (shadeTokens ++ more) more := by
  have description : Sdl.StringTail "A shade.\"".toList :=
    .line _ (Sdl.line_tail_plain "A shade.".toList (by simp [Sdl.isLineEnd]))
  have reason : Sdl.StringTail "old\"".toList := .line _ (Sdl.line_tail_plain "old".toList (by simp [Sdl.isLineEnd]))
  have deprecated (rest : List Token) : Sdl.Directive.Written ⟨"deprecated", [("reason", .string)]⟩
      (.mark '@' :: .word "deprecated".toList :: .mark '(' :: .word "reason".toList :: .mark ':' ::
        .quote "old\"".toList :: .mark ')' :: rest) rest :=
    .directive _ _ _ _ rfl (.some _ _ _ (by simp) (.cons _ _ _ _ _ (.entry _ _ _ _ rfl (.string _ _ reason)) (.nil _)))
  have choices := Each.cons _ _ _ _ _ (Sdl.ChoiceWritten.choice "DARK" [] _ _ _ (.none _) rfl (.nil _))
    (.cons _ _ _ _ _ (.choice "PALE" _ _ _ _ (.none _) rfl (.cons _ _ _ _ _ (deprecated (.mark '\x7d' :: more)) (.nil _)))
      (.nil _))
  exact .type _ _ _ (.type _ _ _ _ _ _ _ (.definition _ _ (.some _ _ description)) rfl
    (.enumeration _ _ _ _ _ (.nil _) (.some _ _ _ (by simp) choices)) (by simp))

theorem shade_text :
    String.ofList (blockChars .query false [shadeField] ++ (shadeTokens.flatMap (fun token => token.chars ++ [' ']) ++
      (blockChars .mutation true [dropField] ++ blockChars .query true [laterField]))) = shadeText := by
  rw [String.ofList_append, String.ofList_append, String.ofList_append]
  exact congrArg₂ _ rfl (congrArg₂ _ rfl (congrArg₂ _ rfl rfl))

theorem shade_fields_read :
    ∃ schema, Schema.parse shadeText = .ok schema ∧ schema.queries = [shadeField, laterField] ∧
      schema.mutations = [dropField] ∧ schema.hasType "Shade" ∧ schema.hasType "Mutation" ∧ ¬ schema.hasType "DARK" := by
  have proper : ∀ part ∈ shadeParts, part.Proper := by
    have fields : ∀ field ∈ [shadeField, laterField, dropField], field.Proper := by decide
    simp only [shadeParts, List.forall_mem_cons]
    refine ⟨⟨by simp, by simp [fields]⟩, ⟨by decide, fun kind => ?_⟩,
      ⟨by simp, by simp [fields]⟩, ⟨by simp, by simp [fields]⟩, by simp⟩
    cases kind <;> decide
  have written : Each Part.Written shadeParts _ [] :=
    .cons _ _ _ _ _ (.block _ _ _ _) (.cons _ _ _ _ _ (.other _ _ _ (shade_written _))
      (.cons _ _ _ _ _ (.block _ _ _ _) (.cons _ _ _ _ _ (.block _ _ _ _) (.nil []))))
  have words : ∀ token ∈ shadeTokens, token.Stands [' '] := by decide
  have layout := block_spelled .query false [shadeField] (by decide) _ _ (Sdl.spaced_spelled shadeTokens _ _ words
    (block_spelled .mutation true [dropField] (by decide) _ _
      (block_spelled .query true [laterField] (by decide) [] [] (.blank [] .nil))))
  simp only [List.append_nil] at layout
  obtain ⟨_, schema, parsed, queries, mutations, _, named⟩ :=
    root_fields_round_trip [shadeField, laterField] [dropField] shadeParts _ shadeText (by decide) proper ⟨rfl, rfl⟩ written
      (by rwa [← shade_text, String.toList_ofList])
  refine ⟨schema, parsed, queries, mutations, (named "Shade").mpr ?_, (named "Mutation").mpr ?_, fun found => ?_⟩
  · exact .inr ⟨.other shadeDefinition, by simp [shadeParts], rfl⟩
  · exact .inr ⟨.block .mutation true [dropField], by simp [shadeParts], rfl⟩
  · rcases (named "DARK").mp found with builtin | ⟨part, member, name⟩
    · exact absurd builtin (by decide)
    · have unnamed : ∀ part ∈ shadeParts, part.typeName? ≠ some "DARK" := by decide
      exact unnamed part member name

end TypedQuery
