import TypedQuery.Operation
import TypedQuery.Samples
import TypedQuery.Sdl.Lexeme

/-!
Texts of operations can be read in one way only. Each part is written so that what follows it cannot
be taken for more of it, and so the kind, the names, the types of the variables and the tree of
selected fields are all determined by the text.
-/

set_option autoImplicit false

namespace TypedQuery

def Sdl.isName (text : String) : Bool :=
  match text.toList with
  | [] => false
  | first :: rest => isNameStart first && rest.all isNameChar

def ArgumentBinding.Named (binding : ArgumentBinding) : Prop :=
  Sdl.isName binding.name ∧ Sdl.isName binding.variableName

def VariableDefinition.Named (definition : VariableDefinition) : Prop :=
  Sdl.isName definition.name ∧ Sdl.isName definition.type.leaf

mutual
def FieldSelection.Named : FieldSelection → Prop
  | .mk name arguments selection =>
      Sdl.isName name ∧ (∀ binding ∈ arguments, binding.Named) ∧ SelectionSet.Named selection
def SelectionSet.Named : List FieldSelection → Prop
  | [] => True
  | field :: rest => field.Named ∧ SelectionSet.Named rest
end

structure Operation.Named (operation : Operation) : Prop where
  name : Sdl.isName operation.name
  definitions : ∀ definition ∈ operation.definitions, definition.Named
  root : operation.root.Named

instance (binding : ArgumentBinding) : Decidable binding.Named :=
  inferInstanceAs (Decidable (_ ∧ _))

instance (definition : VariableDefinition) : Decidable definition.Named :=
  inferInstanceAs (Decidable (_ ∧ _))

mutual
def FieldSelection.decideNamed : (field : FieldSelection) → Decidable field.Named
  | .mk _ _ selection =>
      have := SelectionSet.decideNamed selection
      inferInstanceAs (Decidable (_ ∧ _ ∧ _))
def SelectionSet.decideNamed : (selection : List FieldSelection) → Decidable (SelectionSet.Named selection)
  | [] => .isTrue trivial
  | field :: rest =>
      have := field.decideNamed
      have := SelectionSet.decideNamed rest
      inferInstanceAs (Decidable (_ ∧ _))
end

instance (field : FieldSelection) : Decidable field.Named := field.decideNamed

instance (operation : Operation) : Decidable operation.Named :=
  decidable_of_iff (_ ∧ _ ∧ _)
    ⟨fun ⟨name, definitions, root⟩ => ⟨name, definitions, root⟩,
      fun ⟨name, definitions, root⟩ => ⟨name, definitions, root⟩⟩

def Leaves (within : Char → Bool) : List Char → Prop
  | [] => True
  | c :: _ => within c = false

-- What can follow a field: a space, and then no block of fields of its own.
def EndsField : List Char → Prop
  | ' ' :: c :: _ => c ≠ '\x7b'
  | _ => False

section Separation

variable {α : Type}

def Separable (write : α → List Char) (good : α → Prop) (ends : List Char → Prop) : Prop :=
  ∀ first second rest other, good first → good second → ends rest → ends other →
    write first ++ rest = write second ++ other → first = second ∧ rest = other

def listEnd (write : α → List Char) : List α → List Char
  | [] => [')']
  | item :: rest => ',' :: ' ' :: write item ++ listEnd write rest

def parenthesized (write : α → List Char) : List α → List Char
  | [] => []
  | first :: rest => '(' :: write first ++ listEnd write rest

variable (write : α → List Char) (good : α → Prop) (within : Char → Bool)

theorem leaves_append (text rest : List Char) (start : Leaves within text) (after : Leaves within rest) :
    Leaves within (text ++ rest) := by
  cases text with
  | nil => exact after
  | cons c tail => exact start

theorem leaves_parenthesized (outside : within '(' = false) (items : List α) :
    Leaves within (parenthesized write items) := by
  cases items with
  | nil => trivial
  | cons first rest => exact outside

theorem leaves_list_end (comma : within ',' = false) (closing : within ')' = false) (items : List α)
    (rest : List Char) : Leaves within (listEnd write items ++ rest) := by
  cases items with
  | nil => exact closing
  | cons item more => exact comma

theorem class_separable : Separable id (fun text => ∀ c ∈ text, within c) (Leaves within) := by
  intro first second rest other inside inside' ends ends' same
  rw [id, id] at same
  induction first generalizing second with
  | nil =>
      cases second with
      | nil => exact ⟨rfl, same⟩
      | cons c tail =>
          rw [show rest = _ from same] at ends
          exact absurd (inside' c List.mem_cons_self) (ne_true_of_eq_false ends)
  | cons c tail ih =>
      cases second with
      | nil =>
          rw [show other = _ from same.symm] at ends'
          exact absurd (inside c List.mem_cons_self) (ne_true_of_eq_false ends')
      | cons d more =>
          rw [List.forall_mem_cons] at inside inside'
          simp only [List.cons_append, List.cons.injEq] at same
          obtain ⟨rfl, remaining⟩ := same
          obtain ⟨rfl, after⟩ := ih more inside.2 inside'.2 remaining
          exact ⟨rfl, after⟩

-- Where an item would begin with a comma, the list ends with a parenthesis.
theorem list_end_separable (separable : Separable write good (Leaves within)) (comma : within ',' = false)
    (closing : within ')' = false) :
    Separable (listEnd write) (fun items => ∀ item ∈ items, good item) (fun _ => True) := by
  intro items others rest other each each' _ _ same
  induction items generalizing others with
  | nil =>
      cases others with
      | nil => exact ⟨rfl, by simpa [listEnd] using same⟩
      | cons item more => simp [listEnd] at same
  | cons item more ih =>
      cases others with
      | nil => simp [listEnd] at same
      | cons item' more' =>
          rw [List.forall_mem_cons] at each each'
          simp only [listEnd, List.cons_append, List.append_assoc, List.cons.injEq, true_and] at same
          obtain ⟨rfl, remaining⟩ := separable item item' _ _ each.1 each'.1
            (leaves_list_end write within comma closing more rest)
            (leaves_list_end write within comma closing more' other) same
          obtain ⟨rfl, after⟩ := ih more' each.2 each'.2 remaining
          exact ⟨rfl, after⟩

theorem parenthesized_separable (separable : Separable write good (Leaves within)) (comma : within ',' = false)
    (closing : within ')' = false) :
    Separable (parenthesized write) (fun items => ∀ item ∈ items, good item) (Leaves (· = '(')) := by
  intro items others rest other each each' ends ends' same
  cases items with
  | nil =>
      cases others with
      | nil => exact ⟨rfl, same⟩
      | cons item more =>
          rw [show rest = _ from same] at ends
          simp [parenthesized, Leaves] at ends
  | cons item more =>
      cases others with
      | nil =>
          rw [show other = _ from same.symm] at ends'
          simp [parenthesized, Leaves] at ends'
      | cons item' more' =>
          -- A list differs from what follows the first item of a longer one in its opening only.
          have longer : listEnd write (item :: more) ++ rest = listEnd write (item' :: more') ++ other := by
            simpa [parenthesized, listEnd] using same
          exact list_end_separable write good within separable comma closing _ _ rest other each each'
            trivial trivial longer

theorem joined_text (join : List α → List Char) (single : ∀ item, join [item] = write item)
    (several : ∀ item next rest, join (item :: next :: rest) = write item ++ [',', ' '] ++ join (next :: rest))
    (first : α) (rest : List α) : join (first :: rest) ++ [')'] = write first ++ listEnd write rest := by
  induction rest generalizing first with
  | nil => rw [single, listEnd]
  | cons second more ih =>
      rw [several, List.append_assoc, ih second, List.append_assoc, listEnd]
      rfl

end Separation

def ArgumentBinding.chars (binding : ArgumentBinding) : List Char :=
  binding.name.toList ++ [':', ' ', '$'] ++ binding.variableName.toList

def SelectionSet.block (selection : SelectionSet) : List Char :=
  if selection.isEmpty then [] else ' ' :: '\x7b' :: SelectionSet.spaced selection ++ [' ', '\x7d']

theorem arguments_text (arguments : List ArgumentBinding) :
    argumentsText arguments = parenthesized ArgumentBinding.chars arguments := by
  cases arguments with
  | nil => rfl
  | cons first rest =>
      rw [parenthesized, List.cons_append, ← joined_text ArgumentBinding.chars bindingsText]
      · rfl
      · exact fun binding => rfl
      · exact fun binding next rest => by simp [bindingsText, ArgumentBinding.chars]

theorem header_text (definitions : List VariableDefinition) :
    Operation.header definitions = parenthesized VariableDefinition.chars definitions := by
  cases definitions with
  | nil => rfl
  | cons first rest =>
      rw [parenthesized, List.cons_append, ← joined_text VariableDefinition.chars definitionsText]
      · rfl
      · exact fun definition => rfl
      · exact fun definition next rest => rfl

theorem field_text (name : String) (arguments : List ArgumentBinding) (selection : SelectionSet) :
    (FieldSelection.mk name arguments selection).chars =
      name.toList ++ (parenthesized ArgumentBinding.chars arguments ++ selection.block) := by
  rw [← arguments_text]
  cases selection with
  | nil => simp [FieldSelection.chars, SelectionSet.block]
  | cons field rest => simp [FieldSelection.chars, SelectionSet.block, SelectionSet.spaced]

theorem name_head (name : String) (named : Sdl.isName name) :
    ∃ first rest, name.toList = first :: rest ∧ Sdl.isNameStart first := by
  unfold Sdl.isName at named
  split at named
  · simp at named
  · rename_i first rest text
    exact ⟨first, rest, text, (Bool.and_eq_true_iff.mp named).1⟩

theorem start_in_name (c : Char) (start : Sdl.isNameStart c) : Sdl.isNameChar c := by
  simp only [Sdl.isNameStart, Sdl.isNameChar, Char.isAlphanum, Bool.or_eq_true] at start ⊢
  exact start.imp_left .inl

theorem name_chars (name : String) (named : Sdl.isName name) : ∀ c ∈ name.toList, Sdl.isNameChar c := by
  unfold Sdl.isName at named
  split at named
  · simp at named
  · rename_i first rest text
    rw [Bool.and_eq_true, List.all_eq_true] at named
    rw [text, List.forall_mem_cons]
    exact ⟨start_in_name first named.1, named.2⟩

theorem mark_not_in_name (name : String) (named : Sdl.isName name) (mark : Char)
    (outside : Sdl.isNameChar mark = false) : mark ∉ name.toList := by
  intro member
  exact absurd (name_chars name named mark member) (ne_true_of_eq_false outside)

theorem name_separable : Separable String.toList (fun name => Sdl.isName name) (Leaves Sdl.isNameChar) := by
  intro first second rest other named named' ends ends' same
  obtain ⟨text, after⟩ := class_separable Sdl.isNameChar first.toList second.toList rest other
    (name_chars first named) (name_chars second named') ends ends' same
  exact ⟨String.toList_inj.mp text, after⟩

theorem binding_separable : Separable ArgumentBinding.chars ArgumentBinding.Named (Leaves Sdl.isNameChar) := by
  intro first second rest other named named' ends ends' same
  obtain ⟨name, source⟩ := first
  obtain ⟨name', source'⟩ := second
  simp only [ArgumentBinding.chars, List.append_assoc] at same
  obtain ⟨rfl, remaining⟩ := name_separable name name' _ _ named.1 named'.1 (by exact rfl) (by exact rfl) same
  obtain ⟨rfl, after⟩ := name_separable source source' rest other named.2 named'.2 ends ends'
    (by simpa using remaining)
  exact ⟨rfl, after⟩

def isTypeChar (c : Char) : Bool := Sdl.isNameChar c || c = '[' || c = ']' || c = '!'

theorem type_chars (type : TypeRef) (named : Sdl.isName type.leaf) : ∀ c ∈ type.chars, isTypeChar c := by
  induction type with
  | named name =>
      intro c member
      simp [isTypeChar, name_chars name named c member]
  | list element ih =>
      intro c member
      simp only [TypeRef.chars, List.mem_append, List.mem_singleton] at member
      rcases member with (rfl | inner) | rfl
      · rfl
      · exact ih named c inner
      · rfl
  | nonNull inner ih =>
      intro c member
      simp only [TypeRef.chars, List.mem_append, List.mem_singleton] at member
      rcases member with inside | rfl
      · exact ih named c inside
      · rfl

theorem name_as_type (name : String) (named : Sdl.isName name) (type : TypeRef) (same : name.toList = type.chars) :
    type = .named name := by
  cases type with
  | named other => rw [String.toList_inj.mp same]
  | list element =>
      have mark : ']' ∈ name.toList := by simp [same, TypeRef.chars]
      exact absurd mark (mark_not_in_name name named _ rfl)
  | nonNull inner =>
      have mark : '!' ∈ name.toList := by simp [same, TypeRef.chars]
      exact absurd mark (mark_not_in_name name named _ rfl)

-- The last character tells a list and a non-null type from each other and from a name.
theorem type_chars_injective (first second : TypeRef) (named : Sdl.isName first.leaf)
    (named' : Sdl.isName second.leaf) (same : first.chars = second.chars) : first = second := by
  induction first generalizing second with
  | named name => exact (name_as_type name named second same).symm
  | list element ih =>
      cases second with
      | named other => exact name_as_type other named' _ same.symm
      | list element' => rw [ih element' named named' (by simpa [TypeRef.chars] using same)]
      | nonNull inner => exact absurd (List.append_inj' same rfl).2 (by decide)
  | nonNull inner ih =>
      cases second with
      | named other => exact name_as_type other named' _ same.symm
      | list element => exact absurd (List.append_inj' same rfl).2 (by decide)
      | nonNull inner' => rw [ih inner' named named' (by simpa [TypeRef.chars] using same)]

theorem type_separable : Separable TypeRef.chars (fun type => Sdl.isName type.leaf) (Leaves isTypeChar) := by
  intro first second rest other named named' ends ends' same
  obtain ⟨text, after⟩ := class_separable isTypeChar first.chars second.chars rest other
    (type_chars first named) (type_chars second named') ends ends' same
  exact ⟨type_chars_injective first second named named' text, after⟩

theorem definition_separable : Separable VariableDefinition.chars VariableDefinition.Named (Leaves isTypeChar) := by
  intro first second rest other named named' ends ends' same
  obtain ⟨name, type⟩ := first
  obtain ⟨name', type'⟩ := second
  simp only [VariableDefinition.chars, List.cons_append, List.append_assoc, List.cons.injEq, true_and] at same
  obtain ⟨rfl, remaining⟩ := name_separable name name' _ _ named.1 named'.1 (by exact rfl) (by exact rfl) same
  obtain ⟨rfl, after⟩ := type_separable type type' rest other named.2 named'.2 ends ends'
    (by simpa using remaining)
  exact ⟨rfl, after⟩

theorem ends_field_leaves (rest : List Char) (ends : EndsField rest) (within : Char → Bool)
    (space : within ' ' = false) : Leaves within rest := by
  unfold EndsField at ends
  split at ends
  · exact space
  · exact ends.elim

theorem block_leaves (selection : SelectionSet) (rest : List Char) (ends : EndsField rest) (within : Char → Bool)
    (space : within ' ' = false) : Leaves within (selection.block ++ rest) := by
  cases selection with
  | nil => exact ends_field_leaves rest ends within space
  | cons field more => exact space

theorem spaced_head (field : FieldSelection) (more : List FieldSelection) (named : field.Named) :
    ∃ first rest, SelectionSet.spaced (field :: more) = ' ' :: first :: rest ∧ Sdl.isNameStart first := by
  obtain ⟨name, arguments, selection⟩ := field
  obtain ⟨first, rest, text, start⟩ := name_head name named.1
  rw [SelectionSet.spaced, field_text, text]
  exact ⟨first, _, rfl, start⟩

theorem spaced_ends_field (selection : List FieldSelection) (named : SelectionSet.Named selection) (rest : List Char) :
    EndsField (SelectionSet.spaced selection ++ ' ' :: '\x7d' :: rest) := by
  cases selection with
  | nil => exact (by decide : '\x7d' ≠ '\x7b')
  | cons field more =>
      obtain ⟨first, tail, text, start⟩ := spaced_head field more named.1
      rw [text]
      rintro rfl
      exact absurd start (by decide)

theorem end_not_spaced (field : FieldSelection) (more : List FieldSelection) (named : field.Named)
    (rest other : List Char) : ' ' :: '\x7d' :: rest ≠ SelectionSet.spaced (field :: more) ++ other := by
  obtain ⟨first, tail, text, start⟩ := spaced_head field more named
  rw [text]
  intro same
  obtain rfl : '\x7d' = first := by simpa using (List.cons.inj (List.cons.inj same).2).1
  exact absurd start (by decide)

mutual
theorem field_separable (first second : FieldSelection) (rest other : List Char) (named : first.Named)
    (named' : second.Named) (ends : EndsField rest) (ends' : EndsField other)
    (same : first.chars ++ rest = second.chars ++ other) : first = second ∧ rest = other := by
  obtain ⟨name, arguments, selection⟩ := first
  obtain ⟨name', arguments', selection'⟩ := second
  simp only [field_text, List.append_assoc] at same
  have tail (arguments : List ArgumentBinding) (selection : SelectionSet) (rest : List Char) (ends : EndsField rest) :
      Leaves Sdl.isNameChar (parenthesized ArgumentBinding.chars arguments ++ (selection.block ++ rest)) :=
    leaves_append _ _ _ (leaves_parenthesized _ _ rfl arguments) (block_leaves selection rest ends _ rfl)
  obtain ⟨rfl, behindName⟩ := name_separable name name' _ _ named.1 named'.1 (tail arguments selection rest ends)
    (tail arguments' selection' other ends') same
  obtain ⟨rfl, blocks⟩ := parenthesized_separable _ _ _ binding_separable rfl rfl arguments arguments' _ _
    named.2.1 named'.2.1 (block_leaves selection rest ends _ rfl) (block_leaves selection' other ends' _ rfl) behindName
  cases selection with
  | nil =>
      cases selection' with
      | nil => exact ⟨rfl, blocks⟩
      | cons field more =>
          rw [show rest = _ from blocks] at ends
          exact absurd rfl ends
  | cons field more =>
      cases selection' with
      | nil =>
          rw [show other = _ from blocks.symm] at ends'
          exact absurd rfl ends'
      | cons field' more' =>
          obtain ⟨below, after⟩ := set_separable (field :: more) (field' :: more') rest other named.2.2 named'.2.2
            (by simpa [SelectionSet.block] using blocks)
          exact ⟨by rw [below], after⟩
theorem set_separable (first second : List FieldSelection) (rest other : List Char) (named : SelectionSet.Named first)
    (named' : SelectionSet.Named second)
    (same : SelectionSet.spaced first ++ ' ' :: '\x7d' :: rest = SelectionSet.spaced second ++ ' ' :: '\x7d' :: other) :
    first = second ∧ rest = other := by
  cases first with
  | nil =>
      cases second with
      | nil => exact ⟨rfl, by simpa [SelectionSet.spaced] using same⟩
      | cons field more => exact absurd same (end_not_spaced field more named'.1 rest _)
  | cons field more =>
      cases second with
      | nil => exact absurd same.symm (end_not_spaced field more named.1 other _)
      | cons field' more' =>
          simp only [SelectionSet.spaced, List.cons_append, List.append_assoc, List.cons.injEq, true_and] at same
          obtain ⟨rfl, remaining⟩ := field_separable field field' _ _ named.1 named'.1
            (spaced_ends_field more named.2 rest) (spaced_ends_field more' named'.2 other) same
          obtain ⟨rfl, after⟩ := set_separable more more' rest other named.2 named'.2 remaining
          exact ⟨rfl, after⟩
end

theorem keyword_named (kind : OperationKind) : Sdl.isName kind.keyword := by
  cases kind <;> decide

theorem keyword_injective (first second : OperationKind) (same : first.keyword = second.keyword) : first = second := by
  cases first <;> cases second
  · rfl
  · exact absurd same (by decide)
  · exact absurd same (by decide)
  · rfl

theorem rendered_operation_unique (first second : Operation) (named : first.Named) (named' : second.Named)
    (same : first.render = second.render) : first = second := by
  obtain ⟨kind, name, definitions, root⟩ := first
  obtain ⟨kind', name', definitions', root'⟩ := second
  have texts := String.ofList_inj.mp same
  simp only [Operation.chars, header_text, List.append_assoc, List.cons_append, List.nil_append] at texts
  obtain ⟨keyword, behindKeyword⟩ := name_separable kind.keyword kind'.keyword _ _ (keyword_named kind)
    (keyword_named kind') (by exact rfl) (by exact rfl) texts
  obtain rfl := keyword_injective kind kind' keyword
  have leaves (definitions : List VariableDefinition) (root : List Char) :
      Leaves Sdl.isNameChar (parenthesized VariableDefinition.chars definitions ++ ' ' :: root) :=
    leaves_append _ _ _ (leaves_parenthesized _ _ rfl definitions) rfl
  obtain ⟨rfl, behindName⟩ := name_separable name name' _ _ named.name named'.name (leaves definitions _)
    (leaves definitions' _) (List.cons.inj behindKeyword).2
  obtain ⟨rfl, behindHeader⟩ := parenthesized_separable _ _ _ definition_separable rfl rfl definitions definitions'
    _ _ named.definitions named'.definitions (by exact rfl) (by exact rfl) behindName
  simp only [List.cons.injEq, true_and] at behindHeader
  have closing : EndsField [' ', '\x7d'] := (by decide : '\x7d' ≠ '\x7b')
  obtain ⟨rfl, _⟩ := field_separable root root' _ _ named.root named'.root closing closing behindHeader
  rfl

def linkOperation (selection : SelectionSet) : Operation where
  kind := .mutation
  name := "Link"
  definitions := [⟨"ids", .nonNull (.nonNull (.list (.nonNull (.named "ID"))))⟩, ⟨"hint", .named "String"⟩]
  root := .mk "link" [⟨"ids", "ids"⟩, ⟨"note", "hint"⟩] selection

def linkSelection : SelectionSet :=
  [.mk "anInt" [] [], .mk "edge" [] [.mk "anInt" [] [], .mk "aFloat" [] [], .mk "aDouble" [] [], .mk "theTime" [] []]]

theorem link_selection_recovered :
    (linkOperation (synthesize Samples.models (Samples.modelHost "TestResult") 2)).Named ∧
      (linkOperation linkSelection).Named ∧
      (linkOperation linkSelection).render =
        "mutation Link($ids: [ID!]!!, $hint: String) \x7b link(ids: $ids, note: $hint) " ++
          "\x7b anInt edge \x7b anInt aFloat aDouble theTime \x7d \x7d \x7d" ∧
      linkOperation (synthesize Samples.models (Samples.modelHost "TestResult") 2) = linkOperation linkSelection := by
  have first : (linkOperation (synthesize Samples.models (Samples.modelHost "TestResult") 2)).Named := by decide +kernel
  have second : (linkOperation linkSelection).Named := by decide +kernel
  have same : (linkOperation (synthesize Samples.models (Samples.modelHost "TestResult") 2)).render =
      (linkOperation linkSelection).render := by decide +kernel
  exact ⟨first, second, by decide +kernel, rendered_operation_unique _ _ first second same⟩

end TypedQuery
