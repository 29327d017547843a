import TypedQuery.Proofs.Outcome
import TypedQuery.Schema

/-!
Which types of a document are its operation roots. The language's rule: what the schema blocks name,
and the default names only where there is no schema definition.
-/

set_option autoImplicit false

namespace TypedQuery

namespace Sdl

def Definition.block? : Definition → Option SchemaBlock
  | .schema block => some block
  | _ => none

def Definition.type? : Definition → Option TypeDefinition
  | .type definition => some definition
  | _ => none

def TypeDefinition.objectFields (definition : TypeDefinition) : List Field :=
  match definition.body with
  | .object _ fields => fields
  | _ => []

namespace Document

def blocks (document : Document) : List SchemaBlock := document.filterMap Definition.block?

def types (document : Document) : List TypeDefinition := document.filterMap Definition.type?

def declaredFields (document : Document) (name : String) : List FieldDescriptor :=
  ((document.types.filter (·.name = name)).flatMap TypeDefinition.objectFields).map Field.descriptor

def named? (document : Document) (kind : RootKind) : Option String :=
  (document.blocks.filterMap (·.root? kind)).getLast?

-- A root by the rule of the language: a default name counts where no block defines the schema.
def designated? (document : Document) (kind : RootKind) (default : String) : Option String :=
  (document.named? kind).or (if document.blocks.all (·.extend) then some default else none)

theorem blocks_schema (block : SchemaBlock) (rest : Document) : blocks (.schema block :: rest) = block :: blocks rest :=
  rfl

theorem types_type (definition : TypeDefinition) (rest : Document) :
    types (.type definition :: rest) = definition :: types rest :=
  rfl

theorem named_schema (block : SchemaBlock) (rest : Document) (kind : RootKind) :
    named? (.schema block :: rest) kind = (named? rest kind).or (block.root? kind) := by
  rw [named?, named?, blocks_schema, List.filterMap_cons]
  cases block.root? kind with
  | none => exact Option.or_none.symm
  | some name =>
      simp only [List.getLast?_cons]
      cases (List.filterMap (·.root? kind) (blocks rest)).getLast? <;> rfl

theorem root_named (document : Document) (kind : RootKind) (default : String) :
    document.root kind default = (document.named? kind).getD default := by
  induction document generalizing default with
  | nil => rfl
  | cons definition rest ih =>
      cases definition with
      | schema block =>
          refine (ih _).trans ?_
          rw [named_schema]
          cases named? rest kind <;> rfl
      | type definition => exact ih default
      | directive name arguments => exact ih default

theorem object_fields_type (definition : TypeDefinition) (rest : Document) (name : String) :
    objectFields name (.type definition :: rest) =
      (if definition.name = name then definition.objectFields else []) ++ objectFields name rest := by
  obtain ⟨extend, declared, directives, body⟩ := definition
  cases body <;> simp [objectFields, TypeDefinition.objectFields]

theorem object_fields_declared (document : Document) (name : String) :
    (document.objectFields name).map Field.descriptor = document.declaredFields name := by
  refine congrArg _ ?_
  induction document with
  | nil => rfl
  | cons definition rest ih =>
      cases definition with
      | schema block => exact ih
      | directive directive arguments => exact ih
      | type definition =>
          rw [object_fields_type, ih, types_type, List.filter_cons]
          by_cases same : definition.name = name <;> simp [same]

end Document

theorem parse_document_ok_iff (text : String) (definitions : Document) :
    parseDocument text = .ok definitions ↔
      (∃ rest, document.run text.toList = some (definitions, rest)) ∧
        ∀ definition ∈ definitions, definition.fault? = none := by
  unfold parseDocument
  cases document.run text.toList with
  | none => simp
  | some result =>
      obtain ⟨found, rest⟩ := result
      dsimp only
      cases fault : found.findSome? Definition.fault? with
      | none =>
          constructor
          · intro same
            obtain rfl := Except.ok.inj same
            exact ⟨⟨rest, rfl⟩, List.findSome?_eq_none_iff.mp fault⟩
          · rintro ⟨⟨_, same⟩, _⟩
            exact congrArg Except.ok (Prod.mk.inj (Option.some.inj same)).1
      | some first =>
          constructor
          · exact nofun
          · rintro ⟨⟨_, same⟩, none⟩
            rw [(Prod.mk.inj (Option.some.inj same)).1, List.findSome?_eq_none_iff.mpr none] at fault
            cases fault

theorem definition_names_query (block : SchemaBlock) (sound : block.fault? = none) (defines : block.extend = false) :
    (block.root? .query).isSome := by
  unfold SchemaBlock.fault? at sound
  split at sound
  · simp at sound
  · split at sound
    · simp at sound
    · simpa [defines, Option.isSome_iff_ne_none] using sound

theorem query_root_designated (document : Document) (sound : ∀ definition ∈ document, definition.fault? = none) :
    document.designated? .query "Query" = some document.queryRoot := by
  rw [Document.queryRoot, Document.root_named, Document.designated?]
  cases named : document.named? .query with
  | some name => rfl
  | none =>
      -- Where no block names a query root, none is a definition.
      have extensions : document.blocks.all (·.extend) := by
        rw [List.all_eq_true]
        intro block member
        obtain ⟨definition, there, same⟩ := List.mem_filterMap.mp member
        cases definition with
        | schema found =>
            obtain rfl := Option.some.inj same
            cases defines : found.extend with
            | true => rfl
            | false =>
                have names := definition_names_query found (sound _ there) defines
                have unnamed := List.filterMap_eq_nil_iff.mp (List.getLast?_eq_none_iff.mp named) found member
                simp [unnamed] at names
        | type definition => cases same
        | directive name arguments => cases same
      rw [if_pos extensions]
      rfl

theorem mutation_root_designated (document : Document) :
    document.mutationRoot = (document.designated? .mutation "Mutation").getD "Mutation" := by
  rw [Document.mutationRoot, Document.root_named, Document.designated?]
  cases document.named? .mutation with
  | some name => rfl
  | none => split <;> rfl

theorem type_entries (document : Document) :
    document.filterMap Document.typeEntry? = document.types.map fun definition => (definition.name, definition.body.kind) := by
  rw [Document.types, List.map_filterMap]
  refine congrArg (List.filterMap · document) (funext fun definition => ?_)
  cases definition <;> rfl

-- A default name takes effect although a schema definition names no mutation root.
def Document.StrayMutations (document : Document) : Prop :=
  document.designated? .mutation "Mutation" = none ∧ document.designated? .query "Query" ≠ some "Mutation" ∧
    document.declaredFields "Mutation" ≠ []

-- One type with fields is both roots.
def Document.SharedRoot (document : Document) : Prop :=
  ∃ root, document.designated? .mutation "Mutation" = some root ∧ document.designated? .query "Query" = some root ∧
    document.declaredFields root ≠ []

end Sdl

theorem of_document_parts (first second : Sdl.Document) (blocks : first.blocks = second.blocks)
    (types : first.types = second.types) : Schema.ofDocument first = Schema.ofDocument second := by
  have roots (kind : Sdl.RootKind) (default : String) : first.root kind default = second.root kind default := by
    rw [Sdl.Document.root_named, Sdl.Document.root_named, Sdl.Document.named?, blocks, ← Sdl.Document.named?]
  have fields (name : String) : first.declaredFields name = second.declaredFields name := by
    rw [Sdl.Document.declaredFields, types, ← Sdl.Document.declaredFields]
  simp only [Schema.ofDocument, Sdl.Document.object_fields_declared, Sdl.Document.queryRoot,
    Sdl.Document.mutationRoot, Sdl.type_entries, types, roots, fields]

theorem schema_parse_ok (text : String) (document : Sdl.Document) (parsed : Sdl.parseDocument text = .ok document) :
    Schema.parse text = .ok (Schema.ofDocument document) := by
  unfold Schema.parse
  rw [parsed]

theorem of_document_queries (document : Sdl.Document) (sound : ∀ definition ∈ document, definition.fault? = none) :
    (Schema.ofDocument document).queries = (document.designated? .query "Query").elim [] document.declaredFields := by
  rw [Sdl.query_root_designated document sound]
  exact Sdl.Document.object_fields_declared document _

theorem of_document_mutations (document : Sdl.Document) (sound : ∀ definition ∈ document, definition.fault? = none) :
    (Schema.ofDocument document).mutations =
      if some ((document.designated? .mutation "Mutation").getD "Mutation") = document.designated? .query "Query" then []
      else document.declaredFields ((document.designated? .mutation "Mutation").getD "Mutation") := by
  rw [Sdl.query_root_designated document sound, ← Sdl.mutation_root_designated, ← Sdl.Document.object_fields_declared]
  simp only [Option.some.injEq]
  rfl

theorem roots_designated (text : String) (document : Sdl.Document) (parsed : Sdl.parseDocument text = .ok document) :
    ∃ schema, Schema.parse text = .ok schema ∧
      schema.queries = (document.designated? .query "Query").elim [] document.declaredFields ∧
      (schema.mutations = (document.designated? .mutation "Mutation").elim [] document.declaredFields ↔
        ¬ (document.StrayMutations ∨ document.SharedRoot)) ∧
      (document.StrayMutations → schema.mutations = document.declaredFields "Mutation") ∧
      (document.SharedRoot → schema.mutations = []) ∧
      ∀ other moved, Sdl.parseDocument other = .ok moved → moved.blocks = document.blocks →
        moved.types = document.types → Schema.parse other = .ok schema := by
  have sound := ((Sdl.parse_document_ok_iff text document).mp parsed).2
  have mutations := of_document_mutations document sound
  have stray : document.StrayMutations → (Schema.ofDocument document).mutations = document.declaredFields "Mutation" := by
    rintro ⟨unnamed, apart, _⟩
    rw [mutations, unnamed]
    exact if_neg apart.symm
  have shared : document.SharedRoot → (Schema.ofDocument document).mutations = [] := by
    rintro ⟨root, named, same, _⟩
    rw [mutations, named, same]
    exact if_pos rfl
  refine ⟨_, schema_parse_ok text document parsed, of_document_queries document sound, ⟨?_, ?_⟩, stray, shared, ?_⟩
  · rintro right (⟨unnamed, apart, some⟩ | ⟨root, named, same, some⟩)
    · rw [stray ⟨unnamed, apart, some⟩, unnamed] at right
      exact some right
    · rw [shared ⟨root, named, same, some⟩, named] at right
      exact some right.symm
  · intro neither
    obtain ⟨noStray, noShared⟩ := not_or.mp neither
    rw [mutations]
    cases named : document.designated? .mutation "Mutation" with
    | none =>
        split
        · rfl
        · rename_i apart
          exact Classical.not_not.mp fun some => noStray ⟨named, Ne.symm apart, some⟩
    | some root =>
        split
        · rename_i same
          exact (Classical.not_not.mp fun some => noShared ⟨root, named, same.symm, some⟩).symm
        · rfl
  · intro other moved read blocks types
    rw [schema_parse_ok other moved read, of_document_parts moved document blocks types]

def changeText : String :=
  "type Change \x7b b: Int \x7d type Mutation \x7b c: Int \x7d schema \x7b query: Root mutation: Change \x7d " ++
    "extend type Change \x7b d(id: ID!): Int \x7d type Root \x7b a: Int \x7d"

theorem change_root_designated :
    ∃ document schema, Sdl.parseDocument changeText = .ok document ∧ Schema.parse changeText = .ok schema ∧
      document.designated? .mutation "Mutation" = some "Change" ∧
      schema.queries = [⟨"a", .named "Int", []⟩] ∧
      schema.mutations = [⟨"b", .named "Int", []⟩, ⟨"d", .named "Int", [⟨"id", .nonNull (.named "ID")⟩]⟩] := by
  have checked : (Sdl.parseDocument changeText).toOption.any fun document =>
      document.designated? .query "Query" = some "Root" ∧ document.designated? .mutation "Mutation" = some "Change" ∧
        document.declaredFields "Root" = [⟨"a", .named "Int", []⟩] ∧
        document.declaredFields "Change" =
          [⟨"b", .named "Int", []⟩, ⟨"d", .named "Int", [⟨"id", .nonNull (.named "ID")⟩]⟩] := by
    decide +kernel
  obtain ⟨document, parsed, holds⟩ := (ok_any_iff _ _).mp checked
  obtain ⟨query, mutation, rootFields, changeFields⟩ := of_decide_eq_true holds
  obtain ⟨schema, read, queries, mutations, _⟩ := roots_designated changeText document parsed
  refine ⟨document, schema, parsed, read, mutation, ?_, ?_⟩
  · rw [queries, query]
    exact rootFields
  · rw [mutations.mpr ?_, mutation]
    · exact changeFields
    · rintro (⟨unnamed, _⟩ | ⟨root, named, same, _⟩)
      · exact absurd (unnamed.symm.trans mutation) (by decide)
      · exact absurd (named.symm.trans mutation ▸ same.symm.trans query) (by decide)

def strayText : String :=
  "schema \x7b query: Query \x7d type Query \x7b a: Int \x7d type Mutation \x7b b: Int \x7d"

def sharedText : String := "schema \x7b query: Root mutation: Root \x7d type Root \x7b a: Int \x7d"

theorem undesignated_mutations_listed :
    (∃ document schema, Sdl.parseDocument strayText = .ok document ∧ Schema.parse strayText = .ok schema ∧
        (∃ block ∈ document.blocks, block.extend = false) ∧ document.named? .mutation = none ∧
        schema.mutations = [⟨"b", .named "Int", []⟩]) ∧
      ∃ document schema, Sdl.parseDocument sharedText = .ok document ∧ Schema.parse sharedText = .ok schema ∧
        document.named? .mutation = some "Root" ∧ document.declaredFields "Root" = [⟨"a", .named "Int", []⟩] ∧
        schema.mutations = [] := by
  have stray : (Sdl.parseDocument strayText).toOption.any fun document =>
      (∃ block ∈ document.blocks, block.extend = false) ∧ document.named? .mutation = none ∧
        (Schema.ofDocument document).mutations = [⟨"b", .named "Int", []⟩] := by
    decide +kernel
  have shared : (Sdl.parseDocument sharedText).toOption.any fun document =>
      document.named? .mutation = some "Root" ∧ document.declaredFields "Root" = [⟨"a", .named "Int", []⟩] ∧
        (Schema.ofDocument document).mutations = [] := by
    decide +kernel
  obtain ⟨document, parsed, holds⟩ := (ok_any_iff _ _).mp stray
  obtain ⟨document', parsed', holds'⟩ := (ok_any_iff _ _).mp shared
  exact ⟨⟨document, _, parsed, schema_parse_ok _ _ parsed, of_decide_eq_true holds⟩,
    document', _, parsed', schema_parse_ok _ _ parsed', of_decide_eq_true holds'⟩

end TypedQuery
