import TypedQuery.Proofs.Registry

/-!
A registry over a whole run of loads, some of which fail. What it holds under a name is the last
declaration of that name among the texts that were loaded, whatever came between.
-/

set_option autoImplicit false

namespace TypedQuery

def Registry.after (registry : Registry) (text : String) : Registry := (registry.load text).2

def Registry.afterAll (registry : Registry) (texts : List String) : Registry := texts.foldl Registry.after registry

def declaredFields (kind : OperationKind) (text : String) : List FieldDescriptor :=
  (Schema.parse text).toOption.elim [] (·.rootFields kind)

def lastNamed (name : String) (fields : List FieldDescriptor) : Option FieldDescriptor :=
  (fields.filter (·.name = name)).getLast?

def lastDeclared (texts : List String) (kind : OperationKind) (name : String) : Option FieldDescriptor :=
  lastNamed name (texts.flatMap (declaredFields kind))

def Unrelated (first second : String) : Prop :=
  ∀ kind, ∀ field ∈ declaredFields kind first, ∀ other ∈ declaredFields kind second, field.name ≠ other.name

instance (first second : String) : Decidable (Unrelated first second) :=
  inferInstanceAs (Decidable (∀ _ : OperationKind, _))

theorem last_named_cons (name : String) (head : FieldDescriptor) (rest : List FieldDescriptor) :
    lastNamed name (head :: rest) = (lastNamed name rest).or (if head.name = name then some head else none) := by
  unfold lastNamed
  by_cases same : head.name = name
  · rw [List.filter_cons_of_pos (by simpa using same), List.getLast?_cons, if_pos same]
    cases (rest.filter (·.name = name)).getLast? <;> rfl
  · rw [List.filter_cons_of_neg (by simpa using same), if_neg same, Option.or_none]

theorem last_named_some (name : String) (fields : List FieldDescriptor) (field : FieldDescriptor)
    (last : lastNamed name fields = some field) : field ∈ fields ∧ field.name = name := by
  have member := List.mem_of_getLast? last
  simpa using member

theorem get_insert_all (fields : List FieldDescriptor) (map : OrderedMap FieldDescriptor) (name : String) :
    (Registry.insertAll map fields).get? name = (lastNamed name fields).or (map.get? name) := by
  induction fields generalizing map with
  | nil => rfl
  | cons head rest ih =>
      have step := ih (map.insert head.name head)
      rw [get_insert] at step
      rw [last_named_cons, Option.or_assoc]
      refine step.trans (congrArg _ ?_)
      split <;> rfl

theorem insert_all_sorted (fields : List FieldDescriptor) (map : OrderedMap FieldDescriptor) (sorted : map.Sorted) :
    (Registry.insertAll map fields).Sorted := by
  induction fields generalizing map with
  | nil => exact sorted
  | cons head rest ih => exact ih _ (insert_sorted head.name head map sorted)

theorem operations_ext (first second : Registry) (same : ∀ kind, first.operations kind = second.operations kind) :
    first = second := by
  obtain ⟨queries, mutations⟩ := first
  obtain ⟨queries', mutations'⟩ := second
  exact congrArg₂ Registry.mk (same .query) (same .mutation)

theorem after_refused (registry : Registry) (text : String) (error : SchemaError)
    (refused : registry.load text = (.error error, registry)) : registry.after text = registry :=
  congrArg Prod.snd refused

theorem after_loaded (registry : Registry) (text : String) (schema : Schema) (parsed : Schema.parse text = .ok schema) :
    registry.after text = registry.merge schema :=
  congrArg Prod.snd (load_parsed registry text schema parsed)

theorem after_operations (registry : Registry) (text : String) (kind : OperationKind) :
    (registry.after text).operations kind =
      Registry.insertAll (registry.operations kind) (declaredFields kind text) := by
  cases parsed : Schema.parse text with
  | error error =>
      rw [after_refused registry text error (load_refused registry text error parsed), declaredFields, parsed]
      rfl
  | ok schema =>
      rw [after_loaded registry text schema parsed, declaredFields, parsed]
      exact merge_operations registry schema kind

theorem after_all_operations (texts : List String) (registry : Registry) (kind : OperationKind) :
    (registry.afterAll texts).operations kind =
      Registry.insertAll (registry.operations kind) (texts.flatMap (declaredFields kind)) := by
  induction texts generalizing registry with
  | nil => rfl
  | cons text rest ih =>
      rw [List.flatMap_cons, Registry.insertAll, List.foldl_append]
      refine (ih (registry.after text)).trans ?_
      rw [after_operations]
      rfl

theorem loaded_operations (texts : List String) (kind : OperationKind) :
    (Registry.empty.afterAll texts).operations kind =
      Registry.insertAll [] (texts.flatMap (declaredFields kind)) := by
  rw [after_all_operations, empty_operations]

theorem loaded_sorted (texts : List String) (kind : OperationKind) :
    ((Registry.empty.afterAll texts).operations kind).Sorted := by
  rw [loaded_operations]
  exact insert_all_sorted _ _ List.Pairwise.nil

theorem loaded_get (texts : List String) (kind : OperationKind) (name : String) :
    ((Registry.empty.afterAll texts).operations kind).get? name = lastDeclared texts kind name := by
  rw [loaded_operations, get_insert_all]
  exact Option.or_none

theorem loaded_named (texts : List String) : (Registry.empty.afterAll texts).Named := by
  intro kind name field member
  rw [loaded_operations] at member
  rcases insert_all_member _ _ name field member with earlier | ⟨_, named⟩
  · simp at earlier
  · exact named

theorem lookup_operations (registry : Registry) (name : String) :
    registry.lookup name =
      (((registry.operations .query).get? name).map (·, .query)).or
        (((registry.operations .mutation).get? name).map (·, .mutation)) := by
  rw [Registry.lookup]
  change _ = ((registry.queries.get? name).map _).or ((registry.mutations.get? name).map _)
  cases registry.queries.get? name <;> rfl

theorem loaded_lookup (texts : List String) (name : String) :
    (Registry.empty.afterAll texts).lookup name =
      ((lastDeclared texts .query name).map (·, .query)).or ((lastDeclared texts .mutation name).map (·, .mutation)) := by
  rw [lookup_operations, loaded_get, loaded_get]

theorem last_named_absent (name : String) (fields : List FieldDescriptor) (absent : ∀ field ∈ fields, field.name ≠ name) :
    lastNamed name fields = none := by
  have empty : fields.filter (·.name = name) = [] := by simpa [List.filter_eq_nil_iff] using absent
  rw [lastNamed, empty, List.getLast?_nil]

theorem last_named_apart (name : String) (first second : List FieldDescriptor)
    (apart : ∀ field ∈ first, ∀ other ∈ second, field.name ≠ other.name) :
    lastNamed name first = none ∨ lastNamed name second = none := by
  cases found : lastNamed name first with
  | none => exact .inl rfl
  | some field =>
      obtain ⟨member, named⟩ := last_named_some name first field found
      right
      exact last_named_absent name second fun other there => named ▸ (apart field member other there).symm

theorem insert_all_commute (map : OrderedMap FieldDescriptor) (sorted : map.Sorted) (first second : List FieldDescriptor)
    (apart : ∀ field ∈ first, ∀ other ∈ second, field.name ≠ other.name) :
    Registry.insertAll (Registry.insertAll map first) second = Registry.insertAll (Registry.insertAll map second) first := by
  apply sorted_ext _ _ (insert_all_sorted _ _ (insert_all_sorted _ _ sorted))
    (insert_all_sorted _ _ (insert_all_sorted _ _ sorted))
  intro name
  simp only [get_insert_all]
  rcases last_named_apart name first second apart with absent | absent <;> simp [absent]

theorem insert_all_again (map : OrderedMap FieldDescriptor) (sorted : map.Sorted) (fields : List FieldDescriptor) :
    Registry.insertAll (Registry.insertAll map fields) fields = Registry.insertAll map fields := by
  apply sorted_ext _ _ (insert_all_sorted _ _ (insert_all_sorted _ _ sorted)) (insert_all_sorted _ _ sorted)
  intro name
  rw [get_insert_all, get_insert_all, ← Option.or_assoc, Option.or_self]

def Registry.group (registry : Registry) (kind : OperationKind) : List FieldDescriptor :=
  (registry.operations kind).map Prod.snd

theorem fields_grouped (registry : Registry) :
    registry.fields = (registry.group .query).map (·, .query) ++ (registry.group .mutation).map (·, .mutation) := by
  simp [Registry.fields, Registry.group, Registry.operations, Function.comp_def]

theorem group_member (texts : List String) (kind : OperationKind) (field : FieldDescriptor) :
    field ∈ (Registry.empty.afterAll texts).group kind ↔ lastDeclared texts kind field.name = some field := by
  rw [← loaded_get, get_sorted _ (loaded_sorted texts kind), Registry.group, List.mem_map]
  constructor
  · rintro ⟨⟨name, _⟩, member, rfl⟩
    exact (loaded_named texts kind name _ member).symm ▸ member
  · intro member
    exact ⟨_, member, rfl⟩

theorem group_ordered (texts : List String) (kind : OperationKind) :
    ((Registry.empty.afterAll texts).group kind).Pairwise fun first second => first.name < second.name := by
  rw [Registry.group, List.pairwise_map]
  refine (loaded_sorted texts kind).imp_of_mem ?_
  intro first second member member' less
  rwa [loaded_named texts kind _ _ member, loaded_named texts kind _ _ member']

theorem registry_keeps_last_declarations (texts : List String) (registry : Registry)
    (loaded : registry = Registry.empty.afterAll texts) :
    (∀ text error, Schema.parse text = .error error →
        registry.load text = (.error error, registry) ∧ registry.after text = registry) ∧
      (∀ text schema, Schema.parse text = .ok schema → (registry.load text).1 = .ok ()) ∧
      (∀ name, registry.lookup name =
        ((lastDeclared texts .query name).map (·, .query)).or ((lastDeclared texts .mutation name).map (·, .mutation))) ∧
      (∀ name field kind, registry.lookup name = some (field, kind) → field.name = name) ∧
      (registry.fields = (registry.group .query).map (·, .query) ++ (registry.group .mutation).map (·, .mutation) ∧
        ∀ kind, (registry.group kind).Pairwise (fun first second => first.name < second.name) ∧
          ∀ field, field ∈ registry.group kind ↔ lastDeclared texts kind field.name = some field) ∧
      (∀ first second, Unrelated first second →
        (registry.after first).after second = (registry.after second).after first) ∧
      ∀ text, (registry.after text).after text = registry.after text := by
  subst loaded
  refine ⟨?_, ?_, ?_, ?_, ⟨fields_grouped _, ?_⟩, ?_, ?_⟩
  · intro text error refused
    have left := load_refused (Registry.empty.afterAll texts) text error refused
    exact ⟨left, after_refused _ text error left⟩
  · intro text schema parsed
    rw [load_parsed _ text schema parsed]
  · exact loaded_lookup texts
  · intro name field kind found
    exact loaded_named texts kind name field (lookup_member _ name field kind found)
  · exact fun kind => ⟨group_ordered texts kind, group_member texts kind⟩
  · intro first second unrelated
    apply operations_ext
    intro kind
    simp only [after_operations]
    exact insert_all_commute _ (loaded_sorted texts kind) _ _ (unrelated kind)
  · intro text
    apply operations_ext
    intro kind
    simp only [after_operations]
    exact insert_all_again _ (loaded_sorted texts kind) _

def brokenText : String := "type Query \x7b"

def itemTexts : List String :=
  ["type Query \x7b item: Int shared: Int \x7d", brokenText,
    "extend type Query \x7b item: String \x7d type Mutation \x7b shared: ID drop: Int drop: Float \x7d"]

def itemRegistry : Registry := Registry.empty.afterAll itemTexts

theorem item_registry_last :
    (∃ error, Schema.parse brokenText = .error error) ∧
      Unrelated "type Query \x7b item: ID \x7d" "type Mutation \x7b item: Int \x7d" ∧
      itemRegistry.after brokenText = itemRegistry ∧
      itemRegistry.lookup "item" = some (⟨"item", .named "String", []⟩, .query) ∧
      itemRegistry.lookup "shared" = some (⟨"shared", .named "Int", []⟩, .query) ∧
      itemRegistry.lookup "drop" = some (⟨"drop", .named "Float", []⟩, .mutation) ∧
      itemRegistry.lookup "other" = none ∧
      (itemRegistry.after "type Query \x7b item: ID \x7d").after "type Mutation \x7b item: Int \x7d" =
        (itemRegistry.after "type Mutation \x7b item: Int \x7d").after "type Query \x7b item: ID \x7d" := by
  have refused : ∃ error, Schema.parse brokenText = .error error := by
    rw [← is_error_iff]
    decide +kernel
  have unrelated : Unrelated "type Query \x7b item: ID \x7d" "type Mutation \x7b item: Int \x7d" := by decide +kernel
  have queries : itemTexts.flatMap (declaredFields .query) =
      [⟨"item", .named "Int", []⟩, ⟨"shared", .named "Int", []⟩, ⟨"item", .named "String", []⟩] := by decide +kernel
  have mutations : itemTexts.flatMap (declaredFields .mutation) =
      [⟨"shared", .named "ID", []⟩, ⟨"drop", .named "Int", []⟩, ⟨"drop", .named "Float", []⟩] := by decide +kernel
  obtain ⟨failing, _, found, _, _, commute, _⟩ := registry_keeps_last_declarations itemTexts itemRegistry rfl
  simp only [lastDeclared, queries, mutations] at found
  obtain ⟨error, unread⟩ := refused
  exact ⟨⟨error, unread⟩, unrelated, (failing brokenText error unread).2, found "item",
    found "shared", found "drop", found "other", commute _ _ unrelated⟩

end TypedQuery
