import TypedQuery.Client
import TypedQuery.Proofs.Lookup
import TypedQuery.Proofs.Outcome

/-!
What a registry holds after its schemas were taken over. Every entry stands under its field's own
name, and a schema without repeated names is held as it is.
-/

set_option autoImplicit false

namespace TypedQuery

def Schema.rootFields (schema : Schema) : OperationKind → List FieldDescriptor
  | .query => schema.queries
  | .mutation => schema.mutations

structure Schema.Distinct (schema : Schema) : Prop where
  fields : ∀ kind, ((schema.rootFields kind).map (·.name)).Nodup
  arguments : ∀ kind, ∀ field ∈ schema.rootFields kind, (field.arguments.map (·.name)).Nodup

instance everyKindDecidable (holds : OperationKind → Prop) [∀ kind, Decidable (holds kind)] :
    Decidable (∀ kind, holds kind) :=
  decidable_of_iff (holds .query ∧ holds .mutation)
    ⟨fun ⟨query, mutation⟩ kind => by cases kind <;> assumption, fun every => ⟨every .query, every .mutation⟩⟩

instance (schema : Schema) : Decidable schema.Distinct :=
  decidable_of_iff (_ ∧ _)
    ⟨fun ⟨fields, arguments⟩ => ⟨fields, arguments⟩, fun ⟨fields, arguments⟩ => ⟨fields, arguments⟩⟩

def Registry.operations (registry : Registry) : OperationKind → OrderedMap FieldDescriptor
  | .query => registry.queries
  | .mutation => registry.mutations

def Registry.Named (registry : Registry) : Prop :=
  ∀ kind name field, (name, field) ∈ registry.operations kind → field.name = name

theorem insert_all_member (map : OrderedMap FieldDescriptor) (fields : List FieldDescriptor) (name : String)
    (field : FieldDescriptor) (member : (name, field) ∈ Registry.insertAll map fields) :
    (name, field) ∈ map ∨ (field ∈ fields ∧ field.name = name) := by
  induction fields generalizing map with
  | nil => exact .inl member
  | cons head rest ih =>
      rcases ih (map.insert head.name head) member with earlier | ⟨later, named⟩
      · rcases insert_member _ _ _ _ _ earlier with ⟨same, rfl⟩ | old
        · exact .inr ⟨List.mem_cons_self, same.symm⟩
        · exact .inl old
      · exact .inr ⟨List.mem_cons_of_mem _ later, named⟩

theorem insert_all_keeps (map : OrderedMap FieldDescriptor) (fields : List FieldDescriptor) (name : String)
    (field : FieldDescriptor) (fresh : name ∉ fields.map (·.name)) (member : (name, field) ∈ map) :
    (name, field) ∈ Registry.insertAll map fields := by
  induction fields generalizing map with
  | nil => exact member
  | cons head rest ih =>
      simp only [List.map_cons, List.mem_cons, not_or] at fresh
      exact ih (map.insert head.name head) fresh.2 (insert_keeps _ _ _ _ _ fresh.1 member)

theorem insert_all_complete (map : OrderedMap FieldDescriptor) (fields : List FieldDescriptor)
    (distinct : (fields.map (·.name)).Nodup) (field : FieldDescriptor) (member : field ∈ fields) :
    (field.name, field) ∈ Registry.insertAll map fields := by
  induction fields generalizing map with
  | nil => simp at member
  | cons head rest ih =>
      rw [List.map_cons, List.nodup_cons] at distinct
      rcases List.mem_cons.mp member with rfl | later
      · exact insert_all_keeps _ rest field.name field distinct.1 (insert_present _ _ map)
      · exact ih (map.insert head.name head) distinct.2 later

theorem fields_member (registry : Registry) (field : FieldDescriptor) (kind : OperationKind) :
    (field, kind) ∈ registry.fields ↔ ∃ name, (name, field) ∈ registry.operations kind := by
  cases kind <;> simp [Registry.fields, Registry.operations]

theorem lookup_member (registry : Registry) (name : String) (field : FieldDescriptor) (kind : OperationKind)
    (found : registry.lookup name = some (field, kind)) : (name, field) ∈ registry.operations kind := by
  unfold Registry.lookup at found
  split at found
  · rename_i query
    cases found
    exact get_member registry.queries name field query
  · obtain ⟨mutation, stored, same⟩ := Option.map_eq_some_iff.mp found
    cases same
    exact get_member registry.mutations name field stored

theorem merge_operations (registry : Registry) (schema : Schema) (kind : OperationKind) :
    (registry.merge schema).operations kind = Registry.insertAll (registry.operations kind) (schema.rootFields kind) := by
  cases kind <;> rfl

theorem empty_operations (kind : OperationKind) : Registry.empty.operations kind = [] := by
  cases kind <;> rfl

theorem merge_named (registry : Registry) (schema : Schema) (named : registry.Named) :
    (registry.merge schema).Named := by
  intro kind name field member
  rw [merge_operations] at member
  rcases insert_all_member _ _ name field member with earlier | ⟨_, same⟩
  · exact named kind name field earlier
  · exact same

theorem load_parsed (registry : Registry) (text : String) (schema : Schema) (parsed : Schema.parse text = .ok schema) :
    registry.load text = (.ok (), registry.merge schema) := by
  unfold Registry.load
  rw [parsed]

theorem load_refused (registry : Registry) (text : String) (error : SchemaError)
    (refused : Schema.parse text = .error error) : registry.load text = (.error error, registry) := by
  unfold Registry.load
  rw [refused]

theorem load_all_parsed (registry : Registry) (text : String) (rest : List String) (schema : Schema)
    (parsed : Schema.parse text = .ok schema) :
    registry.loadAll (text :: rest) = (registry.merge schema).loadAll rest := by
  change (if (registry.load text).1.isOk then (registry.load text).2.loadAll rest else registry.load text) = _
  rw [load_parsed registry text schema parsed]
  rfl

theorem load_all_refused (registry : Registry) (text : String) (rest : List String) (error : SchemaError)
    (refused : Schema.parse text = .error error) : registry.loadAll (text :: rest) = (.error error, registry) := by
  change (if (registry.load text).1.isOk then (registry.load text).2.loadAll rest else registry.load text) = _
  rw [load_refused registry text error refused]
  rfl

theorem load_all_named (texts : List String) (registry : Registry) (named : registry.Named) :
    (registry.loadAll texts).2.Named := by
  induction texts generalizing registry with
  | nil => exact named
  | cons text rest ih =>
      cases parsed : Schema.parse text with
      | error error =>
          rw [load_all_refused registry text rest error parsed]
          exact named
      | ok schema =>
          rw [load_all_parsed registry text rest schema parsed]
          exact ih _ (merge_named registry schema named)

theorem built_registry (builder : ClientBuilder) (client : Client) (built : builder.build = .ok client) :
    Registry.empty.loadAll builder.schemas = (.ok (), client.registry) := by
  unfold ClientBuilder.build at built
  split at built
  · simp at built
  · simp only [bind_ok_iff, map_error_ok_iff, Except.ok.injEq] at built
    obtain ⟨_, loaded, headers, _, rfl⟩ := built
    exact Prod.ext loaded rfl

theorem built_named (builder : ClientBuilder) (client : Client) (built : builder.build = .ok client) :
    client.registry.Named := by
  have start : Registry.empty.Named := by
    intro kind name field member
    simp [empty_operations] at member
  have named := load_all_named builder.schemas Registry.empty start
  rwa [built_registry builder client built] at named

theorem loaded_alone (text : String) (schema : Schema) (builder : ClientBuilder) (client : Client)
    (parsed : Schema.parse text = .ok schema) (only : builder.schemas = [text]) (built : builder.build = .ok client) :
    client.registry = Registry.empty.merge schema := by
  have loaded := built_registry builder client built
  rw [only, load_all_parsed _ text [] schema parsed] at loaded
  exact (Prod.mk.inj loaded).2.symm

def Client.ofSchema (schema : Schema) : Client :=
  ⟨Registry.empty.merge schema, ClientConfig.default, RetryPolicy.never⟩

theorem build_loaded (builder : ClientBuilder) (text : String) (schema : Schema) (headers : OrderedMap String)
    (parsed : Schema.parse text = .ok schema) (only : builder.schemas = [text])
    (checked : Header.checkAll builder.headers = .ok headers) (positive : builder.config.selectionDepth ≠ 0) :
    builder.build =
      .ok ⟨Registry.empty.merge schema, { builder.config with headers := headers }, builder.retry⟩ := by
  have loaded : Registry.empty.loadAll [text] = (.ok (), Registry.empty.merge schema) :=
    load_all_parsed _ text [] schema parsed
  simp only [ClientBuilder.build, if_neg positive, only, loaded, checked]
  rfl

theorem build_alone (text : String) (schema : Schema) (parsed : Schema.parse text = .ok schema) :
    (ClientBuilder.new.withSchema text).build = .ok (Client.ofSchema schema) :=
  build_loaded _ text schema [] parsed rfl rfl (Nat.succ_ne_zero 2)

theorem alone_fields_member (schema : Schema) (distinct : schema.Distinct) (field : FieldDescriptor)
    (kind : OperationKind) :
    (field, kind) ∈ (Registry.empty.merge schema).fields ↔ field ∈ schema.rootFields kind := by
  rw [fields_member, merge_operations]
  constructor
  · rintro ⟨name, member⟩
    rcases insert_all_member _ _ name field member with earlier | ⟨declared, _⟩
    · simp [empty_operations] at earlier
    · exact declared
  · intro declared
    exact ⟨field.name, insert_all_complete _ _ (distinct.fields kind) field declared⟩

end TypedQuery
