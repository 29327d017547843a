import TypedQuery.Proofs.Registry
import TypedQuery.Proofs.Requests

/-!
What the comparison with a schema says about the operations of a client. A field is compared with the
first root field of its name, queries first, and only the client's arguments are looked up there.
-/

set_option autoImplicit false

namespace TypedQuery

-- A declaration that has a field's type, and each of its arguments with the same type.
structure FieldDescriptor.Covers (reference field : FieldDescriptor) : Prop where
  type : reference.type = field.type
  arguments : ∀ argument ∈ field.arguments, ∃ declared,
    reference.argument? argument.name = some declared ∧ declared.type = argument.type

instance (reference field : FieldDescriptor) : Decidable (reference.Covers field) :=
  decidable_of_iff (reference.type = field.type ∧ ∀ argument ∈ field.arguments,
      (reference.argument? argument.name).map (·.type) = some argument.type)
    ⟨fun ⟨type, each⟩ => ⟨type, by simpa using each⟩, fun ⟨type, each⟩ => ⟨type, by simpa using each⟩⟩

def Silent (oracle : TypeOracle) : Prop := ∀ type schema, oracle type schema = []

def Approves (oracle : TypeOracle) (schema : Schema) (field : FieldDescriptor) : Prop :=
  oracle field.type schema = [] ∧ ∀ argument ∈ field.arguments, oracle argument.type schema = []

-- The search for a name, queries first, does not end in the root of the other kind. A query may
-- share its name with a mutation, a mutation may not share its name with a query.
def Schema.Unshadowed (schema : Schema) (name : String) : OperationKind → Prop
  | .query => (schema.query? name).isSome ∨ schema.mutation? name = none
  | .mutation => schema.query? name = none

-- The query root requires an argument of a field: it is not nullable and has no default.
def Sdl.Document.Requires (document : Sdl.Document) (field argument : String) : Prop :=
  ∃ declared ∈ document.objectFields document.queryRoot, declared.name = field ∧
    ∃ value ∈ declared.arguments, value.name = argument ∧ value.type.isNonNull ∧ value.default.isNone

instance (document : Sdl.Document) (field argument : String) : Decidable (document.Requires field argument) :=
  inferInstanceAs (Decidable (∃ declared ∈ document.objectFields document.queryRoot, declared.name = field ∧
    ∃ value ∈ declared.arguments, value.name = argument ∧ value.type.isNonNull ∧ value.default.isNone))

theorem covers_self (field : FieldDescriptor) (distinct : (field.arguments.map (·.name)).Nodup) :
    field.Covers field :=
  ⟨rfl, fun argument member =>
    ⟨argument, find_named ArgumentDescriptor.name field.arguments distinct argument member, rfl⟩⟩

theorem argument_problems_none (oracle : TypeOracle) (schema : Schema) (field : String)
    (reference : FieldDescriptor) (argument : ArgumentDescriptor) :
    argumentProblems oracle schema field reference argument = [] ↔
      (∃ declared, reference.argument? argument.name = some declared ∧ declared.type = argument.type) ∧
        oracle argument.type schema = [] := by
  unfold argumentProblems
  cases found : reference.argument? argument.name with
  | none => simp
  | some declared =>
      by_cases same : argument.type = declared.type
      · simp [same]
      · simp [same, Ne.symm same]

theorem field_problems_none (oracle : TypeOracle) (schema : Schema) (field : FieldDescriptor) :
    fieldProblems oracle schema field = [] ↔
      (∃ reference, schema.root? field.name = some reference ∧ reference.Covers field) ∧
        Approves oracle schema field := by
  unfold fieldProblems
  cases found : schema.root? field.name with
  | none => simp
  | some reference =>
      simp only [List.append_eq_nil_iff, List.flatMap_eq_nil_iff, argument_problems_none, ite_eq_right_iff,
        List.cons_ne_nil, imp_false, ne_eq, Decidable.not_not, Option.some.injEq, exists_eq_left', Approves]
      constructor
      · rintro ⟨⟨type, silent⟩, each⟩
        exact ⟨⟨type.symm, fun argument member => (each argument member).1⟩, silent,
          fun argument member => (each argument member).2⟩
      · rintro ⟨covers, silent, each⟩
        exact ⟨⟨covers.type.symm, silent⟩, fun argument member =>
          ⟨covers.arguments argument member, each argument member⟩⟩

theorem report_ok (report : Report) : report.toExcept = .ok () ↔ report.problems = [] := by
  obtain ⟨problems⟩ := report
  cases problems <;> simp [Report.toExcept, Report.failure?, Report.isOk]

theorem validate_report (client : Client) (oracle : TypeOracle) (text : String) (session : Session) (schema : Schema)
    (parsed : Schema.parse text = .ok schema) :
    (client.validate oracle text session).1 =
      (validateAll oracle schema (client.registry.fields.map Prod.fst)).toExcept := by
  unfold Client.validate
  rw [parsed]

theorem validate_ok_iff (client : Client) (oracle : TypeOracle) (text : String) (session : Session) :
    (client.validate oracle text session).1 = .ok () ↔
      ∃ schema, Schema.parse text = .ok schema ∧ ∀ field kind, (field, kind) ∈ client.registry.fields →
        (∃ reference, schema.root? field.name = some reference ∧ reference.Covers field) ∧
          Approves oracle schema field := by
  cases parsed : Schema.parse text with
  | error fault =>
      unfold Client.validate
      rw [parsed]
      simp
  | ok schema =>
      rw [validate_report client oracle text session schema parsed]
      simp [report_ok, validateAll, field_problems_none]

theorem root_unshadowed (schema : Schema) (name : String) (kind : OperationKind) (reference : FieldDescriptor)
    (unshadowed : schema.Unshadowed name kind) (found : schema.root? name = some reference) :
    reference ∈ schema.rootFields kind ∧ reference.name = name := by
  unfold Schema.root? at found
  cases kind with
  | query =>
      cases query : schema.query? name with
      | none =>
          rcases unshadowed with declared | absent
          · simp [query] at declared
          · simp [query, absent] at found
      | some field =>
          have same : field = reference := by simpa [query] using found
          exact find_name FieldDescriptor.name schema.queries name reference (same ▸ query)
  | mutation =>
      rw [show schema.query? name = none from unshadowed, Option.none_or] at found
      exact find_name FieldDescriptor.name schema.mutations name reference found

theorem query_reference (schema : Schema) (distinct : schema.Distinct) (query : FieldDescriptor)
    (member : query ∈ schema.queries) : schema.root? query.name = some query := by
  have declared : schema.query? query.name = some query :=
    find_named FieldDescriptor.name schema.queries (distinct.fields .query) query member
  rw [Schema.root?, declared, Option.some_or]

-- A mutation is looked up behind the queries, so what holds of the declaration that is found holds of
-- the query of its name if there is one.
theorem mutation_reference (schema : Schema) (distinct : schema.Distinct)
    (mutation : FieldDescriptor) (member : mutation ∈ schema.mutations) (good : FieldDescriptor → Prop)
    (own : good mutation) :
    (∃ reference, schema.root? mutation.name = some reference ∧ good reference) ↔
      ∀ query ∈ schema.queries, query.name = mutation.name → good query := by
  have declared : schema.mutation? mutation.name = some mutation :=
    find_named FieldDescriptor.name schema.mutations (distinct.fields .mutation) mutation member
  constructor
  · rintro ⟨reference, found, holds⟩ query among named
    rw [← named, query_reference schema distinct query among] at found
    exact Option.some.inj found ▸ holds
  · intro every
    cases search : schema.query? mutation.name with
    | none => exact ⟨mutation, by rw [Schema.root?, search, declared, Option.none_or], own⟩
    | some query =>
        obtain ⟨among, named⟩ := find_name FieldDescriptor.name schema.queries mutation.name query search
        exact ⟨query, by rw [Schema.root?, search, Option.some_or], every query among named⟩

theorem self_validation_exact (text : String) (schema : Schema) (oracle : TypeOracle) (builder : ClientBuilder)
    (client : Client) (session : Session) (parsed : Schema.parse text = .ok schema)
    (distinct : schema.Distinct) (silent : Silent oracle) (only : builder.schemas = [text])
    (built : builder.build = .ok client) :
    ((client.validate oracle text session).1 = .ok () ↔
      ∀ mutation ∈ schema.mutations, ∀ query ∈ schema.queries, query.name = mutation.name → query.Covers mutation) ∧
    ∀ field kind, (field, kind) ∈ client.registry.fields →
      (schema.root? field.name = some field ↔
        kind = .query ∨ ∀ query ∈ schema.queries, query.name = field.name → query = field) := by
  have registered (field : FieldDescriptor) (kind : OperationKind) :
      (field, kind) ∈ client.registry.fields ↔ field ∈ schema.rootFields kind := by
    rw [loaded_alone text schema builder client parsed only built]
    exact alone_fields_member schema distinct field kind
  have approved (field : FieldDescriptor) : Approves oracle schema field :=
    ⟨silent _ _, fun argument _ => silent argument.type schema⟩
  constructor
  · have covered (mutation : FieldDescriptor) (member : mutation ∈ schema.mutations) :=
      mutation_reference schema distinct mutation member (fun reference => reference.Covers mutation)
        (covers_self mutation (distinct.arguments .mutation mutation member))
    simp only [validate_ok_iff, parsed, Except.ok.injEq, exists_eq_left', approved, and_true, registered]
    constructor
    · intro passed mutation member
      exact (covered mutation member).mp (passed mutation .mutation member)
    · intro every field kind member
      cases kind with
      | query =>
          exact ⟨field, query_reference schema distinct field member,
            covers_self field (distinct.arguments .query field member)⟩
      | mutation => exact (covered field member).mpr (every field member)
  · intro field kind member
    rw [registered] at member
    cases kind with
    | query => simpa using query_reference schema distinct field member
    | mutation =>
        have same := mutation_reference schema distinct field member (fun reference => reference = field) rfl
        simpa using same

def rootTypes : OrderedMap TypeKind :=
  OrderedMap.ofList (Schema.builtinScalars.map (·, TypeKind.scalar) ++ [("Query", .object), ("Mutation", .object)])

def agreeingRoots : String :=
  "type Query \x7b item(id: ID!): [Int] shared(to: ID): Int \x7d type Mutation \x7b drop: Int shared: Int \x7d"

def agreeingSchema : Schema where
  queries := [⟨"item", .list (.named "Int"), [⟨"id", .nonNull (.named "ID")⟩]⟩,
    ⟨"shared", .named "Int", [⟨"to", .named "ID"⟩]⟩]
  mutations := [⟨"drop", .named "Int", []⟩, ⟨"shared", .named "Int", []⟩]
  types := rootTypes

theorem agreeing_roots_pass :
    Schema.parse agreeingRoots = .ok agreeingSchema ∧
      agreeingSchema.Distinct ∧ Silent (fun _ _ => []) ∧
      (ClientBuilder.new.withSchema agreeingRoots).build = .ok (Client.ofSchema agreeingSchema) ∧
      ((Client.ofSchema agreeingSchema).validate (fun _ _ => []) agreeingRoots Session.start).1 = .ok () := by
  have parsed : Schema.parse agreeingRoots = .ok agreeingSchema := by decide +kernel
  have distinct : agreeingSchema.Distinct := by decide
  have silent : Silent (fun _ _ => []) := fun _ _ => rfl
  have built := build_alone agreeingRoots agreeingSchema parsed
  obtain ⟨exact, _⟩ := self_validation_exact agreeingRoots agreeingSchema (fun _ _ => [])
    (ClientBuilder.new.withSchema agreeingRoots) _ Session.start parsed distinct silent rfl built
  exact ⟨parsed, distinct, silent, built, exact.mpr (by decide)⟩

def rivalRoots : String :=
  "type Query \x7b item(id: ID!): Int shared: Int \x7d type Mutation \x7b drop: Int shared: String \x7d"

def rivalSchema : Schema where
  queries := [⟨"item", .named "Int", [⟨"id", .nonNull (.named "ID")⟩]⟩, ⟨"shared", .named "Int", []⟩]
  mutations := [⟨"drop", .named "Int", []⟩, ⟨"shared", .named "String", []⟩]
  types := rootTypes

theorem rival_roots_fail :
    Schema.parse rivalRoots = .ok rivalSchema ∧
      rivalSchema.Distinct ∧ Silent (fun _ _ => []) ∧
      (ClientBuilder.new.withSchema rivalRoots).build = .ok (Client.ofSchema rivalSchema) ∧
      ((Client.ofSchema rivalSchema).validate (fun _ _ => []) rivalRoots Session.start).1 =
        .error (.validation "1 incompatibilities with schema"
          ["Result type of shared does not match result type in schema."]) := by
  have parsed : Schema.parse rivalRoots = .ok rivalSchema := by decide +kernel
  refine ⟨parsed, by decide, fun _ _ => rfl, build_alone rivalRoots rivalSchema parsed, ?_⟩
  rw [validate_report _ _ _ _ _ parsed]
  decide

theorem target_ok {α : Type} (client : Client) (call : Call α) (target : Target) (found : client.target call = .ok target) :
    client.registry.lookup call.name = some (target.field, target.kind) ∧ target.name = call.name := by
  unfold Client.target at found
  split at found
  · simp at found
  · split at found
    · simp at found
    · rename_i present
      cases found
      exact ⟨present, rfl⟩

theorem prepare_ok {α : Type} (client : Client) (models : ModelTable) (call : Call α) (session : Session) (request : Request) :
    (client.prepare models call session).1 = .ok request ↔
      ∃ target, client.target call = .ok target ∧ target.build models call.arguments = .ok request := by
  rw [← bind_ok_iff, ← Client.request, Client.prepare]
  cases client.request models call <;> simp

theorem validated_requests_declared (builder : ClientBuilder) (client : Client) (oracle : TypeOracle) (text : String)
    (session : Session) (built : builder.build = .ok client)
    (validated : (client.validate oracle text session).1 = .ok ()) :
    ∃ schema, Schema.parse text = .ok schema ∧
      (∀ field kind, (field, kind) ∈ client.registry.fields → schema.Unshadowed field.name kind →
        ∃ reference ∈ schema.rootFields kind, reference.name = field.name ∧ reference.Covers field) ∧
      ∀ (α : Type) models (call : Call α) before request, (client.prepare models call before).1 = .ok request →
        ∃ (target : Target) (bound : List ArgumentDescriptor),
          client.registry.lookup call.name = some (target.field, target.kind) ∧
          request.query = (target.operation models bound).render ∧ target.name = call.name ∧
          (schema.Unshadowed call.name target.kind →
            ∃ reference ∈ schema.rootFields target.kind, reference.name = call.name ∧
              reference.Covers { target.field with arguments := bound } ∧
              ∀ argument ∈ target.field.arguments, ∀ declared, reference.argument? argument.name = some declared →
                declared.type.isNonNull → argument ∈ bound) := by
  obtain ⟨schema, parsed, passed⟩ := (validate_ok_iff client oracle text session).mp validated
  have declared (field : FieldDescriptor) (kind : OperationKind) (member : (field, kind) ∈ client.registry.fields)
      (unshadowed : schema.Unshadowed field.name kind) :
      ∃ reference ∈ schema.rootFields kind, reference.name = field.name ∧ reference.Covers field := by
    obtain ⟨⟨reference, found, covers⟩, _⟩ := passed field kind member
    obtain ⟨among, named⟩ := root_unshadowed schema field.name kind reference unshadowed found
    exact ⟨reference, among, named, covers⟩
  refine ⟨schema, parsed, declared, ?_⟩
  intro α models call before request prepared
  obtain ⟨target, targeted, made⟩ := (prepare_ok client models call before request).mp prepared
  obtain ⟨found, called⟩ := target_ok client call target targeted
  have stored := lookup_member client.registry call.name target.field target.kind found
  have named := built_named builder client built target.kind call.name target.field stored
  obtain ⟨admissible, rfl⟩ := (build_ok models target call.arguments request).mp made
  have fit := (slots_fit _ call.arguments).mpr admissible.fitting
  refine ⟨target, _, found, rfl, called, ?_⟩
  intro unshadowed
  obtain ⟨reference, among, same, covers⟩ := declared target.field target.kind
    ((fields_member _ _ _).mpr ⟨call.name, stored⟩) (named ▸ unshadowed)
  refine ⟨reference, among, same.trans named, ⟨covers.type, ?_⟩, ?_⟩
  · intro argument member
    dsimp only at member
    rw [supplied_declared _ _ fit] at member
    exact covers.arguments argument ((present_slots_sublist _ _).subset member)
  · intro argument member other matched required
    obtain ⟨found, looked, equal⟩ := covers.arguments argument member
    have chosen : other = found := Option.some.inj (matched.symm.trans looked)
    exact required_supplied _ _ fit argument member (by rw [← equal, ← chosen]; exact required)

def narrowText : String :=
  "type Query \x7b item(id: ID!): Int \x7d type Mutation \x7b drop(id: ID!, hint: String): Boolean \x7d"

def narrowSchema : Schema where
  queries := [⟨"item", .named "Int", [⟨"id", .nonNull (.named "ID")⟩]⟩]
  mutations := [⟨"drop", .named "Boolean", [⟨"id", .nonNull (.named "ID")⟩, ⟨"hint", .named "String"⟩]⟩]
  types := rootTypes

theorem narrow_parsed : Schema.parse narrowText = .ok narrowSchema := by decide +kernel

def wideText : String :=
  "type Query \x7b item(id: ID!): Int rest: Int \x7d " ++
    "type Mutation \x7b drop(hint: String, id: ID!, page: Int! = 1): Boolean \x7d"

def wideSchema : Schema where
  queries := [⟨"item", .named "Int", [⟨"id", .nonNull (.named "ID")⟩]⟩, ⟨"rest", .named "Int", []⟩]
  mutations := [⟨"drop", .named "Boolean",
    [⟨"hint", .named "String"⟩, ⟨"id", .nonNull (.named "ID")⟩, ⟨"page", .nonNull (.named "Int")⟩]⟩]
  types := rootTypes

def dropCall : Call WireValue :=
  ⟨"drop", "Drop", [.present (.scalar .string) (.ok (.str "n-1"))], ResultType.ofWire Samples.records .bool⟩

def dropRequest : Request :=
  ⟨"mutation Drop($id: ID!) \x7b drop(id: $id) \x7d", "Drop", [("id", .str "n-1")]⟩

theorem drop_declared_after_validation :
    (ClientBuilder.new.withSchema narrowText).build = .ok (Client.ofSchema narrowSchema) ∧
      ((Client.ofSchema narrowSchema).validate (fun _ _ => []) wideText Session.start).1 = .ok () ∧
      ((Client.ofSchema narrowSchema).prepare Samples.models dropCall Session.start).1 = .ok dropRequest ∧
      wideSchema.Unshadowed "drop" .mutation ∧
      ∃ bound, ∃ reference ∈ wideSchema.mutations, reference.name = "drop" ∧
        reference.Covers ⟨"drop", .named "Boolean", bound⟩ ∧ ⟨"id", .nonNull (.named "ID")⟩ ∈ bound := by
  have wide : Schema.parse wideText = .ok wideSchema := by decide +kernel
  have built := build_alone narrowText narrowSchema narrow_parsed
  have validated : ((Client.ofSchema narrowSchema).validate (fun _ _ => []) wideText Session.start).1 = .ok () := by
    rw [validate_report _ _ _ _ _ wide]
    decide
  have prepared : ((Client.ofSchema narrowSchema).prepare Samples.models dropCall Session.start).1 = .ok dropRequest := by
    decide +kernel
  have unshadowed : wideSchema.Unshadowed "drop" .mutation := show wideSchema.query? "drop" = none by decide
  obtain ⟨schema, parsed, _, requests⟩ := validated_requests_declared (ClientBuilder.new.withSchema narrowText)
    (Client.ofSchema narrowSchema) (fun _ _ => []) wideText Session.start built validated
  obtain rfl : wideSchema = schema := Except.ok.inj (wide.symm.trans parsed)
  obtain ⟨target, bound, found, _, _, declared⟩ :=
    requests WireValue Samples.models dropCall Session.start dropRequest prepared
  have registered : (Client.ofSchema narrowSchema).registry.lookup "drop" =
      some (⟨"drop", .named "Boolean", [⟨"id", .nonNull (.named "ID")⟩, ⟨"hint", .named "String"⟩]⟩, .mutation) := by
    decide
  obtain ⟨field, kind⟩ := Prod.mk.inj (Option.some.inj (found.symm.trans registered))
  rw [field, kind] at declared
  obtain ⟨reference, member, named, covers, required⟩ := declared unshadowed
  refine ⟨built, validated, prepared, unshadowed, bound, reference, member, named, covers, ?_⟩
  have only : reference = ⟨"drop", .named "Boolean",
      [⟨"hint", .named "String"⟩, ⟨"id", .nonNull (.named "ID")⟩, ⟨"page", .nonNull (.named "Int")⟩]⟩ := by
    simpa [wideSchema, Schema.rootFields] using member
  exact required ⟨"id", .nonNull (.named "ID")⟩ (by simp) ⟨"id", .nonNull (.named "ID")⟩ (by rw [only]; rfl) rfl

def demandingText : String :=
  "type Query \x7b item(id: ID!, lang: String!): Int \x7d " ++
    "type Mutation \x7b drop(id: ID!, hint: String): Boolean \x7d"

theorem required_argument_passes_unseen :
    (ClientBuilder.new.withSchema narrowText).build = .ok (Client.ofSchema narrowSchema) ∧
      ((Client.ofSchema narrowSchema).validate (fun _ _ => []) demandingText Session.start).1 = .ok () ∧
      (⟨"item", .named "Int", [⟨"id", .nonNull (.named "ID")⟩]⟩, .query) ∈
        (Client.ofSchema narrowSchema).registry.fields ∧
      ∃ document, Sdl.parseDocument demandingText = .ok document ∧ document.Requires "item" "lang" := by
  refine ⟨build_alone narrowText narrowSchema narrow_parsed, ?_, by decide, ?_⟩
  · decide +kernel
  · have checked : (Sdl.parseDocument demandingText).toOption.any fun document => document.Requires "item" "lang" := by
      decide +kernel
    simpa only [ok_any_iff, decide_eq_true_eq] using checked

end TypedQuery
