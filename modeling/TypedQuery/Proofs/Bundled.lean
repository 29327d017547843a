import Mathlib.Algebra.Group.Int.Defs
import TypedQuery.Hosting.Client
import TypedQuery.Proofs.Encoding
import TypedQuery.Proofs.Roots
import TypedQuery.Proofs.Validation

/-!
The models of the hosting service and its operations. A model names its fields for the wire in its
descriptor and in its record; what a value is written as fits both, so it is accepted, read back, and
taken for a variable of the service's own operation.
-/

set_option autoImplicit false

namespace TypedQuery.Hosting

def Narrow (n : Int) : Prop := -2 ^ 31 ≤ n ∧ n < 2 ^ 31

instance (n : Int) : Decidable (Narrow n) := inferInstanceAs (Decidable (-2 ^ 31 ≤ n ∧ n < 2 ^ 31))

structure Environment.Sound (environment : Environment) : Prop where
  createdAt : ∀ instant ∈ environment.createdAt, instant.Plain

structure Instance.Sound (item : Instance) : Prop where
  createdAt : ∀ instant ∈ item.createdAt, instant.Plain
  replicas : ∀ n ∈ item.replicas, Narrow n
  shards : ∀ n ∈ item.shards, Narrow n
  storageGB : ∀ n ∈ item.storageGB, Narrow n
  env : ∀ environment ∈ item.env, environment.Sound

structure InstanceInput.Sound (input : InstanceInput) : Prop where
  replicas : Narrow input.replicas
  shards : Narrow input.shards
  storageGB : Narrow input.storageGB

-- What a value of a model is written as: its host type accepts it, and a response that carries it under any
-- name is decoded to the value.
structure Agrees {α : Type} (type : WireType) (toWire : α → WireValue) (ofWire? : WireValue → Option α) (model : α)
    (encoding : Json) : Prop where
  written : (toWire model).encode = .ok encoding
  accepted : checkShape models (type.host records) encoding = .ok ()
  decoded : ∀ (fields : Json.Fields) (errors : List Json) (name : String), fields.lookup name = some encoding →
    ∀ (request : Request) (required : Bool), ∃ value,
      Response.decode models (ResultType.ofWire records type) ⟨some (.obj fields), errors⟩ request name required =
        .ok value ∧ ofWire? value = some model

def addingField : FieldDescriptor :=
  ⟨"addDgraphInstance", .nonNull (.named "DgraphInstance"), [⟨"input", .nonNull (.named "DgraphInstanceInput")⟩]⟩

def readingField : FieldDescriptor :=
  ⟨"getDgraphInstance", .named "DgraphInstance", [⟨"dgraphId", .nonNull (.named "ID")⟩]⟩

-- The service's schema, as far as a client needs it.
def serviceSchema : Schema where
  queries :=
    [⟨"getEnvironment", .named "Environment", [⟨"id", .nonNull (.named "ID")⟩]⟩,
      ⟨"queryEnvironment", .nonNull (.list (.nonNull (.named "Environment"))),
        [⟨"name", .list (.nonNull (.named "String"))⟩]⟩,
      readingField,
      ⟨"queryDgraphInstance", .named "DgraphInstance", [⟨"environmentId", .nonNull (.named "ID")⟩]⟩]
  mutations := [addingField, ⟨"deleteDgraphInstance", .named "String", [⟨"dgraphId", .nonNull (.named "ID")⟩]⟩]
  types := OrderedMap.ofList
    (Schema.builtinScalars.map (·, TypeKind.scalar) ++ [("DateTime", .scalar), ("Environment", .object),
      ("EnvironmentReference", .input), ("DgraphCertificates", .object), ("DgraphInstance", .object),
      ("DgraphInstanceInput", .input), ("Query", .object), ("Mutation", .object)])

def readSchema (chars : List Char) : Option (Schema × Option Sdl.SdlFault) :=
  (Sdl.document.run chars).map fun read => (Schema.ofDocument read.1, read.1.findSome? Sdl.Definition.fault?)

structure Offers (client : Client) : Prop where
  adding : client.registry.lookup "addDgraphInstance" = some (addingField, .mutation)
  reading : client.registry.lookup "getDgraphInstance" = some (readingField, .query)

def fieldCall (field : FieldDescriptor) (argument : Argument) (type : WireType) : Call WireValue :=
  ⟨field.name, field.name, [argument], ResultType.ofWire records type⟩

def addingCall (input : InstanceInput) : Call WireValue :=
  fieldCall addingField (Service.argument InstanceInput.type input.toWire) Instance.type

def readingCall (dgraphId : String) : Call WireValue :=
  fieldCall readingField (Service.text dgraphId) (.option Instance.type)

def fieldRequest (client : Client) (field : FieldDescriptor) (kind : OperationKind) (value : Json) : Request :=
  let host := Instance.type.host records
  let target : Target := ⟨kind, field, field.name, field.name, host, client.config.depthFor host⟩
  ⟨(target.operation models field.arguments).render, field.name, field.arguments.map fun declared => (declared.name, value)⟩

def addingRequest (client : Client) (encoding : Json) : Request := fieldRequest client addingField .mutation encoding

def readingRequest (client : Client) (dgraphId : String) : Request :=
  fieldRequest client readingField .query (.str dgraphId)

section

variable {α : Type}

theorem narrow_contained (n : Int) (narrow : Narrow n) : (IntRange.signed 32).contains n := by
  unfold Narrow at narrow
  rw [IntRange.contains, Bool.and_eq_true, decide_eq_true_iff, decide_eq_true_iff]
  change -(Nat.pow 2 31 : Int) ≤ n ∧ n ≤ Nat.pow 2 31 - 1
  rw [show ((Nat.pow 2 31 : Nat) : Int) = 2 ^ 31 from rfl]
  omega

theorem optional_has (inner : WireType) (wrap : α → WireValue) (held : ∀ model, wrap model ≠ .absent) (value : Option α)
    (has : ∀ model ∈ value, inner.Has records (wrap model)) :
    (WireType.option inner).Has records (WireValue.optional wrap value) := by
  cases value with
  | none => exact .absent inner
  | some model => exact .present inner (wrap model) (has model rfl) (held model)

theorem optional_back (wrap : α → WireValue) (read : WireValue → Option α) (held : ∀ model, wrap model ≠ .absent)
    (back : ∀ model, read (wrap model) = some model) (value : Option α) :
    absentOr read (WireValue.optional wrap value) = some value := by
  cases value with
  | none => rfl
  | some model =>
      have present := held model
      unfold WireValue.optional absentOr
      split
      · contradiction
      · rw [back, Option.map_some]

end

theorem records_distinct : records.Distinct := by
  have each : ∀ entry ∈ records, (entry.2.fields.map (·.key)).Nodup := by decide +kernel
  intro name
  unfold RecordTable.shape
  cases found : List.lookup name records with
  | none => exact List.nodup_nil
  | some shape =>
      obtain ⟨before, after, split, _⟩ := List.lookup_eq_some_iff.mp found
      exact each (name, shape) (split ▸ List.mem_append_right _ List.mem_cons_self)

section

variable (environment : Environment) (reference : EnvironmentReference) (certificates : Certificates) (item : Instance)
  (input : InstanceInput)

theorem text_has (value : Option String) : optionalText.Has records (WireValue.optional .str value) :=
  optional_has .string .str nofun value fun text _ => .text text

theorem int_has (value : Option Int) (narrow : ∀ n ∈ value, Narrow n) :
    optionalInt.Has records (WireValue.optional .int value) :=
  optional_has int32 .int nofun value fun n member => .int _ n (narrow_contained n (narrow n member))

theorem instant_has (value : Option TypedQuery.Instant) (plain : ∀ instant ∈ value, instant.Plain) :
    (WireType.option .instant).Has records (WireValue.optional .instant value) :=
  optional_has .instant .instant nofun value fun instant member => .instant instant (plain instant member)

theorem environment_has (sound : environment.Sound) : Environment.type.Has records environment.toWire :=
  .record "Environment" _
    (.cons _ _ _ _ (.text _) (.cons _ _ _ _ (instant_has _ sound.createdAt) (.cons _ _ _ _ (text_has _) .nil)))

theorem reference_has : EnvironmentReference.type.Has records reference.toWire :=
  .record "EnvironmentReference" _ (.cons _ _ _ _ (.text _) .nil)

theorem certificates_has : Certificates.type.Has records certificates.toWire :=
  .record "DgraphCertificates" _
    (.cons _ _ _ _ (text_has _) (.cons _ _ _ _ (text_has _) (.cons _ _ _ _ (text_has _) .nil)))

theorem instance_has (sound : item.Sound) : Instance.type.Has records item.toWire := by
  have env := optional_has Environment.type Environment.toWire nofun item.env fun environment member =>
    environment_has environment (sound.env environment member)
  have certificates := optional_has Certificates.type Certificates.toWire nofun item.certificates fun certificates _ =>
    certificates_has certificates
  exact .record "DgraphInstance" _
    (.cons _ _ _ _ (.text _) (.cons _ _ _ _ (instant_has _ sound.createdAt)
      (.cons _ _ _ _ (int_has _ sound.replicas) (.cons _ _ _ _ (int_has _ sound.shards)
        (.cons _ _ _ _ (int_has _ sound.storageGB) (.cons _ _ _ _ env (.cons _ _ _ _ certificates .nil)))))))

theorem input_has (sound : input.Sound) : InstanceInput.type.Has records input.toWire :=
  .record "DgraphInstanceInput" _
    (.cons _ _ _ _ (.int _ _ (narrow_contained _ sound.replicas))
      (.cons _ _ _ _ (.int _ _ (narrow_contained _ sound.shards))
        (.cons _ _ _ _ (.int _ _ (narrow_contained _ sound.storageGB)) (.cons _ _ _ _ (reference_has input.env) .nil))))

theorem text_back (value : Option String) : absentOr textOf? (WireValue.optional .str value) = some value :=
  optional_back .str textOf? nofun (fun _ => rfl) value

theorem int_back (value : Option Int) : absentOr intOf? (WireValue.optional .int value) = some value :=
  optional_back .int intOf? nofun (fun _ => rfl) value

theorem instant_back (value : Option TypedQuery.Instant) :
    absentOr instantOf? (WireValue.optional .instant value) = some value :=
  optional_back .instant instantOf? nofun (fun _ => rfl) value

theorem environment_back : Environment.ofWire? environment.toWire = some environment := by
  simp only [Environment.toWire, Environment.ofWire?, instant_back, text_back]
  rfl

theorem reference_back : EnvironmentReference.ofWire? reference.toWire = some reference := rfl

theorem certificates_back : Certificates.ofWire? certificates.toWire = some certificates := by
  simp only [Certificates.toWire, Certificates.ofWire?, text_back]
  rfl

theorem instance_back : Instance.ofWire? item.toWire = some item := by
  have env := optional_back Environment.toWire Environment.ofWire? (fun _ => nofun) environment_back item.env
  have certificates :=
    optional_back Certificates.toWire Certificates.ofWire? (fun _ => nofun) certificates_back item.certificates
  simp only [Instance.toWire, Instance.ofWire?, instant_back, int_back, env, certificates]
  rfl

theorem input_back : InstanceInput.ofWire? input.toWire = some input := rfl

end

-- Each model agrees for the same reason: its values are values of its record.
theorem model_agrees {α : Type} (type : WireType) (toWire : α → WireValue) (ofWire? : WireValue → Option α) (model : α)
    (modelled : type.isModelled (records.map Prod.fst)) (has : type.Has records (toWire model))
    (held : toWire model ≠ .absent) (back : ofWire? (toWire model) = some model) :
    ∃ encoding, encoding ≠ .null ∧ Agrees type toWire ofWire? model encoding := by
  obtain ⟨json, written, present, accepted, decoded⟩ :=
    has_decoded tables _ hosting_family records_distinct type modelled (toWire model) has held
  refine ⟨json, present, written, accepted, ?_⟩
  intro fields errors name found request required
  exact ⟨_, decoded ⟨some (.obj fields), errors⟩ request name required (.member fields errors found present), back⟩

-- A list of the characters is cheaper to make line by line than from the whole text.
theorem schema_chars : schemaText.toList = ['\n'].intercalate (schemaLines.map String.toList) := by
  rw [schemaText, String.toList_intercalate]
  rfl

theorem read_schema (text : String) (schema : Schema) (read : readSchema text.toList = some (schema, none)) :
    Schema.parse text = .ok schema := by
  obtain ⟨⟨document, rest⟩, run, same⟩ := Option.map_eq_some_iff.mp read
  obtain ⟨made, sound⟩ := Prod.mk.inj same
  have faultless : document.findSome? Sdl.Definition.fault? = none := sound
  have parsed : Sdl.parseDocument text = .ok document := by
    unfold Sdl.parseDocument
    rw [run]
    dsimp only
    rw [faultless]
  rw [schema_parse_ok text document parsed]
  exact congrArg Except.ok made

theorem service_schema_read : Schema.parse schemaText = .ok serviceSchema := by
  have lines : readSchema (['\n'].intercalate (schemaLines.map String.toList)) = some (serviceSchema, none) := by
    decide +kernel
  exact read_schema schemaText serviceSchema ((congrArg readSchema schema_chars).trans lines)

theorem service_offered (builder : ClientBuilder) (client : Client) (only : builder.schemas = [schemaText])
    (built : builder.build = .ok client) : Offers client := by
  have loaded := loaded_alone schemaText serviceSchema builder client service_schema_read only built
  constructor
  · rw [loaded]
    decide
  · rw [loaded]
    decide

theorem of_wire_present (type : WireType) (value : WireValue) (json : Json) (written : value.encode = .ok json)
    (present : json ≠ .null) : Argument.ofWire records type value = .present (type.host records) (.ok json) := by
  unfold Argument.ofWire
  rw [written]
  cases json with
  | null => exact absurd rfl present
  | _ => rfl

theorem field_request (client : Client) (field : FieldDescriptor) (kind : OperationKind) (declared : ArgumentDescriptor)
    (host : HostType) (json : Json) (type : WireType) (found : client.registry.lookup field.name = some (field, kind))
    (named : Text.isBlankText field.name = false) (one : field.arguments = [declared])
    (result : type.host records = Instance.type.host records)
    (compatible : isCompatible field.type (Instance.type.host records)) (fits : isCompatible declared.type host)
    (shown : host.isRepresentable) (present : (Argument.present host (.ok json)).isPresent) :
    client.request models (fieldCall field (.present host (.ok json)) type) = .ok (fieldRequest client field kind json) := by
  have targeted : client.target (fieldCall field (.present host (.ok json)) type) =
      .ok ⟨kind, field, field.name, field.name, Instance.type.host records,
        client.config.depthFor (Instance.type.host records)⟩ := by
    rw [Client.target, fieldCall, ResultType.ofWire]
    dsimp only
    rw [named, found, result]
    rfl
  have supplied : suppliedValues [declared] [.present host (.ok json)] = [(declared, json)] := by
    rw [suppliedValues, slots_cons]
    simp [slots, encoded_value host json present]
  rw [Client.request, targeted]
  refine (build_ok models _ _ _).mpr ⟨⟨compatible, rfl, ?_, ?_⟩, ?_⟩
  · intro index past
    change field.arguments.length ≤ index at past
    rw [one] at past
    cases index with
    | zero => exact absurd past (Nat.not_succ_le_zero 0)
    | succ index => rfl
  · intro index argument declaredAt
    change field.arguments[index]? = some argument at declaredAt
    rw [one] at declaredAt
    cases index with
    | zero =>
        obtain rfl := Option.some.inj declaredAt
        exact .inr ⟨present, host, json, rfl, fits, shown⟩
    | succ index => simp at declaredAt
  · simp only [fieldCall, fieldRequest, one, supplied]
    rfl

theorem adding_request (client : Client) (offers : Offers client) (input : InstanceInput) (encoding : Json)
    (written : input.toWire.encode = .ok encoding) (present : encoding ≠ .null) :
    client.request models (addingCall input) = .ok (addingRequest client encoding) := by
  have argument := of_wire_present InstanceInput.type input.toWire encoding written present
  have host : (Argument.present (InstanceInput.type.host records) (.ok encoding)).isPresent := by
    cases encoding with
    | null => exact absurd rfl present
    | _ => rfl
  rw [addingCall, Service.argument, argument]
  exact field_request client addingField .mutation _ _ encoding Instance.type offers.adding (by decide) rfl rfl
    (by decide) (by decide) (by decide) host

theorem reading_request (client : Client) (offers : Offers client) (dgraphId : String) :
    client.request models (readingCall dgraphId) = .ok (readingRequest client dgraphId) :=
  field_request client readingField .query _ _ (.str dgraphId) (.option Instance.type) offers.reading (by decide) rfl rfl
    (by decide) (by decide) (by decide) rfl

theorem prepare_requested {α : Type} (client : Client) (models : ModelTable) (call : Call α) (session : Session)
    (request : Request)
    (made : client.request models call = .ok request) : (client.prepare models call session).1 = .ok request := by
  rw [Client.prepare, made]

theorem models_agree_with_wire :
    (∀ environment : Environment, environment.Sound →
      ∃ encoding, Agrees Environment.type Environment.toWire Environment.ofWire? environment encoding) ∧
    (∀ reference : EnvironmentReference, ∃ encoding,
      Agrees EnvironmentReference.type EnvironmentReference.toWire EnvironmentReference.ofWire? reference encoding) ∧
    (∀ certificates : Certificates,
      ∃ encoding, Agrees Certificates.type Certificates.toWire Certificates.ofWire? certificates encoding) ∧
    (∀ item : Instance, item.Sound → ∃ encoding, Agrees Instance.type Instance.toWire Instance.ofWire? item encoding) ∧
    ∀ input : InstanceInput, input.Sound →
      ∃ encoding, Agrees InstanceInput.type InstanceInput.toWire InstanceInput.ofWire? input encoding ∧
        ∀ (builder : ClientBuilder) (client : Client) (session : Session), builder.schemas = [schemaText] →
          builder.build = .ok client → ∃ request, (client.prepare models (addingCall input) session).1 = .ok request ∧
            request.values = [("input", encoding)] := by
  refine ⟨?_, ?_, ?_, ?_, ?_⟩
  · intro environment sound
    obtain ⟨encoding, _, agrees⟩ := model_agrees Environment.type Environment.toWire Environment.ofWire? environment
      (by decide) (environment_has environment sound) nofun (environment_back environment)
    exact ⟨encoding, agrees⟩
  · intro reference
    obtain ⟨encoding, _, agrees⟩ := model_agrees EnvironmentReference.type EnvironmentReference.toWire
      EnvironmentReference.ofWire? reference (by decide) (reference_has reference) nofun (reference_back reference)
    exact ⟨encoding, agrees⟩
  · intro certificates
    obtain ⟨encoding, _, agrees⟩ := model_agrees Certificates.type Certificates.toWire Certificates.ofWire? certificates
      (by decide) (certificates_has certificates) nofun (certificates_back certificates)
    exact ⟨encoding, agrees⟩
  · intro item sound
    obtain ⟨encoding, _, agrees⟩ := model_agrees Instance.type Instance.toWire Instance.ofWire? item
      (by decide) (instance_has item sound) nofun (instance_back item)
    exact ⟨encoding, agrees⟩
  · intro input sound
    obtain ⟨encoding, present, agrees⟩ := model_agrees InstanceInput.type InstanceInput.toWire InstanceInput.ofWire? input
      (by decide) (input_has input sound) nofun (input_back input)
    refine ⟨encoding, agrees, ?_⟩
    intro builder client session only built
    have offers := service_offered builder client only built
    have made := adding_request client offers input encoding agrees.written present
    exact ⟨_, prepare_requested client models _ session _ made, rfl⟩

def leapDay : TypedQuery.Instant := ⟨⟨2024, 2, 29, 23, 59, 59, 250000000⟩⟩

def leapInstance : Instance where
  dgraphId := "d-1"
  createdAt := some leapDay
  replicas := some 2147483647
  shards := none
  storageGB := some (-2147483648)
  env := some ⟨"e-1", some leapDay, none⟩
  certificates := some ⟨none, some "cert", none⟩

def leapEncoding : Json :=
  .obj [("dgraphId", .str "d-1"), ("createdAt", .str "2024-02-29T23:59:59.250Z"), ("replicas", .int 2147483647),
    ("shards", .null), ("storageGB", .int (-2147483648)),
    ("env", .obj [("id", .str "e-1"), ("createdAt", .str "2024-02-29T23:59:59.250Z"), ("name", .null)]),
    ("certificates", .obj [("caCert", .null), ("clientCert", .str "cert"), ("clientKey", .null)])]

def smallInput : InstanceInput := ⟨3, 1, 10, ⟨"e-1"⟩⟩

theorem leap_instance_agrees :
    leapInstance.Sound ∧ Agrees Instance.type Instance.toWire Instance.ofWire? leapInstance leapEncoding ∧
      smallInput.Sound ∧ builder.schemas = [schemaText] ∧ builder.build = .ok (Client.ofSchema serviceSchema) ∧
      ∃ request, ((Client.ofSchema serviceSchema).prepare models (addingCall smallInput) Session.start).1 = .ok request ∧
        request.values = [("input", .obj [("replicas", .int 3), ("shards", .int 1), ("storageGB", .int 10),
          ("env", .obj [("id", .str "e-1")])])] := by
  have day : leapDay.Plain := ⟨⟨by decide, by decide, by decide, by decide, by decide, by decide⟩, by decide⟩
  have instants : ∀ instant ∈ some leapDay, instant.Plain := fun instant same => Option.some.inj same ▸ day
  have sound : leapInstance.Sound := by
    refine ⟨instants, ?_, nofun, ?_, ?_⟩
    · rintro _ ⟨⟩
      decide
    · rintro _ ⟨⟩
      decide
    · rintro _ ⟨⟩
      exact ⟨instants⟩
  have small : smallInput.Sound := ⟨by decide, by decide, by decide⟩
  have built := build_alone schemaText serviceSchema service_schema_read
  obtain ⟨_, _, _, instances, inputs⟩ := models_agree_with_wire
  obtain ⟨encoding, agrees⟩ := instances leapInstance sound
  have same : encoding = leapEncoding := Except.ok.inj (agrees.written.symm.trans (by decide +kernel))
  obtain ⟨encoded, written, prepared⟩ := inputs smallInput small
  obtain ⟨request, made, values⟩ := prepared builder _ Session.start rfl built
  refine ⟨sound, same ▸ agrees, small, rfl, built, request, made, ?_⟩
  rw [values, Except.ok.inj (written.written.symm.trans rfl)]
  rfl

end TypedQuery.Hosting
