import TypedQuery.Proofs.Validation
import TypedQuery.Samples

/-!
What a client is configured with after any calls of its builder. The general selection depth of a
client is never zero, nor is one that a profile sets for a model; one that a call sets for a model may
be, and then requests for the model select none of its fields.
-/

set_option autoImplicit false

namespace TypedQuery

inductive Setting where
  | schema (text : String)
  | header (name value : String)
  | bearerToken (token : String)
  | timeout (span : Duration)
  | selectionDepth (depth : Nat)
  | depthOverride (model : String) (depth : Nat)
  | retryPolicy (policy : RetryPolicy)

namespace ClientBuilder

def set (builder : ClientBuilder) : Setting → ClientBuilder
  | .schema text => builder.withSchema text
  | .header name value => builder.withHeader name value
  | .bearerToken token => builder.withBearerToken token
  | .timeout span => builder.withTimeout span
  | .selectionDepth depth => builder.withSelectionDepth depth
  | .depthOverride model depth => builder.withDepthOverride model depth
  | .retryPolicy policy => builder.withRetryPolicy policy

def setAll (builder : ClientBuilder) (settings : List Setting) : ClientBuilder := settings.foldl set builder

inductive IsStart : ClientBuilder → Prop
  | plain : IsStart new
  | profile (environment : String → Option String) (profile : Profile) (builder : ClientBuilder)
      (taken : ofProfile environment profile = .ok builder) : IsStart builder

end ClientBuilder

def Setting.depthOf? (model : String) : Setting → Option Nat
  | .depthOverride name depth => if name = model then some depth else none
  | _ => none

def lastDepth (model : String) : List Setting → Option Nat
  | [] => none
  | setting :: rest => (lastDepth model rest).or (setting.depthOf? model)

def Profile.settings (profile : Profile) (token : Option String) : List Setting :=
  .timeout profile.timeout :: .selectionDepth profile.selectionDepth ::
    (profile.depthOverrides.map (fun entry => Setting.depthOverride entry.1 entry.2) ++
      (profile.headers.map (fun entry => Setting.header entry.1 entry.2) ++ token.toList.map Setting.bearerToken))

def Profile.start (profile : Profile) : ClientBuilder :=
  { ClientBuilder.new with config := { ClientConfig.default with redactFields := profile.logging.redactFields } }

theorem validate_ok (profile : Profile) : profile.validate = .ok () ↔ profile.fault? = none := by
  unfold Profile.validate
  cases profile.fault? <;> simp

theorem of_profile_ok (environment : String → Option String) (profile : Profile) (builder : ClientBuilder) :
    ClientBuilder.ofProfile environment profile = .ok builder ↔
      profile.fault? = none ∧ ∃ token, profile.bearerToken environment = .ok token ∧
        profile.start.setAll (profile.settings token) = builder := by
  rw [← validate_ok, ClientBuilder.ofProfile, then_ok_iff]
  refine and_congr_right fun _ => ?_
  rw [bind_ok_iff]
  refine exists_congr fun token => and_congr_right fun _ => ?_
  rw [ClientBuilder.setAll, Profile.settings, List.foldl_cons, List.foldl_cons, List.foldl_append, List.foldl_append,
    List.foldl_map, List.foldl_map, List.foldl_map]
  cases token <;> exact iff_of_eq (Except.ok.injEq _ _)

theorem set_depth (builder : ClientBuilder) (setting : Setting) (model : String) :
    (builder.set setting).config.depthOverrides.get? model =
      (setting.depthOf? model).or (builder.config.depthOverrides.get? model) := by
  cases setting with
  | depthOverride name depth =>
      rw [show (builder.set (.depthOverride name depth)).config.depthOverrides =
        builder.config.depthOverrides.insert name depth from rfl, get_insert, Setting.depthOf?]
      split <;> rfl
  | _ => rfl

theorem set_all_depth (builder : ClientBuilder) (settings : List Setting) (model : String) :
    (builder.setAll settings).config.depthOverrides.get? model =
      (lastDepth model settings).or (builder.config.depthOverrides.get? model) := by
  induction settings generalizing builder with
  | nil => rfl
  | cons setting rest ih =>
      have later := ih (builder.set setting)
      rw [set_depth] at later
      rw [lastDepth, Option.or_assoc]
      exact later

theorem last_depth_set (model : String) (settings : List Setting) (depth : Nat)
    (last : lastDepth model settings = some depth) : .depthOverride model depth ∈ settings := by
  induction settings with
  | nil => simp [lastDepth] at last
  | cons setting rest ih =>
      rw [lastDepth, Option.or_eq_some_iff] at last
      rcases last with later | ⟨_, own⟩
      · exact List.mem_cons_of_mem _ (ih later)
      · cases setting <;> simp_all [Setting.depthOf?]

theorem profile_depth_positive (profile : Profile) (valid : profile.fault? = none) (entry : String × Nat)
    (member : entry ∈ profile.depthOverrides) : entry.2 ≠ 0 := by
  have none : List.find? (fun entry : String × Nat => entry.2 = 0) profile.depthOverrides = none := by
    cases found : List.find? (fun entry : String × Nat => entry.2 = 0) profile.depthOverrides with
    | none => rfl
    | some zero =>
        simp only [Profile.fault?, found] at valid
        grind
  simpa using List.find?_eq_none.mp none entry member

theorem start_depth_positive (builder : ClientBuilder) (start : builder.IsStart) (model : String) (depth : Nat)
    (found : builder.config.depthOverrides.get? model = some depth) : depth ≠ 0 := by
  cases start with
  | plain => simp [ClientBuilder.new, ClientConfig.default, OrderedMap.get?] at found
  | profile environment profile _ taken =>
      obtain ⟨valid, token, _, rfl⟩ := (of_profile_ok environment profile builder).mp taken
      have last : lastDepth model (profile.settings token) = some depth := by
        rw [set_all_depth] at found
        simpa [Profile.start, ClientConfig.default, OrderedMap.get?] using found
      have called := last_depth_set model _ depth last
      simp only [Profile.settings, List.mem_cons, List.mem_append, List.mem_map, reduceCtorEq, and_false,
        exists_false, false_or, or_false, Setting.depthOverride.injEq] at called
      obtain ⟨entry, member, _, rfl⟩ := called
      exact profile_depth_positive profile valid entry member

theorem built_config (builder : ClientBuilder) (client : Client) (built : builder.build = .ok client) :
    builder.config.selectionDepth ≠ 0 ∧ ∃ headers, client.config = { builder.config with headers := headers } := by
  unfold ClientBuilder.build at built
  split at built
  · simp at built
  · rename_i positive
    simp only [bind_ok_iff, Except.ok.injEq] at built
    obtain ⟨_, _, headers, _, rfl⟩ := built
    exact ⟨positive, headers, rfl⟩

theorem depth_zero_iff (start : ClientBuilder) (begun : start.IsStart) (settings : List Setting) (client : Client)
    (built : (start.setAll settings).build = .ok client) (host : HostType) :
    client.config.depthFor host = 0 ↔ ∃ ref, host.model? = some ref ∧ lastDepth ref.name settings = some 0 := by
  obtain ⟨positive, headers, config⟩ := built_config _ client built
  rw [config, ClientConfig.depthFor]
  cases element : host.model? with
  | none => simpa using positive
  | some ref =>
      rw [Option.bind_some, set_all_depth]
      cases last : lastDepth ref.name settings with
      | some depth => simp [last]
      | none =>
          rw [Option.none_or]
          cases found : start.config.depthOverrides.get? ref.name with
          | none => simpa [last] using positive
          | some depth => simpa [last] using start_depth_positive start begun ref.name depth found

theorem synthesize_empty (models : ModelTable) (host : HostType) (ref : ModelRef) (depth : Nat)
    (element : host.model? = some ref)
    (selectable : ∃ field ∈ (models.describe ref).fields, field.type.isRepresentable) :
    synthesize models host depth = [] ↔ depth = 0 := by
  cases depth with
  | zero => simp [synthesize]
  | succ depth => simpa [synthesize, element] using selectable

theorem target_depth {α : Type} (client : Client) (call : Call α) (target : Target) (found : client.target call = .ok target) :
    target.result = call.result.host ∧ target.depth = client.config.depthFor call.result.host := by
  unfold Client.target at found
  split at found
  · simp at found
  · split at found
    · simp at found
    · cases found
      exact ⟨rfl, rfl⟩

theorem configured_selection (start : ClientBuilder) (begun : start.IsStart) (settings : List Setting)
    (client : Client) (built : (start.setAll settings).build = .ok client) :
    ((∀ host, 1 ≤ client.config.depthFor host) ↔ ∀ model, lastDepth model settings ≠ some 0) ∧
    (∀ host, client.config.depthFor host = 0 ↔
      ∃ ref, host.model? = some ref ∧ lastDepth ref.name settings = some 0) ∧
    ∀ (α : Type) models (call : Call α) session request ref, (client.prepare models call session).1 = .ok request →
      call.result.host.model? = some ref → (∃ field ∈ (models.describe ref).fields, field.type.isRepresentable) →
      ∃ (target : Target) (bound : List ArgumentDescriptor), client.target call = .ok target ∧
        request.query = (target.operation models bound).render ∧
        ((target.operation models bound).root.selection = [] ↔ lastDepth ref.name settings = some 0) := by
  have zero := depth_zero_iff start begun settings client built
  refine ⟨?_, zero, ?_⟩
  · constructor
    · intro every model last
      have none := (zero (.model ⟨model, model⟩)).mpr ⟨_, rfl, last⟩
      have some := every (.model ⟨model, model⟩)
      omega
    · intro never host
      refine Nat.pos_of_ne_zero fun none => ?_
      obtain ⟨ref, _, last⟩ := (zero host).mp none
      exact never ref.name last
  · intro α models call session request ref prepared element selectable
    obtain ⟨target, targeted, made⟩ := (prepare_ok client models call session request).mp prepared
    obtain ⟨_, rfl⟩ := (build_ok models target call.arguments request).mp made
    obtain ⟨result, depth⟩ := target_depth client call target targeted
    refine ⟨target, _, targeted, rfl, ?_⟩
    rw [show FieldSelection.selection _ = synthesize models target.result target.depth from rfl, result, depth,
      synthesize_empty models _ ref _ element selectable, zero]
    simp [element]

def nodeText : String := "type Query \x7b node: Node \x7d"

def nodeSchema : Schema where
  queries := [⟨"node", .named "Node", []⟩]
  mutations := []
  types := OrderedMap.ofList (Schema.builtinScalars.map (·, TypeKind.scalar) ++ [("Query", .object)])

def nodeCall : Call WireValue := ⟨"node", "", [], ResultType.ofWire Samples.records (.option (.record "Node"))⟩

def nodeRequest (selected : String) : Request := ⟨"query node \x7b node" ++ selected ++ " \x7d", "node", []⟩

theorem node_parsed : Schema.parse nodeText = .ok nodeSchema := by decide +kernel

def deepProfile : Profile :=
  ⟨"https://api.example.com/graphql", 30, 1, [("Node", 2)], [], [], some "TOKEN", LoggingConfig.default⟩

def deepBuilder : ClientBuilder := deepProfile.start.setAll (deepProfile.settings (some "t"))

def shallowSettings : List Setting := [.depthOverride "Node" 0, .schema nodeText, .depthOverride "Node" 1]

def shallowClient : Client where
  registry := Registry.empty.merge nodeSchema
  config := { (deepBuilder.setAll shallowSettings).config with headers := [("authorization", "Bearer t")] }
  retry := RetryPolicy.never

theorem shallow_node_selected :
    deepBuilder.IsStart ∧ (deepBuilder.setAll shallowSettings).build = .ok shallowClient ∧
      (∀ host, 1 ≤ shallowClient.config.depthFor host) ∧
      (shallowClient.prepare Samples.models nodeCall Session.start).1 =
        .ok (nodeRequest " \x7b id parent kids \x7d") ∧
      ∃ (target : Target) (bound : List ArgumentDescriptor),
        (nodeRequest " \x7b id parent kids \x7d").query = (target.operation Samples.models bound).render ∧
          (target.operation Samples.models bound).root.selection ≠ [] := by
  have begun : deepBuilder.IsStart := .profile (fun _ => some "t") deepProfile deepBuilder
    ((of_profile_ok _ deepProfile deepBuilder).mpr ⟨by decide +kernel, some "t", rfl, rfl⟩)
  have built : (deepBuilder.setAll shallowSettings).build = .ok shallowClient :=
    build_loaded _ nodeText nodeSchema [("authorization", "Bearer t")] node_parsed rfl (by decide +kernel) (by decide)
  have prepared : (shallowClient.prepare Samples.models nodeCall Session.start).1 =
      .ok (nodeRequest " \x7b id parent kids \x7d") := by decide +kernel
  have last (model : String) : lastDepth model shallowSettings ≠ some 0 := by
    simp only [shallowSettings, lastDepth, Setting.depthOf?]
    split <;> simp
  obtain ⟨positive, _, selecting⟩ := configured_selection deepBuilder begun shallowSettings shallowClient built
  obtain ⟨target, bound, _, query, empty⟩ := selecting WireValue Samples.models nodeCall Session.start _ ⟨"Node", "Node"⟩
    prepared rfl (by decide +kernel)
  exact ⟨begun, built, positive.mpr last, prepared, target, bound, query, fun none => last "Node" (empty.mp none)⟩

def barrenSettings : List Setting := [.schema nodeText, .depthOverride "Node" 0]

def barrenClient : Client where
  registry := Registry.empty.merge nodeSchema
  config := (ClientBuilder.new.setAll barrenSettings).config
  retry := RetryPolicy.never

theorem barren_node_unselected :
    ClientBuilder.new.IsStart ∧ (ClientBuilder.new.setAll barrenSettings).build = .ok barrenClient ∧
      barrenClient.config.depthFor (Samples.modelHost "Node") = 0 ∧
      (∃ field ∈ (Samples.models.describe ⟨"Node", "Node"⟩).fields, field.type.isRepresentable) ∧
      (barrenClient.prepare Samples.models nodeCall Session.start).1 = .ok (nodeRequest "") := by
  refine ⟨.plain, ?_, by decide +kernel, by decide +kernel, by decide +kernel⟩
  exact build_loaded _ nodeText nodeSchema [] node_parsed rfl rfl (by decide)

end TypedQuery
