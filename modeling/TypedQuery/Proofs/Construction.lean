import TypedQuery.Proofs.BuildOrder
import TypedQuery.Proofs.Configuration

/-!
Clients from any history of builder calls. Each part of a client is a fold over the calls of one kind, so only
their order within the kind counts; and what is wrong is found in a fixed order: the selection depth, the schemas,
the headers.
-/

set_option autoImplicit false

namespace TypedQuery

inductive BuilderCall where
  | setting (setting : Setting)
  | transport (transport : Transport)

-- A bearer token is a header.
inductive CallKind where
  | schema
  | header
  | timeout
  | selectionDepth
  | depthOverride
  | retryPolicy
  | transport
deriving DecidableEq

def Setting.kind : Setting → CallKind
  | .schema _ => .schema
  | .header _ _ | .bearerToken _ => .header
  | .timeout _ => .timeout
  | .selectionDepth _ => .selectionDepth
  | .depthOverride _ _ => .depthOverride
  | .retryPolicy _ => .retryPolicy

namespace BuilderCall

def kind : BuilderCall → CallKind
  | .setting made => made.kind
  | .transport _ => .transport

def setting? : BuilderCall → Option Setting
  | .setting made => some made
  | .transport _ => none

def transport? : BuilderCall → Option Transport
  | .setting _ => none
  | .transport given => some given

end BuilderCall

structure Assembly where
  builder : ClientBuilder
  transport : Option Transport

namespace Assembly

def call (assembly : Assembly) : BuilderCall → Assembly
  | .setting setting => { assembly with builder := assembly.builder.set setting }
  | .transport transport => { assembly with transport := some transport }

def build (connect : OrderedMap String → Duration → Except Failure Transport) (assembly : Assembly) :
    Except Failure (Client × Transport) := do
  let client ← assembly.builder.build
  match assembly.transport with
  | some transport => .ok (client, transport)
  | none => .ok (client, ← connect client.config.headers client.config.timeout)

def ofCalls (start : ClientBuilder) (calls : List BuilderCall) : Assembly := calls.foldl call ⟨start, none⟩

end Assembly

def SameByKind (calls others : List BuilderCall) : Prop :=
  ∀ kind, calls.filter (·.kind = kind) = others.filter (·.kind = kind)

namespace Setting

def text? : Setting → Option String
  | .schema text => some text
  | _ => none

def header? : Setting → Option (String × String)
  | .header name value => some (name, value)
  | .bearerToken token => some ("authorization", "Bearer " ++ token)
  | _ => none

def timeout? : Setting → Option Duration
  | .timeout span => some span
  | _ => none

def depth? : Setting → Option Nat
  | .selectionDepth depth => some depth
  | _ => none

def override? : Setting → Option (String × Nat)
  | .depthOverride model depth => some (model, depth)
  | _ => none

def policy? : Setting → Option RetryPolicy
  | .retryPolicy policy => some policy
  | _ => none

end Setting

def lastSet {α : Type} (pick : Setting → Option α) (history : List Setting) : Option α :=
  (history.filterMap pick).getLast?

def schemaTexts (history : List Setting) : List String := history.filterMap Setting.text?

def headerCalls (history : List Setting) : List (String × String) := history.filterMap Setting.header?

def generalDepth (history : List Setting) : Nat := (lastSet Setting.depth? history).getD defaultDepth

-- The value of the last header call for a name, in whatever spelling.
def lastHeader (key : String) (history : List Setting) : Option String :=
  (((headerCalls history).filter fun header => Header.lowered header.1 = key).getLast?).map (·.2)

def ClientBuilder.blank (redacted : List String) : ClientBuilder :=
  { ClientBuilder.new with config := { ClientConfig.default with redactFields := redacted } }

-- A builder to start from, and the calls that made it: none, or those that take over a profile.
inductive ClientBuilder.Begun : ClientBuilder → List String → List Setting → Prop
  | plain : Begun new defaultRedacted []
  | profile (environment : String → Option String) (profile : Profile) (token : Option String) (builder : ClientBuilder)
      (found : profile.bearerToken environment = .ok token) (taken : ofProfile environment profile = .ok builder) :
      Begun builder profile.logging.redactFields (profile.settings token)

structure Client.Reflects (client : Client) (redacted : List String) (history : List Setting) : Prop where
  headers : ∀ key, client.config.headers.get? key = lastHeader key history
  headersOnce : client.config.headers.Sorted
  declares : ∀ kind name, (client.registry.operations kind).get? name = lastDeclared (schemaTexts history) kind name
  declaresOnce : ∀ kind, (client.registry.operations kind).Sorted
  lookups : ∀ name, client.registry.lookup name =
    ((lastDeclared (schemaTexts history) .query name).map (·, .query)).or
      ((lastDeclared (schemaTexts history) .mutation name).map (·, .mutation))
  timeout : client.config.timeout = (lastSet Setting.timeout? history).getD (.ofSeconds defaultTimeoutSecs)
  depth : client.config.selectionDepth = generalDepth history
  overrides : ∀ model, client.config.depthOverrides.get? model = lastDepth model history
  overridesOnce : client.config.depthOverrides.Sorted
  redacts : client.config.redactFields = redacted
  retry : client.retry = (lastSet Setting.policy? history).getD RetryPolicy.never

section Histories

variable {α β : Type}

theorem set_all_part (part : ClientBuilder → β) (pick : Setting → Option α) (step : β → α → β)
    (single : ∀ builder setting, part (builder.set setting) = (pick setting).elim (part builder) (step (part builder)))
    (builder : ClientBuilder) (history : List Setting) :
    part (builder.setAll history) = (history.filterMap pick).foldl step (part builder) := by
  induction history generalizing builder with
  | nil => rfl
  | cons setting rest ih =>
      have later := ih (builder.set setting)
      rw [single] at later
      refine later.trans ?_
      rw [List.filterMap_cons]
      cases pick setting <;> rfl

theorem set_all_kept (part : ClientBuilder → β) (single : ∀ builder setting, part (builder.set setting) = part builder)
    (builder : ClientBuilder) (history : List Setting) : part (builder.setAll history) = part builder := by
  induction history generalizing builder with
  | nil => rfl
  | cons setting rest ih => exact (ih (builder.set setting)).trans (single builder setting)

theorem fold_last (values : List α) (start : α) : values.foldl (fun _ value => value) start = values.getLast?.getD start := by
  induction values generalizing start with
  | nil => rfl
  | cons value rest ih =>
      rw [List.foldl_cons, ih, List.getLast?_cons]
      rfl

theorem fold_concat (values start : List α) :
    values.foldl (fun list value => list ++ [value]) start = start ++ values := by
  induction values generalizing start with
  | nil => exact (List.append_nil start).symm
  | cons value rest ih => rw [List.foldl_cons, ih, List.append_assoc, List.singleton_append]

theorem set_all_parts (builder : ClientBuilder) (history : List Setting) :
    builder.setAll history =
      { config :=
          { headers := builder.config.headers
            timeout := (lastSet Setting.timeout? history).getD builder.config.timeout
            selectionDepth := (lastSet Setting.depth? history).getD builder.config.selectionDepth
            depthOverrides := (history.filterMap Setting.override?).foldl (fun map entry => map.insert entry.1 entry.2)
              builder.config.depthOverrides
            redactFields := builder.config.redactFields }
        schemas := builder.schemas ++ schemaTexts history
        headers := builder.headers ++ headerCalls history
        retry := (lastSet Setting.policy? history).getD builder.retry } := by
  have headers := set_all_kept (·.config.headers) ?_ builder history
  have timeout := set_all_part (·.config.timeout) Setting.timeout? (fun _ span => span) ?_ builder history
  have depth := set_all_part (·.config.selectionDepth) Setting.depth? (fun _ depth => depth) ?_ builder history
  have overrides := set_all_part (·.config.depthOverrides) Setting.override? (fun map entry => map.insert entry.1 entry.2) ?_
    builder history
  have redacts := set_all_kept (·.config.redactFields) ?_ builder history
  have schemas := set_all_part (·.schemas) Setting.text? (fun held text => held ++ [text]) ?_ builder history
  have calls := set_all_part (·.headers) Setting.header? (fun held header => held ++ [header]) ?_ builder history
  have retry := set_all_part (·.retry) Setting.policy? (fun _ policy => policy) ?_ builder history
  · rw [fold_last] at timeout depth retry
    rw [fold_concat] at schemas calls
    generalize builder.setAll history = made at headers timeout depth overrides redacts schemas calls retry ⊢
    obtain ⟨⟨_, _, _, _, _⟩, _, _, _⟩ := made
    dsimp only at headers timeout depth overrides redacts schemas calls retry
    subst headers timeout depth overrides redacts schemas calls retry
    rfl
  all_goals
    intro builder setting
    cases setting <;> rfl

theorem settings_called (start : ClientBuilder) (calls : List BuilderCall) :
    Assembly.ofCalls start calls =
      ⟨start.setAll (calls.filterMap BuilderCall.setting?), (calls.filterMap BuilderCall.transport?).getLast?⟩ := by
  have general (assembly : Assembly) : calls.foldl Assembly.call assembly =
      ⟨assembly.builder.setAll (calls.filterMap BuilderCall.setting?),
        ((calls.filterMap BuilderCall.transport?).getLast?).or assembly.transport⟩ := by
    induction calls generalizing assembly with
    | nil => rfl
    | cons call rest ih =>
        rw [List.foldl_cons, ih]
        cases call with
        | setting made => rfl
        | transport given =>
            have taken : (BuilderCall.transport given :: rest).filterMap BuilderCall.transport? =
                given :: rest.filterMap BuilderCall.transport? := rfl
            rw [taken, List.getLast?_cons, List.filterMap_cons_none rfl]
            cases (rest.filterMap BuilderCall.transport?).getLast? <;> rfl
  rw [Assembly.ofCalls, general, Option.or_none]

theorem swapped_alike (before after : List BuilderCall) (first second : BuilderCall) (different : first.kind ≠ second.kind) :
    SameByKind (before ++ first :: second :: after) (before ++ second :: first :: after) := by
  intro kind
  rw [List.filter_append, List.filter_append]
  congr 1
  by_cases own : first.kind = kind
  · have other : ¬ second.kind = kind := fun same => different (own.trans same.symm)
    rw [List.filter_cons_of_pos (by simpa using own), List.filter_cons_of_neg (by simpa using other),
      List.filter_cons_of_neg (by simpa using other), List.filter_cons_of_pos (by simpa using own)]
  · rw [List.filter_cons_of_neg (by simpa using own), List.filter_cons, List.filter_cons,
      List.filter_cons_of_neg (by simpa using own)]

-- Calls that touch one kind of part are the same in histories with the same calls of that kind.
theorem picked_alike (calls others : List BuilderCall) (same : SameByKind calls others) (pick : BuilderCall → Option α)
    (kind : CallKind) (only : ∀ call, call.kind ≠ kind → pick call = none) :
    calls.filterMap pick = others.filterMap pick := by
  have within (history : List BuilderCall) : history.filterMap pick = (history.filter (·.kind = kind)).filterMap pick := by
    rw [List.filterMap_filter]
    congr 1
    funext call
    by_cases own : call.kind = kind
    · rw [if_pos (decide_eq_true own)]
    · rw [if_neg (by simpa using own), only call own]
  rw [within calls, within others, same kind]

theorem begun_calls (start : ClientBuilder) (redacted : List String) (earlier : List Setting)
    (begun : start.Begun redacted earlier) : start = (ClientBuilder.blank redacted).setAll earlier := by
  cases begun with
  | plain => rfl
  | profile environment profile token builder found taken =>
      obtain ⟨_, other, same, made⟩ := (of_profile_ok environment profile start).mp taken
      obtain rfl := Except.ok.inj (found.symm.trans same)
      exact made.symm

end Histories

section Results

theorem told_builder (redacted : List String) (history : List Setting) :
    let builder := (ClientBuilder.blank redacted).setAll history
    builder.config.selectionDepth = generalDepth history ∧ builder.schemas = schemaTexts history ∧
      builder.headers = headerCalls history := by
  rw [set_all_parts]
  exact ⟨rfl, rfl, rfl⟩

theorem sent_get (history : List Setting) (key : String) :
    (Header.sent (headerCalls history)).get? key = lastHeader key history := by
  rw [Header.sent, OrderedMap.ofList, get_of_entries, lastHeader, List.filter_map, List.getLast?_map, Option.map_map]
  exact Option.or_none

theorem client_reflects (redacted : List String) (history : List Setting) (client : Client)
    (built : ((ClientBuilder.blank redacted).setAll history).build = .ok client) : client.Reflects redacted history := by
  obtain ⟨_, _, _, rfl⟩ := (built_iff _ _).mp built
  have overrides (model : String) := set_all_depth (ClientBuilder.blank redacted) history model
  rw [set_all_parts] at overrides ⊢
  exact
    { headers := sent_get history
      headersOnce := sent_sorted _
      declares := loaded_get (schemaTexts history)
      declaresOnce := loaded_sorted (schemaTexts history)
      lookups := loaded_lookup (schemaTexts history)
      timeout := rfl
      depth := rfl
      overrides := fun model => (overrides model).trans Option.or_none
      overridesOnce := entries_sorted _ [] List.Pairwise.nil
      redacts := rfl
      retry := rfl }

theorem sent_lowered (history : List Setting) (entry : String × String)
    (member : entry ∈ Header.sent (headerCalls history)) : Header.lowered entry.1 = entry.1 := by
  have found := (get_sorted _ (sent_sorted _) entry.1 entry.2).mpr member
  rw [sent_get, lastHeader, Option.map_eq_some_iff] at found
  obtain ⟨header, last, _⟩ := found
  have named : Header.lowered header.1 = entry.1 := by
    simpa using (List.mem_filter.mp (List.mem_of_getLast? last)).2
  rw [← named, lowered_again]

theorem assembled_iff (connect : OrderedMap String → Duration → Except Failure Transport) (start : ClientBuilder)
    (calls : List BuilderCall) (supplied : ∃ transport, .transport transport ∈ calls) :
    ∃ transport, (calls.filterMap BuilderCall.transport?).getLast? = some transport ∧
      (Assembly.ofCalls start calls).build connect =
        (start.setAll (calls.filterMap BuilderCall.setting?)).build.map (·, transport) := by
  obtain ⟨given, member⟩ := supplied
  have listed : given ∈ calls.filterMap BuilderCall.transport? := List.mem_filterMap.mpr ⟨_, member, rfl⟩
  have last := List.getLast?_eq_some_getLast (List.ne_nil_of_mem listed)
  refine ⟨_, last, ?_⟩
  rw [settings_called, Assembly.build, last]
  cases (start.setAll (calls.filterMap BuilderCall.setting?)).build <;> rfl

theorem kinds_suffice (start : ClientBuilder) (calls others : List BuilderCall) (same : SameByKind calls others) :
    Assembly.ofCalls start others = Assembly.ofCalls start calls := by
  have picked {α : Type} (pick : Setting → Option α) (kind : CallKind)
      (only : ∀ setting, setting.kind ≠ kind → pick setting = none) :
      (others.filterMap BuilderCall.setting?).filterMap pick = (calls.filterMap BuilderCall.setting?).filterMap pick := by
    rw [List.filterMap_filterMap, List.filterMap_filterMap]
    refine (picked_alike calls others same _ kind fun call other => ?_).symm
    cases call with
    | setting made => exact only made other
    | transport given => rfl
  have transports := picked_alike calls others same BuilderCall.transport? .transport fun call other => by
    cases call with
    | setting made => rfl
    | transport given => exact absurd rfl other
  have texts := picked Setting.text? .schema ?_
  have headers := picked Setting.header? .header ?_
  have timeouts := picked Setting.timeout? .timeout ?_
  have depths := picked Setting.depth? .selectionDepth ?_
  have overrides := picked Setting.override? .depthOverride ?_
  have policies := picked Setting.policy? .retryPolicy ?_
  · rw [settings_called, settings_called, transports, set_all_parts, set_all_parts]
    simp only [schemaTexts, headerCalls, lastSet, texts, headers, timeouts, depths, overrides, policies]
  all_goals
    intro setting other
    cases setting <;> first | rfl | exact absurd rfl other

theorem profile_headers (profile : Profile) (token : String) (history : List Setting)
    (headless : ∀ setting ∈ history, setting.kind ≠ .header) :
    lastHeader "authorization" (profile.settings (some token) ++ history) = some ("Bearer " ++ token) := by
  have none : headerCalls history = [] := by
    refine List.filterMap_eq_nil_iff.mpr fun setting member => ?_
    have other := headless setting member
    cases setting with
    | header | bearerToken => exact absurd rfl other
    | schema | timeout | selectionDepth | depthOverride | retryPolicy => rfl
  obtain ⟨earlier, calls⟩ : ∃ earlier, profile.settings (some token) = earlier ++ [.bearerToken token] :=
    ⟨.timeout profile.timeout :: .selectionDepth profile.selectionDepth ::
      (profile.depthOverrides.map (fun entry => Setting.depthOverride entry.1 entry.2) ++
        profile.headers.map (fun entry => Setting.header entry.1 entry.2)), by
      rw [Profile.settings, ← List.append_assoc]
      rfl⟩
  have headers : headerCalls (profile.settings (some token) ++ history) =
      headerCalls earlier ++ [("authorization", "Bearer " ++ token)] := by
    unfold headerCalls at none ⊢
    rw [List.filterMap_append, none, List.append_nil, calls, List.filterMap_append]
    rfl
  have same : Header.lowered "authorization" = "authorization" := by decide
  rw [lastHeader, headers, List.filter_append, List.filter_singleton, decide_eq_true same, cond_true, List.getLast?_concat]
  rfl

theorem one_authorization (profile : Profile) (token : String) (history : List Setting)
    (headless : ∀ setting ∈ history, setting.kind ≠ .header) (client : Client)
    (built : ((ClientBuilder.blank profile.logging.redactFields).setAll (profile.settings (some token) ++ history)).build =
      .ok client) :
    client.config.headers.filter (fun header => Header.lowered header.1 = "authorization") =
      [("authorization", "Bearer " ++ token)] := by
  have reflects := client_reflects _ _ client built
  have found := (reflects.headers "authorization").trans (profile_headers profile token history headless)
  rw [← sorted_filter _ reflects.headersOnce _ _ found]
  refine List.filter_congr fun header member => ?_
  have lowered : Header.lowered header.1 = header.1 := by
    obtain ⟨_, _, _, rfl⟩ := (built_iff _ _).mp built
    rw [set_all_parts] at member
    exact sent_lowered _ header member
  rw [lowered]

end Results

theorem construction_by_history (connect : OrderedMap String → Duration → Except Failure Transport) (start : ClientBuilder)
    (redacted : List String) (earlier : List Setting) (begun : start.Begun redacted earlier) (calls : List BuilderCall)
    (supplied : ∃ transport, .transport transport ∈ calls) (history : List Setting)
    (told : history = earlier ++ calls.filterMap BuilderCall.setting?) :
    ((∃ built, (Assembly.ofCalls start calls).build connect = .ok built) ↔
        generalDepth history ≠ 0 ∧ (∀ text ∈ schemaTexts history, ∃ schema, Schema.parse text = .ok schema) ∧
          ∀ header ∈ headerCalls history, Header.Sendable header) ∧
      (∀ failure, (Assembly.ofCalls start calls).build connect = .error failure ↔
        FirstFault (generalDepth history) (schemaTexts history) (headerCalls history) failure) ∧
      (∀ client transport, (Assembly.ofCalls start calls).build connect = .ok (client, transport) →
        client.Reflects redacted history ∧ (calls.filterMap BuilderCall.transport?).getLast? = some transport) ∧
      (∀ others, SameByKind calls others →
        (Assembly.ofCalls start others).build connect = (Assembly.ofCalls start calls).build connect) ∧
      ∀ environment (profile : Profile) variableName token client transport,
        ClientBuilder.ofProfile environment profile = .ok start → profile.bearerTokenEnv = some variableName →
          environment variableName = some token → (∀ call ∈ calls, call.kind ≠ .header) →
            (Assembly.ofCalls start calls).build connect = .ok (client, transport) →
              client.config.headers.filter (fun header => Header.lowered header.1 = "authorization") =
                [("authorization", "Bearer " ++ token)] := by
  obtain ⟨given, last, assembled⟩ := assembled_iff connect start calls supplied
  have made : start.setAll (calls.filterMap BuilderCall.setting?) = (ClientBuilder.blank redacted).setAll history := by
    rw [told, begun_calls start redacted earlier begun, ClientBuilder.setAll, ClientBuilder.setAll, ClientBuilder.setAll,
      List.foldl_append]
  obtain ⟨depth, texts, headers⟩ := told_builder redacted history
  rw [assembled, made]
  refine ⟨?_, ?_, ?_, ?_, ?_⟩
  · rw [← depth, ← texts, ← headers]
    constructor
    · rintro ⟨built, assembled⟩
      obtain ⟨client, found, _⟩ := (map_ok_iff _ _ _).mp assembled
      obtain ⟨positive, parsed, sendable, _⟩ := (built_iff _ client).mp found
      exact ⟨positive, parsed, sendable⟩
    · rintro ⟨positive, parsed, sendable⟩
      have found := (built_iff _ _).mpr ⟨positive, parsed, sendable, rfl⟩
      exact ⟨_, (map_ok_iff _ _ _).mpr ⟨_, found, rfl⟩⟩
  · intro failure
    rw [← depth, ← texts, ← headers, ← unbuilt_iff]
    cases ((ClientBuilder.blank redacted).setAll history).build with
    | error other => exact iff_of_eq (by rw [Except.map, Except.error.injEq, Except.error.injEq])
    | ok client => constructor <;> rintro ⟨⟩
  · intro client transport assembled
    obtain ⟨found, built, same⟩ := (map_ok_iff _ _ _).mp assembled
    obtain ⟨rfl, rfl⟩ := Prod.mk.inj same
    exact ⟨client_reflects redacted history found built, last⟩
  · intro others same
    rw [kinds_suffice start calls others same, assembled, made]
  · intro environment profile variableName token client transport taken named found headless assembled
    have token_found : profile.bearerToken environment = .ok (some token) := by
      rw [Profile.bearerToken, named]
      dsimp only
      rw [found]
    have started := begun_calls start _ _ (.profile environment profile (some token) start token_found taken)
    obtain ⟨other, built, same⟩ := (map_ok_iff _ _ _).mp assembled
    obtain ⟨rfl, rfl⟩ := Prod.mk.inj same
    rw [← made, started, ClientBuilder.setAll, ClientBuilder.setAll, ← List.foldl_append] at built
    refine one_authorization profile token _ (fun setting member => ?_) other built
    obtain ⟨call, called, set⟩ := List.mem_filterMap.mp member
    cases call with
    | setting own =>
        obtain rfl := Option.some.inj set
        exact headless _ called
    | transport _ => cases set

def spelledProfile : Profile := { deepProfile with headers := [("AUTHORIZATION", "Basic x"), ("X-Trace", "1")] }

def spelledBuilder : ClientBuilder := spelledProfile.start.setAll (spelledProfile.settings (some "t"))

def silent : Transport := Transport.ofList [] .timeout

def renewedText : String := "type Query \x7b node: [Node] \x7d type Mutation \x7b node: Node drop: Int \x7d"

def spelledCalls : List BuilderCall :=
  [.setting (.timeout (.ofSeconds 5)), .setting (.schema nodeText), .transport silent,
    .setting (.timeout (.ofMillis 1500)), .setting (.schema renewedText)]

def reorderedCalls : List BuilderCall :=
  [.setting (.schema nodeText), .setting (.timeout (.ofSeconds 5)), .transport silent,
    .setting (.timeout (.ofMillis 1500)), .setting (.schema renewedText)]

def unconnected : OrderedMap String → Duration → Except Failure Transport := fun _ _ => .error (.config (.http "unreachable"))

theorem token_overrides_spelled_header :
    ∃ client, (Assembly.ofCalls spelledBuilder spelledCalls).build unconnected = .ok (client, silent) ∧
      client.config.headers.filter (fun header => Header.lowered header.1 = "authorization") =
        [("authorization", "Bearer t")] ∧
      client.config.headers.get? "x-trace" = some "1" ∧ client.config.timeout = .ofMillis 1500 ∧
      client.registry.lookup "node" = some (⟨"node", .list (.named "Node"), []⟩, .query) ∧
      client.registry.lookup "drop" = some (⟨"drop", .named "Int", []⟩, .mutation) ∧
      (client.registry.operations .mutation).get? "node" = some ⟨"node", .named "Node", []⟩ ∧
      (Assembly.ofCalls spelledBuilder reorderedCalls).build unconnected =
        (Assembly.ofCalls spelledBuilder spelledCalls).build unconnected := by
  have taken : ClientBuilder.ofProfile (fun _ => some "t") spelledProfile = .ok spelledBuilder :=
    (of_profile_ok _ spelledProfile spelledBuilder).mpr ⟨by decide +kernel, some "t", rfl, rfl⟩
  obtain ⟨succeeds, _, reflects, reorders, authorized⟩ := construction_by_history unconnected spelledBuilder
    spelledProfile.logging.redactFields (spelledProfile.settings (some "t"))
    (.profile (fun _ => some "t") spelledProfile (some "t") spelledBuilder rfl taken) spelledCalls
    ⟨silent, by simp [spelledCalls]⟩ _ rfl
  have renewed : ∃ schema, Schema.parse renewedText = .ok schema := by
    rw [← is_ok_iff]
    decide +kernel
  have parsed : ∀ text ∈ [nodeText, renewedText], ∃ schema, Schema.parse text = .ok schema :=
    List.forall_mem_cons.mpr ⟨⟨nodeSchema, node_parsed⟩, List.forall_mem_singleton.mpr renewed⟩
  have queries : [nodeText, renewedText].flatMap (declaredFields .query) =
      [⟨"node", .named "Node", []⟩, ⟨"node", .list (.named "Node"), []⟩] := by decide +kernel
  have mutations : [nodeText, renewedText].flatMap (declaredFields .mutation) =
      [⟨"node", .named "Node", []⟩, ⟨"drop", .named "Int", []⟩] := by decide +kernel
  obtain ⟨⟨client, transport⟩, built⟩ := succeeds.mpr ⟨by decide, parsed, by decide +kernel⟩
  obtain ⟨same, last⟩ := reflects client transport built
  obtain rfl : silent = transport := Option.some.inj last
  refine ⟨client, built, ?_, ?_, same.timeout, ?_, ?_, ?_, ?_⟩
  · have headless : ∀ call ∈ spelledCalls, call.kind ≠ .header := by
      simp [spelledCalls, BuilderCall.kind, Setting.kind]
    exact authorized _ spelledProfile "TOKEN" "t" client silent taken rfl rfl headless built
  · exact (same.headers "x-trace").trans (by decide +kernel)
  · refine (same.lookups "node").trans ?_
    change ((lastNamed "node" ([nodeText, renewedText].flatMap (declaredFields .query))).map _).or _ = _
    rw [queries]
    rfl
  · refine (same.lookups "drop").trans ?_
    change ((lastNamed "drop" ([nodeText, renewedText].flatMap (declaredFields .query))).map _).or
      ((lastNamed "drop" ([nodeText, renewedText].flatMap (declaredFields .mutation))).map _) = _
    rw [queries, mutations]
    rfl
  · refine (same.declares .mutation "node").trans ?_
    change lastNamed "node" ([nodeText, renewedText].flatMap (declaredFields .mutation)) = _
    rw [mutations]
    rfl
  · exact reorders reorderedCalls (swapped_alike [] _ _ _ (by simp [BuilderCall.kind, Setting.kind]))

end TypedQuery
