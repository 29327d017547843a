import TypedQuery.Building
import TypedQuery.Decoding
import TypedQuery.Exchange
import TypedQuery.Header
import TypedQuery.Profile
import TypedQuery.Registry
import TypedQuery.Retry
import TypedQuery.Validation

/-!
The client: it builds requests for the operations of its registry, sends them, repeats them as its
retry policy says, and decodes what comes back.
-/

set_option autoImplicit false

namespace TypedQuery

structure ClientConfig where
  headers : OrderedMap String
  timeout : Duration
  selectionDepth : Nat
  depthOverrides : OrderedMap Nat
  redactFields : List String
deriving DecidableEq

namespace ClientConfig

def default : ClientConfig := ⟨[], .ofSeconds defaultTimeoutSecs, defaultDepth, [], defaultRedacted⟩

def depthFor (config : ClientConfig) (host : HostType) : Nat :=
  (host.model?.bind fun ref => config.depthOverrides.get? ref.name).getD config.selectionDepth

end ClientConfig

structure ClientBuilder where
  config : ClientConfig
  schemas : List String
  headers : List (String × String)
  retry : RetryPolicy

structure Client where
  registry : Registry
  config : ClientConfig
  retry : RetryPolicy

namespace ClientBuilder

def new : ClientBuilder := ⟨ClientConfig.default, [], [], RetryPolicy.never⟩

def withSchema (builder : ClientBuilder) (text : String) : ClientBuilder :=
  { builder with schemas := builder.schemas ++ [text] }

def withHeader (builder : ClientBuilder) (name value : String) : ClientBuilder :=
  { builder with headers := builder.headers ++ [(name, value)] }

def withBearerToken (builder : ClientBuilder) (token : String) : ClientBuilder :=
  builder.withHeader "authorization" ("Bearer " ++ token)

def withTimeout (builder : ClientBuilder) (timeout : Duration) : ClientBuilder :=
  { builder with config := { builder.config with timeout := timeout } }

def withSelectionDepth (builder : ClientBuilder) (depth : Nat) : ClientBuilder :=
  { builder with config := { builder.config with selectionDepth := depth } }

def withDepthOverride (builder : ClientBuilder) (model : String) (depth : Nat) : ClientBuilder :=
  { builder with config := { builder.config with
      depthOverrides := builder.config.depthOverrides.insert model depth } }

def withRetryPolicy (builder : ClientBuilder) (retry : RetryPolicy) : ClientBuilder :=
  { builder with retry := retry }

def ofProfile (environment : String → Option String) (profile : Profile) :
    Except ConfigError ClientBuilder := do
  profile.validate
  let start := (new.withTimeout profile.timeout).withSelectionDepth profile.selectionDepth
  let redacting :=
    { start with config := { start.config with redactFields := profile.logging.redactFields } }
  let deepened := profile.depthOverrides.foldl
    (fun builder (model, depth) => withDepthOverride builder model depth) redacting
  let headed := profile.headers.foldl
    (fun builder (name, value) => withHeader builder name value) deepened
  match ← profile.bearerToken environment with
  | some token => .ok (headed.withBearerToken token)
  | none => .ok headed

def build (builder : ClientBuilder) : Except Failure Client := do
  if builder.config.selectionDepth = 0 then
    .error (.config (.invalid "selection_depth" "must be > 0"))
  else
    let (loaded, registry) := Registry.empty.loadAll builder.schemas
    loaded.mapError Failure.schema
    let headers ← (Header.checkAll builder.headers).mapError Failure.config
    .ok ⟨registry, { builder.config with headers := headers }, builder.retry⟩

end ClientBuilder

structure Call (α : Type) where
  name : String
  operationName : String
  arguments : List Argument
  result : ResultType α

namespace Client

variable {α : Type}

def target (client : Client) (call : Call α) : Except UsageError Target :=
  if Text.isBlankText call.name then .error .blankName
  else match client.registry.lookup call.name with
    | none => .error (.unknownOperation call.name)
    | some (field, kind) =>
        .ok { kind := kind
              field := field
              name := call.name
              operationName :=
                if Text.isBlankText call.operationName then call.name else call.operationName
              result := call.result.host
              depth := client.config.depthFor call.result.host }

def request (client : Client) (models : ModelTable) (call : Call α) : Except UsageError Request := do
  (← client.target call).build models call.arguments

def builtEvent? (client : Client) (call : Call α) (request : Request) : Option Event :=
  match client.target call with
  | .ok target => some (target.event request)
  | .error _ => none

def prepare (client : Client) (models : ModelTable) (call : Call α) (session : Session) :
    Except Failure Request × Session :=
  match client.request models call with
  | .ok request =>
      (.ok request, match client.builtEvent? call request with
        | some event => session.log event
        | none => session)
  | .error error => (.error (.usage error), session)

def retryEvent (delay : Duration) : Event :=
  ⟨.debug, "retrying GraphQL request after " ++ delay.text, []⟩

/-- Sends a request until something is received or the policy refuses. Where neither ever comes
about, sending does not end and has no result. -/
def attempts (client : Client) (transport : Transport) (request : Request) (attempt : Nat)
    (session : Session) : Except Failure Response × Session :=
  match exchange client.config.redactFields transport request session with
  | (.ok response, after) => (.ok response, after)
  | (.error fault, after) =>
      let failure := Failure.client (fault.toClientError request)
      if !failure.isRetryable then (.error failure, after)
      else
        let asked := after.consult attempt failure
        match client.retry.decide failure attempt with
        | some delay =>
            client |>.attempts transport request (attempt + 1)
              ((asked.countRetry.log (retryEvent delay)).wait delay.nanos)
        | none => (.error failure, asked)
partial_fixpoint

def send (client : Client) (transport : Transport) (request : Request) (session : Session) :
    Except Failure Response × Session :=
  client.attempts transport request 1 session.countCall

def remoteEvent (request : Request) (response : Response) : Event :=
  ⟨.warn, "GraphQL server returned errors",
    [("operation", request.operationName), ("errors", toString response.errors.length)]⟩

def requires (client : Client) (name : String) : Bool :=
  match client.registry.lookup name with
  | some (field, _) => field.type.isNonNull
  | none => false

def conclude (client : Client) (models : ModelTable) (call : Call α) (request : Request)
    (response : Response) (session : Session) : Except Failure α × Session :=
  if !response.isOk then
    (.error (.remote response.errors), (session.log (remoteEvent request response)).record false)
  else
    match decodeMember models call.result response call.name (client.requires call.name) with
    | .ok value => (.ok value, session.record true)
    | .error fault =>
        (.error (.client (fault.toClientError request response)),
          (session.log (fault.event request call.name)).record false)

def execute (client : Client) (models : ModelTable) (transport : Transport) (call : Call α)
    (session : Session) : Except Failure α × Session :=
  match client.prepare models call session with
  | (.error failure, prepared) => (.error failure, prepared)
  | (.ok request, prepared) =>
      match client.send transport request prepared with
      | (.error failure, after) => (.error failure, after.record false)
      | (.ok response, after) => client.conclude models call request response after

def executeRequest (client : Client) (transport : Transport) (request : Request)
    (session : Session) : Except Failure Response × Session :=
  match client.send transport request session with
  | (.ok response, after) => (.ok response, after.record response.isOk)
  | (.error failure, after) => (.error failure, after.record false)

def validate (client : Client) (oracle : TypeOracle) (text : String) (session : Session) :
    Except Failure Unit × Session :=
  match Schema.parse text with
  | .error error => (.error (.schema error), session)
  | .ok schema =>
      let fields := client.registry.fields.map Prod.fst
      let report := validateAll oracle schema fields
      (report.toExcept, session.log (report.event fields.length))

end Client

end TypedQuery
