import TypedQuery.Client
import TypedQuery.Hosting.Models
import TypedQuery.Hosting.SchemaText

/-!
The client of the hosting service: environments are read, instances are read, added and deleted, and
an added instance can be waited for.
-/

set_option autoImplicit false

namespace TypedQuery.Hosting

def builder : ClientBuilder := ClientBuilder.new.withSchema schemaText

def clientFor (token : String) : Except Failure Client := (builder.withBearerToken token).build

def catalog : Catalog :=
  [Environment.type, EnvironmentReference.type, Certificates.type, Instance.type,
    InstanceInput.type].map fun type => ⟨modelNamespace, type.host records⟩

inductive HostingError where
  | call (failure : Failure)
  | notReady (dgraphId : String)
deriving DecidableEq

namespace HostingError

def message : HostingError → String
  | .call failure => failure.message
  | .notReady _ => "Instance doesn't seem to be up yet"

def addedInstance? : HostingError → Option String
  | .call _ => none
  | .notReady dgraphId => some dgraphId

end HostingError

def pollCount : Nat := 3

/-- A connection to the service. Poll `n` waits `n` intervals, and the longest wait is a duration still. -/
structure Service where
  client : Client
  transport : Transport
  pollInterval : Duration
  short : pollInterval.nanos * pollCount < UInt64.size * nanosPerSecond

namespace Service

abbrev Outcome (α : Type) := Except HostingError α × Session

def argument (type : WireType) (value : WireValue) : Argument := Argument.ofWire records type value

def text (value : String) : Argument := argument .string (.str value)

def call {α : Type} (service : Service) (name : String) (arg : Argument) (type : WireType)
    (read : WireValue → Option α) (session : Session) : Outcome α :=
  let call : Call WireValue := ⟨name, name, [arg], ResultType.ofWire records type⟩
  match service.client.execute models service.transport call session with
  | (.error failure, after) => (.error (.call failure), after)
  | (.ok value, after) => match read value with
    | some result => (.ok result, after)
    | none => (.error (.call (.client (ClientError.new ClientError.decodeFailure))), after)

def listOf {α : Type} (read : WireValue → Option α) : WireValue → Option (List α)
  | .list items => items.mapM read
  | _ => none

def getEnvironment (service : Service) (id : String) : Session → Outcome (Option Environment) :=
  service.call "getEnvironment" (text id) (.option Environment.type)
    (absentOr Environment.ofWire?)

def queryEnvironment (service : Service) (name : String) : Session → Outcome (List Environment) :=
  service.call "queryEnvironment" (argument (.list .string) (.list [.str name]))
    (.list Environment.type) (listOf Environment.ofWire?)

def getInstance (service : Service) (dgraphId : String) : Session → Outcome (Option Instance) :=
  service.call "getDgraphInstance" (text dgraphId) (.option Instance.type)
    (absentOr Instance.ofWire?)

def queryInstance (service : Service) (environmentId : String) :
    Session → Outcome (Option Instance) :=
  service.call "queryDgraphInstance" (text environmentId) (.option Instance.type)
    (absentOr Instance.ofWire?)

def deleteInstance (service : Service) (dgraphId : String) : Session → Outcome (Option String) :=
  service.call "deleteDgraphInstance" (text dgraphId) (.option .string) (absentOr textOf?)

def addInstance (service : Service) (input : InstanceInput) (session : Session) :
    Outcome Instance :=
  match service.call "addDgraphInstance" (argument InstanceInput.type input.toWire) Instance.type
      Instance.ofWire? session with
  | (.ok added, after) =>
      (.ok added, after.log ⟨.info, "Dgraph instance added", [("dgraph_id", added.dgraphId)]⟩)
  | failed => failed

def pollFields (poll : Nat) (dgraphId : String) : List (String × String) :=
  [("poll", toString poll), ("dgraph_id", dgraphId)]

def awaitInstance (service : Service) (dgraphId : String) : Nat → Nat → Session → Outcome Instance
  | 0, _, session => (.error (.notReady dgraphId), session)
  | left + 1, poll, session =>
      match service.getInstance dgraphId (session.wait (service.pollInterval.nanos * poll)) with
      | (.ok (some found), after) => (.ok found, after)
      | (.ok none, after) =>
          service.awaitInstance dgraphId left (poll + 1)
            (after.log ⟨.debug, "instance not readable yet", pollFields poll dgraphId⟩)
      | (.error error, after) =>
          service.awaitInstance dgraphId left (poll + 1)
            (after.log ⟨.warn, "readiness poll failed",
              pollFields poll dgraphId ++ [("error", error.message)]⟩)

def addInstanceAndWait (service : Service) (input : InstanceInput) (session : Session) :
    Outcome Instance :=
  match service.addInstance input session with
  | (.error error, after) => (.error error, after)
  | (.ok added, after) => service.awaitInstance added.dgraphId pollCount 1 after

def validateSchema (service : Service) (text : String) (session : Session) :
    Except Failure Unit × Session :=
  service.client.validate (catalogOracle models catalog [modelNamespace]) text session

end Service

end TypedQuery.Hosting
