import TypedQuery.Redaction
import TypedQuery.Session
import TypedQuery.Transport

/-!
One exchange: a request is sent once, and what comes back is a response or a fault.
-/

set_option autoImplicit false

namespace TypedQuery

inductive ExchangeFault where
  | transport (fault : TransportFault)
  | status (code : Nat) (body : String)
  | unreadable (cause : String) (body : String)
deriving DecidableEq, Repr

namespace ExchangeFault

def toClientError (request : Request) : ExchangeFault → ClientError
  | .transport fault => ⟨ClientError.transportFailure, some fault.message, some request, none⟩
  | .status code body =>
      ⟨s!"HTTP response is not success (code {code})", none, some request, some body⟩
  | .unreadable cause body => ⟨ClientError.decodeFailure, some cause, some request, some body⟩

def event (request : Request) : ExchangeFault → Event
  | .transport fault =>
      ⟨.warn, "GraphQL transport failed",
        [("operation", request.operationName), ("error", fault.message)]⟩
  | .status code _ =>
      ⟨.warn, "GraphQL HTTP status is not success",
        [("operation", request.operationName), ("status", toString code)]⟩
  | .unreadable cause _ =>
      ⟨.warn, "GraphQL response is not valid JSON",
        [("operation", request.operationName), ("error", cause)]⟩

end ExchangeFault

def Delivery.read : Delivery → Except ExchangeFault Response
  | .fault cause => .error (.transport cause)
  | .response received =>
      if !received.isSuccess then .error (.status received.status received.text)
      else match Response.read received.source with
        | .ok parsed => .ok parsed
        | .error cause => .error (.unreadable cause.message received.text)

def sendingEvent (redacted : List String) (request : Request) : Event :=
  ⟨.debug, "sending GraphQL request",
    [("operation", request.operationName),
      ("variables", (redact redacted (.obj request.values)).compact)]⟩

def exchange (redacted : List String) (transport : Transport) (request : Request)
    (session : Session) : Except ExchangeFault Response × Session :=
  let result := (transport session.sent.length).read
  let sent := (session.log (sendingEvent redacted request)).send request.wire
  match result with
  | .ok response => (.ok response, sent)
  | .error fault => (.error fault, sent.log (fault.event request))

end TypedQuery
