import TypedQuery.Event
import TypedQuery.Failure

/-!
What a client leaves behind while it works: its counters, the bodies it sent, what its policy was
asked, how long it waited, in nanoseconds, and its log.
-/

set_option autoImplicit false

namespace TypedQuery

structure Metrics where
  total : Nat
  success : Nat
  error : Nat
  retried : Nat
deriving DecidableEq, Repr, Inhabited

structure Consultation where
  attempt : Nat
  failure : Failure
deriving DecidableEq

structure Session where
  metrics : Metrics
  sent : List String
  consultations : List Consultation
  waits : List Nat
  events : List Event
deriving DecidableEq, Inhabited

namespace Session

def start : Session := ⟨⟨0, 0, 0, 0⟩, [], [], [], []⟩

def log (event : Event) (session : Session) : Session :=
  { session with events := session.events ++ [event] }

def send (body : String) (session : Session) : Session :=
  { session with sent := session.sent ++ [body] }

def wait (nanos : Nat) (session : Session) : Session :=
  { session with waits := session.waits ++ [nanos] }

def consult (attempt : Nat) (failure : Failure) (session : Session) : Session :=
  { session with consultations := session.consultations ++ [⟨attempt, failure⟩] }

def countCall (session : Session) : Session :=
  { session with metrics := { session.metrics with total := session.metrics.total + 1 } }

def countRetry (session : Session) : Session :=
  { session with metrics := { session.metrics with retried := session.metrics.retried + 1 } }

def record (ok : Bool) (session : Session) : Session :=
  { session with metrics :=
      if ok then { session.metrics with success := session.metrics.success + 1 }
      else { session.metrics with error := session.metrics.error + 1 } }

end Session

end TypedQuery
