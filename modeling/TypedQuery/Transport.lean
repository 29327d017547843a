import TypedQuery.Json.Token
import TypedQuery.Text.Utf8

/-!
What comes back from the network: a response with a status and a body, or a fault before any
response.
-/

set_option autoImplicit false

namespace TypedQuery

inductive TransportFault where
  | timeout
  | connect (reason : String)
  | other (reason : String)
deriving DecidableEq, Repr

def TransportFault.message : TransportFault → String
  | .timeout => "request timed out"
  | .connect reason => "connection failed: " ++ reason
  | .other reason => "transport error: " ++ reason

/-- A response. Bytes of the body that are no text are faults among its characters. -/
structure HttpResponse where
  status : Nat
  body : List Text.Utf8.Piece
deriving DecidableEq, Repr

namespace HttpResponse

def ofBytes (status : Nat) (bytes : List UInt8) : HttpResponse := ⟨status, Text.Utf8.decode bytes⟩

def ofText (status : Nat) (text : String) : HttpResponse := ⟨status, text.toList.map .char⟩

def text (response : HttpResponse) : String := Text.Utf8.lossy response.body

def source (response : HttpResponse) : Json.Source :=
  response.body.flatMap fun
    | .char c => [some c]
    | .fault width => List.replicate width none

def isSuccess (response : HttpResponse) : Bool := 200 ≤ response.status && response.status ≤ 299

end HttpResponse

inductive Delivery where
  | response (response : HttpResponse)
  | fault (fault : TransportFault)
deriving DecidableEq, Repr

abbrev Transport := Nat → Delivery

def Transport.ofList (deliveries : List Delivery) (exhausted : TransportFault) : Transport :=
  fun n => (deliveries[n]?).getD (.fault exhausted)

end TypedQuery
