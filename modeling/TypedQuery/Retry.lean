import TypedQuery.Duration
import TypedQuery.Failure

/-!
Retry policies. A policy is asked about each failure that nothing was received for, with the number
of the attempt that failed, and gives the delay before the next one, or refuses.
-/

set_option autoImplicit false

namespace TypedQuery

structure RetryPolicy where
  decide : Failure → Nat → Option Duration

namespace RetryPolicy

def never : RetryPolicy := ⟨fun _ _ => none⟩

def ofDelays (delays : List Duration) : RetryPolicy := ⟨fun _ attempt => delays[attempt - 1]?⟩

end RetryPolicy

end TypedQuery
