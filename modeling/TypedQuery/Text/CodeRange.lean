/-!
Sets of characters given as inclusive ranges of code points.
-/

set_option autoImplicit false

namespace TypedQuery.Text

def within (ranges : List (Nat × Nat)) (code : Nat) : Bool :=
  ranges.any fun (first, last) => first ≤ code && code ≤ last

end TypedQuery.Text
