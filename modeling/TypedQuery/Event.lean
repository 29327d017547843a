/-!
Log events: a level, a message and named texts.
-/

set_option autoImplicit false

namespace TypedQuery

inductive Level where
  | debug
  | info
  | warn
deriving DecidableEq, Repr

def Level.text : Level → String
  | .debug => "DEBUG"
  | .info => "INFO"
  | .warn => "WARN"

structure Event where
  level : Level
  message : String
  fields : List (String × String)
deriving DecidableEq, Repr

end TypedQuery
