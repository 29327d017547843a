import TypedQuery.Failure
import TypedQuery.OrderedMap

/-!
HTTP headers. Names are tokens and kept in lower case; values hold no ASCII control but the tab.
-/

set_option autoImplicit false

namespace TypedQuery.Header

def tokenMarks : List Char :=
  ['!', '#', '$', '%', '&', '\'', '*', '+', '-', '.', '^', '_', '\x60', '|', '~']

def isTokenChar (c : Char) : Bool := c.isAlphanum || tokenMarks.contains c

def longestName : Nat := 65535

def isName (name : String) : Bool :=
  !name.isEmpty && name.length ≤ longestName && name.toList.all isTokenChar

def isValue (value : String) : Bool :=
  value.toList.all fun c => c = '\t' || (0x20 ≤ c.toNat && c.toNat ≠ 0x7f)

def check (name value : String) : Except ConfigError (String × String) :=
  if !isName name then .error (.header name "invalid HTTP header name")
  else if !isValue value then .error (.header name "failed to parse header value")
  else .ok (String.ofList (name.toList.map Char.toLower), value)

def checkAll (headers : List (String × String)) : Except ConfigError (OrderedMap String) := do
  .ok (OrderedMap.ofList (← headers.mapM fun (name, value) => check name value))

end TypedQuery.Header
