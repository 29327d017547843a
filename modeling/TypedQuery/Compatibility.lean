import TypedQuery.Host
import TypedQuery.TypeRef

/-!
Which host types can hold the values of which GraphQL types. Non-null wrappers do not matter, list
layers must agree, and names must be equal, but for `ID`, which a host string holds too.
-/

set_option autoImplicit false

namespace TypedQuery

def isCompatible : TypeRef → HostType → Bool
  | .nonNull inner, host => isCompatible inner host
  | .list inner, .list element => isCompatible inner element
  | .list _, _ => false
  | .named _, .list _ => false
  | .named name, .scalar kind => kind.graphqlName = name || (name = "ID" && kind = .string)
  | .named name, .model ref => ref.name = name
  | .named name, .enumeration declared => declared = name
  | .named name, .foreign declared => declared = name

end TypedQuery
