import GroupInterfaces.Schema.QName

/-!
# Bindings

An episode binds groups to the interfaces that were generated for them.
-/

namespace GroupInterfaces.Episode

/-- The interface, by qualified name, that a group is bound to. -/
structure Binding where
  interface : String
  component : QName
deriving DecidableEq, Inhabited

end GroupInterfaces.Episode
