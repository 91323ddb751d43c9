import GroupInterfaces.Schema.Fragment

/-!
# Documentation of interfaces

The documentation of an interface shows the group that it was generated from. It goes into
a comment whose text is markup, so the fragment is escaped: no tag can begin in it, no tag
of the comment, and the comment cannot end.
-/

namespace GroupInterfaces

/-- A character behind another one, as it stands in a comment. A slash ends a comment only
behind an asterisk. -/
def escapeDocChar (previous c : Char) : List Char :=
  if c = '&' then "&amp;".toList
  else if c = '<' then "&lt;".toList
  else if c = '>' then "&gt;".toList
  else if c = '/' ∧ previous = '*' then "&#47;".toList
  else if c = '@' then "&#064;".toList
  else [c]

/-- A text behind a character, as it stands in a comment. -/
def escapeDocAfter : (previous : Char) → List Char → List Char
  | _, [] => []
  | previous, c :: rest => escapeDocChar previous c ++ escapeDocAfter c rest

/-- A text as it stands in a comment. -/
def escapeDoc (text : String) : String := .ofList (escapeDocAfter '\x00' text.toList)

/-- The documentation of the interface of a group. -/
def GroupDecl.documentation (d : GroupDecl) : String :=
  "Group interface generated from the following XML Schema declaration.\n"
    ++ "Name: " ++ d.name.clark ++ "\n"
    ++ "Source: " ++ d.locator.systemId ++ ", line " ++ toString d.locator.line.toNat
    ++ ", column " ++ toString d.locator.column.toNat ++ "\n"
    ++ "Schema source:\n"
    ++ "<pre>\n" ++ escapeDoc d.fragment.render ++ "\n</pre>"

end GroupInterfaces
