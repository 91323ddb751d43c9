import GroupInterfaces.Xml.Reference

/-!
# Writing markup

Markup is written with one tag on a line, two blanks further in for every open element.
-/

namespace GroupInterfaces.Xml

/-- Elements with attributes and further elements within them. A leaf is one tag, a branch
has a start tag and an end tag even if nothing is within it. -/
inductive Markup where
  | leaf (name : String) (attributes : List (String × String))
  | branch (name : String) (attributes : List (String × String)) (content : List Markup)
deriving Inhabited

/-- An attribute behind a blank. -/
def writeAttribute (key value : String) : List Char :=
  ' ' :: key.toList ++ ['=', '\x22'] ++ escape value.toList ++ ['\x22']

/-- The text of a tag between its name and its end. -/
def writeTag (name : String) (attributes : List (String × String)) : List Char :=
  name.toList ++ attributes.flatMap fun (key, value) => writeAttribute key value

/-- A line at a depth of open elements. -/
def line (depth : Nat) (text : List Char) : List Char :=
  List.replicate (2 * depth) ' ' ++ text

namespace Markup

mutual

/-- The lines of an element at a depth. -/
def lines (depth : Nat) : Markup → List (List Char)
  | .leaf name attributes =>
    [line depth ('<' :: writeTag name attributes ++ ['/', '>'])]
  | .branch name attributes content =>
    line depth ('<' :: writeTag name attributes ++ ['>'])
      :: contentLines (depth + 1) content
      ++ [line depth ('<' :: '/' :: name.toList ++ ['>'])]

/-- The lines of elements at a depth. -/
def contentLines (depth : Nat) : List Markup → List (List Char)
  | [] => []
  | m :: rest => lines depth m ++ contentLines depth rest

end

end Markup

/-- Lines with a line break between them. -/
def joinLines (lines : List (List Char)) : String :=
  .ofList ((lines.intersperse ['\n']).flatten)

/-- The element as a text. -/
def Markup.render (m : Markup) : String := joinLines (m.lines 0)

/-- The line in front of a document. -/
def declaration : List Char := "<?xml version=\"1.0\" encoding=\"UTF-8\"?>".toList

/-- The element as a document. -/
def Markup.renderDocument (m : Markup) : String := joinLines (declaration :: m.lines 0)

end GroupInterfaces.Xml
