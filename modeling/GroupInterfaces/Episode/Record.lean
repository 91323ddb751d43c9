import GroupInterfaces.Episode.Error
import GroupInterfaces.Outline.TypeRef
import GroupInterfaces.Schema.Group
import GroupInterfaces.SortedMap
import GroupInterfaces.Xml.Markup

/-!
# Recording episodes

A record lists the interfaces of a run. It is written in the form of annotations, with one
schema element for every namespace, in order, and the entries of each as they were recorded.
-/

namespace GroupInterfaces.Episode

/-- A group of some kind with the interface that was generated for it. -/
structure Entry where
  kind : GroupKind
  component : QName
  interface : TypeRef
deriving DecidableEq, Inhabited

/-- The entries of an episode as they were recorded. -/
abbrev Record : Type := List Entry

/-- The step of a path to groups of a kind. -/
def axis : GroupKind → String
  | .modelGroup => "group"
  | .attributeGroup => "attributeGroup"

/-- The element of an entry whose local name is written behind some qualifier. -/
def Entry.markup (qualifier : String) (e : Entry) : Xml.Markup :=
  .branch "bindings" [("scd", axis e.kind ++ "::" ++ qualifier ++ e.component.localName)]
    [.leaf "interface" [("ref", e.interface.qualifiedName)]]

namespace Record

/-- The namespaces of the entries in order. -/
def spaces (r : Record) : List String :=
  (SortedMap.ofList (r.map fun e => (e.component.space, ()))).keys

/-- The elements for the entries of a namespace. -/
def spaceMarkup (r : Record) (space : String) : List Xml.Markup :=
  let entries := r.filter (·.component.space = space)
  if space = "" then entries.map (·.markup "")
  else
    [.branch "bindings" [("scd", "x-schema::tns"), ("xmlns:tns", space)]
      (entries.map (·.markup "tns:"))]

/-- The element of the whole record. -/
def markup (r : Record) : Xml.Markup :=
  .branch "bindings" [("xmlns", "https://jakarta.ee/xml/ns/jaxb"), ("version", "3.0")]
    (r.spaces.flatMap r.spaceMarkup)

/-- The record as a document. -/
def write (r : Record) : String := r.markup.renderDocument

/-- The files with the record written to one of them as a whole. -/
def writeTo (r : Record) (store : FileStore) (path : String) : Except Error FileStore :=
  (store.write path r.write).mapError (.file path)

end Record

end GroupInterfaces.Episode
