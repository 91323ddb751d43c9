import GroupInterfaces.Episode.Annotations
import GroupInterfaces.Episode.Listing

/-!
# Reading episodes

An episode is read by the form that the local name of its root element announces.
-/

namespace GroupInterfaces.Episode

/-- The local name of the root element of a document. -/
def rootName? (document : Xml.Reading) : Option String :=
  document.events.findSome? fun
    | (.start tag, _) | (.empty tag, _) => some (.ofList tag.localName)
    | _ => none

/-- The bindings of an episode, in the order of the text. -/
def readBindings (text : String) : Except Error (List Binding) :=
  let document := Xml.read text
  match rootName? document with
  | some "interfaces" => (readListing document).mapError .listing
  | some "bindings" => readAnnotations document
  | some root => .error (.unrecognizedDocument root)
  | none =>
    match document.error with
    | some e => .error (.malformed document.position (.markup e))
    | none => .error .emptyDocument

end GroupInterfaces.Episode
