import GroupInterfaces.Episode.Binding
import GroupInterfaces.Episode.Error

/-!
# Episodes as lists

In its plain form an episode is an `interfaces` element with one `interface` element for
every binding. Elements and attributes are known by their local names, and what is not
known is skipped. An element whose name is an at sign and the name of an attribute stands
for that attribute.

Reading looks one piece of markup ahead. White space around texts does not count, and
texts that are not blank matter only where an `interface` is expected; but the references in
all texts that are not skipped have to be readable.
-/

namespace GroupInterfaces.Episode

namespace Listing

/-! ### Pieces of markup -/

/-- Tags and texts of a document. Every element has two tags. -/
inductive Piece where
  | start (tag : Xml.Tag)
  | close (name : List Char)
  | text (raw : List Char)
  | cdata (content : List Char)
  | doctype
deriving DecidableEq, Inhabited

/-- The pieces of an event. -/
def Piece.ofEvent : Xml.Event → List Piece
  | .start tag => [.start tag]
  | .empty tag => [.start tag, .close tag.name]
  | .close name => [.close name]
  | .text raw => [.text raw]
  | .cdata content => [.cdata content]
  | .doctype => [.doctype]
  | .aside => []

/-- A piece that continues a text. -/
def Piece.isText : Piece → Bool
  | .text _ | .cdata _ => true
  | _ => false

/-- Pieces without the blank texts and the white space in front. -/
def dropBlank : List Piece → List Piece
  | .text raw :: rest =>
    match raw.dropWhile Xml.isSpace with
    | [] => dropBlank rest
    | raw => .text raw :: rest
  | pieces => pieces

/-- Dropping what is blank leaves no more pieces than there were. -/
theorem length_dropBlank_le (pieces : List Piece) :
  (dropBlank pieces).length ≤ pieces.length
  := by
  fun_induction dropBlank pieces <;> simp_all
  omega

/-- What a document ends with: the end itself or a mistake in its markup. -/
abbrev Ending : Type := Option Xml.MarkupError

/-- The reason for which reading stops at the end. -/
def Ending.error : Ending → ListingError
  | none => .unexpectedEnd
  | some e => .markup e

/-- The reason for which skipping stops at the end. -/
def Ending.skipError : Ending → ListingError
  | none | some (.unexpectedEnd _) => .unexpectedEnd
  | some e => .markup e

/-! ### Tokens -/

/-- What a reader of a list sees: tags, and joined texts that are not blank. -/
inductive Token where
  | start (tag : Xml.Tag)
  | close
  | text (content : List Char)
deriving DecidableEq, Inhabited

/-- A text in front of further pieces, without the white space behind it unless the text
goes on. -/
def textBefore (raw : List Char) (rest : List Piece) : List Char :=
  match rest with
  | [] => (raw.reverse.dropWhile Xml.isSpace).reverse
  | p :: _ => if p.isText then raw else (raw.reverse.dropWhile Xml.isSpace).reverse

/-- Reads the rest of a text. -/
def readText : List Piece → Except ListingError (List Char × List Piece)
  | .text raw :: rest => do
    let content ← (Xml.unescape (textBefore raw rest)).mapError .reference
    let (more, rest) ← readText rest
    pure (content ++ more, rest)
  | .cdata content :: rest => do
    let (more, rest) ← readText rest
    pure (content ++ more, rest)
  | rest => .ok ([], rest)

/-- Reads the rest of a text behind its first part. -/
def readTextBehind (content : List Char) (pieces : List Piece) :
    Except ListingError (Token × List Piece) := do
  let (more, rest) ← readText pieces
  pure (.text (content ++ more), rest)

/-- The next token, and the pieces behind it. -/
def next (ending : Ending) (pieces : List Piece) :
    Except ListingError (Token × List Piece) :=
  match pieces with
  | [] => .error ending.error
  | .start tag :: rest => .ok (.start tag, dropBlank rest)
  | .close _ :: rest => .ok (.close, dropBlank rest)
  | .doctype :: rest => next ending (dropBlank rest)
  | .cdata content :: rest => readTextBehind content rest
  | .text raw :: rest =>
    match textBefore raw rest with
    | [] => next ending rest
    | raw => do readTextBehind (← (Xml.unescape raw).mapError .reference) rest
termination_by pieces.length
decreasing_by
  · have := length_dropBlank_le rest; simp; omega
  · simp

/-! ### Skipping -/

/-- Skips to the end tag of an element in which `depth` elements of the same name are
open. -/
def skipWithin (ending : Ending) (name : List Char) :
    (depth : Nat) → List Piece → Except ListingError (List Piece)
  | _, [] => .error ending.skipError
  | depth, .start tag :: rest =>
    skipWithin ending name (if tag.name = name then depth + 1 else depth) rest
  | depth, .close other :: rest =>
    if other = name then
      match depth with
      | 0 => .ok rest
      | depth + 1 => skipWithin ending name depth rest
    else skipWithin ending name depth rest
  | depth, _ :: rest => skipWithin ending name depth rest

/-- Skips to the end tag of an element, given what is left of it. -/
def skipElement (ending : Ending) (name : List Char) :
    List Piece → Except ListingError (List Piece)
  | [] => .error ending.error
  | .start tag :: rest =>
    if tag.name = name then
      return dropBlank (← skipWithin ending name 0 (← skipWithin ending name 0 rest))
    else dropBlank <$> skipWithin ending name 0 rest
  | .close other :: rest =>
    if other = name then .ok (dropBlank rest)
    else dropBlank <$> skipWithin ending name 0 rest
  | p :: rest =>
    (if p.isText then id else dropBlank) <$> skipWithin ending name 0 rest

/-- Skips an element behind its start tag. -/
def skip (ending : Ending) (name : List Char) (pieces : List Piece) :
    Except ListingError (List Piece) := do
  match ← next ending pieces with
  | (.start tag, rest) => skipElement ending name (← skipElement ending tag.name rest)
  | (.close, rest) => pure rest
  | (.text _, rest) => skipElement ending name rest

/-! ### Fields

The fields of an element are its attributes with certain local names, and the elements in it
that stand for such attributes. -/

/-- The values of fields. -/
abbrev Fields : Type := List (String × String)

/-- Refuses a second value for a field. -/
def Fields.expectNew (found : Fields) (name : String) : Except ListingError Unit :=
  if (found.lookup name).isSome then .error (.repeatedField ("@" ++ name)) else .ok ()

/-- The value of a field that has to be there. -/
def Fields.required (found : Fields) (name : String) : Except ListingError String :=
  match found.lookup name with
  | some value => .ok value
  | none => .error (.missingField ("@" ++ name))

/-- An attribute declares a namespace. -/
def declaresNamespace (a : Xml.Attribute) : Bool :=
  a.key = "xmlns".toList || a.key.take 6 = "xmlns:".toList

/-- The fields that attributes give, behind those found so far. -/
def collect (wanted : List String) :
    (found : Fields) → List Xml.Attribute → Except ListingError Fields
  | found, [] => .ok found
  | found, a :: rest => do
    let name := String.ofList (Xml.localName a.key)
    if declaresNamespace a || !wanted.contains name then collect wanted found rest
    else
      found.expectNew name
      let value ← a.value.mapError .reference
      collect wanted ((name, value) :: found) rest

/-- The fields that the attributes of a tag give. -/
def fieldsOf (wanted : List String) (tag : Xml.Tag) : Except ListingError Fields := do
  let (attributes, error) := tag.attributes
  let found ← collect wanted [] attributes
  match error with
  | some e => throw (.attribute e)
  | none => pure found

/-- Reads the text in an element behind its start tag. There are no tags in it. -/
def readValue (ending : Ending) (pieces : List Piece) :
    Except ListingError (String × List Piece) := do
  match ← next ending pieces with
  | (.close, rest) => pure ("", rest)
  | (.start tag, _) => throw (.unexpectedStart (.ofList tag.name))
  | (.text content, rest) =>
    match ← next ending rest with
    | (.close, rest) => pure (.ofList content, rest)
    | (.start tag, _) => throw (.unexpectedStart (.ofList tag.name))
    | (.text _, _) => throw .unexpectedEnd

/-- Reads an element behind its start tag, as a field or to skip it. -/
def readField (ending : Ending) (wanted : List String) (found : Fields) (tag : Xml.Tag)
    (pieces : List Piece) : Except ListingError (Fields × List Piece) :=
  match wanted.find? fun name => tag.localName = '@' :: name.toList with
  | some name => do
    found.expectNew name
    let (value, rest) ← readValue ending pieces
    pure ((name, value) :: found, rest)
  | none => (skip ending tag.name pieces).map (found, ·)

/-! ### The parts of a list

What is within an element is read with at most as many tokens as `fuel` says. -/

/-- Reads what is left of an element in which there are fields only, given those so far. -/
def readFields (ending : Ending) (wanted : List String) :
    (fuel : Nat) → (found : Fields) → List Piece → Except ListingError (Fields × List Piece)
  | 0, _, _ => .error .unexpectedEnd
  | fuel + 1, found, pieces => do
    match ← next ending pieces with
    | (.start tag, rest) =>
      let (found, rest) ← readField ending wanted found tag rest
      readFields ending wanted fuel found rest
    | (.text _, rest) => readFields ending wanted fuel found rest
    | (.close, rest) => pure (found, rest)

/-- Reads a `schema-component` element behind its start tag. -/
def readComponent (ending : Ending) (fuel : Nat) (tag : Xml.Tag) (pieces : List Piece) :
    Except ListingError (QName × List Piece) := do
  let wanted := ["name", "namespace"]
  let (found, rest) ← readFields ending wanted fuel (← fieldsOf wanted tag) pieces
  let localName ← found.required "name"
  pure ({ space := (found.lookup "namespace").getD "", localName }, rest)

/-- Reads what is left of an `interface` element, given its fields and the component so
far. -/
def readInterfaceContent (ending : Ending) :
    (fuel : Nat) → (found : Fields) → (component? : Option QName) → List Piece →
      Except ListingError (Fields × Option QName × List Piece)
  | 0, _, _, _ => .error .unexpectedEnd
  | fuel + 1, found, component?, pieces => do
    match ← next ending pieces with
    | (.start tag, rest) =>
      if tag.localName = "schema-component".toList then
        if component?.isSome then throw (.repeatedField "schema-component")
        let (component, rest) ← readComponent ending fuel tag rest
        readInterfaceContent ending fuel found (some component) rest
      else
        let (found, rest) ← readField ending ["name"] found tag rest
        readInterfaceContent ending fuel found component? rest
    | (.text _, rest) => readInterfaceContent ending fuel found component? rest
    | (.close, rest) => pure (found, component?, rest)

/-- Reads an `interface` element behind its start tag. -/
def readInterface (ending : Ending) (fuel : Nat) (tag : Xml.Tag) (pieces : List Piece) :
    Except ListingError (Binding × List Piece) := do
  let found ← fieldsOf ["name"] tag
  let (found, component?, rest) ← readInterfaceContent ending fuel found none pieces
  let interface ← found.required "name"
  match component? with
  | some component => pure ({ interface, component }, rest)
  | none => throw (.missingField "schema-component")

/-- Reads `interface` elements with the same full name up to another tag, which is not
read. -/
def readRun (ending : Ending) (name : List Char) :
    (fuel : Nat) → List Piece → Except ListingError (List Binding × List Piece)
  | 0, _ => .error .unexpectedEnd
  | fuel + 1, pieces => do
    match ← next ending pieces with
    | (.start tag, rest) =>
      if tag.name = name then
        let (binding, rest) ← readInterface ending fuel tag rest
        let (bindings, rest) ← readRun ending name fuel rest
        pure (binding :: bindings, rest)
      else pure ([], pieces)
    | (.text _, _) => throw .expectedElement
    | (.close, _) => pure ([], pieces)

/-- Reads what is left of the `interfaces` element, given its bindings so far. -/
def readContent (ending : Ending) :
    (fuel : Nat) → (bindings? : Option (List Binding)) → List Piece →
      Except ListingError (List Binding)
  | 0, _, _ => .error .unexpectedEnd
  | fuel + 1, bindings?, pieces => do
    match ← next ending pieces with
    | (.start tag, rest) =>
      if tag.localName = "interface".toList then
        if bindings?.isSome then throw (.repeatedField "interface")
        let (bindings, rest) ← readRun ending tag.name fuel pieces
        readContent ending fuel (some bindings) rest
      else readContent ending fuel bindings? (← skip ending tag.name rest)
    | (.text _, rest) => readContent ending fuel bindings? rest
    | (.close, _) => pure (bindings?.getD [])

/-- Reads the root element of a list. -/
def readRoot (ending : Ending) (pieces : List Piece) : Except ListingError (List Binding) := do
  match ← next ending (dropBlank pieces) with
  | (.start tag, rest) =>
    let _ ← fieldsOf [] tag
    readContent ending (pieces.length + 1) none rest
  | (.text _, _) => throw .expectedElement
  | (.close, _) => throw .unexpectedEnd

end Listing

/-- The bindings of a document in the form of a list. -/
def readListing (document : Xml.Reading) : Except ListingError (List Binding) :=
  Listing.readRoot document.error (document.events.flatMap fun (e, _) => Listing.Piece.ofEvent e)

end GroupInterfaces.Episode
