import GroupInterfaces.Episode.Binding
import GroupInterfaces.Episode.Error
import GroupInterfaces.Text.Blank

/-!
# Episodes as annotations

In its usual form an episode is a tree of `bindings` elements whose `scd` attributes point
at schema components. One that points at a schema sets the namespace for what is within it.
One that points at a group binds it to the interface that the first `interface` or `class`
element with a `ref` attribute names, anywhere within it up to the next inner group.

The tree is read in one pass with a stack of the open elements.
-/

namespace GroupInterfaces.Episode

/-- An element by its local name, with the values of its attributes. -/
structure Element where
  localName : String
  attributes : List (String × String)
deriving DecidableEq, Inhabited

namespace Element

/-- The last value of an attribute. -/
def attribute? (e : Element) (key : String) : Option String :=
  e.attributes.reverse.lookup key

/-- The namespace prefixes that an element declares, last one first. -/
def prefixes (e : Element) : List (String × String) :=
  e.attributes.reverse.filterMap fun (key, value) =>
    if key.startsWith "xmlns:" then some ((key.drop 6).toString, value) else none

end Element

/-- What an `scd` attribute points at. -/
inductive Target where
  | schema (name : String)
  | group (name : String)
  | other
deriving DecidableEq

/-- The text behind a beginning, if the text has that beginning. -/
def behind? (start s : String) : Option String :=
  if s.startsWith start then some (s.drop start.length).toString else none

/-- The target of an `scd` attribute. -/
def Target.ofScd (scd : String) : Target :=
  let path := String.ofList ((Text.trim scd).toList.dropWhile (· = '/'))
  match behind? "x-schema::" path, behind? "group::" path, behind? "attributeGroup::" path with
  | some name, _, _ => .schema name
  | none, some name, _ => .group name
  | none, none, some name => .group name
  | none, none, none => .other

/-- A group whose element is open, with its interface once that is known. -/
structure Pending where
  scd : String
  component : QName
  interface : Option String := none
deriving DecidableEq

/-- What an open element says: the prefixes it declares, last one first, the namespace it
sets, and the group it binds. -/
structure Frame where
  prefixes : List (String × String) := []
  space : Option String := none
  pending : Option Pending := none
deriving DecidableEq, Inhabited

/-- The frames of the open elements, innermost one first, and the bindings so far. -/
structure Walk where
  stack : List Frame := []
  bindings : List Binding := []
deriving DecidableEq, Inhabited

/-- The namespace of a prefix, as the innermost of some frames declares it. -/
def resolvePrefix? (stack : List Frame) (name : String) : Option String :=
  stack.findSome? (·.prefixes.lookup name)

/-- The namespace of names without a prefix. -/
def defaultSpace (stack : List Frame) : String := (stack.findSome? (·.space)).getD ""

/-- The component that a name stands for. -/
def resolveName (stack : List Frame) (scd name : String) : Except Error QName :=
  match name.toList.dropWhile (· ≠ ':') with
  | _ :: localName =>
    let qualifier := String.ofList (name.toList.takeWhile (· ≠ ':'))
    match resolvePrefix? stack qualifier with
    | some space => .ok { space, localName := .ofList localName }
    | none => .error (.unknownPrefix qualifier scd)
  | [] => .ok { space := defaultSpace stack, localName := name }

/-- The frame of an element within those of the elements around it. -/
def frameOf (around : List Frame) (e : Element) : Except Error Frame :=
  let frame : Frame := { prefixes := e.prefixes }
  match if e.localName = "bindings" then e.attribute? "scd" else none with
  | none => .ok frame
  | some scd =>
    match Target.ofScd scd with
    | .schema name =>
      match resolvePrefix? (frame :: around) name with
      | some space => .ok { frame with space := some space }
      | none => .error (.unknownPrefix name scd)
    | .group name => do
      let component ← resolveName (frame :: around) scd name
      .ok { frame with pending := some { scd, component } }
    | .other => .ok frame

/-- The interface that an element names. -/
def Element.reference? (e : Element) : Option String :=
  if e.localName = "interface" || e.localName = "class" then e.attribute? "ref" else none

/-- Gives an interface to the innermost group that is open, unless it has one. -/
def attach (interface : String) : List Frame → List Frame
  | [] => []
  | frame :: rest =>
    match frame.pending with
    | none => frame :: attach interface rest
    | some p =>
      { frame with pending := some { p with interface := p.interface.or (some interface) } }
        :: rest

namespace Walk

/-- Goes into an element. -/
def enter (w : Walk) (e : Element) : Except Error Walk := do
  let frame ← frameOf w.stack e
  let stack := frame :: w.stack
  match e.reference? with
  | some interface => pure { w with stack := attach interface stack }
  | none => pure { w with stack }

/-- Goes out of the innermost element, which binds its group. There always is one: the reader of
documents refuses an end tag that ends nothing, and so does not come to one without an element. -/
def leave (w : Walk) : Except Error Walk :=
  match w.stack with
  | [] => .ok w
  | frame :: stack =>
    match frame.pending with
    | none => .ok { w with stack }
    | some p =>
      match p.interface with
      | some interface =>
        .ok { stack, bindings := w.bindings ++ [{ interface, component := p.component }] }
      | none => .error (.missingInterface p.scd)

end Walk

/-! ### Documents -/

/-- The values of attributes in order, up to the first one that cannot be read. -/
def readValues (position : Nat) :
    List Xml.Attribute → Except Error (List (String × String))
  | [] => .ok []
  | a :: rest => do
    let value ← a.value.mapError fun e => .malformed position (.reference e)
    let values ← readValues position rest
    pure ((String.ofList a.key, value) :: values)

/-- The element of a tag that ends at a position. -/
def readElement (position : Nat) (tag : Xml.Tag) : Except Error Element := do
  let (attributes, error) := tag.attributes
  let attributes ← readValues position attributes
  match error with
  | some e => throw (.malformed position (.attribute e))
  | none => pure { localName := .ofList tag.localName, attributes }

namespace Walk

/-- Goes past an event that ends at a position. -/
def step (w : Walk) (event : Xml.Event × Nat) : Except Error Walk :=
  match event with
  | (.start tag, position) => do w.enter (← readElement position tag)
  | (.empty tag, position) => do (← w.enter (← readElement position tag)).leave
  | (.close _, _) => w.leave
  | _ => .ok w

end Walk

/-- The bindings of a document in the form of annotations. -/
def readAnnotations (document : Xml.Reading) : Except Error (List Binding) := do
  let w ← document.events.foldlM Walk.step {}
  match document.error with
  | some e => throw (.malformed document.position (.markup e))
  | none =>
    if w.stack.isEmpty then pure w.bindings
    else throw (.malformed document.position .unexpectedEnd)

end GroupInterfaces.Episode
