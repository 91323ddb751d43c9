import GroupInterfaces.Xml.Reference

/-!
# Reading markup

A document is read into the events that its tags and the texts between them are. Reading
looks at no more than it needs: names are whatever stands at their place, and attributes are
only looked at on demand. It ends at the first mistake or at the end of the text; the
places of both count bytes.
-/

namespace GroupInterfaces.Xml

/-- White space within markup. -/
def isSpace (c : Char) : Bool := c = ' ' || c = '\t' || c = '\n' || c = '\r'

/-- What a start tag holds between its angle brackets, without the slash of an empty one. -/
structure Tag where
  text : List Char
deriving DecidableEq, Inhabited

/-- The name in a tag, up to the first white space. -/
def Tag.name (t : Tag) : List Char := t.text.takeWhile (! isSpace ·)

/-- A name without what stands in front of its first colon. -/
def localName (name : List Char) : List Char :=
  match name.dropWhile (· ≠ ':') with
  | _ :: rest => rest
  | [] => name

/-- The name in a tag without what stands in front of its first colon. -/
def Tag.localName (t : Tag) : List Char := Xml.localName t.name

/-- Events of a document. Comments and processing instructions are `aside`. -/
inductive Event where
  | start (tag : Tag)
  | empty (tag : Tag)
  | close (name : List Char)
  | text (raw : List Char)
  | cdata (content : List Char)
  | doctype
  | aside
deriving DecidableEq, Inhabited

/-- The reasons for which markup cannot be read. -/
inductive MarkupError where
  | unexpectedEnd (construct : String)
  | unexpectedMark (c : Char)
  | emptyDoctype
  | unexpectedClose (expected found : String)
deriving DecidableEq

/-- The reason in words. -/
def MarkupError.message : MarkupError → String
  | .unexpectedEnd construct => "Unexpected EOF during reading " ++ construct
  | .unexpectedMark c =>
    "Only Comment (`--`), CDATA (`[CDATA[`) and DOCTYPE (`DOCTYPE`) nodes can start with a '!', "
      ++ "but symbol `" ++ c.toString ++ "` found"
  | .emptyDoctype => "DOCTYPE declaration must not be empty"
  | .unexpectedClose expected found => "Expecting </" ++ expected ++ "> found </" ++ found ++ ">"

/-- A document as read: its events, each with the place behind it, and where and why reading
ended. -/
structure Reading where
  events : List (Event × Nat)
  position : Nat
  error : Option MarkupError
deriving DecidableEq

/-! ### Single constructs

Each is given the text behind its opening angle bracket. -/

/-- The outcome of reading one construct: an event with the text behind it and the number of
bytes read, or a mistake with the number of bytes to its place. -/
inductive Step where
  | event (e : Event) (bytes : Nat) (rest : List Char)
  | fail (e : MarkupError) (bytes : Nat)

/-- The text up to a closing angle bracket outside of quotes, last character first, and the
text behind the bracket. -/
def splitTag : (quote : Option Char) → (before : List Char) → List Char →
    Option (List Char × List Char)
  | _, _, [] => none
  | some q, before, c :: rest => splitTag (if c = q then none else some q) (c :: before) rest
  | none, before, c :: rest =>
    if c = '>' then some (before, rest)
    else splitTag (if c = '\x22' || c = '\x27' then some c else none) (c :: before) rest

/-- Reads a start tag or an empty tag. -/
def readTag (cs : List Char) : Step :=
  match splitTag none [] cs with
  | none => .fail (.unexpectedEnd "Element") 0
  | some (before, rest) =>
    let bytes := byteLength before + 1
    match before with
    | '/' :: before => .event (.empty ⟨before.reverse⟩) bytes rest
    | before => .event (.start ⟨before.reverse⟩) bytes rest

/-- The text up to the first closing angle bracket at which what comes before it, last
character first, satisfies a condition; and the text behind the bracket. -/
def splitWhere (closes : List Char → Bool) : (before : List Char) → List Char →
    Option (List Char × List Char)
  | _, [] => none
  | before, c :: rest =>
    if c = '>' && closes before then some (before, rest) else splitWhere closes (c :: before) rest

/-- A text begins with some letters, in upper or lower case. -/
def beginsWith (start : List Char) (cs : List Char) : Bool :=
  (cs.take start.length).map Char.toLower = start.map Char.toLower

/-- Reads a construct behind an exclamation mark with the name of its kind, given when it
closes and what event it is. -/
def readMarked (kind : String) (closes : List Char → Bool)
    (event : List Char → Except MarkupError Event) (cs : List Char) : Step :=
  match splitWhere closes [] cs with
  | none => .fail (.unexpectedEnd kind) 0
  | some (before, rest) =>
    let bytes := byteLength before + 1
    match event before.reverse with
    | .ok e => .event e bytes rest
    | .error e => .fail e bytes

/-- A comment closes behind two hyphens that do not belong to its opening. -/
def closesComment : (before : List Char) → Bool
  | '-' :: '-' :: _ :: _ :: _ :: _ => true
  | _ => false

/-- Character data close behind two brackets. -/
def closesCData (before : List Char) : Bool := before.take 2 = [']', ']']

/-- A document type closes where its angle brackets are balanced. -/
def closesDoctype (before : List Char) : Bool := before.count '<' = before.count '>'

/-- The event of a comment. -/
def commentEvent (content : List Char) : Except MarkupError Event :=
  if content.take 3 = ['!', '-', '-'] then .ok .aside else .error (.unexpectedEnd "Comment")

/-- The event of character data. -/
def cdataEvent (content : List Char) : Except MarkupError Event :=
  if beginsWith "![cdata[".toList content then .ok (.cdata ((content.drop 8).dropLast.dropLast))
  else .error (.unexpectedEnd "CData")

/-- The event of a document type. -/
def doctypeEvent (content : List Char) : Except MarkupError Event :=
  if beginsWith "!doctype".toList content then
    if (content.drop 8).all isSpace then .error .emptyDoctype else .ok .doctype
  else .error (.unexpectedEnd "DOCTYPE")

/-- Reads a construct that begins with an exclamation mark. -/
def readMark (cs : List Char) : Step :=
  match cs.drop 1 with
  | [] => .fail (.unexpectedEnd "Bang") 0
  | '[' :: _ => readMarked "CData" closesCData cdataEvent cs
  | '-' :: _ => readMarked "Comment" closesComment commentEvent cs
  | c :: _ =>
    if c = 'D' || c = 'd' then readMarked "DOCTYPE" closesDoctype doctypeEvent cs
    else .fail (.unexpectedMark (firstByte c)) 0

/-- Splits at the first closing angle bracket, which the text need not have: the text in
front of it, the number of bytes with it, and the text behind it. -/
def splitClosing (cs : List Char) : List Char × Nat × List Char :=
  let content := cs.takeWhile (· ≠ '>')
  match cs.dropWhile (· ≠ '>') with
  | _ :: rest => (content, byteLength content + 1, rest)
  | [] => (content, byteLength content, [])

/-- Reads a declaration or processing instruction. -/
def readInstruction (cs : List Char) : Step :=
  let (content, bytes, rest) := splitClosing cs
  if 2 < content.length && content.getLast? = some '?' then .event .aside bytes rest
  else .fail (.unexpectedEnd "XmlDecl") (bytes - byteLength content)

/-- The name in an end tag, without white space behind it. -/
def closingName (name : List Char) : List Char :=
  if name.all isSpace then name else (name.reverse.dropWhile isSpace).reverse

/-- Reads an end tag of the innermost of the open elements. -/
def readClose (opened : List (List Char)) (cs : List Char) : Step :=
  let (content, bytes, rest) := splitClosing cs
  let name := content.drop 1
  let fail (expected found : List Char) : Step :=
    .fail (.unexpectedClose (.ofList expected) (.ofList found)) (bytes - byteLength content)
  match opened with
  | expected :: _ =>
    if closingName name = expected then .event (.close expected) bytes rest
    else fail expected (closingName name)
  | [] => fail [] name

/-- Reads the construct behind an angle bracket. -/
def readConstruct (opened : List (List Char)) (cs : List Char) : Step :=
  match cs with
  | '!' :: _ => readMark cs
  | '/' :: _ => readClose opened cs
  | '?' :: _ => readInstruction cs
  | _ => readTag cs

/-- The open elements behind an event. -/
def Event.openedBehind (opened : List (List Char)) : Event → List (List Char)
  | .start tag => tag.name :: opened
  | .close _ => opened.drop 1
  | _ => opened

/-! ### Documents -/

/-- Reads the rest of a document, with at most as many steps as `fuel` says, behind the
events already read, last one first. -/
def readFrom : (fuel position : Nat) → (opened : List (List Char)) →
    (before : List (Event × Nat)) → List Char → Reading
  | 0, position, _, before, _ => { events := before.reverse, position, error := none }
  | _ + 1, position, _, before, [] => { events := before.reverse, position, error := none }
  | fuel + 1, position, opened, before, '<' :: rest =>
    match rest with
    | [] => { events := before.reverse, position := position + 1, error := none }
    | rest =>
      match readConstruct opened rest with
      | .fail e bytes =>
        { events := before.reverse, position := position + 1 + bytes, error := some e }
      | .event e bytes rest =>
        let position := position + 1 + bytes
        readFrom fuel position (e.openedBehind opened) ((e, position) :: before) rest
  | fuel + 1, position, opened, before, cs =>
    let raw := cs.takeWhile (· ≠ '<')
    let position := position + byteLength raw
    readFrom fuel position opened ((.text raw, position) :: before) (cs.dropWhile (· ≠ '<'))

/-- The document that a text is. A byte order mark in front does not count. -/
def read (text : String) : Reading :=
  let cs :=
    match text.toList with
    | '\ufeff' :: rest => rest
    | cs => cs
  readFrom (cs.length + 1) 0 [] [] cs

end GroupInterfaces.Xml
