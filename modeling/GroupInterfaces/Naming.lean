import GroupInterfaces.Text.Alphanumeric
import GroupInterfaces.Text.Uppercase
import GroupInterfaces.Url.Basic

/-!
# Names in generated code

The names that a schema compiler gives to what it generates. Properties and classes are
named by the words of a schema name, each with its first letter in upper case. Packages are
named by the segments of a namespace: the labels of its host from last to first, then those
of its path.
-/

namespace GroupInterfaces.Naming

/-! ### Properties and classes -/

/-- The words of a name, run together with the first character of each in upper case. The
next character begins a word if `start` is true. -/
def joinWords (start : Bool) : List Char → List Char
  | [] => []
  | c :: rest =>
    if Text.isAlphanumeric c then
      (if start then Text.uppercase c else [c]) ++ joinWords false rest
    else joinWords true rest

/-- The name of the property for an element or an attribute. -/
def propertyName (name : String) : String := .ofList (joinWords true name.toList)

/-- The name of the class for a component. -/
def className (name : String) : String := .ofList (joinWords true name.toList)

/-! ### Packages -/

/-- Endings that a segment is stripped of; only the first one that fits. -/
def strippedEndings : List String := [".xsd", ".xml", ".html", ".htm"]

/-- Words of the generated language, which are no names of packages. -/
def reservedWords : List String :=
  ["abstract", "assert", "boolean", "break", "byte", "case", "catch", "char", "class", "const",
    "continue", "default", "do", "double", "else", "enum", "extends", "final", "finally",
    "float", "for", "goto", "if", "implements", "import", "instanceof", "int", "interface",
    "long", "native", "new", "package", "private", "protected", "public", "return", "short",
    "static", "strictfp", "super", "switch", "synchronized", "this", "throw", "throws",
    "transient", "try", "void", "volatile", "while"]

/-- The text without an ending, if it has that ending. -/
def stripEnding? (ending s : List Char) : Option (List Char) :=
  if ending.isSuffixOf s then some (s.take (s.length - ending.length)) else none

/-- The segment without the ending of a file name. -/
def stripFileEnding (s : List Char) : List Char :=
  (strippedEndings.findSome? fun ending => stripEnding? ending.toList s).getD s

/-- A character of a namespace as it stands in the name of a package: letters of the English
alphabet in lower case, digits, and underscores for all others. Of the letters beyond, two
have a lower case that begins in that alphabet. -/
def packageChar (c : Char) : List Char :=
  if c.isAlphanum then [c.toLower]
  else if c = '\u0130' then ['i', '_']
  else if c = '\u212a' then ['k']
  else ['_']

/-- The segment of a package for a segment of a namespace. A digit in front, or a word of
the language, is moved behind an underscore. -/
def packageSegment? (raw : List Char) : Option String :=
  match raw.flatMap packageChar with
  | [] => none
  | c :: rest =>
    let segment := String.ofList (c :: rest)
    some (if c.isDigit || reservedWords.contains segment then "_" ++ segment else segment)

/-- The segments of a namespace that is no URL with a host: those between slashes and
colons. -/
def plainSegments (space : List Char) : List (List Char) :=
  ((Text.splitAt '/' (space.map fun c => if c = ':' then '/' else c)).filter
    (! ·.isEmpty)).map stripFileEnding

/-- The labels of a host from last to first, without a leading `www`. -/
def hostSegments (host : Url.Host) : List (List Char) :=
  match Text.splitAt '.' host.display.toList with
  | ['w', 'w', 'w'] :: labels => labels.reverse
  | labels => labels.reverse

/-- The segments of a namespace. -/
def namespaceSegments (space : String) : List (List Char) :=
  match Url.parse space with
  | .error _ => plainSegments space.toList
  | .ok url =>
    if url.scheme = "urn" then Text.splitAt ':' url.path.toList
    else
      match url.host with
      | none => plainSegments space.toList
      | some host =>
        hostSegments host
          ++ (((url.pathSegments?.getD []).map String.toList).filter (! ·.isEmpty)).map
            stripFileEnding

/-- The package for a namespace, if it has any segment. -/
def packageName? (space : String) : Option String :=
  let space := Text.trim space
  if space = "" then none
  else
    match (namespaceSegments space).filterMap packageSegment? with
    | [] => none
    | segments => some (".".intercalate segments)

end GroupInterfaces.Naming
