import GroupInterfaces.Url.Host
import GroupInterfaces.Text.Blank

/-!
# URLs

A text that begins with a scheme and a colon is a URL. It is read into its parts, which are
brought to a normal form on the way: the scheme in lower case, the host in ASCII, the usual
port of the scheme left out, dot segments removed from the path, and everything
percent-encoded that may not stand in its part.
-/

namespace GroupInterfaces

/-- URLs. `path` is a text of its own or the segments behind slashes; `userinfo` ends in its
sign, unless it is empty. -/
structure Url where
  scheme : String
  userinfo : String := ""
  host : Option Url.Host := none
  hasAuthority : Bool := false
  port : Option Nat := none
  path : String := ""
  query : Option String := none
  fragment : Option String := none
deriving DecidableEq

namespace Url

/-! ### Schemes -/

/-- The well-known schemes with the usual ports, `file` apart. -/
def defaultPort? : String → Option Nat
  | "http" | "ws" => some 80
  | "https" | "wss" => some 443
  | "ftp" => some 21
  | _ => none

/-- Whether the scheme is one of the well-known ones, `file` among them. -/
def isSpecial (scheme : String) : Bool := scheme = "file" || (defaultPort? scheme).isSome

/-- The scheme in front of a text, and the text behind its colon. -/
def readScheme (cs : List Char) : Option (String × List Char) :=
  let isSchemeChar c := Char.isAlphanum c || c = '+' || c = '-' || c = '.'
  match cs.takeWhile isSchemeChar, cs.dropWhile isSchemeChar with
  | c :: scheme, ':' :: rest =>
    if c.isAlpha then some (.ofList ((c :: scheme).map Char.toLower), rest) else none
  | _, _ => none

/-! ### Authority -/

/-- Splits behind the longest beginning without one of the given characters. -/
def splitBefore (isEnd : Char → Bool) (cs : List Char) : List Char × List Char :=
  (cs.takeWhile (! isEnd ·), cs.dropWhile (! isEnd ·))

/-- The characters that end an authority. -/
def endsAuthority (special : Bool) (c : Char) : Bool :=
  c = '/' || c = '?' || c = '#' || (special && c = '\\')

/-- The user name and password, percent-encoded, and the text behind their sign. -/
def readUserinfo (special : Bool) (cs : List Char) : Except Error (String × List Char) :=
  let (authority, rest) := splitBefore (endsAuthority special) cs
  if authority.contains '@' then
    let host := (authority.reverse.takeWhile (· ≠ '@')).reverse
    let userinfo := authority.take (authority.length - host.length - 1)
    if userinfo.isEmpty then
      match host ++ rest with
      | c :: _ =>
        if endsAuthority special c then .error .emptyHost else .ok ("", host ++ rest)
      | [] => .ok ("", [])
    else
      let user := userinfo.takeWhile (· ≠ ':')
      let password := (userinfo.dropWhile (· ≠ ':')).drop 1
      let user := percentEncode inUserinfoSet user
      let password := percentEncode inUserinfoSet password
      let shown := if password.isEmpty then user else user ++ ':' :: password
      .ok (.ofList (if shown.isEmpty then [] else shown ++ ['@']), host ++ rest)
  else .ok ("", cs)

/-- The text of a host, up to a port or a path; colons within brackets belong to it. -/
def splitHost (special : Bool) : (inBrackets : Bool) → List Char → List Char × List Char
  | _, [] => ([], [])
  | inBrackets, c :: rest =>
    if (c = ':' && !inBrackets) || endsAuthority special c then ([], c :: rest)
    else
      let inBrackets := c = '[' || (inBrackets && c ≠ ']')
      let (host, rest) := splitHost special inBrackets rest
      (c :: host, rest)

/-- The port of a URL, unless it is the usual one, and the text behind it. -/
def readPort (scheme : String) (cs : List Char) : Except Error (Option Nat × List Char) :=
  let digits := cs.takeWhile Char.isDigit
  let rest := cs.dropWhile Char.isDigit
  let port := (readDigits 10 digits).getD 0
  if 65535 < port then .error .port
  else
    match rest with
    | c :: _ =>
      if c = '/' || c = '\\' || c = '?' || c = '#' then
        .ok (if digits.isEmpty || defaultPort? scheme = some port then none else some port, rest)
      else .error .port
    | [] =>
      .ok (if digits.isEmpty || defaultPort? scheme = some port then none else some port, [])

/-! ### Gaps -/

/-- Tabs and line ends, which may stand anywhere in a URL without belonging to it. -/
def isGap (c : Char) : Bool := c = '\t' || c = '\n' || c = '\r'

/-- The characters without gaps. -/
def dropGaps (cs : List Char) : List Char := cs.filter (! isGap ·)

/-- The first character that is no gap, and the text behind it. -/
def nextChar? (cs : List Char) : Option (Char × List Char) :=
  match cs.dropWhile isGap with
  | c :: rest => some (c, rest)
  | [] => none

/-! ### Paths -/

/-- Paths: the segments behind slashes, and whether the first of them is a drive. -/
structure Path where
  segments : List (List Char) := []
  hasDrive : Bool := false

/-- A segment that stands for the one above it. -/
def isDoubleDot (segment : List Char) : Bool :=
  ["..", "%2e%2e", "%2e%2E", "%2E%2e", "%2E%2E", "%2e.", "%2E.", ".%2e", ".%2E"].contains
    (String.ofList segment)

/-- A segment that stands for nothing. -/
def isSingleDot (segment : List Char) : Bool :=
  [".", "%2e", "%2E"].contains (String.ofList segment)

/-- A letter with a colon or a bar, as drives are named. -/
def isDriveLetter : List Char → Bool
  | [c, mark] => c.isAlpha && (mark = ':' || mark = '|')
  | _ => false

/-- The segments of a path without the last one, which a drive letter remains. -/
def dropSegment (segments : List (List Char)) : List (List Char) :=
  match segments.getLast? with
  | some last => if isDriveLetter last then segments else segments.dropLast
  | none => []

/-- The drive in front of the first gap behind a colon, and the text behind it. -/
def splitDrive? (segment : List Char) : Option (List Char × List Char) :=
  match nextChar? segment with
  | some (c, rest) =>
    match nextChar? rest with
    | some (':', gap :: rest) =>
      let rest := dropGaps rest
      if c.isAlpha && isGap gap && !rest.isEmpty then some ([c, ':'], rest) else none
    | _ => none
  | none => none

/-- Adds a segment to the path of a file, if it is the first one and a drive. A gap behind a
drive ends the segment, and what is behind the gap is not looked at. -/
def Path.addDrive? (path : Path) (segment : List Char) : Option Path :=
  if !path.segments.isEmpty then none
  else
    match splitDrive? segment, dropGaps segment with
    | some (drive, rest), _ => some { path with segments := [drive, percentEncode inPathSet rest] }
    | none, [c, mark] =>
      if isDriveLetter [c, mark] then some { segments := [[c, ':']], hasDrive := true } else none
    | none, _ => none

/-- Adds a segment to a path. -/
def Path.add (isFile : Bool) (path : Path) (segment : List Char) : Path :=
  match if isFile then path.addDrive? segment else none with
  | some path => path
  | none =>
    let segment := percentEncode inPathSet (dropGaps segment)
    if isDoubleDot segment then { path with segments := dropSegment path.segments }
    else if isSingleDot segment then path
    else { path with segments := path.segments ++ [segment] }

/-- Ends a path with a slash. -/
def Path.endInSlash (path : Path) : Path := { path with segments := path.segments ++ [[]] }

/-- The path of parts between slashes. -/
def Path.ofParts (isFile : Bool) (parts : List (List Char)) : Path :=
  let path := parts.foldl (Path.add isFile) {}
  match parts.getLast?.map dropGaps with
  | some last => if isDoubleDot last || isSingleDot last then path.endInSlash else path
  | none => path

/-- Parts of a path between slashes, and between backslashes in the well-known schemes. -/
def splitPath (special : Bool) (cs : List Char) : List (List Char) :=
  Text.splitAt '/' (if special then cs.map fun c => if c = '\\' then '/' else c else cs)

/-- The path behind its first slash. That of a file has no empty segments in front. -/
def Path.read (scheme : String) (cs : List Char) : Path :=
  let isFile := scheme = "file"
  let path := Path.ofParts isFile (splitPath (isSpecial scheme) cs)
  if isFile then
    match path.segments.dropWhile List.isEmpty with
    | [] => { path with segments := [[]] }
    | segments => { path with segments }
  else path

/-- The segments of a path behind slashes. -/
def Path.display (path : Path) : String :=
  .ofList (path.segments.flatMap fun s => '/' :: s)

/-! ### Whole URLs -/

/-- The query and the fragment, and what comes in front of them. -/
def splitTail (scheme : String) (cs : List Char) :
    List Char × Option String × Option String :=
  let (front, fragment) := splitBefore (· = '#') cs
  let (front, query) := splitBefore (· = '?') front
  let querySet := if isSpecial scheme then inSpecialQuerySet else inQuerySet
  (front,
    match query with
    | _ :: query => some (.ofList (percentEncode querySet query))
    | [] => none,
    match fragment with
    | _ :: fragment => some (.ofList (percentEncode inFragmentSet fragment))
    | [] => none)

/-- The URL behind a scheme, a colon and two slashes. -/
def readAuthority (scheme : String) (cs : List Char) : Except Error Url := do
  let special := isSpecial scheme
  let (userinfo, cs) ← readUserinfo special cs
  let (hostText, rest) := splitHost special false cs
  if special && hostText.isEmpty then throw .emptyHost
  let host ← if special then Host.read hostText else Host.readOpaque hostText
  let isEmpty := host = .domain ""
  let (port, rest) ←
    match rest with
    | ':' :: rest => if isEmpty then .error .emptyHost else readPort scheme rest
    | rest => .ok (none, rest)
  if isEmpty && userinfo ≠ "" then throw .emptyHost
  let (front, query, fragment) := splitTail scheme rest
  let path :=
    match front with
    | [] => if special then "/" else ""
    | c :: front =>
      let path :=
        if c = '/' || (special && c = '\\') then Path.read scheme front
        else Path.read scheme (c :: front)
      path.display
  pure
    { scheme, userinfo, host := if isEmpty then none else some host, hasAuthority := true
      port, path, query, fragment }

/-- The URL of a file, behind its scheme and colon. No host, and the local one, leave the slash
behind them to the path. -/
def readFile (cs : List Char) : Except Error Url := do
  let isSlash c := c = '/' || c = '\\'
  let (_, query, fragment) := splitTail "file" (dropGaps cs)
  let (front, _) := splitBefore (fun c => c = '?' || c = '#') cs
  let url (host : Option Host) (path : Path) : Url :=
    { scheme := "file", host, hasAuthority := true, path := path.display, query, fragment }
  let behindSlash? cs := (nextChar? cs).bind fun (c, rest) => if isSlash c then some rest else none
  match behindSlash? front with
  | none => pure (url none (.read "file" front))
  | some path =>
    match behindSlash? path with
    | none => pure (url none (.read "file" path))
    | some authority =>
      let (hostText, behind) := splitBefore isSlash authority
      let hostText := dropGaps hostText
      if hostText.isEmpty || isDriveLetter hostText then
        pure (url none (.read "file" authority))
      else
        let host ← Host.read hostText
        if host = .domain "localhost" then pure (url none (.read "file" behind))
        else
          let path := Path.read "file" (behind.drop 1)
          pure (url (if path.hasDrive then none else some host) path)

/-- The URL of a scheme that is not well known, behind the scheme and its colon. -/
def readOther (scheme : String) (cs : List Char) : Except Error Url :=
  match cs with
  | '/' :: '/' :: rest => readAuthority scheme rest
  | cs =>
    let (front, query, fragment) := splitTail scheme cs
    .ok
      { scheme, query, fragment
        path :=
          match front with
          | '/' :: rest => (Path.read scheme rest).display
          | front => .ofList (percentEncode isControl front) }

/-- The URL that a text stands for. Only in the path of a file do gaps matter. -/
def parse (text : String) : Except Error Url :=
  let isOuter c := decide (Char.toNat c ≤ 0x20)
  let cs := Text.dropTrailing isOuter (text.toList.dropWhile isOuter)
  match readScheme (dropGaps cs) with
  | none => .error .relativeWithoutBase
  | some (scheme, rest) =>
    if scheme = "file" then readFile ((cs.dropWhile (· ≠ ':')).drop 1)
    else if isSpecial scheme then
      readAuthority scheme (rest.dropWhile fun c => c = '/' || c = '\\')
    else readOther scheme rest

/-- The URL in its normal form. A path that begins with two slashes is kept from being read
as an authority. -/
def display (u : Url) : String :=
  u.scheme ++ ":"
    ++ (if u.hasAuthority then "//" else if u.path.startsWith "//" then "/." else "")
    ++ u.userinfo
    ++ (u.host.map Host.display).getD ""
    ++ (u.port.map fun p => ":" ++ toString p).getD ""
    ++ u.path
    ++ (u.query.map ("?" ++ ·)).getD ""
    ++ (u.fragment.map ("#" ++ ·)).getD ""

/-- The segments of the path, if it begins with a slash. -/
def pathSegments? (u : Url) : Option (List String) :=
  match u.path.toList with
  | '/' :: rest => some ((Text.splitAt '/' rest).map .ofList)
  | _ => none

/-- The local path of a file: its decoded segments behind slashes, for files of no host. A
drive letter at the end is followed by a slash. -/
def toFilePath? (u : Url) : Option String :=
  match u.host, u.pathSegments? with
  | none, some segments =>
    let bytes := segments.flatMap fun s => 47 :: percentDecode s.toUTF8.toList
    let isLetter (b : UInt8) := (65 ≤ b && b ≤ 90) || (97 ≤ b && b ≤ 122)
    let ended :=
      match bytes.reverse with
      | mark :: letter :: _ :: _ => (mark = 58 || mark = 124) && isLetter letter
      | _ => false
    some (.ofList (decodeUtf8 (if ended then bytes ++ [47] else bytes)))
  | _, _ => none

end Url

end GroupInterfaces
