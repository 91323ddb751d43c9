import GroupInterfaces.Text.Quoted

/-!
# Character references

Five characters have names in XML and are written as references in the values of
attributes. A text is read back by putting the character for every reference, which is a
name or a number between an ampersand and a semicolon.
-/

namespace GroupInterfaces.Xml

/-! ### Writing -/

/-- The way a character is written in the value of an attribute. -/
def escapeChar (c : Char) : List Char :=
  if c = '<' then "&lt;".toList
  else if c = '>' then "&gt;".toList
  else if c = '&' then "&amp;".toList
  else if c = '\x27' then "&apos;".toList
  else if c = '\x22' then "&quot;".toList
  else [c]

/-- The text with references for the characters that have names. -/
def escape (cs : List Char) : List Char := cs.flatMap escapeChar

/-! ### Reading -/

/-- The number of bytes of a text in UTF-8. -/
def byteLength (cs : List Char) : Nat := cs.foldl (fun n c => n + c.utf8Size) 0

/-- The reasons for which references cannot be read. Places count bytes from the start of
the text. -/
inductive ReferenceError where
  | unterminated (start stop : Nat)
  | unknownName (start stop : Nat) (name : String)
  | null (start stop : Nat)
  | hexadecimalTooLong
  | decimalTooLong
  | hexadecimalDigit (c : Char)
  | decimalDigit (c : Char)
  | codePoint (n : Nat)
deriving DecidableEq

/-- The reason in words. -/
def ReferenceError.message : ReferenceError → String
  | .unterminated start stop => at_ start stop ++ "Cannot find ';' after '&'"
  | .unknownName start stop name =>
    at_ start stop ++ "Unrecognized escape symbol: " ++ Text.quoted name
  | .null start stop => at_ start stop ++ "Null character entity not allowed"
  | .hexadecimalTooLong => "Cannot convert hexadecimal to utf8"
  | .decimalTooLong => "Cannot convert decimal to utf8"
  | .hexadecimalDigit c => "'" ++ c.toString ++ "' is not a valid hexadecimal character"
  | .decimalDigit c => "'" ++ c.toString ++ "' is not a valid decimal character"
  | .codePoint n => "'" ++ toString n ++ "' is not a valid codepoint"
where
  /-- The beginning of a message about a part of a text. -/
  at_ (start stop : Nat) : String :=
    "Error while escaping character at range " ++ toString start ++ ".." ++ toString stop ++ ": "

/-- The first byte of a character, as the character with that number. -/
def firstByte (c : Char) : Char :=
  match String.utf8EncodeChar c with
  | b :: _ => Char.ofNat b.toNat
  | [] => c

/-- The number that digits stand for, or the first character that is no digit. -/
def readDigits (base : Nat) (cs : List Char) : Except Char Nat :=
  cs.foldlM (fun n c =>
    match Text.digitValue? base c with
    | some d => .ok (n * base + d)
    | none => .error (firstByte c)) 0

/-- The code point that a numeric reference gives behind its sharp sign. -/
def readCode : List Char → Except ReferenceError Nat
  | 'x' :: digits =>
    if 6 < byteLength digits then .error .hexadecimalTooLong
    else (readDigits 16 digits).mapError .hexadecimalDigit
  | digits =>
    if 7 < byteLength digits then .error .decimalTooLong
    else (readDigits 10 digits).mapError .decimalDigit

/-- The characters with names. -/
def namedChar? (name : List Char) : Option Char :=
  [("lt", '<'), ("gt", '>'), ("amp", '&'), ("apos", '\x27'), ("quot", '\x22')].lookup
    (String.ofList name)

/-- The character of a reference that begins at a byte and whose semicolon is at another. -/
def resolve (start stop : Nat) : List Char → Except ReferenceError Char
  | '#' :: digits => do
    let n ← readCode digits
    if n = 0 then .error (.null start stop)
    else if n.isValidChar then .ok (Char.ofNat n)
    else .error (.codePoint n)
  | name =>
    match namedChar? name with
    | some c => .ok c
    | none => .error (.unknownName (start + 1) stop (.ofList name))

/-- Reads the rest of a text of `total` bytes from a byte on. Within a reference, `name?`
holds where it began and its name so far, last character first. -/
def unescapeFrom (total : Nat) :
    (place : Nat) → (name? : Option (Nat × List Char)) → List Char →
      Except ReferenceError (List Char)
  | _, none, [] => .ok []
  | place, none, c :: rest =>
    if c = '&' then unescapeFrom total (place + 1) (some (place, [])) rest
    else do
      let behind ← unescapeFrom total (place + c.utf8Size) none rest
      pure (c :: behind)
  | _, some (start, _), [] => .error (.unterminated start total)
  | place, some (start, name), c :: rest =>
    if c = '&' then .error (.unterminated start total)
    else if c = ';' then do
      let d ← resolve start place name.reverse
      let behind ← unescapeFrom total (place + 1) none rest
      pure (d :: behind)
    else unescapeFrom total (place + c.utf8Size) (some (start, c :: name)) rest

/-- The text with the character for every reference. -/
def unescape (cs : List Char) : Except ReferenceError (List Char) :=
  unescapeFrom (byteLength cs) 0 none cs

end GroupInterfaces.Xml
