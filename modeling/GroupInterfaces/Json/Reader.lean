import GroupInterfaces.Json.Value
import GroupInterfaces.Text.Digits

/-!
# Reading JSON

A text is one value with white space around it. Reading follows the JSON grammar to the
letter: no leading zeros, no control characters in texts, nothing behind the value.
-/

namespace GroupInterfaces.Json

/-- White space between the tokens of a text. -/
def isSpace (c : Char) : Bool := c = ' ' || c = '\n' || c = '\t' || c = '\r'

/-- The text without leading white space. -/
def skipSpace (cs : List Char) : List Char := cs.dropWhile isSpace

/-- The number of a four-digit escape, and the text behind it. -/
def readUnit : List Char → Option (Nat × List Char)
  | a :: b :: c :: d :: rest => do
    let a ← Text.digitValue? 16 a
    let b ← Text.digitValue? 16 b
    let c ← Text.digitValue? 16 c
    let d ← Text.digitValue? 16 d
    some (((a * 16 + b) * 16 + c) * 16 + d, rest)
  | _ => none

/-- The characters of a text read so far, last one first, with the first half of a surrogate
pair that waits for its second half. -/
structure TextSoFar where
  chars : List Char := []
  half : Option Nat := none
  broken : Bool := false

/-- One more character. -/
def TextSoFar.push (t : TextSoFar) (c : Char) : TextSoFar :=
  { chars := c :: t.chars, half := none, broken := t.broken || t.half.isSome }

/-- One more code unit, as escapes give them. -/
def TextSoFar.pushUnit (t : TextSoFar) (n : Nat) : TextSoFar :=
  if 0xD800 ≤ n ∧ n < 0xDC00 then
    { t with half := some n, broken := t.broken || t.half.isSome }
  else if 0xDC00 ≤ n ∧ n < 0xE000 then
    match t.half with
    | some high =>
      { t with
        chars := Char.ofNat (0x10000 + (high - 0xD800) * 0x400 + (n - 0xDC00)) :: t.chars
        half := none }
    | none => { t with broken := true }
  else t.push (Char.ofNat n)

/-- The finished text, unless half of a surrogate pair stands alone in it. -/
def TextSoFar.finish (t : TextSoFar) : Option String :=
  if t.broken || t.half.isSome then none else some (.ofList t.chars.reverse)

/-- Reads a text behind its opening quote, and passes over its closing quote. -/
def readText (fuel : Nat) (t : TextSoFar) (cs : List Char) :
    Option (Option String × List Char) :=
  match fuel with
  | 0 => none
  | fuel + 1 =>
    match cs with
    | [] => none
    | '\x22' :: rest => some (t.finish, rest)
    | '\\' :: 'u' :: rest =>
      match readUnit rest with
      | some (n, rest) => readText fuel (t.pushUnit n) rest
      | none => none
    | '\\' :: c :: rest =>
      match c with
      | '\x22' => readText fuel (t.push '\x22') rest
      | '\\' => readText fuel (t.push '\\') rest
      | '/' => readText fuel (t.push '/') rest
      | 'b' => readText fuel (t.push '\x08') rest
      | 'f' => readText fuel (t.push '\x0c') rest
      | 'n' => readText fuel (t.push '\n') rest
      | 'r' => readText fuel (t.push '\r') rest
      | 't' => readText fuel (t.push '\t') rest
      | _ => none
    | c :: rest => if c.toNat < 0x20 || c = '\\' then none else readText fuel (t.push c) rest

/-- The digits in front of a text. -/
def leadingDigits (cs : List Char) : List Char × List Char :=
  (cs.takeWhile Char.isDigit, cs.dropWhile Char.isDigit)

/-- Reads the fraction of a number, if there is one. -/
def readFraction : List Char → Option (List Char × List Char)
  | '.' :: rest =>
    match leadingDigits rest with
    | ([], _) => none
    | (digits, rest) => some ('.' :: digits, rest)
  | rest => some ([], rest)

/-- Reads the exponent of a number, if there is one. -/
def readExponent : List Char → Option (List Char × List Char)
  | c :: rest =>
    if c = 'e' ∨ c = 'E' then
      let (sign, rest) :=
        match rest with
        | '+' :: rest => (['+'], rest)
        | '-' :: rest => (['-'], rest)
        | rest => ([], rest)
      match leadingDigits rest with
      | ([], _) => none
      | (digits, rest) => some (c :: sign ++ digits, rest)
    else some ([], c :: rest)
  | [] => some ([], [])

/-- Reads a number. -/
def readNumber (cs : List Char) : Option (Json × List Char) := do
  let (sign, rest) :=
    match cs with
    | '-' :: rest => (['-'], rest)
    | rest => ([], rest)
  let (whole, rest) := leadingDigits rest
  match whole with
  | [] => none
  | '0' :: _ :: _ => none
  | _ =>
    let (fraction, rest) ← readFraction rest
    let (exponent, rest) ← readExponent rest
    if sign.isEmpty && fraction.isEmpty && exponent.isEmpty then
      some (.natural (ofDigits whole), rest)
    else some (.numeral (.ofList (sign ++ whole ++ fraction ++ exponent)), rest)

/-- The object with the given members, if all their names could be read. -/
def objectOf (members : List (Option String × Json)) : Json :=
  match members.mapM fun (name, v) => name.map fun name => (name, v) with
  | some members => .object members
  | none => .unreadable

mutual

/-- Reads a value, with at most as many steps as `fuel` says. -/
def readValue (fuel : Nat) (cs : List Char) : Option (Json × List Char) :=
  match fuel with
  | 0 => none
  | fuel + 1 =>
    match skipSpace cs with
    | 'n' :: 'u' :: 'l' :: 'l' :: rest => some (.null, rest)
    | 't' :: 'r' :: 'u' :: 'e' :: rest => some (.bool true, rest)
    | 'f' :: 'a' :: 'l' :: 's' :: 'e' :: rest => some (.bool false, rest)
    | '\x22' :: rest =>
      match readText (fuel + 1) {} rest with
      | some (some text, rest) => some (.string text, rest)
      | some (none, rest) => some (.unreadable, rest)
      | none => none
    | '[' :: rest =>
      match skipSpace rest with
      | ']' :: rest => some (.array [], rest)
      | rest => readElements fuel [] rest
    | '\x7b' :: rest =>
      match skipSpace rest with
      | '\x7d' :: rest => some (.object [], rest)
      | rest => readMembers fuel [] rest
    | cs => readNumber cs

/-- Reads the elements of an array behind those already read, last one first. -/
def readElements (fuel : Nat) (before : List Json) (cs : List Char) :
    Option (Json × List Char) :=
  match fuel with
  | 0 => none
  | fuel + 1 =>
    match readValue fuel cs with
    | none => none
    | some (v, rest) =>
      match skipSpace rest with
      | ',' :: rest => readElements fuel (v :: before) rest
      | ']' :: rest => some (.array (v :: before).reverse, rest)
      | _ => none

/-- Reads the members of an object behind those already read, last one first. -/
def readMembers (fuel : Nat) (before : List (Option String × Json)) (cs : List Char) :
    Option (Json × List Char) :=
  match fuel with
  | 0 => none
  | fuel + 1 =>
    match skipSpace cs with
    | '\x22' :: rest =>
      match readText (fuel + 1) {} rest with
      | none => none
      | some (name, rest) =>
        match skipSpace rest with
        | ':' :: rest =>
          match readValue fuel rest with
          | none => none
          | some (v, rest) =>
            match skipSpace rest with
            | ',' :: rest => readMembers fuel ((name, v) :: before) rest
            | '\x7d' :: rest => some (objectOf ((name, v) :: before).reverse, rest)
            | _ => none
        | _ => none
    | _ => none

end

/-- The value that a text stands for, if it is a JSON text. -/
def read? (text : String) : Option Json :=
  let cs := text.toList
  match readValue (2 * cs.length + 2) cs with
  | some (v, rest) => if (skipSpace rest).isEmpty then some v else none
  | none => none

end GroupInterfaces.Json
