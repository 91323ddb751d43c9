import GroupInterfaces.Text.Digits

/-!
# Percent-encoding

A byte that may not stand in a part of a URL is written as a percent sign and two
hexadecimal digits. Each part has its own set of ASCII characters that may not stand in
it; control characters and everything beyond ASCII may stand nowhere.
-/

namespace GroupInterfaces.Url

/-! ### Bytes and characters -/

/-- The bytes of a list of characters in UTF-8. -/
def utf8Bytes (cs : List Char) : List UInt8 := cs.flatMap String.utf8EncodeChar

/-- How a character of several bytes begins: the number of bytes behind the first one, the
bits that the first one gives, and the range of the second one. -/
structure Lead where
  more : Nat
  bits : Nat
  low : Nat := 0x80
  high : Nat := 0xBF

/-- The lead that a first byte is, if it is one. -/
def Lead.ofByte? (n : Nat) : Option Lead :=
  if 0xC2 ≤ n ∧ n ≤ 0xDF then some { more := 1, bits := n - 0xC0 }
  else if n = 0xE0 then some { more := 2, bits := 0, low := 0xA0 }
  else if n = 0xED then some { more := 2, bits := 0xD, high := 0x9F }
  else if 0xE1 ≤ n ∧ n ≤ 0xEF then some { more := 2, bits := n - 0xE0 }
  else if n = 0xF0 then some { more := 3, bits := 0, low := 0x90 }
  else if 0xF1 ≤ n ∧ n ≤ 0xF3 then some { more := 3, bits := n - 0xF0 }
  else if n = 0xF4 then some { more := 3, bits := 4, high := 0x8F }
  else none

/-- Reads the remaining bytes of a character: its code point, or nothing if a byte does not
fit, and the bytes behind those that do. -/
def readTail : Nat → (bits low high : Nat) → List UInt8 → Option Nat × List UInt8
  | 0, bits, _, _, bytes => (some bits, bytes)
  | _ + 1, _, _, _, [] => (none, [])
  | more + 1, bits, low, high, b :: rest =>
    if low ≤ b.toNat ∧ b.toNat ≤ high then
      readTail more (bits * 64 + (b.toNat - 0x80)) 0x80 0xBF rest
    else (none, b :: rest)

theorem length_readTail_le (more bits low high : Nat) (bytes : List UInt8) :
  (readTail more bits low high bytes).2.length ≤ bytes.length
  := by
  induction more generalizing bits low high bytes with
  | zero => simp [readTail]
  | succ more ih =>
    cases bytes with
    | nil => simp [readTail]
    | cons b rest =>
      simp only [readTail]
      split
      · exact Nat.le_succ_of_le (ih _ _ _ _)
      · simp

/-- The characters of bytes in UTF-8; nothing stands for the bytes of a broken character. -/
def readUtf8 : List UInt8 → List (Option Char)
  | [] => []
  | b :: rest =>
    if b.toNat < 0x80 then some (Char.ofNat b.toNat) :: readUtf8 rest
    else
      match Lead.ofByte? b.toNat with
      | none => none :: readUtf8 rest
      | some lead =>
        let tail := readTail lead.more lead.bits lead.low lead.high rest
        tail.1.map Char.ofNat :: readUtf8 tail.2
termination_by bytes => bytes.length
decreasing_by
  · simp
  · simp
  · exact Nat.lt_succ_of_le (length_readTail_le _ _ _ _ _)

/-- The characters of bytes in UTF-8, if no character is broken. -/
def decodeUtf8? (bytes : List UInt8) : Option (List Char) := (readUtf8 bytes).mapM id

/-- The characters of bytes in UTF-8, with a replacement character for each broken one. -/
def decodeUtf8 (bytes : List UInt8) : List Char :=
  (readUtf8 bytes).map (·.getD '\ufffd')

/-! ### Writing -/

/-- The ASCII characters of a text, for tests of membership. -/
def isAmong (chars : String) (c : Char) : Bool := chars.toList.contains c

/-- A control character or one beyond ASCII. -/
def isControl (c : Char) : Bool := c.toNat < 0x20 || 0x7E < c.toNat

/-- The characters that may not stand in a fragment. -/
def inFragmentSet (c : Char) : Bool := isControl c || isAmong " \"<>`" c

/-- The characters that may not stand in a path. -/
def inPathSet (c : Char) : Bool := inFragmentSet c || isAmong "#?\x7b\x7d" c

/-- The characters that may not stand in a user name or a password. -/
def inUserinfoSet (c : Char) : Bool := inPathSet c || isAmong "/:;=@[\\]^|" c

/-- The characters that may not stand in a query. -/
def inQuerySet (c : Char) : Bool := isControl c || isAmong " \"#<>" c

/-- The characters that may not stand in a query of one of the well-known schemes. -/
def inSpecialQuerySet (c : Char) : Bool := inQuerySet c || c = '\x27'

/-- An upper-case hexadecimal digit. -/
def upperHexDigit (n : Nat) : Char :=
  if n < 10 then Char.ofNat ('0'.toNat + n) else Char.ofNat ('A'.toNat + (n - 10))

/-- A byte as a percent sign and two digits. -/
def percentByte (b : UInt8) : List Char :=
  ['%', upperHexDigit (b.toNat / 16), upperHexDigit (b.toNat % 16)]

/-- A character, with its bytes percent-encoded if it is in the set. -/
def percentChar (set : Char → Bool) (c : Char) : List Char :=
  if set c then (String.utf8EncodeChar c).flatMap percentByte else [c]

/-- The characters with those in a set percent-encoded. -/
def percentEncode (set : Char → Bool) (cs : List Char) : List Char :=
  cs.flatMap (percentChar set)

/-! ### Reading -/

/-- The value of a byte that is a hexadecimal digit. -/
def hexDigit? (b : UInt8) : Option Nat := Text.digitValue? 16 (Char.ofNat b.toNat)

/-- The bytes with every percent-encoded byte decoded. -/
def percentDecode : List UInt8 → List UInt8
  | [] => []
  | b :: rest =>
    if b = 37 then
      match rest with
      | high :: low :: rest' =>
        match hexDigit? high, hexDigit? low with
        | some h, some l => UInt8.ofNat (h * 16 + l) :: percentDecode rest'
        | _, _ => b :: percentDecode (high :: low :: rest')
      | rest => b :: percentDecode rest
    else b :: percentDecode rest
termination_by bytes => bytes.length

end GroupInterfaces.Url
