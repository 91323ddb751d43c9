import GroupInterfaces.Text.Digits
import GroupInterfaces.Text.Unprintable

/-!
# Quoted text

A text in messages stands between double quotes. Inside, a quote and a backslash follow a
backslash, line breaks, tabs and the null character have escapes of their own, and every
other character without a shape is written by its number, as in `\u{200b}`.
-/

namespace GroupInterfaces.Text

/-- The way a character is shown between quotes. -/
def escapeQuoted (c : Char) : List Char :=
  if c = '\x00' then ['\\', '0']
  else if c = '\t' then ['\\', 't']
  else if c = '\r' then ['\\', 'r']
  else if c = '\n' then ['\\', 'n']
  else if c = '\\' then ['\\', '\\']
  else if c = '\x22' then ['\\', '\x22']
  else if isUnprintable c then ['\\', 'u', '\x7b'] ++ hexDigits c.toNat ++ ['\x7d']
  else [c]

/-- The text between double quotes. -/
def quoted (s : String) : String :=
  .ofList ('\x22' :: s.toList.flatMap escapeQuoted ++ ['\x22'])

/-- The way a byte is shown between quotes. -/
def escapeByte (b : UInt8) : List Char :=
  let n := b.toNat
  if n = 0x22 then ['\\', '\x22']
  else if 0x20 ≤ n ∧ n < 0x7F then [Char.ofNat n]
  else ['0', 'x'] ++ (hexDigits n).map Char.toUpper

/-- The bytes of the text between double quotes. -/
def quotedBytes (s : String) : String :=
  .ofList ('\x22' :: s.toUTF8.toList.flatMap escapeByte ++ ['\x22'])

end GroupInterfaces.Text
