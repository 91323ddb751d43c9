import GroupInterfaces.Json.Value
import GroupInterfaces.Text.Quoted

/-!
# Writing JSON

A value is written either on one line without any blanks, or with every element and member
on a line of its own, two blanks further in than its container. In both forms an empty
container is a pair of brackets, and characters beyond ASCII are written as they are.
-/

namespace GroupInterfaces.Json

/-- The way a character is written in a text. -/
def escapeChar (c : Char) : List Char :=
  if c = '\x22' then ['\\', '\x22']
  else if c = '\\' then ['\\', '\\']
  else if c = '\x08' then ['\\', 'b']
  else if c = '\x0c' then ['\\', 'f']
  else if c = '\n' then ['\\', 'n']
  else if c = '\r' then ['\\', 'r']
  else if c = '\t' then ['\\', 't']
  else if c.toNat < 0x10 then ['\\', 'u', '0', '0', '0'] ++ Text.hexDigits c.toNat
  else if c.toNat < 0x20 then ['\\', 'u', '0', '0'] ++ Text.hexDigits c.toNat
  else [c]

/-- Writes a text between double quotes behind what is already written. -/
def writeString (out : String) (s : String) : String :=
  (s.foldl (fun out c => (escapeChar c).foldl String.push out) (out.push '\x22')).push '\x22'

mutual

/-- Writes a value on one line behind what is already written. -/
def writeCompact (out : String) : Json → String
  | .null => out ++ "null"
  | .bool b => out ++ toString b
  | .natural n => out ++ toString n
  | .numeral literal => out ++ literal
  | .string s => writeString out s
  | .array elements => writeCompactElements (out.push '[') true elements
  | .object members => writeCompactMembers (out.push '\x7b') true members
  | .unreadable => out ++ "null"

/-- Writes the elements of an array and its closing bracket. -/
def writeCompactElements (out : String) (first : Bool) : List Json → String
  | [] => out.push ']'
  | v :: rest =>
    writeCompactElements (writeCompact (if first then out else out.push ',') v) false rest

/-- Writes the members of an object and its closing bracket. -/
def writeCompactMembers (out : String) (first : Bool) : List (String × Json) → String
  | [] => out.push '\x7d'
  | (name, v) :: rest =>
    let out := writeString (if first then out else out.push ',') name
    writeCompactMembers (writeCompact (out.push ':') v) false rest

end

/-- The value on one line. -/
def compact (v : Json) : String := writeCompact "" v

/-- Starts a new line at a level of nesting. -/
def writeBreak (out : String) (level : Nat) : String :=
  (List.replicate (2 * level) ' ').foldl String.push (out.push '\n')

mutual

/-- Writes a value over several lines behind what is already written. -/
def writePretty (out : String) (level : Nat) : Json → String
  | .array (v :: rest) =>
    writePrettyElements (writePretty (writeBreak (out.push '[') (level + 1)) (level + 1) v)
      level rest
  | .object ((name, v) :: rest) =>
    let out := writeString (writeBreak (out.push '\x7b') (level + 1)) name ++ ": "
    writePrettyMembers (writePretty out (level + 1) v) level rest
  | v => writeCompact out v

/-- Writes the elements of an array behind its first one, and its closing bracket. -/
def writePrettyElements (out : String) (level : Nat) : List Json → String
  | [] => (writeBreak out level).push ']'
  | v :: rest =>
    writePrettyElements (writePretty (writeBreak (out.push ',') (level + 1)) (level + 1) v)
      level rest

/-- Writes the members of an object behind its first one, and its closing bracket. -/
def writePrettyMembers (out : String) (level : Nat) : List (String × Json) → String
  | [] => (writeBreak out level).push '\x7d'
  | (name, v) :: rest =>
    let out := writeString (writeBreak (out.push ',') (level + 1)) name ++ ": "
    writePrettyMembers (writePretty out (level + 1) v) level rest

end

/-- The value with every element and member on a line of its own. -/
def pretty (v : Json) : String := writePretty "" 0 v

end GroupInterfaces.Json
