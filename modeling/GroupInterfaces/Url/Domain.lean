import GroupInterfaces.Url.Punycode
import GroupInterfaces.Url.Domain.Mapping
import GroupInterfaces.Url.Domain.Direction
import GroupInterfaces.Url.Domain.Joining

/-!
# Domain names

A domain name is brought to ASCII label by label. Its characters are mapped and composed
first, so that names that look alike become equal. A label with characters beyond ASCII then
becomes `xn--` and its Punycode; one that is given so must be what it would become.
-/

namespace GroupInterfaces.Url

/-- A label of a domain name, with the ASCII characters for it. -/
structure Label where
  chars : List Char
  ascii : List Char

/-- The ASCII characters that no domain name has. -/
def isForbiddenInDomain (c : Char) : Bool :=
  c.toNat ≤ 0x20 || c.toNat = 0x7F || "%#/:<>?@[\\]^|".toList.contains c

/-- The text with its characters mapped and composed, if all of them may be given and none is
then forbidden. -/
def canonical? (cs : List Char) : Option (List Char) :=
  (Text.normalize <$> mapChars? cs).filter (! ·.any isForbiddenInDomain)

/-- The beginning of a label that is Punycode. -/
def punycodeMark : List Char := "xn--".toList

/-- The greatest length of a label that is written in Punycode. -/
def maxLabelLength : Nat := 1000

/-- The label that Punycode stands for, if it is one that is written so. Punycode of more than
2000 characters is not read. -/
def ofPunycode? (encoded : List Char) : Option (List Char) :=
  if 2000 < encoded.length then none
  else
    (Punycode.decode? encoded).filter fun label =>
      encoded.getLast? ≠ some '-' && label.any (128 ≤ ·.toNat) && label.length ≤ maxLabelLength
        && canonical? label = some label

/-- The label in Punycode. -/
def toPunycode? (label : List Char) : Option (List Char) :=
  if maxLabelLength < label.length then none
  else some (punycodeMark ++ Punycode.encode label)

/-- The label that canonical characters name, if they name one. -/
def Label.read? (cs : List Char) : Option Label := do
  let chars ← if punycodeMark.isPrefixOf cs then ofPunycode? (cs.drop 4) else some cs
  guard (isWellJoined chars)
  let ascii ← if cs.all (·.toNat < 128) then some cs else toPunycode? chars
  some ⟨chars, ascii⟩

/-- A domain name in ASCII, if it is one. -/
def domainToAscii? (domain : List Char) : Option (List Char) := do
  let labels ← (Text.splitAt '.' (← canonical? domain)).mapM Label.read?
  if labels.any (isBidirectional ·.chars) && !labels.all (hasDirection ·.chars) then none
  else some (['.'].intercalate (labels.map Label.ascii))

end GroupInterfaces.Url
