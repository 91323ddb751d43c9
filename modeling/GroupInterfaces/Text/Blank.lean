/-!
# White space

The characters with the Unicode property *White_Space*, which surround a text without
belonging to it.
-/

namespace GroupInterfaces.Text

/-- The character is white space. -/
def isBlank (c : Char) : Bool :=
  let n := c.toNat
  (0x09 ≤ n && n ≤ 0x0D) || n == 0x20 || n == 0x85 || n == 0xA0 || n == 0x1680
    || (0x2000 ≤ n && n ≤ 0x200A) || n == 0x2028 || n == 0x2029 || n == 0x202F
    || n == 0x205F || n == 0x3000

/-- The characters without those at the end that satisfy a predicate. -/
def dropTrailing (p : Char → Bool) (cs : List Char) : List Char :=
  (cs.reverse.dropWhile p).reverse

/-- The text without the white space around it. -/
def trim (s : String) : String :=
  .ofList (dropTrailing isBlank (s.toList.dropWhile isBlank))

end GroupInterfaces.Text
