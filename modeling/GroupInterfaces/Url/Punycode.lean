/-!
# Punycode

A label of a domain name with characters beyond ASCII is written with ASCII characters
alone: the ASCII characters of the label come first, then, behind a hyphen, the positions
and code points of the others as numbers of variable length.
-/

namespace GroupInterfaces.Url.Punycode

/-- The weight of a digit at a position of a number: the digits below it end the number. -/
def threshold (k bias : Nat) : Nat := min 26 (max 1 (k - bias))

/-- A weight is at least one, so that all of a number but its last digit makes it greater. -/
theorem one_le_threshold (k bias : Nat) :
  1 ≤ threshold k bias
  := by
  unfold threshold
  omega

/-- The steps of adapting the bias to a distance, from a start on. -/
def adaptFrom (k delta : Nat) : Nat :=
  if 455 < delta then adaptFrom (k + 36) (delta / 35) else k + 36 * delta / (delta + 38)
termination_by delta

/-- The bias for the next number after a distance. -/
def adapt (delta count : Nat) (first : Bool) : Nat :=
  let delta := if first then delta / 700 else delta / 2
  adaptFrom 0 (delta + delta / count)

/-! ### Reading -/

/-- The value of a digit. -/
def digit? (c : Char) : Option Nat :=
  if 'a' ≤ c ∧ c ≤ 'z' then some (c.toNat - 'a'.toNat)
  else if 'A' ≤ c ∧ c ≤ 'Z' then some (c.toNat - 'A'.toNat)
  else if '0' ≤ c ∧ c ≤ '9' then some (c.toNat - '0'.toNat + 26)
  else none

/-- Numbers and weights are less than this. -/
def numberLimit : Nat := 1 <<< 32

/-- Adds one number to a value. -/
def readNumber (bias : Nat) : (k weight value : Nat) → List Char → Option (Nat × List Char)
  | _, _, _, [] => none
  | k, weight, value, c :: rest =>
    match digit? c with
    | none => none
    | some d =>
      let value := value + d * weight
      let t := threshold k bias
      if numberLimit ≤ value then none
      else if d < t then some (value, rest)
      else if numberLimit ≤ weight * (36 - t) then none
      else readNumber bias (k + 36) (weight * (36 - t)) value rest

/-- What is behind a number is shorter. -/
theorem length_of_readNumber {bias k weight value sum : Nat} {digits rest : List Char}
    (h : readNumber bias k weight value digits = some (sum, rest)) :
  rest.length < digits.length
  := by
  fun_induction readNumber bias k weight value digits <;> simp_all
  omega

/-- Puts the characters that numbers describe into the label read so far. -/
def readInsertions (code position bias : Nat) (label digits : List Char) :
    Option (List Char) :=
  if digits.isEmpty then some label
  else
    match _h : readNumber bias 36 1 position digits with
    | none => none
    | some (place, rest) =>
      let count := label.length + 1
      let delta := place - position
      let code := code + place / count
      if 0x110000 ≤ code ∨ (0xD800 ≤ code ∧ code < 0xE000) then none
      else
        readInsertions code (place % count + 1) (adapt delta count (position = 0))
          (label.insertIdx (place % count) (Char.ofNat code)) rest
termination_by digits.length
decreasing_by exact length_of_readNumber _h

/-- The label that an encoded label stands for. A hyphen with nothing in front of it ends no
ASCII characters. -/
def decode? (cs : List Char) : Option (List Char) :=
  let behind := (cs.reverse.takeWhile (· ≠ '-')).reverse
  let ascii := (cs.take (cs.length - behind.length)).dropLast
  if ascii.all (·.toNat < 128) then
    readInsertions 128 0 72 ascii (if ascii.isEmpty then cs else behind)
  else none

/-! ### Writing -/

/-- A digit. -/
def digit (d : Nat) : Char :=
  if d < 26 then Char.ofNat ('a'.toNat + d) else Char.ofNat ('0'.toNat + (d - 26))

/-- The digits of a number from a position on. -/
def writeNumber (bias k value : Nat) : List Char :=
  let t := threshold k bias
  if value < t then [digit value]
  else digit (t + (value - t) % (36 - t)) :: writeNumber bias (k + 36) ((value - t) / (36 - t))
termination_by value
decreasing_by
  have hle : (value - threshold k bias) / (36 - threshold k bias) ≤ value - threshold k bias :=
    Nat.div_le_self ..
  have hpos : 1 ≤ threshold k bias := one_le_threshold k bias
  omega

/-- What is written so far: the output, last character first, the distance to the next
insertion, the bias, and the number of characters that are written. -/
structure Writing where
  out : List Char
  delta : Nat := 0
  bias : Nat := 72
  count : Nat

/-- Goes past one character of the label while the characters with one code point are
written. -/
def Writing.step (asciiCount code : Nat) (w : Writing) (c : Char) : Writing :=
  if c.toNat < code then { w with delta := w.delta + 1 }
  else if c.toNat = code then
    { out := (writeNumber w.bias 36 w.delta).reverse ++ w.out
      delta := 0
      bias := adapt w.delta (w.count + 1) (w.count = asciiCount)
      count := w.count + 1 }
  else w

/-- The code points beyond ASCII of a label, each once, in increasing order. -/
def codesOf (label : List Char) : List Nat :=
  ((label.map Char.toNat).filter (128 ≤ ·)).eraseDups.mergeSort

/-- The label with ASCII characters alone. -/
def encode (label : List Char) : List Char :=
  let ascii := label.filter (·.toNat < 128)
  let start : Writing :=
    { out := if ascii.isEmpty then [] else '-' :: ascii.reverse, count := ascii.length }
  let done := (codesOf label).foldl (fun (w, next) code =>
    let w := { w with delta := w.delta + (code - next) * (w.count + 1) }
    let w := label.foldl (Writing.step ascii.length code) w
    ({ w with delta := w.delta + 1 }, code + 1)) (start, 128)
  done.1.out.reverse

end GroupInterfaces.Url.Punycode
