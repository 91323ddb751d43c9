/-!
# The range of numbers

A number that is read in full has to lie in the range of double precision. It is read with as
many digits as fit into 64 bits. Further digits in front of the point count as places, and
those behind it not at all. The digits and the power of ten that they are multiplied by are
rounded to double precision, and so is their product.
-/

namespace GroupInterfaces.Json

/-- The number that a decimal digit stands for. -/
def ofDigit (c : Char) : Nat := c.toNat - '0'.toNat

/-- The number that a list of decimal digits stands for. -/
def ofDigits (digits : List Char) : Nat := digits.foldl (fun n c => n * 10 + ofDigit c) 0

/-! ### Double precision -/

/-- The number of 53 bits, followed by zeros, that is nearest to a number. Of two that are
equally near it is the even one. -/
def roundToDouble (n : Nat) : Nat :=
  let unit := 1 <<< (n.log2 + 1 - 53)
  let count := n / unit
  let remainder := n % unit
  if unit < 2 * remainder ∨ (unit = 2 * remainder ∧ count % 2 = 1) then (count + 1) * unit
  else count * unit

/-! ### Numbers as they are read -/

/-- A number times a power of ten. -/
structure Scaled where
  digits : Nat
  exponent : Int := 0

/-- The digits that are read are less than this. -/
def digitsLimit : Nat := 1 <<< 64

/-- Reads digits in front of the point behind the number that those before them give. -/
def Scaled.ofWhole (n : Nat) : List Char → Scaled
  | [] => { digits := n }
  | c :: rest =>
    let next := n * 10 + ofDigit c
    if next < digitsLimit then Scaled.ofWhole next rest
    else { digits := n, exponent := rest.length + 1 }

/-- Reads digits behind the point. -/
def Scaled.addPlaces (number : Scaled) : List Char → Scaled
  | [] => number
  | c :: rest =>
    let next := number.digits * 10 + ofDigit c
    if next < digitsLimit then
      Scaled.addPlaces { digits := next, exponent := number.exponent - 1 } rest
    else number

/-- The number lies in the range of double precision. A power of ten beyond the range leads
out of it whatever the digits are, if they are not all zero. -/
def Scaled.isInRange (number : Scaled) : Bool :=
  number.digits = 0 || number.exponent < 0
    || (number.exponent ≤ 308
      && roundToDouble (roundToDouble number.digits
        * roundToDouble (Nat.pow 10 number.exponent.toNat)) < 1 <<< 1024)

/-- The number that digits alone stand for lies in the range of double precision. -/
def naturalInRange (n : Nat) : Bool :=
  n < digitsLimit || (Scaled.ofWhole 0 (Nat.toDigits 10 n)).isInRange

/-- The written number lies in the range of double precision. -/
def numeralInRange (literal : String) : Bool :=
  let unsigned := literal.toList.dropWhile (· = '-')
  let whole := unsigned.takeWhile Char.isDigit
  let rest := unsigned.dropWhile Char.isDigit
  let (places, rest) :=
    match rest with
    | '.' :: rest => (rest.takeWhile Char.isDigit, rest.dropWhile Char.isDigit)
    | rest => ([], rest)
  let exponent : Int :=
    match rest with
    | _ :: '-' :: digits => -(ofDigits digits)
    | _ :: '+' :: digits => ofDigits digits
    | _ :: digits => ofDigits digits
    | [] => 0
  let number := (Scaled.ofWhole 0 whole).addPlaces places
  Scaled.isInRange { number with exponent := number.exponent + exponent }

end GroupInterfaces.Json
