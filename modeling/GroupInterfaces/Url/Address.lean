import GroupInterfaces.Text.Digits
import GroupInterfaces.Text.Split

/-!
# Internet addresses

A host whose last label is a number is an IPv4 address, in up to four parts of which each
may be decimal, octal or hexadecimal. A host in brackets is an IPv6 address. Both are
written back in their shortest usual form.
-/

namespace GroupInterfaces.Url

/-! ### Numbers -/

/-- The number that digits in a base stand for. -/
def readDigits (base : Nat) (cs : List Char) : Option Nat :=
  cs.foldl (fun n? c => do
    let n ← n?
    let d ← Text.digitValue? base c
    some (n * base + d)) (some 0)

/-- A part of an IPv4 address: hexadecimal behind `0x`, octal behind a further zero. -/
def readPart : List Char → Option Nat
  | [] => none
  | '0' :: 'x' :: digits => readDigits 16 digits
  | '0' :: 'X' :: digits => readDigits 16 digits
  | '0' :: c :: digits => readDigits 8 (c :: digits)
  | digits => readDigits 10 digits

/-! ### IPv4 -/

/-- The labels of a host without the empty one behind a final dot. -/
def labelsOf (host : List Char) : List (List Char) :=
  let labels := Text.splitAt '.' host
  if labels.getLast? = some [] then labels.dropLast else labels

/-- The last label of a host is a number. -/
def endsInNumber (host : List Char) : Bool :=
  match (labelsOf host).getLast? with
  | none => false
  | some [] => false
  | some label => label.all Char.isDigit || (readPart label).isSome

/-- The address that a host stands for: all parts but the last are bytes, the last one fills
the bytes that remain. -/
def readIpv4 (host : List Char) : Option Nat := do
  let labels := labelsOf host
  if 4 < labels.length then none
  let numbers ← labels.mapM readPart
  let last ← numbers.getLast?
  let bytes := numbers.dropLast
  if 1 <<< (8 * (4 - bytes.length)) ≤ last then none
  if bytes.any (255 < ·) then none
  let high := bytes.zipIdx.foldl (fun n (b, i) => n + b <<< (8 * (3 - i))) 0
  some (high + last)

/-- The address as four decimal bytes. -/
def showIpv4 (address : Nat) : String :=
  ".".intercalate ([3, 2, 1, 0].map fun i => toString ((address >>> (8 * i)) % 256))

/-! ### IPv6 -/

/-- The pieces of an IPv6 address that are read so far, and the number of those in front of
the run of zeros, if there is one. -/
structure Pieces where
  before : List Nat := []
  gap : Option Nat := none

/-- A byte in decimal digits without leading zeros, and what follows. -/
def readByte (cs : List Char) : Option (Nat × List Char) :=
  let digits := cs.takeWhile Char.isDigit
  let rest := cs.dropWhile Char.isDigit
  match digits with
  | [] => none
  | '0' :: _ :: _ => none
  | _ =>
    match readDigits 10 digits with
    | some n => if n ≤ 255 then some (n, rest) else none
    | none => none

/-- The two pieces that an IPv4 address at the end gives. -/
def readTrailingIpv4 (cs : List Char) : Option (Nat × Nat) := do
  let (a, rest) ← readByte cs
  let '.' :: rest := rest | none
  let (b, rest) ← readByte rest
  let '.' :: rest := rest | none
  let (c, rest) ← readByte rest
  let '.' :: rest := rest | none
  let (d, rest) ← readByte rest
  if rest.isEmpty then some (a * 256 + b, c * 256 + d) else none

/-- Reads pieces up to the end of the address. -/
def readPieces : Nat → Pieces → List Char → Option Pieces
  | 0, _, _ => none
  | _ + 1, p, [] => some p
  | fuel + 1, p, ':' :: rest =>
    if 8 ≤ p.before.length || p.gap.isSome then none
    else readPieces fuel { before := p.before ++ [0], gap := some (p.before.length + 1) } rest
  | fuel + 1, p, cs =>
    if 8 ≤ p.before.length then none
    else
      let digits := (cs.take 4).takeWhile fun c => (Text.digitValue? 16 c).isSome
      let rest := cs.drop digits.length
      let value := (readDigits 16 digits).getD 0
      match rest with
      | [] => readPieces fuel { p with before := p.before ++ [value] } []
      | '.' :: _ =>
        if digits.isEmpty || 6 < p.before.length then none
        else
          match readTrailingIpv4 cs with
          | some (high, low) => some { p with before := p.before ++ [high, low] }
          | none => none
      | ':' :: rest =>
        if rest.isEmpty then none
        else readPieces fuel { p with before := p.before ++ [value] } rest
      | _ => none

/-- The eight pieces of an IPv6 address. -/
def readIpv6 (cs : List Char) : Option (List Nat) := do
  if cs.length < 2 then none
  let start : Pieces × List Char ←
    match cs with
    | ':' :: ':' :: rest => some ({ before := [0], gap := some 1 }, rest)
    | ':' :: _ => none
    | cs => some ({}, cs)
  let p ← readPieces (cs.length + 1) start.1 start.2
  match p.gap with
  | some gap =>
    if 8 < p.before.length then none
    else some (p.before.take gap ++ List.replicate (8 - p.before.length) 0 ++ p.before.drop gap)
  | none => if p.before.length = 8 then some p.before else none

/-- The length of the run of zeros in front of pieces. -/
def zeroRun (pieces : List Nat) : Nat := (pieces.takeWhile (· = 0)).length

/-- The start and the length of the first longest run of at least two zeros. -/
def longestZeroRun (pieces : List Nat) : Option (Nat × Nat) :=
  let runs := (List.range pieces.length).map fun i => (i, zeroRun (pieces.drop i))
  runs.foldl (fun best run =>
    match best with
    | some b => if b.2 < run.2 then some run else best
    | none => if 2 ≤ run.2 then some run else none) none

/-- Pieces in hexadecimal, between colons. -/
def showPieces (pieces : List Nat) : String :=
  ":".intercalate (pieces.map fun n => .ofList (Text.hexDigits n))

/-- The address in its shortest form. -/
def showIpv6 (pieces : List Nat) : String :=
  match longestZeroRun pieces with
  | some (start, length) =>
    showPieces (pieces.take start) ++ "::" ++ showPieces (pieces.drop (start + length))
  | none => showPieces pieces

end GroupInterfaces.Url
