import GroupInterfaces.Json.Printer
import GroupInterfaces.Json.Reader
import GroupInterfaces.Proofs.Forms

/-!
# Reading what has been printed

A plain value that is printed over several lines is read back as it was. What is printed of a value
is told by the characters that are put behind those already written; wherever these characters
stand, the reader finds the value in them and stops behind them. Numbers are the only values that
could be read further than they were printed, so they need something else than a number behind
them, and this is what is printed between values.
-/

namespace GroupInterfaces.Json

/-! ### Texts -/

theorem toList_foldl_push (s : String) (cs : List Char) :
  (cs.foldl String.push s).toList = s.toList ++ cs
  := by
  induction cs generalizing s with
  | nil => simp
  | cons c cs ih => rw [List.foldl_cons, ih, String.toList_push, List.append_assoc]; rfl

/-- The characters that a text is written with. -/
def quotedChars (s : String) : List Char := '\x22' :: s.toList.flatMap escapeChar ++ ['\x22']

theorem toList_writeString (out s : String) :
  (writeString out s).toList = out.toList ++ quotedChars s
  := by
  have written : ∀ (cs : List Char) (out : String),
      (cs.foldl (fun out c => (escapeChar c).foldl String.push out) out).toList
        = out.toList ++ cs.flatMap escapeChar := by
    intro cs
    induction cs with
    | nil => simp
    | cons c cs ih =>
        intro out
        rw [List.foldl_cons, ih, toList_foldl_push, List.append_assoc]
        rfl
  rw [writeString, String.toList_push, String.foldl_eq_foldl_toList, written, String.toList_push,
    quotedChars]
  simp

theorem map_digitValue?_hexDigits :
  ∀ n < 0x20, (Text.hexDigits n).map (Text.digitValue? 16)
    = if n < 0x10 then [some n] else [some 1, some (n - 0x10)]
  := by
  decide

/-- The escape of a control character gives its number. -/
theorem readUnit_escape {n : Nat} (h : n < 0x20) (rest : List Char) :
  readUnit (if n < 0x10 then '0' :: '0' :: '0' :: Text.hexDigits n ++ rest
    else '0' :: '0' :: Text.hexDigits n ++ rest) = some (n, rest)
  := by
  have digits := map_digitValue?_hexDigits n h
  have zero : Text.digitValue? 16 '0' = some 0 := by decide
  split
  · next small =>
      rw [if_pos small] at digits
      obtain ⟨d, written, value⟩ := List.map_eq_singleton_iff.mp digits
      simp [written, readUnit, zero, value]
  · next large =>
      rw [if_neg large] at digits
      obtain ⟨c, ds, written, one, digits⟩ := List.map_eq_cons_iff.mp digits
      obtain ⟨d, rfl, value⟩ := List.map_eq_singleton_iff.mp digits
      simp [written, readUnit, zero, one, value]
      omega

theorem pushUnit_toNat (cs : List Char) {c : Char} (h : c.toNat < 0x20) :
  TextSoFar.pushUnit { chars := cs } c.toNat = { chars := c :: cs }
  := by
  have low : ¬ (0xD800 ≤ c.toNat ∧ c.toNat < 0xDC00) := by omega
  have high : ¬ (0xDC00 ≤ c.toNat ∧ c.toNat < 0xE000) := by omega
  rw [TextSoFar.pushUnit, if_neg low, if_neg high, TextSoFar.push, Char.ofNat_toNat]
  rfl

theorem readText_unit (fuel : Nat) (t : TextSoFar) {cs rest : List Char} {n : Nat}
    (unit : readUnit cs = some (n, rest)) :
  readText (fuel + 1) t ('\\' :: 'u' :: cs) = readText fuel (t.pushUnit n) rest
  := by
  rw [readText, unit]

theorem readText_plain (fuel : Nat) (t : TextSoFar) {c : Char} (rest : List Char)
    (quote : c ≠ '\x22') (escape : c ≠ '\\') (printed : ¬ c.toNat < 0x20) :
  readText (fuel + 1) t (c :: rest) = readText fuel (t.push c) rest
  := by
  rw [readText.eq_def]
  simp [escape, printed]

/-- A character that is written is read. -/
theorem readText_escapeChar (fuel : Nat) (cs : List Char) (c : Char) (rest : List Char) :
  readText (fuel + 1) { chars := cs } (escapeChar c ++ rest)
    = readText fuel { chars := c :: cs } rest
  := by
  rw [escapeChar]
  split
  · next same => subst same; rfl
  split
  · next same => subst same; rfl
  split
  · next same => subst same; rfl
  split
  · next same => subst same; rfl
  split
  · next same => subst same; rfl
  split
  · next same => subst same; rfl
  split
  · next same => subst same; rfl
  split
  · next small =>
      have control : c.toNat < 0x20 := small.trans (by decide)
      have unit := readUnit_escape control rest
      rw [if_pos small] at unit
      rw [← pushUnit_toNat cs control]
      apply readText_unit fuel _ unit
  split
  · next large control =>
      have unit := readUnit_escape control rest
      rw [if_neg large] at unit
      rw [← pushUnit_toNat cs control]
      apply readText_unit fuel _ unit
  · next quote escape _ _ _ _ _ _ printed => apply readText_plain fuel _ rest quote escape printed

theorem length_escapeChar_pos (c : Char) :
  0 < (escapeChar c).length
  := by
  unfold escapeChar
  split_ifs <;> simp

/-- A text that is written is read. -/
theorem readText_quoted {fuel : Nat} (cs before rest : List Char)
    (enough : (cs.flatMap escapeChar).length < fuel) :
  readText fuel { chars := before } (cs.flatMap escapeChar ++ '\x22' :: rest)
    = some (some (.ofList (before.reverse ++ cs)), rest)
  := by
  induction cs generalizing fuel before with
  | nil =>
      obtain ⟨fuel, rfl⟩ := Nat.exists_eq_succ_of_ne_zero (Nat.ne_zero_of_lt enough)
      simp [readText, TextSoFar.finish]
  | cons c cs ih =>
      obtain ⟨fuel, rfl⟩ := Nat.exists_eq_succ_of_ne_zero (Nat.ne_zero_of_lt enough)
      rw [List.flatMap_cons, List.length_append] at enough
      have some := length_escapeChar_pos c
      rw [List.flatMap_cons, List.append_assoc, readText_escapeChar, ih _ (by omega)]
      simp

/-! ### Numbers -/

/-- A number does not go on into what comes behind it. -/
def Ends (cs : List Char) : Prop :=
  ∀ c ∈ cs.head?, c.isDigit = false ∧ c ≠ '.' ∧ c ≠ 'e' ∧ c ≠ 'E'

theorem leadingDigits_append {ds rest : List Char} (digits : ∀ d ∈ ds, d.isDigit)
    (ends : Ends rest) :
  leadingDigits (ds ++ rest) = (ds, rest)
  := by
  have stop : rest.takeWhile Char.isDigit = [] ∧ rest.dropWhile Char.isDigit = rest := by
    cases rest with
    | nil => simp
    | cons c rest => simp [(ends c rfl).1]
  rw [leadingDigits, List.takeWhile_append_of_pos digits, List.dropWhile_append_of_pos digits,
    stop.1, stop.2, List.append_nil]

theorem readFraction_of_ends {rest : List Char} (ends : Ends rest) :
  readFraction rest = some ([], rest)
  := by
  cases rest with
  | nil => rfl
  | cons c rest =>
      have point := (ends c rfl).2.1
      rw [readFraction.eq_def]
      split
      · next same => cases same; cases point rfl
      · rfl

theorem readExponent_of_ends {rest : List Char} (ends : Ends rest) :
  readExponent rest = some ([], rest)
  := by
  cases rest with
  | nil => rfl
  | cons c rest =>
      obtain ⟨-, -, e, E⟩ := ends c rfl
      simp [readExponent, e, E]

theorem ofDigits_toDigits (n : Nat) :
  ofDigits (Nat.toDigits 10 n) = n
  := by
  have same : ofDigits (Nat.toDigits 10 n) = Nat.ofDigitChars 10 (Nat.toDigits 10 n) 0 := by
    simp [ofDigits, Nat.ofDigitChars, ofDigit, Nat.mul_comm]
  rw [same, Nat.ofDigitChars_ten_toDigits]

/-- The digits of a number do not begin with a zero, unless this is all. -/
theorem toDigits_cases (n : Nat) :
  ∃ d ds, Nat.toDigits 10 n = d :: ds ∧ (d = '0' → ds = [])
  := by
  induction n using Nat.strong_induction_on with
  | h n ih =>
      rw [Nat.toDigits_eq_if (by decide)]
      split
      · exact ⟨_, [], rfl, fun _ => rfl⟩
      · next large =>
          obtain ⟨d, ds, same, leading⟩ := ih (n / 10) (by omega)
          refine ⟨d, ds ++ [(n % 10).digitChar], by rw [same]; rfl, ?_⟩
          rintro rfl
          have zero := ofDigits_toDigits (n / 10)
          rw [same, leading rfl] at zero
          have none : n / 10 = 0 := zero.symm
          omega

theorem readNumber_natural (n : Nat) {rest : List Char} (ends : Ends rest) :
  readNumber (Nat.toDigits 10 n ++ rest) = some (.natural n, rest)
  := by
  have digits : ∀ d ∈ Nat.toDigits 10 n, d.isDigit :=
    fun d => Nat.isDigit_of_mem_toDigits (by decide) (by decide)
  have number := leadingDigits_append digits ends
  have value := ofDigits_toDigits n
  obtain ⟨d, ds, same, leading⟩ := toDigits_cases n
  rw [same] at digits number value ⊢
  have unsigned : d ≠ '-' := by
    rintro rfl
    cases digits '-' List.mem_cons_self
  rw [readNumber]
  · simp only [number]
    split
    · next none => cases none
    · next zeros =>
        cases zeros
        cases leading rfl
    · simp [readFraction_of_ends ends, readExponent_of_ends ends, value]
  · intro rest' same
    cases same
    cases unsigned rfl

/-! ### Values -/

theorem skipSpace_append {spaces : List Char} (blank : ∀ c ∈ spaces, isSpace c) (cs : List Char) :
  skipSpace (spaces ++ cs) = skipSpace cs
  := List.dropWhile_append_of_pos blank

theorem skipSpace_skipSpace (cs : List Char) :
  skipSpace (skipSpace cs) = skipSpace cs
  := by
  induction cs with
  | nil => rfl
  | cons c cs ih =>
      by_cases blank : isSpace c
      · have skipped : skipSpace (c :: cs) = skipSpace cs := List.dropWhile_cons_of_pos blank
        rw [skipped, ih]
      · have kept : skipSpace (c :: cs) = c :: cs := List.dropWhile_cons_of_neg blank
        rw [kept, kept]

theorem readValue_congr {cs cs' : List Char} (fuel : Nat) (same : skipSpace cs = skipSpace cs') :
  readValue fuel cs = readValue fuel cs'
  := by
  cases fuel with
  | zero => rw [readValue, readValue]
  | succ fuel => rw [readValue, readValue, same]

/-- The characters are those of the value, wherever they stand in front of something else than the
rest of a number. -/
def Spells (cs : List Char) (v : Json) : Prop :=
  ∀ {fuel : Nat} {rest : List Char}, 2 * cs.length ≤ fuel → Ends rest →
    readValue fuel (cs ++ rest) = some (v, rest)

theorem spells_null :
  Spells ['n', 'u', 'l', 'l'] .null
  := by
  intro fuel rest enough _
  cases fuel with
  | zero => cases enough
  | succ fuel =>
      rw [readValue]
      rfl

theorem spells_bool (b : Bool) :
  Spells (toString b).toList (.bool b)
  := by
  intro fuel rest enough _
  cases fuel with
  | zero => cases b <;> cases enough
  | succ fuel =>
      rw [readValue]
      cases b with
      | false => rfl
      | true => rfl

theorem isDigit_cases {d : Char} (h : d.isDigit) :
  d ∈ ['0', '1', '2', '3', '4', '5', '6', '7', '8', '9']
  := by
  rw [Char.isDigit, Bool.and_eq_true, decide_eq_true_eq, decide_eq_true_eq] at h
  obtain ⟨low, high⟩ : 48 ≤ d.toNat ∧ d.toNat ≤ 57 := h
  rw [← Char.ofNat_toNat d]
  generalize d.toNat = n at low high
  interval_cases n <;> decide

theorem spells_natural (n : Nat) :
  Spells (Nat.toDigits 10 n) (.natural n)
  := by
  intro fuel rest enough ends
  have read := readNumber_natural n ends
  have digits : ∀ d ∈ Nat.toDigits 10 n, d.isDigit :=
    fun d => Nat.isDigit_of_mem_toDigits (by decide) (by decide)
  obtain ⟨d, ds, same, -⟩ := toDigits_cases n
  rw [same] at enough read digits ⊢
  cases fuel with
  | zero => cases enough
  | succ fuel =>
      rw [← read, readValue]
      have digit := isDigit_cases (digits d List.mem_cons_self)
      simp only [List.mem_cons, List.not_mem_nil, or_false] at digit
      rcases digit with rfl | rfl | rfl | rfl | rfl | rfl | rfl | rfl | rfl | rfl <;> rfl

theorem length_quotedChars (s : String) :
  (quotedChars s).length = (s.toList.flatMap escapeChar).length + 2
  := by
  simp [quotedChars]

/-- The characters that a text is written with are read behind their opening quote. -/
theorem readText_quotedChars (s : String) (rest : List Char) {fuel : Nat}
    (enough : (quotedChars s).length ≤ fuel) :
  ∃ cs, quotedChars s ++ rest = '\x22' :: cs ∧ readText fuel {} cs = some (some s, rest)
  := by
  rw [length_quotedChars] at enough
  refine ⟨s.toList.flatMap escapeChar ++ '\x22' :: rest, by simp [quotedChars], ?_⟩
  rw [readText_quoted s.toList [] rest (by omega)]
  simp

theorem spells_string (s : String) :
  Spells (quotedChars s) (.string s)
  := by
  intro fuel rest enough _
  have some := length_quotedChars s
  cases fuel with
  | zero => omega
  | succ fuel =>
      have enough : (quotedChars s).length ≤ fuel + 1 := by omega
      obtain ⟨cs, same, read⟩ := readText_quotedChars s rest enough
      have opened : skipSpace ('\x22' :: cs) = '\x22' :: cs := rfl
      rw [same, readValue, opened]
      simp only [read]

/-! ### Arrays -/

/-- Goes on with the elements of an array behind one of them. -/
def readFurtherElements (fuel : Nat) (before : List Json) (cs : List Char) :
    Option (Json × List Char) :=
  match skipSpace cs with
  | ',' :: rest => readElements fuel before rest
  | ']' :: rest => some (.array before.reverse, rest)
  | _ => none

theorem readElements_succ (fuel : Nat) (before : List Json) (cs : List Char) :
  readElements (fuel + 1) before cs
    = (readValue fuel cs).bind fun (v, rest) => readFurtherElements fuel (v :: before) rest
  := by
  rw [readElements]
  cases readValue fuel cs with
  | none => rfl
  | some read => rfl

/-- Reads an array behind its opening bracket. -/
def readArray (fuel : Nat) (cs : List Char) : Option (Json × List Char) :=
  match skipSpace cs with
  | ']' :: rest => some (.array [], rest)
  | rest => readElements fuel [] rest

theorem readValue_array (fuel : Nat) (cs : List Char) :
  readValue (fuel + 1) ('[' :: cs) = readArray fuel cs
  := by
  rw [readValue]
  rfl

/-- The characters are those of further elements of an array, up to its closing bracket. -/
def SpellsElements (cs : List Char) (vs : List Json) : Prop :=
  ∀ {fuel : Nat} {before : List Json} {rest : List Char}, 2 * cs.length ≤ fuel →
    readFurtherElements fuel before (cs ++ rest) = some (.array (before.reverse ++ vs), rest)

theorem Spells.indent {spaces cs : List Char} {v : Json} (h : Spells cs v)
    (blank : ∀ c ∈ spaces, isSpace c) :
  Spells (spaces ++ cs) v
  := by
  intro fuel rest enough ends
  rw [List.length_append] at enough
  rw [List.append_assoc, readValue_congr fuel (skipSpace_append blank (cs ++ rest))]
  apply h (by omega) ends

/-- What spells a value does not begin with a closing bracket. -/
theorem Spells.skipSpace_ne {cs : List Char} {v : Json} (h : Spells cs v) {rest : List Char}
    (ends : Ends rest) (cs' : List Char) :
  skipSpace (cs ++ rest) ≠ ']' :: cs'
  := by
  intro closed
  have read := h (Nat.le_succ (2 * cs.length)) ends
  rw [readValue, closed] at read
  cases read

section

variable {spaces cs cs' : List Char} {v : Json} {vs : List Json}

theorem spellsElements_nil (blank : ∀ c ∈ spaces, isSpace c) :
  SpellsElements (spaces ++ [']']) []
  := by
  intro fuel before rest _
  rw [readFurtherElements, List.append_assoc, skipSpace_append blank]
  simp [skipSpace, isSpace]

/-- The first of some elements is read, and then the others. -/
theorem readElements_spelled (first : Spells cs v) (others : SpellsElements cs' vs)
    (ends : ∀ rest, Ends (cs' ++ rest)) {fuel : Nat} {before : List Json} {rest : List Char}
    (enough : 2 * (cs.length + cs'.length) < fuel) :
  readElements fuel before (cs ++ (cs' ++ rest))
    = some (.array (before.reverse ++ v :: vs), rest)
  := by
  cases fuel with
  | zero => cases enough
  | succ fuel =>
      rw [readElements_succ, first (by omega) (ends rest), Option.bind_some]
      simp only
      rw [others (by omega)]
      simp

theorem spellsElements_cons (first : Spells cs v) (others : SpellsElements cs' vs)
    (ends : ∀ rest, Ends (cs' ++ rest)) :
  SpellsElements (',' :: cs ++ cs') (v :: vs)
  := by
  intro fuel before rest enough
  rw [List.length_append, List.length_cons] at enough
  rw [readFurtherElements, List.cons_append, List.cons_append, List.append_assoc]
  apply readElements_spelled first others ends
  omega

theorem spells_array_nil :
  Spells ['[', ']'] (.array [])
  := by
  intro fuel rest enough _
  cases fuel with
  | zero => cases enough
  | succ fuel => apply readValue_array

theorem spells_array_cons (first : Spells cs v) (others : SpellsElements cs' vs)
    (ends : ∀ rest, Ends (cs' ++ rest)) :
  Spells ('[' :: cs ++ cs') (.array (v :: vs))
  := by
  intro fuel rest enough _
  rw [List.length_append, List.length_cons] at enough
  rw [List.cons_append, List.cons_append, List.append_assoc]
  cases fuel with
  | zero => omega
  | succ fuel =>
      -- The first element is looked for behind the white space that was passed over to see that
      -- the array does not close at once.
      have opened := first.skipSpace_ne (ends rest)
      have read : readElements fuel [] (skipSpace (cs ++ (cs' ++ rest)))
          = some (.array (v :: vs), rest) := by
        cases fuel with
        | zero => omega
        | succ fuel =>
            rw [readElements_succ, readValue_congr fuel (skipSpace_skipSpace _),
              ← readElements_succ]
            apply readElements_spelled first others ends
            omega
      rw [readValue_array, readArray]
      split
      · next closed => cases opened _ closed
      · apply read

end

/-! ### Objects -/

/-- Goes on with the members of an object behind one of them. -/
def readFurtherMembers (fuel : Nat) (before : List (Option String × Json)) (cs : List Char) :
    Option (Json × List Char) :=
  match skipSpace cs with
  | ',' :: rest => readMembers fuel before rest
  | '\x7d' :: rest => some (objectOf before.reverse, rest)
  | _ => none

/-- Reads an object behind its opening brace. -/
def readObject (fuel : Nat) (cs : List Char) : Option (Json × List Char) :=
  match skipSpace cs with
  | '\x7d' :: rest => some (.object [], rest)
  | rest => readMembers fuel [] rest

theorem readValue_object (fuel : Nat) (cs : List Char) :
  readValue (fuel + 1) ('\x7b' :: cs) = readObject fuel cs
  := by
  rw [readValue]
  rfl

/-- A member whose name could be read. -/
def named (m : String × Json) : Option String × Json := (some m.1, m.2)

/-- Members whose names could be read are found again. -/
theorem mapM_map_named {f : Option String × Json → Option (String × Json)}
    (found : ∀ m, f (named m) = some m) (ms : List (String × Json)) :
  (ms.map named).mapM f = some ms
  := by
  induction ms with
  | nil => rfl
  | cons m ms ih =>
      rw [List.map_cons, List.mapM_cons, ih, found]
      rfl

theorem objectOf_map_named (ms : List (String × Json)) :
  objectOf (ms.map named) = .object ms
  := by
  rw [objectOf, mapM_map_named]
  intro m
  rfl

/-- The characters are those of further members of an object, up to its closing brace. -/
def SpellsMembers (cs : List Char) (ms : List (String × Json)) : Prop :=
  ∀ {fuel : Nat} {before : List (Option String × Json)} {rest : List Char},
    2 * cs.length ≤ fuel →
      readFurtherMembers fuel before (cs ++ rest)
        = some (objectOf (before.reverse ++ ms.map named), rest)

section

variable {spaces cs cs' : List Char} {name : String} {v : Json} {ms : List (String × Json)}

theorem spellsMembers_nil (blank : ∀ c ∈ spaces, isSpace c) :
  SpellsMembers (spaces ++ ['\x7d']) []
  := by
  intro fuel before rest _
  rw [readFurtherMembers, List.append_assoc, skipSpace_append blank]
  simp [skipSpace, isSpace]

/-- The first of some members is read, and then the others. -/
theorem readMembers_spelled (blank : ∀ c ∈ spaces, isSpace c) (first : Spells cs v)
    (others : SpellsMembers cs' ms) (ends : ∀ rest, Ends (cs' ++ rest)) {fuel : Nat}
    {before : List (Option String × Json)} {rest : List Char}
    (enough : (quotedChars name).length + 2 * (cs.length + cs'.length) < fuel) :
  readMembers fuel before (spaces ++ (quotedChars name ++ ':' :: (cs ++ (cs' ++ rest))))
    = some (objectOf (before.reverse ++ named (name, v) :: ms.map named), rest)
  := by
  cases fuel with
  | zero => cases enough
  | succ fuel =>
      have within : (quotedChars name).length ≤ fuel + 1 := by omega
      obtain ⟨text, quoted, read⟩ := readText_quotedChars name (':' :: (cs ++ (cs' ++ rest))) within
      have opened : skipSpace (spaces ++ (quotedChars name ++ ':' :: (cs ++ (cs' ++ rest))))
          = '\x22' :: text := by
        rw [skipSpace_append blank, quoted]
        rfl
      have colon : skipSpace (':' :: (cs ++ (cs' ++ rest))) = ':' :: (cs ++ (cs' ++ rest)) := rfl
      have further : readFurtherMembers fuel (named (name, v) :: before) (cs' ++ rest)
          = some (objectOf (before.reverse ++ named (name, v) :: ms.map named), rest) := by
        rw [others (by omega)]
        simp
      have value : readValue fuel (cs ++ (cs' ++ rest)) = some (v, cs' ++ rest) :=
        first (by omega) (ends rest)
      rw [readMembers, opened]
      simp only [read, colon, value]
      apply further

theorem spellsMembers_cons (blank : ∀ c ∈ spaces, isSpace c) (first : Spells cs v)
    (others : SpellsMembers cs' ms) (ends : ∀ rest, Ends (cs' ++ rest)) :
  SpellsMembers (',' :: (spaces ++ (quotedChars name ++ ':' :: (cs ++ cs')))) ((name, v) :: ms)
  := by
  intro fuel before rest enough
  simp only [List.length_cons, List.length_append] at enough
  rw [readFurtherMembers]
  simp only [List.cons_append, List.append_assoc]
  apply readMembers_spelled blank first others ends
  omega

theorem spells_object_nil :
  Spells ['\x7b', '\x7d'] (.object [])
  := by
  intro fuel rest enough _
  cases fuel with
  | zero => cases enough
  | succ fuel => apply readValue_object

theorem spells_object_cons (blank : ∀ c ∈ spaces, isSpace c) (first : Spells cs v)
    (others : SpellsMembers cs' ms) (ends : ∀ rest, Ends (cs' ++ rest)) :
  Spells ('\x7b' :: (spaces ++ (quotedChars name ++ ':' :: (cs ++ cs'))))
    (.object ((name, v) :: ms))
  := by
  intro fuel rest enough _
  simp only [List.length_cons, List.length_append] at enough
  simp only [List.cons_append, List.append_assoc]
  cases fuel with
  | zero => omega
  | succ fuel =>
      have quoted : quotedChars name ++ ':' :: (cs ++ (cs' ++ rest))
          = '\x22' :: (name.toList.flatMap escapeChar
            ++ '\x22' :: ':' :: (cs ++ (cs' ++ rest))) := by
        simp [quotedChars]
      have opened : skipSpace (spaces ++ (quotedChars name ++ ':' :: (cs ++ (cs' ++ rest))))
          = quotedChars name ++ ':' :: (cs ++ (cs' ++ rest)) := by
        rw [skipSpace_append blank, quoted]
        rfl
      have read : readMembers fuel [] (quotedChars name ++ ':' :: (cs ++ (cs' ++ rest)))
          = some (.object ((name, v) :: ms), rest) := by
        have none : ∀ c ∈ ([] : List Char), isSpace c := nofun
        have spelled : readMembers fuel []
              ([] ++ (quotedChars name ++ ':' :: (cs ++ (cs' ++ rest)))) = _ :=
          readMembers_spelled none first others ends (by omega)
        rw [List.nil_append] at spelled
        rw [spelled]
        apply congrArg (fun v => some (v, rest)) (objectOf_map_named ((name, v) :: ms))
      rw [readValue_object, readObject, opened, quoted]
      rw [quoted] at read
      apply read

end

/-! ### Printing -/

/-- The characters that start a new line. -/
def breakChars (level : Nat) : List Char := '\n' :: List.replicate (2 * level) ' '

theorem toList_writeBreak (out : String) (level : Nat) :
  (writeBreak out level).toList = out.toList ++ breakChars level
  := by
  rw [writeBreak, toList_foldl_push, String.toList_push, List.append_assoc]
  rfl

theorem isSpace_breakChars (level : Nat) :
  ∀ c ∈ breakChars level, isSpace c
  := by
  intro c mem
  rcases List.mem_cons.mp mem with rfl | mem
  · rfl
  · rw [List.eq_of_mem_replicate mem]
    rfl

theorem ends_break (level : Nat) (cs : List Char) :
  Ends (breakChars level ++ cs)
  := by
  rintro c ⟨⟩
  decide

theorem ends_comma (cs : List Char) :
  Ends (',' :: cs)
  := by
  rintro c ⟨⟩
  decide

/-- A number does not go on into white space. -/
theorem ends_isSpace {c : Char} (h : isSpace c) :
  c.isDigit = false ∧ c ≠ '.' ∧ c ≠ 'e' ∧ c ≠ 'E'
  := by
  simp only [isSpace, Bool.or_eq_true, decide_eq_true_eq] at h
  rcases h with ((rfl | rfl) | rfl) | rfl
  all_goals decide

/-- What is written behind others, and spells a value. -/
def Writes (write : String → String) (cs : List Char) : Prop :=
  ∀ out, (write out).toList = out.toList ++ cs

mutual

/-- What is printed of a plain value spells it. -/
theorem exists_spells (v : Json) (plain : v.isPlain) (level : Nat) :
  ∃ cs, Writes (writePretty · level v) cs ∧ Spells cs v
  := by
  match v with
  | .null => exact ⟨_, fun out => by simp [writePretty, writeCompact], spells_null⟩
  | .bool b => exact ⟨_, fun out => by simp [writePretty, writeCompact], spells_bool b⟩
  | .natural n => exact ⟨_, fun out => by simp [writePretty, writeCompact], spells_natural n⟩
  | .numeral literal => cases plain
  | .string s => exact ⟨_, fun out => toList_writeString out s, spells_string s⟩
  | .array [] =>
      exact ⟨_, fun out => by simp [writePretty, writeCompact, writeCompactElements],
        spells_array_nil⟩
  | .array (v :: rest) =>
      obtain ⟨first, others⟩ := Bool.and_eq_true_iff.mp plain
      obtain ⟨cs, write, spell⟩ := exists_spells v first (level + 1)
      obtain ⟨cs', write', spell', ends⟩ := exists_spellsElements rest others level
      refine ⟨_, ?_, spells_array_cons (spell.indent (isSpace_breakChars (level + 1))) spell' ends⟩
      intro out
      beta_reduce at write write' ⊢
      rw [writePretty, write', write, toList_writeBreak, String.toList_push]
      simp
  | .object [] =>
      exact ⟨_, fun out => by simp [writePretty, writeCompact, writeCompactMembers],
        spells_object_nil⟩
  | .object ((name, v) :: rest) =>
      obtain ⟨first, others⟩ := Bool.and_eq_true_iff.mp plain
      obtain ⟨cs, write, spell⟩ := exists_spells v first (level + 1)
      obtain ⟨cs', write', spell', ends⟩ := exists_spellsMembers rest others level
      have blank : ∀ c ∈ [' '], isSpace c := by simp [isSpace]
      refine ⟨_, ?_, spells_object_cons (isSpace_breakChars (level + 1)) (spell.indent blank)
        spell' ends⟩
      intro out
      beta_reduce
      rw [writePretty, write', write, String.toList_append, toList_writeString, toList_writeBreak,
        String.toList_push]
      simp
  | .unreadable => cases plain

theorem exists_spellsElements (vs : List Json) (plain : arePlainElements vs) (level : Nat) :
  ∃ cs, Writes (writePrettyElements · level vs) cs ∧ SpellsElements cs vs
    ∧ ∀ rest, Ends (cs ++ rest)
  := by
  match vs with
  | [] =>
      refine ⟨_, ?_, spellsElements_nil (isSpace_breakChars level), ?_⟩
      · intro out
        beta_reduce
        rw [writePrettyElements, String.toList_push, toList_writeBreak, List.append_assoc]
      · intro rest
        rw [List.append_assoc]
        apply ends_break
  | v :: rest =>
      obtain ⟨first, others⟩ := Bool.and_eq_true_iff.mp plain
      obtain ⟨cs, write, spell⟩ := exists_spells v first (level + 1)
      obtain ⟨cs', write', spell', ends⟩ := exists_spellsElements rest others level
      refine ⟨_, ?_,
        spellsElements_cons (spell.indent (isSpace_breakChars (level + 1))) spell' ends, ?_⟩
      · intro out
        beta_reduce
        rw [writePrettyElements, write', write, toList_writeBreak, String.toList_push]
        simp
      · intro rest
        apply ends_comma

theorem exists_spellsMembers (ms : List (String × Json)) (plain : arePlainMembers ms)
    (level : Nat) :
  ∃ cs, Writes (writePrettyMembers · level ms) cs ∧ SpellsMembers cs ms
    ∧ ∀ rest, Ends (cs ++ rest)
  := by
  match ms with
  | [] =>
      refine ⟨_, ?_, spellsMembers_nil (isSpace_breakChars level), ?_⟩
      · intro out
        beta_reduce
        rw [writePrettyMembers, String.toList_push, toList_writeBreak, List.append_assoc]
      · intro rest
        rw [List.append_assoc]
        apply ends_break
  | (name, v) :: rest =>
      obtain ⟨first, others⟩ := Bool.and_eq_true_iff.mp plain
      obtain ⟨cs, write, spell⟩ := exists_spells v first (level + 1)
      obtain ⟨cs', write', spell', ends⟩ := exists_spellsMembers rest others level
      have blank : ∀ c ∈ [' '], isSpace c := by simp [isSpace]
      refine ⟨_, ?_, spellsMembers_cons (isSpace_breakChars (level + 1)) (spell.indent blank)
        spell' ends, ?_⟩
      · intro out
        beta_reduce
        rw [writePrettyMembers, write', write, String.toList_append, toList_writeString,
          toList_writeBreak, String.toList_push]
        simp
      · intro rest
        apply ends_comma

end

/-- A plain value that has been printed is read as it was, with white space behind it or not. -/
theorem read?_pretty_append {v : Json} (plain : v.isPlain) {spaces : String}
    (blank : ∀ c ∈ spaces.toList, isSpace c) :
  read? (v.pretty ++ spaces) = some v
  := by
  obtain ⟨cs, write, spell⟩ := exists_spells v plain 0
  have text : (v.pretty ++ spaces).toList = cs ++ spaces.toList := by
    rw [String.toList_append]
    exact congrArg (· ++ spaces.toList) ((write "").trans (List.nil_append cs))
  have ends : Ends spaces.toList := fun c mem => ends_isSpace (blank c (List.mem_of_head? mem))
  have read : readValue (2 * (cs ++ spaces.toList).length + 2) (cs ++ spaces.toList)
      = some (v, spaces.toList) := by
    apply spell _ ends
    rw [List.length_append]
    omega
  have passed : skipSpace spaces.toList = [] := List.dropWhile_eq_nil_iff.mpr blank
  simp only [read?, text, read, passed]
  rfl

theorem read?_pretty {v : Json} (plain : v.isPlain) :
  read? v.pretty = some v
  := by
  have read : read? (v.pretty ++ "") = some v := read?_pretty_append plain nofun
  rw [String.append_empty] at read
  apply read

end GroupInterfaces.Json
