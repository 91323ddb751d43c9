import GroupInterfaces.Xml.Attribute
import GroupInterfaces.Xml.Markup
import Mathlib

/-!
# Tags as they are read back

A tag is written with a reference for each character of a value that has a name, so neither
quotes nor angle brackets stand in values. Hence a tag ends where it was made to end, and its
name and its attributes are read back as they were given.
-/

namespace GroupInterfaces.Xml

/-! ### References -/

/-- The characters that are written as references. -/
def isNamed (c : Char) : Bool := c = '<' || c = '>' || c = '&' || c = '\x27' || c = '\x22'

theorem escapeChar_of_not_isNamed {c : Char} (h : isNamed c = false) :
  escapeChar c = [c]
  := by
  simp only [isNamed, Bool.or_eq_false_iff, decide_eq_false_iff_not] at h
  obtain ⟨⟨⟨⟨lt, gt⟩, amp⟩, apos⟩, quot⟩ := h
  rw [escapeChar, if_neg lt, if_neg gt, if_neg amp, if_neg apos, if_neg quot]

/-- Reading goes past what one character was written as, and gives the character. -/
theorem unescapeFrom_escapeChar (total place : Nat) (c : Char) (rest : List Char) :
  ∃ place', unescapeFrom total place none (escapeChar c ++ rest)
    = (do
      let behind ← unescapeFrom total place' none rest
      pure (c :: behind))
  := by
  by_cases named : isNamed c
  · simp only [isNamed, Bool.or_eq_true, decide_eq_true_eq] at named
    rcases named with (((rfl | rfl) | rfl) | rfl) | rfl
    · exact ⟨_, rfl⟩
    · exact ⟨_, rfl⟩
    · exact ⟨_, rfl⟩
    · exact ⟨_, rfl⟩
    · exact ⟨_, rfl⟩
  · have plain := Bool.eq_false_iff.mpr named
    have other : c ≠ '&' := by
      rintro rfl
      apply named
      rfl
    rw [escapeChar_of_not_isNamed plain]
    use place + c.utf8Size
    simp only [List.singleton_append, unescapeFrom, if_neg other]

theorem unescapeFrom_escape (total place : Nat) (cs : List Char) :
  unescapeFrom total place none (escape cs) = .ok cs
  := by
  induction cs generalizing place with
  | nil => rfl
  | cons c cs ih =>
      obtain ⟨place', step⟩ := unescapeFrom_escapeChar total place c (escape cs)
      rw [escape, List.flatMap_cons]
      apply step.trans
      rw [ih]
      rfl

/-- A text is read back from the way it is written in a value. -/
theorem unescape_escape (cs : List Char) :
  unescape (escape cs) = .ok cs
  := unescapeFrom_escape _ _ cs

/-- No quotes are written in values. -/
theorem quot_notMem_escape (cs : List Char) :
  '\x22' ∉ escape cs
  := by
  intro mem
  obtain ⟨c, -, mem⟩ := List.mem_flatMap.mp mem
  by_cases named : isNamed c
  · simp only [isNamed, Bool.or_eq_true, decide_eq_true_eq] at named
    rcases named with (((rfl | rfl) | rfl) | rfl) | rfl
    · revert mem
      decide +kernel
    · revert mem
      decide +kernel
    · revert mem
      decide +kernel
    · revert mem
      decide +kernel
    · revert mem
      decide +kernel
  · rw [escapeChar_of_not_isNamed (Bool.eq_false_iff.mpr named)] at mem
    rw [← List.mem_singleton.mp mem] at named
    apply named
    rfl

/-! ### Names -/

/-- Characters that have a meaning of their own in tags. -/
def isMark (c : Char) : Bool :=
  isSpace c || isNamed c || c = '=' || c = '/' || c = '!' || c = '?'

/-- Names of elements and attributes: there is at least one character, and none has a meaning
of its own. -/
structure IsName (name : List Char) : Prop where
  ne_nil : name ≠ []
  plain : ∀ c ∈ name, isMark c = false

theorem IsName.of_all {name : List Char} (nonempty : name.isEmpty = false)
    (plain : name.all (! isMark ·) = true) :
  IsName name
  := by
  constructor
  · rintro rfl
    cases nonempty
  · intro c mem
    simpa using List.all_eq_true.mp plain c mem

theorem isSpace_of_isMark {c : Char} (h : isMark c = false) :
  isSpace c = false
  := by
  simp only [isMark, Bool.or_eq_false_iff] at h
  apply h.1.1.1.1.1

theorem isNamed_of_isMark {c : Char} (h : isMark c = false) :
  isNamed c = false
  := by
  simp only [isMark, Bool.or_eq_false_iff] at h
  apply h.1.1.1.1.2

theorem ne_of_isMark {c d : Char} (h : isMark c = false) (mark : isMark d = true) :
  c ≠ d
  := by
  rintro rfl
  rw [h] at mark
  cases mark

/-! ### The end of a tag -/

/-- Looking for the end of a tag goes past a text, within quotes or not before it and behind
it. -/
def GoesPast (quote : Option Char) (cs : List Char) (quote' : Option Char) : Prop :=
  ∀ before rest, splitTag quote before (cs ++ rest) = splitTag quote' (cs.reverse ++ before) rest

theorem GoesPast.nil (quote : Option Char) :
  GoesPast quote [] quote
  := by
  intro before rest
  rfl

theorem GoesPast.append {q q' q'' : Option Char} {cs ds : List Char} (h : GoesPast q cs q')
    (h' : GoesPast q' ds q'') :
  GoesPast q (cs ++ ds) q''
  := by
  intro before rest
  rw [List.append_assoc, h, h', List.reverse_append, List.append_assoc]

theorem GoesPast.cons_of_not_isNamed {c : Char} (h : isNamed c = false) {cs : List Char}
    {q : Option Char} (behind : GoesPast none cs q) :
  GoesPast none (c :: cs) q
  := by
  simp only [isNamed, Bool.or_eq_false_iff, decide_eq_false_iff_not] at h
  obtain ⟨⟨⟨⟨-, gt⟩, -⟩, apos⟩, quot⟩ := h
  intro before rest
  simp [splitTag, gt, apos, quot, behind (c :: before) rest]

theorem goesPast_of_not_isNamed {cs : List Char} (h : ∀ c ∈ cs, isNamed c = false) :
  GoesPast none cs none
  := by
  induction cs with
  | nil => apply GoesPast.nil
  | cons c cs ih =>
      apply GoesPast.cons_of_not_isNamed (h c List.mem_cons_self)
      apply ih
      intro d mem
      apply h d (List.mem_cons_of_mem c mem)

/-- Within quotes there is nothing to look for but the same quote. -/
theorem goesPast_of_notMem {quote : Char} {cs : List Char} (h : quote ∉ cs) :
  GoesPast (some quote) cs (some quote)
  := by
  induction cs with
  | nil => apply GoesPast.nil
  | cons c cs ih =>
      rw [List.mem_cons, not_or] at h
      intro before rest
      rw [List.cons_append, splitTag, if_neg (Ne.symm h.1), ih h.2, List.reverse_cons,
        List.append_assoc]
      rfl

theorem goesPast_writeAttribute {key : String} (h : IsName key.toList) (value : String) :
  GoesPast none (writeAttribute key value) none
  := by
  have opening : GoesPast none (' ' :: key.toList ++ ['=']) none := by
    apply goesPast_of_not_isNamed
    intro c mem
    simp only [List.cons_append, List.mem_cons, List.mem_append, List.mem_nil_iff,
      or_false] at mem
    rcases mem with rfl | mem | rfl
    · rfl
    · apply isNamed_of_isMark (h.plain c mem)
    · rfl
  have quoted : GoesPast (some '\x22') (escape value.toList) (some '\x22') :=
    goesPast_of_notMem (quot_notMem_escape value.toList)
  have opens : GoesPast none ['\x22'] (some '\x22') := by
    intro before rest
    rfl
  have closes : GoesPast (some '\x22') ['\x22'] none := by
    intro before rest
    rfl
  have all := ((opening.append opens).append quoted).append closes
  simpa [writeAttribute] using all

/-- Attributes as they are written behind the name of a tag. -/
def writeAttributes (attributes : List (String × String)) : List Char :=
  attributes.flatMap fun (key, value) => writeAttribute key value

theorem writeAttributes_cons (a : String × String) (attributes : List (String × String)) :
  writeAttributes (a :: attributes) = writeAttribute a.1 a.2 ++ writeAttributes attributes
  := rfl

theorem goesPast_writeTag {name : String} {attributes : List (String × String)}
    (h : IsName name.toList) (keys : ∀ a ∈ attributes, IsName a.1.toList) :
  GoesPast none (writeTag name attributes) none
  := by
  have front : GoesPast none name.toList none := by
    apply goesPast_of_not_isNamed
    intro c mem
    apply isNamed_of_isMark (h.plain c mem)
  apply front.append
  change GoesPast none (writeAttributes attributes) none
  induction attributes with
  | nil => apply GoesPast.nil
  | cons a attributes ih =>
      apply (goesPast_writeAttribute (keys a List.mem_cons_self) a.2).append
      apply ih
      intro b mem
      apply keys b (List.mem_cons_of_mem a mem)

/-- The text of a tag does not end in a slash. -/
theorem writeTag_eq_concat {name : String} (attributes : List (String × String))
    (h : IsName name.toList) :
  ∃ front c, writeTag name attributes = front ++ [c] ∧ c ≠ '/'
  := by
  rcases List.eq_nil_or_concat attributes with rfl | ⟨front, a, rfl⟩
  · obtain ⟨front, c, split⟩ := (List.eq_nil_or_concat name.toList).resolve_left h.ne_nil
    use front, c
    constructor
    · simpa [writeTag] using split
    · apply ne_of_isMark (h.plain c _) rfl
      simp [split]
  · use writeTag name front ++ (' ' :: a.1.toList ++ ['=', '\x22'] ++ escape a.2.toList), '\x22'
    constructor
    · simp [writeTag, writeAttribute]
    · decide

theorem readConstruct_eq_readTag {name : String} (h : IsName name.toList)
    (opened : List (List Char)) (rest : List Char) :
  readConstruct opened (name.toList ++ rest) = readTag (name.toList ++ rest)
  := by
  obtain ⟨c, cs, split⟩ := List.exists_cons_of_ne_nil h.ne_nil
  have plain : isMark c = false := by
    apply h.plain
    simp [split]
  rw [split, List.cons_append, readConstruct]
  · intro _ same
    obtain ⟨rfl, -⟩ := List.cons.inj same
    cases plain
  · intro _ same
    obtain ⟨rfl, -⟩ := List.cons.inj same
    cases plain
  · intro _ same
    obtain ⟨rfl, -⟩ := List.cons.inj same
    cases plain

section

variable {name : String} {attributes : List (String × String)} (h : IsName name.toList)
  (keys : ∀ a ∈ attributes, IsName a.1.toList) (opened : List (List Char)) (rest : List Char)
include h keys

/-- A start tag is read back. -/
theorem readConstruct_start :
  ∃ bytes, readConstruct opened (writeTag name attributes ++ '>' :: rest)
    = .event (.start ⟨writeTag name attributes⟩) bytes rest
  := by
  have ends : splitTag none [] (writeTag name attributes ++ '>' :: rest)
      = some ((writeTag name attributes).reverse, rest) := by
    rw [goesPast_writeTag h keys, List.append_nil]
    rfl
  obtain ⟨front, c, split, apart⟩ := writeTag_eq_concat attributes h
  use byteLength (writeTag name attributes).reverse + 1
  rw [writeTag, List.append_assoc, readConstruct_eq_readTag h, ← List.append_assoc, ← writeTag,
    readTag, ends]
  simp only [split, List.reverse_append, List.reverse_cons, List.reverse_nil, List.nil_append,
    List.singleton_append]
  split
  · next same =>
      cases same
      exact (apart rfl).elim
  · simp

/-- An empty tag is read back without its slash. -/
theorem readConstruct_empty :
  ∃ bytes, readConstruct opened (writeTag name attributes ++ '/' :: '>' :: rest)
    = .event (.empty ⟨writeTag name attributes⟩) bytes rest
  := by
  have ends : splitTag none [] (writeTag name attributes ++ '/' :: '>' :: rest)
      = some ('/' :: (writeTag name attributes).reverse, rest) := by
    rw [goesPast_writeTag h keys, List.append_nil]
    rfl
  use byteLength ('/' :: (writeTag name attributes).reverse) + 1
  rw [writeTag, List.append_assoc, readConstruct_eq_readTag h, ← List.append_assoc, ← writeTag,
    readTag, ends]
  simp

end

/-! ### What a tag says -/

theorem takeWhile_writeTag {name : String} (attributes : List (String × String))
    (h : IsName name.toList) :
  (writeTag name attributes).takeWhile (! isSpace ·) = name.toList
  := by
  have plain : ∀ c ∈ name.toList, (!isSpace c) = true := by
    intro c mem
    rw [isSpace_of_isMark (h.plain c mem)]
    rfl
  rw [writeTag, List.takeWhile_append_of_pos plain]
  cases attributes with
  | nil => apply List.append_nil
  | cons a attributes => apply List.append_nil

/-- The name of a tag is read back. -/
theorem name_writeTag {name : String} (attributes : List (String × String))
    (h : IsName name.toList) :
  Tag.name ⟨writeTag name attributes⟩ = name.toList
  := takeWhile_writeTag attributes h

/-- An attribute as it is written. -/
def writtenAttribute (a : String × String) : Attribute where
  key := a.1.toList
  raw := escape a.2.toList

/-- The value of an attribute is read back. -/
theorem value_writtenAttribute (a : String × String) :
  (writtenAttribute a).value = .ok a.2
  := by
  rw [Attribute.value, writtenAttribute, unescape_escape]
  apply congrArg Except.ok String.ofList_toList

theorem skipSpace_cons (place : Nat) {c : Char} (h : isSpace c = false) (cs : List Char) :
  skipSpace place (c :: cs) = (place, c :: cs)
  := by
  simp [skipSpace, h]

theorem skipSpace_blank_cons (place : Nat) {c : Char} (h : isSpace c = false)
    (cs : List Char) :
  skipSpace place (' ' :: c :: cs) = (place + 1, c :: cs)
  := by
  have blank : isSpace ' ' = true := rfl
  simp [skipSpace, h, blank]

/-- The key in front of an equals sign. -/
theorem splitKey_append {key : List Char} (h : IsName key) (cs : List Char) :
  splitKey (key ++ '=' :: cs) = (key, '=' :: cs)
  := by
  obtain ⟨c, rest, rfl⟩ := List.exists_cons_of_ne_nil h.ne_nil
  have plain : ∀ d ∈ rest, (!(decide (d = '=') || isSpace d)) = true := by
    intro d mem
    have mark := h.plain d (List.mem_cons_of_mem c mem)
    simp [isSpace_of_isMark mark, ne_of_isMark mark (d := '=') rfl]
  simp only [List.cons_append, splitKey, List.takeWhile_append_of_pos plain,
    List.dropWhile_append_of_pos plain]
  simp

/-- Reading goes past an attribute whose key is new. -/
theorem readAttributes_cons (total fuel place : Nat) {seen : List (List Char × Nat)}
    {key raw : List Char} (name : IsName key) (fresh : key ∉ seen.map (·.1))
    (unquoted : '\x22' ∉ raw) (rest : List Char) :
  ∃ start place', readAttributes total (fuel + 1) seen place
      (' ' :: (key ++ '=' :: '\x22' :: (raw ++ '\x22' :: rest)))
    = ({ key, raw } :: (readAttributes total fuel ((key, start) :: seen) place' rest).1,
      (readAttributes total fuel ((key, start) :: seen) place' rest).2)
  := by
  have new : seen.lookup key = none := by
    apply List.lookup_eq_none_iff.mpr
    intro entry mem
    apply bne_iff_ne.mpr
    rintro rfl
    apply fresh
    apply List.mem_map_of_mem mem
  have value : ∀ d ∈ raw, decide (d ≠ '\x22') = true := by
    intro d mem
    apply decide_eq_true
    rintro rfl
    apply unquoted mem
  have keyed := splitKey_append name ('\x22' :: (raw ++ '\x22' :: rest))
  obtain ⟨c, cs, rfl⟩ := List.exists_cons_of_ne_nil name.ne_nil
  have plain : isSpace c = false := isSpace_of_isMark (name.plain c List.mem_cons_self)
  have equals : isSpace '=' = false := rfl
  have quote : isSpace '\x22' = false := rfl
  rw [List.cons_append] at keyed ⊢
  use place + 1, place + 1 + byteLength (c :: cs) + 1 + byteLength raw + 2
  simp only [readAttributes, skipSpace_blank_cons place plain, keyed, skipSpace_cons _ equals,
    new, skipSpace_cons _ quote, List.takeWhile_append_of_pos value,
    List.dropWhile_append_of_pos value]
  simp

/-- The attributes of a tag are read back. -/
theorem readAttributes_writeAttributes (total : Nat) {attributes : List (String × String)}
    (keys : ∀ a ∈ attributes, IsName a.1.toList)
    (distinct : (attributes.map (·.1)).Nodup) {fuel : Nat} (enough : attributes.length < fuel)
    {seen : List (List Char × Nat)} (fresh : ∀ a ∈ attributes, a.1.toList ∉ seen.map (·.1))
    (place : Nat) :
  readAttributes total fuel seen place (writeAttributes attributes)
    = (attributes.map writtenAttribute, none)
  := by
  induction attributes generalizing fuel seen place with
  | nil =>
      obtain ⟨fuel, rfl⟩ := Nat.exists_eq_succ_of_ne_zero (Nat.ne_of_gt enough)
      rfl
  | cons a attributes ih =>
      obtain ⟨fuel, rfl⟩ := Nat.exists_eq_succ_of_ne_zero (Nat.ne_of_gt
        (Nat.lt_of_le_of_lt (Nat.zero_le _) enough))
      rw [List.map_cons, List.nodup_cons] at distinct
      have text : writeAttributes (a :: attributes) = ' ' :: (a.1.toList ++ '=' :: '\x22'
          :: (escape a.2.toList ++ '\x22' :: writeAttributes attributes)) := by
        simp [writeAttributes_cons, writeAttribute]
      obtain ⟨start, place', step⟩ := readAttributes_cons total fuel place
        (keys a List.mem_cons_self) (fresh a List.mem_cons_self) (quot_notMem_escape a.2.toList)
        (writeAttributes attributes)
      rw [text, step, ih]
      · rfl
      · intro b mem
        apply keys b (List.mem_cons_of_mem a mem)
      · apply distinct.2
      · rw [List.length_cons] at enough
        apply Nat.lt_of_succ_lt_succ enough
      · intro b mem
        rw [List.map_cons, List.mem_cons, not_or]
        constructor
        · intro same
          apply distinct.1
          rw [← String.toList_inj.mp same]
          apply List.mem_map_of_mem mem
        · apply fresh b (List.mem_cons_of_mem a mem)

theorem length_le_length_writeAttributes (attributes : List (String × String)) :
  attributes.length ≤ (writeAttributes attributes).length
  := by
  induction attributes with
  | nil => apply Nat.le_refl
  | cons a attributes ih =>
      simp only [writeAttributes_cons, List.length_append, List.length_cons, writeAttribute]
      omega

/-- The attributes of a tag are read back. -/
theorem attributes_writeTag {name : String} {attributes : List (String × String)}
    (h : IsName name.toList) (keys : ∀ a ∈ attributes, IsName a.1.toList)
    (distinct : (attributes.map (·.1)).Nodup) :
  Tag.attributes ⟨writeTag name attributes⟩ = (attributes.map writtenAttribute, none)
  := by
  have text : writeTag name attributes = name.toList ++ writeAttributes attributes := rfl
  have behind : (writeTag name attributes).drop name.toList.length
      = writeAttributes attributes := by
    rw [text]
    apply List.drop_left
  have enough : attributes.length < (writeTag name attributes).length + 1 := by
    have length := length_le_length_writeAttributes attributes
    rw [text, List.length_append]
    omega
  rw [Tag.attributes, name_writeTag attributes h]
  simp only [behind]
  apply readAttributes_writeAttributes _ keys distinct enough
  simp

end GroupInterfaces.Xml
