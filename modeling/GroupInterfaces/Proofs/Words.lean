import GroupInterfaces.Naming
import Mathlib

/-!
# Names word by word

The words of a name are what it has between characters that are neither letters nor numbers. What
is named after it is made of its words alone, each with its first character in upper case. So a name
in two parts with such a character between them is converted part by part, and it makes no
difference which characters stand between words, in front of them and behind them, or how many.
Nothing is lost of a word, since no upper case of a character is empty.
-/

namespace GroupInterfaces.Naming

open Text (isAlphanumeric uppercase)

/-- The words of a name. -/
def words (name : List Char) : List (List Char) :=
  (name.splitOnP (! isAlphanumeric ·)).filter (! ·.isEmpty)

/-- The word with its first character in upper case. -/
def capitalize : List Char → List Char
  | [] => []
  | c :: rest => uppercase c ++ rest

/-- No character of the text belongs to a word. -/
def Separates (cs : List Char) : Prop := ∀ c ∈ cs, ¬ isAlphanumeric c

instance (cs : List Char) : Decidable (Separates cs) :=
  decidable_of_iff (cs.all (! isAlphanumeric ·)) (by simp [Separates])

/-! ### Words -/

theorem words_nil :
  words [] = []
  := by simp [words]

/-- A character that belongs to no word parts the words. -/
theorem words_append_cons {c : Char} (apart : ¬ isAlphanumeric c) (as bs : List Char) :
  words (as ++ c :: bs) = words as ++ words bs
  := by
  rw [words, List.splitOnP_append_cons as bs (by simpa using apart), List.filter_append]
  rfl

theorem words_cons {c : Char} (apart : ¬ isAlphanumeric c) (cs : List Char) :
  words (c :: cs) = words cs
  := by
  simpa [words_nil] using words_append_cons apart [] cs

/-- There are no further words for what stands in front of all words. -/
theorem words_separator_append {s : List Char} (h : Separates s) (cs : List Char) :
  words (s ++ cs) = words cs
  := by
  induction s with
  | nil => rfl
  | cons c s ih =>
      obtain ⟨apart, h⟩ := List.forall_mem_cons.mp h
      rw [List.cons_append, words_cons apart, ih h]

/-- What stands between two names parts their words, if there is anything. -/
theorem words_append_separator_append {s : List Char} (h : Separates s) (nonempty : s ≠ [])
    (as bs : List Char) :
  words (as ++ s ++ bs) = words as ++ words bs
  := by
  obtain ⟨c, s, rfl⟩ := List.exists_cons_of_ne_nil nonempty
  obtain ⟨apart, h⟩ := List.forall_mem_cons.mp h
  rw [List.append_assoc, List.cons_append, words_append_cons apart, words_separator_append h]

/-- There are no further words for what stands behind all words. -/
theorem words_append_separator {s : List Char} (h : Separates s) (cs : List Char) :
  words (cs ++ s) = words cs
  := by
  by_cases empty : s = []
  · rw [empty, List.append_nil]
  · have parted := words_append_separator_append h empty cs []
    rwa [List.append_nil, words_nil, List.append_nil] at parted

/-! ### Words run together -/

/-- What is run together begins as the name does, within a word or in front of one, and goes on with
the words behind. -/
theorem joinWords_of_splitOnP {cs first : List Char} {others : List (List Char)}
    (split : cs.splitOnP (! isAlphanumeric ·) = first :: others) (start : Bool) :
  joinWords start cs
    = (if start then capitalize first else first) ++ others.flatMap capitalize
  := by
  induction cs generalizing first others start with
  | nil =>
      rw [List.splitOnP_nil] at split
      obtain ⟨rfl, rfl⟩ := List.cons.inj split
      simp [joinWords, capitalize]
  | cons c cs ih =>
      obtain ⟨first', others', rest⟩ :=
        List.exists_cons_of_ne_nil (List.splitOnP_ne_nil (! isAlphanumeric ·) cs)
      rw [List.splitOnP_cons_eq_if_modifyHead, rest] at split
      by_cases letter : isAlphanumeric c
      · rw [if_neg (by simpa using letter), List.modifyHead_cons] at split
        obtain ⟨rfl, rfl⟩ := List.cons.inj split
        rw [joinWords, if_pos letter, ih rest false]
        cases start with
        | false => rfl
        | true => simp [capitalize]
      · -- What stands in front of the character is empty, so the part behind begins a word.
        rw [if_pos (by simpa using letter)] at split
        obtain ⟨rfl, rfl⟩ := List.cons.inj split
        rw [joinWords, if_neg letter, ih rest true]
        simp [capitalize]

theorem flatMap_capitalize_filter (parts : List (List Char)) :
  (parts.filter (! ·.isEmpty)).flatMap capitalize = parts.flatMap capitalize
  := by
  induction parts with
  | nil => rfl
  | cons part parts ih =>
      cases part with
      | nil => simpa [capitalize] using ih
      | cons c rest => simpa using ih

/-- The words of a name are run together with the first character of each in upper case. -/
theorem joinWords_true (cs : List Char) :
  joinWords true cs = (words cs).flatMap capitalize
  := by
  obtain ⟨first, others, split⟩ :=
    List.exists_cons_of_ne_nil (List.splitOnP_ne_nil (! isAlphanumeric ·) cs)
  rw [joinWords_of_splitOnP split, words, flatMap_capitalize_filter, split]
  rfl

/-- No upper case is empty. -/
theorem uppercase_ne_nil (c : Char) :
  uppercase c ≠ []
  := by
  have sequences : ∀ e ∈ Text.upperSequences, e.2 ≠ [] := by decide +kernel
  rw [uppercase]
  split
  · next codes found => simpa using sequences _ (List.mem_of_find?_eq_some found)
  · apply List.cons_ne_nil

/-- Nothing is run together exactly if no character belongs to a word. -/
theorem joinWords_eq_nil_iff {start : Bool} {cs : List Char} :
  joinWords start cs = [] ↔ Separates cs
  := by
  rw [Separates]
  induction cs generalizing start with
  | nil => simp [joinWords]
  | cons c cs ih =>
      rw [joinWords, List.forall_mem_cons]
      by_cases letter : isAlphanumeric c
      · cases start with
        | false => simp [letter]
        | true => simp [letter, uppercase_ne_nil]
      · simp [letter, ih]

/-! ### Conversions -/

theorem propertyName_eq (name : String) :
  propertyName name = .ofList ((words name.toList).flatMap capitalize)
  := congrArg String.ofList (joinWords_true name.toList)

theorem className_eq_propertyName :
  className = propertyName
  := rfl

/-- Names with the same words name the same property. -/
theorem propertyName_congr {a b : String} (same : words a.toList = words b.toList) :
  propertyName a = propertyName b
  := by rw [propertyName_eq, propertyName_eq, same]

/-- The conversion goes word by word. -/
structure ByWords (convert : String → String) : Prop where
  /-- The words are run together with the first character of each in upper case. -/
  joins : ∀ name, convert name = .ofList ((words name.toList).flatMap capitalize)
  /-- A character that belongs to no word parts a name into two that are converted on their own. -/
  parts : ∀ (a b : String) (c : Char), ¬ isAlphanumeric c →
    convert (a.push c ++ b) = convert a ++ convert b
  /-- What stands in front of all words makes no difference. -/
  leading : ∀ s name : String, Separates s.toList → convert (s ++ name) = convert name
  /-- What stands behind all words makes no difference. -/
  trailing : ∀ s name : String, Separates s.toList → convert (name ++ s) = convert name
  /-- It makes no difference what stands between words, or how often. -/
  between : ∀ s s' a b : String, Separates s.toList → Separates s'.toList → s ≠ "" → s' ≠ "" →
    convert (a ++ s ++ b) = convert (a ++ s' ++ b)
  /-- Only a name in which no character belongs to a word is converted to nothing. -/
  eq_empty_iff : ∀ name, convert name = "" ↔ Separates name.toList

/-- Names are converted word by word, to those of properties and to those of classes. -/
theorem byWords_propertyName_and_className :
  ByWords propertyName ∧ ByWords className
  := by
  rw [className_eq_propertyName, and_self]
  constructor
  case joins => apply propertyName_eq
  case parts =>
    intro a b c apart
    simp only [propertyName_eq, String.toList_append, String.toList_push, List.append_assoc,
      List.singleton_append, words_append_cons apart, List.flatMap_append, String.ofList_append]
  case leading =>
    intro s name h
    apply propertyName_congr
    rw [String.toList_append, words_separator_append h]
  case trailing =>
    intro s name h
    apply propertyName_congr
    rw [String.toList_append, words_append_separator h]
  case between =>
    intro s s' a b h h' nonempty nonempty'
    apply propertyName_congr
    simp only [String.toList_append]
    rw [words_append_separator_append h (by simpa using nonempty),
      words_append_separator_append h' (by simpa using nonempty')]
  case eq_empty_iff =>
    intro name
    rw [propertyName, String.ofList_eq_empty_iff]
    apply joinWords_eq_nil_iff

/-- A first letter with two letters in upper case, separators of several kinds, and a name that has
nothing else. -/
theorem byWords_sample :
  propertyName ("first".push '-' ++ "ßname") = propertyName "first" ++ propertyName "ßname"
    ∧ propertyName "ßname" = "SSname"
    ∧ className ("-·" ++ "postal") = className "postal"
    ∧ className ("postal" ++ "__") = className "postal"
    ∧ className ("postal" ++ "_" ++ "code") = className ("postal" ++ ". -" ++ "code")
    ∧ propertyName "-_." = ""
  := by
  obtain ⟨properties, classes⟩ := byWords_propertyName_and_className
  refine ⟨?_, ?_, ?_, ?_, ?_, ?_⟩
  · apply properties.parts
    decide
  · rw [properties.joins]
    decide +kernel
  · apply classes.leading
    decide +kernel
  · apply classes.trailing
    decide +kernel
  · apply classes.between
    all_goals decide +kernel
  · apply (properties.eq_empty_iff _).mpr
    decide +kernel

end GroupInterfaces.Naming
