import GroupInterfaces.Naming
import Mathlib

/-!
# Legal names of packages

Whatever segments a namespace has, those of its package are identifiers of small letters of the
English alphabet, digits and underscores, and none of them is a keyword that is spelled with letters.
The literals are not among the words that are moved behind an underscore, and neither is the
underscore. So a package is legal exactly if no segment of its namespace is a literal, in whatever
case, or a single character for which an underscore is put.
-/

namespace GroupInterfaces.Naming

/-! ### Segments that can be used -/

/-- The keywords of the generated language. -/
def keywords : List String :=
  -- Types of plain values.
  ["boolean", "byte", "char", "double", "float", "int", "long", "short", "void",
    -- Declarations of types, and how they refer to types and objects.
    "class", "enum", "extends", "implements", "import", "instanceof", "interface", "new",
    "package", "super", "this", "throws",
    -- Modifiers.
    "abstract", "const", "default", "final", "native", "private", "protected", "public",
    "static", "strictfp", "synchronized", "transient", "volatile",
    -- Statements.
    "assert", "break", "case", "catch", "continue", "do", "else", "finally", "for", "goto",
    "if", "return", "switch", "throw", "try", "while",
    -- The name of what is not named.
    "_"]

/-- The words of the generated language that stand for values. -/
def literals : List String := ["true", "false", "null"]

/-- The character may begin a segment of a package. -/
def IsInitial (c : Char) : Prop := c.isLower ∨ c = '_'

instance (c : Char) : Decidable (IsInitial c) := inferInstanceAs (Decidable (_ ∨ _))

/-- The text is an identifier as packages have them. -/
def IsIdentifier (w : String) : Prop :=
  (∃ c ∈ w.toList.head?, IsInitial c) ∧ ∀ c ∈ w.toList, IsInitial c ∨ c.isDigit

/-- The text can be used as a segment of a package. -/
structure IsUsable (w : String) : Prop where
  identifier : IsIdentifier w
  keyword : w ∉ keywords
  literal : w ∉ literals

/-- The segments of a package. -/
def segments (package : String) : List String := (Text.splitAt '.' package.toList).map .ofList

/-! ### Characters -/

theorem toNat_lt_of_isAlphanum {c : Char} (h : c.isAlphanum) :
  c.toNat < 128
  := by
  simp only [Char.isAlphanum, Char.isAlpha, Char.isUpper, Char.isLower, Char.isDigit,
    Bool.or_eq_true, Bool.and_eq_true, decide_eq_true_eq, UInt32.le_iff_toNat_le, ge_iff_le] at h
  change ((65 ≤ c.toNat ∧ c.toNat ≤ 90) ∨ 97 ≤ c.toNat ∧ c.toNat ≤ 122)
    ∨ 48 ≤ c.toNat ∧ c.toNat ≤ 57 at h
  omega

/-- A letter of the English alphabet or a digit can stand in a segment in lower case. -/
theorem initial_or_isDigit_toLower {c : Char} (h : c.isAlphanum) :
  IsInitial c.toLower ∨ c.toLower.isDigit
  := by
  have all : ∀ n < 128, (Char.ofNat n).isAlphanum →
      IsInitial (Char.ofNat n).toLower ∨ (Char.ofNat n).toLower.isDigit := by
    decide +kernel
  have bound : c.toNat < 128 := toNat_lt_of_isAlphanum h
  rw [← Char.ofNat_toNat c] at h ⊢
  apply all _ bound h

theorem toLower_eq_self {c : Char} (h : ¬ c.isAlphanum) :
  c.toLower = c
  := by
  rw [Char.toLower, dif_neg]
  intro upper
  apply h
  simp only [Char.isAlphanum, Char.isAlpha, Char.isUpper, upper, and_self, decide_true,
    Bool.true_or]

/-- What is put for a character. -/
theorem packageChar_cases (c : Char) :
  c.isAlphanum ∧ packageChar c = [c.toLower]
    ∨ ¬ c.isAlphanum
      ∧ (packageChar c = ['i', '_'] ∨ packageChar c = ['k'] ∨ packageChar c = ['_'])
  := by
  simp only [packageChar]
  split_ifs with plain
  all_goals simp [plain]

theorem initial_or_isDigit_of_mem_packageChar {c d : Char} (mem : d ∈ packageChar c) :
  IsInitial d ∨ d.isDigit
  := by
  rcases packageChar_cases c with ⟨plain, put⟩ | ⟨-, put⟩
  · rw [put, List.mem_singleton] at mem
    rw [mem]
    apply initial_or_isDigit_toLower plain
  · have all : ∀ d ∈ ['i', '_', 'k'], IsInitial d := by simp [IsInitial]
    have part : packageChar c ⊆ ['i', '_', 'k'] := by
      rcases put with put | put | put
      all_goals simp [put]
    apply Or.inl (all _ (part mem))

theorem packageChar_ne_nil (c : Char) :
  packageChar c ≠ []
  := by
  rcases packageChar_cases c with ⟨-, put⟩ | ⟨-, put | put | put⟩
  all_goals
    rw [put]
    apply List.cons_ne_nil

/-- A word of small letters, other than the two that are also put for letters beyond the English
alphabet, is put for the word in any case and for nothing else. -/
theorem flatMap_packageChar_eq_iff {raw word : List Char}
    (plain : ∀ d ∈ word, d.isLower ∧ d ≠ 'i' ∧ d ≠ 'k') :
  raw.flatMap packageChar = word ↔ raw.map Char.toLower = word
  := by
  induction raw generalizing word with
  | nil => rfl
  | cons c raw ih =>
      cases word with
      | nil => simp [packageChar_ne_nil]
      | cons d word =>
          obtain ⟨⟨small, ne_i, ne_k⟩, plain⟩ := List.forall_mem_cons.mp plain
          rw [List.flatMap_cons, List.map_cons]
          rcases packageChar_cases c with ⟨-, put⟩ | ⟨other, put⟩
          · rw [put, List.singleton_append, List.cons.injEq, List.cons.injEq, ih plain]
          · have ne : d ≠ '_' := by
              rintro rfl
              cases small
            apply iff_of_false
            · rcases put with put | put | put
              all_goals
                rw [put]
                rintro ⟨⟩
                contradiction
            · rw [toLower_eq_self other]
              rintro ⟨⟩
              apply other
              simp [Char.isAlphanum, Char.isAlpha, small]

/-! ### Segments -/

/-- The segment is a literal, in any case. -/
def SpellsLiteral (raw : List Char) : Prop := String.ofList (raw.map Char.toLower) ∈ literals

/-- The segment is a single character, for which an underscore is put. -/
def IsMark (raw : List Char) : Prop := ∃ c, raw = [c] ∧ packageChar c = ['_']

/-- What is put for a segment is moved behind an underscore, or is no word that has to be. -/
theorem packageSegment?_inv {raw : List Char} {w : String} (h : packageSegment? raw = some w) :
  ∃ c rest, raw.flatMap packageChar = c :: rest
    ∧ ((c.isDigit ∨ String.ofList (c :: rest) ∈ reservedWords) ∧ w = "_" ++ String.ofList (c :: rest)
      ∨ ¬ c.isDigit ∧ String.ofList (c :: rest) ∉ reservedWords ∧ w = String.ofList (c :: rest))
  := by
  rw [packageSegment?] at h
  split at h
  · cases h
  · next c rest put =>
      have moved_iff : (c.isDigit || reservedWords.contains (String.ofList (c :: rest))) = true
          ↔ c.isDigit ∨ String.ofList (c :: rest) ∈ reservedWords := by
        rw [Bool.or_eq_true, List.contains_iff_mem]
      use c, rest, put
      dsimp only at h
      split at h
      · next moved => exact Or.inl ⟨moved_iff.mp moved, (Option.some.inj h).symm⟩
      · next kept =>
          rw [moved_iff, not_or] at kept
          exact Or.inr ⟨kept.1, kept.2, (Option.some.inj h).symm⟩

variable {raw : List Char} {w : String}

theorem toList_moved (c : Char) (rest : List Char) :
  ("_" ++ String.ofList (c :: rest)).toList = '_' :: c :: rest
  := by
  rw [String.toList_append, String.toList_ofList]
  simp

theorem isIdentifier_of_packageSegment? (h : packageSegment? raw = some w) :
  IsIdentifier w
  := by
  obtain ⟨c, rest, put, cases⟩ := packageSegment?_inv h
  have legal : ∀ d ∈ c :: rest, IsInitial d ∨ d.isDigit := by
    rw [← put]
    intro d mem
    obtain ⟨b, -, mem⟩ := List.mem_flatMap.mp mem
    apply initial_or_isDigit_of_mem_packageChar mem
  rcases cases with ⟨-, rfl⟩ | ⟨kept, -, rfl⟩
  · rw [IsIdentifier, toList_moved]
    constructor
    · use '_', rfl
      apply Or.inr rfl
    · rw [List.forall_mem_cons]
      exact ⟨Or.inl (Or.inr rfl), legal⟩
  · rw [IsIdentifier, String.toList_ofList]
    constructor
    · use c, rfl
      apply (legal c List.mem_cons_self).resolve_right kept
    · apply legal

/-- A segment that is moved behind an underscore is none of the words that are not names. -/
theorem moved_notMem (c : Char) (rest : List Char) :
  "_" ++ String.ofList (c :: rest) ∉ keywords ++ literals
  := by
  have words : ∀ k ∈ keywords ++ literals, k.toList.head? = some '_' → k.toList.tail = [] := by
    decide +kernel
  intro mem
  have tail := words _ mem
  rw [toList_moved] at tail
  cases tail rfl

/-- No segment is a keyword that is spelled with letters. -/
theorem eq_of_mem_keywords (h : packageSegment? raw = some w) (mem : w ∈ keywords) :
  w = "_"
  := by
  have words : ∀ k ∈ keywords, k ∈ reservedWords ∨ k = "_" := by decide +kernel
  obtain ⟨c, rest, put, ⟨-, rfl⟩ | ⟨-, kept, rfl⟩⟩ := packageSegment?_inv h
  · apply absurd (List.mem_append_left _ mem) (moved_notMem c rest)
  · apply (words _ mem).resolve_left kept

theorem spellsLiteral_iff :
  SpellsLiteral raw ↔ String.ofList (raw.flatMap packageChar) ∈ literals
  := by
  have words : ∀ l ∈ literals, ∀ d ∈ l.toList, d.isLower ∧ d ≠ 'i' ∧ d ≠ 'k' := by
    simp [literals]
  have same : ∀ cs : List Char, String.ofList cs ∈ literals ↔ ∃ l ∈ literals, cs = l.toList := by
    intro cs
    constructor
    · intro mem
      exact ⟨_, mem, String.toList_ofList.symm⟩
    · rintro ⟨l, mem, rfl⟩
      rwa [String.ofList_toList]
  rw [SpellsLiteral, same, same]
  apply exists_congr
  intro l
  apply and_congr_right
  intro mem
  apply (flatMap_packageChar_eq_iff (words l mem)).symm

theorem isMark_iff :
  IsMark raw ↔ raw.flatMap packageChar = ['_']
  := by
  constructor
  · rintro ⟨c, rfl, put⟩
    simpa using put
  · intro put
    cases raw with
    | nil => cases put
    | cons c rest =>
        rw [List.flatMap_cons] at put
        obtain ⟨d, ds, nonempty⟩ := List.exists_cons_of_ne_nil (packageChar_ne_nil c)
        rw [nonempty, List.cons_append, List.cons.injEq, List.append_eq_nil_iff] at put
        obtain ⟨rfl, rfl, rest_put⟩ := put
        have empty : rest = [] := by
          apply List.eq_nil_iff_forall_not_mem.mpr
          intro b mem
          apply packageChar_ne_nil b (List.flatMap_eq_nil_iff.mp rest_put b mem)
        use c
        rw [empty, nonempty]
        exact ⟨rfl, rfl⟩

/-- Where nothing is put for a segment, it is no word that is missed. -/
theorem not_missed_of_packageSegment?_eq_none (h : packageSegment? raw = none) :
  ¬ SpellsLiteral raw ∧ ¬ IsMark raw
  := by
  have empty : raw.flatMap packageChar = [] := by
    rw [packageSegment?] at h
    split at h
    · next none_put => apply none_put
    · cases h
  rw [spellsLiteral_iff, isMark_iff, empty]
  decide

/-- A segment can be used exactly if it was no literal and no single character that is unknown to
packages. -/
theorem isUsable_iff (h : packageSegment? raw = some w) :
  IsUsable w ↔ ¬ SpellsLiteral raw ∧ ¬ IsMark raw
  := by
  rw [spellsLiteral_iff, isMark_iff]
  have identifier := isIdentifier_of_packageSegment? h
  have keyword := eq_of_mem_keywords h
  obtain ⟨c, rest, put, ⟨moved, rfl⟩ | ⟨-, -, rfl⟩⟩ := packageSegment?_inv h
  · -- What is moved is none of the words that are missed.
    have missed : ∀ l ∈ "_" :: literals,
        l ∉ reservedWords ∧ l.toList.head?.any Char.isDigit = false := by
      decide +kernel
    have other : String.ofList (c :: rest) ∉ "_" :: literals := by
      intro mem
      obtain ⟨free, letter⟩ := missed _ mem
      rw [String.toList_ofList, List.head?_cons, Option.any_some] at letter
      rcases moved with digit | reserved
      · rw [digit] at letter
        cases letter
      · apply free reserved
    have new := moved_notMem c rest
    rw [List.mem_append, not_or] at new
    rw [List.mem_cons, not_or] at other
    apply iff_of_true
    · exact ⟨identifier, new.1, new.2⟩
    · rw [put]
      use other.2
      intro mark
      apply other.1
      rw [mark]
  · rw [put]
    constructor
    · rintro ⟨-, free, plain⟩
      use plain
      intro mark
      apply free
      rw [mark]
      decide
    · rintro ⟨plain, unmarked⟩
      refine ⟨identifier, ?_, plain⟩
      intro mem
      apply unmarked
      rw [← String.toList_ofList (l := c :: rest), keyword mem]
      decide

/-! ### Packages -/

theorem segments_ne_nil (package : String) :
  segments package ≠ []
  := by
  rw [segments, Text.splitAt, List.map_cons]
  apply List.cons_ne_nil

theorem IsIdentifier.dot_notMem (h : IsIdentifier w) :
  '.' ∉ w.toList
  := by
  intro mem
  have legal := h.2 '.' mem
  revert legal
  decide

/-- Whatever the segments of a namespace are, those of the package are what is put for them. -/
theorem segments_intercalate {raws : List (List Char)}
    (some_put : raws.filterMap packageSegment? ≠ []) :
  segments (".".intercalate (raws.filterMap packageSegment?)) = raws.filterMap packageSegment?
  := by
  have separate : ∀ cs ∈ (raws.filterMap packageSegment?).map String.toList, '.' ∉ cs := by
    intro cs mem
    obtain ⟨w, segment, rfl⟩ := List.mem_map.mp mem
    obtain ⟨raw, -, put⟩ := List.mem_filterMap.mp segment
    apply (isIdentifier_of_packageSegment? put).dot_notMem
  have dot : ".".toList = ['.'] := by decide
  rw [segments, String.toList_intercalate, dot, Text.splitAt_eq_splitOn,
    List.splitOn_intercalate _ separate (by simpa using some_put), List.map_map]
  simp

/-- The segments of a namespace for which the parser of addresses gives some answer. -/
def answeredSegments (space : String) : Except Url.Error Url → List (List Char)
  | .error _ => plainSegments space.toList
  | .ok url =>
    if url.scheme = "urn" then Text.splitAt ':' url.path.toList
    else
      match url.host with
      | none => plainSegments space.toList
      | some host =>
        hostSegments host
          ++ (((url.pathSegments?.getD []).map String.toList).filter (! ·.isEmpty)).map
            stripFileEnding

/-- The package for a namespace for which the parser of addresses gives some answer. -/
def answeredPackage? (space : String) (answer : Except Url.Error Url) : Option String :=
  if space = "" then none
  else
    match (answeredSegments space answer).filterMap packageSegment? with
    | [] => none
    | segments => some (".".intercalate segments)

/-- The package of a namespace is the one for what the parser does answer. -/
theorem packageName?_eq (space : String) :
  packageName? space = answeredPackage? (Text.trim space) (Url.parse (Text.trim space))
  := by
  have same : ∀ space, namespaceSegments space = answeredSegments space (Url.parse space) := by
    intro space
    rw [namespaceSegments]
    cases Url.parse space with
    | error e => rfl
    | ok url => rfl
  rw [packageName?, same]
  unfold answeredPackage?
  generalize (answeredSegments (Text.trim space) (Url.parse (Text.trim space))).filterMap
    packageSegment? = put
  cases put with
  | nil => rfl
  | cons w rest => rfl

theorem segments_answeredPackage? {space package : String} {answer : Except Url.Error Url}
    (h : answeredPackage? space answer = some package) :
  segments package = (answeredSegments space answer).filterMap packageSegment?
  := by
  simp only [answeredPackage?] at h
  split at h
  · cases h
  · split at h
    · cases h
    · next some_put =>
        obtain rfl := Option.some.inj h
        apply segments_intercalate
        intro none_put
        apply some_put none_put

/-- Whatever the parser of addresses answers for a namespace, every segment of its package is an
identifier, and no keyword that is spelled with letters. The package is legal exactly if no segment
of the namespace is a literal, in whatever case, or a single character for which an underscore is
put. -/
theorem isUsable_segments_iff (space : String) :
  packageName? space = answeredPackage? (Text.trim space) (Url.parse (Text.trim space))
    ∧ ∀ {answer : Except Url.Error Url} {package : String},
      answeredPackage? (Text.trim space) answer = some package →
      segments package ≠ []
        ∧ (∀ w ∈ segments package, IsIdentifier w ∧ (w ∈ keywords → w = "_"))
        ∧ ((∀ w ∈ segments package, IsUsable w)
          ↔ ∀ raw ∈ answeredSegments (Text.trim space) answer,
            ¬ SpellsLiteral raw ∧ ¬ IsMark raw)
  := by
  use packageName?_eq space
  intro answer package h
  refine ⟨segments_ne_nil package, ?_, ?_⟩
  · intro w mem
    rw [segments_answeredPackage? h] at mem
    obtain ⟨raw, -, put⟩ := List.mem_filterMap.mp mem
    exact ⟨isIdentifier_of_packageSegment? put, eq_of_mem_keywords put⟩
  · rw [segments_answeredPackage? h]
    constructor
    · intro legal raw mem
      cases put : packageSegment? raw with
      | none => apply not_missed_of_packageSegment?_eq_none put
      | some w =>
          apply (isUsable_iff put).mp
          apply legal w (List.mem_filterMap.mpr ⟨raw, mem, put⟩)
    · intro known w mem
      obtain ⟨raw, mem_raw, put⟩ := List.mem_filterMap.mp mem
      apply (isUsable_iff put).mpr (known raw mem_raw)

/-- A keyword is moved behind an underscore. -/
theorem isUsable_segments_class :
  packageName? "urn:Sample:class" = some "sample._class"
    ∧ ∀ w ∈ segments "sample._class", IsUsable w
  := by
  have package : packageName? "urn:Sample:class" = some "sample._class" := by decide +kernel
  use package
  obtain ⟨answered, legal⟩ := isUsable_segments_iff "urn:Sample:class"
  rw [answered] at package
  apply (legal package).2.2.mpr
  have raws : answeredSegments (Text.trim "urn:Sample:class")
      (Url.parse (Text.trim "urn:Sample:class")) = ["Sample".toList, "class".toList] := by
    decide +kernel
  rw [raws]
  simp only [spellsLiteral_iff, isMark_iff]
  decide +kernel

/-- A literal is not. -/
theorem not_isUsable_true :
  packageName? "urn:sample:true" = some "sample.true" ∧ "true" ∈ segments "sample.true"
    ∧ ¬ IsUsable "true"
  := by
  refine ⟨by decide +kernel, by decide +kernel, ?_⟩
  intro usable
  apply usable.literal
  decide

end GroupInterfaces.Naming
