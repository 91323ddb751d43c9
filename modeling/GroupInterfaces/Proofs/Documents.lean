import GroupInterfaces.Proofs.Tags

/-!
# Documents as they are read back

Markup is written on lines with a tag each. Reading the document gives the tags in order, with
white space between them, and meets with no mistake.
-/

namespace GroupInterfaces.Xml

/-- The event is a tag. -/
def Event.isTag : Event → Bool
  | .start _ | .empty _ | .close _ => true
  | .text _ | .cdata _ | .doctype | .aside => false

/-- The tags among the events of a document. -/
def tags (events : List (Event × Nat)) : List Event := (events.map (·.1)).filter Event.isTag

/-- The event is a text of white space. -/
def Event.isBlank : Event → Bool
  | .text raw => raw.all isSpace
  | _ => false

/-- The events of a document apart from white space. -/
def solid (events : List (Event × Nat)) : List Event := (events.map (·.1)).filter (! ·.isBlank)

/-- Texts are no tags, so white space does not matter for them. -/
theorem filter_isTag_solid (events : List (Event × Nat)) :
  (solid events).filter Event.isTag = tags events
  := by
  rw [solid, List.filter_filter, tags]
  apply List.filter_congr
  intro e _
  cases e <;> simp [Event.isTag, Event.isBlank]

/-- Within open elements, reading a text to its end gives some events with white space between
them and meets with no mistake, whatever was read before. -/
def Yields (opened : List (List Char)) (cs : List Char) (es : List Event) : Prop :=
  ∀ fuel position before, cs.length < fuel → ∃ events position',
    readFrom fuel position opened before cs
      = { events := before.reverse ++ events, position := position', error := none }
    ∧ solid events = es

theorem Yields.nil (opened : List (List Char)) :
  Yields opened [] []
  := by
  intro fuel position before enough
  obtain ⟨fuel, rfl⟩ := Nat.exists_eq_succ_of_ne_zero (Nat.ne_of_gt enough)
  use [], position
  simp [readFrom, solid]

/-- A construct is read, and then what is behind it. -/
theorem Yields.construct {opened : List (List Char)} {cs rest : List Char} {e : Event}
    {bytes : Nat} {es : List Event} (read : readConstruct opened cs = .event e bytes rest)
    (shorter : rest.length < cs.length) (mark : e.isBlank = false)
    (h : Yields (e.openedBehind opened) rest es) :
  Yields opened ('<' :: cs) (e :: es)
  := by
  intro fuel position before enough
  obtain ⟨fuel, rfl⟩ := Nat.exists_eq_succ_of_ne_zero (Nat.ne_of_gt
    (Nat.lt_of_le_of_lt (Nat.zero_le _) enough))
  have fuelBehind : rest.length < fuel := by
    rw [List.length_cons] at enough
    omega
  obtain ⟨events, position', result, found⟩ := h fuel (position + 1 + bytes)
    ((e, position + 1 + bytes) :: before) fuelBehind
  use (e, position + 1 + bytes) :: events, position'
  constructor
  · obtain ⟨c, cs', rfl⟩ := List.exists_cons_of_length_pos (Nat.zero_lt_of_lt shorter)
    simp only [readFrom, read, result]
    simp
  · rw [← found]
    simp [solid, mark]

/-- White space in front of a construct does not count. -/
theorem Yields.text {opened : List (List Char)} {raw cs : List Char} {es : List Event}
    (blank : raw.all isSpace) (h : Yields opened ('<' :: cs) es) :
  Yields opened (raw ++ '<' :: cs) es
  := by
  cases raw with
  | nil => apply h
  | cons c raw =>
      intro fuel position before enough
      obtain ⟨fuel, rfl⟩ := Nat.exists_eq_succ_of_ne_zero (Nat.ne_of_gt
        (Nat.lt_of_le_of_lt (Nat.zero_le _) enough))
      have fuelBehind : ('<' :: cs).length < fuel := by
        rw [List.length_append, List.length_cons] at enough
        omega
      have passes : ∀ d ∈ c :: raw, decide (d ≠ '<') = true := by
        intro d mem
        apply decide_eq_true
        rintro rfl
        cases List.all_eq_true.mp blank '<' mem
      have other : c ≠ '<' := of_decide_eq_true (passes c List.mem_cons_self)
      obtain ⟨events, position', result, found⟩ := h fuel (position + byteLength (c :: raw))
        ((.text (c :: raw), position + byteLength (c :: raw)) :: before) fuelBehind
      use (.text (c :: raw), position + byteLength (c :: raw)) :: events, position'
      constructor
      · have front : ((c :: raw) ++ '<' :: cs).takeWhile (· ≠ '<') = c :: raw := by
          rw [List.takeWhile_append_of_pos passes]
          apply List.append_nil
        have behind : ((c :: raw) ++ '<' :: cs).dropWhile (· ≠ '<') = '<' :: cs := by
          rw [List.dropWhile_append_of_pos passes]
          rfl
        rw [List.cons_append] at front behind ⊢
        rw [readFrom]
        · simp only [front, behind, result]
          simp
        · simp
        · intro rest same
          apply other (List.cons.inj same).1
      · have skipped : Event.isBlank (.text (c :: raw)) = true := blank
        rw [← found]
        simp [solid, skipped]

/-! ### Constructs -/

theorem closingName_eq {name : List Char} (h : IsName name) :
  closingName name = name
  := by
  obtain ⟨front, c, split⟩ := (List.eq_nil_or_concat name).resolve_left h.ne_nil
  have plain : isSpace c = false := by
    apply isSpace_of_isMark (h.plain c _)
    simp [split]
  simp [closingName, split, plain]

/-- An end tag of the innermost open element is read back. -/
theorem readConstruct_close {name : List Char} (h : IsName name) (opened : List (List Char))
    (rest : List Char) :
  ∃ bytes, readConstruct (name :: opened) ('/' :: (name ++ '>' :: rest))
    = .event (.close name) bytes rest
  := by
  have passes : ∀ d ∈ '/' :: name, decide (d ≠ '>') = true := by
    intro d mem
    apply decide_eq_true
    rcases List.mem_cons.mp mem with rfl | mem
    · decide
    · apply ne_of_isMark (h.plain d mem) rfl
  have split : splitClosing ('/' :: name ++ '>' :: rest)
      = ('/' :: name, byteLength ('/' :: name) + 1, rest) := by
    simp only [splitClosing, List.takeWhile_append_of_pos passes,
      List.dropWhile_append_of_pos passes]
    simp
  use byteLength ('/' :: name) + 1
  rw [List.cons_append] at split
  simp only [readConstruct, readClose, split, List.drop_one, List.tail_cons, closingName_eq h]
  simp

section

variable {opened : List (List Char)} {rest : List Char} {es : List Event} {name : String}
  {attributes : List (String × String)}

theorem Yields.start (h : IsName name.toList) (keys : ∀ a ∈ attributes, IsName a.1.toList)
    (behind : Yields (name.toList :: opened) rest es) :
  Yields opened ('<' :: (writeTag name attributes ++ ['>'] ++ rest))
    (.start ⟨writeTag name attributes⟩ :: es)
  := by
  obtain ⟨bytes, read⟩ := readConstruct_start h keys opened rest
  rw [← name_writeTag attributes h] at behind
  rw [List.append_assoc, List.singleton_append]
  apply Yields.construct read _ rfl behind
  rw [List.length_append, List.length_cons]
  omega

theorem Yields.empty (h : IsName name.toList) (keys : ∀ a ∈ attributes, IsName a.1.toList)
    (behind : Yields opened rest es) :
  Yields opened ('<' :: (writeTag name attributes ++ ['/', '>'] ++ rest))
    (.empty ⟨writeTag name attributes⟩ :: es)
  := by
  obtain ⟨bytes, read⟩ := readConstruct_empty h keys opened rest
  rw [List.append_assoc]
  apply Yields.construct read _ rfl behind
  rw [List.length_append, List.length_cons, List.length_cons]
  omega

theorem Yields.close {name : List Char} (h : IsName name) (behind : Yields opened rest es) :
  Yields (name :: opened) ('<' :: ('/' :: name ++ ['>'] ++ rest)) (.close name :: es)
  := by
  obtain ⟨bytes, read⟩ := readConstruct_close h opened rest
  rw [List.append_assoc, List.singleton_append]
  apply Yields.construct read _ rfl behind
  rw [List.length_cons, List.length_append, List.length_cons]
  omega

end

/-- The line in front of a document is read as an instruction. -/
theorem readConstruct_declaration (opened : List (List Char)) (rest : List Char) :
  ∃ bytes, readConstruct opened (declaration.drop 1 ++ rest) = .event .aside bytes rest
  := ⟨_, rfl⟩

/-! ### Lines -/

/-- Markup with names for names and with keys of its own for every attribute of an element. -/
inductive Markup.WellFormed : Markup → Prop where
  | leaf {name : String} {attributes : List (String × String)} (h : IsName name.toList)
      (keys : ∀ a ∈ attributes, IsName a.1.toList) (distinct : (attributes.map (·.1)).Nodup) :
    WellFormed (.leaf name attributes)
  | branch {name : String} {attributes : List (String × String)} {content : List Markup}
      (h : IsName name.toList) (keys : ∀ a ∈ attributes, IsName a.1.toList)
      (distinct : (attributes.map (·.1)).Nodup) (within : ∀ m ∈ content, WellFormed m) :
    WellFormed (.branch name attributes content)

mutual

/-- The tags of an element. -/
def Markup.events : Markup → List Event
  | .leaf name attributes => [.empty ⟨writeTag name attributes⟩]
  | .branch name attributes content =>
    .start ⟨writeTag name attributes⟩ :: contentEvents content ++ [.close name.toList]

/-- The tags of elements. -/
def contentEvents : List Markup → List Event
  | [] => []
  | m :: rest => m.events ++ contentEvents rest

end

/-- Lines behind another one. -/
def behindLines (lines : List (List Char)) : List Char := lines.flatMap ('\n' :: ·)

theorem behindLines_append (lines lines' : List (List Char)) :
  behindLines (lines ++ lines') = behindLines lines ++ behindLines lines'
  := List.flatMap_append

theorem toList_joinLines_cons (first : List Char) (lines : List (List Char)) :
  (joinLines (first :: lines)).toList = first ++ behindLines lines
  := by
  rw [joinLines, String.toList_ofList]
  induction lines generalizing first with
  | nil => simp [behindLines]
  | cons l lines ih =>
      rw [List.intersperse_cons_cons, List.flatten_cons, List.flatten_cons, ih]
      rfl

/-- A construct at the beginning of a line behind another one. -/
theorem Yields.line {opened : List (List Char)} (depth : Nat) {cs rest : List Char}
    {lines : List (List Char)} {es : List Event}
    (h : Yields opened ('<' :: (cs ++ (behindLines lines ++ rest))) es) :
  Yields opened (behindLines (Xml.line depth ('<' :: cs) :: lines) ++ rest) es
  := by
  have blank : ('\n' :: List.replicate (2 * depth) ' ').all isSpace := by
    apply List.all_eq_true.mpr
    intro c mem
    rcases List.mem_cons.mp mem with rfl | mem
    · rfl
    · rw [(List.mem_replicate.mp mem).2]
      rfl
  have text : behindLines (Xml.line depth ('<' :: cs) :: lines) ++ rest
      = ('\n' :: List.replicate (2 * depth) ' ')
        ++ '<' :: (cs ++ (behindLines lines ++ rest)) := by
    simp [behindLines, Xml.line]
  rw [text]
  apply Yields.text blank h

/-- The lines of several elements give their tags if those of each do. -/
theorem yields_contentLines {content : List Markup} {depth : Nat} {opened : List (List Char)}
    (h : ∀ m ∈ content, ∀ {rest es}, Yields opened rest es →
      Yields opened (behindLines (m.lines depth) ++ rest) (m.events ++ es))
    {rest : List Char} {es : List Event} (behind : Yields opened rest es) :
  Yields opened (behindLines (Markup.contentLines depth content) ++ rest)
    (contentEvents content ++ es)
  := by
  induction content with
  | nil => apply behind
  | cons m content ih =>
      rw [Markup.contentLines, contentEvents, behindLines_append, List.append_assoc,
        List.append_assoc]
      apply h m List.mem_cons_self
      apply ih
      intro m' mem rest es
      apply h m' (List.mem_cons_of_mem m mem)

/-- Markup has a construct for its first line, and its lines give its tags. -/
theorem Markup.WellFormed.exists_yields {m : Markup} (h : m.WellFormed) (depth : Nat)
    {opened : List (List Char)} {rest : List Char} {es : List Event}
    (behind : Yields opened rest es) :
  ∃ cs lines, m.lines depth = line depth ('<' :: cs) :: lines
    ∧ Yields opened ('<' :: (cs ++ (behindLines lines ++ rest))) (m.events ++ es)
  := by
  induction h generalizing depth opened rest es with
  | leaf name keys distinct =>
      rename_i n attributes
      use writeTag n attributes ++ ['/', '>'], [], rfl
      apply Yields.empty name keys behind
  | branch name keys distinct within ih =>
      rename_i n attributes content
      have closes : Yields (n.toList :: opened)
          (behindLines [line depth ('<' :: '/' :: n.toList ++ ['>'])] ++ rest)
          (.close n.toList :: es) := by
        apply Yields.line
        apply Yields.close name behind
      have whole : Yields (n.toList :: opened) (behindLines (contentLines (depth + 1) content)
          ++ (behindLines [line depth ('<' :: '/' :: n.toList ++ ['>'])] ++ rest))
          (contentEvents content ++ .close n.toList :: es) := by
        apply yields_contentLines _ closes
        intro m mem rest es behind
        obtain ⟨cs, lines, shape, yields⟩ := ih m mem (depth + 1) behind
        rw [shape]
        apply Yields.line _ yields
      use writeTag n attributes ++ ['>'], contentLines (depth + 1) content
        ++ [line depth ('<' :: '/' :: n.toList ++ ['>'])], rfl
      have tags : (Markup.branch n attributes content).events ++ es
          = .start ⟨writeTag n attributes⟩ :: (contentEvents content ++ .close n.toList :: es) := by
        simp [Markup.events]
      rw [tags, behindLines_append, List.append_assoc (behindLines _)]
      apply Yields.start name keys whole

/-- The lines of markup behind another one give its tags. -/
theorem Markup.WellFormed.yields_lines {m : Markup} (h : m.WellFormed) (depth : Nat)
    {opened : List (List Char)} {rest : List Char} {es : List Event}
    (behind : Yields opened rest es) :
  Yields opened (behindLines (m.lines depth) ++ rest) (m.events ++ es)
  := by
  obtain ⟨cs, lines, shape, yields⟩ := h.exists_yields depth behind
  rw [shape]
  apply Yields.line _ yields

mutual

theorem Markup.isTag_of_mem_events (m : Markup) :
  ∀ e ∈ m.events, e.isTag
  := by
  cases m with
  | leaf name attributes =>
      intro e mem
      obtain rfl := List.mem_singleton.mp mem
      rfl
  | branch name attributes content =>
      have inside := isTag_of_mem_contentEvents content
      intro e mem
      rw [Markup.events, List.cons_append, List.mem_cons, List.mem_append,
        List.mem_singleton] at mem
      rcases mem with rfl | mem | rfl
      · rfl
      · apply inside e mem
      · rfl

theorem isTag_of_mem_contentEvents (content : List Markup) :
  ∀ e ∈ contentEvents content, e.isTag
  := by
  cases content with
  | nil =>
      intro e mem
      cases mem
  | cons m content =>
      have first := m.isTag_of_mem_events
      have others := isTag_of_mem_contentEvents content
      intro e mem
      rcases List.mem_append.mp mem with mem | mem
      · apply first e mem
      · apply others e mem

end

/-! ### Texts -/

/-- A text that begins with a construct is read to its end. -/
theorem Yields.read {text : String} {cs : List Char} {es : List Event}
    (begins : text.toList = '<' :: cs) (h : Yields [] ('<' :: cs) es) :
  (read text).error = none ∧ solid (read text).events = es
  := by
  obtain ⟨events, position, result, found⟩ := h _ 0 [] (Nat.lt_succ_self _)
  have whole : Xml.read text = { events, position, error := none } := by
    rw [Xml.read, begins]
    apply result
  rw [whole]
  exact ⟨rfl, found⟩

/-- Reading a document gives the tags of its markup and meets with no mistake. -/
theorem Markup.WellFormed.read_renderDocument {m : Markup} (h : m.WellFormed) :
  (read m.renderDocument).error = none ∧ tags (read m.renderDocument).events = m.events
  := by
  obtain ⟨bytes, declared⟩ := readConstruct_declaration [] (behindLines (m.lines 0))
  have body := h.yields_lines 0 (Yields.nil [])
  rw [List.append_nil, List.append_nil] at body
  have text : (m.renderDocument).toList
      = '<' :: (declaration.drop 1 ++ behindLines (m.lines 0)) := toList_joinLines_cons _ _
  have yields : Yields [] ('<' :: (declaration.drop 1 ++ behindLines (m.lines 0)))
      (.aside :: m.events) := by
    apply Yields.construct (e := .aside) declared _ rfl body
    rw [List.length_append]
    apply Nat.lt_add_of_pos_left
    decide +kernel
  obtain ⟨noError, found⟩ := yields.read text
  use noError
  rw [← filter_isTag_solid, found]
  change m.events.filter Event.isTag = m.events
  apply List.filter_eq_self.mpr m.isTag_of_mem_events

/-- Reading markup gives its tags with nothing but white space between them, and meets with no
mistake. -/
theorem Markup.WellFormed.read_render {m : Markup} (h : m.WellFormed) :
  (read m.render).error = none ∧ solid (read m.render).events = m.events
  := by
  obtain ⟨cs, lines, shape, yields⟩ := h.exists_yields 0 (Yields.nil [])
  rw [List.append_nil, List.append_nil] at yields
  have text : m.render.toList = '<' :: (cs ++ behindLines lines) := by
    rw [Markup.render, shape, toList_joinLines_cons]
    rfl
  apply yields.read text

end GroupInterfaces.Xml
