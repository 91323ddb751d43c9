import GroupInterfaces.Proofs.Annotations
import GroupInterfaces.Proofs.Forms

/-!
# Documents as forests

The tags of a document open and close elements, each of them within the one that is open around
it. A document that is read to its end is a forest of elements, and a walk over its tags goes
through the forest: into an element, through what is within it, and out of it again.
-/

namespace GroupInterfaces.Episode

open Xml (Event Markup)

/-- Elements in order, each of them with the elements within it. A tree is a forest of one
element. -/
inductive Forest where
  | nil
  | cons (e : Element) (within rest : Forest)

/-- The tags among some events are those of the elements of a forest. An element with nothing
within it may be a single tag. -/
inductive Spells : List (Event × Nat) → Forest → Prop where
  | nil : Spells [] .nil
  | skip {e : Event} {position : Nat} {events : List (Event × Nat)} {f : Forest}
      (noTag : e.isTag = false) (h : Spells events f) :
    Spells ((e, position) :: events) f
  | empty {tag : Xml.Tag} {position : Nat} {events : List (Event × Nat)} {e : Element}
      {rest : Forest} (read : readElement position tag = .ok e) (h : Spells events rest) :
    Spells ((.empty tag, position) :: events) (.cons e .nil rest)
  | element {tag : Xml.Tag} {position position' : Nat} {name : List Char}
      {inner events : List (Event × Nat)} {e : Element} {within rest : Forest}
      (read : readElement position tag = .ok e) (inside : Spells inner within)
      (h : Spells events rest) :
    Spells ((.start tag, position) :: (inner ++ (.close name, position') :: events))
      (.cons e within rest)

/-- Goes through the elements of a forest. -/
def Walk.through : Walk → Forest → Except Error Walk
  | w, .nil => pure w
  | w, .cons e within rest => do
    let w ← w.enter e
    let w ← w.through within
    let w ← w.leave
    w.through rest

/-- Walking over the tags of a forest is going through the forest. -/
theorem Spells.foldlM_step {events : List (Event × Nat)} {f : Forest} (h : Spells events f)
    (w : Walk) :
  events.foldlM Walk.step w = w.through f
  := by
  induction h generalizing w with
  | nil => rfl
  | skip noTag _ ih =>
      rw [List.foldlM_cons, Walk.step_of_isTag noTag, pure_bind]
      apply ih
  | empty read _ ih =>
      rw [List.foldlM_cons, Walk.step, read, Walk.through]
      change (w.enter _ >>= Walk.leave) >>= _ = _
      rw [bind_assoc]
      congr 1
      funext w'
      change _ = Walk.leave w' >>= _
      congr 1
      funext w''
      apply ih
  | element read _ _ ihInner ih =>
      rw [List.foldlM_cons, Walk.step, read, Walk.through]
      change w.enter _ >>= _ = _
      congr 1
      funext w'
      rw [List.foldlM_append, ihInner]
      congr 1
      funext w''
      rw [List.foldlM_cons]
      congr 1
      funext w'''
      apply ih

/-! ### Tags in pairs -/

/-- Elements are closed only while there are open ones, of which there are some in front. -/
def ClosesOpen : (opened : List (List Char)) → List (Event × Nat) → Prop
  | _, [] => True
  | opened, (e, _) :: events =>
    (∀ name, e = .close name → opened ≠ []) ∧ ClosesOpen (e.openedBehind opened) events

/-- A construct behind an exclamation mark is no tag. -/
theorem isTag_of_readMarked {kind : String} {closes : List Char → Bool}
    {event : List Char → Except Xml.MarkupError Event}
    (h : ∀ {content e}, event content = .ok e → e.isTag = false) {cs rest : List Char} {e : Event}
    {bytes : Nat} (read : Xml.readMarked kind closes event cs = .event e bytes rest) :
  e.isTag = false
  := by
  rw [Xml.readMarked] at read
  split at read
  · cases read
  · split at read
    · next made =>
        cases read
        apply h made
    · cases read

theorem isTag_of_readMark {cs rest : List Char} {e : Event} {bytes : Nat}
    (read : Xml.readMark cs = .event e bytes rest) :
  e.isTag = false
  := by
  rw [Xml.readMark] at read
  split at read
  · cases read
  · apply isTag_of_readMarked _ read
    intro content e made
    rw [Xml.cdataEvent] at made
    split at made
    · cases made
      rfl
    · cases made
  · apply isTag_of_readMarked _ read
    intro content e made
    rw [Xml.commentEvent] at made
    split at made
    · cases made
      rfl
    · cases made
  · split at read
    · apply isTag_of_readMarked _ read
      intro content e made
      rw [Xml.doctypeEvent] at made
      split at made
      · split at made
        · cases made
        · cases made
          rfl
      · cases made
    · cases read

/-- An end tag is read only within an element. -/
theorem opened_ne_nil_of_readConstruct {opened : List (List Char)} {cs rest name : List Char}
    {bytes : Nat} (read : Xml.readConstruct opened cs = .event (.close name) bytes rest) :
  opened ≠ []
  := by
  rintro rfl
  unfold Xml.readConstruct at read
  split at read
  · cases isTag_of_readMark read
  · cases read
  · simp only [Xml.readInstruction] at read
    split at read
    · cases read
    · cases read
  · simp only [Xml.readTag] at read
    split at read
    · cases read
    · split at read
      · cases read
      · cases read

/-- Reading closes only what is open. -/
theorem closesOpen_readFrom (fuel position : Nat) (opened : List (List Char))
    (before : List (Event × Nat)) (cs : List Char) :
  ∃ events, (Xml.readFrom fuel position opened before cs).events = before.reverse ++ events
    ∧ ClosesOpen opened events
  := by
  induction fuel generalizing position opened before cs with
  | zero =>
      use []
      simp [Xml.readFrom, ClosesOpen]
  | succ fuel ih =>
      cases cs with
      | nil =>
          use []
          simp [Xml.readFrom, ClosesOpen]
      | cons c cs =>
          by_cases bracket : c = '<'
          · subst bracket
            cases cs with
            | nil =>
                use []
                simp [Xml.readFrom, ClosesOpen]
            | cons c cs =>
                simp only [Xml.readFrom]
                split
                · use []
                  simp [ClosesOpen]
                · next e bytes rest read =>
                    obtain ⟨events, found, closes⟩ := ih (position + 1 + bytes)
                      (e.openedBehind opened) ((e, position + 1 + bytes) :: before) rest
                    use (e, position + 1 + bytes) :: events
                    rw [found, List.reverse_cons, List.append_assoc]
                    refine ⟨rfl, ?_, closes⟩
                    rintro name rfl
                    apply opened_ne_nil_of_readConstruct read
          · let raw := (c :: cs).takeWhile (· ≠ '<')
            let place := position + Xml.byteLength raw
            obtain ⟨events, found, closes⟩ := ih place opened ((.text raw, place) :: before)
              ((c :: cs).dropWhile (· ≠ '<'))
            rw [Xml.readFrom]
            · use (.text raw, place) :: events
              constructor
              · apply found.trans
                rw [List.reverse_cons, List.append_assoc]
                rfl
              · refine ⟨?_, closes⟩
                intro name same
                cases same
            · simp
            · intro rest same
              apply bracket (List.cons.inj same).1

theorem closesOpen_read (text : String) :
  ClosesOpen [] (Xml.read text).events
  := by
  have fromStart : ∀ cs, ClosesOpen [] (Xml.readFrom (cs.length + 1) 0 [] [] cs).events := by
    intro cs
    obtain ⟨events, found, closes⟩ := closesOpen_readFrom (cs.length + 1) 0 [] [] cs
    rw [found]
    apply closes
  apply fromStart

/-- Within a number of open elements, some events spell forests and close these elements, one
behind the other. -/
inductive Unwinds : Nat → List (Event × Nat) → Prop where
  | spelled {events : List (Event × Nat)} {f : Forest} (h : Spells events f) : Unwinds 0 events
  | close {n position : Nat} {name : List Char} {inner events : List (Event × Nat)} {f : Forest}
      (inside : Spells inner f) (h : Unwinds n events) :
    Unwinds (n + 1) (inner ++ (.close name, position) :: events)

namespace Unwinds

variable {n position : Nat} {events : List (Event × Nat)} {tag : Xml.Tag} {e : Element}

/-- What can stand in front of a forest can stand in front of one within open elements. -/
theorem append (front : List (Event × Nat)) (h : Unwinds n events)
    (spelled : ∀ {events f}, Spells events f → ∃ f', Spells (front ++ events) f') :
  Unwinds n (front ++ events)
  := by
  cases h with
  | spelled h =>
      obtain ⟨f', h'⟩ := spelled h
      apply Unwinds.spelled h'
  | close inside h =>
      obtain ⟨f', inside'⟩ := spelled inside
      rw [← List.append_assoc]
      apply Unwinds.close inside' h

theorem skip {e : Event} (noTag : e.isTag = false) (h : Unwinds n events) :
  Unwinds n ((e, position) :: events)
  := by
  apply h.append [(e, position)]
  intro events f h
  use f, h.skip noTag

theorem empty (read : readElement position tag = .ok e) (h : Unwinds n events) :
  Unwinds n ((.empty tag, position) :: events)
  := by
  apply h.append [(.empty tag, position)]
  intro events f h
  use .cons e .nil f, h.empty read

/-- A start tag opens the innermost of the elements that are closed. -/
theorem start (read : readElement position tag = .ok e) (h : Unwinds (n + 1) events) :
  Unwinds n ((.start tag, position) :: events)
  := by
  cases h with
  | @close _ position' name inner events within inside h =>
      have pair := h.append ((.start tag, position) :: (inner ++ [(.close name, position')]))
      rw [List.cons_append, List.append_assoc, List.singleton_append] at pair
      apply pair
      intro events f h
      use .cons e within f
      rw [List.cons_append, List.append_assoc, List.singleton_append]
      apply Spells.element read inside h

end Unwinds

theorem length_attach (interface : String) (stack : List Frame) :
  (attach interface stack).length = stack.length
  := by
  induction stack with
  | nil => rfl
  | cons frame stack ih =>
      rw [attach]
      split
      · rw [List.length_cons, List.length_cons, ih]
      · rfl

namespace Walk

variable {w w' : Walk} {e : Element} {tag : Xml.Tag} {position : Nat}

/-- An element that is gone into is open. -/
theorem length_stack_of_enter (h : w.enter e = .ok w') :
  w'.stack.length = w.stack.length + 1
  := by
  obtain ⟨frame, -, h⟩ := bind_inv h
  cases reference : e.reference? with
  | none =>
      rw [reference] at h
      cases h
      rfl
  | some interface =>
      rw [reference] at h
      cases h
      apply length_attach

theorem stack_of_leave (h : w.leave = .ok w') :
  w'.stack = w.stack.tail
  := by
  rw [leave] at h
  split at h
  · next outside =>
      cases h
      rw [outside, List.tail_nil]
  · next within =>
      rw [within, List.tail_cons]
      split at h
      · cases h
        rfl
      · split at h
        · cases h
          rfl
        · cases h

theorem step_start_inv (h : w.step (.start tag, position) = .ok w') :
  ∃ e, readElement position tag = .ok e ∧ w'.stack.length = w.stack.length + 1
  := by
  obtain ⟨e, read, entered⟩ := bind_inv h
  use e, read
  apply length_stack_of_enter entered

theorem step_empty_inv (h : w.step (.empty tag, position) = .ok w') :
  ∃ e, readElement position tag = .ok e ∧ w'.stack.length = w.stack.length
  := by
  obtain ⟨e, read, h⟩ := bind_inv h
  obtain ⟨w₁, entered, left⟩ := bind_inv h
  use e, read
  rw [stack_of_leave left, List.length_tail, length_stack_of_enter entered]
  rfl

end Walk

/-- A walk that ends outside of all elements has gone through forests, and has closed the elements
that were open. -/
theorem unwinds_of_foldlM_step {events : List (Event × Nat)} {opened : List (List Char)}
    {w w' : Walk} (h : events.foldlM Walk.step w = .ok w') (outside : w'.stack = [])
    (closes : ClosesOpen opened events) (depth : opened.length = w.stack.length) :
  Unwinds w.stack.length events
  := by
  induction events generalizing w opened with
  | nil =>
      cases h
      rw [outside]
      apply Unwinds.spelled Spells.nil
  | cons event events ih =>
      obtain ⟨e, position⟩ := event
      rw [List.foldlM_cons] at h
      obtain ⟨w₁, step, walk⟩ := bind_inv h
      obtain ⟨inside, closes⟩ := closes
      cases e with
      | start tag =>
          obtain ⟨e, read, deeper⟩ := Walk.step_start_inv step
          have rest := ih walk closes (by rw [deeper, ← depth]; rfl)
          rw [deeper] at rest
          apply rest.start read
      | empty tag =>
          obtain ⟨e, read, level⟩ := Walk.step_empty_inv step
          have rest := ih walk closes (by rw [level, ← depth]; rfl)
          rw [level] at rest
          apply rest.empty read
      | close name =>
          have higher : w₁.stack = w.stack.tail := Walk.stack_of_leave step
          have nonempty : opened.length ≠ 0 := mt List.length_eq_zero_iff.mp (inside name rfl)
          have length : w.stack.length = w₁.stack.length + 1 := by
            rw [higher, List.length_tail]
            omega
          have rest := ih walk closes (by
            change (opened.drop 1).length = _
            rw [List.length_drop]
            omega)
          rw [length]
          apply Unwinds.close Spells.nil rest
      | text raw | cdata content | doctype | aside =>
          cases step
          apply (ih walk closes depth).skip rfl

theorem readAnnotations_inv {document : Xml.Reading} {bindings : List Binding}
    (h : readAnnotations document = .ok bindings) :
  document.error = none ∧ ∃ w, document.events.foldlM Walk.step {} = .ok w ∧ w.stack = []
  := by
  obtain ⟨w, walk, h⟩ := bind_inv h
  cases fails : document.error with
  | some e =>
      rw [fails] at h
      cases h
  | none =>
      rw [fails] at h
      refine ⟨rfl, w, walk, ?_⟩
      by_contra inside
      have more : w.stack.isEmpty = false := by simpa using inside
      change (if w.stack.isEmpty then _ else _) = _ at h
      rw [more] at h
      cases h

/-- A document whose annotations are read is a forest of elements. -/
theorem exists_spells_of_readAnnotations {text : String} {bindings : List Binding}
    (h : readAnnotations (Xml.read text) = .ok bindings) :
  ∃ f, Spells (Xml.read text).events f
  := by
  obtain ⟨-, w, walk, outside⟩ := readAnnotations_inv h
  have unwinds := unwinds_of_foldlM_step walk outside (closesOpen_read text) rfl
  cases unwinds with
  | @spelled _ f h => use f, h

/-! ### Documents that are written -/

mutual

/-- The forest that begins with the element of markup. -/
def Forest.ofMarkup (rest : Forest) : Markup → Forest
  | .leaf name attributes => .cons (.written name attributes) .nil rest
  | .branch name attributes content =>
    .cons (.written name attributes) (Forest.ofContent content) rest

/-- The elements of markup in order. -/
def Forest.ofContent : List Markup → Forest
  | [] => .nil
  | m :: content => Forest.ofMarkup (Forest.ofContent content) m

end

theorem tags_append_inv {events : List (Event × Nat)} {es es' : List Event}
    (h : Xml.tags events = es ++ es') :
  ∃ front back, events = front ++ back ∧ Xml.tags front = es ∧ Xml.tags back = es'
  := by
  obtain ⟨_, _, split, rfl, rfl⟩ := List.filter_eq_append_iff.mp h
  obtain ⟨front, back, rfl, rfl, rfl⟩ := List.map_eq_append_iff.mp split
  exact ⟨front, back, rfl, rfl, rfl⟩

theorem tags_cons_inv {events : List (Event × Nat)} {e : Event} {es : List Event}
    (h : Xml.tags events = e :: es) :
  ∃ front position back, events = front ++ (e, position) :: back ∧ Xml.tags front = []
    ∧ Xml.tags back = es
  := by
  obtain ⟨_, _, split, noTags, -, rest⟩ := List.filter_eq_cons_iff.mp h
  obtain ⟨front, behind, rfl, rfl, last⟩ := List.map_eq_append_iff.mp split
  obtain ⟨⟨_, position⟩, back, rfl, rfl, rfl⟩ := List.map_eq_cons_iff.mp last
  refine ⟨front, position, back, rfl, ?_, rest⟩
  apply List.filter_eq_nil_iff.mpr noTags

/-- What is no tag does not count in front of a forest. -/
theorem Spells.behind {front events : List (Event × Nat)} {f : Forest}
    (noTags : Xml.tags front = []) (h : Spells events f) :
  Spells (front ++ events) f
  := by
  induction front with
  | nil => apply h
  | cons event front ih =>
      obtain ⟨e, position⟩ := event
      have none := List.filter_eq_nil_iff.mp noTags
      have first : e.isTag = false := by simpa using none e List.mem_cons_self
      apply Spells.skip first
      apply ih
      apply List.filter_eq_nil_iff.mpr
      intro e' mem
      apply none e' (List.mem_cons_of_mem e mem)

theorem spells_ofContent {content : List Markup}
    (h : ∀ m ∈ content, ∀ {events events' : List (Event × Nat)} {rest : Forest},
      Xml.tags events = m.events → Spells events' rest →
      Spells (events ++ events') (Forest.ofMarkup rest m))
    {events events' : List (Event × Nat)} (tags : Xml.tags events = Xml.contentEvents content)
    (noTags : Xml.tags events' = []) :
  Spells (events ++ events') (Forest.ofContent content)
  := by
  induction content generalizing events with
  | nil =>
      have last : Spells events' .nil := by
        rw [← List.append_nil events']
        apply Spells.nil.behind noTags
      apply last.behind tags
  | cons m content ih =>
      obtain ⟨first, others, rfl, tagsFirst, tagsOthers⟩ := tags_append_inv tags
      rw [List.append_assoc]
      apply h m List.mem_cons_self tagsFirst
      apply ih _ tagsOthers
      intro m' mem events events' rest
      apply h m' (List.mem_cons_of_mem m mem)

/-- The tags of markup spell its elements. -/
theorem spells_ofMarkup {m : Markup} (h : m.WellFormed) {events events' : List (Event × Nat)}
    {rest : Forest} (tags : Xml.tags events = m.events) (behind : Spells events' rest) :
  Spells (events ++ events') (Forest.ofMarkup rest m)
  := by
  induction h generalizing events events' rest with
  | leaf name keys distinct =>
      obtain ⟨front, position, back, rfl, noTags, noTags'⟩ := tags_cons_inv tags
      rw [List.append_assoc, List.cons_append]
      apply Spells.behind noTags
      apply Spells.empty (readElement_writeTag name keys distinct position)
      apply behind.behind noTags'
  | branch name keys distinct within ih =>
      obtain ⟨front, position, back, rfl, noTags, tagsBack⟩ := tags_cons_inv tags
      obtain ⟨inner, last, rfl, tagsInner, tagsLast⟩ := tags_append_inv tagsBack
      obtain ⟨gap, position', back, rfl, noTagsGap, noTags'⟩ := tags_cons_inv tagsLast
      rw [List.append_assoc, List.cons_append, ← List.append_assoc inner, List.append_assoc,
        List.cons_append]
      apply Spells.behind noTags
      apply Spells.element (readElement_writeTag name keys distinct position)
      · apply spells_ofContent ih tagsInner noTagsGap
      · apply behind.behind noTags'

/-- A document that is written is read without a mistake, and spells its element. -/
theorem spells_renderDocument {m : Markup} (h : m.WellFormed) :
  (Xml.read m.renderDocument).error = none
    ∧ Spells (Xml.read m.renderDocument).events (Forest.ofContent [m])
  := by
  obtain ⟨noError, tags⟩ := h.read_renderDocument
  use noError
  rw [← List.append_nil (Xml.read m.renderDocument).events]
  apply spells_ofMarkup h tags Spells.nil

end GroupInterfaces.Episode
