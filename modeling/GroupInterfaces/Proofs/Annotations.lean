import GroupInterfaces.Episode.Reader
import GroupInterfaces.Proofs.Documents

/-!
# Walks over documents that are read back

The walk over the tags of a document that was written goes as a walk over its markup: into an
element, through what is within it, and out of it.
-/

namespace GroupInterfaces.Episode

open Xml (Markup Event)

/-- The element of a name and attributes. -/
def Element.written (name : String) (attributes : List (String × String)) : Element where
  localName := .ofList (Xml.localName name.toList)
  attributes := attributes

namespace Walk

mutual

/-- Goes through an element. -/
def visit (w : Walk) : Markup → Except Error Walk
  | .leaf name attributes => do
    let w ← w.enter (.written name attributes)
    w.leave
  | .branch name attributes content => do
    let w ← w.enter (.written name attributes)
    let w ← w.visitAll content
    w.leave

/-- Goes through elements in order. -/
def visitAll (w : Walk) : List Markup → Except Error Walk
  | [] => pure w
  | m :: rest => do
    let w ← w.visit m
    w.visitAll rest

end

end Walk

/-! ### Elements -/

theorem readValues_writtenAttribute (position : Nat) (attributes : List (String × String)) :
  readValues position (attributes.map Xml.writtenAttribute) = .ok attributes
  := by
  induction attributes with
  | nil => rfl
  | cons a attributes ih =>
      have key : String.ofList (Xml.writtenAttribute a).key = a.1 := String.ofList_toList
      rw [List.map_cons, readValues, Xml.value_writtenAttribute, ih, key]
      rfl

section

variable {name : String} {attributes : List (String × String)} (h : Xml.IsName name.toList)
include h

theorem localName_writeTag (attributes : List (String × String)) :
  Xml.Tag.localName ⟨Xml.writeTag name attributes⟩ = Xml.localName name.toList
  := by
  rw [Xml.Tag.localName, Xml.name_writeTag attributes h]

/-- The element of a tag is read back. -/
theorem readElement_writeTag (keys : ∀ a ∈ attributes, Xml.IsName a.1.toList)
    (distinct : (attributes.map (·.1)).Nodup) (position : Nat) :
  readElement position ⟨Xml.writeTag name attributes⟩ = .ok (.written name attributes)
  := by
  rw [readElement, Xml.attributes_writeTag h keys distinct]
  simp only [readValues_writtenAttribute, localName_writeTag h]
  rfl

theorem step_start (keys : ∀ a ∈ attributes, Xml.IsName a.1.toList)
    (distinct : (attributes.map (·.1)).Nodup) (w : Walk) (position : Nat) :
  w.step (.start ⟨Xml.writeTag name attributes⟩, position) = w.enter (.written name attributes)
  := by
  simp only [Walk.step, readElement_writeTag h keys distinct]
  rfl

theorem step_empty (keys : ∀ a ∈ attributes, Xml.IsName a.1.toList)
    (distinct : (attributes.map (·.1)).Nodup) (w : Walk) (position : Nat) :
  w.step (.empty ⟨Xml.writeTag name attributes⟩, position)
    = w.visit (.leaf name attributes)
  := by
  simp only [Walk.step, readElement_writeTag h keys distinct]
  rfl

end

/-! ### Walks -/

/-- Going past an event does not depend on the place of the event. -/
def Unplaced (e : Event) : Prop :=
  ∀ (w : Walk) (position : Nat), w.step (e, position) = w.step (e, 0)

/-- Events that are no tags change nothing. -/
theorem Walk.step_of_isTag {e : Event} (h : e.isTag = false) (w : Walk) (position : Nat) :
  w.step (e, position) = pure w
  := by
  cases e with
  | text raw => rfl
  | cdata content => rfl
  | doctype => rfl
  | aside => rfl
  | start tag => cases h
  | empty tag => cases h
  | close name => cases h

/-- If the places of tags do not matter, tags count by their order only. -/
theorem foldlM_step_eq {events : List (Event × Nat)} (h : ∀ e ∈ Xml.tags events, Unplaced e)
    (w : Walk) :
  events.foldlM Walk.step w = (Xml.tags events).foldlM (fun w e => w.step (e, 0)) w
  := by
  induction events generalizing w with
  | nil => rfl
  | cons event events ih =>
      obtain ⟨e, position⟩ := event
      cases tag : e.isTag with
      | true =>
          have tags : Xml.tags ((e, position) :: events) = e :: Xml.tags events := by
            simp [Xml.tags, tag]
          rw [tags] at h ⊢
          rw [List.foldlM_cons, List.foldlM_cons, h e List.mem_cons_self]
          congr 1
          funext w'
          apply ih
          intro e' mem
          apply h e' (List.mem_cons_of_mem e mem)
      | false =>
          have tags : Xml.tags ((e, position) :: events) = Xml.tags events := by
            simp [Xml.tags, tag]
          rw [tags] at h ⊢
          rw [List.foldlM_cons, Walk.step_of_isTag tag, pure_bind]
          apply ih h

theorem unplaced_of_mem_contentEvents {content : List Markup}
    (h : ∀ m ∈ content, ∀ e ∈ m.events, Unplaced e) :
  ∀ e ∈ Xml.contentEvents content, Unplaced e
  := by
  induction content with
  | nil =>
      intro e mem
      cases mem
  | cons m content ih =>
      intro e mem
      rcases List.mem_append.mp mem with mem | mem
      · apply h m List.mem_cons_self e mem
      · apply ih _ e mem
        intro m' mem'
        apply h m' (List.mem_cons_of_mem m mem')

/-- The places of the tags of markup do not matter. -/
theorem unplaced_of_mem_events {m : Markup} (h : m.WellFormed) :
  ∀ e ∈ m.events, Unplaced e
  := by
  induction h with
  | leaf name keys distinct =>
      intro e mem w position
      obtain rfl := List.mem_singleton.mp mem
      rw [step_empty name keys distinct, step_empty name keys distinct]
  | branch name keys distinct within ih =>
      intro e mem
      rcases List.mem_cons.mp mem with rfl | mem
      · intro w position
        rw [step_start name keys distinct, step_start name keys distinct]
      · rcases List.mem_append.mp mem with mem | mem
        · apply unplaced_of_mem_contentEvents ih e mem
        · obtain rfl := List.mem_singleton.mp mem
          intro w position
          rfl

theorem foldlM_contentEvents {content : List Markup}
    (h : ∀ m ∈ content, ∀ w : Walk, m.events.foldlM (fun w e => w.step (e, 0)) w = w.visit m)
    (w : Walk) :
  (Xml.contentEvents content).foldlM (fun w e => w.step (e, 0)) w = w.visitAll content
  := by
  induction content generalizing w with
  | nil => rfl
  | cons m content ih =>
      rw [Xml.contentEvents, List.foldlM_append, h m List.mem_cons_self, Walk.visitAll]
      congr 1
      funext w'
      apply ih
      intro m' mem
      apply h m' (List.mem_cons_of_mem m mem)

/-- Walking over the tags of markup is going through the markup. -/
theorem foldlM_events {m : Markup} (h : m.WellFormed) (w : Walk) :
  m.events.foldlM (fun w e => w.step (e, 0)) w = w.visit m
  := by
  induction h generalizing w with
  | leaf name keys distinct =>
      rw [Markup.events, List.foldlM_cons, step_empty name keys distinct]
      apply bind_pure
  | branch name keys distinct within ih =>
      rename_i n attributes content
      rw [Markup.events, List.cons_append, List.foldlM_cons, Walk.visit,
        step_start name keys distinct]
      congr 1
      funext w'
      rw [List.foldlM_append, foldlM_contentEvents ih]
      congr 1
      funext w''
      apply bind_pure

/-! ### Documents -/

/-- The root of a document is its first element. -/
theorem rootName?_eq (document : Xml.Reading) :
  rootName? document = (Xml.tags document.events).findSome? fun
    | .start tag | .empty tag => some (.ofList tag.localName)
    | _ => none
  := by
  rw [rootName?]
  induction document.events with
  | nil => rfl
  | cons event events ih =>
      obtain ⟨e, position⟩ := event
      cases e with
      | start tag => rfl
      | empty tag => rfl
      | close name => apply ih
      | text raw => apply ih
      | cdata content => apply ih
      | doctype => apply ih
      | aside => apply ih

/-- A document is read by going through its markup, if its root says that it is in the form of
annotations. -/
theorem readBindings_renderDocument {name : String} {attributes : List (String × String)}
    {content : List Markup} {bindings : List Binding}
    (h : (Markup.branch name attributes content).WellFormed)
    (root : Xml.localName name.toList = "bindings".toList)
    (visit : Walk.visit {} (.branch name attributes content) = .ok { bindings }) :
  readBindings (Markup.branch name attributes content).renderDocument = .ok bindings
  := by
  obtain ⟨noError, tags⟩ := h.read_renderDocument
  have named : Xml.IsName name.toList := by
    cases h with
    | branch named => apply named
  have first : rootName? (Xml.read (Markup.branch name attributes content).renderDocument)
      = some "bindings" := by
    rw [rootName?_eq, tags, Markup.events, List.cons_append, List.findSome?_cons]
    simp only [localName_writeTag named, root, String.ofList_toList]
  have unplaced := unplaced_of_mem_events h
  rw [← tags] at unplaced
  simp only [readBindings, first, readAnnotations, foldlM_step_eq unplaced, tags,
    foldlM_events h, visit, noError]
  rfl

end GroupInterfaces.Episode
