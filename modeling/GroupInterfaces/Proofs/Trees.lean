import GroupInterfaces.Proofs.Documents

/-!
# Texts as trees

The tags of a text are put together to trees of elements, if there is nothing but white space
between them and every element is closed. A text that markup is written as gives a single tree,
which is that of the markup.
-/

namespace GroupInterfaces.Xml

/-- Elements with the values of their attributes and the elements within them, in order. -/
inductive Tree where
  | element (name : String) (attributes : List (String × String)) (within : List Tree)

/-- An open element, with the trees in front of it, last one first. -/
structure OpenElement where
  name : String
  attributes : List (String × String)
  before : List Tree

/-- The attributes of a tag with their values, if all of them can be read. -/
def Tag.values? (t : Tag) : Option (List (String × String)) :=
  match t.attributes with
  | (attributes, none) =>
    attributes.mapM fun a => a.value.toOption.map fun value => (.ofList a.key, value)
  | (_, some _) => none

namespace Tree

/-- The trees that events put together, within open elements, innermost one first, and behind
some trees, last one first. -/
def assemble? : List OpenElement → (before : List Tree) → List Event → Option (List Tree)
  | [], before, [] => some before.reverse
  | _ :: _, _, [] => none
  | around, before, .start tag :: rest => do
    let attributes ← tag.values?
    assemble? (⟨.ofList tag.name, attributes, before⟩ :: around) [] rest
  | around, before, .empty tag :: rest => do
    let attributes ← tag.values?
    assemble? around (.element (.ofList tag.name) attributes [] :: before) rest
  | e :: around, before, .close name :: rest =>
    if e.name = .ofList name then
      assemble? around (.element e.name e.attributes before.reverse :: e.before) rest
    else none
  | around, before, .text raw :: rest =>
    if raw.all isSpace then assemble? around before rest else none
  | _, _, _ :: _ => none

end Tree

/-- The trees that a text is read as. -/
def readTrees? (text : String) : Option (List Tree) :=
  match (read text).error with
  | none => Tree.assemble? [] [] ((read text).events.map (·.1))
  | some _ => none

mutual

/-- The tree of markup, in which an element with nothing within it is the same as a leaf. -/
def Markup.tree : Markup → Tree
  | .leaf name attributes => .element name attributes []
  | .branch name attributes content => .element name attributes (contentTrees content)

/-- The trees of several elements. -/
def contentTrees : List Markup → List Tree
  | [] => []
  | m :: rest => m.tree :: contentTrees rest

end

theorem contentTrees_eq (content : List Markup) :
  contentTrees content = content.map Markup.tree
  := by
  induction content with
  | nil => rfl
  | cons m content ih => rw [contentTrees, ih, List.map_cons]

/-! ### Tags -/

/-- The values of attributes are read back. -/
theorem values?_writeTag {name : String} {attributes : List (String × String)}
    (h : IsName name.toList) (keys : ∀ a ∈ attributes, IsName a.1.toList)
    (distinct : (attributes.map (·.1)).Nodup) :
  Tag.values? ⟨writeTag name attributes⟩ = some attributes
  := by
  simp only [Tag.values?, attributes_writeTag h keys distinct]
  clear keys distinct
  induction attributes with
  | nil => rfl
  | cons a attributes ih =>
      have key : String.ofList (writtenAttribute a).key = a.1 := String.ofList_toList
      rw [List.map_cons, List.mapM_cons, value_writtenAttribute, key, ih]
      rfl

/-! ### Trees -/

theorem Event.exists_eq_text {e : Event} (h : e.isBlank = true) :
  ∃ raw, e = .text raw
  := by
  cases e with
  | text raw => exact ⟨raw, rfl⟩
  | _ => cases h

namespace Tree

/-- White space between tags does not matter. -/
theorem assemble?_filter (around : List OpenElement) (before : List Tree) (es : List Event) :
  assemble? around before (es.filter (! ·.isBlank)) = assemble? around before es
  := by
  induction es generalizing around before with
  | nil => rfl
  | cons e es ih =>
      cases blank : e.isBlank with
      | true =>
          obtain ⟨raw, rfl⟩ := Event.exists_eq_text blank
          have whole : raw.all isSpace = true := blank
          rw [List.filter_cons_of_neg (by simp [blank]), ih, assemble?, if_pos whole]
      | false =>
          rw [List.filter_cons_of_pos (by simp [blank])]
          cases e with
          | start tag => simp only [assemble?, ih]
          | empty tag => simp only [assemble?, ih]
          | text raw => simp only [assemble?, ih]
          | close name =>
              cases around with
              | nil => simp only [assemble?]
              | cons e around => simp only [assemble?, ih]
          | cdata content => simp only [assemble?]
          | doctype => simp only [assemble?]
          | aside => simp only [assemble?]

end Tree

/-- The tags of several elements put their trees together if those of each do. -/
theorem assemble?_contentEvents {content : List Markup}
    (h : ∀ m ∈ content, ∀ around before es, Tree.assemble? around before (m.events ++ es)
      = Tree.assemble? around (m.tree :: before) es)
    (around : List OpenElement) (before : List Tree) (es : List Event) :
  Tree.assemble? around before (contentEvents content ++ es)
    = Tree.assemble? around ((contentTrees content).reverse ++ before) es
  := by
  induction content generalizing before with
  | nil => rfl
  | cons m content ih =>
      rw [contentEvents, List.append_assoc, h m List.mem_cons_self, ih]
      · simp [contentTrees]
      · intro m' mem
        apply h m' (List.mem_cons_of_mem m mem)

/-- The tags of markup put its tree together, whatever stands around it. -/
theorem Markup.WellFormed.assemble?_events {m : Markup} (h : m.WellFormed)
    (around : List OpenElement) (before : List Tree) (es : List Event) :
  Tree.assemble? around before (m.events ++ es) = Tree.assemble? around (m.tree :: before) es
  := by
  induction h generalizing around before es with
  | leaf name keys distinct =>
      rw [Markup.events, List.singleton_append, Tree.assemble?, values?_writeTag name keys distinct,
        name_writeTag _ name, String.ofList_toList]
      rfl
  | branch name keys distinct within ih =>
      rename_i n attributes content
      rw [Markup.events, List.cons_append, List.cons_append, Tree.assemble?,
        values?_writeTag name keys distinct, name_writeTag _ name, String.ofList_toList]
      change Tree.assemble? (⟨n, attributes, before⟩ :: around) [] _ = _
      rw [List.append_assoc, assemble?_contentEvents ih, List.singleton_append, Tree.assemble?]
      simp [Markup.tree]

/-- Markup is read as a single tree from the text that it is written as. -/
theorem Markup.WellFormed.readTrees?_render {m : Markup} (h : m.WellFormed) :
  readTrees? m.render = some [m.tree]
  := by
  obtain ⟨noError, found⟩ := h.read_render
  have whole := h.assemble?_events [] [] []
  rw [List.append_nil, ← found, solid, Tree.assemble?_filter] at whole
  rw [readTrees?, noError]
  apply whole

end GroupInterfaces.Xml
