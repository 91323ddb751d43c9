import GroupInterfaces.Proofs.Scopes

/-!
# The interfaces of groups

A group is meant to be named by a child of its element. What the walk gives it is the first
interface that any element within the group names, apart from the groups within it. The two are
the same as long as only children of groups name interfaces within groups, and they can differ
if other elements do.
-/

namespace GroupInterfaces.Episode

namespace Forest

/-- The first interface that one of the elements itself names. -/
def childReference? : Forest → Option String
  | .nil => none
  | .cons e _ rest => e.reference?.or rest.childReference?

/-- Each element that names an interface, if it is within a group, is a child of one. -/
def RefsAreChildren (around : List Element) : Forest → Prop
  | .nil => True
  | .cons e within rest =>
    (e.reference?.isSome → (∃ g ∈ around, g.isGroup) → ∃ g ∈ around.head?, g.isGroup)
      ∧ within.RefsAreChildren (e :: around) ∧ rest.RefsAreChildren around

/-- Whether only children of groups name interfaces within groups is found by going through the
elements. -/
def decideRefsAreChildren (around : List Element) :
    (f : Forest) → Decidable (f.RefsAreChildren around)
  | .nil => inferInstanceAs (Decidable True)
  | .cons e within rest =>
    have := within.decideRefsAreChildren (e :: around)
    have := rest.decideRefsAreChildren around
    inferInstanceAs (Decidable (_ ∧ _ ∧ _))

instance (around : List Element) (f : Forest) : Decidable (f.RefsAreChildren around) :=
  f.decideRefsAreChildren around

/-- The first to name an interface outside of the groups among the elements, if any does, is one
of the elements themselves. -/
def NamedByChild : Forest → Prop
  | .nil => True
  | .cons e within rest =>
    e.reference?.isSome ∨ (e.isGroup ∨ within.references = []) ∧ rest.NamedByChild

/-- An interface that a child is the first to name is that of the first child to name one. -/
theorem NamedByChild.ownReference?_eq {f : Forest} (h : f.NamedByChild) :
  f.ownReference? = f.childReference?
  := by
  rw [ownReference?]
  induction f with
  | nil => rfl
  | cons e within rest ihWithin ihRest =>
      rw [references, childReference?, List.append_assoc]
      cases named : e.reference? with
      | some interface => rfl
      | none =>
          rcases h with child | ⟨inside, h⟩
          · rw [named] at child
            cases child
          · have nothing : (if e.isGroup then [] else within.references) = [] := by
              rcases inside with group | nothing
              · rw [if_pos group]
              · rw [nothing, ite_self]
            rw [nothing]
            apply ihRest h

namespace RefsAreChildren

variable {f : Forest} {around : List Element}

/-- Within a group, but not as children of one, elements name no interfaces. -/
theorem references_eq_nil (h : f.RefsAreChildren around) (inside : ∃ g ∈ around, g.isGroup)
    (apart : ¬ ∃ g ∈ around.head?, g.isGroup) :
  f.references = []
  := by
  induction f generalizing around with
  | nil => rfl
  | cons e within rest ihWithin ihRest =>
      obtain ⟨child, hWithin, hRest⟩ := h
      have unnamed : e.reference? = none := by
        by_contra named
        apply apart (child (Option.isSome_iff_ne_none.mpr named) inside)
      rw [references, unnamed, ihRest hRest inside apart]
      by_cases group : e.isGroup
      · rw [if_pos group]
        rfl
      · obtain ⟨g, mem, isGroup⟩ := inside
        have nothing : within.references = [] := by
          apply ihWithin hWithin ⟨g, List.mem_cons_of_mem e mem, isGroup⟩
          rintro ⟨_, ⟨⟩, isGroup⟩
          apply group isGroup
        rw [if_neg group, nothing]
        rfl

/-- A child of a group is the first to name an interface within it. -/
theorem namedByChild (h : f.RefsAreChildren around) (parent : ∃ g ∈ around.head?, g.isGroup) :
  f.NamedByChild
  := by
  induction f with
  | nil => trivial
  | cons e within rest ihWithin ihRest =>
      obtain ⟨-, hWithin, hRest⟩ := h
      refine Or.inr ⟨?_, ihRest hRest⟩
      by_cases group : e.isGroup
      · apply Or.inl group
      · obtain ⟨g, mem, isGroup⟩ := parent
        refine Or.inr (hWithin.references_eq_nil ⟨g, ?_, isGroup⟩ ?_)
        · apply List.mem_cons_of_mem e (List.mem_of_mem_head? mem)
        · rintro ⟨_, ⟨⟩, isGroup⟩
          apply group isGroup

/-- If each group is named by its children, reading takes the first child that names an
interface. -/
theorem reading_eq (h : f.RefsAreChildren around) :
  f.reading ownReference? around = f.reading childReference? around
  := by
  induction f generalizing around with
  | nil => rfl
  | cons e within rest ihWithin ihRest =>
      obtain ⟨-, hWithin, hRest⟩ := h
      rw [reading, reading, ihWithin hWithin, ihRest hRest]
      cases opening : e.group? around with
      | error reason => rfl
      | ok group =>
          cases group with
          | none => rfl
          | some group =>
              have isGroup : e.isGroup := (Element.isSome_of_group? opening).symm
              have named := hWithin.namedByChild ⟨e, rfl, isGroup⟩
              rw [named.ownReference?_eq]

end RefsAreChildren

end Forest

/-- The tree of an element. -/
abbrev Forest.tree (root : Element) (within : Forest) : Forest := .cons root within .nil

/-! ### Samples -/

namespace Sample

open Xml (Markup)

/-- An element that points at something. -/
def pointing (scd : String) (content : List Markup) : Markup :=
  .branch "bindings" [("scd", scd)] content

/-- An element that names an interface. -/
def naming (name interface : String) : Markup := .leaf name [("ref", interface)]

theorem wellFormed_pointing (scd : String) {content : List Markup}
    (within : ∀ m ∈ content, m.WellFormed) :
  (pointing scd content).WellFormed
  := by
  have bindings : Xml.IsName "bindings".toList := .of_all rfl rfl
  have path : Xml.IsName "scd".toList := .of_all rfl rfl
  apply Markup.WellFormed.branch bindings (by simpa using path) (by simp) within

theorem wellFormed_naming {name : String} (named : Xml.IsName name.toList) (interface : String) :
  (naming name interface).WellFormed
  := by
  have ref : Xml.IsName "ref".toList := .of_all rfl rfl
  apply Markup.WellFormed.leaf named (by simpa using ref) (by simp)

/-- A schema with a group in it and a group of attributes within that. -/
def nested : List Markup :=
  [pointing "x-schema::t"
    [pointing "group::party"
      [naming "interface" "sample.Party",
        pointing "attributeGroup::t:audit" [naming "class" "sample.Audit"]]]]

/-- The root that declares the prefix of the schema. -/
def nestedRoot : Element := .written "bindings" [("xmlns:t", "urn:a")]

/-- The document with the schema. -/
def nestedText : String :=
  (Markup.branch "bindings" [("xmlns:t", "urn:a")] nested).renderDocument

/-- The bindings of the groups in the schema. -/
def nestedBindings : List Binding :=
  [⟨"sample.Audit", ⟨"urn:a", "audit"⟩⟩, ⟨"sample.Party", ⟨"urn:a", "party"⟩⟩]

theorem spells_nested :
  (Xml.read nestedText).error = none
    ∧ Spells (Xml.read nestedText).events (.tree nestedRoot (.ofContent nested))
  := by
  have bindings : Xml.IsName "bindings".toList := .of_all rfl rfl
  have xmlns : Xml.IsName "xmlns:t".toList := .of_all rfl rfl
  have interface : Xml.IsName "interface".toList := .of_all rfl rfl
  have other : Xml.IsName "class".toList := .of_all rfl rfl
  have audit := wellFormed_pointing "attributeGroup::t:audit"
    (List.forall_mem_singleton.mpr (wellFormed_naming other "sample.Audit"))
  have party := wellFormed_pointing "group::party" (List.forall_mem_cons.mpr
    ⟨wellFormed_naming interface "sample.Party", List.forall_mem_singleton.mpr audit⟩)
  have schema := wellFormed_pointing "x-schema::t" (List.forall_mem_singleton.mpr party)
  apply spells_renderDocument
  apply Markup.WellFormed.branch bindings (by simpa using xmlns) (by simp)
  apply List.forall_mem_singleton.mpr schema

theorem refsAreChildren_nested :
  (Forest.tree nestedRoot (.ofContent nested)).RefsAreChildren []
  := by
  decide +kernel

theorem rootName?_nested :
  rootName? (Xml.read nestedText) = some "bindings"
  := by
  rw [spells_nested.2.rootName?_eq]
  rfl

theorem readBindings_nested :
  readBindings nestedText = .ok nestedBindings
  := by
  rw [spells_nested.2.readBindings_eq spells_nested.1 rootName?_nested]
  decide +kernel

/-- A group with an element for another component in front of the child that names an
interface. -/
def customer : List Markup :=
  [pointing "group::party"
    [pointing "~customer" [naming "class" "sample.Customer"], naming "interface" "sample.Party"]]

/-- The document with the group. -/
def customerText : String := (Markup.branch "bindings" [] customer).renderDocument

theorem spells_customer :
  (Xml.read customerText).error = none
    ∧ Spells (Xml.read customerText).events
      (.tree (.written "bindings" []) (.ofContent customer))
  := by
  have bindings : Xml.IsName "bindings".toList := .of_all rfl rfl
  have interface : Xml.IsName "interface".toList := .of_all rfl rfl
  have other : Xml.IsName "class".toList := .of_all rfl rfl
  have customer := wellFormed_pointing "~customer"
    (List.forall_mem_singleton.mpr (wellFormed_naming other "sample.Customer"))
  have party := wellFormed_pointing "group::party" (List.forall_mem_cons.mpr
    ⟨customer, List.forall_mem_singleton.mpr (wellFormed_naming interface "sample.Party")⟩)
  apply spells_renderDocument
  apply Markup.WellFormed.branch bindings (by simp) (by simp)
  apply List.forall_mem_singleton.mpr party

end Sample

/-! ### Documents in which children name the groups -/

/-- A tree of elements in which only children of groups name interfaces within groups is read by
recursion. Going through the tree, walking over tags that spell it, and reading a document with
such tags give every group, behind those within it, the interface that the first child to name
one names, or fail where the recursion does. -/
theorem readBindings_eq_reading_of_refsAreChildren {root : Element} {within : Forest}
    (named : root.localName = "bindings")
    (children : (Forest.tree root within).RefsAreChildren []) :
  Walk.through {} (.tree root within)
      = ((Forest.tree root within).reading Forest.childReference? []).map
        (fun bindings => ({ bindings } : Walk))
    ∧ (∀ events, Spells events (.tree root within) →
      events.foldlM Walk.step {}
        = ((Forest.tree root within).reading Forest.childReference? []).map
          fun bindings => { bindings })
    ∧ ∀ text, Spells (Xml.read text).events (.tree root within) →
      (Xml.read text).error = none →
      readBindings text = (Forest.tree root within).reading Forest.childReference? []
  := by
  rw [← children.reading_eq]
  refine ⟨?_, ?_, ?_⟩
  · rw [Walk.through_eq _ Scoped.nil]
    simp only [attachAll_nil, List.nil_append]
  · intro events spells
    apply spells.foldlM_step_eq
  · intro text spells whole
    apply spells.readBindings_eq whole
    rw [spells.rootName?_eq, named]

/-- The sample is read by recursion. -/
theorem readBindings_sample :
  Sample.nestedRoot.localName = "bindings"
    ∧ (Forest.tree Sample.nestedRoot (.ofContent Sample.nested)).RefsAreChildren []
    ∧ (Forest.tree Sample.nestedRoot (.ofContent Sample.nested)).reading
        Forest.childReference? []
      = .ok Sample.nestedBindings
  := by
  obtain ⟨whole, spells⟩ := Sample.spells_nested
  have named : Sample.nestedRoot.localName = "bindings" := rfl
  have children := Sample.refsAreChildren_nested
  refine ⟨named, children, ?_⟩
  rw [← (readBindings_eq_reading_of_refsAreChildren named children).2.2 _ spells whole,
    Sample.readBindings_nested]

/-! ### Documents in general -/

/-- A group by its element, with the elements around and within it. -/
structure Group where
  element : Element
  around : List Element
  within : Forest

/-- The groups of the elements within some others, each behind those within it. -/
def Forest.groups (around : List Element) : Forest → List Group
  | .nil => []
  | .cons e within rest =>
    within.groups (e :: around) ++ (if e.isGroup then [⟨e, around, within⟩] else [])
      ++ rest.groups around

/-- A binding is that of a group. Its interface is the first one that is named within the group,
apart from the groups within it. If a child is the first to name one, then it is that of the first
child that does. -/
structure Group.Binds (g : Group) (b : Binding) : Prop where
  component : ∃ scd, g.element.group? g.around = .ok (some (scd, b.component))
  interface : g.within.ownReference? = some b.interface
  child : g.within.NamedByChild → g.within.childReference? = some b.interface

theorem bindingsOf_inv {component? : Option (String × QName)} {interface : Option String}
    {own : List Binding} (h : bindingsOf component? interface = .ok own) :
  component? = none ∧ own = []
    ∨ ∃ scd b, component? = some (scd, b.component) ∧ interface = some b.interface ∧ own = [b]
  := by
  cases component? with
  | none =>
      cases h
      apply Or.inl ⟨rfl, rfl⟩
  | some group =>
      cases interface with
      | none => cases h
      | some interface =>
          cases h
          apply Or.inr ⟨_, _, rfl, rfl, rfl⟩

/-- Reading binds the groups one for one. -/
theorem Forest.forall₂_binds {f : Forest} {around : List Element} {bindings : List Binding}
    (h : f.reading ownReference? around = .ok bindings) :
  List.Forall₂ Group.Binds (f.groups around) bindings
  := by
  induction f generalizing around bindings with
  | nil =>
      cases h
      apply List.Forall₂.nil
  | cons e within rest ihWithin ihRest =>
      rw [reading] at h
      obtain ⟨component?, opening, h⟩ := bind_inv h
      obtain ⟨inner, readWithin, h⟩ := bind_inv h
      obtain ⟨own, closing, h⟩ := bind_inv h
      obtain ⟨others, readRest, h⟩ := bind_inv h
      cases h
      refine List.rel_append (List.rel_append (ihWithin readWithin) ?_) (ihRest readRest)
      rw [← Element.isSome_of_group? opening]
      rcases bindingsOf_inv closing with ⟨rfl, rfl⟩ | ⟨scd, b, rfl, interface, rfl⟩
      · apply List.Forall₂.nil
      · apply List.Forall₂.cons _ List.Forall₂.nil
        refine ⟨⟨scd, opening⟩, interface, ?_⟩
        intro child
        rw [← child.ownReference?_eq, interface]

/-- A document in the form of annotations that is read is a forest of elements, and each group in
it is bound to the first interface that an element within the group names, apart from the groups
within it. That is the interface of the first child to name one if no other element is in front of
this child that names one. -/
theorem binds_of_readBindings {text : String} {bindings : List Binding}
    (root : rootName? (Xml.read text) = some "bindings") (read : readBindings text = .ok bindings) :
  (∃ f, Spells (Xml.read text).events f)
    ∧ ∀ f, Spells (Xml.read text).events f → List.Forall₂ Group.Binds (f.groups []) bindings
  := by
  have annotations : readAnnotations (Xml.read text) = .ok bindings := by
    simpa only [readBindings, root] using read
  refine ⟨exists_spells_of_readAnnotations annotations, ?_⟩
  intro f spells
  apply Forest.forall₂_binds
  rw [← spells.readAnnotations_eq (readAnnotations_inv annotations).1, annotations]

/-- In the sample both groups are bound to what their children name. -/
theorem binds_sample :
  rootName? (Xml.read Sample.nestedText) = some "bindings"
    ∧ readBindings Sample.nestedText = .ok Sample.nestedBindings
    ∧ List.Forall₂ Group.Binds
      ((Forest.tree Sample.nestedRoot (.ofContent Sample.nested)).groups [])
      Sample.nestedBindings
  := by
  use Sample.rootName?_nested, Sample.readBindings_nested
  apply (binds_of_readBindings Sample.rootName?_nested Sample.readBindings_nested).2
  apply Sample.spells_nested.2

/-- A group can be bound to what is named within the element of another component, and not to what
its child names. -/
theorem readBindings_customer :
  let tree := Forest.tree (.written "bindings" []) (.ofContent Sample.customer)
  rootName? (Xml.read Sample.customerText) = some "bindings"
    ∧ Spells (Xml.read Sample.customerText).events tree
    ∧ (tree.groups []).map (·.within.childReference?) = [some "sample.Party"]
    ∧ readBindings Sample.customerText = .ok [⟨"sample.Customer", ⟨"", "party"⟩⟩]
  := by
  obtain ⟨whole, spells⟩ := Sample.spells_customer
  have root : rootName? (Xml.read Sample.customerText) = some "bindings" := by
    rw [spells.rootName?_eq]
    rfl
  refine ⟨root, spells, by decide +kernel, ?_⟩
  rw [spells.readBindings_eq whole root]
  decide +kernel

end GroupInterfaces.Episode
