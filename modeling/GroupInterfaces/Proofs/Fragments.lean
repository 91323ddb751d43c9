import GroupInterfaces.Proofs.Trees
import GroupInterfaces.Schema.Fragment

/-!
# Fragments that are read back

The fragment that a group is shown by is read back as a single tree of elements. The tree is the
structure of the declaration: there is an element for every particle or use of an attribute, in
order, with its names without their namespaces, its fixed value and its bounds of occurrence,
unless these are one. So two declarations have the same fragment exactly if they do not differ in
what is shown of them.
-/

namespace GroupInterfaces

/-! ### Elements -/

namespace Xml.Tree

/-- The name of an element. -/
def name : Tree → String
  | .element name _ _ => name

/-- The attributes of an element. -/
def attributes : Tree → List (String × String)
  | .element _ attributes _ => attributes

/-- The elements within an element. -/
def within : Tree → List Tree
  | .element _ _ within => within

/-- The element has a name, and it has some attributes and no others, each of them once. -/
structure Is (t : Tree) (name : String) (attributes : String → Option String) : Prop where
  name_eq : t.name = name
  distinct : (t.attributes.map (·.1)).Nodup
  lookup_eq : ∀ key, t.attributes.lookup key = attributes key

end Xml.Tree

/-! ### What elements show -/

/-- A single attribute. -/
def onlyShown (key value : String) (k : String) : Option String :=
  if k = key then some value else none

/-- A bound of occurrence, unless it is one. -/
def shownBound (n : UInt32) : Option String := if n = 1 then none else some (toString n.toNat)

/-- The bounds of occurrence as attributes. -/
def Occurs.shown (o : Occurs) : String → Option String
  | "minOccurs" => shownBound o.min
  | "maxOccurs" =>
    match o.max with
    | .bounded n => shownBound n
    | .unbounded => some "unbounded"
  | _ => none

/-- The attributes for an element that may occur so often. -/
def ElementDecl.shown (d : ElementDecl) (o : Occurs) : String → Option String
  | "name" => some d.name.localName
  | "type" => d.typeName.map (·.localName)
  | "fixed" => d.fixedValue
  | key => o.shown key

/-- The attributes for a reference to a group that may occur so often. -/
def refShown (name : QName) (o : Occurs) : String → Option String
  | "ref" => some name.localName
  | key => o.shown key

/-- The attributes for the use of an attribute. Its fixed value comes before that of the
declaration. -/
def AttributeUse.shown (u : AttributeUse) : String → Option String
  | "name" => some u.decl.name.localName
  | "type" => u.decl.typeName.map (·.localName)
  | "use" => if u.required then some "required" else none
  | "fixed" => u.fixedValue.or u.decl.fixedValue
  | _ => none

namespace Particle

mutual

/-- The element shows a particle. -/
def ShownBy : Xml.Tree → Particle → Prop
  | t, .element o d => t.Is "xs:element" (d.shown o) ∧ t.within = []
  | t, .groupRef o name => t.Is "xs:group" (refShown name o) ∧ t.within = []
  | t, .group o compositor particles =>
    t.Is ("xs:" ++ compositor.schemaName) o.shown ∧ AllShownBy t.within particles
  | t, .wildcard o => t.Is "xs:any" o.shown ∧ t.within = []

/-- There is an element for each of the particles, in order. -/
def AllShownBy : List Xml.Tree → List Particle → Prop
  | [], [] => True
  | t :: trees, p :: particles => ShownBy t p ∧ AllShownBy trees particles
  | _, _ => False

end

end Particle

/-- The element shows the use of an attribute, or that a group is included. -/
def Xml.Tree.ShowsUse (t : Xml.Tree) : AttributeUse ⊕ QName → Prop
  | .inl u => t.Is "xs:attribute" u.shown ∧ t.within = []
  | .inr group => t.Is "xs:attributeGroup" (onlyShown "ref" group.localName) ∧ t.within = []

/-- The uses of attributes of a group and the groups behind them that it includes. -/
def AttributeGroupDecl.uses (d : AttributeGroupDecl) : List (AttributeUse ⊕ QName) :=
  d.attributeUses.map .inl ++ d.attributeGroups.map .inr

/-- The element shows the declaration of a group. -/
def GroupDecl.ShownBy (t : Xml.Tree) : GroupDecl → Prop
  | .model d =>
    t.Is "xs:group" (onlyShown "name" d.name.localName)
      ∧ ∃ body, t.within = [body] ∧ body.Is ("xs:" ++ d.group.compositor.schemaName) (fun _ => none)
        ∧ Particle.AllShownBy body.within d.group.particles
  | .attribute d =>
    t.Is "xs:attributeGroup" (onlyShown "name" d.name.localName)
      ∧ List.Forall₂ Xml.Tree.ShowsUse t.within d.uses

/-! ### Attributes -/

/-- The keys of the attributes of fragments, in the order in which they are written. -/
def attributeKeys : List String :=
  ["name", "ref", "type", "use", "fixed", "minOccurs", "maxOccurs"]

/-- The attribute of a key, if it has a value. -/
def optionalAttribute (key : String) (value : Option String) : List (String × String) :=
  (value.map (key, ·)).toList

/-- Attributes in the order of their keys. -/
def listed (shown : String → Option String) (keys : List String) : List (String × String) :=
  keys.flatMap fun key => optionalAttribute key (shown key)

theorem keys_listed (shown : String → Option String) (keys : List String) :
  ((listed shown keys).map (·.1)).Sublist keys
  := by
  induction keys with
  | nil => apply List.Sublist.refl
  | cons key keys ih =>
      rw [listed, List.flatMap_cons, List.map_append, optionalAttribute]
      cases shown key with
      | none => apply ih.cons key
      | some value => apply ih.cons_cons key

theorem lookup_optionalAttribute (key : String) (value : Option String) (k : String) :
  (optionalAttribute key value).lookup k = if k = key then value else none
  := by
  cases value with
  | none => simp [optionalAttribute]
  | some value =>
      by_cases same : k = key
      · simp [optionalAttribute, same]
      · simp [optionalAttribute, same, List.lookup_cons, beq_eq_false_iff_ne.mpr same]

theorem lookup_listed (shown : String → Option String) (keys : List String) (k : String) :
  (listed shown keys).lookup k = if k ∈ keys then shown k else none
  := by
  induction keys with
  | nil => simp [listed]
  | cons key keys ih =>
      rw [listed, List.flatMap_cons, List.lookup_append, lookup_optionalAttribute]
      change (if k = key then shown key else none).or ((listed shown keys).lookup k) = _
      rw [ih]
      by_cases same : k = key
      · subst same
        cases value : shown k with
        | none => simp
        | some value => simp
      · simp [same]

theorem nodup_listed (shown : String → Option String) :
  ((listed shown attributeKeys).map (·.1)).Nodup
  := by
  have distinct : attributeKeys.Nodup := by decide +kernel
  apply distinct.sublist (keys_listed shown attributeKeys)

theorem isName_of_mem_listed {shown : String → Option String} :
  ∀ a ∈ listed shown attributeKeys, Xml.IsName a.1.toList
  := by
  have names : attributeKeys.all fun key =>
      ! key.toList.isEmpty && key.toList.all (! Xml.isMark ·) := by
    decide +kernel
  intro a mem
  have listed := (keys_listed shown attributeKeys).subset (List.mem_map_of_mem mem)
  have name := List.all_eq_true.mp names a.1 listed
  simp only [Bool.and_eq_true, Bool.not_eq_true'] at name
  apply Xml.IsName.of_all name.1 name.2

/-- An element that lists what is to be shown shows it. -/
theorem Xml.Tree.is_listed {shown : String → Option String} (name : String) (within : List Tree)
    (others : ∀ k ∉ attributeKeys, shown k = none) :
  (Tree.element name (listed shown attributeKeys) within).Is name shown
  := by
  constructor
  · rfl
  · apply nodup_listed
  · intro k
    change (listed shown attributeKeys).lookup k = shown k
    rw [lookup_listed]
    split
    · rfl
    · next other => rw [others k other]

/-! ### The attributes of fragments -/

theorem typeAttribute_eq (type : Option QName) :
  typeAttribute type = optionalAttribute "type" (type.map (·.localName))
  := by
  cases type with
  | none => rfl
  | some type => rfl

theorem fixedAttribute_eq (value : Option String) :
  fixedAttribute value = optionalAttribute "fixed" value
  := by
  cases value with
  | none => rfl
  | some value => rfl

theorem optionalAttribute_shownBound (key : String) (n : UInt32) :
  optionalAttribute key (shownBound n) = if n = 1 then [] else [(key, toString n.toNat)]
  := by
  rw [shownBound, optionalAttribute]
  split
  · rfl
  · rfl

theorem Occurs.attributes_eq (o : Occurs) :
  o.attributes = optionalAttribute "minOccurs" (o.shown "minOccurs")
    ++ optionalAttribute "maxOccurs" (o.shown "maxOccurs")
  := by
  obtain ⟨min, max⟩ := o
  cases max with
  | bounded n =>
      simp only [attributes, shown, optionalAttribute_shownBound]
  | unbounded =>
      simp only [attributes, shown, optionalAttribute_shownBound]
      rfl

theorem Occurs.listed_shown (o : Occurs) :
  listed o.shown attributeKeys = o.attributes
  := by
  simp [listed, attributeKeys, shown, attributes_eq, optionalAttribute]

theorem ElementDecl.listed_shown (d : ElementDecl) (o : Occurs) :
  listed (d.shown o) attributeKeys
    = [("name", d.name.localName)] ++ typeAttribute d.typeName ++ fixedAttribute d.fixedValue
      ++ o.attributes
  := by
  simp [listed, attributeKeys, shown, Occurs.shown, typeAttribute_eq, fixedAttribute_eq,
    Occurs.attributes_eq, optionalAttribute]

theorem listed_refShown (name : QName) (o : Occurs) :
  listed (refShown name o) attributeKeys = [("ref", name.localName)] ++ o.attributes
  := by
  simp [listed, attributeKeys, refShown, Occurs.shown, Occurs.attributes_eq, optionalAttribute]

theorem AttributeUse.listed_shown (u : AttributeUse) :
  listed u.shown attributeKeys
    = [("name", u.decl.name.localName)] ++ typeAttribute u.decl.typeName
      ++ (if u.required then [("use", "required")] else [])
      ++ fixedAttribute (u.fixedValue.or u.decl.fixedValue)
  := by
  cases needed : u.required with
  | true =>
      simp [listed, attributeKeys, shown, typeAttribute_eq, fixedAttribute_eq, needed,
        optionalAttribute]
  | false =>
      simp [listed, attributeKeys, shown, typeAttribute_eq, fixedAttribute_eq, needed,
        optionalAttribute]

/-- A single attribute is listed, if its key is among those of fragments. -/
theorem listed_onlyShown {key : String} (h : key = "name" ∨ key = "ref") (value : String) :
  listed (onlyShown key value) attributeKeys = [(key, value)]
  := by
  rcases h with rfl | rfl
  · simp [listed, attributeKeys, onlyShown, optionalAttribute]
  · simp [listed, attributeKeys, onlyShown, optionalAttribute]

theorem listed_none :
  listed (fun _ => none) attributeKeys = []
  := rfl

/-! ### Keys that are not written -/

section

variable {k : String} (h : k ∉ attributeKeys)
include h

theorem Occurs.shown_eq_none (o : Occurs) :
  o.shown k = none
  := by
  simp only [attributeKeys, List.mem_cons, List.mem_nil_iff, or_false, not_or] at h
  simp [shown, h]

theorem ElementDecl.shown_eq_none (d : ElementDecl) (o : Occurs) :
  d.shown o k = none
  := by
  have bounds := o.shown_eq_none h
  simp only [attributeKeys, List.mem_cons, List.mem_nil_iff, or_false, not_or] at h
  simp [shown, h, bounds]

theorem refShown_eq_none (name : QName) (o : Occurs) :
  refShown name o k = none
  := by
  have bounds := o.shown_eq_none h
  simp only [attributeKeys, List.mem_cons, List.mem_nil_iff, or_false, not_or] at h
  simp [refShown, h, bounds]

theorem AttributeUse.shown_eq_none (u : AttributeUse) :
  u.shown k = none
  := by
  simp only [attributeKeys, List.mem_cons, List.mem_nil_iff, or_false, not_or] at h
  simp [shown, h]

theorem onlyShown_eq_none {key : String} (listed : key ∈ attributeKeys) (value : String) :
  onlyShown key value k = none
  := by
  apply if_neg
  rintro rfl
  apply h listed

end

/-! ### Fragments as trees -/

/-- The tags of fragments. -/
def tagNames : List String :=
  ["xs:element", "xs:group", "xs:sequence", "xs:choice", "xs:all", "xs:any", "xs:attribute",
    "xs:attributeGroup"]

theorem isName_of_mem_tagNames {name : String} (h : name ∈ tagNames) :
  Xml.IsName name.toList
  := by
  have names : tagNames.all fun name =>
      ! name.toList.isEmpty && name.toList.all (! Xml.isMark ·) := by
    decide +kernel
  have plain := List.all_eq_true.mp names name h
  simp only [Bool.and_eq_true, Bool.not_eq_true'] at plain
  apply Xml.IsName.of_all plain.1 plain.2

theorem Compositor.mem_tagNames (c : Compositor) :
  "xs:" ++ c.schemaName ∈ tagNames
  := by
  cases c with
  | sequence => decide +kernel
  | choice => decide +kernel
  | all => decide +kernel

section

variable {name : String} (h : name ∈ tagNames) (shown : String → Option String)
include h

theorem wellFormed_leaf :
  (Xml.Markup.leaf name (listed shown attributeKeys)).WellFormed
  := Xml.Markup.WellFormed.leaf (isName_of_mem_tagNames h) isName_of_mem_listed
    (nodup_listed shown)

theorem wellFormed_branch {content : List Xml.Markup} (within : ∀ m ∈ content, m.WellFormed) :
  (Xml.Markup.branch name (listed shown attributeKeys) content).WellFormed
  := Xml.Markup.WellFormed.branch (isName_of_mem_tagNames h) isName_of_mem_listed
    (nodup_listed shown) within

end

theorem Compositor.wellFormed_fragment (c : Compositor) (shown : String → Option String)
    {content : List Xml.Markup} (within : ∀ m ∈ content, m.WellFormed) :
  (c.fragment (listed shown attributeKeys) content).WellFormed
  := by
  rw [fragment]
  split
  · apply wellFormed_leaf c.mem_tagNames
  · apply wellFormed_branch c.mem_tagNames shown within

/-- An element with nothing within it is the same element in both forms. -/
theorem Compositor.tree_fragment (c : Compositor) (attributes : List (String × String))
    (content : List Xml.Markup) :
  (c.fragment attributes content).tree
    = .element ("xs:" ++ c.schemaName) attributes (Xml.contentTrees content)
  := by
  rw [fragment]
  split
  · next empty =>
      rw [List.isEmpty_iff.mp empty]
      rfl
  · rfl

namespace Particle

mutual

theorem wellFormed_fragment (p : Particle) :
  p.fragment.WellFormed
  := by
  cases p with
  | element o d =>
      rw [fragment, ← ElementDecl.listed_shown]
      apply wellFormed_leaf (by decide +kernel)
  | groupRef o name =>
      rw [fragment, ← listed_refShown]
      apply wellFormed_leaf (by decide +kernel)
  | group o compositor particles =>
      rw [fragment, ← Occurs.listed_shown]
      apply compositor.wellFormed_fragment _ (wellFormed_fragments particles)
  | wildcard o =>
      rw [fragment, ← Occurs.listed_shown]
      apply wellFormed_leaf (by decide +kernel)

theorem wellFormed_fragments (particles : List Particle) :
  ∀ m ∈ fragments particles, m.WellFormed
  := by
  cases particles with
  | nil =>
      intro m mem
      cases mem
  | cons p particles =>
      have first := p.wellFormed_fragment
      have others := wellFormed_fragments particles
      intro m mem
      rcases List.mem_cons.mp mem with rfl | mem
      · apply first
      · apply others m mem

end

mutual

/-- The fragment of a particle shows it. -/
theorem shownBy_fragment (p : Particle) :
  ShownBy p.fragment.tree p
  := by
  cases p with
  | element o d =>
      rw [fragment, ← ElementDecl.listed_shown]
      exact ⟨Xml.Tree.is_listed _ [] (fun _ other => d.shown_eq_none other o), rfl⟩
  | groupRef o name =>
      rw [fragment, ← listed_refShown]
      exact ⟨Xml.Tree.is_listed _ [] (fun _ other => refShown_eq_none other name o), rfl⟩
  | group o compositor particles =>
      rw [fragment, ← Occurs.listed_shown, Compositor.tree_fragment]
      exact ⟨Xml.Tree.is_listed _ _ (fun _ other => o.shown_eq_none other),
        allShownBy_fragments particles⟩
  | wildcard o =>
      rw [fragment, ← Occurs.listed_shown]
      exact ⟨Xml.Tree.is_listed _ [] (fun _ other => o.shown_eq_none other), rfl⟩

theorem allShownBy_fragments (particles : List Particle) :
  AllShownBy (Xml.contentTrees (fragments particles)) particles
  := by
  cases particles with
  | nil => trivial
  | cons p particles => exact ⟨p.shownBy_fragment, allShownBy_fragments particles⟩

end

end Particle

/-- The element of the use of an attribute or of an inclusion. -/
def useFragment : AttributeUse ⊕ QName → Xml.Markup
  | .inl u => u.fragment
  | .inr group => .leaf "xs:attributeGroup" [("ref", group.localName)]

theorem wellFormed_useFragment (use : AttributeUse ⊕ QName) :
  (useFragment use).WellFormed
  := by
  cases use with
  | inl u =>
      rw [useFragment, AttributeUse.fragment, ← AttributeUse.listed_shown]
      apply wellFormed_leaf (by decide +kernel)
  | inr group =>
      rw [useFragment, ← listed_onlyShown (.inr rfl)]
      apply wellFormed_leaf (by decide +kernel)

/-- The fragment of a use shows it. -/
theorem showsUse_useFragment (use : AttributeUse ⊕ QName) :
  (useFragment use).tree.ShowsUse use
  := by
  cases use with
  | inl u =>
      rw [useFragment, AttributeUse.fragment, ← AttributeUse.listed_shown]
      exact ⟨Xml.Tree.is_listed _ [] (fun _ other => u.shown_eq_none other), rfl⟩
  | inr group =>
      rw [useFragment, ← listed_onlyShown (.inr rfl)]
      exact ⟨Xml.Tree.is_listed _ [] (fun _ other => onlyShown_eq_none other (by decide) _), rfl⟩

namespace GroupDecl

/-- The tree of the fragment of an attribute group, whether anything is within it or not. -/
theorem fragment_attribute (d : AttributeGroupDecl) :
  fragment (.attribute d)
    = if (d.uses.map useFragment).isEmpty then
        .leaf "xs:attributeGroup" [("name", d.name.localName)]
      else .branch "xs:attributeGroup" [("name", d.name.localName)] (d.uses.map useFragment)
  := by
  have content : d.uses.map useFragment
      = d.attributeUses.map AttributeUse.fragment
        ++ d.attributeGroups.map
          fun name => .leaf "xs:attributeGroup" [("ref", name.localName)] := by
    rw [AttributeGroupDecl.uses, List.map_append, List.map_map, List.map_map]
    rfl
  rw [content]
  rfl

theorem wellFormed_fragment (d : GroupDecl) :
  d.fragment.WellFormed
  := by
  cases d with
  | model d =>
      rw [fragment, ModelGroup.fragment, ← listed_onlyShown (.inl rfl), ← listed_none]
      apply wellFormed_branch (by decide +kernel)
      intro m mem
      obtain rfl := List.mem_singleton.mp mem
      apply Compositor.wellFormed_fragment
      apply Particle.wellFormed_fragments
  | «attribute» d =>
      rw [fragment_attribute, ← listed_onlyShown (.inl rfl)]
      split
      · apply wellFormed_leaf (by decide +kernel)
      · apply wellFormed_branch (by decide +kernel)
        intro m mem
        obtain ⟨use, -, rfl⟩ := List.mem_map.mp mem
        apply wellFormed_useFragment

/-- The fragment of a declaration shows it. -/
theorem shownBy_fragment (d : GroupDecl) :
  d.ShownBy d.fragment.tree
  := by
  cases d with
  | model d =>
      rw [fragment, ModelGroup.fragment, ← listed_onlyShown (.inl rfl), ← listed_none]
      refine ⟨Xml.Tree.is_listed _ _ fun _ other => onlyShown_eq_none other (by decide) _, ?_⟩
      use (d.group.compositor.fragment (listed (fun _ => none) attributeKeys)
        (Particle.fragments d.group.particles)).tree, rfl
      rw [Compositor.tree_fragment]
      use Xml.Tree.is_listed _ _ fun _ _ => rfl
      apply Particle.allShownBy_fragments
  | «attribute» d =>
      have tree : (fragment (.attribute d)).tree
          = .element "xs:attributeGroup" (listed (onlyShown "name" d.name.localName) attributeKeys)
            (d.uses.map fun use => (useFragment use).tree) := by
        rw [fragment_attribute, ← listed_onlyShown (.inl rfl)]
        split
        · next empty =>
            rw [List.map_eq_nil_iff.mp (List.isEmpty_iff.mp empty)]
            rfl
        · rw [Xml.Markup.tree, Xml.contentTrees_eq, List.map_map]
          rfl
      rw [tree]
      refine ⟨Xml.Tree.is_listed _ _ fun _ other => onlyShown_eq_none other (by decide) _, ?_⟩
      apply List.forall₂_map_left_iff.mpr
      apply List.forall₂_same.mpr
      intro use _
      apply showsUse_useFragment

end GroupDecl

end GroupInterfaces
