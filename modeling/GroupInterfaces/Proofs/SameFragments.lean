import GroupInterfaces.Proofs.Fragments

/-!
# Declarations with the same fragment

A bare declaration has nothing that its fragment does not show: no namespaces, no customization
and no places. The fragment of a declaration is read back as one tree, and all declarations that
it shows have the same bare form. So declarations have the same fragment exactly if their bare
forms are the same.
-/

namespace GroupInterfaces

/-! ### Bare declarations -/

/-- The name without its namespace. -/
def QName.bare (q : QName) : QName := { q with space := "" }

/-- The name, the type and the fixed value of an element. -/
def ElementDecl.bare (d : ElementDecl) : ElementDecl where
  name := d.name.bare
  typeName := d.typeName.map QName.bare
  fixedValue := d.fixedValue

/-- The use of an attribute with the fixed value that counts. -/
def AttributeUse.bare (u : AttributeUse) : AttributeUse where
  decl :=
    { name := u.decl.name.bare
      typeName := u.decl.typeName.map QName.bare }
  required := u.required
  fixedValue := u.fixedValue.or u.decl.fixedValue

namespace Particle

mutual

/-- The particle with bare elements and references. -/
def bare : Particle → Particle
  | .element o d => .element o d.bare
  | .groupRef o name => .groupRef o name.bare
  | .group o compositor particles => .group o compositor (bareAll particles)
  | .wildcard o => .wildcard o

/-- Bare particles, in order. -/
def bareAll : List Particle → List Particle
  | [] => []
  | p :: particles => bare p :: bareAll particles

end

end Particle

/-- The bare use of an attribute, or the inclusion of a group without its namespace. -/
def bareUse : AttributeUse ⊕ QName → AttributeUse ⊕ QName := Sum.map AttributeUse.bare QName.bare

/-- The attribute group with bare uses and inclusions. -/
def AttributeGroupDecl.bare (d : AttributeGroupDecl) : AttributeGroupDecl where
  name := d.name.bare
  attributeUses := d.attributeUses.map AttributeUse.bare
  attributeGroups := d.attributeGroups.map QName.bare

/-- What the fragment of a declaration shows of it. -/
def GroupDecl.bare : GroupDecl → GroupDecl
  | .model d =>
    .model
      { name := d.name.bare
        group :=
          { compositor := d.group.compositor
            particles := Particle.bareAll d.group.particles } }
  | .attribute d => .attribute d.bare

/-! ### Bare declarations have the same fragment -/

theorem typeAttribute_map_bare (type : Option QName) :
  typeAttribute (type.map QName.bare) = typeAttribute type
  := by
  cases type with
  | none => rfl
  | some type => rfl

theorem AttributeUse.fragment_bare (u : AttributeUse) :
  u.bare.fragment = u.fragment
  := by
  simp only [fragment, bare, typeAttribute_map_bare, Option.or_none]
  rfl

namespace Particle

mutual

theorem fragment_bare (p : Particle) :
  p.bare.fragment = p.fragment
  := by
  cases p with
  | element o d =>
      simp only [bare, fragment, ElementDecl.bare, typeAttribute_map_bare]
      rfl
  | groupRef o name => rfl
  | group o compositor particles => rw [bare, fragment, fragments_bareAll particles, fragment]
  | wildcard o => rfl

theorem fragments_bareAll (particles : List Particle) :
  fragments (bareAll particles) = fragments particles
  := by
  cases particles with
  | nil => rfl
  | cons p particles =>
      rw [bareAll, fragments, p.fragment_bare, fragments_bareAll particles, fragments]

end

end Particle

theorem useFragment_bareUse (use : AttributeUse ⊕ QName) :
  useFragment (bareUse use) = useFragment use
  := by
  cases use with
  | inl u => apply u.fragment_bare
  | inr group => rfl

theorem AttributeGroupDecl.uses_bare (d : AttributeGroupDecl) :
  d.bare.uses = d.uses.map bareUse
  := by
  rw [uses, uses, List.map_append, List.map_map, List.map_map, bare, List.map_map, List.map_map]
  rfl

theorem GroupDecl.fragment_bare (d : GroupDecl) :
  d.bare.fragment = d.fragment
  := by
  cases d with
  | model d =>
      rw [bare, fragment, fragment, ModelGroup.fragment, Particle.fragments_bareAll]
      rfl
  | «attribute» d =>
      have same : d.bare.uses.map useFragment = d.uses.map useFragment := by
        rw [d.uses_bare, List.map_map]
        apply List.map_congr_left
        intro use _
        apply useFragment_bareUse
      rw [bare, fragment_attribute, fragment_attribute, same]
      rfl

/-! ### Bounds of occurrence -/

theorem toString_ne_unbounded (n : Nat) :
  toString n ≠ "unbounded"
  := by
  intro same
  have digit : 'u'.isDigit = true := by
    apply Nat.isDigit_of_mem_toDigits (b := 10) (n := n) (by decide) (by decide)
    rw [← String.toList_ofList (l := Nat.toDigits 10 n), ← Nat.repr_eq_ofList_toDigits]
    change 'u' ∈ (toString n).toList
    rw [same]
    decide
  cases digit

theorem shownBound_injective :
  Function.Injective shownBound
  := by
  intro n n' same
  rw [shownBound, shownBound] at same
  split at same
  · next one =>
      split at same
      · next one' => rw [one, one']
      · cases same
  · split at same
    · cases same
    · apply UInt32.toNat_inj.mp
      apply Nat.repr_inj.mp (Option.some.inj same)

theorem shownBound_ne_unbounded (n : UInt32) :
  shownBound n ≠ some "unbounded"
  := by
  rw [shownBound]
  split
  · intro same
    cases same
  · intro same
    apply toString_ne_unbounded n.toNat (Option.some.inj same)

/-- The attributes determine the bounds. -/
theorem Occurs.eq_of_shown {o o' : Occurs} (least : o.shown "minOccurs" = o'.shown "minOccurs")
    (most : o.shown "maxOccurs" = o'.shown "maxOccurs") :
  o = o'
  := by
  obtain ⟨min, max⟩ := o
  obtain ⟨min', max'⟩ := o'
  obtain rfl : min = min' := shownBound_injective least
  cases max with
  | bounded n =>
      cases max' with
      | bounded n' =>
          obtain rfl : n = n' := shownBound_injective most
          rfl
      | unbounded => cases shownBound_ne_unbounded n most
  | unbounded =>
      cases max' with
      | bounded n' => cases shownBound_ne_unbounded n' most.symm
      | unbounded => rfl

/-! ### Elements determine what they show -/

/-- An element has one name, and it has the same attributes in all respects. -/
theorem Xml.Tree.Is.unique {t : Tree} {name name' : String}
    {attributes attributes' : String → Option String} (h : t.Is name attributes)
    (h' : t.Is name' attributes') :
  name = name' ∧ attributes = attributes'
  := by
  constructor
  · rw [← h.name_eq, ← h'.name_eq]
  · funext key
    rw [← h.lookup_eq, ← h'.lookup_eq]

theorem QName.bare_eq_of_localName {q q' : QName} (h : q.localName = q'.localName) :
  q.bare = q'.bare
  := by
  rw [bare, bare, h]

theorem QName.map_bare_eq_of_localName {type type' : Option QName}
    (h : type.map (·.localName) = type'.map (·.localName)) :
  type.map bare = type'.map bare
  := by
  have split : bare = (QName.mk "") ∘ (·.localName) := rfl
  rw [split, ← Option.map_map, ← Option.map_map, h]

theorem ElementDecl.bare_eq_of_shown {d d' : ElementDecl} {o o' : Occurs}
    (h : d.shown o = d'.shown o') :
  o = o' ∧ d.bare = d'.bare
  := by
  constructor
  · exact Occurs.eq_of_shown (congrFun h "minOccurs") (congrFun h "maxOccurs")
  · have name : some d.name.localName = some d'.name.localName := congrFun h "name"
    have type := QName.map_bare_eq_of_localName (congrFun h "type")
    have value : d.fixedValue = d'.fixedValue := congrFun h "fixed"
    rw [bare, bare, QName.bare_eq_of_localName (Option.some.inj name), type, value]

theorem bare_eq_of_refShown {name name' : QName} {o o' : Occurs}
    (h : refShown name o = refShown name' o') :
  o = o' ∧ name.bare = name'.bare
  := by
  constructor
  · exact Occurs.eq_of_shown (congrFun h "minOccurs") (congrFun h "maxOccurs")
  · have ref : some name.localName = some name'.localName := congrFun h "ref"
    apply QName.bare_eq_of_localName (Option.some.inj ref)

theorem AttributeUse.bare_eq_of_shown {u u' : AttributeUse} (h : u.shown = u'.shown) :
  u.bare = u'.bare
  := by
  have name : some u.decl.name.localName = some u'.decl.name.localName := congrFun h "name"
  have type := QName.map_bare_eq_of_localName (congrFun h "type")
  have value : u.fixedValue.or u.decl.fixedValue = u'.fixedValue.or u'.decl.fixedValue :=
    congrFun h "fixed"
  have needed : u.required = u'.required := by
    have use := congrFun h "use"
    simp only [shown] at use
    cases first : u.required with
    | false =>
        cases second : u'.required with
        | false => rfl
        | true => simp [first, second] at use
    | true =>
        cases second : u'.required with
        | false => simp [first, second] at use
        | true => rfl
  rw [bare, bare, QName.bare_eq_of_localName (Option.some.inj name), type, value, needed]

theorem bare_eq_of_onlyShown {key : String} {name name' : QName}
    (h : onlyShown key name.localName = onlyShown key name'.localName) :
  name.bare = name'.bare
  := by
  have value := congrFun h key
  rw [onlyShown, onlyShown, if_pos rfl, if_pos rfl] at value
  apply QName.bare_eq_of_localName (Option.some.inj value)

/-- The name of the tag determines the compositor. -/
theorem Compositor.tag_injective {c c' : Compositor}
    (h : "xs:" ++ c.schemaName = "xs:" ++ c'.schemaName) :
  c = c'
  := by
  revert h
  cases c <;> cases c' <;> decide +kernel

/-- A compositor has a tag of its own. -/
theorem Compositor.tag_ne (c : Compositor) :
  "xs:element" ≠ "xs:" ++ c.schemaName ∧ "xs:group" ≠ "xs:" ++ c.schemaName
    ∧ "xs:any" ≠ "xs:" ++ c.schemaName
  := by
  cases c <;> decide +kernel

namespace Particle

/-- The name of the tag of a particle. -/
def tagName : Particle → String
  | .element _ _ => "xs:element"
  | .groupRef _ _ => "xs:group"
  | .group _ c _ => "xs:" ++ c.schemaName
  | .wildcard _ => "xs:any"

theorem ShownBy.name_eq {t : Xml.Tree} {p : Particle} (h : ShownBy t p) :
  t.name = p.tagName
  := by
  cases p with
  | element o d => exact h.1.name_eq
  | groupRef o name => exact h.1.name_eq
  | group o c particles => exact h.1.name_eq
  | wildcard o => exact h.1.name_eq

/-- An element shows particles of one form only. -/
theorem tagName_eq {t : Xml.Tree} {p p' : Particle} (h : ShownBy t p) (h' : ShownBy t p') :
  p.tagName = p'.tagName
  := by
  rw [← h.name_eq, ← h'.name_eq]

mutual

/-- Particles that the same element shows are the same, as far as it shows them. -/
theorem bare_eq_of_shownBy {t : Xml.Tree} {p p' : Particle} (h : ShownBy t p)
    (h' : ShownBy t p') :
  p.bare = p'.bare
  := by
  have tag := tagName_eq h h'
  cases p with
  | element o d =>
      cases p' with
      | element o' d' =>
          obtain ⟨rfl, same⟩ := ElementDecl.bare_eq_of_shown (h.1.unique h'.1).2
          rw [bare, bare, same]
      | _ => simp [tagName, Compositor.tag_ne] at tag
  | groupRef o name =>
      cases p' with
      | groupRef o' name' =>
          obtain ⟨rfl, same⟩ := bare_eq_of_refShown (h.1.unique h'.1).2
          rw [bare, bare, same]
      | _ => simp [tagName, Compositor.tag_ne] at tag
  | group o c particles =>
      cases p' with
      | group o' c' particles' =>
          obtain rfl := Compositor.tag_injective tag
          have bounds := (h.1.unique h'.1).2
          obtain rfl := Occurs.eq_of_shown (congrFun bounds "minOccurs")
            (congrFun bounds "maxOccurs")
          rw [bare, bare, bareAll_eq_of_allShownBy h.2 h'.2]
      | _ =>
          symm at tag
          simp [tagName, Compositor.tag_ne] at tag
  | wildcard o =>
      cases p' with
      | wildcard o' =>
          have bounds := (h.1.unique h'.1).2
          rw [Occurs.eq_of_shown (congrFun bounds "minOccurs") (congrFun bounds "maxOccurs")]
      | _ => simp [tagName, Compositor.tag_ne] at tag

/-- Particles that the same elements show in order are the same, as far as they show them. -/
theorem bareAll_eq_of_allShownBy {trees : List Xml.Tree} {ps ps' : List Particle}
    (h : AllShownBy trees ps) (h' : AllShownBy trees ps') :
  bareAll ps = bareAll ps'
  := by
  cases trees with
  | nil =>
      cases ps with
      | nil =>
          cases ps' with
          | nil => rfl
          | cons p' ps' => cases h'
      | cons p ps => cases h
  | cons t trees =>
      cases ps with
      | nil => cases h
      | cons p ps =>
          cases ps' with
          | nil => cases h'
          | cons p' ps' =>
              rw [bareAll, bareAll, bare_eq_of_shownBy h.1 h'.1, bareAll_eq_of_allShownBy h.2 h'.2]

end

end Particle

/-! ### Declarations -/

theorem bareUse_eq_of_showsUse {t : Xml.Tree} {use use' : AttributeUse ⊕ QName}
    (h : t.ShowsUse use) (h' : t.ShowsUse use') :
  bareUse use = bareUse use'
  := by
  cases use with
  | inl u =>
      cases use' with
      | inl u' => exact congrArg Sum.inl (AttributeUse.bare_eq_of_shown (h.1.unique h'.1).2)
      | inr name' => exact absurd (h.1.unique h'.1).1 (by decide +kernel)
  | inr name =>
      cases use' with
      | inl u' => exact absurd (h.1.unique h'.1).1 (by decide +kernel)
      | inr name' => exact congrArg Sum.inr (bare_eq_of_onlyShown (h.1.unique h'.1).2)

theorem map_bareUse_eq_of_showsUse {trees : List Xml.Tree}
    {uses uses' : List (AttributeUse ⊕ QName)}
    (h : List.Forall₂ Xml.Tree.ShowsUse trees uses)
    (h' : List.Forall₂ Xml.Tree.ShowsUse trees uses') :
  uses.map bareUse = uses'.map bareUse
  := by
  induction h generalizing uses' with
  | nil =>
      cases h'
      rfl
  | cons shows _ ih =>
      cases h' with
      | cons shows' rest' =>
          rw [List.map_cons, List.map_cons, bareUse_eq_of_showsUse shows shows', ih rest']

/-- The uses of attributes come before the inclusions. -/
theorem AttributeGroupDecl.eq_of_uses {d d' : AttributeGroupDecl} (h : d.uses = d'.uses) :
  d.attributeUses = d'.attributeUses ∧ d.attributeGroups = d'.attributeGroups
  := by
  have parts (d : AttributeGroupDecl) : d.uses.filterMap Sum.getLeft? = d.attributeUses
      ∧ d.uses.filterMap Sum.getRight? = d.attributeGroups := by
    simp [uses, List.filterMap_append, List.filterMap_map, Function.comp_def]
  rw [← (parts d).1, ← (parts d').1, ← (parts d).2, ← (parts d').2, h]
  exact ⟨rfl, rfl⟩

namespace GroupDecl

/-- Declarations that the same element shows are the same, as far as it shows them. -/
theorem bare_eq_of_shownBy {t : Xml.Tree} {d d' : GroupDecl} (h : d.ShownBy t)
    (h' : d'.ShownBy t) :
  d.bare = d'.bare
  := by
  cases d with
  | model d =>
      cases d' with
      | model d' =>
          obtain ⟨named, body, within, shown, all⟩ := h
          obtain ⟨named', body', within', shown', all'⟩ := h'
          obtain rfl : body = body' := by simpa [within] using within'
          have name := bare_eq_of_onlyShown (named.unique named').2
          have compositor := Compositor.tag_injective (shown.unique shown').1
          have particles := Particle.bareAll_eq_of_allShownBy all all'
          rw [bare, bare, name, particles, compositor]
      | «attribute» d' => exact absurd (h.1.unique h'.1).1 (by decide +kernel)
  | «attribute» d =>
      cases d' with
      | model d' => exact absurd (h.1.unique h'.1).1 (by decide +kernel)
      | «attribute» d' =>
          have name := bare_eq_of_onlyShown (h.1.unique h'.1).2
          have uses := map_bareUse_eq_of_showsUse h.2 h'.2
          rw [← AttributeGroupDecl.uses_bare, ← AttributeGroupDecl.uses_bare] at uses
          obtain ⟨attributes, groups⟩ := AttributeGroupDecl.eq_of_uses uses
          simp only [AttributeGroupDecl.bare] at attributes groups
          rw [bare, bare, AttributeGroupDecl.bare, AttributeGroupDecl.bare, name, attributes,
            groups]

/-- The fragment of a declaration is read back as a single tree, which shows the declaration.
Declarations have the same fragment exactly if they are the same, as far as it shows them. -/
theorem exists_shownBy_and_render_fragment_eq_iff (d : GroupDecl) :
  (∃ t, Xml.readTrees? d.fragment.render = some [t] ∧ d.ShownBy t)
    ∧ ∀ d' : GroupDecl, d.fragment.render = d'.fragment.render ↔ d.bare = d'.bare
  := by
  have read (d : GroupDecl) := d.wellFormed_fragment.readTrees?_render
  constructor
  · use d.fragment.tree, read d
    apply d.shownBy_fragment
  · intro d'
    constructor
    · intro same
      have trees : some [d.fragment.tree] = some [d'.fragment.tree] := by
        rw [← read d, ← read d', same]
      obtain ⟨tree, -⟩ := List.cons.inj (Option.some.inj trees)
      have shows' := d'.shownBy_fragment
      rw [← tree] at shows'
      apply bare_eq_of_shownBy d.shownBy_fragment shows'
    · intro same
      rw [← d.fragment_bare, same, d'.fragment_bare]

end GroupDecl

end GroupInterfaces
