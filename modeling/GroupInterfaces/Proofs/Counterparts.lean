import GroupInterfaces.Proofs.AccessorNames
import GroupInterfaces.Proofs.EndingAlike
import GroupInterfaces.Proofs.Failing

/-!
# Steps under different settings

Under different settings, one and the same step makes outlines that are the same but for the
interfaces that were made so far: each of these has the methods that one class has for the same
fields under the settings. Whatever comes behind the synthesis of an interface does not look at
these methods, except for builders, who ask for getters only, and getters do not depend on
settings.
-/

namespace GroupInterfaces

/-! ### Accessors under different settings -/

namespace GeneratedClass

variable (c : GeneratedClass) (s s' : Settings)

theorem getter_accessors_eq (f : Field) :
  (c.accessors s' f).getter = (c.accessors s f).getter
  := by
  rw [getter_accessors, getter_accessors]

/-- Whoever looks for the name of a getter finds no setter. -/
theorem find?_accessors {word : String} (getter : word ∈ ["get", "is"]) (stem : String)
    (fs : List Field) :
  (fs.flatMap fun f => (c.accessors s f).methods).find? (·.name = word ++ stem)
    = (fs.flatMap fun f => (c.accessors s f).getter.toList).find? (·.name = word ++ stem)
  := by
  have begins : word ∈ ["get", "is", "set"] := List.mem_append_left ["set"] getter
  have none : ∀ f, (c.accessors s f).setter.toList.find? (·.name = word ++ stem) = none := by
    intro f
    apply List.find?_eq_none.mpr
    intro m mem here
    obtain ⟨⟨name, -⟩, -⟩ := isSetterFor_of_setter_accessors (Option.mem_toList.mp mem)
    have same := (eq_of_append_stem begins (by simp)
      ((of_decide_eq_true here).symm.trans name)).1
    simp [same] at getter
  induction fs with
  | nil => rfl
  | cons f fs ih =>
      rw [List.flatMap_cons, List.flatMap_cons, List.find?_append, List.find?_append, ih,
        Accessors.methods, List.find?_append, none, Option.or_none]

end GeneratedClass

/-! ### Interfaces under different settings -/

/-- The second declaration is under the second settings what the first one is under the first:
its methods are those that the same class has for the same fields. -/
inductive InterfaceDecl.Counterpart (s s' : Settings) : InterfaceDecl → InterfaceDecl → Prop where
  | mk (name package doc : String) (c : GeneratedClass) (fs : List Field)
      (supertypes : List TypeRef) (nested : List (String × InterfaceDecl)) :
    Counterpart s s'
      (.mk name package doc (fs.flatMap fun f => (c.accessors s f).methods) supertypes nested)
      (.mk name package doc (fs.flatMap fun f => (c.accessors s' f).methods) supertypes nested)

namespace InterfaceDecl.Counterpart

variable {s s' : Settings} {d d' : InterfaceDecl} (h : d.Counterpart s s' d')
include h

theorem addSupertype (t : TypeRef) :
  (d.addSupertype t).Counterpart s s' (d'.addSupertype t)
  := by
  cases h
  apply mk

theorem withNested (nested : List (String × InterfaceDecl)) :
  (d.withNested nested).Counterpart s s' (d'.withNested nested)
  := by
  cases h
  apply mk

theorem findMethod?_eq {word : String} (getter : word ∈ ["get", "is"]) (stem : String) :
  d'.findMethod? (word ++ stem) = d.findMethod? (word ++ stem)
  := by
  cases h with
  | mk name package doc c fs supertypes nested =>
      have getters : (fs.flatMap fun f => (c.accessors s' f).getter.toList)
          = fs.flatMap fun f => (c.accessors s f).getter.toList := by
        apply List.flatMap_congr
        intro f _
        rw [c.getter_accessors_eq s s']
      simp only [findMethod?, InterfaceDecl.methods]
      rw [c.find?_accessors s' getter, c.find?_accessors s getter, getters]

theorem sameToBuilders :
  d.SameToBuilders d'
  := by
  have method : fluentMethod? d' = fluentMethod? d := by
    funext builderType f
    rw [fluentMethod?, fluentMethod?, h.findMethod?_eq (by simp), h.findMethod?_eq (by simp)]
  have fluent : ∀ r : BuilderRequest, r.fluent d' = r.fluent d := by
    intro r
    funext n
    rw [BuilderRequest.fluent, BuilderRequest.fluent, method]
  cases h
  exact ⟨rfl, rfl, rfl, fluent⟩

end InterfaceDecl.Counterpart

/-! ### Outlines that differ in some interfaces -/

namespace Outline

/-- The outlines have interfaces that are related in the slots of some types, and are the same
everywhere else. -/
structure DiffersAt (R : InterfaceDecl → InterfaceDecl → Prop) (ts : List TypeRef)
    (o o' : Outline) : Prop where
  frame : SameFrame o o'
  changed : ∀ t ∈ ts, ∃ d d', o.slot? t = some (.interface d) ∧ o'.slot? t = some (.interface d')
    ∧ R d d'
  kept : ∀ t, t ∉ ts → o'.slot? t = o.slot? t

namespace DiffersAt

variable {R R' : InterfaceDecl → InterfaceDecl → Prop} {ts ts' : List TypeRef} {t : TypeRef}
  {o o' o₁ o₁' : Outline}

theorem refl (o : Outline) :
  DiffersAt R [] o o
  where
  frame := .refl o
  changed t mem := by cases mem
  kept _ _ := rfl

theorem mono (h : DiffersAt R ts o o') (weaker : ∀ d d', R d d' → R' d d') :
  DiffersAt R' ts o o'
  where
  frame := h.frame
  changed := by
    intro t mem
    obtain ⟨d, d', slot, slot', related⟩ := h.changed t mem
    exact ⟨d, d', slot, slot', weaker d d' related⟩
  kept := h.kept

theorem of_mem_iff (h : DiffersAt R ts o o') (same : ∀ t, t ∈ ts' ↔ t ∈ ts) :
  DiffersAt R ts' o o'
  where
  frame := h.frame
  changed t mem := h.changed t ((same t).mp mem)
  kept t other := h.kept t (mt (same t).mpr other)

/-- Outlines whose slots are left as they are differ where they did. -/
theorem of_slots (h : DiffersAt R ts o o') (frame : SameFrame o₁ o₁')
    (slots : ∀ t, o₁.slot? t = o.slot? t) (slots' : ∀ t, o₁'.slot? t = o'.slot? t) :
  DiffersAt R ts o₁ o₁'
  where
  frame := frame
  changed t mem := by
    rw [slots, slots']
    apply h.changed t mem
  kept t other := by
    rw [slots, slots']
    apply h.kept t other

/-- In the slot of a type, there are interfaces that are related, or the same. -/
theorem slots (h : DiffersAt R ts o o') (t : TypeRef) :
  (t ∈ ts ∧ ∃ d d', o.slot? t = some (.interface d) ∧ o'.slot? t = some (.interface d') ∧ R d d')
    ∨ (t ∉ ts ∧ o'.slot? t = o.slot? t)
  := by
  by_cases mem : t ∈ ts
  · apply Or.inl ⟨mem, h.changed t mem⟩
  · apply Or.inr ⟨mem, h.kept t mem⟩

theorem hasPlaceFor_iff (h : DiffersAt R ts o o') {c : GeneratedClass} :
  o'.HasPlaceFor c ↔ o.HasPlaceFor c
  := by
  have package := congrArg Option.isSome (h.frame.packages c.package)
  rw [Option.isSome_map, Option.isSome_map] at package
  rcases h.slots c.typeRef with ⟨-, d, d', slot, slot', -⟩ | ⟨-, same⟩
  · simp [HasPlaceFor, slot, slot']
  · simp only [HasPlaceFor, package, same]

/-- Changing interfaces that are related so that they still are, and those that are the same in
the same way. -/
theorem modifyInterface (h : DiffersAt R ts o o') (t : TypeRef)
    {f f' : InterfaceDecl → InterfaceDecl}
    (related : ∀ {d d'}, o.slot? t = some (.interface d) → o'.slot? t = some (.interface d') →
      R d d' → R (f d) (f' d'))
    (same : ∀ {d}, o.slot? t = some (.interface d) → o'.slot? t = some (.interface d) →
      f' d = f d) :
  DiffersAt R ts (o.modifyInterface t f) (o'.modifyInterface t f')
  where
  frame := ((sameFrame_modifyInterface o t f).symm.trans h.frame).trans
    (sameFrame_modifyInterface o' t f')
  changed u mem := by
    obtain ⟨d, d', slot, slot', holds⟩ := h.changed u mem
    rw [slot?_modifyInterface, slot?_modifyInterface]
    by_cases here : u = t
    · rw [here] at slot slot'
      rw [if_pos here, if_pos here, slot, slot']
      exact ⟨f d, f' d', rfl, rfl, related slot slot' holds⟩
    · rw [if_neg here, if_neg here]
      exact ⟨d, d', slot, slot', holds⟩
  kept u other := by
    have kept := h.kept u other
    rw [slot?_modifyInterface, slot?_modifyInterface]
    by_cases here : u = t
    · rw [here] at kept
      rw [if_pos here, if_pos here, kept]
      cases slot : o.slot? t with
      | none => rfl
      | some content =>
          cases content with
          | «class» qualifiedName => rfl
          | interface d =>
              rw [slot] at kept
              simp only [Option.map_some, Slot.mapInterface, same slot kept]
    · rw [if_neg here, if_neg here, kept]

/-- A class is displaced in both outlines or in neither. If it is, then by the same interface,
which has no members yet. -/
theorem displace? (h : DiffersAt R ts o o') (c : GeneratedClass) (doc : String) :
  o.displace? c doc = none ∧ o'.displace? c doc = none
    ∨ ∃ o₁ o₁' package, o.displace? c doc = some o₁ ∧ o'.displace? c doc = some o₁'
      ∧ SameFrame o o₁ ∧ DiffersAt R ts o₁ o₁' ∧ c.typeRef ∉ ts
      ∧ o₁.slot? c.typeRef = some (.interface (.mk c.name package doc [] [] []))
  := by
  by_cases place : o.HasPlaceFor c
  · have place' := h.hasPlaceFor_iff.mpr place
    obtain ⟨p, found⟩ := Option.isSome_iff_exists.mp place.1
    obtain ⟨p', found', bare⟩ := h.frame.package found
    obtain ⟨o₁, displaced, frame, slots⟩ := displace?_of_hasPlaceFor doc found place
    obtain ⟨o₁', displaced', frame', slots'⟩ := displace?_of_hasPlaceFor doc found' place'
    have fresh : c.typeRef ∉ ts := by
      intro mem
      obtain ⟨d, d', slot, -⟩ := h.changed _ mem
      simpa [slot] using place.2
    right
    refine ⟨o₁, o₁', p.name, displaced, displaced', frame, ?_, fresh, by rw [slots, if_pos rfl]⟩
    use (frame.symm.trans h.frame).trans frame'
    · intro t mem
      have apart : t ≠ c.typeRef := fun same => fresh (same ▸ mem)
      rw [slots, slots', if_neg apart, if_neg apart]
      apply h.changed t mem
    · intro t other
      rw [slots, slots', Package.name_eq_of_bare_eq bare, h.kept t other]
  · left
    use displace?_eq_none_of_not doc place
    apply displace?_eq_none_of_not doc (mt h.hasPlaceFor_iff.mp place)

end DiffersAt

end Outline

/-! ### Synthesis -/

namespace Outline.DiffersAt

variable {s s' : Settings} {ts : List TypeRef} {t : TypeRef} {o o' : Outline}

/-- An interface without members that is the same in both outlines is given the methods of a class
for some fields. -/
theorem addMethods (h : DiffersAt (InterfaceDecl.Counterpart s s') ts o o') (other : t ∉ ts)
    {name package doc : String}
    (slot : o.slot? t = some (.interface (.mk name package doc [] [] [])))
    (c : GeneratedClass) (fs : List Field) :
  DiffersAt (InterfaceDecl.Counterpart s s') (ts ++ [t])
    (o.modifyInterface t (·.addMethods (fs.flatMap fun f => (c.accessors s f).methods)))
    (o'.modifyInterface t (·.addMethods (fs.flatMap fun f => (c.accessors s' f).methods)))
  where
  frame := ((sameFrame_modifyInterface o t _).symm.trans h.frame).trans
    (sameFrame_modifyInterface o' t _)
  changed u mem := by
    rw [slot?_modifyInterface, slot?_modifyInterface]
    by_cases here : u = t
    · rw [if_pos here, if_pos here, h.kept t other, slot]
      exact ⟨_, _, rfl, rfl, .mk name package doc c fs [] []⟩
    · rw [if_neg here, if_neg here]
      apply h.changed u
      simpa [here] using mem
  kept u fresh := by
    have apart : u ≠ t ∧ u ∉ ts := by simpa [and_comm] using fresh
    rw [slot?_modifyInterface, slot?_modifyInterface, if_neg apart.1, if_neg apart.1,
      h.kept u apart.2]

/-- A declaration comes to the same in both runs. If an interface is made for it, then the outlines
differ there as well. -/
theorem synthesize_cases (h : DiffersAt (InterfaceDecl.Counterpart s s') ts o o')
    (d : GroupDecl) :
  (∃ f o₁ o₁', synthesize s o d = (.error f, o₁) ∧ synthesize s' o' d = (.error f, o₁')
      ∧ SameFrame o o₁ ∧ DiffersAt (InterfaceDecl.Counterpart s s') ts o₁ o₁')
    ∨ ∃ i o₁ o₁', synthesize s o d = (.ok i, o₁) ∧ synthesize s' o' d = (.ok i, o₁')
      ∧ o.place? d = some i.typeRef ∧ SameFrame o o₁
      ∧ DiffersAt (InterfaceDecl.Counterpart s s') (ts ++ [i.typeRef]) o₁ o₁'
  := by
  cases found : o.placeholder d with
  | error e =>
      have found' : o'.placeholder d = .error e := (h.frame.placeholder d).trans found
      left
      use { error := e, locator := some d.locator }, o, o'
      refine ⟨?_, ?_, .refl o, h⟩
      · simp only [synthesize, found]
      · simp only [synthesize, found']
  | ok c =>
      have found' : o'.placeholder d = .ok c := (h.frame.placeholder d).trans found
      rcases h.displace? c d.documentation with
        ⟨none, none'⟩ | ⟨o₁, o₁', package, displaced, displaced', frame, differs, other, slot⟩
      · left
        use { error := .interfaceExists c.qualifiedName, locator := some d.locator }, o, o'
        refine ⟨?_, ?_, .refl o, h⟩
        · simp only [synthesize, found, none]
        · simp only [synthesize, found', none']
      · cases fields : publishedFields c d.name d.groupStructure.variableMembers with
        | error f =>
            left
            refine ⟨f, o₁, o₁', ?_, ?_, frame, differs⟩
            · simp only [synthesize, found, displaced, fields]
            · simp only [synthesize, found', displaced', fields]
        | ok fs =>
            right
            use { declaration := d, typeRef := c.typeRef, placeholder := c.typeRef
                  publishedFields := fs }
            refine ⟨_, _, ?_, ?_, ?_, ?_, differs.addMethods other slot c fs⟩
            · simp only [synthesize, found, displaced, fields]
            · simp only [synthesize, found', displaced', fields]
            · rw [place?, classForGroup?_of_placeholder found, Option.map_some]
            · apply frame.trans (sameFrame_modifyInterface _ _ _)

end Outline.DiffersAt

/-- Two batches for the same declarations have come to the same, and their outlines differ in the
interfaces that were made. -/
structure Batch.SideBySide (s s' : Settings) (o : Outline) (ts : List TypeRef)
    (ds : List GroupDecl) (b b' : Batch) : Prop where
  failure : b'.failure = b.failure
  interfaces : b'.interfaces = b.interfaces
  frame : o.SameFrame b.outline
  places : ∀ i ∈ b.interfaces, ∃ d ∈ ds, o.place? d = some i.typeRef
  outline : Outline.DiffersAt (InterfaceDecl.Counterpart s s')
    (ts ++ b.interfaces.map (·.typeRef)) b.outline b'.outline

namespace Outline.DiffersAt

section

variable {s s' : Settings} {ts : List TypeRef} {o o' : Outline}

theorem synthesizeAll (h : DiffersAt (InterfaceDecl.Counterpart s s') ts o o')
    (ds : List GroupDecl) :
  Batch.SideBySide s s' o ts ds (synthesizeAll s o ds) (synthesizeAll s' o' ds)
  := by
  induction ds generalizing ts o o' with
  | nil =>
      refine ⟨rfl, rfl, .refl o, fun i mem => (List.not_mem_nil mem).elim, ?_⟩
      simpa [GroupInterfaces.synthesizeAll] using h
  | cons d ds ih =>
      rcases h.synthesize_cases d with
        ⟨f, o₁, o₁', step, step', frame, differs⟩ | ⟨i, o₁, o₁', step, step', place, frame, differs⟩
      · simp only [GroupInterfaces.synthesizeAll, step, step']
        refine ⟨rfl, rfl, frame, fun i mem => (List.not_mem_nil mem).elim, ?_⟩
        simpa using differs
      · obtain ⟨failure, interfaces, frame', places, outline⟩ := ih differs
        simp only [GroupInterfaces.synthesizeAll, step, step']
        refine ⟨failure, by rw [interfaces], frame.trans frame', ?_, ?_⟩
        · intro j mem
          rcases List.mem_cons.mp mem with rfl | mem
          · use d, List.mem_cons_self, place
          · obtain ⟨e, mem', place'⟩ := places j mem
            rw [place?, frame.classForGroup?] at place'
            use e, List.mem_cons_of_mem d mem', place'
        · rw [List.append_assoc] at outline
          exact outline

theorem extend (h : DiffersAt (InterfaceDecl.Counterpart s s') ts o o') (t : TypeRef)
    (supertypes : List Supertype) :
  DiffersAt (InterfaceDecl.Counterpart s s') ts (o.extend t supertypes) (o'.extend t supertypes)
  := by
  induction supertypes generalizing o o' with
  | nil => apply h
  | cons supertype rest ih =>
      apply ih
      apply h.modifyInterface
      · intro d d' _ _ related
        apply related.addSupertype
      · intro d _ _
        rfl

theorem link (h : DiffersAt (InterfaceDecl.Counterpart s s') ts o o') (set : InterfaceSet)
    (index : Episode.Index) :
  DiffersAt (InterfaceDecl.Counterpart s s') ts (o.link set index) (o'.link set index)
  := by
  rw [Outline.link, Outline.link]
  generalize set.values = is
  induction is generalizing o o' with
  | nil => apply h
  | cons i is ih => apply ih (h.extend _ _)

end

end Outline.DiffersAt

/-! ### Binding and placeholders -/

namespace Outline

variable {R : InterfaceDecl → InterfaceDecl → Prop} {ts : List TypeRef} {o o' : Outline}

/-- Binding looks at classes only. -/
theorem DiffersAt.bind (h : DiffersAt R ts o o') (schema : SchemaSet)
    (modelGroups attributeGroups : InterfaceSet) (index : Episode.Index)
    (environment : Environment) :
  let b := o.bind schema modelGroups attributeGroups index environment
  let b' := o'.bind schema modelGroups attributeGroups index environment
  DiffersAt R ts b.outline b'.outline ∧ b'.associations = b.associations
    ∧ b'.warnings = b.warnings
  := by
  have bindable : o'.bindable = o.bindable := by
    rw [Outline.bindable, h.frame.classes, Outline.bindable]
  refine ⟨h.of_slots ⟨?_, ?_⟩ (slot?_bind _ _ _ _ _ _) (slot?_bind _ _ _ _ _ _), ?_, ?_⟩
  · apply SortedMap.ext_get?
    intro name
    rw [get?_classes_bind, get?_classes_bind, h.frame.classes]
  · intro name
    simp only [outline_bind, packages_bindClasses, h.frame.packages]
  · rw [associations_bind, associations_bind, bindable]
  · rw [warnings_bind, warnings_bind, bindable]

theorem SameFrame.removePlaceholder (h : SameFrame o o') (placeholder : TypeRef) :
  SameFrame (o.removePlaceholder placeholder) (o'.removePlaceholder placeholder)
  where
  classes := by simp only [Outline.removePlaceholder, modifyPackage, h.classes]
  packages name := by
    rw [get?_packages_removePlaceholder, get?_packages_removePlaceholder]
    split
    · have bare := congrArg
        (Option.map (·.removeFactoryMethods ("create" ++ placeholder.name))) (h.packages name)
      rw [Option.map_map, Option.map_map] at bare
      rw [Option.map_map, Option.map_map]
      apply bare
    · apply h.packages

/-- Which placeholders are removed depends on the frame only. -/
theorem SameFrame.removePlaceholders (h : SameFrame o o') (is : List SynthesizedInterface) :
  (o'.removePlaceholders is).1 = (o.removePlaceholders is).1
    ∧ SameFrame (o.removePlaceholders is).2 (o'.removePlaceholders is).2
  := by
  induction is generalizing o o' with
  | nil => exact ⟨rfl, h⟩
  | cons i is ih =>
      obtain ⟨removed, frame⟩ := ih (h.removePlaceholder i.placeholder)
      simp only [Outline.removePlaceholders, h.classes, removed]
      split
      · exact ⟨rfl, frame⟩
      · exact ⟨rfl, frame⟩

theorem DiffersAt.removePlaceholders (h : DiffersAt R ts o o')
    (is : List SynthesizedInterface) :
  (o'.removePlaceholders is).1 = (o.removePlaceholders is).1
    ∧ DiffersAt R ts (o.removePlaceholders is).2 (o'.removePlaceholders is).2
  := by
  obtain ⟨removed, frame⟩ := h.frame.removePlaceholders is
  use removed
  apply h.of_slots frame (slot?_removePlaceholders o is) (slot?_removePlaceholders o' is)

end Outline

/-! ### Builders -/

/-- Builders do not tell interfaces with the same getters apart, and what is nested in these they
change without looking at methods. -/
theorem Outline.keptByBuilders_differsAt (s s' : Settings) (ts : List TypeRef) :
  KeptByBuilders (DiffersAt (InterfaceDecl.Counterpart s s') ts)
  where
  alike := by
    intro o o' h t
    rw [interface?_eq, interface?_eq]
    rcases h.slots t with ⟨-, d, d', slot, slot', related⟩ | ⟨-, same⟩
    · right
      rw [slot, slot']
      exact ⟨d, d', rfl, rfl, related.sameToBuilders⟩
    · rw [same]
      cases (o.slot? t).bind Slot.interface? with
      | none => apply Or.inl ⟨rfl, rfl⟩
      | some d => apply Or.inr ⟨d, d, rfl, rfl, .refl d⟩
  kept := by
    intro o o' h t d d' found found' nested f f' changed changed'
    have here : ∀ {e}, o.slot? t = some (.interface e) → e = d := by
      intro e slot
      rw [interface?_eq, slot] at found
      apply Option.some.inj found
    have here' : ∀ {e}, o'.slot? t = some (.interface e) → e = d' := by
      intro e slot
      rw [interface?_eq, slot] at found'
      apply Option.some.inj found'
    apply h.modifyInterface
    · intro e e' slot slot' related
      obtain rfl := here slot
      obtain rfl := here' slot'
      rw [changed, changed']
      apply related.withNested
    · intro e slot slot'
      obtain rfl := here slot
      obtain rfl := here' slot'
      rw [changed, changed']

end GroupInterfaces
