import GroupInterfaces.Proofs.Recording
import GroupInterfaces.Proofs.Run

/-!
# Schemas in two parts

The groups of a schema set can be declared in two runs, the second of which builds on the record
of the first. The index that is read from this record then answers for each group of the first
part with the place of its placeholder, so that wherever the run for the whole set finds an
interface of its own, the second run finds the same interface, either its own or a published one.
-/

namespace GroupInterfaces

/-! ### Parts -/

/-- A schema set has the groups of two others, of each kind in their order. -/
structure SchemaSet.SplitInto (s upstream downstream : SchemaSet) : Prop where
  modelGroups : Interleaves upstream.modelGroups downstream.modelGroups s.modelGroups
  attributeGroups :
    Interleaves upstream.attributeGroups downstream.attributeGroups s.attributeGroups

/-- The schemas declare no group of a name with another kind than this one. -/
def SchemaSet.OnlyAs (s : SchemaSet) (kind : GroupKind) (group : QName) : Prop :=
  ∀ kind', kind' ≠ kind → ∀ d ∈ s.declarations kind', d.name ≠ group

/-- The groups of one kind that a type uses. -/
def ContentGroups.ofKind (groups : ContentGroups) : GroupKind → List QName
  | .modelGroup => groups.modelGroups
  | .attributeGroup => groups.attributeGroups

/-- Neither a class nor a group refers under one kind to the name of a group of the other kind. -/
structure SchemaSet.KindsApart (s : SchemaSet) (o : Outline) : Prop where
  classes : ∀ {name c t}, o.classes.get? name = some c → c.complexType? = some t →
    ∀ kind, ∀ q ∈ t.groups.ofKind kind, s.OnlyAs kind q
  groups : ∀ {kind}, ∀ d ∈ s.declarations kind, ∀ q ∈ d.groupStructure.groupRefs, s.OnlyAs kind q

/-- Classes are registered under their qualified names, and the names of placeholders do not
look like those of nested types. -/
structure Outline.WellKept (o : Outline) : Prop where
  keyed : ∀ {name c}, o.classes.get? name = some c → c.qualifiedName = name
  dotless : ∀ {name c group}, o.classes.get? name = some c → c.component = .group group →
    '.' ∉ c.name.toList

namespace SchemaSet

variable {s upstream downstream : SchemaSet} {index : Episode.Index} {kind : GroupKind}

theorem unpublished_eq (h : ∀ d ∈ s.declarations kind, index.get? d.name = none) :
  s.unpublished index kind = s.declarations kind
  := by
  apply List.filter_eq_self.mpr
  intro d mem
  rw [SortedMap.contains, h d mem]
  rfl

/-- Without an upstream episode, there are to be interfaces for all groups. -/
theorem unpublished_empty (s : SchemaSet) (kind : GroupKind) :
  s.unpublished {} kind = s.declarations kind
  := by
  apply unpublished_eq
  intro d _
  apply SortedMap.get?_empty

theorem pending_empty (s : SchemaSet) :
  s.pending {} = s.declarations .modelGroup ++ s.declarations .attributeGroup
  := by
  rw [pending, unpublished_empty, unpublished_empty]

theorem mem_pending_empty_iff {d : GroupDecl} :
  d ∈ s.pending {} ↔ ∃ kind, d ∈ s.declarations kind
  := by
  simp only [mem_pending_iff, unpublished_empty]

theorem locatorOf?_eq_none {group : QName}
    (h : ∀ kind, ∀ d ∈ s.declarations kind, d.name ≠ group) :
  s.locatorOf? group = none
  := by
  have models : s.modelGroups.find? (·.name = group) = none := by
    apply List.find?_eq_none.mpr
    intro d mem same
    apply h .modelGroup (.model d) (List.mem_map_of_mem mem)
    apply of_decide_eq_true same
  have attributes : s.attributeGroups.find? (·.name = group) = none := by
    apply List.find?_eq_none.mpr
    intro d mem same
    apply h .attributeGroup (.attribute d) (List.mem_map_of_mem mem)
    apply of_decide_eq_true same
  simp only [locatorOf?, models, attributes, Option.map_none]

namespace SplitInto

theorem declarations (h : s.SplitInto upstream downstream) (kind : GroupKind) :
  Interleaves (upstream.declarations kind) (downstream.declarations kind) (s.declarations kind)
  := by
  cases kind with
  | modelGroup => apply h.modelGroups.map
  | attributeGroup => apply h.attributeGroups.map

theorem upstream_sublist (h : s.SplitInto upstream downstream) :
  (upstream.pending {}).Sublist (s.pending {})
  := by
  rw [pending_empty, pending_empty]
  apply List.Sublist.append
  · apply (h.declarations .modelGroup).sublist_left
  · apply (h.declarations .attributeGroup).sublist_left

theorem downstream_sublist (h : s.SplitInto upstream downstream) :
  (downstream.pending {}).Sublist (s.pending {})
  := by
  rw [pending_empty, pending_empty]
  apply List.Sublist.append
  · apply (h.declarations .modelGroup).sublist_right
  · apply (h.declarations .attributeGroup).sublist_right

theorem pending_perm (h : s.SplitInto upstream downstream) :
  (s.pending {}).Perm (upstream.pending {} ++ downstream.pending {})
  := by
  have models := (h.declarations .modelGroup).perm
  have attributes := (h.declarations .attributeGroup).perm
  rw [pending_empty, pending_empty, pending_empty]
  apply (models.append attributes).trans
  rw [List.append_assoc, List.append_assoc]
  apply List.Perm.append_left
  rw [← List.append_assoc, ← List.append_assoc]
  apply List.Perm.append_right
  apply List.perm_append_comm

theorem mem_declarations_iff (h : s.SplitInto upstream downstream) {d : GroupDecl} :
  d ∈ s.declarations kind ↔ d ∈ upstream.declarations kind ∨ d ∈ downstream.declarations kind
  := (h.declarations kind).perm.mem_iff.trans List.mem_append

/-- Groups with names of their own have different names in the two parts. -/
theorem name_ne (h : s.SplitInto upstream downstream)
    (distinct : ((s.pending {}).map GroupDecl.name).Nodup) {kind' : GroupKind} {d e : GroupDecl}
    (hd : d ∈ upstream.declarations kind) (he : e ∈ downstream.declarations kind') :
  d.name ≠ e.name
  := by
  have parts := (h.pending_perm.map GroupDecl.name).nodup_iff.mp distinct
  rw [List.map_append] at parts
  intro same
  apply (List.nodup_append.mp parts).2.2 d.name _ e.name _ same
  · apply List.mem_map_of_mem (mem_pending_empty_iff.mpr ⟨kind, hd⟩)
  · apply List.mem_map_of_mem (mem_pending_empty_iff.mpr ⟨kind', he⟩)

end SplitInto

end SchemaSet

/-! ### Names of types -/

namespace TypeRef

/-- A text is split at a dot that has no dots behind it. -/
theorem ofQualifiedName_of_split {qualified package name : String}
    (split : qualified.toList = package.toList ++ '.' :: name.toList) (dotless : '.' ∉ name.toList) :
  ofQualifiedName qualified = ⟨package, name⟩
  := by
  have behind : qualified.toList.reverse.takeWhile (· ≠ '.') = name.toList.reverse := by
    rw [split, List.reverse_append, List.reverse_cons, List.append_assoc,
      List.takeWhile_append_of_pos]
    · simp
    · intro c mem
      apply decide_eq_true
      rintro rfl
      apply dotless (List.mem_reverse.mp mem)
  have front : qualified.toList.take (qualified.toList.length - name.toList.length - 1)
      = package.toList := by
    have length : qualified.toList.length - name.toList.length - 1 = package.toList.length := by
      rw [split, List.length_append, List.length_cons]
      omega
    rw [length, split, List.take_left]
  simp only [ofQualifiedName, behind, List.reverse_reverse, front, String.ofList_toList]

/-- A text without dots is a name in the unnamed package. -/
theorem ofQualifiedName_of_dotless {name : String} (dotless : '.' ∉ name.toList) :
  ofQualifiedName name = ⟨"", name⟩
  := by
  have all : name.toList.reverse.takeWhile (· ≠ '.') = name.toList.reverse := by
    apply List.takeWhile_eq_self_iff.mpr
    intro c mem
    apply decide_eq_true
    rintro rfl
    apply dotless (List.mem_reverse.mp mem)
  simp only [ofQualifiedName, all, List.reverse_reverse, String.ofList_toList, Nat.sub_self,
    Nat.zero_sub, List.take_zero]

/-- In a package that has a name, a qualified name is the name of the package, a dot, and the name
of the type. -/
theorem toList_qualifiedName {t : TypeRef} (named : t.package ≠ "") :
  t.qualifiedName.toList = t.package.toList ++ '.' :: t.name.toList
  := by
  rw [qualifiedName, if_neg named, String.toList_append, String.toList_append, List.append_assoc]
  rfl

/-- The qualified name of a type that is not nested tells the type. -/
theorem ofQualifiedName_qualifiedName {t : TypeRef} (h : '.' ∉ t.name.toList) :
  ofQualifiedName t.qualifiedName = t
  := by
  by_cases unnamed : t.package = ""
  · rw [qualifiedName, if_pos unnamed, ofQualifiedName_of_dotless h, ← unnamed]
  · apply ofQualifiedName_of_split (toList_qualifiedName unnamed) h

end TypeRef

namespace Outline

variable {o : Outline} {d : GroupDecl} {t : TypeRef}

/-- The placeholder of a group is registered, and was generated for the group. -/
theorem registered_of_classForGroup? {group : QName} {c : GeneratedClass}
    (found : o.classForGroup? group = some c) :
  ∃ name, o.classes.get? name = some c ∧ c.component = .group group
  := by
  obtain ⟨name, registered⟩ := SortedMap.mem_values_iff.mp (List.mem_of_find?_eq_some found)
  use name, registered
  have placeholder := List.find?_some found
  simp only [GeneratedClass.isPlaceholderOf] at placeholder
  split at placeholder
  · next group here => rw [here, of_decide_eq_true placeholder]
  · cases placeholder

/-- A place is the type of a class that is registered as a placeholder. -/
theorem exists_class_of_place? (h : o.place? d = some t) :
  ∃ name c, o.classes.get? name = some c ∧ c.component = .group d.name ∧ c.typeRef = t
  := by
  obtain ⟨c, found, type⟩ := Option.map_eq_some_iff.mp h
  obtain ⟨name, registered, component⟩ := registered_of_classForGroup? found
  use name, c

namespace WellKept

theorem ofQualifiedName_of_place? (h : o.WellKept) (place : o.place? d = some t) :
  TypeRef.ofQualifiedName t.qualifiedName = t
  := by
  obtain ⟨name, c, registered, component, rfl⟩ := exists_class_of_place? place
  apply TypeRef.ofQualifiedName_qualifiedName
  apply h.dotless registered component

/-- No class with a complex type is registered under the name of a place. -/
theorem qualifiedName_ne_of_place? (h : o.WellKept) (place : o.place? d = some t) {name : String}
    {c : GeneratedClass} (found : o.classes.get? name = some c) (type : c.complexType?.isSome) :
  t.qualifiedName ≠ name
  := by
  obtain ⟨name', c', registered, component, rfl⟩ := exists_class_of_place? place
  rintro rfl
  have same : c'.typeRef.qualifiedName = name' := h.keyed registered
  rw [same, registered] at found
  obtain rfl := Option.some.inj found
  rw [GeneratedClass.complexType?, component] at type
  cases type

end WellKept

end Outline

/-! ### The published index -/

/-- An index answers for the groups of some declarations, and for no others, with compiled
interfaces in the places of their placeholders. -/
structure Episode.Index.Publishes (index : Episode.Index) (o : Outline) (ds : List GroupDecl) :
    Prop where
  published : ∀ d ∈ ds, ∃ t, o.place? d = some t
    ∧ index.get? d.name = some { typeRef := t, availability := .compiled }
  others : ∀ {group}, (∀ d ∈ ds, d.name ≠ group) → index.get? group = none

namespace Outline

variable {o : Outline} {ds : List GroupDecl} {environment : Environment}

/-- What is recorded of the interfaces for declarations. -/
def recordFor (o : Outline) (ds : List GroupDecl) : Episode.Record :=
  (ds.filterMap o.interfaceFor?).map SynthesizedInterface.entry

theorem mem_recordFor_iff {e : Episode.Entry} :
  e ∈ o.recordFor ds ↔ ∃ d ∈ ds, ∃ t, o.place? d = some t
    ∧ e = { kind := d.kind, component := d.name, interface := t }
  := by
  rw [recordFor, List.mem_map]
  constructor
  · rintro ⟨i, mem, rfl⟩
    obtain ⟨d, mem, found⟩ := List.mem_filterMap.mp mem
    use d, mem, i.typeRef, place?_of_interfaceFor? found
    rw [SynthesizedInterface.entry, SynthesizedInterface.name, declaration_of_interfaceFor? found]
  · rintro ⟨d, mem, t, place, rfl⟩
    obtain ⟨i, found, rfl⟩ := interfaceFor?_of_place? place
    use i, List.mem_filterMap.mpr ⟨d, mem, found⟩
    rw [SynthesizedInterface.entry, SynthesizedInterface.name, declaration_of_interfaceFor? found]

/-- What is recorded of the interfaces for declarations that are accepted is read back as an
index that publishes them, if the environment has them. -/
theorem WellKept.publishes_recordFor (h : o.WellKept) (accepts : o.AcceptsAll ds)
    (names : ∀ d ∈ ds, ∀ c ∈ d.name.localName.toList, c ≠ ':' ∧ Text.isBlank c = false)
    (compiled : ∀ d ∈ ds, ∀ {t}, o.place? d = some t → environment.contains t) :
  ∃ bindings, Episode.readBindings (o.recordFor ds).write = .ok bindings
    ∧ (Episode.Index.ofBindings bindings environment).Publishes o ds
  := by
  have trailing : ∀ e ∈ o.recordFor ds, Episode.Untrailed e.component.localName := by
    intro e recorded c last
    obtain ⟨d, mem, t, place, rfl⟩ := mem_recordFor_iff.mp recorded
    apply (names d mem c (List.mem_of_mem_getLast? last)).2
  have colons : ∀ e ∈ o.recordFor ds, e.component.space = "" →
      ':' ∉ e.component.localName.toList := by
    intro e recorded _ colon
    obtain ⟨d, mem, t, place, rfl⟩ := mem_recordFor_iff.mp recorded
    apply (names d mem ':' colon).1 rfl
  refine ⟨_, Episode.Record.readBindings_write trailing colons, ?_⟩
  have distinct : ((o.recordFor ds).reverse.map (·.component)).Nodup := by
    rw [List.map_reverse, List.nodup_reverse, recordFor, List.map_map]
    apply accepts.nodup_interface_name
  constructor
  · intro d mem
    obtain ⟨c, -, place⟩ := accepts.placeholder mem
    have recorded := mem_recordFor_iff.mpr ⟨d, mem, c.typeRef, place, rfl⟩
    have found : (o.recordFor ds).reverse.find? (·.component = d.name)
        = some { kind := d.kind, component := d.name, interface := c.typeRef } :=
      (find?_eq_some_iff_of_nodup distinct).mpr ⟨List.mem_reverse.mpr recorded, rfl⟩
    use c.typeRef, place
    rw [Episode.Record.get?_ofBindings_sorted, found, Option.map_some,
      h.ofQualifiedName_of_place? place, PublishedInterface.resolve,
      if_pos (compiled d mem place)]
  · intro group absent
    have none : (o.recordFor ds).reverse.find? (·.component = group) = none := by
      apply List.find?_eq_none.mpr
      intro e mem same
      obtain ⟨d, declared, t, place, rfl⟩ := mem_recordFor_iff.mp (List.mem_reverse.mp mem)
      apply absent d declared (of_decide_eq_true same)
    rw [Episode.Record.get?_ofBindings_sorted, none, Option.map_none]

end Outline

end GroupInterfaces
