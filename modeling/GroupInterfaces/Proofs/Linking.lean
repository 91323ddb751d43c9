import GroupInterfaces.Interface.Supertypes
import GroupInterfaces.Proofs.Synthesis

/-!
# What linking does

Linking lets each interface of a set extend the interfaces of the groups that its own group
uses. Interfaces for declarations that are accepted have names and types of their own, so a
set has all of them, and linking one of them leaves the others as they are.
-/

namespace GroupInterfaces

theorem Slot.mapInterface_id :
  Slot.mapInterface id = id
  := by
  funext slot
  cases slot with
  | «class» qualifiedName => rfl
  | interface d => rfl

theorem Slot.mapInterface_mapInterface (f g : InterfaceDecl → InterfaceDecl) (slot : Slot) :
  (slot.mapInterface f).mapInterface g = slot.mapInterface fun d => g (f d)
  := by
  cases slot with
  | «class» qualifiedName => rfl
  | interface d => rfl

/-- The declaration of an interface that extends further interfaces. -/
def InterfaceDecl.extending (i : InterfaceDecl) (supertypes : List Supertype) : InterfaceDecl :=
  supertypes.foldl (fun i s => i.addSupertype s.typeRef) i

namespace InterfaceDecl

/-- An interface that extends further interfaces is the same otherwise. -/
theorem foldl_addSupertype_eq (ts : List TypeRef) (d : InterfaceDecl) :
  ts.foldl addSupertype d
    = .mk d.name d.package d.doc d.methods (ts.foldl addNew d.supertypes) d.nested
  := by
  induction ts generalizing d with
  | nil =>
      cases d with
      | mk name package doc methods supertypes nested => rfl
  | cons t ts ih => apply ih (d.addSupertype t)

theorem extending_eq (d : InterfaceDecl) (supertypes : List Supertype) :
  d.extending supertypes = .mk d.name d.package d.doc d.methods
    ((supertypes.map Supertype.typeRef).foldl addNew d.supertypes) d.nested
  := by
  have equation := foldl_addSupertype_eq (supertypes.map Supertype.typeRef) d
  rw [List.foldl_map] at equation
  apply equation

end InterfaceDecl

/-- The interfaces to extend for the groups that the group of a declaration uses. -/
def GroupDecl.supertypes (d : GroupDecl) (set : InterfaceSet) (index : Episode.Index) :
    List Supertype :=
  d.groupStructure.groupRefs.filterMap (supertype? set index)

/-! ### Sets of interfaces -/

namespace InterfaceSet

variable {is : List SynthesizedInterface} (distinct : (is.map (·.name)).Nodup)
include distinct

/-- A set of interfaces with names of their own answers with each of them. -/
theorem get?_ofInterfaces_eq_some_iff {group : QName} {i : SynthesizedInterface} :
  (ofInterfaces is).get? group = some i ↔ i ∈ is ∧ i.name = group
  := by
  have keys : ((is.map fun i => (i.name, i)).map (·.1)).Nodup := by
    rw [List.map_map]
    apply distinct
  rw [ofInterfaces, SortedMap.get?_ofList_eq_some_iff keys, List.mem_map]
  constructor
  · rintro ⟨i', mem, same⟩
    obtain ⟨rfl, rfl⟩ := Prod.mk.inj same
    exact ⟨mem, rfl⟩
  · rintro ⟨mem, rfl⟩
    use i, mem

/-- A set of interfaces with names of their own has just these. -/
theorem values_ofInterfaces_perm :
  (ofInterfaces is).values.Perm is
  := by
  have keys : ((is.map fun i => (i.name, i)).map (·.1)).Nodup := by
    rw [List.map_map]
    apply distinct
  have values : (is.map fun i => (i.name, i)).map (·.2) = is := by
    simp [Function.comp_def]
  have perm := (SortedMap.toList_ofList_perm keys).map (·.2)
  rw [values] at perm
  apply perm

end InterfaceSet

namespace Outline

variable {s : Settings} {o cur : Outline} {ds : List GroupDecl} {d : GroupDecl}
  {index : Episode.Index}

/-- The interfaces for declarations, by the names of the groups. -/
def interfaceSet (o : Outline) (ds : List GroupDecl) : InterfaceSet :=
  .ofInterfaces (ds.filterMap o.interfaceFor?)

theorem interfaceFor?_eq_some_iff {i : SynthesizedInterface} :
  o.interfaceFor? d = some i ↔ ∃ c, o.classForGroup? d.name = some c ∧
    i = { declaration := d, typeRef := c.typeRef, placeholder := c.typeRef
          publishedFields := c.fieldsFor d }
  := by
  rw [interfaceFor?, Option.map_eq_some_iff]
  simp only [eq_comm]

theorem place?_of_interfaceFor? {i : SynthesizedInterface} (h : o.interfaceFor? d = some i) :
  o.place? d = some i.typeRef
  := by
  obtain ⟨c, found, rfl⟩ := interfaceFor?_eq_some_iff.mp h
  rw [place?, found, Option.map_some]

theorem declaration_of_interfaceFor? {i : SynthesizedInterface}
    (h : o.interfaceFor? d = some i) :
  i.declaration = d
  := by
  obtain ⟨c, found, rfl⟩ := interfaceFor?_eq_some_iff.mp h
  rfl

theorem placeholder_of_interfaceFor? {i : SynthesizedInterface}
    (h : o.interfaceFor? d = some i) :
  i.placeholder = i.typeRef
  := by
  obtain ⟨c, found, rfl⟩ := interfaceFor?_eq_some_iff.mp h
  rfl

/-- There is an interface for every place. -/
theorem interfaceFor?_of_place? {t : TypeRef} (h : o.place? d = some t) :
  ∃ i, o.interfaceFor? d = some i ∧ i.typeRef = t
  := by
  obtain ⟨c, found, rfl⟩ := Option.map_eq_some_iff.mp h
  exact ⟨_, interfaceFor?_eq_some_iff.mpr ⟨c, found, rfl⟩, rfl⟩

theorem AcceptsAll.nodup_interface_typeRef (h : o.AcceptsAll ds) :
  ((ds.filterMap o.interfaceFor?).map (·.typeRef)).Nodup
  := by
  apply List.pairwise_map.mpr
  apply List.pairwise_filterMap.mpr
  apply (List.pairwise_map.mp h.nodup_place?).imp
  intro d e apart i hi j hj same
  apply apart
  rw [place?_of_interfaceFor? hi, place?_of_interfaceFor? hj, same]

theorem AcceptsAll.nodup_interface_name (h : o.AcceptsAll ds) :
  ((ds.filterMap o.interfaceFor?).map (·.name)).Nodup
  := by
  apply List.pairwise_map.mpr
  apply List.pairwise_filterMap.mpr
  apply (List.pairwise_map.mp h.nodup_name).imp
  intro d e apart i hi j hj same
  apply apart
  rw [SynthesizedInterface.name, SynthesizedInterface.name, declaration_of_interfaceFor? hi,
    declaration_of_interfaceFor? hj] at same
  apply same

/-- The set for declarations that are accepted answers with the interface of each of them. -/
theorem AcceptsAll.get?_interfaceSet_eq_some_iff (h : o.AcceptsAll ds) {group : QName}
    {i : SynthesizedInterface} :
  (o.interfaceSet ds).get? group = some i
    ↔ ∃ d ∈ ds, d.name = group ∧ o.interfaceFor? d = some i
  := by
  rw [interfaceSet, InterfaceSet.get?_ofInterfaces_eq_some_iff h.nodup_interface_name,
    List.mem_filterMap]
  constructor
  · rintro ⟨⟨d, mem, found⟩, name⟩
    use d, mem
    rw [SynthesizedInterface.name, declaration_of_interfaceFor? found] at name
    exact ⟨name, found⟩
  · rintro ⟨d, mem, name, found⟩
    rw [SynthesizedInterface.name, declaration_of_interfaceFor? found]
    exact ⟨⟨d, mem, found⟩, name⟩

/-- The set for declarations that are accepted has nothing for other names. -/
theorem AcceptsAll.get?_interfaceSet_eq_none (h : o.AcceptsAll ds) {group : QName}
    (absent : ∀ d ∈ ds, d.name ≠ group) :
  (o.interfaceSet ds).get? group = none
  := by
  apply Option.eq_none_iff_forall_ne_some.mpr
  intro i answer
  obtain ⟨d, mem, name, -⟩ := h.get?_interfaceSet_eq_some_iff.mp answer
  apply absent d mem name

/-! ### Linking -/

theorem slot?_extend (o : Outline) (t u : TypeRef) (supertypes : List Supertype) :
  (o.extend t supertypes).slot? u
    = if u = t then (o.slot? t).map (Slot.mapInterface (·.extending supertypes))
      else o.slot? u
  := by
  induction supertypes generalizing o with
  | nil =>
      change o.slot? u = if u = t then (o.slot? t).map (Slot.mapInterface id) else o.slot? u
      split
      · next same => rw [same, Slot.mapInterface_id, Option.map_id_fun, id]
      · rfl
  | cons supertype rest ih =>
      change (extend _ t rest).slot? u = _
      rw [ih, slot?_modifyInterface, slot?_modifyInterface, if_pos rfl, Option.map_map]
      split
      · congr 1
        funext slot
        apply Slot.mapInterface_mapInterface
      · rfl

theorem sameFrame_extend (o : Outline) (t : TypeRef) (supertypes : List Supertype) :
  SameFrame o (o.extend t supertypes)
  := by
  induction supertypes generalizing o with
  | nil => apply SameFrame.refl
  | cons supertype rest ih => apply (sameFrame_modifyInterface o t _).trans (ih _)

section

variable (supertypes : SynthesizedInterface → List Supertype) (o : Outline)

theorem sameFrame_foldl_extend (is : List SynthesizedInterface) :
  SameFrame o (is.foldl (fun o i => o.extend i.typeRef (supertypes i)) o)
  := by
  induction is generalizing o with
  | nil => apply SameFrame.refl
  | cons i is ih => apply (sameFrame_extend o i.typeRef (supertypes i)).trans (ih _)

theorem slot?_foldl_extend_of_forall_ne {is : List SynthesizedInterface} {t : TypeRef}
    (h : ∀ i ∈ is, i.typeRef ≠ t) :
  (is.foldl (fun o i => o.extend i.typeRef (supertypes i)) o).slot? t = o.slot? t
  := by
  induction is generalizing o with
  | nil => rfl
  | cons i is ih =>
      have apart : t ≠ i.typeRef := (h i List.mem_cons_self).symm
      rw [List.foldl_cons, ih _ fun j mem => h j (List.mem_cons_of_mem i mem), slot?_extend,
        if_neg apart]

/-- Each of several interfaces with types of their own comes to extend what it should. -/
theorem slot?_foldl_extend {is : List SynthesizedInterface}
    (distinct : (is.map (·.typeRef)).Nodup) {i : SynthesizedInterface} (mem : i ∈ is) :
  (is.foldl (fun o i => o.extend i.typeRef (supertypes i)) o).slot? i.typeRef
    = (o.slot? i.typeRef).map (Slot.mapInterface (·.extending (supertypes i)))
  := by
  induction is generalizing o with
  | nil => cases mem
  | cons j is ih =>
      rw [List.map_cons, List.nodup_cons] at distinct
      obtain ⟨fresh, rest⟩ := distinct
      rcases List.mem_cons.mp mem with rfl | mem
      · have others : ∀ j ∈ is, j.typeRef ≠ i.typeRef := fun j => key_ne_of_notMem_map fresh
        rw [List.foldl_cons, slot?_foldl_extend_of_forall_ne _ _ others, slot?_extend,
          if_pos rfl]
      · have apart : i.typeRef ≠ j.typeRef := key_ne_of_notMem_map fresh mem
        rw [List.foldl_cons, ih _ rest mem, slot?_extend, if_neg apart]

end

/-- Linking the interfaces for the last of some declarations, which are all accepted, lays
over their places what extends the interfaces that it should. -/
theorem Overlaid.link {earlier : List GroupDecl} {decl decl' : GroupDecl → Option InterfaceDecl}
    (h : Overlaid o (earlier ++ ds) decl cur) (accepts : o.AcceptsAll (earlier ++ ds))
    (unlinked : ∀ d ∈ earlier, decl' d = decl d)
    (linked : ∀ d ∈ ds,
      decl' d = (decl d).map (·.extending (d.supertypes (o.interfaceSet ds) index))) :
  Overlaid o (earlier ++ ds) decl' (cur.link (o.interfaceSet ds) index)
  := by
  have accepted : o.AcceptsAll ds := accepts.sublist (List.sublist_append_right earlier ds)
  have perm := InterfaceSet.values_ofInterfaces_perm accepted.nodup_interface_name
  have values : ∀ i, i ∈ (o.interfaceSet ds).values ↔ ∃ d ∈ ds, o.interfaceFor? d = some i := by
    intro i
    rw [interfaceSet, perm.mem_iff, List.mem_filterMap]
  have distinct : ((o.interfaceSet ds).values.map (·.typeRef)).Nodup := by
    rw [interfaceSet, (perm.map _).nodup_iff]
    apply accepted.nodup_interface_typeRef
  constructor
  · apply h.frame.trans
    apply sameFrame_foldl_extend
  · intro d mem t place
    rcases List.mem_append.mp mem with front | back
    · have others : ∀ i ∈ (o.interfaceSet ds).values, i.typeRef ≠ t := by
        rintro i memᵢ rfl
        obtain ⟨e, mem', found⟩ := (values i).mp memᵢ
        have apart := (List.nodup_append.mp (by simpa using accepts.nodup_place?)).2.2
        apply apart _ (List.mem_map_of_mem front) _ (List.mem_map_of_mem mem')
        rw [place, place?_of_interfaceFor? found]
      rw [Outline.link, slot?_foldl_extend_of_forall_ne _ _ others, h.declared d mem place,
        unlinked d front]
    · obtain ⟨i, found, rfl⟩ := interfaceFor?_of_place? place
      have memᵢ := (values i).mpr ⟨d, back, found⟩
      rw [Outline.link, slot?_foldl_extend _ _ distinct memᵢ, h.declared d mem place,
        linked d back, Option.map_map, Option.map_map,
        ← declaration_of_interfaceFor? found]
      rfl
  · intro t untaken
    have others : ∀ i ∈ (o.interfaceSet ds).values, i.typeRef ≠ t := by
      rintro i memᵢ rfl
      obtain ⟨d, mem, found⟩ := (values i).mp memᵢ
      apply untaken d (List.mem_append_right earlier mem) (place?_of_interfaceFor? found)
    rw [Outline.link, slot?_foldl_extend_of_forall_ne _ _ others, h.kept untaken]

end Outline

end GroupInterfaces
