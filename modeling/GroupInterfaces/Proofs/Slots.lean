import GroupInterfaces.Implementation.Placeholders
import GroupInterfaces.Interface.Synthesis
import GroupInterfaces.Proofs.Maps

/-!
# Slots of outlines

Most of what a run does to an outline it does to slots of types. An outline is looked at here
in two parts: what occupies the slot of each type, and everything else, which is the classes
and what packages have apart from their types. Two outlines with the same frame agree in the
second part.
-/

namespace GroupInterfaces

/-- The slot with the interface in it changed. -/
def Slot.mapInterface (f : InterfaceDecl → InterfaceDecl) : Slot → Slot
  | .interface d => .interface (f d)
  | .class qualifiedName => .class qualifiedName

/-- What a package has apart from its types. -/
def Package.bare (p : Package) : Package := { p with types := {} }

theorem Package.name_eq_of_bare_eq {p p' : Package} (h : p'.bare = p.bare) :
  p'.name = p.name
  := by
  change p'.bare.name = p.bare.name
  rw [h]

theorem Package.space_eq_of_bare_eq {p p' : Package} (h : p'.bare = p.bare) :
  p'.space = p.space
  := by
  change p'.bare.space = p.bare.space
  rw [h]

theorem Package.types_modifyInterface (p : Package) (name : String)
    (f : InterfaceDecl → InterfaceDecl) :
  (p.modifyInterface name f).types = p.types.modify name (Slot.mapInterface f)
  := by
  change p.types.modify name _ = _
  congr 1
  funext slot
  cases slot with
  | «class» qualifiedName => rfl
  | interface d => rfl

namespace Outline

/-- What occupies the slot of a type. -/
def slot? (o : Outline) (t : TypeRef) : Option Slot :=
  (o.packages.get? t.package).bind (·.types.get? t.name)

/-- The outlines have the same classes, and the same packages apart from their types. -/
structure SameFrame (o o' : Outline) : Prop where
  classes : o'.classes = o.classes
  packages : ∀ name, (o'.packages.get? name).map Package.bare
    = (o.packages.get? name).map Package.bare

theorem SameFrame.refl (o : Outline) :
  SameFrame o o
  where
  classes := rfl
  packages _ := rfl

theorem SameFrame.trans {o₁ o₂ o₃ : Outline} (h : SameFrame o₁ o₂) (h' : SameFrame o₂ o₃) :
  SameFrame o₁ o₃
  where
  classes := h'.classes.trans h.classes
  packages name := (h'.packages name).trans (h.packages name)

/-- A package is still there in an outline of the same frame, under the same name. -/
theorem SameFrame.package {o o' : Outline} (h : SameFrame o o') {name : String} {p : Package}
    (found : o.packages.get? name = some p) :
  ∃ p', o'.packages.get? name = some p' ∧ p'.bare = p.bare
  := by
  have bare := h.packages name
  rw [found] at bare
  apply Option.map_eq_some_iff.mp bare

theorem SameFrame.symm {o o' : Outline} (h : SameFrame o o') :
  SameFrame o' o
  where
  classes := h.classes.symm
  packages name := (h.packages name).symm

/-- The interface that a reference names is the one in the slot of the type. -/
theorem interface?_eq (o : Outline) (t : TypeRef) :
  o.interface? t = (o.slot? t).bind Slot.interface?
  := by
  simp only [interface?, slot?, Package.interface?, Option.bind_assoc]

/-- Changing the interface of a reference changes the slot of that type only. -/
theorem slot?_modifyInterface (o : Outline) (t u : TypeRef) (f : InterfaceDecl → InterfaceDecl) :
  (o.modifyInterface t f).slot? u
    = if u = t then (o.slot? t).map (Slot.mapInterface f) else o.slot? u
  := by
  simp only [slot?, modifyInterface, modifyPackage, SortedMap.get?_modify_key]
  by_cases package : u.package = t.package
  · cases found : o.packages.get? u.package with
    | none => simp [package ▸ found]
    | some p =>
        have found' := package ▸ found
        by_cases name : u.name = t.name
        · have same : u = t := by
            obtain ⟨_, _⟩ := u
            obtain ⟨_, _⟩ := t
            simp_all
          simp [same, found', Package.types_modifyInterface, SortedMap.get?_modify_key]
        · have apart : u ≠ t := fun same => name (congrArg TypeRef.name same)
          simp [package, apart, name, Package.types_modifyInterface, SortedMap.get?_modify_key]
  · have apart : u ≠ t := fun same => package (congrArg TypeRef.package same)
    simp [package, apart]

theorem sameFrame_modifyInterface (o : Outline) (t : TypeRef)
    (f : InterfaceDecl → InterfaceDecl) :
  SameFrame o (o.modifyInterface t f)
  := by
  constructor
  · rfl
  · intro name
    simp only [modifyInterface, modifyPackage, SortedMap.get?_modify_key]
    split
    · rw [Option.map_map]
      rfl
    · rfl

/-! ### Looking for a placeholder -/

theorem isSome_packageForNamespace?_iff (o : Outline) (space : String) :
  (o.packageForNamespace? space).isSome
    ↔ ∃ name p, o.packages.get? name = some p ∧ p.space = some space
  := by
  simp only [packageForNamespace?, List.find?_isSome, SortedMap.mem_values_iff, decide_eq_true_eq]
  constructor
  · rintro ⟨p, ⟨name, found⟩, space⟩
    use name, p
  · rintro ⟨name, p, found, space⟩
    use p, ⟨name, found⟩

theorem SameFrame.isSome_packageForNamespace? {o o' : Outline} (h : SameFrame o o')
    (space : String) :
  (o'.packageForNamespace? space).isSome = (o.packageForNamespace? space).isSome
  := by
  have transfer : ∀ {o o' : Outline}, SameFrame o o' →
      (o.packageForNamespace? space).isSome → (o'.packageForNamespace? space).isSome := by
    intro o o' h found
    obtain ⟨name, p, found, here⟩ := (isSome_packageForNamespace?_iff o space).mp found
    obtain ⟨p', found', bare⟩ := h.package found
    apply (isSome_packageForNamespace?_iff o' space).mpr
    use name, p', found'
    rw [← here]
    apply Package.space_eq_of_bare_eq bare
  apply Bool.eq_iff_iff.mpr
  constructor
  · apply transfer h.symm
  · apply transfer h

theorem SameFrame.classForGroup? {o o' : Outline} (h : SameFrame o o') (group : QName) :
  o'.classForGroup? group = o.classForGroup? group
  := by
  simp only [Outline.classForGroup?, h.classes]

/-- Whether a group has a placeholder, and which, depends on the frame of an outline only. -/
theorem SameFrame.placeholder {o o' : Outline} (h : SameFrame o o') (d : GroupDecl) :
  o'.placeholder d = o.placeholder d
  := by
  have package := h.isSome_packageForNamespace? d.name.space
  simp only [Outline.placeholder, h.classForGroup?]
  cases hp : o.packageForNamespace? d.name.space with
  | none =>
      rw [hp] at package
      cases hp' : o'.packageForNamespace? d.name.space with
      | none => rfl
      | some p' => simp [hp'] at package
  | some p =>
      rw [hp] at package
      cases hp' : o'.packageForNamespace? d.name.space with
      | none => simp [hp'] at package
      | some p' => rfl

/-! ### Displacing a placeholder -/

/-- The package of a class is there, and the slot of the class is vacant or its own. -/
def HasPlaceFor (o : Outline) (c : GeneratedClass) : Prop :=
  (o.packages.get? c.package).isSome
    ∧ (o.slot? c.typeRef = none ∨ o.slot? c.typeRef = some (.class c.qualifiedName))

theorem slot?_typeRef {o : Outline} {c : GeneratedClass} {p : Package}
    (found : o.packages.get? c.package = some p) :
  o.slot? c.typeRef = p.types.get? c.name
  := by
  simp [slot?, GeneratedClass.typeRef, found]

theorem holdsClass_iff {p : Package} {c : GeneratedClass} :
  p.holdsClass c ↔ p.types.get? c.name = some (.class c.qualifiedName)
  := by
  simp only [Package.holdsClass]
  cases p.types.get? c.name with
  | none => simp
  | some slot =>
      cases slot with
      | «class» qualifiedName => simp
      | interface d => simp

/-- Behind the removal of a class from its package, the slot of the class is vacant exactly if
it was vacant before or its own. -/
theorem get?_types_removeClass_eq_none_iff {p : Package} {c : GeneratedClass} :
  (p.removeClass c).types.get? c.name = none
    ↔ p.types.get? c.name = none ∨ p.types.get? c.name = some (.class c.qualifiedName)
  := by
  simp only [Package.removeClass]
  split
  · next holds => simp [SortedMap.get?_erase_key, holdsClass_iff.mp holds]
  · next other => simp [mt holdsClass_iff.mpr other]

theorem get?_types_removeClass_of_ne {p : Package} {c : GeneratedClass} {name : String}
    (apart : name ≠ c.name) :
  (p.removeClass c).types.get? name = p.types.get? name
  := by
  simp only [Package.removeClass]
  split
  · simp [SortedMap.get?_erase_key, apart]
  · rfl

theorem bare_removeClass (p : Package) (c : GeneratedClass) :
  (p.removeClass c).bare = p.bare
  := by
  simp only [Package.removeClass]
  split
  · rfl
  · rfl

/-- Displacing a class fails exactly if there is no place for its interface. -/
theorem displace?_eq_none_of_not {o : Outline} {c : GeneratedClass} (doc : String)
    (h : ¬ o.HasPlaceFor c) :
  o.displace? c doc = none
  := by
  simp only [displace?]
  cases found : o.packages.get? c.package with
  | none => rfl
  | some p =>
      have occupied : (p.removeClass c).types.contains c.name := by
        simp only [SortedMap.contains]
        apply Option.isSome_iff_ne_none.mpr
        intro vacant
        apply h
        use by simp [found]
        rw [slot?_typeRef found]
        apply get?_types_removeClass_eq_none_iff.mp vacant
      simp [Package.declareInterface, occupied]

/-- Displacing a class puts an interface with documentation into its slot and changes nothing
else. -/
theorem displace?_of_hasPlaceFor {o : Outline} {c : GeneratedClass} {p : Package} (doc : String)
    (found : o.packages.get? c.package = some p) (place : o.HasPlaceFor c) :
  ∃ o', o.displace? c doc = some o' ∧ SameFrame o o'
    ∧ ∀ t, o'.slot? t = if t = c.typeRef then some (.interface (.mk c.name p.name doc [] [] []))
        else o.slot? t
  := by
  have vacant : (p.removeClass c).types.get? c.name = none := by
    apply get?_types_removeClass_eq_none_iff.mpr
    rw [← slot?_typeRef found]
    apply place.2
  have name := Package.name_eq_of_bare_eq (bare_removeClass p c)
  simp only [displace?, found, Package.declareInterface, SortedMap.contains, vacant]
  refine ⟨_, rfl, ⟨rfl, ?_⟩, ?_⟩
  · intro k
    simp only [SortedMap.get?_insert_key]
    split
    · next same =>
        rw [same, found]
        apply congrArg some (bare_removeClass p c)
    · rfl
  · intro t
    simp only [slot?, SortedMap.get?_insert_key, GeneratedClass.typeRef]
    by_cases package : t.package = c.package
    · by_cases here : t.name = c.name
      · have same : t = ⟨c.package, c.name⟩ := by
          obtain ⟨_, _⟩ := t
          simp_all
        simp [same, Package.types_modifyInterface, SortedMap.get?_modify_key,
          SortedMap.get?_insert_key, Slot.mapInterface, InterfaceDecl.new,
          InterfaceDecl.withDoc, InterfaceDecl.name, InterfaceDecl.package,
          InterfaceDecl.methods, InterfaceDecl.supertypes, InterfaceDecl.nested, name]
      · have apart : t ≠ ⟨c.package, c.name⟩ := fun same => here (congrArg TypeRef.name same)
        simp [package, apart, here, found, Package.types_modifyInterface,
          SortedMap.get?_modify_key, SortedMap.get?_insert_key,
          get?_types_removeClass_of_ne here]
    · have apart : t ≠ ⟨c.package, c.name⟩ :=
        fun same => package (congrArg TypeRef.package same)
      simp [package, apart]

end Outline

end GroupInterfaces
