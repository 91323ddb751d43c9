import GroupInterfaces.Proofs.Lists
import GroupInterfaces.Proofs.Slots

/-!
# What synthesis asks of a declaration

The interface of a group needs a package for its namespace, a placeholder whose slot it can
take, members that are told apart by their property names, and fields of the placeholder for
them. All of this is said here of the outline as it is before the run. What the run has done
in the meantime comes in through the declarations taken before, whose interfaces occupy the
slots of their placeholders.

A declaration that lacks something is refused for the first thing that it lacks.
-/

namespace GroupInterfaces

/-- The failure with an error at the place of a declaration. -/
def GroupDecl.failure (d : GroupDecl) (e : GenerationError) : Failure :=
  { error := e, locator := some d.locator }

/-- The published members of a group have different property names. -/
def GroupDecl.DistinctProperties (d : GroupDecl) : Prop :=
  (d.groupStructure.variableMembers.map (·.propertyName)).Nodup

/-- A class has a field for a member of a group. -/
def GeneratedClass.HasFieldFor (c : GeneratedClass) (m : Member) : Prop :=
  ∃ f ∈ c.fields, f.propertyName = m.propertyName

namespace Outline

section

variable (o : Outline) (earlier : List GroupDecl) (d : GroupDecl)

/-- The type that the interface of a group is to be, which is that of the placeholder. -/
def place? : Option TypeRef := (o.classForGroup? d.name).map GeneratedClass.typeRef

/-- Some package has the namespace of the group. -/
def HasPackageFor : Prop :=
  ∃ name p, o.packages.get? name = some p ∧ p.space = some d.name.space

/-- A class has a place for an interface, which none of the earlier declarations takes. -/
def HasFreePlaceFor (c : GeneratedClass) : Prop :=
  o.HasPlaceFor c ∧ ∀ e ∈ earlier, o.place? e ≠ some c.typeRef

/-- The outline has all that the interface of a declaration needs behind earlier ones. -/
structure Accepts : Prop where
  package : o.HasPackageFor d
  placeholder : ∃ c, o.classForGroup? d.name = some c
  properties : d.DistinctProperties
  place : ∀ {c}, o.classForGroup? d.name = some c → o.HasFreePlaceFor earlier c
  fields : ∀ {c}, o.classForGroup? d.name = some c →
    ∀ m ∈ d.groupStructure.variableMembers, c.HasFieldFor m

/-- The outline lacks something for a declaration behind earlier ones, and the failure tells
what is the first thing that it lacks. -/
inductive Refuses : Failure → Prop where
  | package (h : ¬ o.HasPackageFor d) :
    Refuses (d.failure (.packageNotFound d.name.space d.name))
  | placeholder (package : o.HasPackageFor d) (h : o.classForGroup? d.name = none) :
    Refuses (d.failure (.noImplementation (Naming.className d.name.localName) d.name))
  | properties (package : o.HasPackageFor d) {c : GeneratedClass}
      (placeholder : o.classForGroup? d.name = some c)
      {before after : List Member} {first second : Member}
      (members : d.groupStructure.variableMembers = before ++ second :: after)
      (distinct : (before.map (·.propertyName)).Nodup)
      (mem : first ∈ before) (same : first.propertyName = second.propertyName) :
    Refuses (d.failure
      (.propertyNameCollision d.name second.propertyName first.name second.name))
  | place (package : o.HasPackageFor d) {c : GeneratedClass}
      (placeholder : o.classForGroup? d.name = some c) (properties : d.DistinctProperties)
      (h : ¬ o.HasFreePlaceFor earlier c) :
    Refuses (d.failure (.interfaceExists c.qualifiedName))
  | field (package : o.HasPackageFor d) {c : GeneratedClass}
      (placeholder : o.classForGroup? d.name = some c) (properties : d.DistinctProperties)
      (place : o.HasFreePlaceFor earlier c)
      {before after : List Member} {m : Member}
      (members : d.groupStructure.variableMembers = before ++ m :: after)
      (found : ∀ m' ∈ before, c.HasFieldFor m') (h : ¬ c.HasFieldFor m) :
    Refuses
      { error := .propertyNotFound d.name m.propertyName c.qualifiedName
        locator := some m.locator }

end

/-- The outline accepts each of several declarations behind those in front of it. -/
def AcceptsAll (o : Outline) (ds : List GroupDecl) : Prop := Throughout o.Accepts ds

variable {o : Outline} {earlier : List GroupDecl} {d : GroupDecl}

/-! ### Properties of members -/

/-- Members have different property names exactly if none has that of a member in front. -/
theorem nodup_propertyName_iff {ms : List Member} :
  (ms.map (·.propertyName)).Nodup
    ↔ Throughout (fun before m => ∀ m' ∈ before, m'.propertyName ≠ m.propertyName) ms
  := by
  rw [Throughout.forall_mem_iff_pairwise, List.Nodup, List.pairwise_map]

/-- Looking for a collision goes past members whose property names are new. -/
theorem findCollision?_append (seen : List Member) {ms : List Member} (rest : List Member)
    (h : ((seen.reverse ++ ms).map (·.propertyName)).Nodup) :
  findCollision? seen (ms ++ rest) = findCollision? (ms.reverse ++ seen) rest
  := by
  induction ms generalizing seen with
  | nil => rfl
  | cons m ms ih =>
      have fresh : seen.find? (·.propertyName = m.propertyName) = none := by
        apply List.find?_eq_none.mpr
        intro m' mem
        have apart := nodup_propertyName_iff.mp h seen.reverse m ms rfl m' (by simpa using mem)
        simpa using apart
      have next : (((m :: seen).reverse ++ ms).map (·.propertyName)).Nodup := by simpa using h
      simp only [List.cons_append, findCollision?, fresh, ih (m :: seen) next]
      simp

theorem findCollision?_eq_none {ms : List Member} (h : (ms.map (·.propertyName)).Nodup) :
  findCollision? [] ms = none
  := by
  have past := findCollision?_append [] [] h
  rw [List.append_nil] at past
  rw [past, findCollision?]

/-- The first member whose property name is not new collides with the one in front of it that
has the same property name. -/
theorem findCollision?_eq_some {before : List Member} (after : List Member)
    {first second : Member} (distinct : (before.map (·.propertyName)).Nodup) (mem : first ∈ before)
    (same : first.propertyName = second.propertyName) :
  findCollision? [] (before ++ second :: after) = some (first, second)
  := by
  have names : (before.reverse.map (·.propertyName)).Nodup := by
    rw [List.map_reverse, List.nodup_reverse]
    apply distinct
  have found : before.reverse.find? (·.propertyName = second.propertyName) = some first :=
    (find?_eq_some_iff_of_nodup names).mpr ⟨List.mem_reverse.mpr mem, same⟩
  have past := findCollision?_append [] (second :: after) distinct
  rw [past, List.append_nil]
  simp only [findCollision?, found]

/-! ### Acceptance and refusal -/

/-- An outline that does not accept a declaration refuses it. -/
theorem exists_refuses_of_not_accepts (h : ¬ o.Accepts earlier d) :
  ∃ f, o.Refuses earlier d f
  := by
  by_cases package : o.HasPackageFor d
  · cases placeholder : o.classForGroup? d.name with
    | none => exact ⟨_, .placeholder package placeholder⟩
    | some c =>
        by_cases properties : d.DistinctProperties
        · by_cases place : o.HasFreePlaceFor earlier c
          · have lacking : ¬ Throughout (fun _ m => c.HasFieldFor m)
                d.groupStructure.variableMembers := by
              intro all
              apply h
              refine ⟨package, ⟨c, placeholder⟩, properties, ?_, ?_⟩
              · intro c' found
                obtain rfl := Option.some.inj (placeholder.symm.trans found)
                apply place
              · intro c' found
                obtain rfl := Option.some.inj (placeholder.symm.trans found)
                apply Throughout.const_iff.mp all
            obtain ⟨before, m, after, members, found, missing⟩ := Throughout.not_iff.mp lacking
            exact ⟨_, .field package placeholder properties place members
              (Throughout.const_iff.mp found) missing⟩
          · exact ⟨_, .place package placeholder properties place⟩
        · obtain ⟨before, second, after, members, distinct, collides⟩ :=
            Throughout.not_iff.mp (mt nodup_propertyName_iff.mpr properties)
          push Not at collides
          obtain ⟨first, mem, same⟩ := collides
          exact ⟨_, .properties package placeholder members
            (nodup_propertyName_iff.mpr distinct) mem same⟩
  · exact ⟨_, .package package⟩

/-- An outline that does not accept all of several declarations accepts those in front of a
first one, which it refuses. -/
theorem exists_refuses_of_not_acceptsAll {ds : List GroupDecl} (h : ¬ o.AcceptsAll ds) :
  ∃ before d after f, ds = before ++ d :: after ∧ o.AcceptsAll before ∧ o.Refuses before d f
  := by
  obtain ⟨before, d, after, split, accepts, fails⟩ := Throughout.not_iff.mp h
  obtain ⟨f, refuses⟩ := exists_refuses_of_not_accepts fails
  use before, d, after, f, split, accepts

/-- A declaration that is accepted has a place. -/
theorem Accepts.place?_isSome (h : o.Accepts earlier d) :
  ∃ c, o.classForGroup? d.name = some c ∧ o.place? d = some c.typeRef
  := by
  obtain ⟨c, found⟩ := h.placeholder
  use c, found
  rw [place?, found, Option.map_some]

/-- A declaration that is accepted behind some others is accepted behind fewer. -/
theorem Accepts.sublist {fewer : List GroupDecl} (sub : fewer.Sublist earlier)
    (h : o.Accepts earlier d) :
  o.Accepts fewer d
  where
  package := h.package
  placeholder := h.placeholder
  properties := h.properties
  place found := ⟨(h.place found).1, fun e mem => (h.place found).2 e (sub.subset mem)⟩
  fields := h.fields

theorem AcceptsAll.sublist {fewer ds : List GroupDecl} (sub : fewer.Sublist ds)
    (h : o.AcceptsAll ds) :
  o.AcceptsAll fewer
  := Throughout.sublist (P := o.Accepts) (fun sub' accepts => accepts.sublist sub') sub h

/-- Each of several declarations that are accepted is accepted alone. -/
theorem AcceptsAll.of_mem {ds : List GroupDecl} (h : o.AcceptsAll ds) (mem : d ∈ ds) :
  o.Accepts [] d
  := by
  obtain ⟨before, after, split⟩ := List.append_of_mem mem
  apply (h before d after split).sublist (List.nil_sublist before)

/-- Each of several declarations that are accepted has a placeholder. -/
theorem AcceptsAll.placeholder {ds : List GroupDecl} (h : o.AcceptsAll ds) (mem : d ∈ ds) :
  ∃ c, o.classForGroup? d.name = some c ∧ o.place? d = some c.typeRef
  := (h.of_mem mem).place?_isSome

/-- The place of a declaration that is accepted is vacant or has the placeholder. -/
theorem AcceptsAll.slot?_of_place? {ds : List GroupDecl} (h : o.AcceptsAll ds) (mem : d ∈ ds)
    {t : TypeRef} (place : o.place? d = some t) :
  o.slot? t = none ∨ o.slot? t = some (.class t.qualifiedName)
  := by
  obtain ⟨c, found, rfl⟩ := Option.map_eq_some_iff.mp place
  apply ((h.of_mem mem).place found).1.2

/-- Declarations that are accepted have places of their own. -/
theorem AcceptsAll.nodup_place? {ds : List GroupDecl} (h : o.AcceptsAll ds) :
  (ds.map o.place?).Nodup
  := by
  apply List.pairwise_map.mpr
  apply Throughout.forall_mem_iff_pairwise.mp
  intro before d after split e mem same
  have accepts := h before d after split
  obtain ⟨c, found, place⟩ := accepts.place?_isSome
  apply (accepts.place found).2 e mem (same.trans place)

/-- Among declarations that are accepted, the place tells the declaration. -/
theorem AcceptsAll.eq_of_place? {ds : List GroupDecl} (h : o.AcceptsAll ds) {d e : GroupDecl}
    (hd : d ∈ ds) (he : e ∈ ds) (same : o.place? d = o.place? e) :
  d = e
  := List.inj_on_of_nodup_map h.nodup_place? hd he same

/-- Declarations that are accepted have names of their own. -/
theorem AcceptsAll.nodup_name {ds : List GroupDecl} (h : o.AcceptsAll ds) :
  (ds.map GroupDecl.name).Nodup
  := by
  apply List.pairwise_map.mpr
  apply (List.pairwise_map.mp h.nodup_place?).imp
  intro d e apart same
  apply apart
  rw [place?, same, place?]

end Outline

end GroupInterfaces
