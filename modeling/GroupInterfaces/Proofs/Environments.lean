import GroupInterfaces.Proofs.Linking
import GroupInterfaces.Proofs.Loading
import GroupInterfaces.Proofs.Run

/-!
# Interfaces in other environments

An environment says of published interfaces whether they are compiled. In another environment, the
same interfaces are synthesized and linked, are declared in the same way, and have the same
placeholders and builders. They differ only in what is known of the published interfaces that they
extend.
-/

namespace GroupInterfaces

/-! ### What is left to a run -/

section

variable (s : SchemaSet) (index : Episode.Index) (e : Environment)

theorem SchemaSet.unpublished_within (kind : GroupKind) :
  s.unpublished (index.within e) kind = s.unpublished index kind
  := by
  simp only [unpublished, Episode.Index.contains_within]

/-- What is left to a run does not depend on the environment. -/
theorem SchemaSet.pending_within :
  s.pending (index.within e) = s.pending index
  := by
  simp only [pending, unpublished_within]

end

/-! ### Supertypes -/

namespace Supertype

/-- The interface to extend as another environment has it. -/
def within (s : Supertype) (e : Environment) : Supertype :=
  match s with
  | .synthesized t => .synthesized t
  | .published p => .published (p.within e)

@[simp]
theorem typeRef_within (s : Supertype) (e : Environment) :
  (s.within e).typeRef = s.typeRef
  := by
  cases s with
  | synthesized t => rfl
  | published p => rfl

theorem within_within (s : Supertype) (e e' : Environment) :
  (s.within e').within e = s.within e
  := by
  cases s with
  | synthesized t => rfl
  | published p => rfl

end Supertype

section

variable (set : InterfaceSet) (index : Episode.Index) (e : Environment)

theorem supertype?_within (group : QName) :
  supertype? set (index.within e) group = (supertype? set index group).map (·.within e)
  := by
  rw [supertype?, supertype?]
  split
  · rfl
  · rw [Episode.Index.get?_within, Option.map_map, Option.map_map]
    rfl

theorem GroupDecl.supertypes_within (d : GroupDecl) :
  d.supertypes set (index.within e) = (d.supertypes set index).map (·.within e)
  := by
  rw [supertypes, supertypes, List.map_filterMap]
  apply List.filterMap_congr
  intro group _
  apply supertype?_within

/-- Where an index has interfaces as an environment has them, so have the interfaces to extend. -/
theorem GroupDecl.within_eq_of_mem_supertypes {index : Episode.Index} {e : Environment}
    (within : index.IsWithin e) {d : GroupDecl} {s : Supertype} (mem : s ∈ d.supertypes set index) :
  s.within e = s
  := by
  obtain ⟨group, -, found⟩ := List.mem_filterMap.mp mem
  have again := supertype?_within set index e group
  rw [within, found] at again
  apply (Option.some.inj again).symm

/-- Interfaces are declared the same in all environments. -/
theorem Outline.linkedFor?_within (o : Outline) (settings : Settings) (schema : SchemaSet) :
  o.linkedFor? settings schema (index.within e) = o.linkedFor? settings schema index
  := by
  funext d
  have extending : ∀ d : InterfaceDecl, ∀ ss : List Supertype,
      d.extending (ss.map (·.within e)) = d.extending ss := by
    intro d ss
    rw [InterfaceDecl.extending, List.foldl_map]
    simp only [Supertype.typeRef_within]
    rfl
  simp only [linkedFor?, SchemaSet.unpublished_within, GroupDecl.supertypes_within, extending]

end

/-- What is added to a list is the same behind a function that keeps it all apart. -/
theorem map_foldl_addNew {α β : Type*} [DecidableEq α] [DecidableEq β] {f : α → β} {as bs : List α}
    (apart : ∀ a ∈ as ++ bs, ∀ b ∈ as ++ bs, f a = f b → a = b) :
  (bs.foldl addNew as).map f = (bs.map f).foldl addNew (as.map f)
  := by
  induction bs generalizing as with
  | nil => rfl
  | cons b bs ih =>
      have step : (addNew as b).map f = addNew (as.map f) (f b) := by
        rw [addNew, addNew]
        by_cases old : b ∈ as
        · rw [if_pos old, if_pos (List.mem_map_of_mem old)]
        · have new : f b ∉ as.map f := by
            intro mem
            obtain ⟨a, mem, same⟩ := List.mem_map.mp mem
            apply old
            rw [← apart a (by simp [mem]) b (by simp) same]
            apply mem
          rw [if_neg old, if_neg new, List.map_append, List.map_singleton]
      rw [List.foldl_cons, List.map_cons, List.foldl_cons, ih, step]
      intro a mem a' mem'
      apply apart a _ a' _
      all_goals
        simp only [List.mem_append, mem_addNew_iff, List.mem_cons] at mem mem' ⊢
        tauto

/-! ### Sets of interfaces -/

/-- The interface with its supertypes as another environment has them. -/
def SynthesizedInterface.within (i : SynthesizedInterface) (e : Environment) :
    SynthesizedInterface :=
  { i with supertypes := i.supertypes.map (·.within e) }

/-- The set with the supertypes of its interfaces as another environment has them. -/
def InterfaceSet.within (set : InterfaceSet) (e : Environment) : InterfaceSet :=
  set.mapValues (·.within e)

theorem InterfaceSet.get?_within (set : InterfaceSet) (e : Environment) (group : QName) :
  (set.within e).get? group = (set.get? group).map (·.within e)
  := SortedMap.get?_mapValues _ _ _

theorem InterfaceSet.values_within (set : InterfaceSet) (e : Environment) :
  (set.within e).values = set.values.map (·.within e)
  := SortedMap.values_mapValues _ _

/-- Linking a set in another environment links the same interfaces. -/
theorem InterfaceSet.link_within {set : InterfaceSet} {index : Episode.Index} {e : Environment}
    (within : index.IsWithin e)
    (unlinked : ∀ {group i}, set.get? group = some i → i.supertypes = []) (e' : Environment) :
  set.link (index.within e') = (set.link index).within e'
  := by
  apply SortedMap.ext_get?
  intro group
  rw [get?_within, link, link, SortedMap.get?_mapValues, SortedMap.get?_mapValues, Option.map_map]
  cases found : set.get? group with
  | none => rfl
  | some i =>
      have linked : ((i.resolvedSupertypes set index).foldl addNew []).map (·.within e')
          = (i.resolvedSupertypes set (index.within e')).foldl addNew [] := by
        change _ = (i.declaration.supertypes set (index.within e')).foldl addNew []
        rw [GroupDecl.supertypes_within]
        apply map_foldl_addNew
        -- What an index says of interfaces in its own environment is told by their types.
        intro s mem s' mem' same
        rw [← GroupDecl.within_eq_of_mem_supertypes set within mem,
          ← GroupDecl.within_eq_of_mem_supertypes set within mem', ← s.within_within e e', same,
          Supertype.within_within]
      have empty := unlinked found
      simp only [Option.map_some, Function.comp_apply, SynthesizedInterface.within, empty, linked]

namespace Outline

variable {o : Outline} {ds : List GroupDecl}

/-- In the set for declarations that are accepted, no interface extends another one yet. -/
theorem AcceptsAll.supertypes_eq_nil (h : o.AcceptsAll ds) {group : QName}
    {i : SynthesizedInterface} (found : (o.interfaceSet ds).get? group = some i) :
  i.supertypes = []
  := by
  obtain ⟨d, -, -, interface⟩ := h.get?_interfaceSet_eq_some_iff.mp found
  obtain ⟨c, -, rfl⟩ := interfaceFor?_eq_some_iff.mp interface
  rfl

/-- Placeholders are removed alike in all environments. -/
theorem removePlaceholders_map_within (o : Outline) (is : List SynthesizedInterface)
    (e : Environment) :
  o.removePlaceholders (is.map (·.within e)) = o.removePlaceholders is
  := by
  induction is generalizing o with
  | nil => rfl
  | cons i is ih =>
      simp only [List.map_cons, removePlaceholders, SynthesizedInterface.within]
      rw [← ih]
      rfl

/-- The interfaces of builders are declared alike in all environments. -/
theorem declareBuilders_map_within (o : Outline) (name : String) (builders : BuilderOutlines)
    (is : List SynthesizedInterface) (e : Environment) :
  o.declareBuilders name builders (is.map (·.within e)) = o.declareBuilders name builders is
  := by
  induction is generalizing o builders with
  | nil => rfl
  | cons i is ih =>
      have builder : BuilderOutline.ofInterface name (i.within e) = .ofInterface name i := by
        simp [BuilderOutline.ofInterface, SynthesizedInterface.within]
      simp only [List.map_cons, declareBuilders, builder, ih]
      rfl

end Outline

end GroupInterfaces
