import GroupInterfaces.Schema.Structure
import Mathlib

/-!
# Places of references

A particle has a place in the body of a group: the path that leads to it through the particles
around it, told by the number of each among its neighbours. Paths are compared like words, which
is the order of the document. The groups that are used along particles that occur at most once
are exactly those of the references at such places, each place counted once and in this order.
The same holds within a complex type, unless the particle around the body may be repeated.
-/

namespace GroupInterfaces

/-- No more than one occurrence is allowed. -/
def MaxOccurs.AtMostOne : MaxOccurs → Prop
  | .bounded n => n ≤ 1
  | .unbounded => False

theorem Occurs.isRepeated_eq_false_iff {o : Occurs} :
  o.isRepeated = false ↔ o.max.AtMostOne
  := by
  obtain ⟨min, max⟩ := o
  cases max with
  | bounded n => simp [isRepeated, MaxOccurs.AtMostOne]
  | unbounded => simp [isRepeated, MaxOccurs.AtMostOne]

namespace Particle

/-- The particles that a particle puts together. -/
def within : Particle → List Particle
  | .group _ _ particles => particles
  | .element _ _ | .groupRef _ _ | .wildcard _ => []

/-- The particles on a path into some particles, from the outermost one to the one at its end. -/
def onPath? : List Particle → List Nat → Option (List Particle)
  | _, [] => some []
  | particles, i :: path => do
    let p ← particles[i]?
    let behind ← onPath? p.within path
    pure (p :: behind)

/-- A path leads to a reference to a group, and neither the reference nor a particle around it
may occur more than once. -/
def UsesAt (particles : List Particle) (path : List Nat) (group : QName) : Prop :=
  ∃ around occurs, onPath? particles path = some (around ++ [.groupRef occurs group])
    ∧ ∀ p ∈ around ++ [.groupRef occurs group], p.occurs.max.AtMostOne

/-- Some groups are those that are used at places, in the order of the places. -/
def InOrder (uses : List Nat → QName → Prop) (groups : List QName) : Prop :=
  ∃ places : List (List Nat × QName), (places.map (·.1)).Pairwise (· < ·)
    ∧ (∀ path group, (path, group) ∈ places ↔ uses path group) ∧ places.map (·.2) = groups

/-! ### One step of a path -/

/-- A path leads from a particle to a reference that is used, or it ends at one. -/
def UsesFrom (p : Particle) (path : List Nat) (group : QName) : Prop :=
  p.occurs.max.AtMostOne
    ∧ ((path = [] ∧ ∃ occurs, p = .groupRef occurs group) ∨ UsesAt p.within path group)

theorem not_usesAt_nil {particles : List Particle} {group : QName} :
  ¬ UsesAt particles [] group
  := by
  rintro ⟨around, occurs, path, -⟩
  have length := congrArg List.length (Option.some.inj path)
  simp at length

/-- The first step of a path leads to the particle of its number, and the rest goes on from
there. -/
theorem usesAt_cons_iff {particles : List Particle} {i : Nat} {path : List Nat} {group : QName} :
  UsesAt particles (i :: path) group ↔ ∃ p, particles[i]? = some p ∧ p.UsesFrom path group
  := by
  constructor
  · rintro ⟨around, occurs, passed, once⟩
    obtain ⟨p, found, rest⟩ := Option.bind_eq_some_iff.mp passed
    obtain ⟨behind, onPath, same⟩ := Option.bind_eq_some_iff.mp rest
    have split := Option.some.inj same
    use p, found
    cases around with
    | nil =>
        obtain ⟨rfl, rfl⟩ := List.cons.inj split
        use once _ List.mem_cons_self
        left
        cases path with
        | nil => exact ⟨rfl, occurs, rfl⟩
        | cons j path => simp [onPath?, within] at onPath
    | cons q around =>
        obtain ⟨rfl, rfl⟩ := List.cons.inj split
        use once _ List.mem_cons_self
        right
        use around, occurs, onPath
        intro q mem
        apply once q (List.mem_cons_of_mem p mem)
  · rintro ⟨p, found, once, ⟨rfl, occurs, rfl⟩ | ⟨around, occurs, onPath, behind⟩⟩
    · use [], occurs
      constructor
      · simp [onPath?, found]
      · intro q mem
        obtain rfl := List.mem_singleton.mp mem
        apply once
    · use p :: around, occurs
      constructor
      · simp [onPath?, found, onPath]
      · intro q mem
        rcases List.mem_cons.mp mem with rfl | mem
        · apply once
        · apply behind q mem

theorem not_usesAt_of_empty {path : List Nat} {group : QName} :
  ¬ UsesAt [] path group
  := by
  cases path with
  | nil => apply not_usesAt_nil
  | cons i path => simp [usesAt_cons_iff]

/-! ### Lists in order -/

theorem InOrder.of_empty {uses : List Nat → QName → Prop} (h : ∀ path group, ¬ uses path group) :
  InOrder uses []
  := by
  use []
  simp [h]

theorem InOrder.of_iff {uses uses' : List Nat → QName → Prop} {groups : List QName}
    (h : InOrder uses groups) (same : ∀ path group, uses' path group ↔ uses path group) :
  InOrder uses' groups
  := by
  obtain ⟨places, sorted, mem_iff, rfl⟩ := h
  use places, sorted
  simp [same, mem_iff]

/-- A place among some particles as a place among those with one more in front. -/
def nextPlace (place : List Nat × QName) : List Nat × QName :=
  (place.1.modifyHead (· + 1), place.2)

/-- A place from a particle as a place among some particles of which it is the first. -/
def firstPlace (place : List Nat × QName) : List Nat × QName := (0 :: place.1, place.2)

/-- A place among particles is a place from the first of them, or one among the others. -/
theorem usesAt_iff_firstPlace_or_nextPlace (p : Particle) (particles : List Particle)
    (place : List Nat × QName) :
  UsesAt (p :: particles) place.1 place.2
    ↔ (∃ first, p.UsesFrom first.1 first.2 ∧ firstPlace first = place)
      ∨ ∃ other, UsesAt particles other.1 other.2 ∧ nextPlace other = place
  := by
  obtain ⟨path, group⟩ := place
  constructor
  · intro used
    cases path with
    | nil => cases not_usesAt_nil used
    | cons i path =>
        obtain ⟨q, found, goesOn⟩ := usesAt_cons_iff.mp used
        cases i with
        | zero =>
            obtain rfl := Option.some.inj found
            left
            use (path, group), goesOn
            rfl
        | succ i =>
            right
            use (i :: path, group), usesAt_cons_iff.mpr ⟨q, found, goesOn⟩
            rfl
  · rintro (⟨⟨path, group⟩, used, ⟨⟩⟩ | ⟨⟨path, group⟩, used, ⟨⟩⟩)
    · apply usesAt_cons_iff.mpr
      use p, rfl
    · cases path with
      | nil => cases not_usesAt_nil used
      | cons i path => exact usesAt_cons_iff.mpr (usesAt_cons_iff.mp used)

/-- The places from the first particle are in front of those among the others. -/
theorem pairwise_firstPlace_append_nextPlace {first others : List (List Nat × QName)}
    (sorted : (first.map (·.1)).Pairwise (· < ·)) (sorted' : (others.map (·.1)).Pairwise (· < ·))
    (stepped : ∀ place ∈ others, ∃ i path, place.1 = i :: path) :
  ((first.map firstPlace ++ others.map nextPlace).map (·.1)).Pairwise (· < ·)
  := by
  rw [List.pairwise_map] at sorted sorted' ⊢
  rw [List.pairwise_append, List.pairwise_map, List.pairwise_map]
  refine ⟨?_, ?_, ?_⟩
  · apply sorted.imp
    intro a b less
    apply List.cons_lt_cons_iff.mpr (.inr ⟨rfl, less⟩)
  · apply sorted'.imp_of_mem
    intro a b mem mem' less
    obtain ⟨i, path, here⟩ := stepped a mem
    obtain ⟨j, path', there⟩ := stepped b mem'
    rw [here, there, List.cons_lt_cons_iff] at less
    simpa [nextPlace, here, there, List.cons_lt_cons_iff] using less
  · intro a inFirst b inOthers
    obtain ⟨a, -, rfl⟩ := List.mem_map.mp inFirst
    obtain ⟨b, mem, rfl⟩ := List.mem_map.mp inOthers
    obtain ⟨j, path', there⟩ := stepped b mem
    simp [firstPlace, nextPlace, there, List.cons_lt_cons_iff]

/-- The groups used from the first particle come in front of those used from the others. -/
theorem InOrder.cons {p : Particle} {particles : List Particle} {groups groups' : List QName}
    (first : InOrder p.UsesFrom groups) (others : InOrder (UsesAt particles) groups') :
  InOrder (UsesAt (p :: particles)) (groups ++ groups')
  := by
  obtain ⟨places, sorted, mem_iff, rfl⟩ := first
  obtain ⟨places', sorted', mem_iff', rfl⟩ := others
  have stepped : ∀ place ∈ places', ∃ i path, place.1 = i :: path := by
    rintro ⟨path, group⟩ mem
    cases path with
    | nil => cases not_usesAt_nil ((mem_iff' [] group).mp mem)
    | cons i path => exact ⟨i, path, rfl⟩
  use places.map firstPlace ++ places'.map nextPlace,
    pairwise_firstPlace_append_nextPlace sorted sorted' stepped
  constructor
  · intro path group
    have split := usesAt_iff_firstPlace_or_nextPlace p particles (path, group)
    simp only [← mem_iff, ← mem_iff'] at split
    rw [List.mem_append, List.mem_map, List.mem_map, split]
  · rw [List.map_append, List.map_map, List.map_map]
    rfl

/-! ### The groups that particles use -/

/-- Nothing is used from a particle that may be repeated. -/
theorem InOrder.of_isRepeated {p : Particle} (h : p.isRepeated = true) :
  InOrder p.UsesFrom []
  := by
  apply of_empty
  rintro path group ⟨once, -⟩
  rw [isRepeated, Occurs.isRepeated_eq_false_iff.mpr once] at h
  cases h

theorem InOrder.groupRef {occurs : Occurs} (once : occurs.isRepeated = false) (group : QName) :
  InOrder (UsesFrom (.groupRef occurs group)) [group]
  := by
  use [([], group)]
  refine ⟨by simp, ?_, rfl⟩
  intro path group'
  rw [List.mem_singleton]
  constructor
  · rintro ⟨⟩
    exact ⟨Occurs.isRepeated_eq_false_iff.mp once, .inl ⟨rfl, occurs, rfl⟩⟩
  · rintro ⟨-, ⟨rfl, occurs', same⟩ | used⟩
    · cases same
      rfl
    · cases not_usesAt_of_empty used

theorem InOrder.group {occurs : Occurs} {compositor : Compositor} {particles : List Particle}
    {groups : List QName} (once : occurs.isRepeated = false)
    (h : InOrder (UsesAt particles) groups) :
  InOrder (UsesFrom (.group occurs compositor particles)) groups
  := by
  apply h.of_iff
  intro path group
  constructor
  · rintro ⟨-, ⟨-, occurs', same⟩ | used⟩
    · cases same
    · apply used
  · intro used
    exact ⟨Occurs.isRepeated_eq_false_iff.mp once, .inr used⟩

theorem not_usesFrom {p : Particle} (noRef : ∀ occurs group, p ≠ .groupRef occurs group)
    (simple : p.within = []) (path : List Nat) (group : QName) :
  ¬ p.UsesFrom path group
  := by
  rintro ⟨-, ⟨-, occurs, same⟩ | used⟩
  · apply noRef occurs group same
  · rw [simple] at used
    apply not_usesAt_of_empty used

mutual

/-- A particle uses groups in the order of their places. -/
theorem inOrder_groupRefs (p : Particle) :
  InOrder p.UsesFrom p.groupRefs
  := by
  cases p with
  | element occurs d =>
      rw [groupRefs]
      apply InOrder.of_empty
      apply not_usesFrom (by simp) rfl
  | wildcard occurs =>
      rw [groupRefs]
      apply InOrder.of_empty
      apply not_usesFrom (by simp) rfl
  | groupRef occurs group =>
      rw [groupRefs]
      split
      · next repeated => exact InOrder.of_isRepeated (p := .groupRef occurs group) repeated
      · next once => apply InOrder.groupRef (Bool.eq_false_iff.mpr once)
  | group occurs compositor particles =>
      rw [groupRefs]
      split
      · next repeated =>
          exact InOrder.of_isRepeated (p := .group occurs compositor particles) repeated
      · next once =>
          apply InOrder.group (Bool.eq_false_iff.mpr once) (inOrder_groupRefsOf particles)

/-- Particles use groups in the order of their places. -/
theorem inOrder_groupRefsOf (particles : List Particle) :
  InOrder (UsesAt particles) (groupRefsOf particles)
  := by
  cases particles with
  | nil =>
      apply InOrder.of_empty
      intro path group
      apply not_usesAt_of_empty
  | cons p particles => apply (inOrder_groupRefs p).cons (inOrder_groupRefsOf particles)

end

end Particle

/-- The groups that a model group uses are those at places that are reached along particles that
occur at most once, in the order of the document. A complex type with the same body for its
content uses the same groups if the particle around the body occurs at most once, and else
none. -/
theorem groupRefs_inOrder_and_modelGroups (d : ModelGroupDecl) :
  Particle.InOrder (Particle.UsesAt d.group.particles) (GroupDecl.model d).groupStructure.groupRefs
    ∧ ∀ (t : ComplexType) (occurs : Occurs),
      t.explicitContent.getD t.content
        = .particle (.group occurs d.group.compositor d.group.particles) →
      (occurs.max.AtMostOne → t.groups.modelGroups = (GroupDecl.model d).groupStructure.groupRefs)
        ∧ (¬ occurs.max.AtMostOne → t.groups.modelGroups = [])
  := by
  use Particle.inOrder_groupRefsOf d.group.particles
  intro t occurs root
  have used : t.groups.modelGroups
      = if occurs.isRepeated then [] else Particle.groupRefsOf d.group.particles := by
    rw [ComplexType.groups, ComplexType.contentRoot, root]
    rfl
  rw [used, ← Occurs.isRepeated_eq_false_iff]
  constructor
  · intro once
    rw [once]
    rfl
  · intro repeated
    rw [Bool.not_eq_false] at repeated
    rw [repeated]
    rfl

namespace Sample

/-- The name of a group. -/
def named (localName : String) : QName := { space := "urn:sample", localName }

/-- Any number of times. -/
def manyTimes : Occurs := { min := 0, max := .unbounded }

/-- A group that refers to others in places that may be repeated and in others. -/
def nestedDecl : ModelGroupDecl where
  name := named "nested"
  group.particles :=
    [.groupRef {} (named "party"), .groupRef manyTimes (named "party"),
      .group {} .choice
        [.groupRef {} (named "customer"),
          .group manyTimes .sequence [.groupRef {} (named "order")],
          .groupRef { min := 0, max := .bounded 0 } (named "party")],
      .groupRef { max := .bounded 2 } (named "customer")]

/-- A type whose explicit content is the body of that group. -/
def nestedType : ComplexType where
  explicitContent := some (.particle (.group {} .sequence nestedDecl.group.particles))
  content := .empty

end Sample

/-- Of the references of a group, those are used that cannot be repeated, even if a group is
referred to twice. -/
theorem modelGroups_nestedType :
  Sample.nestedType.explicitContent.getD Sample.nestedType.content
      = .particle (.group {} Sample.nestedDecl.group.compositor Sample.nestedDecl.group.particles)
    ∧ Sample.nestedType.groups.modelGroups
      = (GroupDecl.model Sample.nestedDecl).groupStructure.groupRefs
    ∧ (GroupDecl.model Sample.nestedDecl).groupStructure.groupRefs
      = [Sample.named "party", Sample.named "customer", Sample.named "party"]
  := by
  have used := (groupRefs_inOrder_and_modelGroups Sample.nestedDecl).2 Sample.nestedType {} rfl
  refine ⟨rfl, used.1 ?_, rfl⟩
  apply Occurs.isRepeated_eq_false_iff.mp rfl

end GroupInterfaces
