import GroupInterfaces.Proofs.EndingAlike
import GroupInterfaces.Proofs.Environments
import GroupInterfaces.Proofs.Reordering

/-!
# Runs where more is compiled

The environment of a run says which types are compiled. It decides which published interfaces
classes can implement, and for which groups there is a type by the name of the group; nothing else
depends on it. Where more types are compiled, classes implement what they do otherwise, and possibly
more, and there are fewer warnings.
-/

namespace GroupInterfaces

/-- All that is compiled in the first environment is compiled in the second one. -/
instance : HasSubset Environment where
  Subset e e' := ∀ name, e.names.contains name → e'.names.contains name

theorem Environment.contains_of_subset {e e' : Environment} (h : e ⊆ e') {t : TypeRef}
    (compiled : e.contains t = true) :
  e'.contains t = true
  := h _ compiled

theorem Environment.subset_add (e : Environment) (name : String) :
  e ⊆ e.add name
  := by
  intro other compiled
  rw [add, SortedMap.contains, SortedMap.get?_insert_key]
  split
  · rfl
  · apply compiled

/-! ### Resolutions -/

/-- What stands for a group is the same, or it was unavailable and is a compiled type now. -/
inductive Resolution.Gains : Resolution → Resolution → Prop where
  | same (r : Resolution) : Gains r r
  | compiled (reason : Unavailable) (t : TypeRef) : Gains (.unavailable reason) (.compiled t)

/-- The same groups are resolved, each with what it was or with a gain. -/
def Gains : List (QName × Resolution) → List (QName × Resolution) → Prop :=
  List.Forall₂ fun e e' => e'.1 = e.1 ∧ e.2.Gains e'.2

section

variable {e e' : Environment} (more : e ⊆ e') {index : Episode.Index}

section

include more

/-- A type that is implemented where it is compiled is not lost. -/
theorem Resolution.gains_of_subset (t : TypeRef) (reason : Unavailable) :
  Gains (if e.contains t then .compiled t else .unavailable reason)
    (if e'.contains t then .compiled t else .unavailable reason)
  := by
  by_cases compiled : e.contains t = true
  · rw [if_pos compiled, if_pos (Environment.contains_of_subset more compiled)]
    apply Gains.same
  · rw [if_neg compiled]
    split
    · apply Gains.compiled
    · apply Gains.same

theorem resolveByName_gains (group : QName) :
  (resolveByName e group).Gains (resolveByName e' group)
  := by
  simp only [resolveByName]
  cases Naming.packageName? group.space with
  | none => apply Resolution.Gains.same
  | some package => apply Resolution.gains_of_subset more

end

/-- What stands for a group that has been published and that the run has no interface for. -/
theorem resolve_of_published {set : InterfaceSet} {group : QName} {p : PublishedInterface}
    (absent : set.get? group = none) (published : index.get? group = some (p.within e)) :
  resolve set index e group = if e.contains p.typeRef then .compiled p.typeRef
    else .unavailable (.notCompiled p.typeRef)
  := by
  simp only [resolve, absent, published, p.compiled?_within e]
  by_cases compiled : e.contains p.typeRef = true
  · simp only [compiled, if_true]
  · simp only [compiled]
    rfl

variable (within : index.IsWithin e)
include more within

/-- A published interface that is compiled stays so. -/
theorem resolve_gains (set : InterfaceSet) (group : QName) :
  (resolve set index e group).Gains (resolve (set.within e') (index.within e') e' group)
  := by
  cases own : set.get? group with
  | some i =>
      simp only [resolve, InterfaceSet.get?_within, own, Option.map_some]
      apply Resolution.Gains.same
  | none =>
      have own' := set.get?_within e' group
      rw [own, Option.map_none] at own'
      cases published : index.get? group with
      | none =>
          have published' := index.get?_within e' group
          rw [published, Option.map_none] at published'
          simp only [resolve, own, own', published, published']
          apply resolveByName_gains more
      | some p =>
          have published' := index.get?_within e' group
          rw [published, Option.map_some] at published'
          rw [← within.eq_of_get? published] at published
          rw [resolve_of_published own published, resolve_of_published own' published']
          apply Resolution.gains_of_subset more

theorem ContentGroups.resolutions_gains (groups : ContentGroups)
    (modelGroups attributeGroups : InterfaceSet) :
  Gains (groups.resolutions modelGroups attributeGroups index e)
    (groups.resolutions (modelGroups.within e') (attributeGroups.within e') (index.within e') e')
  := by
  have each : ∀ (set : InterfaceSet) (names : List QName),
      Gains (names.map fun q => (q, resolve set index e q))
        (names.map fun q => (q, resolve (set.within e') (index.within e') e' q)) := by
    intro set names
    apply List.forall₂_map_left_iff.mpr
    apply List.forall₂_map_right_iff.mpr
    apply List.forall₂_same.mpr
    intro q _
    exact ⟨rfl, resolve_gains more within set q⟩
  apply List.rel_append (each attributeGroups _) (each modelGroups _)

end

namespace Gains

variable {rs rs' : List (QName × Resolution)} (h : Gains rs rs')
include h

/-- Every interface is implemented still. -/
theorem interfacesOf_subset :
  interfacesOf rs ⊆ interfacesOf rs'
  := by
  induction h with
  | nil => apply List.Subset.refl
  | @cons a b as bs gain _ ih =>
      obtain ⟨group, r⟩ := a
      obtain ⟨group', r'⟩ := b
      obtain ⟨-, gain⟩ := gain
      cases gain with
      | same r =>
          cases r with
          | synthesized t => apply List.cons_subset_cons t ih
          | compiled t => apply List.cons_subset_cons t ih
          | unavailable reason => apply ih
      | compiled reason t => apply List.subset_cons_of_subset t ih

/-- Nothing but compiled types is gained. -/
theorem synthesizedOf_eq :
  synthesizedOf rs' = synthesizedOf rs
  := by
  induction h with
  | nil => rfl
  | @cons a b as bs gain _ ih =>
      obtain ⟨group, r⟩ := a
      obtain ⟨group', r'⟩ := b
      obtain ⟨-, gain⟩ := gain
      cases gain with
      | same r =>
          cases r with
          | synthesized t => apply congrArg (List.cons t) ih
          | compiled t => apply ih
          | unavailable reason => apply ih
      | compiled reason t => apply ih

/-- There are no new warnings, and those that remain are in order. -/
theorem warningsOf_sublist (schema : SchemaSet) (className : String) :
  (warningsOf schema className rs').Sublist (warningsOf schema className rs)
  := by
  induction h with
  | nil => apply List.Sublist.refl
  | @cons a b as bs gain _ ih =>
      obtain ⟨group, r⟩ := a
      obtain ⟨group', r'⟩ := b
      obtain ⟨rfl, gain⟩ := gain
      cases gain with
      | same r =>
          cases r with
          | synthesized t => apply ih
          | compiled t => apply ih
          | unavailable reason => apply ih.cons_cons
      | compiled reason t => apply ih.cons

end Gains

/-! ### Classes that implement more -/

/-- The class implements what another one does, and is the same otherwise. -/
def GeneratedClass.ImplementsMore (c c' : GeneratedClass) : Prop :=
  ∃ implements, c.implements ⊆ implements ∧ c' = { c with implements }

theorem GeneratedClass.bound_implementsMore (c : GeneratedClass)
    {f f' : ContentGroups → List TypeRef} (more : ∀ groups, f groups ⊆ f' groups) :
  (c.bound f).ImplementsMore (c.bound f')
  := by
  rw [bound, bound]
  split
  · next t _ =>
      rw [implementing_eq, implementing_eq]
      use (f' t.groups).foldl addNew c.implements
      constructor
      · intro u mem
        rcases mem_foldl_addNew_iff.mp mem with mem | mem
        · apply mem_foldl_addNew_iff.mpr (Or.inl mem)
        · apply mem_foldl_addNew_iff.mpr (Or.inr (more t.groups mem))
      · rfl
  · use c.implements, List.Subset.refl _

/-- The outlines have the same packages, and the same classes apart from what these implement. -/
structure Outline.ImplementsMore (o o' : Outline) : Prop where
  packages : o'.packages = o.packages
  classes : ∀ name,
    Option.Rel GeneratedClass.ImplementsMore (o.classes.get? name) (o'.classes.get? name)

namespace Outline

/-- Changing an interface in the same way in two terms changes the outline in the same way. -/
theorem modifyInterface_congr {o : Outline} {t : TypeRef} {d : InterfaceDecl}
    {f f' : InterfaceDecl → InterfaceDecl} (found : o.interface? t = some d) (same : f' d = f d) :
  o.modifyInterface t f' = o.modifyInterface t f
  := by
  apply eq_of_slot?_eq
    ((sameFrame_modifyInterface o t f).symm.trans (sameFrame_modifyInterface o t f'))
  intro u
  rw [slot?_modifyInterface, slot?_modifyInterface]
  rw [interface?_eq] at found
  cases slot : o.slot? t with
  | none => rfl
  | some content =>
      cases content with
      | «class» qualifiedName => rfl
      | interface e =>
          rw [slot] at found
          obtain rfl : e = d := Option.some.inj found
          simp only [Option.map_some, Slot.mapInterface, same]

namespace ImplementsMore

variable {o o' : Outline} (h : o.ImplementsMore o')
include h

theorem contains (name : String) :
  o'.classes.contains name = o.classes.contains name
  := by
  have classes := h.classes name
  rw [SortedMap.contains, SortedMap.contains]
  generalize o.classes.get? name = c, o'.classes.get? name = c' at classes
  cases classes with
  | some _ => rfl
  | none => rfl

theorem removePlaceholder (placeholder : TypeRef) :
  (o.removePlaceholder placeholder).ImplementsMore (o'.removePlaceholder placeholder)
  where
  packages := by simp only [Outline.removePlaceholder, modifyPackage, h.packages]
  classes name := by
    rw [get?_classes_removePlaceholder, get?_classes_removePlaceholder]
    split
    · apply Option.Rel.none
    · apply h.classes

theorem removePlaceholders (is : List SynthesizedInterface) :
  (o'.removePlaceholders is).1 = (o.removePlaceholders is).1
    ∧ (o.removePlaceholders is).2.ImplementsMore (o'.removePlaceholders is).2
  := by
  induction is generalizing o o' with
  | nil => exact ⟨rfl, h⟩
  | cons i is ih =>
      obtain ⟨removed, more⟩ := ih (h.removePlaceholder i.placeholder)
      simp only [Outline.removePlaceholders, h.contains, removed]
      split
      · exact ⟨rfl, more⟩
      · exact ⟨rfl, more⟩

end ImplementsMore

/-- Builders do not look at classes. -/
theorem keptByBuilders_implementsMore :
  KeptByBuilders ImplementsMore
  where
  alike := by
    intro o o' h t
    have same : o'.interface? t = o.interface? t := by rw [interface?, h.packages, interface?]
    rw [same]
    cases o.interface? t with
    | none => apply Or.inl ⟨rfl, rfl⟩
    | some d => apply Or.inr ⟨d, d, rfl, rfl, .refl d⟩
  kept := by
    intro o o' h t d d' found found' nested f f' changed changed'
    rw [interface?, h.packages] at found'
    obtain rfl : d = d' := Option.some.inj (found.symm.trans found')
    rw [modifyInterface_congr found (changed.trans changed'.symm)]
    constructor
    · simp only [modifyInterface, modifyPackage, h.packages]
    · apply h.classes

/-- Where more is compiled, binding lets classes implement more and warns less. It records the
same. -/
theorem bind_within {e e' : Environment} (more : e ⊆ e') {index : Episode.Index}
    (within : index.IsWithin e) (o : Outline) (schema : SchemaSet)
    (models attributes : InterfaceSet) :
  let b := o.bind schema models attributes index e
  let b' := o.bind schema (models.within e') (attributes.within e') (index.within e') e'
  b.outline.ImplementsMore b'.outline ∧ b'.associations = b.associations
    ∧ b'.warnings.Sublist b.warnings
  := by
  have gains : ∀ groups : ContentGroups, Gains (groups.resolutions models attributes index e)
      (groups.resolutions (models.within e') (attributes.within e') (index.within e') e') :=
    fun groups => groups.resolutions_gains more within models attributes
  refine ⟨⟨?_, ?_⟩, ?_, ?_⟩
  · rw [outline_bind, outline_bind, packages_bindClasses, packages_bindClasses]
  · intro name
    rw [get?_classes_bind, get?_classes_bind]
    cases o.classes.get? name with
    | none => apply Option.Rel.none
    | some c =>
        apply Option.Rel.some
        apply c.bound_implementsMore fun groups => (gains groups).interfacesOf_subset
  · simp only [associations_bind, fun groups => (gains groups).synthesizedOf_eq]
  · rw [warnings_bind, warnings_bind]
    apply List.Sublist.flatMap_right
    intro b _
    apply (gains b.2).warningsOf_sublist

end Outline

/-! ### Runs -/

/-- The report with what is known of its supertypes in another environment, and other warnings. -/
def Report.within (r : Report) (e : Environment) (warnings : List Diagnostic) : Report :=
  { r with
    modelGroupInterfaces := r.modelGroupInterfaces.within e
    attributeGroupInterfaces := r.attributeGroupInterfaces.within e
    warnings }

namespace Generator

variable {g : Generator} {store : FileStore} {input : Input} {index : Episode.Index} {r : Report}
  {e : Environment}

/-- The end of a run comes to the same where more is compiled, with fewer warnings and with classes
that implement more. -/
theorem finish_within (within : index.IsWithin input.environment) (more : input.environment ⊆ e)
    (upstream : Episode.Upstream) (o : Outline) (models attributes : InterfaceSet) :
  let a := g.finish input index o models attributes
  let b := { g with upstream }.finish { input with environment := e } (index.within e) o
    (models.within e) (attributes.within e)
  ∃ warnings, b.result = a.result.map (·.within e warnings)
    ∧ (∀ {r}, a.result = .ok r → warnings.Sublist r.warnings)
    ∧ a.outline.ImplementsMore b.outline
  := by
  intro a b
  obtain ⟨bound, associations, warnings⟩ :=
    o.bind_within more within input.schema models attributes
  obtain ⟨removed, settled⟩ := bound.removePlaceholders (models.values ++ attributes.values)
  have values : (models.within e).values ++ (attributes.within e).values
      = (models.values ++ attributes.values).map (·.within e) := by
    rw [InterfaceSet.values_within, InterfaceSet.values_within, List.map_append]
  have same : ∀ o : Outline,
      o.removePlaceholders ((models.within e).values ++ (attributes.within e).values)
        = o.removePlaceholders (models.values ++ attributes.values) := by
    intro o
    rw [values, Outline.removePlaceholders_map_within]
  obtain ⟨result, -, outline⟩ := finish_alike Outline.keptByBuilders_implementsMore
    g { g with upstream } input { input with environment := e } rfl ⟨rfl, rfl, rfl⟩ associations
    (by rw [same]; exact removed) (by rw [same]; exact settled)
    (by simp only [values, Outline.declareBuilders_map_within, implies_true])
  use (o.bind input.schema (models.within e) (attributes.within e) (index.within e) e).warnings
  refine ⟨result.trans ?_, ?_, outline⟩
  · cases ok : a.result with
    | error f => rfl
    | ok r =>
        have finished := finished_of_result_finish ok
        rw [← finished.models, ← finished.attributes]
        simp only [Except.map, Report.within, settings_of_result_finish ok]
  · intro r ok
    rw [(finished_of_result_finish ok).warnings]
    apply warnings

/-- With an index that is loaded where more is compiled, a run for declarations that are accepted
comes to the same with fewer warnings, and its classes implement more. -/
theorem runWith_within (within : index.IsWithin input.environment) (more : input.environment ⊆ e)
    (accepts : input.outline.AcceptsAll (input.schema.pending index))
    (upstream : Episode.Upstream) :
  let a := g.runWith input index
  let b := { g with upstream }.runWith { input with environment := e } (index.within e)
  ∃ warnings, b.result = a.result.map (·.within e warnings)
    ∧ (∀ {r}, a.result = .ok r → warnings.Sublist r.warnings)
    ∧ a.outline.ImplementsMore b.outline
  := by
  have accepts' : { input with environment := e }.outline.AcceptsAll
      ({ input with environment := e }.schema.pending (index.within e)) := by
    rw [SchemaSet.pending_within]
    apply accepts
  obtain ⟨cur, overlaid, run⟩ := runWith_of_acceptsAll (g := g) accepts
  obtain ⟨cur', overlaid', run'⟩ := runWith_of_acceptsAll (g := { g with upstream }) accepts'
  have sets : ∀ kind,
      (input.outline.interfaceSet (input.schema.unpublished index kind)).link (index.within e)
        = ((input.outline.interfaceSet (input.schema.unpublished index kind)).link index).within
          e := by
    intro kind
    apply InterfaceSet.link_within within
    intro group i found
    apply (acceptsAll_unpublished accepts kind).supertypes_eq_nil found
  simp only [Outline.linkedFor?_within, SchemaSet.pending_within, SchemaSet.unpublished_within,
    sets] at overlaid' run'
  -- In both environments the same declarations are laid over the same places.
  obtain rfl := overlaid.eq_of_perm overlaid' (.refl _)
  rw [run, run']
  apply finish_within (g := g.recordAll _) within more upstream

/-- Where more is compiled, no edge is lost. A run fails in both environments with the same failure,
or in none; if it succeeds, it declares the same interfaces, and reports the same but for what is
known of published supertypes, and possibly fewer warnings; and classes implement all that they
implement where less is compiled. -/
theorem run_within (g : Generator) (store : FileStore) (input : Input) (e : Environment)
    (new : g.upstream.index = none) (more : input.environment ⊆ e) :
  let a := g.run store input
  let b := g.run store { input with environment := e }
  (∀ f, a.result = .error f ↔ b.result = .error f)
    ∧ ∀ r, a.result = .ok r → ∃ warnings, warnings.Sublist r.warnings
      ∧ b.result = .ok (r.within e warnings) ∧ a.outline.ImplementsMore b.outline
  := by
  cases readBack : g.upstream.bindings store with
  | error cause =>
      have load : ∀ e, g.upstream.load store e = (.error cause, g.upstream) := fun e =>
        Episode.Upstream.load_of_error new readBack
      simp only [run, load]
      refine ⟨fun _ => trivial, fun r ok => ?_⟩
      cases ok
  | ok bindings =>
      have load : ∀ e, g.upstream.load store e = (.ok (.ofBindings bindings e),
          { g.upstream with index := some (.ofBindings bindings e) }) := fun e =>
        Episode.Upstream.load_of_bindings new readBack
      have within : (Episode.Index.ofBindings bindings input.environment).IsWithin
          input.environment := Episode.Index.within_ofBindings _ _ _
      have other := Episode.Index.within_ofBindings bindings input.environment e
      simp only [run, load, ← other]
      generalize Episode.Index.ofBindings bindings input.environment = index at within
      by_cases accepts : input.outline.AcceptsAll (input.schema.pending index)
      · obtain ⟨warnings, result, fewer, implements⟩ :=
          runWith_within (g := { g with upstream := { g.upstream with index := some index } }) within
            more accepts { g.upstream with index := some (index.within e) }
        simp only at result
        rw [result]
        constructor
        · intro f
          generalize Outcome.result _ = result
          cases result with
          | error f' => rfl
          | ok r => simp [Except.map]
        · intro r ok
          rw [ok]
          exact ⟨warnings, fewer ok, rfl, implements⟩
      · obtain ⟨before, d, after, f, split, accepts, refuses⟩ :=
          Outline.exists_refuses_of_not_acceptsAll accepts
        have split' : input.schema.pending (index.within e) = before ++ d :: after := by
          rw [SchemaSet.pending_within, split]
        have fails : ∀ upstream, ({ g with upstream }.runWith input index).result = .error f :=
          fun _ => result_runWith_of_refuses split accepts refuses
        have fails' : ∀ upstream, ({ g with upstream }.runWith { input with environment := e }
            (index.within e)).result = .error f :=
          fun _ => result_runWith_of_refuses split' accepts refuses
        rw [fails, fails']
        refine ⟨fun _ => Iff.rfl, fun r ok => ?_⟩
        cases ok

end Generator

/-- The sample without a declaration of the model group. -/
def Sample.auditInput : Input :=
  { input with schema := { attributeGroups := [audit] } }

/-- In the sample, the class comes to implement the type by the name of the group that is not
declared, and the warning is gone. -/
theorem Generator.run_within_sample :
  let e : Environment := Environment.add {} "sample.Party"
  let a := Sample.generator.run {} Sample.auditInput
  let b := Sample.generator.run {} { Sample.auditInput with environment := e }
  ∃ r, a.result = .ok r ∧ r.warnings.length = 1 ∧ b.result = .ok (r.within e [])
    ∧ a.outline.ImplementsMore b.outline
  := by
  intro e a b
  have one : a.result.toOption.map (·.warnings.length) = some 1 := by decide +kernel
  have none : b.result.toOption.map (·.warnings.length) = some 0 := by decide +kernel
  have more : Sample.auditInput.environment ⊆ e := Environment.subset_add {} "sample.Party"
  cases ok : a.result with
  | error f =>
      rw [ok] at one
      cases one
  | ok r =>
      obtain ⟨warnings, -, same, implements⟩ :=
        (run_within Sample.generator {} Sample.auditInput e rfl more).2 r ok
      have empty : warnings = [] := by
        change b.result = _ at same
        rw [same] at none
        apply List.length_eq_zero_iff.mp (Option.some.inj none)
      rw [ok] at one
      rw [empty] at same
      exact ⟨r, rfl, Option.some.inj one, same, implements⟩

end GroupInterfaces
