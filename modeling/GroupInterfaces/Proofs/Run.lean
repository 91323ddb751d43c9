import GroupInterfaces.Generation.Generator
import GroupInterfaces.Proofs.Binding
import GroupInterfaces.Proofs.Builders
import GroupInterfaces.Proofs.Linking
import GroupInterfaces.Proofs.Placeholders

/-!
# What a run does

The declarations that the upstream episode does not know are taken one by one, first those of
model groups and then those of attribute groups. A run succeeds if the outline accepts all of
them, and its results are then functions of what it was given. Otherwise the run fails with
the first refusal.
-/

namespace GroupInterfaces

/-- The declarations for which there are to be interfaces, in the order in which they are
taken. -/
def SchemaSet.pending (s : SchemaSet) (index : Episode.Index) : List GroupDecl :=
  s.unpublished index .modelGroup ++ s.unpublished index .attributeGroup

/-- The interfaces of one kind that a run has made. -/
def Report.interfaceSet (r : Report) : GroupKind → InterfaceSet
  | .modelGroup => r.modelGroupInterfaces
  | .attributeGroup => r.attributeGroupInterfaces

namespace SchemaSet

variable {s : SchemaSet} {index : Episode.Index} {kind : GroupKind} {d : GroupDecl}

theorem kind_of_mem_declarations (h : d ∈ s.declarations kind) :
  d.kind = kind
  := by
  cases kind with
  | modelGroup =>
      obtain ⟨m, -, rfl⟩ := List.mem_map.mp h
      rfl
  | attributeGroup =>
      obtain ⟨a, -, rfl⟩ := List.mem_map.mp h
      rfl

theorem mem_unpublished_iff :
  d ∈ s.unpublished index kind ↔ d ∈ s.declarations kind ∧ index.contains d.name = false
  := by
  simp [unpublished]

theorem kind_of_mem_unpublished (h : d ∈ s.unpublished index kind) :
  d.kind = kind
  := kind_of_mem_declarations (mem_unpublished_iff.mp h).1

theorem mem_pending_iff :
  d ∈ s.pending index ↔ ∃ kind, d ∈ s.unpublished index kind
  := by
  rw [pending, List.mem_append]
  constructor
  · rintro (mem | mem)
    · exact ⟨_, mem⟩
    · exact ⟨_, mem⟩
  · rintro ⟨kind, mem⟩
    cases kind with
    | modelGroup => apply Or.inl mem
    | attributeGroup => apply Or.inr mem

theorem unpublished_sublist_pending (kind : GroupKind) :
  (s.unpublished index kind).Sublist (s.pending index)
  := by
  cases kind with
  | modelGroup => apply List.sublist_append_left
  | attributeGroup => apply List.sublist_append_right

end SchemaSet

namespace Outline

variable {settings : Settings} {o cur : Outline} {schema : SchemaSet} {index : Episode.Index}
  {d : GroupDecl}

/-- How the interface for a declaration is declared once it extends what it should. -/
def linkedFor? (settings : Settings) (o : Outline) (schema : SchemaSet)
    (index : Episode.Index) (d : GroupDecl) : Option InterfaceDecl :=
  (o.declarationFor? settings d).map (·.extending
    (d.supertypes (o.interfaceSet (schema.unpublished index d.kind)) index))

/-- How the interface for a declaration is declared when those of the model groups extend what
they should, and those of the attribute groups do not yet. -/
def halfLinkedFor? (settings : Settings) (o : Outline) (schema : SchemaSet)
    (index : Episode.Index) (d : GroupDecl) : Option InterfaceDecl :=
  match d.kind with
  | .modelGroup => o.linkedFor? settings schema index d
  | .attributeGroup => o.declarationFor? settings d

theorem halfLinkedFor?_eq_or (d : GroupDecl) :
  o.halfLinkedFor? settings schema index d = o.declarationFor? settings d
    ∨ o.halfLinkedFor? settings schema index d = o.linkedFor? settings schema index d
  := by
  rw [halfLinkedFor?]
  cases d.kind with
  | modelGroup => apply Or.inr rfl
  | attributeGroup => apply Or.inl rfl

theorem linkedFor?_of_mem {kind : GroupKind} (h : d ∈ schema.unpublished index kind) :
  o.linkedFor? settings schema index d = (o.declarationFor? settings d).map
    (·.extending (d.supertypes (o.interfaceSet (schema.unpublished index kind)) index))
  := by
  rw [linkedFor?, SchemaSet.kind_of_mem_unpublished h]

theorem halfLinkedFor?_of_modelGroup (h : d ∈ schema.unpublished index .modelGroup) :
  o.halfLinkedFor? settings schema index d = o.linkedFor? settings schema index d
  := by
  rw [halfLinkedFor?, SchemaSet.kind_of_mem_unpublished h]

theorem halfLinkedFor?_of_attributeGroup (h : d ∈ schema.unpublished index .attributeGroup) :
  o.halfLinkedFor? settings schema index d = o.declarationFor? settings d
  := by
  rw [halfLinkedFor?, SchemaSet.kind_of_mem_unpublished h]

theorem Accepts.isSome_linkedFor? {earlier : List GroupDecl} (h : o.Accepts earlier d) :
  (o.linkedFor? settings schema index d).isSome
  := by
  rw [linkedFor?, Option.isSome_map]
  apply h.isSome_declarationFor?

/-- The interfaces of model groups that are accepted are all declared. -/
theorem isSome_halfLinkedFor?_of_acceptsAll (settings : Settings)
    (accepts : o.AcceptsAll (schema.unpublished index .modelGroup)) :
  ∀ d ∈ schema.unpublished index .modelGroup, (o.halfLinkedFor? settings schema index d).isSome
  := by
  intro d mem
  rw [halfLinkedFor?_of_modelGroup mem]
  apply (accepts.of_mem mem).isSome_linkedFor?

/-- The interface for a declaration extends what it should. -/
theorem linkedFor?_inv {i : InterfaceDecl} (h : o.linkedFor? settings schema index d = some i) :
  ∃ c p, o.classForGroup? d.name = some c ∧ o.packages.get? c.package = some p
    ∧ i = .mk c.name p.name d.documentation
      ((c.fieldsFor d).flatMap fun f => (c.accessors settings f).methods)
      (((d.supertypes (o.interfaceSet (schema.unpublished index d.kind)) index).map
        Supertype.typeRef).foldl addNew []) []
  := by
  obtain ⟨bare, declared, rfl⟩ := Option.map_eq_some_iff.mp h
  obtain ⟨c, p, found, package, rfl⟩ := declarationFor?_inv declared
  exact ⟨c, p, found, package, InterfaceDecl.extending_eq _ _⟩

/-! ### Batches of a run -/

/-- The batch for the model groups, all of which are accepted, and their linking. -/
theorem modelBatch_of_acceptsAll (settings : Settings)
    (accepts : o.AcceptsAll (schema.unpublished index .modelGroup)) :
  (synthesizeAll settings o (schema.unpublished index .modelGroup)).failure = none
    ∧ (synthesizeAll settings o (schema.unpublished index .modelGroup)).interfaces
      = (schema.unpublished index .modelGroup).filterMap o.interfaceFor?
    ∧ Overlaid o (schema.unpublished index .modelGroup)
      (o.halfLinkedFor? settings schema index)
      ((synthesizeAll settings o (schema.unpublished index .modelGroup)).outline.link
        (o.interfaceSet (schema.unpublished index .modelGroup)) index)
  := by
  have behind : o.AcceptsAll ([] ++ schema.unpublished index .modelGroup) := accepts
  obtain ⟨failure, interfaces, overlaid⟩ := synthesizeAll_of_acceptsAll
    (overlaid_nil o (o.declarationFor? settings)) (by simp) behind fun d mem => rfl
  use failure, interfaces
  apply overlaid.link behind
  · simp
  · intro d mem
    rw [halfLinkedFor?_of_modelGroup mem, linkedFor?_of_mem mem]

/-- The batch for the attribute groups, all of which are accepted behind the model groups, and
their linking. -/
theorem attributeBatch_of_acceptsAll (accepts : o.AcceptsAll (schema.pending index))
    (h : Overlaid o (schema.unpublished index .modelGroup)
      (o.halfLinkedFor? settings schema index) cur) :
  (synthesizeAll settings cur (schema.unpublished index .attributeGroup)).failure = none
    ∧ (synthesizeAll settings cur (schema.unpublished index .attributeGroup)).interfaces
      = (schema.unpublished index .attributeGroup).filterMap o.interfaceFor?
    ∧ Overlaid o (schema.pending index) (o.linkedFor? settings schema index)
      ((synthesizeAll settings cur (schema.unpublished index .attributeGroup)).outline.link
        (o.interfaceSet (schema.unpublished index .attributeGroup)) index)
  := by
  have declared := isSome_halfLinkedFor?_of_acceptsAll settings
    (accepts.sublist (SchemaSet.unpublished_sublist_pending .modelGroup))
  obtain ⟨failure, interfaces, overlaid⟩ := synthesizeAll_of_acceptsAll h declared accepts
    fun d mem => halfLinkedFor?_of_attributeGroup mem
  use failure, interfaces
  apply overlaid.link accepts
  · intro d mem
    rw [halfLinkedFor?_of_modelGroup mem]
  · intro d mem
    rw [halfLinkedFor?_of_attributeGroup mem, linkedFor?_of_mem mem]

end Outline

namespace Generator

variable {g : Generator} {input : Input} {index : Episode.Index}

@[simp]
theorem settings_recordAll (g : Generator) (is : List SynthesizedInterface) :
  (g.recordAll is).settings = g.settings
  := rfl

/-- If all declarations are accepted, a run comes to its end behind the synthesis of
interfaces. -/
theorem runWith_of_acceptsAll (accepts : input.outline.AcceptsAll (input.schema.pending index)) :
  ∃ cur, input.outline.Overlaid (input.schema.pending index)
      (input.outline.linkedFor? g.settings input.schema index) cur
    ∧ g.runWith input index
      = (g.recordAll ((input.schema.pending index).filterMap input.outline.interfaceFor?)).finish
        input index cur
        ((input.outline.interfaceSet (input.schema.unpublished index .modelGroup)).link index)
        ((input.outline.interfaceSet (input.schema.unpublished index .attributeGroup)).link index)
  := by
  have models := Outline.modelBatch_of_acceptsAll g.settings
    (accepts.sublist (SchemaSet.unpublished_sublist_pending .modelGroup))
  obtain ⟨failure₁, interfaces₁, overlaid₁⟩ := models
  obtain ⟨failure₂, interfaces₂, overlaid₂⟩ :=
    Outline.attributeBatch_of_acceptsAll accepts overlaid₁
  refine ⟨_, overlaid₂, ?_⟩
  have recorded : g.recordAll ((input.schema.pending index).filterMap input.outline.interfaceFor?)
      = (g.recordAll ((input.schema.unpublished index .modelGroup).filterMap
          input.outline.interfaceFor?)).recordAll
        ((input.schema.unpublished index .attributeGroup).filterMap
          input.outline.interfaceFor?) := by
    simp [recordAll, SchemaSet.pending, Function.comp_def]
  simp only [runWith, failure₁, interfaces₁]
  rw [recorded]
  simp only [recordAll, Outline.interfaceSet] at failure₂ interfaces₂ ⊢
  simp only [failure₂, interfaces₂]

/-- The run ends with the failure of the synthesis for a declaration, in an outline in which all
declarations in front have their interfaces, linked or not. -/
def FailsAt (g : Generator) (input : Input) (index : Episode.Index) (before : List GroupDecl)
    (d : GroupDecl) (f : Failure) : Prop :=
  ∃ g' decl cur o', g.runWith input index = fail g' o' [] f
    ∧ (∀ e, decl e = input.outline.declarationFor? g.settings e
      ∨ decl e = input.outline.linkedFor? g.settings input.schema index e)
    ∧ input.outline.Overlaid before decl cur ∧ synthesize g.settings cur d = (.error f, o')

/-- A run fails with the first refusal. -/
theorem failsAt_of_refuses {before after : List GroupDecl} {d : GroupDecl} {f : Failure}
    (split : input.schema.pending index = before ++ d :: after)
    (accepts : input.outline.AcceptsAll before) (refuses : input.outline.Refuses before d f) :
  g.FailsAt input index before d f
  := by
  have modelGroup : ∀ rest, input.schema.unpublished index .modelGroup = before ++ d :: rest →
      g.FailsAt input index before d f := by
    intro rest models
    obtain ⟨failure, cur, overlaid, error⟩ := Outline.synthesizeAll_of_refuses rest
      (Outline.overlaid_nil input.outline (input.outline.declarationFor? g.settings)) (by simp)
      (by simpa using accepts) (fun e mem => rfl) (by simpa using refuses)
    rw [← models] at failure error
    let batch := synthesizeAll g.settings input.outline
      (input.schema.unpublished index .modelGroup)
    have run : g.runWith input index
        = fail (g.recordAll batch.interfaces) batch.outline [] f := by
      simp only [runWith, failure, batch]
    exact ⟨_, _, cur, _, run, fun e => Or.inl rfl, overlaid, error⟩
  have attributeGroup : ∀ front, before = input.schema.unpublished index .modelGroup ++ front →
      input.schema.unpublished index .attributeGroup = front ++ d :: after →
      g.FailsAt input index before d f := by
    rintro front rfl attributes
    have accepted := accepts.sublist (List.sublist_append_left _ front)
    obtain ⟨failure₁, interfaces₁, overlaid₁⟩ :=
      Outline.modelBatch_of_acceptsAll g.settings accepted
    have new : ∀ e ∈ front, input.outline.halfLinkedFor? g.settings input.schema index e
        = input.outline.declarationFor? g.settings e := by
      intro e mem
      apply Outline.halfLinkedFor?_of_attributeGroup
      rw [attributes]
      apply List.mem_append_left _ mem
    obtain ⟨failure₂, cur, overlaid, error⟩ := Outline.synthesizeAll_of_refuses after overlaid₁
      (Outline.isSome_halfLinkedFor?_of_acceptsAll g.settings accepted) accepts new refuses
    rw [← attributes] at failure₂ error
    let linked := (synthesizeAll g.settings input.outline
      (input.schema.unpublished index .modelGroup)).outline.link
        (input.outline.interfaceSet (input.schema.unpublished index .modelGroup)) index
    let batch := synthesizeAll g.settings linked
      (input.schema.unpublished index .attributeGroup)
    have run : ∃ g', g.runWith input index = fail g' batch.outline [] f := by
      simp only [runWith, failure₁, interfaces₁]
      simp only [recordAll, Outline.interfaceSet] at failure₂ ⊢
      simp only [failure₂]
      exact ⟨_, rfl⟩
    obtain ⟨g', run⟩ := run
    exact ⟨g', _, cur, _, run, Outline.halfLinkedFor?_eq_or, overlaid, error⟩
  rcases List.append_eq_append_iff.mp split with ⟨front, rfl, attributes⟩ | ⟨rest, models, behind⟩
  · apply attributeGroup front rfl attributes
  · cases rest with
    | nil =>
        apply attributeGroup [] (by simpa using models.symm) (by simpa using behind.symm)
    | cons e rest =>
        obtain ⟨rfl, -⟩ := List.cons.inj behind
        apply modelGroup rest models

theorem result_runWith_of_refuses {before after : List GroupDecl} {d : GroupDecl} {f : Failure}
    (split : input.schema.pending index = before ++ d :: after)
    (accepts : input.outline.AcceptsAll before) (refuses : input.outline.Refuses before d f) :
  (g.runWith input index).result = .error f
  := by
  obtain ⟨g', decl, cur, o', run, -⟩ := failsAt_of_refuses (g := g) split accepts refuses
  rw [run, fail]

/-! ### The end of a run -/

section

variable {cur : Outline} {modelGroups attributeGroups : InterfaceSet}

/-- What the end of a run that succeeds has done. -/
structure Finished (g : Generator) (input : Input) (index : Episode.Index) (cur : Outline)
    (modelGroups attributeGroups : InterfaceSet) (r : Report) (outcome : Outcome) : Prop where
  models : r.modelGroupInterfaces = modelGroups
  attributes : r.attributeGroupInterfaces = attributeGroups
  warnings : r.warnings
    = (cur.bind input.schema modelGroups attributeGroups index input.environment).warnings
  outline : Outline.SameButNested
    ((cur.bind input.schema modelGroups attributeGroups index
      input.environment).outline.removePlaceholders
        (modelGroups.values ++ attributeGroups.values)).2
    outcome.outline
  record : outcome.generator.record = g.record

theorem finished_of_result_finish {r : Report}
    (h : (g.finish input index cur modelGroups attributeGroups).result = .ok r) :
  Finished g input index cur modelGroups attributeGroups r
    (g.finish input index cur modelGroups attributeGroups)
  := by
  revert h
  simp only [finish]
  split
  · split
    · intro h
      cases h
    · next builders o declare =>
        split
        · intro h
          cases h
        · next built =>
            intro h
            cases h
            refine ⟨rfl, rfl, rfl, ?_, rfl⟩
            apply (Outline.sameButNested_declareBuilders declare).trans
            apply BuilderGenerator.sameButNested_buildAll
  · intro h
    cases h
    refine ⟨rfl, rfl, rfl, ?_, rfl⟩
    apply Outline.SameButNested.refl

/-- The end of a run succeeds if the interfaces are declared in slots of their own, with
nothing nested in them, and builders are fluent if there are to be any. -/
theorem exists_result_finish
    (builders : g.settings.declareBuilderInterface → g.builders = .fluent)
    (distinct : ((modelGroups.values ++ attributeGroups.values).map (·.typeRef)).Nodup)
    (fresh : ∀ i ∈ modelGroups.values ++ attributeGroups.values,
      ∃ d, cur.interface? i.typeRef = some d ∧ d.nested = []) :
  ∃ r, (g.finish input index cur modelGroups attributeGroups).result = .ok r
  := by
  let removed := ((cur.bind input.schema modelGroups attributeGroups index
    input.environment).outline.removePlaceholders
      (modelGroups.values ++ attributeGroups.values)).2
  have fresh' : ∀ i ∈ modelGroups.values ++ attributeGroups.values,
      ∃ d, removed.interface? i.typeRef = some d ∧ d.nested = [] := by
    intro i mem
    rw [Outline.interface?_eq, Outline.slot?_removePlaceholders, Outline.slot?_bind,
      ← Outline.interface?_eq]
    apply fresh i mem
  have none : ∀ b ∈ ({} : BuilderOutlines).values, (b.declaration? removed).isSome := by
    intro b mem
    cases mem
  obtain ⟨outlines, o, declare, declared⟩ := Outline.declareBuilders_eq_ok
    g.settings.builderInterfaceName distinct fresh' none
  simp only [finish]
  split
  · next declares =>
      simp only [removed] at declare
      simp only [declare, builders declares,
        BuilderGenerator.failure_buildAll_fluent _ _ _ declared]
      exact ⟨_, rfl⟩
  · exact ⟨_, rfl⟩

end

end Generator

end GroupInterfaces
