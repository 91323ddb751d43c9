import GroupInterfaces.Proofs.Counterparts

/-!
# Runs under different settings, side by side

Two runs for the same input under settings that ask for the same of builders come to the same, and
their outlines differ in the interfaces that were made.
-/

namespace GroupInterfaces

/-- The second outcome has the report of the first one, changed by a function, and the same
diagnostics. Behind success, the outlines differ in the interfaces of the report; behind a
failure, they differ in interfaces that are in places of groups of the schemas. -/
structure Outcome.SideBySide (input : Input) (change : Report → Report)
    (R : InterfaceDecl → InterfaceDecl → Prop) (a b : Outcome) : Prop where
  result : b.result = a.result.map change
  diagnostics : b.diagnostics = a.diagnostics
  succeeded : ∀ {r}, a.result = .ok r →
    Outline.DiffersAt R (r.interfaces.map (·.typeRef)) a.outline b.outline
  failed : ∀ {f}, a.result = .error f → ∃ ts,
    (∀ t ∈ ts, ∃ kind, ∃ d ∈ input.schema.declarations kind, input.outline.place? d = some t)
    ∧ Outline.DiffersAt R ts a.outline b.outline

theorem Outcome.SideBySide.mono {input : Input} {change : Report → Report}
    {R R' : InterfaceDecl → InterfaceDecl → Prop} {a b : Outcome}
    (h : Outcome.SideBySide input change R a b) (weaker : ∀ d d', R d d' → R' d d') :
  Outcome.SideBySide input change R' a b
  where
  result := h.result
  diagnostics := h.diagnostics
  succeeded ok := (h.succeeded ok).mono weaker
  failed error := by
    obtain ⟨ts, places, differs⟩ := h.failed error
    exact ⟨ts, places, differs.mono weaker⟩

namespace Generator

variable {g g' : Generator} {input : Input} {index : Episode.Index}

/-- The batch of a run for model groups. -/
def modelBatch (g : Generator) (input : Input) (index : Episode.Index) : Batch :=
  synthesizeAll g.settings input.outline (input.schema.unpublished index .modelGroup)

/-- The batch of a run for attribute groups, behind that for model groups. -/
def attributeBatch (g : Generator) (input : Input) (index : Episode.Index) : Batch :=
  synthesizeAll g.settings
    ((g.modelBatch input index).outline.link
      (.ofInterfaces (g.modelBatch input index).interfaces) index)
    (input.schema.unpublished index .attributeGroup)

/-- A run in terms of its batches. -/
theorem runWith_eq (g : Generator) (input : Input) (index : Episode.Index) :
  g.runWith input index =
    match (g.modelBatch input index).failure with
    | some f =>
      (g.recordAll (g.modelBatch input index).interfaces).fail
        (g.modelBatch input index).outline [] f
    | none =>
      let behind := (g.recordAll (g.modelBatch input index).interfaces).recordAll
        (g.attributeBatch input index).interfaces
      match (g.attributeBatch input index).failure with
      | some f => behind.fail (g.attributeBatch input index).outline [] f
      | none =>
        behind.finish input index
          ((g.attributeBatch input index).outline.link
            (.ofInterfaces (g.attributeBatch input index).interfaces) index)
          ((InterfaceSet.ofInterfaces (g.modelBatch input index).interfaces).link index)
          ((InterfaceSet.ofInterfaces (g.attributeBatch input index).interfaces).link index)
  := rfl

/-- Where all declarations are accepted, the batches of a run have their interfaces. -/
theorem interfaces_batches
    (accepts : input.outline.AcceptsAll (input.schema.pending index)) :
  (g.modelBatch input index).interfaces ++ (g.attributeBatch input index).interfaces
    = (input.schema.pending index).filterMap input.outline.interfaceFor?
  := by
  obtain ⟨-, interfaces, overlaid⟩ := Outline.modelBatch_of_acceptsAll g.settings
    (accepts.sublist (SchemaSet.unpublished_sublist_pending .modelGroup))
  obtain ⟨-, interfaces', -⟩ := Outline.attributeBatch_of_acceptsAll accepts overlaid
  rw [SchemaSet.pending, List.filterMap_append, ← interfaces', ← interfaces, Outline.interfaceSet,
    ← interfaces]
  rfl

/-- Where all declarations are accepted, each of their places is that of an interface of a batch. -/
theorem mem_typeRef_batches (accepts : input.outline.AcceptsAll (input.schema.pending index))
    {d : GroupDecl} {t : TypeRef} (mem : d ∈ input.schema.pending index)
    (place : input.outline.place? d = some t) :
  t ∈ (g.modelBatch input index).interfaces.map (·.typeRef)
    ++ (g.attributeBatch input index).interfaces.map (·.typeRef)
  := by
  obtain ⟨i, interface, rfl⟩ := Outline.interfaceFor?_of_place? place
  rw [← List.map_append, interfaces_batches accepts]
  apply List.mem_map_of_mem
  apply List.mem_filterMap.mpr ⟨d, mem, interface⟩

theorem modelBatch_side_by_side (g g' : Generator) (input : Input) (index : Episode.Index) :
  Batch.SideBySide g.settings g'.settings input.outline []
    (input.schema.unpublished index .modelGroup) (g.modelBatch input index)
    (g'.modelBatch input index)
  := (Outline.DiffersAt.refl input.outline).synthesizeAll _

theorem attributeBatch_side_by_side (g g' : Generator) (input : Input) (index : Episode.Index) :
  Batch.SideBySide g.settings g'.settings input.outline
    ((g.modelBatch input index).interfaces.map (·.typeRef))
    (input.schema.unpublished index .attributeGroup) (g.attributeBatch input index)
    (g'.attributeBatch input index)
  := by
  have models := modelBatch_side_by_side g g' input index
  have linked := models.outline.link (.ofInterfaces (g.modelBatch input index).interfaces) index
  have attributes := linked.synthesizeAll (input.schema.unpublished index .attributeGroup)
  have frame : input.outline.SameFrame ((g.modelBatch input index).outline.link
      (.ofInterfaces (g.modelBatch input index).interfaces) index) :=
    models.frame.trans (Outline.sameFrame_foldl_extend _ _ _)
  rw [attributeBatch, attributeBatch, models.interfaces]
  refine ⟨attributes.failure, attributes.interfaces, frame.trans attributes.frame, ?_,
    attributes.outline⟩
  intro i mem
  obtain ⟨d, mem, place⟩ := attributes.places i mem
  rw [Outline.place?, frame.classForGroup?] at place
  use d, mem, place

/-- What holds of the ends of two runs, be they failures or not, holds of the runs. -/
theorem runWith_side_by_side {P : Outcome → Outcome → Prop} (g g' : Generator) (input : Input)
    (index : Episode.Index)
    (failed : ∀ a a' o o' f ts,
      (∀ t ∈ ts, ∃ d ∈ input.schema.pending index, input.outline.place? d = some t) →
      Outline.DiffersAt (InterfaceDecl.Counterpart g.settings g'.settings) ts o o' →
      P (fail a o [] f) (fail a' o' [] f))
    (finished : ∀ (a a' : Generator) o o' modelGroups attributeGroups ts,
      a.settings = g.settings → a.builders = g.builders → a'.settings = g'.settings →
      a'.builders = g'.builders →
      g.runWith input index = a.finish input index o modelGroups attributeGroups →
      g'.runWith input index = a'.finish input index o' modelGroups attributeGroups →
      (∀ t ∈ ts, ∃ d ∈ input.schema.pending index, input.outline.place? d = some t) →
      (input.outline.AcceptsAll (input.schema.pending index) →
        ∀ d ∈ input.schema.pending index, ∀ {t}, input.outline.place? d = some t → t ∈ ts) →
      Outline.DiffersAt (InterfaceDecl.Counterpart g.settings g'.settings) ts o o' →
      P (a.finish input index o modelGroups attributeGroups)
        (a'.finish input index o' modelGroups attributeGroups)) :
  P (g.runWith input index) (g'.runWith input index)
  := by
  have models := modelBatch_side_by_side g g' input index
  have attributes := attributeBatch_side_by_side g g' input index
  have places : ∀ {kind} {is : List SynthesizedInterface},
      (∀ i ∈ is, ∃ d ∈ input.schema.unpublished index kind,
        input.outline.place? d = some i.typeRef) →
      ∀ t ∈ is.map (·.typeRef), ∃ d ∈ input.schema.pending index,
        input.outline.place? d = some t := by
    intro kind is places t mem
    obtain ⟨i, made, rfl⟩ := List.mem_map.mp mem
    obtain ⟨d, mem, place⟩ := places i made
    use d, SchemaSet.mem_pending_iff.mpr ⟨kind, mem⟩, place
  have both : ∀ t ∈ (g.modelBatch input index).interfaces.map (·.typeRef)
      ++ (g.attributeBatch input index).interfaces.map (·.typeRef),
      ∃ d ∈ input.schema.pending index, input.outline.place? d = some t := by
    intro t mem
    rcases List.mem_append.mp mem with mem | mem
    · apply places models.places t mem
    · apply places attributes.places t mem
  cases failure : (g.modelBatch input index).failure with
  | some f =>
      simp only [runWith_eq, models.failure, failure]
      apply failed _ _ _ _ _ _ (places models.places) models.outline
  | none =>
      cases failure' : (g.attributeBatch input index).failure with
      | some f =>
          simp only [runWith_eq, models.failure, attributes.failure, failure, failure']
          apply failed _ _ _ _ _ _ both attributes.outline
      | none =>
          have linked := attributes.outline.link
            (.ofInterfaces (g.attributeBatch input index).interfaces) index
          have run := runWith_eq g input index
          have run' := runWith_eq g' input index
          simp only [models.failure, attributes.failure, models.interfaces, attributes.interfaces,
            failure, failure'] at run run'
          rw [run, run']
          apply finished ((g.recordAll _).recordAll _) ((g'.recordAll _).recordAll _) _ _ _ _ _ rfl
            rfl rfl rfl run run' both _ linked
          intro accepts d mem t place
          apply mem_typeRef_batches accepts mem place

/-- The ends of runs under settings that ask for the same of builders come to the same. -/
theorem finish_side_by_side {ts : List TypeRef} {o o' : Outline}
    (h : Outline.DiffersAt (InterfaceDecl.Counterpart g.settings g'.settings) ts o o')
    (builders : g'.builders = g.builders) (same : g.settings.SameBuilders g'.settings)
    (modelGroups attributeGroups : InterfaceSet) :
  let a := g.finish input index o modelGroups attributeGroups
  let b := g'.finish input index o' modelGroups attributeGroups
  b.result = a.result.map ({ · with settings := g'.settings })
    ∧ b.diagnostics = a.diagnostics
    ∧ Outline.DiffersAt (InterfaceDecl.Counterpart g.settings g'.settings) ts a.outline b.outline
  := by
  intro a b
  obtain ⟨bound, associations, warnings⟩ :=
    h.bind input.schema modelGroups attributeGroups index input.environment
  obtain ⟨removed, settled⟩ :=
    bound.removePlaceholders (modelGroups.values ++ attributeGroups.values)
  obtain ⟨result, errors, outline⟩ := finish_alike (Outline.keptByBuilders_differsAt _ _ ts)
    g g' input input builders same associations removed settled fun _ _ _ => rfl
  refine ⟨?_, ?_, outline⟩
  · rw [result, warnings]
    cases found : (g.finish input index o modelGroups attributeGroups).result with
    | error f => rfl
    | ok r =>
        have finished := finished_of_result_finish found
        rw [← finished.warnings, ← finished.models, ← finished.attributes]
        rfl
  · have warnings' : b.diagnostics.warnings = a.diagnostics.warnings := by
      rw [warnings_finish, warnings_finish, warnings]
    calc b.diagnostics = ⟨b.diagnostics.errors, b.diagnostics.warnings⟩ := rfl
      _ = a.diagnostics := by rw [errors, warnings']

/-- A run under other settings that ask for the same of builders comes to the same, and its outline
has the counterparts of the interfaces that were made. -/
theorem run_side_by_side {s s' : Settings} (same : s.SameBuilders s') (store : FileStore)
    (input : Input) :
  Outcome.SideBySide input ({ · with settings := s' }) (InterfaceDecl.Counterpart s s')
    (({ g with settings := s } : Generator).run store input)
    (({ g with settings := s' } : Generator).run store input)
  := by
  have declared : ∀ {index} {ts : List TypeRef}, (∀ t ∈ ts, ∃ d ∈ input.schema.pending index,
      input.outline.place? d = some t) → ∀ t ∈ ts, ∃ kind, ∃ d ∈ input.schema.declarations kind,
      input.outline.place? d = some t := by
    intro index ts places t mem
    obtain ⟨d, pending, place⟩ := places t mem
    obtain ⟨kind, mem⟩ := SchemaSet.mem_pending_iff.mp pending
    use kind, d, (SchemaSet.mem_unpublished_iff.mp mem).1
  rcases load : g.upstream.load store input.environment with ⟨e | index, upstream⟩
  · simp only [run, load]
    refine ⟨rfl, rfl, fun ok => (by cases ok), fun _ => ⟨[], ?_, .refl _⟩⟩
    intro t mem
    cases mem
  · simp only [run, load]
    apply runWith_side_by_side
    · intro a a' o o' f ts places differs
      exact ⟨rfl, rfl, fun ok => (by cases ok), fun _ => ⟨ts, declared places, differs⟩⟩
    · intro a a' o o' modelGroups attributeGroups ts settings builders settings' builders' run
        run' places all differs
      rw [← settings, ← settings'] at differs
      obtain ⟨result, diagnostics, outline⟩ := finish_side_by_side differs
        (builders'.trans builders.symm) (by rw [settings, settings']; exact same)
        modelGroups attributeGroups
      rw [settings, settings'] at outline
      rw [settings'] at result
      refine ⟨result, diagnostics, ?_, fun _ => ⟨ts, declared places, outline⟩⟩
      intro r ok
      rw [← run] at ok
      have completed := completed_of_result_runWith ok
      apply outline.of_mem_iff
      intro t
      rw [List.mem_map]
      constructor
      · rintro ⟨i, mem, rfl⟩
        obtain ⟨pending, place, -⟩ := completed.declaration_of_mem_interfaces mem
        apply all completed.accepts _ pending place
      · intro mem
        obtain ⟨d, pending, place⟩ := places t mem
        obtain ⟨i, mem, -, type⟩ := completed.exists_mem_interfaces pending place
        use i, mem, type

end Generator

end GroupInterfaces
