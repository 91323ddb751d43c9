import GroupInterfaces.Proofs.Agreement
import GroupInterfaces.Proofs.Integrity

/-!
# Running again

A run that builds on the record of an earlier one for the same schemas has no interfaces to make.
It finds every group of the schemas published, under the type that the earlier run has given it,
and so it binds the classes of the outline that the earlier run has left to interfaces that they
implement already.
-/

namespace GroupInterfaces

/-! ### Runs without interfaces to make -/

section

variable (schema : SchemaSet) (index : Episode.Index) (environment : Environment)

/-- Without interfaces of a run, binding records nothing. -/
theorem Outline.associations_bind_empty (o : Outline) :
  (o.bind schema {} {} index environment).associations = {}
  := by
  have none : ∀ groups : ContentGroups,
      synthesizedOf (groups.resolutions {} {} index environment) = [] := by
    intro groups
    apply List.eq_nil_iff_forall_not_mem.mpr
    intro t mem
    obtain ⟨group, i, answer | answer, -⟩ := exists_get?_of_mem_synthesizedOf mem
    · cases answer
    · cases answer
  have empty : (o.bind schema {} {} index environment).associations.byClass = {} := by
    apply SortedMap.ext_get?
    intro name
    rw [get?_associations_bind]
    cases o.classes.get? name with
    | none => rfl
    | some c =>
        simp only [Option.bind_some, GeneratedClass.associated?, none]
        cases c.complexType? with
        | none => rfl
        | some t => rfl
  rw [← empty]

end

/-- The report has no interfaces, no classes that were removed, and no associations. -/
structure Report.Idle (r : Report) : Prop where
  modelGroups : r.modelGroupInterfaces = {}
  attributeGroups : r.attributeGroupInterfaces = {}
  removed : r.removedClasses = []
  associations : r.associations = {}

namespace Generator

/-- A run that is to make no interfaces binds the classes, and does nothing else. -/
theorem runWith_of_unpublished_eq_nil (g : Generator) (input : Input) {index : Episode.Index}
    (known : ∀ kind, input.schema.unpublished index kind = []) :
  ∃ r, (g.runWith input index).result = .ok r ∧ r.Idle
    ∧ r.warnings
      = (input.outline.bind input.schema {} {} index input.environment).warnings
    ∧ (g.runWith input index).outline
      = (input.outline.bind input.schema {} {} index input.environment).outline
  := by
  have run : g.runWith input index = ((g.recordAll []).recordAll []).finish input index
      input.outline {} {} := by
    simp only [runWith, known]
    rfl
  have associations :=
    input.outline.associations_bind_empty input.schema index input.environment
  rw [run]
  simp only [finish]
  split
  · exact ⟨_, rfl, ⟨rfl, rfl, rfl, associations⟩, rfl, rfl⟩
  · exact ⟨_, rfl, ⟨rfl, rfl, rfl, associations⟩, rfl, rfl⟩

end Generator

/-! ### Binding again -/

/-- A run that finds all groups of the schemas published has no interfaces to make. -/
theorem Episode.Index.Publishes.unpublished_eq_nil {index : Episode.Index} {o : Outline}
    {s : SchemaSet} (h : index.Publishes o (s.pending {})) (kind : GroupKind) :
  s.unpublished index kind = []
  := by
  apply List.filter_eq_nil_iff.mpr
  intro d mem
  obtain ⟨t, -, answer⟩ := h.published d (SchemaSet.mem_pending_empty_iff.mpr ⟨kind, mem⟩)
  rw [SortedMap.contains, answer]
  simp

namespace Generator.Completed

variable {g : Generator} {input : Input} {index : Episode.Index} {r : Report} {outcome : Outcome}
  (h : Completed g input {} r outcome)
  (published : index.Publishes input.outline (input.schema.pending {}))
include h published

/-- An index that publishes what a run has made answers for a group as the run does. -/
theorem sameAnswer_published {kind : GroupKind} {group : QName}
    (only : input.schema.OnlyAs kind group) :
  SameAnswer input.schema {} (input.outline.interfaceSet (input.schema.declarations kind)) {}
    index group
  := by
  have split : input.schema.SplitInto input.schema {} := ⟨.refl_left _, .refl_left _⟩
  have answer := sameAnswer h.accepts split published only
  cases kind with
  | modelGroup => apply answer
  | attributeGroup => apply answer

variable {groups : ContentGroups}
  (only : ∀ kind, ∀ q ∈ groups.ofKind kind, input.schema.OnlyAs kind q)
include only

/-- A class implements the same interfaces when those of the run are published. -/
theorem interfacesOf_published_eq :
  interfacesOf (r.resolutions input {} groups)
    = interfacesOf (groups.resolutions {} {} index input.environment)
  := by
  apply @filterMap_resolutions _ _ _ fun _ => {}
  intro kind q mem
  simp only
  rw [h.sets, SameAnswer.resolve_link, SchemaSet.unpublished_empty]
  apply ((h.sameAnswer_published published (only kind q mem)).typeRef?_and_reason?_resolve _).1

/-- For a class there are the same warnings when the interfaces of the run are published. -/
theorem warningsOf_published_eq (className : String) :
  warningsOf input.schema className (r.resolutions input {} groups)
    = warningsOf input.schema className (groups.resolutions {} {} index input.environment)
  := by
  apply @filterMap_resolutions _ _ _ fun _ => {}
  intro kind q mem
  simp only
  rw [h.sets, SameAnswer.resolve_link, SchemaSet.unpublished_empty,
    ((h.sameAnswer_published published (only kind q mem)).typeRef?_and_reason?_resolve _).2]

end Generator.Completed

namespace Report.Settled

variable {g : Generator} {s : Settings} {input : Input} {index : Episode.Index} {r : Report}
  {o o' : Outline} {outcome : Outcome} (h : r.Settled s input {} o)
  (completed : g.Completed input {} r outcome) (classes : o'.classes = o.classes)
include h completed classes

/-- A run leaves all classes that it binds, with the groups that their types use. -/
theorem bindable_eq (keyed : input.outline.Keyed) :
  o'.bindable = input.outline.bindable
  := by
  apply Outline.bindable_ext
  intro name groups
  rw [Outline.mem_bindable_iff, Outline.mem_bindable_iff, classes]
  constructor
  · rintro ⟨c, t, found, type, uses⟩
    obtain ⟨-, c₀, found₀, rfl⟩ := h.get?_classes_eq_some_iff.mp found
    use c₀, t, found₀
    rw [GeneratedClass.complexType?_bound] at type
    exact ⟨type, uses⟩
  · rintro ⟨c, t, found, type, uses⟩
    have remains := qualifiedName_ne_of_complexType? completed keyed found (by rw [type]; rfl)
    refine ⟨_, t, h.get?_classes_eq_some_iff.mpr ⟨remains, c, found, rfl⟩, ?_, uses⟩
    rw [GeneratedClass.complexType?_bound, type]

variable (published : index.Publishes input.outline (input.schema.pending {}))
  (apart : input.schema.KindsApart input.outline)
include published apart

/-- Binding the classes again, to the interfaces that are published now, changes nothing. -/
theorem outline_bind_published :
  (o'.bind input.schema {} {} index input.environment).outline = o'
  := by
  have packages : (o'.bind input.schema {} {} index input.environment).outline.packages
      = o'.packages := by
    rw [Outline.outline_bind, Outline.packages_bindClasses]
  have bound : (o'.bind input.schema {} {} index input.environment).outline.classes
      = o'.classes := by
    apply SortedMap.ext_get?
    intro name
    rw [Outline.get?_classes_bind, classes]
    cases found : o.classes.get? name with
    | none => rfl
    | some c =>
        obtain ⟨-, c₀, found₀, rfl⟩ := h.get?_classes_eq_some_iff.mp found
        rw [Option.map_some, GeneratedClass.bound_bound]
        intro t type
        symm
        apply completed.interfacesOf_published_eq published (apart.classes found₀ type)
  calc (o'.bind input.schema {} {} index input.environment).outline
      = ⟨(o'.bind input.schema {} {} index input.environment).outline.packages,
          (o'.bind input.schema {} {} index input.environment).outline.classes⟩ := rfl
    _ = o' := by rw [packages, bound]

/-- Binding the classes again gives the warnings of the run again. -/
theorem warnings_bind_published (keyed : input.outline.Keyed) :
  (o'.bind input.schema {} {} index input.environment).warnings = r.warnings
  := by
  rw [Outline.warnings_bind, completed.warnings, h.bindable_eq completed classes keyed]
  apply List.flatMap_congr
  rintro ⟨className, groups⟩ mem
  obtain ⟨c, t, found, type, rfl⟩ := Outline.mem_bindable_iff.mp mem
  symm
  apply completed.warningsOf_published_eq published (apart.classes found type)

end Report.Settled

/-- The sample, with the interfaces of both its groups compiled. -/
def Sample.allCompiledInput : Input :=
  { input with environment := .ofList ["sample.Audit", "sample.Party"] }

namespace Generator

variable {g : Generator} {store : FileStore} {input : Input} {r : Report}

/-- Running again changes nothing. If a run without an upstream episode succeeds and the types of
its interfaces are compiled, then a run on the outline that it has left, which builds on its record
from wherever this is read as it is written, succeeds as well, has nothing to do, and gives the
same warnings. -/
theorem run_upon_own_record (alone : g.upstream = {}) (kept : input.outline.WellKept)
    (apart : input.schema.KindsApart input.outline)
    (names : ∀ kind, ∀ d ∈ input.schema.declarations kind,
      ∀ c ∈ d.name.localName.toList, c ≠ ':' ∧ Text.isBlank c = false)
    (first : (g.recording.run store input).result = .ok r)
    (compiled : ∀ i ∈ r.interfaces, input.environment.contains i.typeRef) :
  ∃ record, (g.recording.run store input).generator.record = some record
    ∧ ∀ (g' : Generator) (source : Episode.Source) (store' : FileStore),
      source.read store' = .ok record.write →
      ∃ r', ((g'.upon source).run store'
          { input with outline := (g.recording.run store input).outline }).result = .ok r'
        ∧ r'.Idle ∧ r'.warnings = r.warnings
        ∧ ((g'.upon source).run store'
          { input with outline := (g.recording.run store input).outline }).outline
          = (g.recording.run store input).outline
  := by
  have loaded : (g.recording.upstream.load store input.environment).1 = .ok {} := by
    rw [recording, alone]
    rfl
  obtain ⟨index₀, o, load, completed, settled, built⟩ := exists_settled_of_result_run first
  obtain rfl := Except.ok.inj (loaded.symm.trans load)
  have keyed : input.outline.Keyed := fun _ _ => kept.keyed
  use input.outline.recordFor (input.schema.pending {}), completed.record
  intro g' source store' read
  have names' : ∀ d ∈ input.schema.pending {},
      ∀ c ∈ d.name.localName.toList, c ≠ ':' ∧ Text.isBlank c = false := by
    intro d mem
    obtain ⟨kind, mem⟩ := SchemaSet.mem_pending_empty_iff.mp mem
    apply names kind d mem
  have compiled' : ∀ d ∈ input.schema.pending {}, ∀ {t}, input.outline.place? d = some t →
      input.environment.contains t := by
    intro d mem t place
    obtain ⟨i, mem, -, rfl⟩ := completed.exists_mem_interfaces mem place
    apply compiled i mem
  obtain ⟨bindings, readBack, published⟩ :=
    kept.publishes_recordFor completed.accepts names' compiled'
  have classes := built.sameFrame.classes
  obtain ⟨upstream, again⟩ : ∃ upstream, (g'.upon source).run store'
        { input with outline := (g.recording.run store input).outline }
      = { g'.upon source with upstream }.runWith
        { input with outline := (g.recording.run store input).outline }
        (.ofBindings bindings input.environment) := run_of_load (load_upon read readBack)
  rw [again]
  obtain ⟨r', ok, idle, warnings, outline⟩ :=
    runWith_of_unpublished_eq_nil { g'.upon source with upstream }
      { input with outline := (g.recording.run store input).outline } published.unpublished_eq_nil
  refine ⟨r', ok, idle, warnings.trans ?_, outline.trans ?_⟩
  · apply settled.warnings_bind_published completed classes published apart keyed
  · apply settled.outline_bind_published completed classes published apart

/-- The sample can be generated again, when the interfaces of both groups are compiled. -/
theorem run_upon_own_record_sample :
  ∃ r record r',
    (Sample.generator.recording.run {} Sample.allCompiledInput).result = .ok r
    ∧ (Sample.generator.recording.run {} Sample.allCompiledInput).generator.record = some record
    ∧ ((Sample.generator.upon (.inline "own" record.write)).run {}
        { Sample.allCompiledInput with
          outline := (Sample.generator.recording.run {} Sample.allCompiledInput).outline }).result
      = .ok r'
    ∧ r'.Idle ∧ r'.warnings = r.warnings
  := by
  have names : ∀ kind, ∀ d ∈ Sample.schema.declarations kind,
      ∀ c ∈ d.name.localName.toList, c ≠ ':' ∧ Text.isBlank c = false := by
    have plain : ∀ name ∈ ["party", "audit"],
        (name.toList.all fun c => c ≠ ':' && !Text.isBlank c) = true := by decide
    intro kind d mem c letter
    have name : d.name.localName ∈ ["party", "audit"] := by
      cases kind with
      | modelGroup =>
          obtain rfl := List.mem_singleton.mp mem
          apply List.mem_cons_self
      | attributeGroup =>
          obtain rfl := List.mem_singleton.mp mem
          apply List.mem_cons_of_mem _ List.mem_cons_self
    simpa using List.all_eq_true.mp (plain _ name) c letter
  obtain ⟨r, first, compiled⟩ :
      ∃ r, (Sample.generator.recording.run {} Sample.allCompiledInput).result = .ok r
        ∧ ∀ i ∈ r.interfaces, Sample.allCompiledInput.environment.contains i.typeRef :=
    ⟨_, rfl, by decide +kernel⟩
  obtain ⟨record, recorded, again⟩ :=
    run_upon_own_record rfl Sample.wellKept Sample.kindsApart names first compiled
  obtain ⟨r', ok, idle, warnings, -⟩ :=
    again Sample.generator (.inline "own" record.write) {} rfl
  exact ⟨r, record, r', first, recorded, ok, idle, warnings⟩

end Generator

end GroupInterfaces
