import GroupInterfaces.Proofs.Run

/-!
# Outcomes of runs

A run succeeds exactly if the upstream episode can be loaded and the outline accepts the
declarations that the episode does not know. Its report then has an interface for each of
these declarations and for nothing else, and the interface has taken over the place of the
placeholder. A run that fails tells the first thing that was missing.
-/

namespace GroupInterfaces

/-- The interface with the interfaces that it extends. -/
def SynthesizedInterface.linked (i : SynthesizedInterface) (set : InterfaceSet)
    (index : Episode.Index) : SynthesizedInterface :=
  { i with supertypes := (i.resolvedSupertypes set index).foldl addNew i.supertypes }

/-- The report has no interface for a group. -/
def Report.Lacks (r : Report) (group : QName) : Prop :=
  ∀ kind, (r.interfaceSet kind).get? group = none

/-- The report has an interface for the declaration, and none of the other kind for the name of
the group. The interface has the type of the class that was the placeholder of the group in the
outline before the run, and is declared in the outline behind it. -/
structure Report.TakesOver (r : Report) (before after : Outline) (d : GroupDecl) : Prop where
  entry : ∃ i c, (r.interfaceSet d.kind).get? d.name = some i ∧ i.declaration = d
    ∧ before.classForGroup? d.name = some c ∧ i.typeRef = c.typeRef
    ∧ (after.interface? i.typeRef).isSome
  other : ∀ kind, kind ≠ d.kind → (r.interfaceSet kind).get? d.name = none

/-! ### A sample

A package with a type that uses a model group with one element and an attribute group with
nothing in it, and the placeholders of these groups. -/

namespace Sample

/-- The model group. -/
def party : ModelGroupDecl where
  name := { space := "urn:sample", localName := "party" }
  group :=
    { particles :=
        [.element {}
          { name := { space := "urn:sample", localName := "name" }
            customization := some { propertyName := some "Name" } }] }

/-- The attribute group. -/
def audit : AttributeGroupDecl where
  name := { space := "urn:sample", localName := "audit" }

/-- The type, as the complex type that it binds. -/
def invoice : ComplexType where
  content := .particle (.groupRef {} party.name)
  attributeGroups := [audit.name]

/-- The placeholder of the model group. -/
def partyClass : GeneratedClass where
  package := "sample"
  name := "Party"
  component := .group party.name
  fields := [{ propertyName := "Name", fieldName := "name", type := "String" }]
  methods := [{ name := "getName", returnType := "String" }]

/-- The placeholder of the attribute group. -/
def auditClass : GeneratedClass where
  package := "sample"
  name := "Audit"
  component := .group audit.name

/-- The class of the type. -/
def invoiceClass : GeneratedClass where
  package := "sample"
  name := "Invoice"
  component := .complexType invoice

/-- The package with its classes. -/
def outline : Outline where
  packages := .ofList
    [("sample",
      { name := "sample", space := some "urn:sample"
        types := .ofList
          [("Party", .class "sample.Party"), ("Audit", .class "sample.Audit"),
            ("Invoice", .class "sample.Invoice")] })]
  classes := .ofList
    [("sample.Party", partyClass), ("sample.Audit", auditClass),
      ("sample.Invoice", invoiceClass)]

/-- The groups. -/
def schema : SchemaSet where
  modelGroups := [party]
  attributeGroups := [audit]

/-- What a run works on. -/
def input : Input where
  schema := schema
  outline := outline

/-- A generator without an upstream episode. -/
def generator : Generator where
  settings := ({} : Config).settings

/-- A further model group, which uses the first one. -/
def deal : ModelGroupDecl where
  name := { space := "urn:sample", localName := "deal" }
  group :=
    { particles :=
        [.groupRef {} party.name,
          .element {}
            { name := { space := "urn:sample", localName := "total" }
              customization := some { propertyName := some "Total" } }] }

/-- Its placeholder. -/
def dealClass : GeneratedClass where
  package := "sample"
  name := "Deal"
  component := .group deal.name
  fields := [{ propertyName := "Total", fieldName := "total", type := "int" }]
  methods := [{ name := "getTotal", returnType := "int" }]

/-- What a run for the two model groups works on. -/
def dealInput : Input where
  schema := { modelGroups := [party, deal] }
  outline :=
    { packages := .ofList
        [("sample",
          { name := "sample", space := some "urn:sample"
            types := .ofList
              [("Party", .class "sample.Party"), ("Deal", .class "sample.Deal")] })]
      classes := .ofList [("sample.Party", partyClass), ("sample.Deal", dealClass)] }

end Sample

namespace Outline

variable {o : Outline} {ds : List GroupDecl} {index : Episode.Index}

/-- A linked set for declarations that are accepted answers with the interface of each. -/
theorem AcceptsAll.get?_link_eq_some_iff (h : o.AcceptsAll ds) {group : QName}
    {i : SynthesizedInterface} :
  ((o.interfaceSet ds).link index).get? group = some i
    ↔ ∃ d ∈ ds, d.name = group
      ∧ ∃ j, o.interfaceFor? d = some j ∧ i = j.linked (o.interfaceSet ds) index
  := by
  rw [InterfaceSet.link, SortedMap.get?_mapValues, Option.map_eq_some_iff]
  constructor
  · rintro ⟨j, found, rfl⟩
    obtain ⟨d, mem, name, found⟩ := h.get?_interfaceSet_eq_some_iff.mp found
    exact ⟨d, mem, name, j, found, rfl⟩
  · rintro ⟨d, mem, name, j, found, rfl⟩
    exact ⟨j, h.get?_interfaceSet_eq_some_iff.mpr ⟨d, mem, name, found⟩, rfl⟩

/-- The types of the interfaces in a linked set for declarations that are accepted. -/
theorem AcceptsAll.map_typeRef_values_link_perm (h : o.AcceptsAll ds) (index : Episode.Index) :
  (((o.interfaceSet ds).link index).values.map (·.typeRef)).Perm
    ((ds.filterMap o.interfaceFor?).map (·.typeRef))
  := by
  have perm := InterfaceSet.values_ofInterfaces_perm h.nodup_interface_name
  rw [InterfaceSet.link, SortedMap.values_mapValues, List.map_map]
  apply perm.map

/-- The interfaces in a linked set for declarations that are accepted have the places of these
declarations, and are there instead of the classes that have them. -/
theorem AcceptsAll.place?_of_mem_values_link (h : o.AcceptsAll ds) {i : SynthesizedInterface}
    (mem : i ∈ ((o.interfaceSet ds).link index).values) :
  i.placeholder = i.typeRef ∧ ∃ d ∈ ds, o.place? d = some i.typeRef
  := by
  obtain ⟨group, answer⟩ := SortedMap.mem_values_iff.mp mem
  obtain ⟨d, declared, -, j, found, rfl⟩ := h.get?_link_eq_some_iff.mp answer
  constructor
  · apply placeholder_of_interfaceFor? found
  · use d, declared
    apply place?_of_interfaceFor? found

end Outline

namespace Generator

variable {g : Generator} {store : FileStore} {input : Input} {index : Episode.Index}
  {r : Report} {f : Failure}

/-! ### Success -/

/-- What a run that succeeds has done, in terms of what it was given and of the index of the
upstream episode. -/
structure Completed (g : Generator) (input : Input) (index : Episode.Index) (r : Report)
    (outcome : Outcome) : Prop where
  accepts : input.outline.AcceptsAll (input.schema.pending index)
  sets : ∀ kind, r.interfaceSet kind
    = (input.outline.interfaceSet (input.schema.unpublished index kind)).link index
  declared : ∀ d ∈ input.schema.pending index, ∀ {t}, input.outline.place? d = some t →
    (outcome.outline.interface? t).map InterfaceDecl.unnested
      = (input.outline.linkedFor? g.settings input.schema index d).map InterfaceDecl.unnested
  classes : ∀ {name}, (∀ d ∈ input.schema.pending index, ∀ {t}, input.outline.place? d = some t →
      t.qualifiedName ≠ name) →
    outcome.outline.classes.get? name
      = (input.outline.classes.get? name).map (·.bound fun groups => interfacesOf
        (groups.resolutions (r.interfaceSet .modelGroup) (r.interfaceSet .attributeGroup) index
          input.environment))
  warnings : r.warnings
    = input.outline.bindable.flatMap fun (className, groups) => warningsOf input.schema className
        (groups.resolutions (r.interfaceSet .modelGroup) (r.interfaceSet .attributeGroup) index
          input.environment)
  record : outcome.generator.record = g.record.map
    (· ++ ((input.schema.pending index).filterMap input.outline.interfaceFor?).map
      SynthesizedInterface.entry)

/-- The accepted declarations of one kind. -/
theorem acceptsAll_unpublished (accepts : input.outline.AcceptsAll (input.schema.pending index))
    (kind : GroupKind) :
  input.outline.AcceptsAll (input.schema.unpublished index kind)
  := accepts.sublist (SchemaSet.unpublished_sublist_pending kind)

theorem acceptsAll_of_result_runWith (h : (g.runWith input index).result = .ok r) :
  input.outline.AcceptsAll (input.schema.pending index)
  := by
  by_contra fails
  obtain ⟨before, d, after, f, split, accepts, refuses⟩ :=
    Outline.exists_refuses_of_not_acceptsAll fails
  rw [result_runWith_of_refuses split accepts refuses] at h
  cases h

theorem completed_of_result_runWith (h : (g.runWith input index).result = .ok r) :
  Completed g input index r (g.runWith input index)
  := by
  have accepts := acceptsAll_of_result_runWith h
  obtain ⟨cur, overlaid, run⟩ := runWith_of_acceptsAll (g := g) accepts
  rw [run] at h ⊢
  have finished := finished_of_result_finish h
  have sets : ∀ kind, r.interfaceSet kind
      = (input.outline.interfaceSet (input.schema.unpublished index kind)).link index := by
    intro kind
    cases kind with
    | modelGroup => apply finished.models
    | attributeGroup => apply finished.attributes
  refine ⟨accepts, sets, ?_, ?_, ?_, finished.record⟩
  · intro d mem t place
    rw [finished.outline.interface?, Outline.interface?_eq, Outline.slot?_removePlaceholders,
      Outline.slot?_bind, overlaid.declared d mem place]
    cases input.outline.linkedFor? g.settings input.schema index d with
    | none => rfl
    | some i => rfl
  · intro name apart
    rw [finished.outline.classes, Outline.get?_classes_removePlaceholders,
      Outline.get?_classes_bind, overlaid.frame.classes, sets, sets]
    intro i mem
    rcases List.mem_append.mp mem with mem | mem
    · obtain ⟨placeholder, d, mem, place⟩ :=
        (acceptsAll_unpublished accepts _).place?_of_mem_values_link mem
      rw [placeholder]
      apply apart d (SchemaSet.mem_pending_iff.mpr ⟨_, mem⟩) place
    · obtain ⟨placeholder, d, mem, place⟩ :=
        (acceptsAll_unpublished accepts _).place?_of_mem_values_link mem
      rw [placeholder]
      apply apart d (SchemaSet.mem_pending_iff.mpr ⟨_, mem⟩) place
  · rw [finished.warnings, Outline.warnings_bind, sets, sets]
    simp only [Outline.bindable, overlaid.frame.classes]

/-- If all declarations are accepted, a run succeeds, at least if builders are fluent or not
asked for. -/
theorem exists_result_runWith
    (builders : g.settings.declareBuilderInterface → g.builders = .fluent)
    (accepts : input.outline.AcceptsAll (input.schema.pending index)) :
  ∃ r, (g.runWith input index).result = .ok r
  := by
  obtain ⟨cur, overlaid, run⟩ := runWith_of_acceptsAll (g := g) accepts
  rw [run]
  have distinct := accepts.nodup_interface_typeRef
  rw [SchemaSet.pending, List.filterMap_append, List.map_append] at distinct
  apply exists_result_finish (g := g.recordAll _) builders
  · rw [List.map_append]
    have perm := fun kind =>
      (acceptsAll_unpublished accepts kind).map_typeRef_values_link_perm index
    apply ((perm .modelGroup).append (perm .attributeGroup)).nodup_iff.mpr distinct
  · have fresh : ∀ kind, ∀ i ∈ ((input.outline.interfaceSet
        (input.schema.unpublished index kind)).link index).values,
        ∃ d, cur.interface? i.typeRef = some d ∧ d.nested = [] := by
      intro kind i mem
      obtain ⟨-, d, mem, place⟩ := (acceptsAll_unpublished accepts kind).place?_of_mem_values_link
        mem
      have pending := SchemaSet.mem_pending_iff.mpr ⟨kind, mem⟩
      obtain ⟨declared, found⟩ := Option.isSome_iff_exists.mp
        (accepts.of_mem pending).isSome_linkedFor?
      use declared
      rw [Outline.interface?_eq, overlaid.declared d pending place, found]
      obtain ⟨c, p, -, -, rfl⟩ := Outline.linkedFor?_inv found
      exact ⟨rfl, rfl⟩
    intro i mem
    rcases List.mem_append.mp mem with mem | mem
    · apply fresh _ i mem
    · apply fresh _ i mem

/-- Which failure a run ends with is told by the outline and the pending declarations. -/
theorem result_runWith_eq_error_iff
    (builders : g.settings.declareBuilderInterface → g.builders = .fluent) {f : Failure} :
  (g.runWith input index).result = .error f
    ↔ ∃ before d after, input.schema.pending index = before ++ d :: after
      ∧ input.outline.AcceptsAll before ∧ input.outline.Refuses before d f
  := by
  constructor
  · intro error
    have fails : ¬ input.outline.AcceptsAll (input.schema.pending index) := by
      intro accepts
      obtain ⟨r, ok⟩ := exists_result_runWith builders accepts
      rw [ok] at error
      cases error
    obtain ⟨before, d, after, f', split, accepts, refuses⟩ :=
      Outline.exists_refuses_of_not_acceptsAll fails
    rw [result_runWith_of_refuses split accepts refuses] at error
    cases error
    use before, d, after
  · rintro ⟨before, d, after, split, accepts, refuses⟩
    apply result_runWith_of_refuses split accepts refuses

/-! ### Loading the upstream episode -/

theorem run_of_load_error {e : Episode.Error}
    (load : (g.upstream.load store input.environment).1 = .error e) :
  ∃ g', g.run store input = fail g' input.outline [] { error := .episode e }
  := by
  simp only [run]
  split
  · next loaded =>
      rw [loaded] at load
      cases load
      exact ⟨_, rfl⟩
  · next loaded =>
      rw [loaded] at load
      cases load

theorem result_run_of_load_error {e : Episode.Error}
    (load : (g.upstream.load store input.environment).1 = .error e) :
  (g.run store input).result = .error { error := .episode e }
  := by
  obtain ⟨g', run⟩ := run_of_load_error load
  rw [run, fail]

/-- What a run has for the upstream episode depends on the environment only. -/
theorem run_of_load_of_environment
    (load : (g.upstream.load store input.environment).1 = .ok index) :
  ∃ upstream, ∀ input' : Input, input'.environment = input.environment →
    g.run store input' = { g with upstream }.runWith input' index
  := by
  use (g.upstream.load store input.environment).2
  intro input' same
  have loaded : g.upstream.load store input'.environment
      = (.ok index, (g.upstream.load store input.environment).2) := by
    rw [same, ← load]
  simp only [run, loaded]

theorem run_of_load (load : (g.upstream.load store input.environment).1 = .ok index) :
  ∃ upstream, g.run store input = { g with upstream }.runWith input index
  := by
  obtain ⟨upstream, run⟩ := run_of_load_of_environment load
  use upstream, run input rfl

/-- A run that succeeds has loaded the upstream episode, and its results are functions of the
index. -/
theorem completed_of_result_run (h : (g.run store input).result = .ok r) :
  ∃ index, (g.upstream.load store input.environment).1 = .ok index
    ∧ Completed g input index r (g.run store input)
  := by
  cases load : (g.upstream.load store input.environment).1 with
  | error e =>
      rw [result_run_of_load_error load] at h
      cases h
  | ok index =>
      obtain ⟨upstream, run⟩ := run_of_load load
      rw [run] at h ⊢
      use index, rfl
      obtain ⟨accepts, sets, declared, classes, warnings, record⟩ :=
        completed_of_result_runWith h
      exact ⟨accepts, sets, declared, classes, warnings, record⟩

theorem exists_result_run (load : (g.upstream.load store input.environment).1 = .ok index)
    (builders : g.settings.declareBuilderInterface → g.builders = .fluent)
    (accepts : input.outline.AcceptsAll (input.schema.pending index)) :
  ∃ r, (g.run store input).result = .ok r
  := by
  obtain ⟨upstream, run⟩ := run_of_load load
  rw [run]
  apply exists_result_runWith (g := { g with upstream }) builders accepts

theorem result_run_of_refuses (load : (g.upstream.load store input.environment).1 = .ok index)
    {before after : List GroupDecl} {d : GroupDecl}
    (split : input.schema.pending index = before ++ d :: after)
    (accepts : input.outline.AcceptsAll before) (refuses : input.outline.Refuses before d f) :
  (g.run store input).result = .error f
  := by
  obtain ⟨upstream, run⟩ := run_of_load load
  rw [run]
  apply result_runWith_of_refuses split accepts refuses

/-- With fluent builders, a run succeeds exactly if the upstream episode can be loaded and
everything that the episode does not know is accepted. Otherwise it fails with what is wrong
with the episode, or else with the refusal of the first declaration that is not accepted. -/
theorem result_run_iff (g : Generator) (store : FileStore) (input : Input)
    (builders : g.builders = .fluent) :
  ((∃ r, (g.run store input).result = .ok r)
      ↔ ∃ index, (g.upstream.load store input.environment).1 = .ok index
        ∧ input.outline.AcceptsAll (input.schema.pending index))
    ∧ ∀ f, (g.run store input).result = .error f
      ↔ (∃ e, (g.upstream.load store input.environment).1 = .error e
          ∧ f = { error := .episode e })
        ∨ ∃ index before d after, (g.upstream.load store input.environment).1 = .ok index
          ∧ input.schema.pending index = before ++ d :: after
          ∧ input.outline.AcceptsAll before ∧ input.outline.Refuses before d f
  := by
  constructor
  · constructor
    · rintro ⟨r, ok⟩
      obtain ⟨index, load, completed⟩ := completed_of_result_run ok
      use index, load, completed.accepts
    · rintro ⟨index, load, accepts⟩
      apply exists_result_run load (fun _ => builders) accepts
  · intro f
    constructor
    · intro error
      cases load : (g.upstream.load store input.environment).1 with
      | error e =>
          rw [result_run_of_load_error load] at error
          cases error
          apply Or.inl ⟨e, rfl, rfl⟩
      | ok index =>
          have fails : ¬ input.outline.AcceptsAll (input.schema.pending index) := by
            intro accepts
            obtain ⟨r, ok⟩ := exists_result_run load (fun _ => builders) accepts
            rw [ok] at error
            cases error
          obtain ⟨before, d, after, f', split, accepts, refuses⟩ :=
            Outline.exists_refuses_of_not_acceptsAll fails
          rw [result_run_of_refuses load split accepts refuses] at error
          cases error
          apply Or.inr ⟨index, before, d, after, rfl, split, accepts, refuses⟩
    · rintro (⟨e, load, rfl⟩ | ⟨index, before, d, after, load, split, accepts, refuses⟩)
      · apply result_run_of_load_error load
      · apply result_run_of_refuses load split accepts refuses

/-- The groups of the sample are accepted. -/
theorem acceptsAll_sample :
  Sample.generator.builders = .fluent
    ∧ ∃ index, (Sample.generator.upstream.load {} {}).1 = .ok index
      ∧ Sample.outline.AcceptsAll (Sample.schema.pending index)
  := by
  constructor
  · rfl
  · apply (result_run_iff Sample.generator {} Sample.input rfl).1.mp
    exact ⟨_, rfl⟩

/-! ### Interfaces for declarations -/

namespace Completed

variable {outcome : Outcome}

/-- The interfaces of a run are those for the declarations that the index does not know. -/
theorem get?_interfaceSet_eq_some_iff (h : Completed g input index r outcome) {kind : GroupKind}
    {group : QName} {i : SynthesizedInterface} :
  (r.interfaceSet kind).get? group = some i
    ↔ ∃ d ∈ input.schema.unpublished index kind, d.name = group
      ∧ ∃ j, input.outline.interfaceFor? d = some j
        ∧ i = j.linked (input.outline.interfaceSet (input.schema.unpublished index kind)) index
  := by
  rw [h.sets]
  apply (acceptsAll_unpublished h.accepts kind).get?_link_eq_some_iff

theorem lacks_of_contains (h : Completed g input index r outcome) {group : QName}
    (known : index.contains group) :
  r.Lacks group
  := by
  intro kind
  apply Option.eq_none_iff_forall_ne_some.mpr
  intro i found
  obtain ⟨d, mem, rfl, -⟩ := h.get?_interfaceSet_eq_some_iff.mp found
  rw [(SchemaSet.mem_unpublished_iff.mp mem).2] at known
  cases known

/-- Declarations of two kinds for which there are interfaces are told apart by their places. -/
theorem kind_eq_of_place? (h : Completed g input index r outcome) {kind kind' : GroupKind}
    {d d' : GroupDecl} (mem : d ∈ input.schema.unpublished index kind)
    (mem' : d' ∈ input.schema.unpublished index kind')
    (same : input.outline.place? d = input.outline.place? d') :
  kind = kind' ∧ d = d'
  := by
  have equal : d = d' := h.accepts.eq_of_place? (SchemaSet.mem_pending_iff.mpr ⟨kind, mem⟩)
    (SchemaSet.mem_pending_iff.mpr ⟨kind', mem'⟩) same
  constructor
  · rw [← SchemaSet.kind_of_mem_unpublished mem, ← SchemaSet.kind_of_mem_unpublished mem', equal]
  · apply equal

theorem takesOver (h : Completed g input index r outcome) {kind : GroupKind} {d : GroupDecl}
    (mem : d ∈ input.schema.unpublished index kind) :
  r.TakesOver input.outline outcome.outline d
  := by
  have pending := SchemaSet.mem_pending_iff.mpr ⟨kind, mem⟩
  obtain ⟨c, found, place⟩ := h.accepts.placeholder pending
  obtain ⟨j, interface, type⟩ := Outline.interfaceFor?_of_place? place
  have kinds : d.kind = kind := SchemaSet.kind_of_mem_unpublished mem
  constructor
  · use j.linked (input.outline.interfaceSet (input.schema.unpublished index kind)) index, c
    have declaration : j.declaration = d := Outline.declaration_of_interfaceFor? interface
    refine ⟨?_, declaration, found, type, ?_⟩
    · rw [kinds]
      apply h.get?_interfaceSet_eq_some_iff.mpr
      exact ⟨d, mem, rfl, j, interface, rfl⟩
    · have some := congrArg Option.isSome
        (h.declared d pending (Outline.place?_of_interfaceFor? interface))
      rw [Option.isSome_map, Option.isSome_map] at some
      apply some.trans
      apply (h.accepts.of_mem pending).isSome_linkedFor?
  · intro kind' apart
    apply Option.eq_none_iff_forall_ne_some.mpr
    intro i answer
    obtain ⟨e, mem', name, -⟩ := h.get?_interfaceSet_eq_some_iff.mp answer
    apply apart
    rw [kinds]
    apply (h.kind_eq_of_place? mem' mem _).1
    rw [Outline.place?, name, Outline.place?]

end Completed

/-- In a run that succeeds, each declaration has one of two outcomes. The upstream episode
knows the group, and there is no interface for it; or the episode does not know it, and the
interface for it takes over the place of the placeholder. There are no other interfaces, and
they all have types of their own. -/
theorem lacks_xor_takesOver (h : (g.run store input).result = .ok r) :
  ∃ index, (g.upstream.load store input.environment).1 = .ok index
    ∧ (∀ kind, ∀ d ∈ input.schema.declarations kind,
      Xor (index.contains d.name ∧ r.Lacks d.name)
        (¬ index.contains d.name ∧ r.TakesOver input.outline (g.run store input).outline d))
    ∧ (∀ kind group i, (r.interfaceSet kind).get? group = some i →
      ∃ d ∈ input.schema.declarations kind, d.name = group ∧ ¬ index.contains d.name
        ∧ i.declaration = d)
    ∧ ∀ kind kind' group group' i i', (r.interfaceSet kind).get? group = some i →
      (r.interfaceSet kind').get? group' = some i' → i.typeRef = i'.typeRef →
      kind = kind' ∧ group = group'
  := by
  obtain ⟨index, load, completed⟩ := completed_of_result_run h
  use index, load
  refine ⟨?_, ?_, ?_⟩
  · intro kind d mem
    by_cases known : index.contains d.name
    · apply Or.inl
      exact ⟨⟨known, completed.lacks_of_contains known⟩, fun other => other.1 known⟩
    · have unknown : d ∈ input.schema.unpublished index kind :=
        SchemaSet.mem_unpublished_iff.mpr ⟨mem, by simpa using known⟩
      apply Or.inr
      exact ⟨⟨known, completed.takesOver unknown⟩, fun other => known other.1⟩
  · intro kind group i found
    obtain ⟨d, mem, name, j, interface, rfl⟩ :=
      completed.get?_interfaceSet_eq_some_iff.mp found
    obtain ⟨declared, unknown⟩ := SchemaSet.mem_unpublished_iff.mp mem
    have declaration : j.declaration = d := Outline.declaration_of_interfaceFor? interface
    use d, declared, name
    exact ⟨by simpa using unknown, declaration⟩
  · intro kind kind' group group' i i' found found' same
    obtain ⟨d, mem, name, j, interface, rfl⟩ :=
      completed.get?_interfaceSet_eq_some_iff.mp found
    obtain ⟨d', mem', name', j', interface', rfl⟩ :=
      completed.get?_interfaceSet_eq_some_iff.mp found'
    have places : input.outline.place? d = input.outline.place? d' := by
      rw [Outline.place?_of_interfaceFor? interface, Outline.place?_of_interfaceFor? interface']
      apply congrArg some same
    obtain ⟨kinds, rfl⟩ := completed.kind_eq_of_place? mem mem' places
    use kinds
    rw [← name, ← name']

/-- In the sample, the interface of the model group takes over the place of its placeholder. -/
theorem takesOver_sample :
  ∃ r, (Sample.generator.run {} Sample.input).result = .ok r
    ∧ r.TakesOver Sample.outline (Sample.generator.run {} Sample.input).outline
      (.model Sample.party)
  := by
  obtain ⟨r, ok⟩ : ∃ r, (Sample.generator.run {} Sample.input).result = .ok r := ⟨_, rfl⟩
  obtain ⟨index, load, outcomes, -, -⟩ := lacks_xor_takesOver ok
  have mem : .model Sample.party ∈ Sample.input.schema.declarations .modelGroup :=
    List.mem_cons_self
  cases load
  rcases outcomes .modelGroup (.model Sample.party) mem with ⟨⟨known, -⟩, -⟩ | ⟨⟨-, taken⟩, -⟩
  · cases known
  · exact ⟨r, ok, taken⟩

end Generator

end GroupInterfaces
