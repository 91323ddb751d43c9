import GroupInterfaces.Proofs.Outcome
import GroupInterfaces.Proofs.Parts

/-!
# Agreement of runs

A schema set can be taken apart into an upstream part and a downstream part. If a run for the
whole set succeeds, so does a run for the upstream part, and a run for the downstream part that
builds on what the upstream run has recorded. This last run agrees with the one for the whole set
on all that they both do: on the classes with complex types, on the interfaces of the downstream
groups, and on the warnings.
-/

namespace GroupInterfaces

/-! ### Answers -/

/-- What a run for a whole schema set and a run for its downstream part have for a group: both
have the same interface of their own; or the downstream run finds the interface published that
the other has of its own; or neither has any, and the group is declared in neither. -/
inductive SameAnswer (s downstream : SchemaSet) (whole part : InterfaceSet)
    (index : Episode.Index) (group : QName) : Prop where
  | synthesized {i : SynthesizedInterface} (answer : whole.get? group = some i)
      (answer' : part.get? group = some i)
  | published {i : SynthesizedInterface} (answer : whole.get? group = some i)
      (answer' : part.get? group = none)
      (compiled : index.get? group = some { typeRef := i.typeRef, availability := .compiled })
  | unknown (answer : whole.get? group = none) (answer' : part.get? group = none)
      (unpublished : index.get? group = none)
      (locator : s.locatorOf? group = none) (locator' : downstream.locatorOf? group = none)

section

variable {o : Outline} {s upstream downstream : SchemaSet} {index : Episode.Index}
  {kind : GroupKind} {group : QName}
  (accepts : o.AcceptsAll (s.pending {})) (split : s.SplitInto upstream downstream)
  (published : index.Publishes o (upstream.pending {}))
include accepts split published

/-- The upstream episode knows no group of the downstream part. -/
theorem unpublished_downstream (kind : GroupKind) :
  downstream.unpublished index kind = downstream.declarations kind
  := by
  apply SchemaSet.unpublished_eq
  intro d mem
  apply published.others
  intro e earlier
  obtain ⟨kind', mem'⟩ := SchemaSet.mem_pending_empty_iff.mp earlier
  apply split.name_ne accepts.nodup_name mem' mem

theorem pending_downstream :
  downstream.pending index = downstream.pending {}
  := by
  rw [SchemaSet.pending, unpublished_downstream accepts split published,
    unpublished_downstream accepts split published, SchemaSet.pending_empty]

/-- Two runs have the same for a group that is declared with one kind at most. -/
theorem sameAnswer (only : s.OnlyAs kind group) :
  SameAnswer s downstream (o.interfaceSet (s.declarations kind))
    (o.interfaceSet (downstream.declarations kind)) index group
  := by
  have pending : ∀ {kind d}, d ∈ s.declarations kind → d ∈ s.pending {} :=
    fun mem => SchemaSet.mem_pending_empty_iff.mpr ⟨_, mem⟩
  have whole : o.AcceptsAll (s.declarations kind) := by
    rw [← s.unpublished_empty kind]
    apply accepts.sublist (SchemaSet.unpublished_sublist_pending kind)
  have part : o.AcceptsAll (downstream.declarations kind) :=
    whole.sublist (split.declarations kind).sublist_right
  by_cases declared : ∃ d ∈ s.declarations kind, d.name = group
  · obtain ⟨d, mem, rfl⟩ := declared
    obtain ⟨c, -, place⟩ := accepts.placeholder (pending mem)
    obtain ⟨i, found, type⟩ := Outline.interfaceFor?_of_place? place
    have answer := whole.get?_interfaceSet_eq_some_iff.mpr ⟨d, mem, rfl, found⟩
    rcases split.mem_declarations_iff.mp mem with earlier | later
    · apply SameAnswer.published answer
      · apply part.get?_interfaceSet_eq_none
        intro e later name
        apply split.name_ne accepts.nodup_name earlier later name.symm
      · obtain ⟨t, place', compiled⟩ :=
          published.published d (SchemaSet.mem_pending_empty_iff.mpr ⟨kind, earlier⟩)
        rw [compiled, type, Option.some.inj (place.symm.trans place')]
    · apply SameAnswer.synthesized answer
      apply part.get?_interfaceSet_eq_some_iff.mpr ⟨d, later, rfl, found⟩
  · have undeclared : ∀ kind', ∀ d ∈ s.declarations kind', d.name ≠ group := by
      intro kind' d mem name
      by_cases same : kind' = kind
      · rw [same] at mem
        apply declared ⟨d, mem, name⟩
      · apply only kind' same d mem name
    have undeclared' : ∀ kind', ∀ d ∈ downstream.declarations kind', d.name ≠ group := by
      intro kind' d mem
      apply undeclared kind' d (split.mem_declarations_iff.mpr (Or.inr mem))
    apply SameAnswer.unknown
    · apply whole.get?_interfaceSet_eq_none (undeclared kind)
    · apply part.get?_interfaceSet_eq_none (undeclared' kind)
    · apply published.others
      intro d mem
      obtain ⟨kind', mem⟩ := SchemaSet.mem_pending_empty_iff.mp mem
      apply undeclared kind' d (split.mem_declarations_iff.mpr (Or.inl mem))
    · apply SchemaSet.locatorOf?_eq_none undeclared
    · apply SchemaSet.locatorOf?_eq_none undeclared'

end

namespace SameAnswer

variable {s downstream : SchemaSet} {whole part : InterfaceSet} {index : Episode.Index}
  {group : QName}

/-- The same answer is the same type to extend. -/
theorem typeRef_supertype? (h : SameAnswer s downstream whole part index group) :
  (supertype? whole {} group).map Supertype.typeRef
    = (supertype? part index group).map Supertype.typeRef
  := by
  have empty : SortedMap.get? ({} : Episode.Index) group = none := SortedMap.get?_empty group
  cases h with
  | synthesized answer answer' => simp only [supertype?, answer, answer']
  | published answer answer' compiled =>
      simp only [supertype?, answer, answer', compiled]
      rfl
  | unknown answer answer' unpublished =>
      simp only [supertype?, answer, answer', unpublished, empty]

/-- Linking has no part in what stands for a group. -/
theorem resolve_link (set : InterfaceSet) (index index' : Episode.Index)
    (environment : Environment) (group : QName) :
  resolve (set.link index') index environment group = resolve set index environment group
  := by
  simp only [resolve, InterfaceSet.link, SortedMap.get?_mapValues]
  cases set.get? group with
  | none => rfl
  | some i => rfl

section

variable (h : SameAnswer s downstream whole part index group) (environment : Environment)
include h

/-- The same answer is the same type to implement, or else the same reason why there is none. -/
theorem typeRef?_and_reason?_resolve :
  (resolve whole {} environment group).typeRef? = (resolve part index environment group).typeRef?
    ∧ (resolve whole {} environment group).reason? = (resolve part index environment group).reason?
  := by
  have empty : SortedMap.get? ({} : Episode.Index) group = none := SortedMap.get?_empty group
  cases h with
  | synthesized answer answer' => simp only [resolve, answer, answer', and_self]
  | published answer answer' compiled =>
      simp only [resolve, answer, answer', compiled]
      exact ⟨rfl, rfl⟩
  | unknown answer answer' unpublished =>
      simp only [resolve, answer, answer', unpublished, empty, and_self]

/-- The same answer is the same warning. -/
theorem warning_resolve (className : String) :
  (resolve whole {} environment group).reason?.map (·.warning s className group)
    = (resolve part index environment group).reason?.map (·.warning downstream className group)
  := by
  have empty : SortedMap.get? ({} : Episode.Index) group = none := SortedMap.get?_empty group
  cases h with
  | synthesized answer answer' =>
      simp only [resolve, answer, answer']
      rfl
  | published answer answer' compiled =>
      simp only [resolve, answer, answer', compiled]
      rfl
  | unknown answer answer' unpublished locator locator' =>
      simp only [resolve, answer, answer', unpublished, empty]
      cases (resolveByName environment group).reason? with
      | none => rfl
      | some reason => simp only [Option.map_some, Unavailable.warning, locator, locator']

end

end SameAnswer

/-! ### Agreement -/

/-- Two runs on the same outline agree on the groups of a schema set if they leave the same
classes where there are classes with complex types, which implement the same interfaces then; if
the interfaces for the groups have the same types and are declared in the same way, up to what is
nested in them; and if they give the same warnings. -/
structure Report.Agrees (r r' : Report) (schema : SchemaSet) (before after after' : Outline) :
    Prop where
  classes : ∀ {name c}, before.classes.get? name = some c → c.complexType?.isSome →
    ∃ c', after.classes.get? name = some c' ∧ after'.classes.get? name = some c'
  interfaces : ∀ {kind}, ∀ d ∈ schema.declarations kind, ∃ i i' j j',
    (r.interfaceSet kind).get? d.name = some i ∧ (r'.interfaceSet kind).get? d.name = some i'
      ∧ i.typeRef = i'.typeRef
      ∧ after.interface? i.typeRef = some j ∧ after'.interface? i'.typeRef = some j'
      ∧ j.doc = j'.doc ∧ j.methods = j'.methods ∧ j.supertypes = j'.supertypes
  warnings : r.warnings = r'.warnings

theorem filterMap_resolutions {α : Type*} {groups : ContentGroups}
    {sets sets' : GroupKind → InterfaceSet} {index index' : Episode.Index}
    {environment : Environment} {f f' : QName × Resolution → Option α}
    (h : ∀ kind, ∀ q ∈ groups.ofKind kind, f (q, resolve (sets kind) index environment q)
      = f' (q, resolve (sets' kind) index' environment q)) :
  (groups.resolutions (sets .modelGroup) (sets .attributeGroup) index environment).filterMap f
    = (groups.resolutions (sets' .modelGroup) (sets' .attributeGroup) index'
        environment).filterMap f'
  := by
  simp only [ContentGroups.resolutions, List.filterMap_append, List.filterMap_map]
  apply congrArg₂
  · apply List.filterMap_congr
    intro q mem
    apply h .attributeGroup q mem
  · apply List.filterMap_congr
    intro q mem
    apply h .modelGroup q mem

/-- Interfaces that extend the same types are declared in the same way. -/
theorem InterfaceDecl.extending_congr {supertypes supertypes' : List Supertype}
    (h : supertypes.map (·.typeRef) = supertypes'.map (·.typeRef)) (i : InterfaceDecl) :
  i.extending supertypes = i.extending supertypes'
  := by
  have types : ∀ supertypes : List Supertype, i.extending supertypes
      = (supertypes.map (·.typeRef)).foldl InterfaceDecl.addSupertype i := by
    intro supertypes
    rw [List.foldl_map]
    rfl
  rw [types, types, h]

/-- A declared interface without what is nested in it tells all but that. -/
theorem InterfaceDecl.eq_of_unnested_eq {i j : InterfaceDecl} (h : i.unnested = j.unnested) :
  i.doc = j.doc ∧ i.methods = j.methods ∧ i.supertypes = j.supertypes
  := by
  obtain ⟨name, package, doc, methods, supertypes, nested⟩ := i
  obtain ⟨name', package', doc', methods', supertypes', nested'⟩ := j
  obtain ⟨-, -, rfl, rfl, rfl, -⟩ := InterfaceDecl.mk.inj h
  exact ⟨rfl, rfl, rfl⟩

/-- The interfaces of the downstream part extend the same types in both runs. -/
theorem Outline.linkedFor?_downstream {o : Outline} {s upstream downstream : SchemaSet}
    {index : Episode.Index} (accepts : o.AcceptsAll (s.pending {}))
    (split : s.SplitInto upstream downstream) (apart : s.KindsApart o)
    (published : index.Publishes o (upstream.pending {})) (settings : Settings)
    {kind : GroupKind} {d : GroupDecl} (mem : d ∈ downstream.declarations kind) :
  o.linkedFor? settings downstream index d = o.linkedFor? settings s {} d
  := by
  have refs := apart.groups d (split.mem_declarations_iff.mpr (Or.inr mem))
  have types : (d.supertypes (o.interfaceSet (downstream.unpublished index d.kind)) index).map
        Supertype.typeRef
      = (d.supertypes (o.interfaceSet (s.unpublished {} d.kind)) {}).map Supertype.typeRef := by
    rw [unpublished_downstream accepts split published, s.unpublished_empty,
      SchemaSet.kind_of_mem_declarations mem, GroupDecl.supertypes, GroupDecl.supertypes,
      List.map_filterMap, List.map_filterMap]
    apply List.filterMap_congr
    intro q ref
    symm
    apply (sameAnswer accepts split published (refs q ref)).typeRef_supertype?
  rw [linkedFor?, linkedFor?]
  apply congrArg (Option.map · _)
  funext i
  apply InterfaceDecl.extending_congr types

namespace Generator.Completed

/-- The interface for a declaration, as it is behind a run. -/
theorem exists_interface {g : Generator} {input : Input} {index : Episode.Index} {r : Report}
    {outcome : Outcome} (h : Completed g input index r outcome) {kind : GroupKind}
    {d : GroupDecl} (mem : d ∈ input.schema.unpublished index kind) :
  ∃ i j, (r.interfaceSet kind).get? d.name = some i ∧ input.outline.place? d = some i.typeRef
    ∧ outcome.outline.interface? i.typeRef = some j
    ∧ some j.unnested = (input.outline.linkedFor? g.settings input.schema index d).map
      InterfaceDecl.unnested
  := by
  obtain ⟨⟨i, c, entry, -, found, type, declared⟩, -⟩ := h.takesOver mem
  rw [SchemaSet.kind_of_mem_unpublished mem] at entry
  obtain ⟨j, answer⟩ := Option.isSome_iff_exists.mp declared
  have place : input.outline.place? d = some i.typeRef := by
    rw [Outline.place?, found, type, Option.map_some]
  use i, j, entry, place, answer
  rw [← h.declared d (SchemaSet.mem_pending_iff.mpr ⟨kind, mem⟩) place, answer, Option.map_some]

variable {g g' : Generator} {o : Outline} {environment : Environment}
  {s upstream downstream : SchemaSet} {index : Episode.Index} {r r' : Report}
  {outcome outcome' : Outcome}
  (h : Completed g { schema := s, outline := o, environment } {} r outcome)
  (h' : Completed g' { schema := downstream, outline := o, environment } index r' outcome')
  (split : s.SplitInto upstream downstream)
  (published : index.Publishes o (upstream.pending {}))
include h h' split published

section

variable {kind : GroupKind} {group : QName} (only : s.OnlyAs kind group)
include only

/-- In both runs, the same type stands for a group. -/
theorem typeRef?_resolve_eq :
  (resolve (r.interfaceSet kind) {} environment group).typeRef?
    = (resolve (r'.interfaceSet kind) index environment group).typeRef?
  := by
  have answer := sameAnswer h.accepts split published only
  rw [h.sets, h'.sets, SameAnswer.resolve_link, SameAnswer.resolve_link,
    unpublished_downstream h.accepts split published, s.unpublished_empty]
  apply (answer.typeRef?_and_reason?_resolve environment).1

/-- In both runs, there is the same warning for a group, if any. -/
theorem warning_resolve_eq (className : String) :
  (resolve (r.interfaceSet kind) {} environment group).reason?.map (·.warning s className group)
    = (resolve (r'.interfaceSet kind) index environment group).reason?.map
      (·.warning downstream className group)
  := by
  have answer := sameAnswer h.accepts split published only
  rw [h.sets, h'.sets, SameAnswer.resolve_link, SameAnswer.resolve_link,
    unpublished_downstream h.accepts split published, s.unpublished_empty]
  apply answer.warning_resolve

end

section

variable {groups : ContentGroups} (only : ∀ kind, ∀ q ∈ groups.ofKind kind, s.OnlyAs kind q)
include only

theorem interfacesOf_eq :
  interfacesOf (groups.resolutions (r.interfaceSet .modelGroup) (r.interfaceSet .attributeGroup)
      {} environment)
    = interfacesOf (groups.resolutions (r'.interfaceSet .modelGroup)
        (r'.interfaceSet .attributeGroup) index environment)
  := by
  apply filterMap_resolutions
  intro kind q mem
  apply typeRef?_resolve_eq h h' split published (only kind q mem)

theorem warningsOf_eq (className : String) :
  warningsOf s className (groups.resolutions (r.interfaceSet .modelGroup)
      (r.interfaceSet .attributeGroup) {} environment)
    = warningsOf downstream className (groups.resolutions (r'.interfaceSet .modelGroup)
        (r'.interfaceSet .attributeGroup) index environment)
  := by
  apply filterMap_resolutions
  intro kind q mem
  apply warning_resolve_eq h h' split published (only kind q mem)

end

/-- A run for a whole schema set agrees with one for its downstream part. -/
theorem agrees (settings : g'.settings = g.settings) (kept : o.WellKept) (apart : s.KindsApart o) :
  r.Agrees r' downstream o outcome.outline outcome'.outline
  where
  classes := by
    intro name c found type
    obtain ⟨t, complex⟩ := Option.isSome_iff_exists.mp type
    have only := apart.classes found complex
    have away : ∀ {d : GroupDecl} {t}, o.place? d = some t → t.qualifiedName ≠ name :=
      fun place => kept.qualifiedName_ne_of_place? place found type
    have same := interfacesOf_eq h h' split published only
    rw [h.classes fun d _ _ place => away place, h'.classes fun d _ _ place => away place, found]
    simp only [Option.map_some, GeneratedClass.bound, complex, same]
    exact ⟨_, rfl, rfl⟩
  interfaces := by
    intro kind d mem
    have whole : d ∈ s.unpublished {} kind := by
      rw [s.unpublished_empty]
      apply split.mem_declarations_iff.mpr (Or.inr mem)
    have part : d ∈ downstream.unpublished index kind := by
      rw [unpublished_downstream h.accepts split published]
      apply mem
    obtain ⟨i, j, entry, place, declared, unnested⟩ := h.exists_interface whole
    obtain ⟨i', j', entry', place', declared', unnested'⟩ := h'.exists_interface part
    have linked := Outline.linkedFor?_downstream h.accepts split apart published g.settings mem
    rw [settings, linked, ← unnested] at unnested'
    use i, i', j, j', entry, entry', Option.some.inj (place.symm.trans place'), declared, declared'
    apply InterfaceDecl.eq_of_unnested_eq (Option.some.inj unnested').symm
  warnings := by
    rw [h.warnings, h'.warnings]
    apply List.flatMap_congr
    rintro ⟨className, groups⟩ mem
    obtain ⟨c, t, found, type, rfl⟩ := Outline.mem_bindable_iff.mp mem
    apply warningsOf_eq h h' split published (apart.classes found type)

end Generator.Completed

/-! ### Runs in two parts -/

namespace Generator

/-- The generator with a record that has nothing in it yet. -/
def recording (g : Generator) : Generator := { g with record := some [] }

/-- The generator with an upstream episode that comes from some source. -/
def upon (g : Generator) (source : Episode.Source) : Generator :=
  { g with upstream := { source := some source } }

variable {g : Generator} {input : Input} {upstream downstream : SchemaSet}
  {store store' : FileStore} {r : Report}

/-- The upstream episode of a source is loaded from the text that the source gives. -/
theorem load_upon {source : Episode.Source} {environment : Environment} {text : String}
    {bindings : List Episode.Binding} (read : source.read store = .ok text)
    (readBack : Episode.readBindings text = .ok bindings) :
  ((g.upon source).upstream.load store environment).1
    = .ok (Episode.Index.ofBindings bindings environment)
  := by
  simp only [upon, Episode.Upstream.load, Episode.Upstream.loadIndex, Episode.Source.loadIndex,
    read, bind, Except.bind, readBack]
  rfl

/-- Generating in two parts agrees with generating at once. If a run without an upstream episode
succeeds, so does a run for an upstream part of its schemas; and from wherever the record of this
run is read as it is written, a run for the downstream part that builds on it succeeds as well and
agrees with the first. -/
theorem exists_runs_agree (alone : g.upstream = {})
    (fluent : g.settings.declareBuilderInterface → g.builders = .fluent)
    (kept : input.outline.WellKept) (split : input.schema.SplitInto upstream downstream)
    (apart : input.schema.KindsApart input.outline)
    (names : ∀ kind, ∀ d ∈ input.schema.declarations kind,
      ∀ c ∈ d.name.localName.toList, c ≠ ':' ∧ Text.isBlank c = false)
    (compiled : ∀ kind, ∀ d ∈ upstream.declarations kind, ∀ {t},
      input.outline.place? d = some t → input.environment.contains t)
    (whole : (g.run store input).result = .ok r) :
  ∃ r₀ record,
    (g.recording.run store { input with schema := upstream }).result = .ok r₀
    ∧ (g.recording.run store { input with schema := upstream }).generator.record = some record
    ∧ ∀ source store', source.read store' = .ok record.write →
      ∃ r', ((g.upon source).run store' { input with schema := downstream }).result = .ok r'
        ∧ r.Agrees r' downstream input.outline (g.run store input).outline
          ((g.upon source).run store' { input with schema := downstream }).outline
  := by
  have loaded : (g.upstream.load store input.environment).1 = .ok {} := by
    rw [alone]
    rfl
  obtain ⟨index, load, completed⟩ := completed_of_result_run whole
  obtain rfl := Except.ok.inj (loaded.symm.trans load)
  have accepts := completed.accepts
  have accepts₀ := accepts.sublist split.upstream_sublist
  obtain ⟨r₀, ok₀⟩ : ∃ r₀, (g.recording.run store { input with schema := upstream }).result
      = .ok r₀ := exists_result_run loaded fluent accepts₀
  obtain ⟨index₀, load₀, completed₀⟩ := completed_of_result_run ok₀
  obtain rfl := Except.ok.inj (loaded.symm.trans load₀)
  use r₀, input.outline.recordFor (upstream.pending {}), ok₀, completed₀.record
  intro source store' read
  have names₀ : ∀ d ∈ upstream.pending {},
      ∀ c ∈ d.name.localName.toList, c ≠ ':' ∧ Text.isBlank c = false := by
    intro d mem
    obtain ⟨kind, mem⟩ := SchemaSet.mem_pending_empty_iff.mp mem
    apply names kind d (split.mem_declarations_iff.mpr (Or.inl mem))
  have compiled₀ : ∀ d ∈ upstream.pending {}, ∀ {t}, input.outline.place? d = some t →
      input.environment.contains t := by
    intro d mem t
    obtain ⟨kind, mem⟩ := SchemaSet.mem_pending_empty_iff.mp mem
    apply compiled kind d mem
  obtain ⟨bindings, readBack, published⟩ :=
    kept.publishes_recordFor accepts₀ names₀ compiled₀
  have accepts' : input.outline.AcceptsAll
      (downstream.pending (.ofBindings bindings input.environment)) := by
    rw [pending_downstream accepts split published]
    apply accepts.sublist split.downstream_sublist
  have load' : ((g.upon source).upstream.load store' input.environment).1
      = .ok (.ofBindings bindings input.environment) := load_upon read readBack
  obtain ⟨r', ok'⟩ : ∃ r', ((g.upon source).run store' { input with schema := downstream }).result
      = .ok r' := exists_result_run load' fluent accepts'
  obtain ⟨index', loaded', completed'⟩ := completed_of_result_run ok'
  obtain rfl := Except.ok.inj (load'.symm.trans loaded')
  use r', ok'
  apply completed.agrees completed' split published rfl kept apart

end Generator

namespace Sample

/-- The sample, with the interface of its model group compiled. -/
def compiledInput : Input := { input with environment := .ofList ["sample.Party"] }

/-- The part of the sample with the model group. -/
def upstream : SchemaSet := { modelGroups := [party] }

/-- The part of the sample with the attribute group. -/
def downstream : SchemaSet := { attributeGroups := [audit] }

theorem mem_of_get?_classes {name : String} {c : GeneratedClass}
    (h : outline.classes.get? name = some c) :
  name = "sample.Audit" ∧ c = auditClass ∨ name = "sample.Invoice" ∧ c = invoiceClass
    ∨ name = "sample.Party" ∧ c = partyClass
  := by
  have mem : (name, c) ∈ [("sample.Audit", auditClass), ("sample.Invoice", invoiceClass),
      ("sample.Party", partyClass)] := SortedMap.mem_toList_iff.mpr h
  simpa only [List.mem_cons, Prod.mk.injEq, List.not_mem_nil, or_false] using mem

theorem wellKept :
  outline.WellKept
  where
  keyed := by
    intro name c found
    rcases mem_of_get?_classes found with ⟨rfl, rfl⟩ | ⟨rfl, rfl⟩ | ⟨rfl, rfl⟩
    · decide +kernel
    · decide +kernel
    · decide +kernel
  dotless := by
    intro name c group found component
    rcases mem_of_get?_classes found with ⟨rfl, rfl⟩ | ⟨rfl, rfl⟩ | ⟨rfl, rfl⟩
    · decide +kernel
    · cases component
    · decide +kernel

theorem kindsApart :
  schema.KindsApart outline
  where
  classes := by
    intro name c t found type kind q ref kind' other d mem
    rcases mem_of_get?_classes found with ⟨rfl, rfl⟩ | ⟨rfl, rfl⟩ | ⟨rfl, rfl⟩
    · cases type
    · obtain rfl := Option.some.inj type
      cases kind with
      | modelGroup =>
          obtain rfl := List.mem_singleton.mp ref
          cases kind' with
          | modelGroup => apply (other rfl).elim
          | attributeGroup =>
              obtain rfl := List.mem_singleton.mp mem
              decide +kernel
      | attributeGroup =>
          obtain rfl := List.mem_singleton.mp ref
          cases kind' with
          | modelGroup =>
              obtain rfl := List.mem_singleton.mp mem
              decide +kernel
          | attributeGroup => apply (other rfl).elim
    · cases type
  groups := by
    intro kind d mem q ref
    cases kind with
    | modelGroup =>
        obtain rfl := List.mem_singleton.mp mem
        cases ref
    | attributeGroup =>
        obtain rfl := List.mem_singleton.mp mem
        cases ref

end Sample

/-- The sample can be generated in two parts. -/
theorem Generator.exists_runs_agree_sample :
  ∃ r record r',
    (Sample.generator.run {} Sample.compiledInput).result = .ok r
    ∧ (Sample.generator.recording.run {}
        { Sample.compiledInput with schema := Sample.upstream }).generator.record = some record
    ∧ ((Sample.generator.upon (.inline "upstream" record.write)).run {}
        { Sample.compiledInput with schema := Sample.downstream }).result = .ok r'
    ∧ r.Agrees r' Sample.downstream Sample.outline
      (Sample.generator.run {} Sample.compiledInput).outline
      ((Sample.generator.upon (.inline "upstream" record.write)).run {}
        { Sample.compiledInput with schema := Sample.downstream }).outline
  := by
  have split : Sample.schema.SplitInto Sample.upstream Sample.downstream := by
    constructor
    · apply Interleaves.left _ Interleaves.nil
    · apply Interleaves.right _ Interleaves.nil
  have names : ∀ kind, ∀ d ∈ Sample.schema.declarations kind,
      ∀ c ∈ d.name.localName.toList, c ≠ ':' ∧ Text.isBlank c = false := by
    have letters : ∀ kind, ((Sample.schema.declarations kind).all fun d =>
        d.name.localName.toList.all fun c => c ≠ ':' && !Text.isBlank c) = true := by
      intro kind
      cases kind with
      | modelGroup => rfl
      | attributeGroup => rfl
    intro kind d mem c letter
    simpa using List.all_eq_true.mp (List.all_eq_true.mp (letters kind) d mem) c letter
  have compiled : ∀ kind, ∀ d ∈ Sample.upstream.declarations kind, ∀ {t},
      Sample.outline.place? d = some t → Sample.compiledInput.environment.contains t := by
    intro kind d mem t place
    cases kind with
    | modelGroup =>
        obtain rfl := List.mem_singleton.mp mem
        have party : Sample.outline.place? (.model Sample.party) = some ⟨"sample", "Party"⟩ := rfl
        obtain rfl := Option.some.inj (party.symm.trans place)
        decide +kernel
    | attributeGroup => cases mem
  obtain ⟨r, whole⟩ : ∃ r, (Sample.generator.run {} Sample.compiledInput).result = .ok r := ⟨_, rfl⟩
  obtain ⟨r₀, record, -, recorded, downstream⟩ := Generator.exists_runs_agree rfl (fun _ => rfl)
    Sample.wellKept split Sample.kindsApart names compiled whole
  obtain ⟨r', ok, agrees⟩ := downstream (.inline "upstream" record.write) {} rfl
  exact ⟨r, record, r', whole, recorded, ok, agrees⟩

end GroupInterfaces
