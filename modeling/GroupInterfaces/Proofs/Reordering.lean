import GroupInterfaces.Proofs.Outcome

/-!
# Declarations in another order

A run takes declarations one by one, and each of them changes an outline that the next one finds.
Still their order does not matter. Whether declarations are accepted depends on each of them alone
and on their places being different; and the outline behind them has the same declaration in the
place of each, whichever was taken first.
-/

namespace GroupInterfaces

/-! ### Acceptance -/

namespace Outline

variable {o cur cur' : Outline} {ds ds' : List GroupDecl}
  {decl : GroupDecl → Option InterfaceDecl}

/-- Several declarations are accepted exactly if each of them is accepted alone and they have
places of their own. -/
theorem acceptsAll_iff :
  o.AcceptsAll ds ↔ (∀ d ∈ ds, o.Accepts [] d) ∧ (ds.map o.place?).Nodup
  := by
  constructor
  · intro h
    constructor
    · intro d mem
      apply h.of_mem mem
    · apply h.nodup_place?
  · rintro ⟨alone, distinct⟩ before d after rfl
    have accepts := alone d (by simp)
    refine ⟨accepts.package, accepts.placeholder, accepts.properties, ?_, accepts.fields⟩
    intro c found
    use (accepts.place found).1
    intro e mem place
    rw [List.map_append, List.map_cons] at distinct
    apply (List.nodup_append.mp distinct).2.2 (o.place? e) (List.mem_map_of_mem mem) (o.place? d)
      List.mem_cons_self
    rw [place, place?, found, Option.map_some]

theorem AcceptsAll.perm (h : o.AcceptsAll ds) (perm : ds.Perm ds') :
  o.AcceptsAll ds'
  := by
  obtain ⟨alone, distinct⟩ := acceptsAll_iff.mp h
  apply acceptsAll_iff.mpr
  constructor
  · intro d mem
    apply alone d (perm.mem_iff.mpr mem)
  · apply (perm.map o.place?).nodup_iff.mp distinct

/-! ### Results -/

/-- The interfaces for declarations that are accepted form the same set in any order. -/
theorem AcceptsAll.interfaceSet_eq (h : o.AcceptsAll ds) (perm : ds.Perm ds') :
  o.interfaceSet ds' = o.interfaceSet ds
  := by
  apply SortedMap.ext_get?
  intro group
  apply Option.ext
  intro i
  rw [(h.perm perm).get?_interfaceSet_eq_some_iff, h.get?_interfaceSet_eq_some_iff]
  simp only [perm.mem_iff]

/-- Outlines with the same frame and the same slots are equal. -/
theorem eq_of_slot?_eq {o o' : Outline} (frame : SameFrame o o')
    (slots : ∀ t, o'.slot? t = o.slot? t) :
  o' = o
  := by
  have packages : o'.packages = o.packages := by
    apply SortedMap.ext_get?
    intro name
    cases found : o.packages.get? name with
    | none =>
        have bare := frame.packages name
        rw [found, Option.map_none, Option.map_eq_none_iff] at bare
        apply bare
    | some p =>
        obtain ⟨p', found', bare⟩ := frame.package found
        have types : p'.types = p.types := by
          apply SortedMap.ext_get?
          intro k
          have slot := slots ⟨name, k⟩
          simp only [slot?, found, found', Option.bind_some] at slot
          apply slot
        rw [found']
        apply congrArg some
        calc p' = { p'.bare with types := p'.types } := rfl
          _ = p := by rw [bare, types]; rfl
  calc o' = ⟨o'.packages, o'.classes⟩ := rfl
    _ = o := by rw [packages, frame.classes]

/-- Laying the same declarations over the same places gives the same outline in any order. -/
theorem Overlaid.eq_of_perm (h : Overlaid o ds decl cur) (h' : Overlaid o ds' decl cur')
    (perm : ds.Perm ds') :
  cur' = cur
  := by
  apply eq_of_slot?_eq (h.frame.symm.trans h'.frame)
  intro t
  by_cases untaken : ∀ d ∈ ds, o.place? d ≠ some t
  · rw [h.kept untaken, h'.kept fun d mem => untaken d (perm.mem_iff.mpr mem)]
  · push Not at untaken
    obtain ⟨d, mem, place⟩ := untaken
    rw [h.declared d mem place, h'.declared d (perm.mem_iff.mp mem) place]

end Outline

/-! ### Schemas -/

namespace SchemaSet

/-- Two schema sets have the same declarations of each kind, in whichever order. -/
structure Reordered (s s' : SchemaSet) : Prop where
  modelGroups : s.modelGroups.Perm s'.modelGroups
  attributeGroups : s.attributeGroups.Perm s'.attributeGroups

/-- No two declarations of one kind have the same name. -/
def NamesApart (s : SchemaSet) : Prop :=
  ∀ kind, ((s.declarations kind).map GroupDecl.name).Nodup

variable {s s' : SchemaSet} {index : Episode.Index}

namespace Reordered

variable (h : s.Reordered s')
include h

theorem symm :
  s'.Reordered s
  := ⟨h.modelGroups.symm, h.attributeGroups.symm⟩

theorem declarations (kind : GroupKind) :
  (s.declarations kind).Perm (s'.declarations kind)
  := by
  cases kind with
  | modelGroup => apply h.modelGroups.map
  | attributeGroup => apply h.attributeGroups.map

theorem unpublished (kind : GroupKind) :
  (s.unpublished index kind).Perm (s'.unpublished index kind)
  := (h.declarations kind).filter _

theorem pending :
  (s.pending index).Perm (s'.pending index)
  := (h.unpublished .modelGroup).append (h.unpublished .attributeGroup)

theorem namesApart (distinct : s.NamesApart) :
  s'.NamesApart
  := by
  intro kind
  apply ((h.declarations kind).map GroupDecl.name).nodup_iff.mp (distinct kind)

/-- Where a group is declared does not depend on the order, unless it is declared twice. -/
theorem locatorOf?_eq (distinct : s.NamesApart) (group : QName) :
  s'.locatorOf? group = s.locatorOf? group
  := by
  have models : (s.modelGroups.map ModelGroupDecl.name).Nodup := by
    have names := distinct .modelGroup
    rw [SchemaSet.declarations, List.map_map] at names
    apply names
  have attributes : (s.attributeGroups.map AttributeGroupDecl.name).Nodup := by
    have names := distinct .attributeGroup
    rw [SchemaSet.declarations, List.map_map] at names
    apply names
  simp only [locatorOf?]
  rw [find?_eq_of_perm models h.modelGroups, find?_eq_of_perm attributes h.attributeGroups]

end Reordered

end SchemaSet

section

variable {s s' : SchemaSet} (locators : ∀ group, s'.locatorOf? group = s.locatorOf? group)
include locators

/-- Binding looks at schemas for the places of declarations only. -/
theorem Bound.bind_congr (b : Bound) (className : String) (group : QName) (r : Resolution) :
  b.bind s' className group r = b.bind s className group r
  := by
  cases r with
  | synthesized t => rfl
  | compiled t => rfl
  | unavailable reason => simp only [bind, Unavailable.warning, locators]

theorem Outline.bind_congr (o : Outline) (modelGroups attributeGroups : InterfaceSet)
    (index : Episode.Index) (environment : Environment) :
  o.bind s' modelGroups attributeGroups index environment
    = o.bind s modelGroups attributeGroups index environment
  := by
  simp only [bind, Bound.bindAll, Bound.bind_congr locators]

end

/-! ### Runs -/

namespace Generator

variable {g : Generator} {store : FileStore} {input : Input} {index : Episode.Index}
  {schema : SchemaSet} {r : Report}

/-- The end of a run does not look at what the run has recorded, and keeps it. -/
theorem finish_recordAll (cur : Outline) (modelGroups attributeGroups : InterfaceSet)
    (is : List SynthesizedInterface) :
  (g.recordAll is).finish input index cur modelGroups attributeGroups
    = { g.finish input index cur modelGroups attributeGroups with
        generator :=
          (g.finish input index cur modelGroups attributeGroups).generator.recordAll is }
  := by
  have settings : (g.recordAll is).settings = g.settings := rfl
  have builders : (g.recordAll is).builders = g.builders := rfl
  simp only [finish, settings, builders]
  by_cases wanted : g.settings.declareBuilderInterface = true
  · simp only [wanted, if_true]
    split
    · rfl
    · split
      · rfl
      · rfl
  · simp only [wanted]
    rfl

/-- A run on declarations that are accepted gives the same result in any order. Only what it
records comes in the order of the declarations. -/
theorem runWith_of_reordered (distinct : input.schema.NamesApart)
    (same : input.schema.Reordered schema)
    (accepts : input.outline.AcceptsAll (input.schema.pending index)) :
  (g.runWith { input with schema } index).result = (g.runWith input index).result
    ∧ (g.runWith { input with schema } index).outline = (g.runWith input index).outline
  := by
  obtain ⟨cur, overlaid, run⟩ := runWith_of_acceptsAll (g := g) accepts
  have accepts' : { input with schema }.outline.AcceptsAll
      ({ input with schema }.schema.pending index) := accepts.perm same.pending
  obtain ⟨cur', overlaid', run'⟩ := runWith_of_acceptsAll (g := g) accepts'
  have sets : ∀ kind, input.outline.interfaceSet (schema.unpublished index kind)
      = input.outline.interfaceSet (input.schema.unpublished index kind) := by
    intro kind
    apply (acceptsAll_unpublished accepts kind).interfaceSet_eq (same.unpublished kind)
  have linked : input.outline.linkedFor? g.settings schema index
      = input.outline.linkedFor? g.settings input.schema index := by
    funext d
    rw [Outline.linkedFor?, Outline.linkedFor?, sets]
  simp only [linked] at overlaid'
  -- Both runs lay the same declarations over the same places, so they end with the same outline.
  obtain rfl := overlaid.eq_of_perm overlaid' same.pending
  simp only [sets, finish_recordAll] at run run'
  have ends : ∀ modelGroups attributeGroups,
      g.finish { input with schema } index cur' modelGroups attributeGroups
        = g.finish input index cur' modelGroups attributeGroups := by
    intro modelGroups attributeGroups
    simp only [finish, Outline.bind_congr (same.locatorOf?_eq distinct)]
  rw [run, run', ends]
  exact ⟨rfl, rfl⟩

theorem result_run_of_reordered (distinct : input.schema.NamesApart)
    (same : input.schema.Reordered schema) (h : (g.run store input).result = .ok r) :
  (g.run store { input with schema }).result = .ok r
    ∧ (g.run store { input with schema }).outline = (g.run store input).outline
  := by
  obtain ⟨index, load, completed⟩ := completed_of_result_run h
  obtain ⟨upstream, run⟩ := run_of_load_of_environment load
  have run₁ := run input rfl
  have run₂ := run { input with schema } rfl
  rw [run₁] at h ⊢
  rw [run₂, ← h]
  apply runWith_of_reordered distinct same completed.accepts

/-- The order of declarations does not matter, as long as no two of one kind share a name: a run
succeeds on them in any order with the same report and the same outline, or in none. -/
theorem result_run_iff_of_reordered (g : Generator) (store : FileStore) (input : Input)
    (schema : SchemaSet) (distinct : input.schema.NamesApart)
    (same : input.schema.Reordered schema) (r : Report) :
  ((g.run store { input with schema }).result = .ok r ↔ (g.run store input).result = .ok r)
    ∧ ((g.run store input).result = .ok r →
      (g.run store { input with schema }).outline = (g.run store input).outline)
  := by
  refine ⟨⟨?_, ?_⟩, ?_⟩
  · intro h
    have distinct' : { input with schema }.schema.NamesApart := same.namesApart distinct
    have same' : { input with schema }.schema.Reordered input.schema := same.symm
    apply (result_run_of_reordered distinct' same' h).1
  · intro h
    apply (result_run_of_reordered distinct same h).1
  · intro h
    apply (result_run_of_reordered distinct same h).2

/-- In the sample, a group comes to extend the one that it uses also if it is declared in front. -/
theorem result_run_reordered_sample :
  ∃ r, (Sample.generator.run {} Sample.dealInput).result = .ok r
    ∧ (Sample.generator.run {} { Sample.dealInput with
        schema := { modelGroups := [Sample.deal, Sample.party] } }).result = .ok r
    ∧ (Sample.generator.run {} { Sample.dealInput with
        schema := { modelGroups := [Sample.deal, Sample.party] } }).outline
      = (Sample.generator.run {} Sample.dealInput).outline
  := by
  obtain ⟨r, ok⟩ : ∃ r, (Sample.generator.run {} Sample.dealInput).result = .ok r := ⟨_, rfl⟩
  have distinct : Sample.dealInput.schema.NamesApart := by
    intro kind
    cases kind with
    | modelGroup => decide
    | attributeGroup => apply List.nodup_nil
  have same : Sample.dealInput.schema.Reordered
      { modelGroups := [Sample.deal, Sample.party] } := ⟨.swap _ _ [], .refl []⟩
  obtain ⟨results, outlines⟩ := result_run_iff_of_reordered Sample.generator {}
    Sample.dealInput _ distinct same r
  exact ⟨r, ok, results.mpr ok, outlines ok⟩

end Generator

end GroupInterfaces
