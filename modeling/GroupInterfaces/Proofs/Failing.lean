import GroupInterfaces.Proofs.Outcome

/-!
# Runs that fail

A run fails before any class is bound. What it has changed by then are slots of placeholders, in
which the interfaces for the declarations taken so far are new. Classes are as they were, and so
are packages apart from their types. The user is told the failure and nothing else; behind a run
that succeeds, the user is told the warnings of the report.
-/

namespace GroupInterfaces

/-! ### New interfaces -/

namespace Outline

/-- The place of a declaration has come to have a new interface. It was vacant or had the
placeholder before; the interface has the name of the place and the documentation of the group,
and nothing is nested in it. -/
structure NewlyDeclared (o o' : Outline) (d : GroupDecl) (t : TypeRef) : Prop where
  place : o.place? d = some t
  before : o.slot? t = none ∨ o.slot? t = some (.class t.qualifiedName)
  after : ∃ i, o'.slot? t = some (.interface i) ∧ i.name = t.name ∧ i.doc = d.documentation
    ∧ i.nested = []

/-- The second outline is the first one with new interfaces in the places of some declarations. -/
structure SameButNew (o : Outline) (ds : List GroupDecl) (o' : Outline) : Prop where
  frame : SameFrame o o'
  slots : ∀ {t}, o'.slot? t ≠ o.slot? t → ∃ d ∈ ds, o.NewlyDeclared o' d t

variable {s : Settings} {o o' cur : Outline} {ds : List GroupDecl} {d : GroupDecl} {t : TypeRef}
  {schema : SchemaSet} {index : Episode.Index} {decl : GroupDecl → Option InterfaceDecl}
  {f : Failure}

/-- For each declaration that is accepted there is that of its interface, linked or not. -/
theorem AcceptsAll.exists_decl (accepts : o.AcceptsAll ds) (mem : d ∈ ds)
    (place : o.place? d = some t)
    (new : decl d = o.declarationFor? s d ∨ decl d = o.linkedFor? s schema index d) :
  ∃ i, decl d = some i ∧ i.name = t.name ∧ i.doc = d.documentation ∧ i.nested = []
  := by
  have accepted := accepts.of_mem mem
  have declared : ∃ c package methods supertypes, o.classForGroup? d.name = some c
      ∧ decl d = some (.mk c.name package d.documentation methods supertypes []) := by
    rcases new with unlinked | linked
    · obtain ⟨i, declared⟩ := Option.isSome_iff_exists.mp (accepted.isSome_declarationFor? s)
      obtain ⟨c, p, found, -, rfl⟩ := declarationFor?_inv declared
      exact ⟨c, p.name, _, _, found, unlinked.trans declared⟩
    · have some : (o.linkedFor? s schema index d).isSome := accepted.isSome_linkedFor?
      obtain ⟨i, declared⟩ := Option.isSome_iff_exists.mp some
      obtain ⟨c, p, found, -, rfl⟩ := linkedFor?_inv declared
      exact ⟨c, p.name, _, _, found, linked.trans declared⟩
  obtain ⟨c, package, methods, supertypes, found, declared⟩ := declared
  rw [place?, found, Option.map_some] at place
  obtain rfl := Option.some.inj place
  exact ⟨_, declared, rfl, rfl, rfl⟩

/-- Laying the declarations of interfaces over the places of declarations that are accepted
changes nothing else. -/
theorem Overlaid.sameButNew (h : Overlaid o ds decl cur) (accepts : o.AcceptsAll ds)
    (new : ∀ e, decl e = o.declarationFor? s e ∨ decl e = o.linkedFor? s schema index e) :
  SameButNew o ds cur
  := by
  use h.frame
  intro t changed
  have taken : ∃ d ∈ ds, o.place? d = some t := by
    by_contra untaken
    push Not at untaken
    apply changed (h.kept untaken)
  obtain ⟨d, mem, place⟩ := taken
  obtain ⟨i, declared, is⟩ := accepts.exists_decl mem place (new d)
  refine ⟨d, mem, place, accepts.slot?_of_place? mem place, i, ?_, is⟩
  rw [h.declared d mem place, declared, Option.map_some]

/-! ### Synthesis that fails -/

theorem classForGroup?_of_placeholder {c : GeneratedClass} (h : o.placeholder d = .ok c) :
  o.classForGroup? d.name = some c
  := by
  simp only [placeholder] at h
  split at h
  · cases h
  · split at h
    · cases h
    · next found =>
        split at h
        · cases h
        · obtain rfl := Except.ok.inj h
          apply found

theorem placeholder_error_inv {e : GenerationError} (h : o.placeholder d = .error e) :
  e = .packageNotFound d.name.space d.name
    ∨ e = .noImplementation (Naming.className d.name.localName) d.name
    ∨ ∃ property first second, e = .propertyNameCollision d.name property first second
  := by
  simp only [placeholder] at h
  split at h
  · apply Or.inl (Except.error.inj h).symm
  · split at h
    · apply Or.inr (Or.inl (Except.error.inj h).symm)
    · split at h
      · exact Or.inr (Or.inr ⟨_, _, _, (Except.error.inj h).symm⟩)
      · cases h

/-- Where the fields for members cannot be published, one of the members has none. -/
theorem publishedFields_error_inv {c : GeneratedClass} {group : QName} {ms : List Member}
    (h : publishedFields c group ms = .error f) :
  ∃ m ∈ ms, f.error = .propertyNotFound group m.propertyName c.qualifiedName
  := by
  induction ms with
  | nil => cases h
  | cons m ms ih =>
      simp only [publishedFields] at h
      split at h
      · use m, List.mem_cons_self
        rw [← Except.error.inj h]
      · cases rest : publishedFields c group ms with
        | ok fields =>
            rw [rest] at h
            cases h
        | error f' =>
            rw [rest] at h
            obtain rfl := Except.error.inj h
            obtain ⟨m', mem, error⟩ := ih rest
            use m', List.mem_cons_of_mem m mem

/-- A synthesis fails before the placeholder is displaced, or where it has no place to be displaced
from, or behind its displacement for want of a field. -/
theorem synthesize_error_inv (h : synthesize s cur d = (.error f, o')) :
  (∃ e, cur.placeholder d = .error e ∧ f = d.failure e ∧ o' = cur)
    ∨ ∃ c, cur.placeholder d = .ok c
      ∧ (cur.displace? c d.documentation = none
          ∧ f = d.failure (.interfaceExists c.qualifiedName) ∧ o' = cur
        ∨ cur.displace? c d.documentation = some o'
          ∧ publishedFields c d.name d.groupStructure.variableMembers = .error f)
  := by
  simp only [synthesize] at h
  split at h
  · next e refused =>
      obtain ⟨result, rfl⟩ := Prod.mk.inj h
      exact Or.inl ⟨e, refused, (Except.error.inj result).symm, rfl⟩
  · next c found =>
      apply Or.inr
      use c, found
      split at h
      · next occupied =>
          obtain ⟨result, rfl⟩ := Prod.mk.inj h
          exact Or.inl ⟨occupied, (Except.error.inj result).symm, rfl⟩
      · next displaced =>
          split at h
          · next missing =>
              obtain ⟨result, rfl⟩ := Prod.mk.inj h
              rw [Except.error.inj result] at missing
              exact Or.inr ⟨displaced, missing⟩
          · cases (Prod.mk.inj h).1

/-- Where there is no place for an interface, the removal of its placeholder has nothing to remove
from the package. -/
theorem removeClass_eq_self_of_displace? {c : GeneratedClass} {p : Package} {doc : String}
    (found : o.packages.get? c.package = some p) (h : o.displace? c doc = none) :
  p.removeClass c = p
  := by
  have other : ¬ p.holdsClass c := by
    intro holds
    have place : o.HasPlaceFor c := by
      use by simp [found]
      rw [slot?_typeRef found]
      apply Or.inr (holdsClass_iff.mp holds)
    obtain ⟨o', displaced, -⟩ := displace?_of_hasPlaceFor doc found place
    rw [displaced] at h
    cases h
  rw [Package.removeClass, if_neg other]

/-- The placeholder of a declaration was displaced by an interface with documentation and without
members, and nothing else was changed. -/
structure OnlyDisplaced (o o' : Outline) (d : GroupDecl) (c : GeneratedClass) : Prop where
  placeholder : o.classForGroup? d.name = some c
  frame : SameFrame o o'
  kept : ∀ {t}, t ≠ c.typeRef → o'.slot? t = o.slot? t
  before : o.slot? c.typeRef = none ∨ o.slot? c.typeRef = some (.class c.qualifiedName)
  after : ∃ p, o.packages.get? c.package = some p
    ∧ o'.slot? c.typeRef = some (.interface (.mk c.name p.name d.documentation [] [] []))

theorem onlyDisplaced_of_displace? {c : GeneratedClass} (found : o.placeholder d = .ok c)
    (h : o.displace? c d.documentation = some o') :
  OnlyDisplaced o o' d c
  := by
  have room : o.HasPlaceFor c := by
    by_contra full
    rw [displace?_eq_none_of_not d.documentation full] at h
    cases h
  obtain ⟨p, package⟩ := Option.isSome_iff_exists.mp room.1
  obtain ⟨o₁, displaced, frame, slots⟩ := displace?_of_hasPlaceFor d.documentation package room
  obtain rfl := Option.some.inj (displaced.symm.trans h)
  constructor
  · apply classForGroup?_of_placeholder found
  · apply frame
  · intro t apart
    rw [slots, if_neg apart]
  · apply room.2
  · use p, package
    rw [slots, if_pos rfl]

/-- An outline in which a placeholder was displaced is another one. -/
theorem OnlyDisplaced.ne {c : GeneratedClass} (h : OnlyDisplaced o o' d c) :
  o' ≠ o
  := by
  rintro rfl
  obtain ⟨p, -, after⟩ := h.after
  rcases h.before with vacant | own
  · cases after.symm.trans vacant
  · cases after.symm.trans own

/-- Displacing a placeholder declares a new interface in its place. -/
theorem Overlaid.sameButNew_of_onlyDisplaced {c : GeneratedClass} (h : Overlaid o ds decl cur)
    (declared : ∀ e ∈ ds, (decl e).isSome) (same : SameButNew o ds cur)
    (only : OnlyDisplaced cur o' d c) :
  SameButNew o (ds ++ [d]) o'
  := by
  obtain ⟨p, package, after⟩ := only.after
  have room : cur.HasPlaceFor c := ⟨by simp [package], only.before⟩
  have free := ((h.hasPlaceFor_iff declared).mp room).1.2
  have found := only.placeholder
  rw [h.frame.classForGroup?] at found
  use h.frame.trans only.frame
  intro t changed
  by_cases here : t = c.typeRef
  · rw [here]
    refine ⟨d, by simp, ?_, free, _, after, rfl, rfl, rfl⟩
    rw [place?, found, Option.map_some]
  · have there : o'.slot? t = cur.slot? t := only.kept here
    rw [there] at changed
    obtain ⟨e, mem, place, before, after⟩ := same.slots changed
    rw [← there] at after
    exact ⟨e, List.mem_append_left [d] mem, place, before, after⟩

/-- No declaration is refused on account of an episode. -/
theorem Refuses.error_ne_episode (h : o.Refuses ds d f) (e : Episode.Error) :
  f.error ≠ .episode e
  := by
  intro same
  cases h with
  | package => cases same
  | placeholder => cases same
  | properties => cases same
  | place => cases same
  | field => cases same

end Outline

/-! ### Diagnostics -/

namespace Generator

variable {g : Generator} {store : FileStore} {input : Input} {index : Episode.Index}
  {r : Report} {f : Failure} {before after : List GroupDecl} {d : GroupDecl}

theorem diagnostics_of_result_finish {cur : Outline} {modelGroups attributeGroups : InterfaceSet}
    (h : (g.finish input index cur modelGroups attributeGroups).result = .ok r) :
  (g.finish input index cur modelGroups attributeGroups).diagnostics
    = { warnings := r.warnings }
  := by
  revert h
  simp only [finish]
  split
  · split
    · intro h
      cases h
    · split
      · intro h
        cases h
      · intro h
        cases h
        rfl
  · intro h
    cases h
    rfl

/-- A run that succeeds tells the warnings of its report and no error. -/
theorem diagnostics_of_result_run (h : (g.run store input).result = .ok r) :
  (g.run store input).diagnostics = { warnings := r.warnings }
  := by
  obtain ⟨index, load, completed⟩ := completed_of_result_run h
  obtain ⟨upstream, run⟩ := run_of_load load
  obtain ⟨cur, -, finish⟩ := runWith_of_acceptsAll (g := { g with upstream }) completed.accepts
  rw [run, finish] at h ⊢
  apply diagnostics_of_result_finish h

/-! ### Runs -/

/-- What a run that fails leaves of its outline, and what it tells its user. -/
structure FailsWith (g : Generator) (store : FileStore) (input : Input) (f : Failure) : Prop where
  frame : input.outline.SameFrame (g.run store input).outline
  slots : ∀ {t}, (g.run store input).outline.slot? t ≠ input.outline.slot? t →
    ∃ index before d after, (g.upstream.load store input.environment).1 = .ok index
      ∧ input.schema.pending index = before ++ d :: after
      ∧ input.outline.AcceptsAll before ∧ input.outline.Refuses before d f
      ∧ ∃ e ∈ before ++ [d], input.outline.NewlyDeclared (g.run store input).outline e t
  episode : ∀ e, f.error = .episode e → (g.run store input).outline = input.outline
  error : ∃ e, (g.run store input).diagnostics.errors = [e] ∧ e.severity = .error
    ∧ e.message = f.error.message
  warnings : (g.run store input).diagnostics.warnings = []

/-- A run whose upstream episode cannot be loaded leaves its outline as it is. -/
theorem failsWith_of_load_error {e : Episode.Error}
    (load : (g.upstream.load store input.environment).1 = .error e) :
  g.FailsWith store input { error := .episode e }
  := by
  obtain ⟨g', run⟩ := run_of_load_error load
  have same : (g.run store input).outline = input.outline := by rw [run, fail]
  constructor
  · rw [same]
    apply Outline.SameFrame.refl
  · intro t changed
    rw [same] at changed
    apply (changed rfl).elim
  · intro _ _
    apply same
  · rw [run]
    exact ⟨_, rfl, rfl, rfl⟩
  · rw [run, fail]

/-- A run that ends with the first refusal has new interfaces for the declarations taken so far,
and possibly one for the declaration that is refused. -/
theorem failsWith_of_refuses (load : (g.upstream.load store input.environment).1 = .ok index)
    (split : input.schema.pending index = before ++ d :: after)
    (accepts : input.outline.AcceptsAll before) (refuses : input.outline.Refuses before d f) :
  g.FailsWith store input f
  := by
  obtain ⟨upstream, run⟩ := run_of_load load
  obtain ⟨g', decl, cur, o', fails, new, overlaid, error⟩ :=
    failsAt_of_refuses (g := { g with upstream }) split accepts refuses
  rw [fails] at run
  have ends : (g.run store input).outline = o' := by rw [run, fail]
  have same := overlaid.sameButNew accepts new
  have declared : ∀ e ∈ before, (decl e).isSome := by
    intro e mem
    obtain ⟨c, -, place⟩ := accepts.placeholder mem
    obtain ⟨i, found, -⟩ := accepts.exists_decl mem place (new e)
    rw [found, Option.isSome_some]
  have left : input.outline.SameButNew (before ++ [d]) o' := by
    have kept : input.outline.SameButNew (before ++ [d]) cur := by
      use same.frame
      intro t changed
      obtain ⟨e, mem, newly⟩ := same.slots changed
      use e, List.mem_append_left [d] mem
    rcases Outline.synthesize_error_inv error with ⟨_, -, -, rfl⟩
      | ⟨c, found, ⟨-, -, rfl⟩ | ⟨displaced, -⟩⟩
    · apply kept
    · apply kept
    · apply overlaid.sameButNew_of_onlyDisplaced declared same
        (Outline.onlyDisplaced_of_displace? found displaced)
  constructor
  · rw [ends]
    apply left.frame
  · intro t changed
    rw [ends] at changed ⊢
    exact ⟨index, before, d, after, load, split, accepts, refuses, left.slots changed⟩
  · intro e episode
    apply (refuses.error_ne_episode e episode).elim
  · rw [run]
    exact ⟨_, rfl, rfl, rfl⟩
  · rw [run, fail]

/-- A run with fluent builders that fails leaves all classes alone, and packages but for new
interfaces of declarations up to the first one that is refused; it tells its failure as the only
error and no warning. A run that succeeds tells no error, and the warnings of its report. -/
theorem failsWith_of_result_run (builders : g.builders = .fluent) :
  (∀ f, (g.run store input).result = .error f → g.FailsWith store input f)
    ∧ ∀ r, (g.run store input).result = .ok r →
      (g.run store input).diagnostics.errors = []
        ∧ (g.run store input).diagnostics.warnings = r.warnings
  := by
  constructor
  · intro f error
    cases load : (g.upstream.load store input.environment).1 with
    | error e =>
        rw [result_run_of_load_error load] at error
        obtain rfl := Except.error.inj error
        apply failsWith_of_load_error load
    | ok index =>
        have fails : ¬ input.outline.AcceptsAll (input.schema.pending index) := by
          intro accepts
          obtain ⟨r, ok⟩ := exists_result_run load (fun _ => builders) accepts
          rw [ok] at error
          cases error
        obtain ⟨before, d, after, f', split, accepts, refuses⟩ :=
          Outline.exists_refuses_of_not_acceptsAll fails
        rw [result_run_of_refuses load split accepts refuses] at error
        obtain rfl := Except.error.inj error
        apply failsWith_of_refuses load split accepts refuses
  · intro r ok
    rw [diagnostics_of_result_run ok]
    exact ⟨rfl, rfl⟩

end Generator

/-- The sample with an attribute in the attribute group for which the placeholder has no field. -/
def Sample.lackingInput : Input where
  schema :=
    { modelGroups := [party]
      attributeGroups :=
        [{ audit with
            attributeUses :=
              [{ decl := { name := { space := "urn:sample", localName := "author" } }
                 customization := some { propertyName := some "Author" } }] }] }
  outline := outline

/-- When the field is missed, the placeholder of the attribute group is displaced already. -/
theorem Generator.failsWith_sample :
  ∃ f, (Sample.generator.run {} Sample.lackingInput).result = .error f
    ∧ ((Sample.generator.run {} Sample.lackingInput).outline.interface?
      ⟨"sample", "Audit"⟩).isSome
    ∧ Sample.generator.FailsWith {} Sample.lackingInput f
  := by
  obtain ⟨f, error⟩ : ∃ f, (Sample.generator.run {} Sample.lackingInput).result = .error f :=
    ⟨_, rfl⟩
  refine ⟨f, error, rfl, ?_⟩
  apply (failsWith_of_result_run rfl).1 f error

/-! ### One synthesis that fails -/

namespace Outline

variable {s : Settings} {o o' : Outline} {d : GroupDecl} {f : Failure}

/-- A synthesis that fails for want of a field has displaced the placeholder; one that fails for
another reason leaves the outline as it was. In particular, where the slot of the placeholder is
taken by something else, there was nothing to remove from it. -/
theorem outline_of_synthesize_error (h : synthesize s o d = (.error f, o')) :
  (o' = o ↔ ∀ group property className, f.error ≠ .propertyNotFound group property className)
    ∧ (o' ≠ o → ∃ c, OnlyDisplaced o o' d c)
    ∧ ∀ name, f.error = .interfaceExists name → ∃ c, o.classForGroup? d.name = some c
      ∧ c.qualifiedName = name
      ∧ ∀ p, o.packages.get? c.package = some p → p.removeClass c = p
  := by
  rcases synthesize_error_inv h with ⟨e, refused, rfl, rfl⟩
    | ⟨c, found, ⟨occupied, rfl, rfl⟩ | ⟨displaced, missing⟩⟩
  · have other := placeholder_error_inv refused
    refine ⟨iff_of_true rfl ?_, fun changed => (changed rfl).elim, ?_⟩
    · rintro group property className rfl
      simp at other
    · rintro name rfl
      simp at other
  · refine ⟨iff_of_true rfl ?_, fun changed => (changed rfl).elim, ?_⟩
    · intro group property className same
      cases same
    · intro name same
      use c, classForGroup?_of_placeholder found, GenerationError.interfaceExists.inj same
      intro p package
      apply removeClass_eq_self_of_displace? package occupied
  · have only := onlyDisplaced_of_displace? found displaced
    obtain ⟨m, -, error⟩ := publishedFields_error_inv missing
    refine ⟨iff_of_false only.ne ?_, fun _ => ⟨c, only⟩, ?_⟩
    · intro other
      apply other _ _ _ error
    · intro name same
      rw [error] at same
      cases same

/-- Where the field is missed, the outline is not what it was before. -/
theorem synthesize_lacking_ne :
  ∃ d ∈ Sample.lackingInput.schema.declarations .attributeGroup, ∃ f o',
    synthesize Sample.generator.settings Sample.lackingInput.outline d = (.error f, o')
      ∧ o' ≠ Sample.lackingInput.outline
  := by
  refine ⟨_, List.mem_cons_self, _, _, rfl, ?_⟩
  intro same
  have slots := congrArg (fun o : Outline => (o.interface? ⟨"sample", "Audit"⟩).isSome) same
  cases slots

/-- There, an interface without members stands in the slot of the placeholder, and nothing else
has changed. -/
theorem outline_of_synthesize_lacking :
  ∃ d ∈ Sample.lackingInput.schema.declarations .attributeGroup, ∃ f o',
    synthesize Sample.generator.settings Sample.lackingInput.outline d = (.error f, o')
      ∧ f.error = .propertyNotFound Sample.audit.name "Author" "sample.Audit"
      ∧ ∃ c, Sample.lackingInput.outline.OnlyDisplaced o' d c
  := by
  obtain ⟨d, mem, f, o', fails, error⟩ :
      ∃ d ∈ Sample.lackingInput.schema.declarations .attributeGroup, ∃ f o',
        synthesize Sample.generator.settings Sample.lackingInput.outline d = (.error f, o')
          ∧ f.error = .propertyNotFound Sample.audit.name "Author" "sample.Audit" :=
    ⟨_, List.mem_cons_self, _, _, rfl, rfl⟩
  obtain ⟨kept, displaced, -⟩ := outline_of_synthesize_error fails
  refine ⟨d, mem, f, o', fails, error, displaced ?_⟩
  intro same
  apply kept.mp same _ _ _ error

end Outline

end GroupInterfaces
