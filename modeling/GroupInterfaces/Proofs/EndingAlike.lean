import GroupInterfaces.Proofs.Completion

/-!
# Runs that end alike

What a run does about builders depends on little of its outline: on the names of interfaces, on what
is nested in them, and on what fluent builders make of them. A relation between outlines that agrees
on this much, and that is kept when the same is nested in the interfaces of both, takes two runs
from the removal of placeholders to ends that are alike.
-/

namespace GroupInterfaces

/-- Builders do not tell the declarations apart. -/
structure InterfaceDecl.SameToBuilders (d d' : InterfaceDecl) : Prop where
  name : d'.name = d.name
  package : d'.package = d.package
  nested : d'.nested = d.nested
  fluent : ∀ r : BuilderRequest, r.fluent d' = r.fluent d

theorem InterfaceDecl.SameToBuilders.refl (d : InterfaceDecl) :
  d.SameToBuilders d
  := ⟨rfl, rfl, rfl, fun _ => rfl⟩

/-- A relation by which outlines have interfaces for the same types that builders do not tell apart,
and which is kept when the same is nested in these. -/
structure KeptByBuilders (Q : Outline → Outline → Prop) : Prop where
  alike : ∀ {o o'}, Q o o' → ∀ t, o.interface? t = none ∧ o'.interface? t = none
    ∨ ∃ d d', o.interface? t = some d ∧ o'.interface? t = some d' ∧ d.SameToBuilders d'
  kept : ∀ {o o'}, Q o o' → ∀ {t d d'}, o.interface? t = some d → o'.interface? t = some d' →
    ∀ nested {f f'}, f d = d.withNested nested → f' d' = d'.withNested nested →
      Q (o.modifyInterface t f) (o'.modifyInterface t f')

namespace KeptByBuilders

variable {Q : Outline → Outline → Prop} (h : KeptByBuilders Q) {o o' : Outline}
include h

/-- An interface is nested in that of a type in both outlines or in neither. -/
theorem declareNested (related : Q o o') (t : TypeRef) (key : String) :
  o.declareNested t key = none ∧ o'.declareNested t key = none
    ∨ ∃ o₁ o₁', o.declareNested t key = some o₁ ∧ o'.declareNested t key = some o₁' ∧ Q o₁ o₁'
  := by
  rcases h.alike related t with ⟨none, none'⟩ | ⟨d, d', found, found', same⟩
  · left
    simp only [Outline.declareNested, none, none', and_self]
  · have taken : d'.nested? key = d.nested? key := by
      rw [InterfaceDecl.nested?, same.nested, InterfaceDecl.nested?]
    cases free : d.nested? key with
    | some n =>
        left
        rw [free] at taken
        simp [Outline.declareNested, found, found', InterfaceDecl.declareNested, free, taken]
    | none =>
        right
        rw [free] at taken
        refine ⟨_, _, Outline.declareNested_eq_some found free,
          Outline.declareNested_eq_some found' taken, ?_⟩
        apply h.kept related found found' _ rfl
        rw [same.name, same.package, same.nested]

/-- The interfaces of builders are declared in both outlines alike. -/
theorem declareBuilders (related : Q o o') (name : String) (builders : BuilderOutlines)
    (is : List SynthesizedInterface) :
  ∃ result o₁ o₁', o.declareBuilders name builders is = (result, o₁)
    ∧ o'.declareBuilders name builders is = (result, o₁') ∧ Q o₁ o₁'
  := by
  induction is generalizing o o' builders with
  | nil => exact ⟨_, _, _, rfl, rfl, related⟩
  | cons i is ih =>
      rcases h.declareNested related i.typeRef name with
        ⟨none, none'⟩ | ⟨o₁, o₁', step, step', related'⟩
      · simp only [Outline.declareBuilders, none, none']
        exact ⟨_, _, _, rfl, rfl, related⟩
      · simp only [Outline.declareBuilders, step, step']
        apply ih related'

theorem buildFluent (related : Q o o') (r : BuilderRequest) :
  (∃ e, o.buildFluent r = .error e ∧ o'.buildFluent r = .error e)
    ∨ ∃ o₁ o₁', o.buildFluent r = .ok o₁ ∧ o'.buildFluent r = .ok o₁' ∧ Q o₁ o₁'
  := by
  rcases h.alike related r.builder.interface with ⟨none, none'⟩ | ⟨d, d', found, found', same⟩
  · left
    simp only [Outline.buildFluent, none, none']
    exact ⟨_, rfl, rfl⟩
  · have declared : d'.nested? r.builder.builderName = d.nested? r.builder.builderName := by
      rw [InterfaceDecl.nested?, same.nested, InterfaceDecl.nested?]
    cases here : d.nested? r.builder.builderName with
    | none =>
        left
        rw [here] at declared
        simp only [Outline.buildFluent, found, found', here, declared]
        exact ⟨_, rfl, rfl⟩
    | some n =>
        right
        rw [here] at declared
        simp only [Outline.buildFluent, found, found', here, declared]
        refine ⟨_, _, rfl, rfl, ?_⟩
        apply h.kept related found found' (Entries.modify _ (r.fluent d) d.nested) rfl
        change d'.withNested (Entries.modify _ (r.fluent d') d'.nested) = _
        rw [same.fluent, same.nested]

/-- The interface of a builder is declared in both outlines or in neither. -/
theorem declaration?_eq (related : Q o o') (b : BuilderOutline) :
  b.declaration? o' = b.declaration? o
  := by
  rw [BuilderOutline.declaration?, BuilderOutline.declaration?]
  rcases h.alike related b.interface with ⟨none, none'⟩ | ⟨d, d', found, found', same⟩
  · rw [none, none']
  · rw [found, found', Option.bind_some, Option.bind_some, InterfaceDecl.nested?, same.nested,
      InterfaceDecl.nested?]

/-- A generator of builders answers the same for both outlines. -/
theorem build (related : Q o o') (g : BuilderGenerator) (r : BuilderRequest) :
  (∃ e g', g.build o r = (.error e, g') ∧ g.build o' r = (.error e, g'))
    ∨ ∃ o₁ o₁' g', g.build o r = (.ok o₁, g') ∧ g.build o' r = (.ok o₁', g') ∧ Q o₁ o₁'
  := by
  cases g with
  | fluent =>
      simp only [BuilderGenerator.build]
      rcases h.buildFluent related r with ⟨e, fails, fails'⟩ | ⟨o₁, o₁', built, built', related'⟩
      · left
        rw [fails, fails']
        exact ⟨e, _, rfl, rfl⟩
      · right
        rw [built, built']
        exact ⟨o₁, o₁', _, rfl, rfl, related'⟩
  | notes taken =>
      have note : r.note o' = r.note o := by
        rw [BuilderRequest.note, h.declaration?_eq related, BuilderRequest.note]
      simp only [BuilderGenerator.build, note]
      split
      · apply Or.inl ⟨_, _, rfl, rfl⟩
      · apply Or.inr ⟨o, o', _, rfl, rfl, related⟩

/-- All builders come to the same in both outlines. -/
theorem buildAll (related : Q o o') (builders : BuilderOutlines) (associations : Associations)
    (options : BuilderOptions) (g : BuilderGenerator) (bs : List BuilderOutline) :
  let result := g.buildAll builders associations options o bs
  let result' := g.buildAll builders associations options o' bs
  result'.failure = result.failure ∧ Q result.outline result'.outline
  := by
  induction bs generalizing g o o' with
  | nil => exact ⟨rfl, related⟩
  | cons b bs ih =>
      rcases h.build related g { builder := b, builders, associations, options } with
        ⟨e, g', step, step'⟩ | ⟨o₁, o₁', g', step, step', related'⟩
      · simp only [BuilderGenerator.buildAll, step, step']
        exact ⟨trivial, related⟩
      · simp only [BuilderGenerator.buildAll, step, step']
        apply ih related'

end KeptByBuilders

/-! ### Ends of runs -/

/-- The settings ask for the same of builders. -/
structure Settings.SameBuilders (s s' : Settings) : Prop where
  declare : s'.declareBuilderInterface = s.declareBuilderInterface
  name : s'.builderInterfaceName = s.builderInterfaceName
  options : s'.builderOptions = s.builderOptions

namespace Generator

/-- The warnings of a run are those of binding, also if the run fails in the end. -/
theorem warnings_finish (g : Generator) (input : Input) (index : Episode.Index) (o : Outline)
    (models attributes : InterfaceSet) :
  (g.finish input index o models attributes).diagnostics.warnings
    = (o.bind input.schema models attributes index input.environment).warnings
  := by
  simp only [finish]
  split
  · split
    · rfl
    · split
      · rfl
      · rfl
  · rfl

theorem settings_of_result_finish {g : Generator} {input : Input} {index : Episode.Index}
    {o : Outline} {models attributes : InterfaceSet} {r : Report}
    (h : (g.finish input index o models attributes).result = .ok r) :
  r.settings = g.settings
  := by
  revert h
  simp only [finish]
  split
  · split
    · intro h
      cases h
    · split
      · intro h
        cases h
      · intro h
        cases h
        rfl
  · intro h
    cases h
    rfl

/-- Two runs that have come to the same as far as builders are concerned end alike. Their reports
have the associations, the builders and the removed placeholders in common. -/
theorem finish_alike {Q : Outline → Outline → Prop} (h : KeptByBuilders Q) (g g' : Generator)
    (input input' : Input) {index index' : Episode.Index} {o o' : Outline}
    {models attributes models' attributes' : InterfaceSet} (builders : g'.builders = g.builders)
    (same : g.settings.SameBuilders g'.settings)
    (associations : (o'.bind input'.schema models' attributes' index'
        input'.environment).associations
      = (o.bind input.schema models attributes index input.environment).associations)
    (removed : ((o'.bind input'.schema models' attributes' index'
        input'.environment).outline.removePlaceholders (models'.values ++ attributes'.values)).1
      = ((o.bind input.schema models attributes index
        input.environment).outline.removePlaceholders (models.values ++ attributes.values)).1)
    (related : Q
      ((o.bind input.schema models attributes index
        input.environment).outline.removePlaceholders (models.values ++ attributes.values)).2
      ((o'.bind input'.schema models' attributes' index'
        input'.environment).outline.removePlaceholders (models'.values ++ attributes'.values)).2)
    (declared : ∀ (o : Outline) name builders,
      o.declareBuilders name builders (models'.values ++ attributes'.values)
        = o.declareBuilders name builders (models.values ++ attributes.values)) :
  let a := g.finish input index o models attributes
  let b := g'.finish input' index' o' models' attributes'
  let warnings := (o'.bind input'.schema models' attributes' index' input'.environment).warnings
  b.result = a.result.map ({ · with
      settings := g'.settings, modelGroupInterfaces := models'
      attributeGroupInterfaces := attributes', warnings })
    ∧ b.diagnostics.errors = a.diagnostics.errors ∧ Q a.outline b.outline
  := by
  obtain ⟨result, o₁, o₁', declare, declare', related'⟩ := h.declareBuilders related
    g.settings.builderInterfaceName {} (models.values ++ attributes.values)
  simp only [finish, associations, removed, declared, same.declare, same.name, same.options,
    builders] at declare declare' ⊢
  split
  · rw [declare, declare']
    cases result with
    | error f => exact ⟨rfl, rfl, related'⟩
    | ok outlines =>
        obtain ⟨failure, built⟩ := h.buildAll related' outlines
          (o.bind input.schema models attributes index input.environment).associations
          g.settings.builderOptions g.builders outlines.values
        simp only [failure]
        split
        · exact ⟨rfl, rfl, built⟩
        · exact ⟨rfl, rfl, built⟩
  · exact ⟨rfl, rfl, related⟩

end Generator

end GroupInterfaces
