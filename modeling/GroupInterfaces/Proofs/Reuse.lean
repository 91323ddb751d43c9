import GroupInterfaces.Proofs.Kinds
import GroupInterfaces.Proofs.Loading
import GroupInterfaces.Proofs.Regeneration

/-!
# Using a generator again

A generator keeps three things from run to run, and two of them have no influence on what comes
of a run: the record, and the notes of a generator of builders that takes notes. The third one is
the index of the upstream episode, which says what was compiled when it was loaded. A generator
whose upstream episode has been loaded, or cannot be loaded, keeps that as it is, so all runs
behind the first one go as behind that one.
-/

namespace GroupInterfaces

/-! ### Generators that are alike -/

/-- Both generators of builders are fluent, or both take notes. -/
inductive BuilderGenerator.Alike : BuilderGenerator → BuilderGenerator → Prop where
  | fluent : Alike .fluent .fluent
  | notes (taken taken' : List BuilderNote) : Alike (.notes taken) (.notes taken')

/-- The outcomes are the same, apart from the generators. -/
structure Outcome.SameEnd (a b : Outcome) : Prop where
  result : a.result = b.result
  outline : a.outline = b.outline
  diagnostics : a.diagnostics = b.diagnostics

/-- The generators differ in nothing but in what they have recorded and noted. -/
structure Generator.Alike (g g' : Generator) : Prop where
  settings : g.settings = g'.settings
  upstream : g.upstream = g'.upstream
  builders : g.builders.Alike g'.builders

namespace BuilderGenerator

variable {g g' g'' : BuilderGenerator}

theorem Alike.refl (g : BuilderGenerator) :
  g.Alike g
  := by
  cases g with
  | fluent => apply fluent
  | notes taken => apply notes

theorem Alike.trans (h : g.Alike g') (h' : g'.Alike g'') :
  g.Alike g''
  := by
  cases h with
  | fluent => apply h'
  | notes taken taken' =>
      cases h'
      apply notes

/-- Generators that are alike answer alike, and stay so. -/
theorem Alike.build (h : g.Alike g') (o : Outline) (r : BuilderRequest) :
  (g.build o r).1 = (g'.build o r).1 ∧ (g.build o r).2.Alike (g'.build o r).2
    ∧ (g.build o r).2.Alike g
  := by
  cases h with
  | fluent => exact ⟨rfl, .fluent, .fluent⟩
  | notes taken taken' => exact ⟨rfl, .notes _ _, .notes _ _⟩

section

variable (builders : BuilderOutlines) (associations : Associations) (options : BuilderOptions)

/-- Generators that are alike answer several requests alike, and stay so. -/
theorem Alike.buildAll (h : g.Alike g') (o : Outline) (rest : List BuilderOutline) :
  let result := g.buildAll builders associations options o rest
  let result' := g'.buildAll builders associations options o rest
  result.outline = result'.outline ∧ result.failure = result'.failure
    ∧ result.generator.Alike result'.generator ∧ result.generator.Alike g
  := by
  induction rest generalizing g g' o with
  | nil => exact ⟨rfl, rfl, h, .refl g⟩
  | cons builder rest ih =>
      obtain ⟨answer, alike, kept⟩ :=
        h.build o { builder, builders, associations, options }
      simp only [BuilderGenerator.buildAll]
      cases built : g.build o { builder, builders, associations, options } with
      | mk result next =>
          cases built' : g'.build o { builder, builders, associations, options } with
          | mk result' next' =>
              rw [built] at answer alike kept
              rw [built'] at answer alike
              subst answer
              cases result with
              | error e => exact ⟨rfl, rfl, alike, kept⟩
              | ok o =>
                  obtain ⟨outline, failure, behind, before⟩ := ih alike o
                  exact ⟨outline, failure, behind, before.trans kept⟩

end

end BuilderGenerator

theorem Outcome.SameEnd.refl (a : Outcome) :
  a.SameEnd a
  := ⟨rfl, rfl, rfl⟩

namespace Generator

variable {g g' g'' : Generator} {input : Input} {index : Episode.Index} {store : FileStore}

theorem Alike.refl (g : Generator) :
  g.Alike g
  := ⟨rfl, rfl, .refl _⟩

theorem Alike.trans (h : g.Alike g') (h' : g'.Alike g'') :
  g.Alike g''
  := ⟨h.settings.trans h'.settings, h.upstream.trans h'.upstream, h.builders.trans h'.builders⟩

theorem Alike.recordAll (h : g.Alike g') (is is' : List SynthesizedInterface) :
  (g.recordAll is).Alike (g'.recordAll is')
  := ⟨h.settings, h.upstream, h.builders⟩

theorem alike_recordAll (g : Generator) (is : List SynthesizedInterface) :
  (g.recordAll is).Alike g
  := ⟨rfl, rfl, .refl _⟩

theorem Alike.withUpstream (h : g.Alike g') (upstream : Episode.Upstream) :
  ({ g with upstream } : Generator).Alike { g' with upstream }
  := ⟨h.settings, rfl, h.builders⟩

end Generator

/-- The outcomes are the same, up to what the generators have recorded and noted. -/
structure Outcome.Alike (a b : Outcome) : Prop where
  sameEnd : a.SameEnd b
  generator : a.generator.Alike b.generator

namespace Generator

variable {g g' : Generator} {input : Input} {index : Episode.Index} {store : FileStore}

theorem Alike.fail (h : g.Alike g') (o : Outline) (warnings : List Diagnostic) (f : Failure) :
  (g.fail o warnings f).Alike (g'.fail o warnings f)
  := ⟨⟨rfl, rfl, rfl⟩, h⟩

/-- Generators that are alike end a run alike, and stay so. -/
theorem Alike.finish (h : g.Alike g') (input : Input) (index : Episode.Index) (o : Outline)
    (modelGroups attributeGroups : InterfaceSet) :
  (g.finish input index o modelGroups attributeGroups).Alike
      (g'.finish input index o modelGroups attributeGroups)
    ∧ (g.finish input index o modelGroups attributeGroups).generator.Alike g
  := by
  simp only [Generator.finish, h.settings]
  split
  · split
    · use h.fail _ _ _
      apply Alike.refl
    · next builders declared _ =>
        obtain ⟨outline, failure, alike, kept⟩ := h.builders.buildAll builders
          (o.bind input.schema modelGroups attributeGroups index input.environment).associations
          g'.settings.builderOptions declared builders.values
        simp only [outline, failure]
        split
        · exact ⟨⟨⟨rfl, rfl, rfl⟩, rfl, h.upstream, alike⟩, h.settings.symm, rfl, kept⟩
        · exact ⟨⟨⟨rfl, rfl, rfl⟩, rfl, h.upstream, alike⟩, h.settings.symm, rfl, kept⟩
  · exact ⟨⟨⟨rfl, rfl, rfl⟩, h⟩, .refl g⟩

theorem Alike.runWith (h : g.Alike g') (input : Input) (index : Episode.Index) :
  (g.runWith input index).Alike (g'.runWith input index)
    ∧ (g.runWith input index).generator.Alike g
  := by
  simp only [Generator.runWith, settings_recordAll, h.settings]
  split
  · use (h.recordAll _ _).fail _ _ _
    apply alike_recordAll
  · split
    · use ((h.recordAll _ _).recordAll _ _).fail _ _ _
      apply (alike_recordAll _ _).trans (alike_recordAll _ _)
    · obtain ⟨same, kept⟩ := ((h.recordAll _ _).recordAll _ _).finish input index _ _ _
      use same
      apply kept.trans ((alike_recordAll _ _).trans (alike_recordAll _ _))

/-- Runs of generators that are alike come to the same, and a run changes nothing of a generator
that matters, apart from loading the upstream episode. -/
theorem Alike.run (h : g.Alike g') (store : FileStore) (input : Input) :
  (g.run store input).Alike (g'.run store input)
    ∧ (g.run store input).generator.Alike
      { g with upstream := (g.upstream.load store input.environment).2 }
  := by
  rcases loaded : g.upstream.load store input.environment with ⟨e | index, upstream⟩
  · simp only [Generator.run, ← h.upstream, loaded]
    use (h.withUpstream upstream).fail _ _ _
    apply Alike.refl
  · simp only [Generator.run, ← h.upstream, loaded]
    apply (h.withUpstream upstream).runWith

/-! ### Sequences of runs -/

/-- The generator with its upstream episode loaded in an environment, if it can be. -/
def loaded (g : Generator) (store : FileStore) (environment : Environment) : Generator :=
  { g with upstream := (g.upstream.load store environment).2 }

/-- The generator behind some runs. -/
def behind (g : Generator) (calls : List (FileStore × Input)) : Generator :=
  calls.foldl (fun g call => (g.run call.1 call.2).generator) g

/-- Where loading changes nothing any more, runs leave a generator as it is. -/
theorem Alike.behind (h : g.Alike g')
    (settled : ∀ store environment, (g'.upstream.load store environment).2 = g'.upstream)
    (calls : List (FileStore × Input)) :
  (g.behind calls).Alike g'
  := by
  induction calls generalizing g with
  | nil => apply h
  | cons call calls ih =>
      apply ih
      obtain ⟨-, kept⟩ := (Alike.refl g).run call.1 call.2
      rw [h.upstream, settled, ← h.upstream] at kept
      apply kept.trans h

/-- Behind some runs, a generator is as if the first one had only loaded the upstream episode. -/
theorem alike_behind_cons (fresh : g.upstream.index = none) (atHand : g.upstream.AtHand)
    (first : FileStore × Input) (rest : List (FileStore × Input)) :
  (g.behind (first :: rest)).Alike (g.loaded first.1 first.2.environment)
  := by
  have settled : ∀ store environment,
      ((g.loaded first.1 first.2.environment).upstream.load store environment).2
        = (g.loaded first.1 first.2.environment).upstream := by
    intro store environment
    apply atHand.load_load fresh
  exact Alike.behind ((Alike.refl g).run first.1 first.2).2 settled rest

/-- To load the upstream episode earlier makes no difference if what it publishes is compiled
earlier exactly if it is later. -/
theorem run_loaded {environment : Environment} (fresh : g.upstream.index = none)
    (atHand : g.upstream.AtHand) (store' : FileStore)
    (agree : ∀ index, g.upstream.loadIndex store' environment = .ok index →
      index.Agree environment input.environment) :
  (g.loaded store' environment).run store input = g.run store input
  := by
  cases readBack : g.upstream.bindings store' with
  | error e => rw [loaded, Episode.Upstream.load_of_error fresh readBack]
  | ok bindings =>
      have loaded := Episode.Upstream.loadIndex_eq g.upstream store' environment
      rw [readBack] at loaded
      have same := Episode.Index.ofBindings_eq (agree _ loaded)
      rw [Generator.loaded, Episode.Upstream.load_of_bindings fresh readBack]
      rw [atHand.bindings_eq store' store] at readBack
      simp only [run, Episode.Upstream.load_of_index,
        Episode.Upstream.load_of_bindings fresh readBack, same]

/-- A generator that was used goes on as a new one that has loaded the upstream episode in the
environment of the first run. So it goes on as a new one if that environment has the same of the
published interfaces as the environment at hand, and in particular if nothing is published. -/
theorem run_behind (fresh : g.upstream.index = none) (atHand : g.upstream.AtHand)
    (calls : List (FileStore × Input)) (store : FileStore) (input : Input) :
  (∀ first rest, calls = first :: rest →
      ((g.behind calls).run store input).SameEnd
        ((g.loaded first.1 first.2.environment).run store input))
    ∧ ((∀ first ∈ calls.head?, ∀ index,
          g.upstream.loadIndex first.1 first.2.environment = .ok index →
          index.Agree first.2.environment input.environment) →
        ((g.behind calls).run store input).SameEnd (g.run store input))
  := by
  have used : ∀ first rest, calls = first :: rest → ((g.behind calls).run store input).SameEnd
      ((g.loaded first.1 first.2.environment).run store input) := by
    rintro first rest rfl
    apply ((alike_behind_cons fresh atHand first rest).run store input).1.sameEnd
  use used
  intro agree
  cases calls with
  | nil => apply Outcome.SameEnd.refl
  | cons first rest =>
      rw [← run_loaded fresh atHand first.1 (agree first rfl)]
      apply used first rest rfl

end Generator

namespace Sample

/-- The record of an episode that has published the model group. -/
def partyRecord : Episode.Record := [⟨.modelGroup, party.name, ⟨"sample", "Party"⟩⟩]

/-- A generator that builds on it. -/
def borrower : Generator := generator.upon (.inline "upstream" partyRecord.write)

/-- The index of the episode where the interface is compiled, or where it is missing. -/
def partyIndex (availability : Availability) : Episode.Index :=
  .ofList [(party.name, { typeRef := ⟨"sample", "Party"⟩, availability })]

theorem atHand_borrower :
  borrower.upstream.AtHand
  := by
  intro source h
  exact ⟨_, _, (Option.some.inj h).symm⟩

theorem bindings_borrower (store : FileStore) :
  borrower.upstream.bindings store = .ok [⟨"sample.Party", party.name⟩]
  := by
  have named : partyRecord.WellNamed := Episode.Record.wellNamed_of_all (by decide)
  have entry : partyRecord.sorted.map Episode.Entry.binding = [⟨"sample.Party", party.name⟩] := by
    decide +kernel
  have source : borrower.upstream.source = some (.inline "upstream" partyRecord.write) := rfl
  rw [Episode.Upstream.bindings_of_inline source, named.readBindings_write, entry]

theorem load_borrower (environment : Environment) :
  let index := partyIndex (PublishedInterface.resolve ⟨"sample", "Party"⟩ environment).availability
  borrower.upstream.load {} environment
    = (.ok index, { borrower.upstream with index := some index })
  := by
  have name : TypeRef.ofQualifiedName "sample.Party" = ⟨"sample", "Party"⟩ := by decide +kernel
  rw [Episode.Upstream.load_of_bindings rfl (bindings_borrower {})]
  simp only [Episode.Index.ofBindings, List.map_cons, List.map_nil, name]
  rfl

/-- What is generated later, with the interface of the model group compiled. -/
def later : Input where
  outline := outline
  environment := .ofList ["sample.Party"]

theorem warnings_later (availability : Availability) :
  (later.outline.bind later.schema {} {} (partyIndex availability)
      later.environment).warnings.length
    = match availability with
      | .compiled => 1
      | .missing => 2
  := by
  cases availability with
  | compiled => decide +kernel
  | missing => decide +kernel

theorem implements_later (availability : Availability) :
  ((later.outline.bind later.schema {} {} (partyIndex availability)
      later.environment).outline.classes.get? "sample.Invoice").map (·.implements)
    = match availability with
      | .compiled => some [⟨"sample", "Party"⟩]
      | .missing => some []
  := by
  cases availability with
  | compiled => decide +kernel
  | missing => decide +kernel

/-- Whether the interface was compiled when the episode was loaded shows in the run. -/
theorem runWith_later_ne (g g' : Generator) :
  (g.runWith later (partyIndex .missing)).result
      ≠ (g'.runWith later (partyIndex .compiled)).result
    ∧ (g.runWith later (partyIndex .missing)).outline
      ≠ (g'.runWith later (partyIndex .compiled)).outline
  := by
  have idle : ∀ availability kind,
      later.schema.unpublished (partyIndex availability) kind = [] := by
    intro availability kind
    cases kind with
    | modelGroup => rfl
    | attributeGroup => rfl
  obtain ⟨r, ok, -, warnings, outline⟩ := g.runWith_of_unpublished_eq_nil later (idle .missing)
  obtain ⟨r', ok', -, warnings', outline'⟩ :=
    g'.runWith_of_unpublished_eq_nil later (idle .compiled)
  constructor
  · intro h
    have same : r = r' := Except.ok.inj (ok.symm.trans (h.trans ok'))
    rw [same, warnings'] at warnings
    have number := congrArg List.length warnings
    rw [warnings_later, warnings_later] at number
    cases number
  · intro h
    rw [outline, outline'] at h
    have edges := implements_later .missing
    rw [h, implements_later] at edges
    cases edges

end Sample

namespace Generator

/-- A generator that was used where another interface was compiled goes on as a new one. -/
theorem run_behind_sample :
  ((Sample.borrower.behind [({}, { Sample.later with
      environment := .ofList ["sample.Party", "sample.Deal"] })]).run {} Sample.later).SameEnd
    (Sample.borrower.run {} Sample.later)
  := by
  apply (run_behind rfl Sample.atHand_borrower _ {} Sample.later).2
  intro first mem index loaded group p found
  cases mem
  rw [Episode.Upstream.loadIndex_eq, Sample.bindings_borrower] at loaded
  cases loaded
  rw [Episode.Index.get?_ofBindings] at found
  obtain ⟨b, mem, rfl⟩ := Option.map_eq_some_iff.mp found
  obtain rfl := List.mem_singleton.mp (List.mem_reverse.mp (List.mem_of_find?_eq_some mem))
  decide +kernel

/-- A generator that was used where the interface was not compiled yet goes on without it, and a
new one does not. -/
theorem behind_ne_fresh_sample :
  ((Sample.borrower.behind [({}, {})]).run {} Sample.later).result
      ≠ (Sample.borrower.run {} Sample.later).result
    ∧ ((Sample.borrower.behind [({}, {})]).run {} Sample.later).outline
      ≠ (Sample.borrower.run {} Sample.later).outline
  := by
  have same :=
    ((alike_behind_cons rfl Sample.atHand_borrower ({}, {}) []).run {} Sample.later).1.sameEnd
  rw [same.result, same.outline]
  have missing : (PublishedInterface.resolve ⟨"sample", "Party"⟩ {}).availability = .missing := by
    decide +kernel
  have compiled : (PublishedInterface.resolve ⟨"sample", "Party"⟩
      Sample.later.environment).availability = .compiled := by
    decide +kernel
  have first : (Sample.borrower.loaded {} {}).upstream
      = { Sample.borrower.upstream with index := some (Sample.partyIndex .missing) } := by
    simp only [loaded, Sample.load_borrower, missing]
  have before : ((Sample.borrower.loaded {} {}).upstream.load {} Sample.later.environment).1
      = .ok (Sample.partyIndex .missing) := by
    rw [first, Episode.Upstream.load_of_index]
  have new : (Sample.borrower.upstream.load {} Sample.later.environment).1
      = .ok (Sample.partyIndex .compiled) := by
    rw [Sample.load_borrower, compiled]
  obtain ⟨upstream, used⟩ := run_of_load before
  obtain ⟨upstream', fresh⟩ := run_of_load new
  rw [used, fresh]
  apply Sample.runWith_later_ne

end Generator

end GroupInterfaces
