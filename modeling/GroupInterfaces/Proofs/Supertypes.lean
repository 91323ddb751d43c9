import GroupInterfaces.Proofs.Environments
import GroupInterfaces.Proofs.Hierarchy
import GroupInterfaces.Proofs.Implementations
import GroupInterfaces.Proofs.Reuse

/-!
# What interfaces extend

The interface of a group is declared to extend the types for the groups that its own group refers
to, in the order of the references and once each. A report has the same types in the same order,
unless the upstream episode publishes a type that the run makes again. This holds for generators
that were used before as well, since an upstream episode is loaded in a single environment.
-/

namespace GroupInterfaces

/-! ### Environments of upstream episodes -/

namespace Episode.Upstream

variable {u : Upstream} {store : FileStore} {environment : Environment}

/-- The index was loaded in some environment, if it is loaded. -/
def Stamped (u : Upstream) : Prop := ∀ index ∈ u.index, ∃ e, index.IsWithin e

theorem Stamped.of_fresh (fresh : u.index = none) :
  u.Stamped
  := by
  intro index mem
  rw [fresh] at mem
  cases mem

/-- Loading gives an index in some environment, and keeps the index that it gives. -/
theorem Stamped.load (h : u.Stamped) (store : FileStore) (environment : Environment) :
  (∀ index, (u.load store environment).1 = .ok index → ∃ e, index.IsWithin e)
    ∧ (u.load store environment).2.Stamped
  := by
  cases found : u.index with
  | some index =>
      have kept : u.load store environment = (.ok index, u) := by simp only [Upstream.load, found]
      rw [kept]
      refine ⟨?_, h⟩
      rintro _ ⟨⟩
      apply h index found
  | none =>
      cases readBack : u.bindings store with
      | error e =>
          rw [load_of_error found readBack]
          refine ⟨?_, h⟩
          rintro index ⟨⟩
      | ok bindings =>
          have within : ∃ e, (Index.ofBindings bindings environment).IsWithin e :=
            ⟨environment, Index.within_ofBindings bindings environment environment⟩
          rw [load_of_bindings found readBack]
          constructor
          · rintro _ ⟨⟩
            apply within
          · rintro _ ⟨⟩
            apply within

end Episode.Upstream

/-- Runs leave the upstream episode unloaded, or loaded in one environment. -/
theorem Generator.stamped_behind {g : Generator} (h : g.upstream.Stamped)
    (calls : List (FileStore × Input)) :
  (g.behind calls).upstream.Stamped
  := by
  induction calls generalizing g with
  | nil => apply h
  | cons call calls ih =>
      apply ih
      rw [((Alike.refl g).run call.1 call.2).2.upstream]
      apply (h.load call.1 call.2.environment).2

/-! ### Types for groups -/

/-- The type that stands for a group of a kind: that of the interface which the run has made for
it, else the one that is published, whether it is compiled or not. -/
def Report.typeFor? (r : Report) (index : Episode.Index) (kind : GroupKind) (group : QName) :
    Option TypeRef :=
  (((r.interfaceSet kind).get? group).map (·.typeRef)).or ((index.get? group).map (·.typeRef))

/-- No interface of the run has a type that is published. -/
def Report.Apart (r : Report) (index : Episode.Index) : Prop :=
  ∀ group p, index.get? group = some p → ∀ i ∈ r.interfaces, p.typeRef ≠ i.typeRef

/-- Each interface of a kind is declared to extend the types for the groups that its group refers
to, in order and once each. If no published type is made again, these are the types that it
extends by the report. -/
def Report.Linked (r : Report) (index : Episode.Index) (o : Outline) : Prop :=
  ∀ kind group i, (r.interfaceSet kind).get? group = some i →
    ∃ d, o.interface? i.typeRef = some d
      ∧ d.supertypes
        = (i.declaration.groupStructure.groupRefs.filterMap (r.typeFor? index kind)).eraseDups
      ∧ (r.Apart index → i.supertypes.map Supertype.typeRef = d.supertypes)

theorem Report.map_typeRef_supertypes (r : Report) (index : Episode.Index) (kind : GroupKind)
    (d : GroupDecl) :
  (d.supertypes (r.interfaceSet kind) index).map Supertype.typeRef
    = d.groupStructure.groupRefs.filterMap (r.typeFor? index kind)
  := by
  rw [GroupDecl.supertypes, List.map_filterMap]
  apply List.filterMap_congr
  intro group _
  rw [supertype?, typeFor?]
  cases (r.interfaceSet kind).get? group with
  | some i => rfl
  | none =>
      rw [Option.map_map]
      rfl

/-- An interface to extend is one of the set, or is published. -/
theorem GroupDecl.mem_supertypes_inv {d : GroupDecl} {set : InterfaceSet} {index : Episode.Index}
    {s : Supertype} (mem : s ∈ d.supertypes set index) :
  (∃ group i, set.get? group = some i ∧ s = .synthesized i.typeRef)
    ∨ ∃ group p, index.get? group = some p ∧ s = .published p
  := by
  obtain ⟨group, -, answer⟩ := List.mem_filterMap.mp mem
  rw [supertype?] at answer
  split at answer
  · next i made => exact Or.inl ⟨group, i, made, (Option.some.inj answer).symm⟩
  · obtain ⟨p, published, rfl⟩ := Option.map_eq_some_iff.mp answer
    exact Or.inr ⟨group, p, published, rfl⟩

/-- The interfaces to extend are told apart by their types. -/
theorem Report.eq_of_typeRef {r : Report} {index : Episode.Index} {e : Environment}
    (within : index.IsWithin e) (apart : r.Apart index) {kind : GroupKind} {d : GroupDecl}
    {s s' : Supertype} (mem : s ∈ d.supertypes (r.interfaceSet kind) index)
    (mem' : s' ∈ d.supertypes (r.interfaceSet kind) index) (same : s.typeRef = s'.typeRef) :
  s = s'
  := by
  rcases GroupDecl.mem_supertypes_inv mem with ⟨_, i, made, rfl⟩ | ⟨_, p, published, rfl⟩
  · rcases GroupDecl.mem_supertypes_inv mem' with ⟨_, j, _, rfl⟩ | ⟨group, p, published, rfl⟩
    · apply congrArg Supertype.synthesized same
    · apply (apart group p published i (Report.mem_interfaces_iff.mpr ⟨_, _, made⟩) same.symm).elim
  · rcases GroupDecl.mem_supertypes_inv mem' with ⟨_, i, made, rfl⟩ | ⟨_, p', published', rfl⟩
    · apply (apart _ p published i (Report.mem_interfaces_iff.mpr ⟨_, _, made⟩) same).elim
    · -- What an index says of interfaces in its own environment is told by their types.
      apply congrArg Supertype.published
      rw [← within.eq_of_get? published, ← within.eq_of_get? published']
      apply congrArg (PublishedInterface.resolve · e) same

namespace Generator

variable {g : Generator} {store : FileStore} {input : Input} {index : Episode.Index} {r : Report}
  {outcome : Outcome}

theorem Completed.linked (h : Completed g input index r outcome) {e : Environment}
    (within : index.IsWithin e) :
  r.Linked index outcome.outline
  := by
  intro kind group i found
  have mem : i ∈ r.interfaces := Report.mem_interfaces_iff.mpr ⟨kind, group, found⟩
  have kinds : i.declaration.kind = kind := by
    obtain ⟨d, declared, -, j, interface, rfl⟩ := h.get?_interfaceSet_eq_some_iff.mp found
    change j.declaration.kind = kind
    rw [Outline.declaration_of_interfaceFor? interface]
    apply SchemaSet.kind_of_mem_unpublished declared
  obtain ⟨d, declared, supertypes⟩ := h.exists_interface?_supertypes mem
  rw [kinds] at supertypes
  refine ⟨d, declared, ?_, ?_⟩
  · rw [supertypes, foldl_addNew_nil, Report.map_typeRef_supertypes]
  · intro apart
    rw [h.supertypes_eq mem, kinds, supertypes]
    apply map_foldl_addNew
    intro s mem s' mem' same
    apply Report.eq_of_typeRef within apart mem mem' same

/-- A run that succeeds declares each of its interfaces to extend the types for the groups that its
group refers to, whatever the generator was used for before. -/
theorem linked_of_result_run (fresh : g.upstream.index = none) (calls : List (FileStore × Input))
    (h : ((g.behind calls).run store input).result = .ok r) :
  ∃ index, ((g.behind calls).upstream.load store input.environment).1 = .ok index
    ∧ r.Linked index ((g.behind calls).run store input).outline
  := by
  obtain ⟨index, load, completed⟩ := completed_of_result_run h
  have stamped := stamped_behind (Episode.Upstream.Stamped.of_fresh fresh) calls
  obtain ⟨e, within⟩ := (stamped.load store input.environment).1 index load
  exact ⟨index, load, completed.linked within⟩

end Generator

namespace Sample

/-- A model group that refers twice to the published one, once to one of the same run, and once to
one that is not known. -/
def offer : ModelGroupDecl where
  name := { space := "urn:sample", localName := "offer" }
  group :=
    { particles :=
        [.groupRef {} party.name, .groupRef {} deal.name, .groupRef {} party.name,
          .groupRef {} { space := "urn:sample", localName := "unknown" }] }

/-- Its placeholder. -/
def offerClass : GeneratedClass where
  package := "sample"
  name := "Offer"
  component := .group offer.name

/-- What a run for the model groups that refer to the published one works on. -/
def offerInput : Input where
  schema := { modelGroups := [deal, offer] }
  outline :=
    { packages := .ofList
        [("sample",
          { name := "sample", space := some "urn:sample"
            types := .ofList
              [("Deal", .class "sample.Deal"), ("Offer", .class "sample.Offer")] })]
      classes := .ofList [("sample.Deal", dealClass), ("sample.Offer", offerClass)] }

/-- The generator with the episode loaded where its interface is missing. -/
def offering : Generator :=
  { borrower with upstream := { borrower.upstream with index := some (partyIndex .missing) } }

theorem load_offer :
  borrower.upstream.load {} {} = (.ok (partyIndex .missing), offering.upstream)
  := by
  have missing : (PublishedInterface.resolve ⟨"sample", "Party"⟩ {}).availability = .missing := by
    decide +kernel
  have load := load_borrower {}
  simp only [missing] at load
  exact load

theorem run_offer :
  borrower.run {} offerInput = offering.runWith offerInput (partyIndex .missing)
  := by
  have empty : offerInput.environment = {} := rfl
  rw [Generator.run, empty, load_offer]
  rfl

theorem types_offer :
  (offering.runWith offerInput (partyIndex .missing)).result.toOption.map
      (fun r => r.interfaces.map (·.typeRef))
    = some [⟨"sample", "Deal"⟩, ⟨"sample", "Offer"⟩]
  := by
  decide +kernel

theorem supertypes_offer :
  ((offering.runWith offerInput (partyIndex .missing)).outline.interface?
      ⟨"sample", "Offer"⟩).map (·.supertypes)
    = some [⟨"sample", "Party"⟩, ⟨"sample", "Deal"⟩]
  := by
  decide +kernel

end Sample

/-- In the sample, the interface extends the published one, which is not compiled, and that of the
same run. The published type is not made again. -/
theorem Generator.linked_sample :
  ∃ r, (Sample.borrower.run {} Sample.offerInput).result = .ok r
    ∧ (∃ index, r.Linked index (Sample.borrower.run {} Sample.offerInput).outline
      ∧ r.Apart index)
    ∧ ((Sample.borrower.run {} Sample.offerInput).outline.interface? ⟨"sample", "Offer"⟩).map
        (·.supertypes)
      = some [⟨"sample", "Party"⟩, ⟨"sample", "Deal"⟩]
  := by
  have made := Sample.types_offer
  have extended := Sample.supertypes_offer
  rw [← Sample.run_offer] at made extended
  cases ok : (Sample.borrower.run {} Sample.offerInput).result with
  | error f =>
      rw [ok] at made
      cases made
  | ok r =>
      obtain ⟨index, load, linked⟩ := linked_of_result_run (g := Sample.borrower) rfl [] ok
      have empty : Sample.offerInput.environment = {} := rfl
      rw [behind, List.foldl_nil, empty, Sample.load_offer] at load
      obtain rfl := Except.ok.inj load
      refine ⟨r, rfl, ⟨_, linked, ?_⟩, extended⟩
      intro group p published i mem same
      rw [Sample.partyIndex, SortedMap.get?_ofList] at published
      obtain ⟨e, found, rfl⟩ := Option.map_eq_some_iff.mp published
      obtain rfl := List.mem_singleton.mp (List.mem_of_find?_eq_some found)
      rw [ok] at made
      have types : r.interfaces.map (·.typeRef) = [⟨"sample", "Deal"⟩, ⟨"sample", "Offer"⟩] :=
        Option.some.inj made
      have type := List.mem_map_of_mem (f := (·.typeRef)) mem
      rw [types, ← same] at type
      revert type
      decide

end GroupInterfaces
