import GroupInterfaces.Proofs.Builders

/-!
# What is nested in interfaces

Declaring the interface of a builder nests an interface without members in the interface that the
builder is for. A generator of builders then changes that nested interface and nothing else. What
is nested in an interface behind a run is thus told by the one builder that the interface has.
-/

namespace GroupInterfaces

theorem Entries.modify_id {κ : Type u} {α : Type v} [Ord κ] (k : κ) (entries : List (κ × α)) :
  modify k id entries = entries
  := by
  induction entries with
  | nil => rfl
  | cons e rest ih =>
      rw [modify]
      split
      · rfl
      · rw [ih]

namespace InterfaceDecl

/-- The interface with one more nested in it, which has no members yet. -/
def nesting (d : InterfaceDecl) (key : String) : InterfaceDecl :=
  d.withNested (Entries.insert key (.new d.package (d.name ++ "." ++ key)) d.nested)

theorem modifyNested_id (d : InterfaceDecl) (key : String) :
  d.modifyNested key id = d
  := by
  rw [modifyNested, Entries.modify_id]
  cases d with
  | mk name package doc methods supertypes nested => rfl

theorem nested?_modifyNested (d : InterfaceDecl) (key : String)
    (f : InterfaceDecl → InterfaceDecl) :
  (d.modifyNested key f).nested? key = (d.nested? key).map f
  := (Entries.get?_modify key key f d.nested).trans (if_pos Std.ReflCmp.compare_self)

theorem nested?_nesting (d : InterfaceDecl) (key : String) :
  (d.nesting key).nested? key = some (.new d.package (d.name ++ "." ++ key))
  := (Entries.get?_insert key key _ d.nested).trans (if_pos Std.ReflCmp.compare_self)

end InterfaceDecl

/-! ### Declaring the interfaces of builders -/

namespace Outline

variable {o o' : Outline} {t : TypeRef} {key name : String} {is : List SynthesizedInterface}
  {builders builders' : BuilderOutlines} {result : Except Failure BuilderOutlines}

theorem interface?_declareNested (h : o.declareNested t key = some o') (u : TypeRef) :
  o'.interface? u = if u = t then (o.interface? t).map (·.nesting key) else o.interface? u
  := by
  obtain ⟨d, found, -, rfl⟩ := declareNested_inv h
  rw [interface?_modifyInterface, found]
  rfl

theorem sameFrame_declareNested (h : o.declareNested t key = some o') :
  SameFrame o o'
  := by
  obtain ⟨d, found, -, rfl⟩ := declareNested_inv h
  apply sameFrame_modifyInterface

theorem sameFrame_declareBuilders (h : o.declareBuilders name builders is = (result, o')) :
  SameFrame o o'
  := declareBuilders_rel SameFrame.refl SameFrame.trans sameFrame_declareNested h

/-- Where the interfaces of all builders can be declared, the first one can. -/
theorem declareBuilders_cons_inv {i : SynthesizedInterface}
    (h : o.declareBuilders name builders (i :: is) = (.ok builders', o')) :
  ∃ o₁, o.declareNested i.typeRef name = some o₁
    ∧ o₁.declareBuilders name (builders.insert i.typeRef.qualifiedName (.ofInterface name i)) is
      = (.ok builders', o')
  := by
  simp only [declareBuilders] at h
  cases step : o.declareNested i.typeRef name with
  | none =>
      rw [step] at h
      cases h
  | some o₁ =>
      rw [step] at h
      use o₁, rfl

/-- The builders are those of the interfaces, each under the qualified name of its interface. A
later interface with the same qualified name replaces the builder of an earlier one. -/
theorem builders_of_declareBuilders
    (h : o.declareBuilders name builders is = (.ok builders', o')) :
  builders' = (is.map fun i => (i.typeRef.qualifiedName, BuilderOutline.ofInterface name i)).foldl
    (fun m e => m.insert e.1 e.2) builders
  := by
  induction is generalizing o builders with
  | nil =>
      obtain ⟨same, -⟩ := Prod.mk.inj h
      apply (Except.ok.inj same).symm
  | cons i is ih =>
      obtain ⟨o₁, -, rest⟩ := declareBuilders_cons_inv h
      apply ih rest

theorem interface?_declareBuilders_of_forall_ne
    (h : o.declareBuilders name builders is = (.ok builders', o'))
    (apart : ∀ i ∈ is, i.typeRef ≠ t) :
  o'.interface? t = o.interface? t
  := by
  induction is generalizing o builders with
  | nil =>
      obtain ⟨-, rfl⟩ := Prod.mk.inj h
      rfl
  | cons i is ih =>
      obtain ⟨o₁, step, rest⟩ := declareBuilders_cons_inv h
      rw [ih rest fun j mem => apart j (List.mem_cons_of_mem i mem),
        interface?_declareNested step, if_neg (apart i List.mem_cons_self).symm]

/-- In each of several interfaces of their own, the interface of its builder is nested. -/
theorem interface?_declareBuilders (distinct : (is.map (·.typeRef)).Nodup)
    (h : o.declareBuilders name builders is = (.ok builders', o')) {i : SynthesizedInterface}
    (mem : i ∈ is) :
  o'.interface? i.typeRef = (o.interface? i.typeRef).map (·.nesting name)
  := by
  induction is generalizing o builders with
  | nil => cases mem
  | cons j is ih =>
      rw [List.map_cons, List.nodup_cons] at distinct
      obtain ⟨fresh, distinct⟩ := distinct
      obtain ⟨o₁, step, rest⟩ := declareBuilders_cons_inv h
      rcases List.mem_cons.mp mem with rfl | mem
      · have others : ∀ j ∈ is, j.typeRef ≠ i.typeRef := fun j => key_ne_of_notMem_map fresh
        rw [interface?_declareBuilders_of_forall_ne rest others, interface?_declareNested step,
          if_pos rfl]
      · have apart : i.typeRef ≠ j.typeRef := key_ne_of_notMem_map fresh mem
        rw [ih distinct rest mem, interface?_declareNested step, if_neg apart]

end Outline

/-! ### Building -/

/-- The interface of a fluent builder, for an interface with accessors. -/
def BuilderRequest.fluent (r : BuilderRequest) (interface nested : InterfaceDecl) :
    InterfaceDecl :=
  r.superBuilders.foldl InterfaceDecl.addSupertype <| nested.addMethods <|
    r.builder.fields.filterMap (fluentMethod? interface r.builder.builderType.qualifiedName)

namespace BuilderGenerator

/-- What a generator makes of the interface of a builder. -/
def built : BuilderGenerator → BuilderRequest → InterfaceDecl → InterfaceDecl → InterfaceDecl
  | .fluent, r => r.fluent
  | .notes _, _ => fun _ => id

variable {g g' : BuilderGenerator} {o o' : Outline} {r : BuilderRequest}

theorem built_build (h : g.build o r = (.ok o', g')) :
  g'.built = g.built
  := by
  cases g with
  | fluent => rw [← (Prod.mk.inj h).2]
  | notes taken =>
      rw [← (Prod.mk.inj h).2]
      rfl

theorem sameFrame_build (h : g.build o r = (.ok o', g')) :
  o.SameFrame o'
  := by
  cases g with
  | fluent =>
      have ok := (Prod.mk.inj h).1
      simp only [Outline.buildFluent] at ok
      split at ok
      · cases ok
      · split at ok
        · cases ok
        · cases ok
          apply Outline.sameFrame_modifyInterface
  | notes taken =>
      have ok := (Prod.mk.inj h).1
      split at ok
      · cases ok
      · cases ok
        apply Outline.SameFrame.refl

/-- Building changes the interface of the builder and no other. -/
theorem interface?_build (h : g.build o r = (.ok o', g')) (t : TypeRef) :
  o'.interface? t
    = if t = r.builder.interface
      then (o.interface? t).map fun d => d.modifyNested r.builder.builderName (g.built r d)
      else o.interface? t
  := by
  cases g with
  | fluent =>
      have ok := (Prod.mk.inj h).1
      simp only [Outline.buildFluent] at ok
      split at ok
      · cases ok
      · next d found =>
          split at ok
          · cases ok
          · obtain rfl := Except.ok.inj ok
            rw [Outline.interface?_modifyInterface]
            split
            · next here =>
                rw [here, found]
                rfl
            · rfl
  | notes taken =>
      have same : o' = o := by
        have ok := (Prod.mk.inj h).1
        split at ok
        · cases ok
        · apply (Except.ok.inj ok).symm
      rw [same]
      cases o.interface? t with
      | none => simp
      | some d => simp [built, d.modifyNested_id]

variable (builders : BuilderOutlines) (associations : Associations) (options : BuilderOptions)

theorem sameFrame_buildAll (g : BuilderGenerator) (o : Outline) (bs : List BuilderOutline) :
  o.SameFrame (g.buildAll builders associations options o bs).outline
  := by
  induction bs generalizing g o with
  | nil => apply Outline.SameFrame.refl
  | cons b bs ih =>
      simp only [buildAll]
      split
      · apply Outline.SameFrame.refl
      · next step => apply (sameFrame_build step).trans (ih _ _)

theorem interface?_buildAll_of_forall_ne {t : TypeRef} {bs : List BuilderOutline}
    (h : ∀ b ∈ bs, b.interface ≠ t) :
  (g.buildAll builders associations options o bs).outline.interface? t = o.interface? t
  := by
  induction bs generalizing g o with
  | nil => rfl
  | cons b bs ih =>
      simp only [buildAll]
      split
      · rfl
      · next step =>
          rw [ih fun b' mem => h b' (List.mem_cons_of_mem b mem), interface?_build step,
            if_neg (h b List.mem_cons_self).symm]

/-- Of builders for different interfaces, each is built in its own interface. -/
theorem interface?_buildAll {bs : List BuilderOutline}
    (ok : (g.buildAll builders associations options o bs).failure = none)
    (distinct : (bs.map (·.interface)).Nodup) {b : BuilderOutline} (mem : b ∈ bs) :
  (g.buildAll builders associations options o bs).outline.interface? b.interface
    = (o.interface? b.interface).map fun d => d.modifyNested b.builderName
        (g.built { builder := b, builders, associations, options } d)
  := by
  induction bs generalizing g o with
  | nil => cases mem
  | cons first bs ih =>
      rw [List.map_cons, List.nodup_cons] at distinct
      obtain ⟨fresh, distinct⟩ := distinct
      simp only [buildAll] at ok ⊢
      split at ok
      · cases ok
      · next g' o₁ step =>
          rcases List.mem_cons.mp mem with rfl | mem
          · have others : ∀ b' ∈ bs, b'.interface ≠ b.interface :=
              fun b' => key_ne_of_notMem_map fresh
            rw [interface?_buildAll_of_forall_ne _ _ _ others, interface?_build step, if_pos rfl]
          · have apart : b.interface ≠ first.interface := key_ne_of_notMem_map fresh mem
            rw [ih ok distinct mem, interface?_build step, if_neg apart, built_build step]

end BuilderGenerator

end GroupInterfaces
