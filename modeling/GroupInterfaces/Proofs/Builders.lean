import GroupInterfaces.Builder.Generator
import GroupInterfaces.Proofs.Slots

/-!
# What builders do

Whatever is declared for builders is nested in interfaces, and all else stays as it is. The
interface of a builder can be declared as long as the name for it is free, and fluent builders
find everything that they ask for once the interfaces of all builders are declared.
-/

namespace GroupInterfaces

/-- The declaration of an interface without what is nested in it. -/
def InterfaceDecl.unnested (d : InterfaceDecl) : InterfaceDecl := d.withNested []

namespace Outline

/-- The outlines have the same classes and slots, except for what is nested in interfaces. -/
structure SameButNested (o o' : Outline) : Prop where
  classes : o'.classes = o.classes
  slots : ∀ t, (o'.slot? t).map (Slot.mapInterface .unnested)
    = (o.slot? t).map (Slot.mapInterface .unnested)

variable {o o' : Outline} {t : TypeRef} {key name : String}

theorem SameButNested.refl (o : Outline) :
  SameButNested o o
  where
  classes := rfl
  slots _ := rfl

theorem SameButNested.trans {o₁ o₂ o₃ : Outline} (h : SameButNested o₁ o₂)
    (h' : SameButNested o₂ o₃) :
  SameButNested o₁ o₃
  where
  classes := h'.classes.trans h.classes
  slots t := (h'.slots t).trans (h.slots t)

/-- The interfaces are the same except for what is nested in them. -/
theorem SameButNested.interface? (h : SameButNested o o') (t : TypeRef) :
  (o'.interface? t).map InterfaceDecl.unnested = (o.interface? t).map InterfaceDecl.unnested
  := by
  have unnested : ∀ slot : Option Slot,
      (slot.bind Slot.interface?).map InterfaceDecl.unnested
        = (slot.map (Slot.mapInterface .unnested)).bind Slot.interface? := by
    intro slot
    cases slot with
    | none => rfl
    | some slot =>
        cases slot with
        | «class» qualifiedName => rfl
        | interface d => rfl
  rw [interface?_eq, interface?_eq, unnested, unnested, h.slots]

theorem interface?_modifyInterface (o : Outline) (t u : TypeRef)
    (f : InterfaceDecl → InterfaceDecl) :
  (o.modifyInterface t f).interface? u
    = if u = t then (o.interface? t).map f else o.interface? u
  := by
  simp only [interface?_eq, slot?_modifyInterface]
  split
  · cases o.slot? t with
    | none => rfl
    | some slot =>
        cases slot with
        | «class» qualifiedName => rfl
        | interface d => rfl
  · rfl

/-- Changing what is nested in an interface changes nothing else. -/
theorem sameButNested_modifyInterface {f : InterfaceDecl → InterfaceDecl}
    (h : ∀ d, o.interface? t = some d → (f d).unnested = d.unnested) :
  SameButNested o (o.modifyInterface t f)
  where
  classes := rfl
  slots u := by
    rw [slot?_modifyInterface]
    split
    · next here =>
        rw [here]
        cases found : o.slot? t with
        | none => rfl
        | some slot =>
            cases slot with
            | «class» qualifiedName => rfl
            | interface d =>
                have same := h d (by rw [interface?_eq, found]; rfl)
                simp only [Option.map_some, Slot.mapInterface, same]
    · rfl

/-! ### Declaring the interfaces of builders -/

theorem declareNested_eq_some {d : InterfaceDecl} (found : o.interface? t = some d)
    (free : d.nested? key = none) :
  o.declareNested t key = some (o.modifyInterface t fun _ =>
    d.withNested (Entries.insert key (.new d.package (d.name ++ "." ++ key)) d.nested))
  := by
  simp [declareNested, found, InterfaceDecl.declareNested, free]

/-- An interface is nested in another one only if its name is free there, and then it is put under
that name and nothing else changes. -/
theorem declareNested_inv (h : o.declareNested t key = some o') :
  ∃ d, o.interface? t = some d ∧ d.nested? key = none ∧ o' = o.modifyInterface t fun _ =>
    d.withNested (Entries.insert key (.new d.package (d.name ++ "." ++ key)) d.nested)
  := by
  cases found : o.interface? t with
  | none => simp [declareNested, found] at h
  | some d =>
      cases free : d.nested? key with
      | none =>
          rw [declareNested_eq_some found free] at h
          use d, rfl, free, (Option.some.inj h).symm
      | some n => simp [declareNested, found, InterfaceDecl.declareNested, free] at h

theorem sameButNested_declareNested (h : o.declareNested t key = some o') :
  SameButNested o o'
  := by
  obtain ⟨d, found, -, rfl⟩ := declareNested_inv h
  apply sameButNested_modifyInterface
  intro d' found'
  obtain rfl := Option.some.inj (found.symm.trans found')
  rfl

/-- A builder whose interface is declared keeps it when another one is nested. -/
theorem isSome_declaration?_declareNested {b : BuilderOutline}
    (h : o.declareNested t key = some o') (declared : (b.declaration? o).isSome) :
  (b.declaration? o').isSome
  := by
  obtain ⟨d, found, -, rfl⟩ := declareNested_inv h
  simp only [BuilderOutline.declaration?, interface?_modifyInterface] at declared ⊢
  by_cases here : b.interface = t
  · rw [here, found] at declared
    rw [if_pos here, found]
    change (Entries.get? b.builderName (Entries.insert key _ d.nested)).isSome
    rw [Entries.get?_insert]
    split
    · rfl
    · apply declared
  · rw [if_neg here]
    apply declared

theorem isSome_declaration?_ofInterface {i : SynthesizedInterface}
    (h : o.declareNested i.typeRef name = some o') :
  ((BuilderOutline.ofInterface name i).declaration? o').isSome
  := by
  obtain ⟨d, found, -, rfl⟩ := declareNested_inv h
  simp only [BuilderOutline.declaration?, BuilderOutline.ofInterface,
    interface?_modifyInterface, if_pos, found]
  change (Entries.get? name (Entries.insert name _ d.nested)).isSome
  rw [Entries.get?_insert, if_pos Std.ReflCmp.compare_self]
  rfl

/-- What holds between outlines whenever one interface is nested, holds between those before and
behind the declaration of builders, whether or not it succeeds. -/
theorem declareBuilders_rel {R : Outline → Outline → Prop} (refl : ∀ o, R o o)
    (trans : ∀ {o₁ o₂ o₃}, R o₁ o₂ → R o₂ o₃ → R o₁ o₃)
    (nest : ∀ {o o' t}, o.declareNested t name = some o' → R o o') {builders : BuilderOutlines}
    {is : List SynthesizedInterface} {result : Except Failure BuilderOutlines}
    (h : o.declareBuilders name builders is = (result, o')) :
  R o o'
  := by
  induction is generalizing o builders with
  | nil =>
      obtain ⟨-, rfl⟩ := Prod.mk.inj h
      apply refl
  | cons i is ih =>
      simp only [declareBuilders] at h
      cases step : o.declareNested i.typeRef name with
      | none =>
          rw [step] at h
          obtain ⟨-, rfl⟩ := Prod.mk.inj h
          apply refl
      | some o₁ =>
          rw [step] at h
          apply trans (nest step) (ih h)

/-- Declaring interfaces of builders changes nothing but what is nested in interfaces, whether
or not it succeeds. -/
theorem sameButNested_declareBuilders {builders : BuilderOutlines}
    {is : List SynthesizedInterface} {result : Except Failure BuilderOutlines}
    (h : o.declareBuilders name builders is = (result, o')) :
  SameButNested o o'
  := declareBuilders_rel SameButNested.refl SameButNested.trans sameButNested_declareNested h

/-- In interfaces of their own with nothing nested in them, the interfaces of all builders can
be declared. -/
theorem declareBuilders_eq_ok (name : String) {builders : BuilderOutlines}
    {is : List SynthesizedInterface} (distinct : (is.map (·.typeRef)).Nodup)
    (fresh : ∀ i ∈ is, ∃ d, o.interface? i.typeRef = some d ∧ d.nested = [])
    (declared : ∀ b ∈ builders.values, (b.declaration? o).isSome) :
  ∃ builders' o', o.declareBuilders name builders is = (.ok builders', o')
    ∧ ∀ b ∈ builders'.values, (b.declaration? o').isSome
  := by
  induction is generalizing o builders with
  | nil => use builders, o, rfl, declared
  | cons i is ih =>
      rw [List.map_cons, List.nodup_cons] at distinct
      obtain ⟨d, found, empty⟩ := fresh i List.mem_cons_self
      have free : d.nested? name = none := by
        rw [InterfaceDecl.nested?, empty]
        rfl
      have step := declareNested_eq_some found free
      simp only [declareBuilders, step]
      apply ih distinct.2
      · intro j mem
        have apart : j.typeRef ≠ i.typeRef := key_ne_of_notMem_map distinct.1 mem
        rw [interface?_modifyInterface, if_neg apart]
        apply fresh j (List.mem_cons_of_mem i mem)
      · intro b mem
        obtain ⟨k, found'⟩ := SortedMap.mem_values_iff.mp mem
        rw [SortedMap.get?_insert_key] at found'
        split at found'
        · obtain rfl := Option.some.inj found'
          apply isSome_declaration?_ofInterface step
        · apply isSome_declaration?_declareNested step
          apply declared b (SortedMap.mem_values_iff.mpr ⟨k, found'⟩)

/-! ### Building -/

theorem unnested_modifyNested (d : InterfaceDecl) (f : InterfaceDecl → InterfaceDecl) :
  (d.modifyNested key f).unnested = d.unnested
  := rfl

/-- Changing what is nested somewhere, every builder keeps the declaration of its interface. -/
theorem isSome_declaration?_modifyNested (o : Outline) (t : TypeRef)
    (f : InterfaceDecl → InterfaceDecl) (b : BuilderOutline) :
  (b.declaration? (o.modifyInterface t fun d => d.modifyNested key f)).isSome
    = (b.declaration? o).isSome
  := by
  simp only [BuilderOutline.declaration?, interface?_modifyInterface]
  split
  · next here =>
      rw [here]
      cases o.interface? t with
      | none => rfl
      | some d =>
          change (Entries.get? b.builderName (Entries.modify key f d.nested)).isSome = _
          rw [Entries.get?_modify]
          split
          · apply Option.isSome_map
          · rfl
  · rfl

/-- A fluent builder can be built exactly if its interface is declared. -/
theorem buildFluent_eq_ok {r : BuilderRequest} (h : (r.builder.declaration? o).isSome) :
  ∃ f, o.buildFluent r
    = .ok (o.modifyInterface r.builder.interface (·.modifyNested r.builder.builderName f))
  := by
  simp only [BuilderOutline.declaration?] at h
  cases found : o.interface? r.builder.interface with
  | none => simp [found] at h
  | some d =>
      cases nested : d.nested? r.builder.builderName with
      | none => simp [found, nested] at h
      | some n =>
          simp only [buildFluent, found, nested]
          exact ⟨_, rfl⟩

theorem sameButNested_buildFluent {r : BuilderRequest} (h : o.buildFluent r = .ok o') :
  SameButNested o o'
  := by
  simp only [buildFluent] at h
  split at h
  · cases h
  · split at h
    · cases h
    · cases h
      apply sameButNested_modifyInterface
      intro d _
      apply unnested_modifyNested

end Outline

namespace BuilderGenerator

variable (builders : BuilderOutlines) (associations : Associations) (options : BuilderOptions)

theorem sameButNested_build {g g' : BuilderGenerator} {o o' : Outline} {r : BuilderRequest}
    (h : g.build o r = (.ok o', g')) :
  o.SameButNested o'
  := by
  cases g with
  | fluent =>
      apply Outline.sameButNested_buildFluent
      apply (Prod.mk.inj h).1
  | notes taken =>
      have answer := (Prod.mk.inj h).1
      split at answer
      · cases answer
      · cases answer
        apply Outline.SameButNested.refl

/-- No generator of builders changes anything but what is nested in interfaces. -/
theorem sameButNested_buildAll (g : BuilderGenerator) (o : Outline)
    (bs : List BuilderOutline) :
  o.SameButNested (g.buildAll builders associations options o bs).outline
  := by
  induction bs generalizing g o with
  | nil => apply Outline.SameButNested.refl
  | cons b bs ih =>
      simp only [buildAll]
      split
      · apply Outline.SameButNested.refl
      · next step => apply (sameButNested_build step).trans (ih _ _)

/-- Fluent builders whose interfaces are declared can all be built. -/
theorem failure_buildAll_fluent {o : Outline} {bs : List BuilderOutline}
    (h : ∀ b ∈ bs, (b.declaration? o).isSome) :
  (fluent.buildAll builders associations options o bs).failure = none
  := by
  induction bs generalizing o with
  | nil => rfl
  | cons b bs ih =>
      obtain ⟨f, step⟩ := Outline.buildFluent_eq_ok
        (r := { builder := b, builders, associations, options }) (h b List.mem_cons_self)
      simp only [buildAll, build, step]
      apply ih
      intro b' mem
      rw [Outline.isSome_declaration?_modifyNested]
      apply h b' (List.mem_cons_of_mem b mem)

end BuilderGenerator

end GroupInterfaces
