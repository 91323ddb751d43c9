import GroupInterfaces.Proofs.Completion
import GroupInterfaces.Proofs.DocumentForms

/-!
# The order of what is nested

What is nested in the interfaces of an outline stands in the order of its keys. It does so in every
outline that is read, whatever the order it is written in, and every run that succeeds keeps it so:
the interfaces that a run declares have nothing nested in them but those of the builders.
-/

namespace GroupInterfaces

/-! ### What is read from something -/

section

variable {α : Type} {f : Scope → Json → Except DecodeError α} {s : Scope} {v : Json} {name : String}
  {a : α}

/-- Each entry of an object that is read is read from something. -/
theorem decodeEntries_inv {es : List (String × α)} (h : decodeEntries f s v = .ok es) :
  ∀ e ∈ es, ∃ s v, f s v = .ok e.2
  := by
  cases v with
  | object members =>
      obtain ⟨inner, -, h⟩ := bind_inv h
      intro e mem
      obtain ⟨member, -, each⟩ := mapM_inv h e mem
      obtain ⟨a, read, same⟩ := bind_inv each
      cases same
      exact ⟨inner, member.2, read⟩
  | null | bool | natural | numeral | string | array | unreadable => cases h

theorem decode_map_inv [Decodable α] {m : SortedMap String α} (h : decode s v = .ok m)
    (found : m.get? name = some a) :
  ∃ s v, decode s v = .ok a
  := by
  obtain ⟨es, read, rfl⟩ := map_inv h
  rw [SortedMap.get?_ofList] at found
  obtain ⟨e, last, rfl⟩ := Option.map_eq_some_iff.mp found
  apply decodeEntries_inv read e
  apply List.mem_reverse.mp (List.mem_of_find?_eq_some last)

/-- A field is read from something, or is that of a record that does not give it. -/
theorem getWith_inv {fields : Fields} {absent : Except DecodeError α}
    (h : fields.getWith f name absent = .ok a) :
  (∃ s v, f s v = .ok a) ∨ absent = .ok a
  := by
  rw [Fields.getWith] at h
  split at h
  · next v _ => apply Or.inl ⟨fields.scope, v, h⟩
  · apply Or.inr h

end

/-! ### Outlines that are read -/

namespace InterfaceDecl

/-- What is nested is put in order while it is read. -/
theorem inOrder_foldl_insert {entries before : List (String × InterfaceDecl)}
    (ascending : Entries.Ascending before) (nested : ∀ e ∈ before, e.2.InOrder)
    (h : ∀ e ∈ entries, e.2.InOrder) (name package doc : String) (methods : List Method)
    (supertypes : List TypeRef) :
  (mk name package doc methods supertypes
    (entries.foldl (fun entries (key, d) => Entries.insert key d entries) before)).InOrder
  := by
  induction entries generalizing before with
  | nil =>
      constructor
      · apply ascending
      · apply nested
  | cons e entries ih =>
      obtain ⟨first, others⟩ := List.forall_mem_cons.mp h
      apply ih _ _ others
      · apply Entries.ascending_insert _ _ ascending
      · intro e' mem
        rcases Entries.key_mem_insert mem with rfl | mem
        · apply first
        · apply nested e' mem

theorem inOrder_of_decodeWithin {fuel : Nat} {s : Scope} {v : Json} {d : InterfaceDecl}
    (h : decodeWithin fuel s v = .ok d) :
  d.InOrder
  := by
  induction fuel generalizing s v d with
  | zero => cases h
  | succ fuel ih =>
      obtain ⟨fields, -, h⟩ := bind_inv h
      obtain ⟨name, -, h⟩ := bind_inv h
      obtain ⟨package, -, h⟩ := bind_inv h
      obtain ⟨doc, -, h⟩ := bind_inv h
      obtain ⟨methods, -, h⟩ := bind_inv h
      obtain ⟨supertypes, -, h⟩ := bind_inv h
      obtain ⟨entries, read, h⟩ := bind_inv h
      cases h
      apply inOrder_foldl_insert Entries.ascending_nil (List.forall_mem_nil _)
      intro e mem
      rcases getWith_inv read with ⟨s, v, read⟩ | absent
      · obtain ⟨s, v, read⟩ := decodeEntries_inv read e mem
        apply ih read
      · cases absent
        cases mem

end InterfaceDecl

theorem Slot.inOrder_of_decode {s : Scope} {v : Json} {d : InterfaceDecl}
    (h : decode s v = .ok (Slot.interface d)) :
  d.InOrder
  := by
  obtain ⟨variant, -, h⟩ := bind_inv h
  split at h
  · obtain ⟨fields, -, h⟩ := bind_inv h
    obtain ⟨name, -, h⟩ := bind_inv h
    cases h
  · obtain ⟨d', payload, same⟩ := map_inv h
    cases same
    rw [Variant.decodePayload] at payload
    split at payload
    · apply InterfaceDecl.inOrder_of_decodeWithin payload
    · cases payload

theorem Package.inOrder_of_decode {s : Scope} {v : Json} {p : Package}
    (h : decode s v = .ok p) {name : String} {d : InterfaceDecl}
    (found : p.types.get? name = some (.interface d)) :
  d.InOrder
  := by
  obtain ⟨fields, -, h⟩ := bind_inv h
  obtain ⟨_, -, h⟩ := bind_inv h
  obtain ⟨space, -, h⟩ := bind_inv h
  obtain ⟨types, read, h⟩ := bind_inv h
  obtain ⟨objectFactory, -, h⟩ := bind_inv h
  cases h
  rcases getWith_inv read with ⟨s, v, read⟩ | absent
  · obtain ⟨s, v, read⟩ := decode_map_inv read found
    apply Slot.inOrder_of_decode read
  · cases absent
    cases found

/-- Outlines are read in order. -/
theorem Outline.inOrder_of_decode {s : Scope} {v : Json} {o : Outline} (h : decode s v = .ok o) :
  o.InOrder
  := by
  obtain ⟨fields, -, h⟩ := bind_inv h
  obtain ⟨packages, read, h⟩ := bind_inv h
  obtain ⟨classes, -, h⟩ := bind_inv h
  cases h
  intro t d found
  obtain ⟨p, package, found⟩ := Option.bind_eq_some_iff.mp found
  obtain ⟨slot, there, interface⟩ := Option.bind_eq_some_iff.mp found
  rcases getWith_inv read with ⟨s, v, read⟩ | absent
  · obtain ⟨s, v, read⟩ := decode_map_inv read package
    cases slot with
    | «class» name => cases interface
    | interface d' =>
        obtain rfl := Option.some.inj interface
        apply Package.inOrder_of_decode read there
  · cases absent
    cases package

theorem Input.inOrder_of_decode {s : Scope} {v : Json} {i : Input} (h : decode s v = .ok i) :
  i.outline.InOrder
  := by
  obtain ⟨fields, -, h⟩ := bind_inv h
  obtain ⟨schema, -, h⟩ := bind_inv h
  obtain ⟨outline, read, h⟩ := bind_inv h
  obtain ⟨environment, -, h⟩ := bind_inv h
  cases h
  rcases getWith_inv read with ⟨s, v, read⟩ | absent
  · apply Outline.inOrder_of_decode read
  · cases absent
    intro t d found
    cases found

/-! ### Steps that keep the order -/

namespace InterfaceDecl

variable {d : InterfaceDecl}

theorem inOrder_of_nested_eq_nil (h : d.nested = []) :
  d.InOrder
  := by
  constructor
  · rw [h]
    apply Entries.ascending_nil
  · rw [h]
    apply List.forall_mem_nil

namespace InOrder

variable (h : d.InOrder)
include h

/-- The order concerns what is nested only. -/
theorem of_nested_eq {d' : InterfaceDecl} (same : d'.nested = d.nested) :
  d'.InOrder
  := by
  obtain ⟨ascending, nested⟩ := h
  constructor
  · rw [same]
    apply ascending
  · rw [same]
    apply nested

theorem nesting (key : String) :
  (d.nesting key).InOrder
  := by
  obtain ⟨ascending, nested⟩ := h
  constructor
  · apply Entries.ascending_insert _ _ ascending
  · intro e mem
    rcases Entries.key_mem_insert mem with rfl | mem
    · apply inOrder_of_nested_eq_nil rfl
    · apply nested e mem

theorem modifyNested {f : InterfaceDecl → InterfaceDecl} (keeps : ∀ {n}, n.InOrder → (f n).InOrder)
    (key : String) :
  (d.modifyNested key f).InOrder
  := by
  obtain ⟨ascending, nested⟩ := h
  constructor
  · apply Entries.ascending_modify _ _ ascending
  · intro e mem
    rcases Entries.mem_modify mem with mem | ⟨e', mem', rfl⟩
    · apply nested e mem
    · apply keeps (nested e' mem')

/-- Building the interface of a builder nests nothing in it. -/
theorem built (g : BuilderGenerator) (r : BuilderRequest) (interface : InterfaceDecl) :
  (g.built r interface d).InOrder
  := by
  cases g with
  | fluent =>
      apply h.of_nested_eq
      rw [BuilderGenerator.built, BuilderRequest.fluent, foldl_addSupertype_eq]
      rfl
  | notes taken => apply h

end InOrder

end InterfaceDecl

/-! ### Runs -/

namespace Outline.InOrder

variable {o o' : Outline} (h : o.InOrder)
include h

theorem declareNested {t : TypeRef} {key : String} (declared : o.declareNested t key = some o') :
  o'.InOrder
  := by
  intro u d found
  rw [interface?_declareNested declared] at found
  split at found
  · obtain ⟨d', there, rfl⟩ := Option.map_eq_some_iff.mp found
    apply (h t d' there).nesting
  · apply h u d found

theorem declareBuilders {name : String} {builders : BuilderOutlines}
    {is : List SynthesizedInterface} {result : Except Failure BuilderOutlines}
    (declared : o.declareBuilders name builders is = (result, o')) :
  o'.InOrder
  := by
  induction is generalizing o builders with
  | nil =>
      cases declared
      apply h
  | cons i is ih =>
      simp only [Outline.declareBuilders] at declared
      split at declared
      · cases declared
        apply h
      · next step => apply ih (h.declareNested step) declared

theorem build {g g' : BuilderGenerator} {r : BuilderRequest} (built : g.build o r = (.ok o', g')) :
  o'.InOrder
  := by
  intro u d found
  rw [BuilderGenerator.interface?_build built] at found
  split at found
  · obtain ⟨d', there, rfl⟩ := Option.map_eq_some_iff.mp found
    apply (h _ d' there).modifyNested
    intro n inOrder
    apply inOrder.built
  · apply h u d found

theorem buildAll (g : BuilderGenerator) (builders : BuilderOutlines) (associations : Associations)
    (options : BuilderOptions) (bs : List BuilderOutline) :
  (g.buildAll builders associations options o bs).outline.InOrder
  := by
  induction bs generalizing g o with
  | nil => apply h
  | cons b bs ih =>
      simp only [BuilderGenerator.buildAll]
      split
      · apply h
      · next built => apply ih (h.build built)

end Outline.InOrder

theorem Report.Built.inOrder {s : Settings} {g : BuilderGenerator} {r : Report} {o o' : Outline}
    (h : r.Built s g o o') (before : o.InOrder) :
  o'.InOrder
  := by
  cases h with
  | none _ _ => apply before
  | all _ declared _ => apply (before.declareBuilders declared).buildAll

namespace Generator

variable {g : Generator} {store : FileStore} {input : Input} {r : Report}

/-- A run that succeeds leaves everything in order. -/
theorem inOrder_of_result_run (h : (g.run store input).result = .ok r)
    (inOrder : input.outline.InOrder) :
  (g.run store input).outline.InOrder
  := by
  obtain ⟨index, o, -, -, settled, built⟩ := exists_settled_of_result_run h
  -- Before builders, an interface is either one of the run, with nothing nested in it, or one that
  -- was there before.
  have before : o.InOrder := by
    intro t d found
    rw [Outline.interface?_eq] at found
    by_cases own : ∃ d ∈ input.schema.pending index, input.outline.place? d = some t
    · obtain ⟨e, mem, place⟩ := own
      rw [settled.declared e mem place] at found
      cases linked : input.outline.linkedFor? g.settings input.schema index e with
      | none =>
          rw [linked] at found
          cases found
      | some d' =>
          rw [linked] at found
          obtain rfl : d' = d := Option.some.inj found
          obtain ⟨c, p, -, -, rfl⟩ := Outline.linkedFor?_inv linked
          apply InterfaceDecl.inOrder_of_nested_eq_nil rfl
    · rw [settled.kept fun d mem place => own ⟨d, mem, place⟩, ← Outline.interface?_eq] at found
      apply inOrder t d found
  apply built.inOrder before

end Generator

end GroupInterfaces
