import GroupInterfaces.Proofs.Reordering
import GroupInterfaces.Proofs.SideBySide

/-!
# Runs under other settings

Whether a run fails, and how, is the same under all settings. Where two runs differ in one of the
settings only, all else they come to is the same: without setters, interfaces lack the methods
with parameters; with vetoes, setters throw one; with builders wanted, one interface is nested in
each interface of the report, and the report lists the builders.
-/

namespace GroupInterfaces

/-! ### Interfaces without setters, with vetoes, and with builders -/

/-- The method as it is declared where a change may be vetoed. -/
def Method.vetoed (m : Method) : Method :=
  if m.params.length = 1 then { m with throws := [vetoException] } else m

namespace InterfaceDecl

/-- The declarations are the same except for their methods. -/
structure SameButMethods (d d' : InterfaceDecl) : Prop where
  name : d'.name = d.name
  package : d'.package = d.package
  doc : d'.doc = d.doc
  supertypes : d'.supertypes = d.supertypes
  nested : d'.nested = d.nested

/-- The second declaration has exactly those methods of the first one that have no parameters, in
order. -/
structure Readable (d d' : InterfaceDecl) : Prop where
  same : d.SameButMethods d'
  methods : d'.methods = d.methods.filter (·.params.isEmpty)

/-- The methods with one parameter throw nothing in the first declaration, and exactly the veto in
the second one. -/
structure Vetoed (d d' : InterfaceDecl) : Prop where
  same : d.SameButMethods d'
  throws : ∀ m ∈ d.methods, m.params.length = 1 → m.throws = []
  methods : d'.methods = d.methods.map Method.vetoed

/-- One interface is nested in the second declaration, and none in the first one. -/
structure NestsOne (key : String) (d d' : InterfaceDecl) : Prop where
  nested : d.nested = []
  nests : ∃ n, d' = d.withNested [(key, n)]

end InterfaceDecl

namespace GeneratedClass

variable (c : GeneratedClass) (s : Settings) (f : Field)

theorem setter_accessors :
  (c.accessors s f).setter
    = if s.immutable then none
      else (c.getter? f).bind fun _ => (c.setter? f).map (declaredSetter s)
  := by
  rw [accessors]
  cases c.getter? f with
  | none => simp
  | some getter => rfl

/-- Setters are the methods with a parameter, and getters are those without. -/
theorem filter_methods_accessors :
  (c.accessors s f).methods.filter (·.params.isEmpty) = (c.accessors s f).getter.toList
  := by
  have getter : (c.accessors s f).getter.toList.filter (·.params.isEmpty)
      = (c.accessors s f).getter.toList := by
    apply List.filter_eq_self.mpr
    intro m mem
    obtain ⟨⟨-, arity⟩, -⟩ := isGetterFor_of_getter_accessors (Option.mem_toList.mp mem)
    apply List.isEmpty_iff.mpr (List.length_eq_zero_iff.mp arity)
  have setter : (c.accessors s f).setter.toList.filter (·.params.isEmpty) = [] := by
    apply List.filter_eq_nil_iff.mpr
    intro m mem empty
    obtain ⟨⟨-, arity⟩, -⟩ := isSetterFor_of_setter_accessors (Option.mem_toList.mp mem)
    rw [List.isEmpty_iff.mp empty] at arity
    cases arity
  rw [Accessors.methods, List.filter_append, getter, setter, List.append_nil]

/-- Without setters there are the methods without parameters. -/
theorem methods_accessors_immutable :
  (c.accessors { s with immutable := true } f).methods
    = (c.accessors s f).methods.filter (·.params.isEmpty)
  := by
  rw [filter_methods_accessors, Accessors.methods, setter_accessors, if_pos rfl,
    c.getter_accessors_eq s]
  apply List.append_nil

/-- A declared method throws nothing where changes may not be vetoed. -/
theorem throws_eq_nil_of_mem_methods (silent : s.setterThrowsVeto = false) {m : Method}
    (mem : m ∈ (c.accessors s f).methods) :
  m.throws = []
  := by
  rcases List.mem_append.mp mem with get | set
  · rw [getter_accessors, Option.mem_toList] at get
    obtain ⟨getter, -, rfl⟩ := Option.map_eq_some_iff.mp get
    rfl
  · rw [setter_accessors, Option.mem_toList] at set
    split at set
    · cases set
    · obtain ⟨getter, -, set⟩ := Option.bind_eq_some_iff.mp set
      obtain ⟨setter, -, rfl⟩ := Option.map_eq_some_iff.mp set
      simp [declaredSetter, silent]

/-- With vetoes, setters throw one. -/
theorem methods_accessors_vetoed :
  (c.accessors { s with setterThrowsVeto := true } f).methods
    = (c.accessors s f).methods.map Method.vetoed
  := by
  have getter : ∀ m ∈ (c.accessors s f).getter.toList, m.vetoed = m := by
    intro m mem
    obtain ⟨⟨-, arity⟩, -⟩ := isGetterFor_of_getter_accessors (Option.mem_toList.mp mem)
    rw [Method.vetoed, if_neg]
    simp [arity]
  have setter : (c.accessors { s with setterThrowsVeto := true } f).setter
      = (c.accessors s f).setter.map Method.vetoed := by
    rw [setter_accessors, setter_accessors]
    cases s.immutable with
    | true => rfl
    | false =>
        cases c.getter? f with
        | none => rfl
        | some getter =>
            cases found : c.setter? f with
            | none => rfl
            | some setter =>
                obtain ⟨-, -, arity⟩ := eq_of_findMethod?_eq_some found
                simp [declaredSetter, Method.vetoed, arity]
  rw [Accessors.methods, Accessors.methods, List.map_append, List.map_congr_left getter,
    List.map_id', setter, Option.toList_map, c.getter_accessors_eq s]

end GeneratedClass

namespace InterfaceDecl.Counterpart

variable {s s' : Settings} {d d' : InterfaceDecl}

theorem sameButMethods (h : d.Counterpart s s' d') :
  d.SameButMethods d'
  := by
  cases h
  exact ⟨rfl, rfl, rfl, rfl, rfl⟩

theorem readable (h : d.Counterpart s { s with immutable := true } d') :
  d.Readable d'
  := by
  use h.sameButMethods
  cases h with
  | mk name package doc c fs supertypes nested =>
      simp only [methods, List.filter_flatMap, c.methods_accessors_immutable s]

theorem vetoed (silent : s.setterThrowsVeto = false)
    (h : d.Counterpart s { s with setterThrowsVeto := true } d') :
  d.Vetoed d'
  := by
  use h.sameButMethods
  · cases h with
    | mk name package doc c fs supertypes nested =>
        intro m mem _
        obtain ⟨f, -, mem⟩ := List.mem_flatMap.mp mem
        apply c.throws_eq_nil_of_mem_methods s f silent mem
  · cases h with
    | mk name package doc c fs supertypes nested =>
        simp only [methods, List.map_flatMap, c.methods_accessors_vetoed s]

/-- Whether builders are wanted makes no difference for accessors. -/
theorem eq_of_declare {declare : Bool}
    (h : d.Counterpart s { s with declareBuilderInterface := declare } d') :
  d' = d
  := by
  cases h with
  | mk name package doc c fs supertypes nested => rfl

end InterfaceDecl.Counterpart

/-- Outlines that differ in interfaces that are the same do not differ. -/
theorem Outline.DiffersAt.eq {R : InterfaceDecl → InterfaceDecl → Prop} {ts : List TypeRef}
    {o o' : Outline} (h : DiffersAt R ts o o') (same : ∀ d d', R d d' → d' = d) :
  o' = o
  := by
  apply eq_of_slot?_eq h.frame
  intro t
  rcases h.slots t with ⟨-, d, d', slot, slot', related⟩ | ⟨-, kept⟩
  · rw [slot, slot', same d d' related]
  · apply kept

/-! ### Builders -/

/-- The report with the builders of all its interfaces. -/
def Report.building (r : Report) (s : Settings) : Report :=
  { r with
    settings := s
    builders := .ofList (r.interfaces.map fun i =>
      (i.typeRef.qualifiedName, .ofInterface s.builderInterfaceName i)) }

theorem Outline.SameButNested.slot?_eq {o o' : Outline} {t : TypeRef} (h : SameButNested o o')
    (same : o'.interface? t = o.interface? t) :
  o'.slot? t = o.slot? t
  := by
  have slots := h.slots t
  rw [interface?_eq, interface?_eq] at same
  generalize o.slot? t = slot, o'.slot? t = slot' at slots same ⊢
  rcases slot with - | ⟨q | d⟩ <;> rcases slot' with - | ⟨q' | d'⟩
  all_goals simp_all [Slot.mapInterface, Slot.interface?]

theorem Outline.slot?_of_interface? {o : Outline} {t : TypeRef} {d : InterfaceDecl}
    (found : o.interface? t = some d) :
  o.slot? t = some (.interface d)
  := by
  rw [interface?_eq] at found
  obtain ⟨slot, here, content⟩ := Option.bind_eq_some_iff.mp found
  cases slot with
  | «class» qualifiedName => cases content
  | interface e => rw [here, Option.some.inj content]

/-- What is nested in an interface behind declaring and building one builder for it. -/
theorem InterfaceDecl.nestsOne {d : InterfaceDecl} (empty : d.nested = []) (key : String)
    (f : InterfaceDecl → InterfaceDecl) :
  d.NestsOne key ((d.nesting key).modifyNested key f)
  where
  nested := empty
  nests := by
    use f (.new d.package (d.name ++ "." ++ key))
    have here : compare key key = .eq := Std.ReflCmp.compare_self
    obtain ⟨name, package, doc, methods, supertypes, nested⟩ := d
    obtain rfl : nested = [] := empty
    simp only [nesting, modifyNested, withNested, InterfaceDecl.nested, Entries.insert,
      Entries.modify, here, if_true]
    rfl

/-- With builders, one interface is nested in each interface of a report, and nothing else is
different. -/
theorem Report.Built.differsAt {s : Settings} {g : BuilderGenerator} {r : Report} {o o' : Outline}
    (h : r.Built s g o o') (wanted : s.declareBuilderInterface = true)
    (distinct : (r.interfaces.map (·.typeRef)).Nodup)
    (fresh : ∀ i ∈ r.interfaces, ∃ d, o.interface? i.typeRef = some d ∧ d.nested = []) :
  Outline.DiffersAt (InterfaceDecl.NestsOne s.builderInterfaceName)
    (r.interfaces.map (·.typeRef)) o o'
  where
  frame := h.sameFrame
  changed t listed := by
    obtain ⟨i, mem, rfl⟩ := List.mem_map.mp listed
    obtain ⟨d, found, empty⟩ := fresh i mem
    obtain ⟨f, found', -⟩ := h.exists_modifyNested wanted distinct mem found
    exact ⟨d, _, Outline.slot?_of_interface? found, Outline.slot?_of_interface? found',
      InterfaceDecl.nestsOne empty _ f⟩
  kept t other := by
    have apart : ∀ i ∈ r.interfaces, i.typeRef ≠ t := by
      intro i mem same
      apply other
      rw [← same]
      apply List.mem_map_of_mem mem
    have builders : ∀ b ∈ r.builders.values, b.interface ≠ t := by
      intro b registered
      obtain ⟨name, found⟩ := SortedMap.mem_values_iff.mp registered
      obtain ⟨-, i, mem, -, rfl⟩ := h.exists_ofInterface found
      apply apart i mem
    apply h.sameButNested.slot?_eq
    cases h with
    | none _ _ => rfl
    | all _ declared _ =>
        rw [BuilderGenerator.interface?_buildAll_of_forall_ne _ _ _ builders,
          Outline.interface?_declareBuilders_of_forall_ne declared apart]

/-- The second outcome is the first one with builders: its report lists them, and one interface more
is nested in each interface of the report. Outcomes that are failures have the same outline. -/
structure Outcome.Building (input : Input) (s : Settings) (a b : Outcome) : Prop where
  sideBySide : Outcome.SideBySide input (·.building s)
    (InterfaceDecl.NestsOne s.builderInterfaceName) a b
  unlisted : ∀ {r}, a.result = .ok r → r.builders = {}
  failed : ∀ {f}, a.result = .error f → b.outline = a.outline

namespace Generator

variable {g : Generator} {input : Input} {index : Episode.Index} {r : Report}

/-- Nothing is nested in the interfaces of a run without builders. -/
theorem exists_unnested_of_result_runWith (unwanted : g.settings.declareBuilderInterface = false)
    (ok : (g.runWith input index).result = .ok r) {i : SynthesizedInterface}
    (mem : i ∈ r.interfaces) :
  ∃ d, (g.runWith input index).outline.interface? i.typeRef = some d ∧ d.nested = []
  := by
  have completed := completed_of_result_runWith ok
  obtain ⟨pending, place, -⟩ := completed.declaration_of_mem_interfaces mem
  obtain ⟨cur, overlaid, run⟩ := runWith_of_acceptsAll (g := g) completed.accepts
  obtain ⟨d, linked⟩ := Option.isSome_iff_exists.mp
    (completed.accepts.of_mem pending).isSome_linkedFor?
  use d
  constructor
  · rw [run]
    simp only [finish, settings_recordAll, unwanted, Bool.false_eq_true, if_false]
    rw [Outline.interface?_eq, Outline.slot?_removePlaceholders, Outline.slot?_bind,
      overlaid.declared _ pending place, linked]
    rfl
  · obtain ⟨c, p, -, -, rfl⟩ := Outline.linkedFor?_inv linked
    rfl

/-- The end of a run with builders, from that of a run without. -/
theorem finish_building {a b : Generator} {o : Outline} {modelGroups attributeGroups : InterfaceSet}
    (unwanted : a.settings.declareBuilderInterface = false)
    (wanted : b.settings.declareBuilderInterface = true) {r' : Report}
    (ok : (b.finish input index o modelGroups attributeGroups).result = .ok r') :
  let x := a.finish input index o modelGroups attributeGroups
  let y := b.finish input index o modelGroups attributeGroups
  ∃ r, x.result = .ok r ∧ r.builders = {} ∧ r' = r.building b.settings
    ∧ y.diagnostics = x.diagnostics ∧ r'.Built b.settings b.builders x.outline y.outline
  := by
  obtain ⟨-, -, -, built⟩ := result_finish_inv ok
  have builders := built.builders_eq_ofList wanted
  revert ok built
  simp only [finish, wanted, unwanted, Bool.false_eq_true, if_true, if_false]
  split
  · intro ok
    cases ok
  · split
    · intro ok
      cases ok
    · intro ok built
      obtain rfl := Except.ok.inj ok
      refine ⟨_, rfl, rfl, ?_, rfl, built⟩
      simp only [Report.building]
      congr 1

/-- Failures do not differ where builders are wanted. -/
theorem building_fail (input : Input) (s : Settings) (a b : Generator) (o : Outline) (f : Failure) :
  Outcome.Building input s (a.fail o [] f) (b.fail o [] f)
  := by
  have untouched : ∀ t ∈ ([] : List TypeRef), ∃ kind, ∃ d ∈ input.schema.declarations kind,
      input.outline.place? d = some t := by
    intro t mem
    cases mem
  refine ⟨⟨rfl, rfl, fun ok => ?_, fun _ => ⟨[], untouched, .refl o⟩⟩, fun ok => ?_, fun _ => rfl⟩
  · cases ok
  · cases ok

/-- Where builders are wanted and were not before, a run comes to the same with builders. -/
theorem run_building (fluent : g.builders = .fluent) {s : Settings}
    (unwanted : s.declareBuilderInterface = false) (store : FileStore) (input : Input) :
  let s' := { s with declareBuilderInterface := true }
  Outcome.Building input s' (({ g with settings := s } : Generator).run store input)
    (({ g with settings := s' } : Generator).run store input)
  := by
  intro s'
  rcases load : g.upstream.load store input.environment with ⟨e | index, upstream⟩
  · simp only [run, load]
    apply building_fail
  · simp only [run, load]
    apply runWith_side_by_side
    · intro a a' o o' f ts places differs
      obtain rfl : o' = o := differs.eq fun _ _ related => related.eq_of_declare
      apply building_fail
    · intro a a' o o' modelGroups attributeGroups ts settings builders settings' builders' run run'
        places all differs
      obtain rfl : o' = o := differs.eq fun _ _ related => related.eq_of_declare
      -- The end of a run without builders does not fail, so the declarations are accepted.
      obtain ⟨r, ok⟩ :
          ∃ r, (a.finish input index o' modelGroups attributeGroups).result = .ok r := by
        simp only [finish, settings, unwanted, Bool.false_eq_true, if_false]
        exact ⟨_, rfl⟩
      have first := ok
      rw [← run] at first
      have completed := completed_of_result_runWith first
      obtain ⟨r', ok'⟩ := exists_result_runWith (g := { g with settings := s', upstream })
        (fun _ => fluent) completed.accepts
      rw [run'] at ok'
      obtain ⟨r₀, ok₀, unlisted, rfl, diagnostics, built⟩ :=
        finish_building (a := a) (by rw [settings]; exact unwanted) (by rw [settings']) ok'
      obtain rfl : r = r₀ := Except.ok.inj (ok.symm.trans ok₀)
      rw [settings'] at ok' built
      have fresh : ∀ i ∈ r.interfaces, ∃ d, (a.finish input index o' modelGroups
          attributeGroups).outline.interface? i.typeRef = some d ∧ d.nested = [] := by
        intro i mem
        rw [← run]
        apply exists_unnested_of_result_runWith unwanted first mem
      refine ⟨⟨?_, diagnostics, fun ok₁ => ?_, fun error => ?_⟩, fun ok₁ => ?_, fun error => ?_⟩
      · rw [ok', ok]
        rfl
      · obtain rfl := Except.ok.inj (ok.symm.trans ok₁)
        apply built.differsAt rfl completed.nodup_typeRef_interfaces fresh
      · cases ok.symm.trans error
      · obtain rfl := Except.ok.inj (ok.symm.trans ok₁)
        apply unlisted
      · cases ok.symm.trans error

/-- Whether a run fails, and how, does not depend on settings. -/
theorem result_run_eq_error_iff_of_settings (fluent : g.builders = .fluent) (s s' : Settings)
    (store : FileStore) (input : Input) (f : Failure) :
  (({ g with settings := s } : Generator).run store input).result = .error f
    ↔ (({ g with settings := s' } : Generator).run store input).result = .error f
  := by
  rcases load : g.upstream.load store input.environment with ⟨e | index, upstream⟩
  · simp only [run, load]
    rfl
  · simp only [run, load]
    rw [result_runWith_eq_error_iff (g := { g with settings := s, upstream }) fun _ => fluent,
      result_runWith_eq_error_iff (g := { g with settings := s', upstream }) fun _ => fluent]

/-- Settings change only what they are there for. A run fails under all settings with the same
failure, or under none. Where there are to be no setters, the interfaces of a report have exactly
the methods without parameters; where changes may be vetoed, their methods with one parameter throw
the veto and nothing else; where builders are wanted, one interface more is nested in them, and
there are builders in the report. All else that a run comes to is the same. -/
theorem run_under_settings (g : Generator) (store : FileStore) (input : Input)
    (fluent : g.builders = .fluent) :
  let run := fun s : Settings => ({ g with settings := s } : Generator).run store input
  (∀ s s' f, (run s).result = .error f ↔ (run s').result = .error f)
    ∧ (∀ s : Settings,
      let s' := { s with immutable := true }
      Outcome.SideBySide input ({ · with settings := s' }) InterfaceDecl.Readable (run s) (run s'))
    ∧ (∀ s : Settings, s.setterThrowsVeto = false →
      let s' := { s with setterThrowsVeto := true }
      Outcome.SideBySide input ({ · with settings := s' }) InterfaceDecl.Vetoed (run s) (run s'))
    ∧ (∀ s : Settings, s.declareBuilderInterface = false →
      let s' := { s with declareBuilderInterface := true }
      Outcome.Building input s' (run s) (run s'))
  := by
  refine ⟨?_, ?_, ?_, ?_⟩
  · intro s s' f
    apply result_run_eq_error_iff_of_settings fluent
  · intro s
    have same : s.SameBuilders { s with immutable := true } := ⟨rfl, rfl, rfl⟩
    apply (run_side_by_side same store input).mono
    intro d d' counterpart
    apply counterpart.readable
  · intro s silent
    have same : s.SameBuilders { s with setterThrowsVeto := true } := ⟨rfl, rfl, rfl⟩
    apply (run_side_by_side same store input).mono
    intro d d' counterpart
    apply counterpart.vetoed silent
  · intro s unwanted
    apply run_building fluent unwanted

end Generator

/-- The model group of the sample, where the property of its class can be set. -/
def Sample.settableInput : Input where
  schema := { modelGroups := [party] }
  outline :=
    { packages := .ofList
        [("sample",
          { name := "sample", space := some "urn:sample"
            types := .ofList [("Party", .class "sample.Party")] })]
      classes := .ofList
        [("sample.Party",
          { partyClass with
            methods :=
              [{ name := "getName", returnType := "String" },
                { name := "setName", returnType := "void"
                  params := [{ name := "value", type := "String" }] }] })] }

/-- In the sample, the setter is left out, or throws a veto, or a builder is nested behind it. -/
theorem Generator.run_under_settings_sample :
  let s : Settings := ({} : Config).settings
  let run := fun s : Settings =>
    ({ Sample.generator with settings := s } : Generator).run {} Sample.settableInput
  let party := fun s : Settings => (run s).outline.slot? ⟨"sample", "Party"⟩
  ∃ r d d₁ d₂ d₃, (run s).result = .ok r
    ∧ (run { s with declareBuilderInterface := true }).result
      = .ok (r.building { s with declareBuilderInterface := true })
    ∧ party s = some (.interface d) ∧ d.methods.map (·.name) = ["getName", "setName"]
    ∧ party { s with immutable := true } = some (.interface d₁) ∧ d.Readable d₁
    ∧ party { s with setterThrowsVeto := true } = some (.interface d₂) ∧ d.Vetoed d₂
    ∧ party { s with declareBuilderInterface := true } = some (.interface d₃)
    ∧ d.NestsOne "BuildSupport" d₃
  := by
  intro s run party
  obtain ⟨-, immutable, veto, builders⟩ :=
    run_under_settings Sample.generator {} Sample.settableInput rfl
  obtain ⟨r, ok, mem⟩ : ∃ r, (run s).result = .ok r
      ∧ ⟨"sample", "Party"⟩ ∈ r.interfaces.map (·.typeRef) := ⟨_, rfl, by decide +kernel⟩
  have names : ((party s).bind Slot.interface?).map (·.methods.map (·.name))
      = some ["getName", "setName"] := by decide +kernel
  obtain ⟨d, d₁, slot, slot₁, readable⟩ := ((immutable s).succeeded ok).changed _ mem
  obtain ⟨e₂, d₂, here₂, slot₂, vetoed⟩ := ((veto s rfl).succeeded ok).changed _ mem
  obtain ⟨e₃, d₃, here₃, slot₃, nests⟩ := ((builders s rfl).sideBySide.succeeded ok).changed _ mem
  obtain rfl : d = e₂ := Slot.interface.inj (Option.some.inj (slot.symm.trans here₂))
  obtain rfl : d = e₃ := Slot.interface.inj (Option.some.inj (slot.symm.trans here₃))
  have building : (run { s with declareBuilderInterface := true }).result
      = .ok (r.building { s with declareBuilderInterface := true }) := by
    apply (builders s rfl).sideBySide.result.trans
    change (run s).result.map _ = _
    rw [ok]
    rfl
  refine ⟨r, d, d₁, d₂, d₃, ok, building, slot, ?_, slot₁, readable, slot₂, vetoed, slot₃, nests⟩
  change ((run s).outline.slot? _) = _ at slot
  simp only [party, slot] at names
  apply Option.some.inj names

end GroupInterfaces
