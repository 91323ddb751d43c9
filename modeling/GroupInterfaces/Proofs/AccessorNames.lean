import GroupInterfaces.Proofs.Integrity

/-!
# Names of accessors

The accessors of a field are named for its stem, and so is the method of a builder that takes its
value. The stem tells the property, except that `Any` and `Content` have the same. Since the
fields that an interface publishes have property names of their own, an interface declares the
same accessor twice exactly if it publishes both of these and the placeholder has a getter for
them.
-/

namespace GroupInterfaces

/-! ### The same accessor -/

/-- Two methods have the same name and the same number of parameters. -/
def Method.SameAccessor (m m' : Method) : Prop :=
  m.name = m'.name ∧ m.params.length = m'.params.length

instance (m m' : Method) : Decidable (m.SameAccessor m') :=
  inferInstanceAs (Decidable (m.name = m'.name ∧ m.params.length = m'.params.length))

/-- No accessor occurs twice in a list of methods. -/
def NoAccessorTwice (ms : List Method) : Prop := ms.Pairwise fun m m' => ¬ m.SameAccessor m'

instance (ms : List Method) : Decidable (NoAccessorTwice ms) :=
  inferInstanceAs (Decidable (ms.Pairwise fun m m' => ¬ m.SameAccessor m'))

theorem noAccessorTwice_toList (m : Option Method) :
  NoAccessorTwice m.toList
  := by
  cases m with
  | none => apply List.Pairwise.nil
  | some m => apply List.pairwise_singleton

/-! ### Stems -/

/-- A stem behind one of the words with which names of accessors begin tells the word, and the
word and the name tell the stem. -/
theorem eq_of_append_stem {word word' stem stem' : String} (h : word ∈ ["get", "is", "set"])
    (h' : word' ∈ ["get", "is", "set"]) (same : word ++ stem = word' ++ stem') :
  word = word' ∧ stem = stem'
  := by
  have letters : word.toList ++ stem.toList = word'.toList ++ stem'.toList := by
    rw [← String.toList_append, same, String.toList_append]
  simp only [List.mem_cons, List.not_mem_nil, or_false] at h h'
  rcases h with rfl | rfl | rfl <;> rcases h' with rfl | rfl | rfl <;> simp_all

/-- Two properties with the same stem are `Any` and `Content`. -/
theorem Field.content_of_stem_eq {f f' : Field} (apart : f.propertyName ≠ f'.propertyName)
    (same : f.stem = f'.stem) :
  f.stem = "Content" ∧ (f.propertyName = "Any" ∧ f'.propertyName = "Content"
    ∨ f.propertyName = "Content" ∧ f'.propertyName = "Any")
  := by
  simp only [stem] at same ⊢
  by_cases any : f.propertyName = "Any"
  · have other : f'.propertyName ≠ "Any" := fun any' => apart (any.trans any'.symm)
    rw [if_pos any, if_neg other] at same
    rw [if_pos any]
    exact ⟨rfl, Or.inl ⟨any, same.symm⟩⟩
  · by_cases any' : f'.propertyName = "Any"
    · rw [if_neg any, if_pos any'] at same
      rw [if_neg any]
      exact ⟨same, Or.inr ⟨same, any'⟩⟩
    · rw [if_neg any, if_neg any'] at same
      apply (apart same).elim

/-! ### Accessors of a class -/

/-- The method is a getter for a stem. -/
def Method.IsGetterFor (m : Method) (stem : String) : Prop :=
  (m.name = "get" ++ stem ∨ m.name = "is" ++ stem) ∧ m.params.length = 0

/-- The method is a setter for a stem. -/
def Method.IsSetterFor (m : Method) (stem : String) : Prop :=
  m.name = "set" ++ stem ∧ m.params.length = 1

namespace GeneratedClass

/-- The class has a getter for a stem. -/
def HasGetterFor (c : GeneratedClass) (stem : String) : Prop := ∃ m ∈ c.methods, m.IsGetterFor stem

/-- The class has a getter for content, and among some fields there are both properties that have
content for their stem. -/
def ContentTwice (c : GeneratedClass) (fs : List Field) : Prop :=
  "Any" ∈ fs.map (·.propertyName) ∧ "Content" ∈ fs.map (·.propertyName)
    ∧ c.HasGetterFor "Content"

variable {c : GeneratedClass} {s : Settings} {f : Field} {fs : List Field} {m : Method}

theorem eq_of_findMethod?_eq_some {name : String} {arity : Nat}
    (h : c.findMethod? name arity = some m) :
  m ∈ c.methods ∧ m.name = name ∧ m.params.length = arity
  := by
  have here := List.find?_some h
  use List.mem_of_find?_eq_some h
  simpa using here

theorem isSome_findMethod? {name : String} {arity : Nat} (mem : m ∈ c.methods)
    (here : m.name = name ∧ m.params.length = arity) :
  (c.findMethod? name arity).isSome
  := by
  apply List.find?_isSome.mpr
  use m, mem, decide_eq_true here

theorem isGetterFor_of_getter? (h : c.getter? f = some m) :
  m ∈ c.methods ∧ m.IsGetterFor f.stem
  := by
  rcases Option.or_eq_some_iff.mp h with get | ⟨-, is⟩
  · obtain ⟨mem, name, arity⟩ := eq_of_findMethod?_eq_some get
    exact ⟨mem, Or.inl name, arity⟩
  · obtain ⟨mem, name, arity⟩ := eq_of_findMethod?_eq_some is
    exact ⟨mem, Or.inr name, arity⟩

/-- A field has a getter exactly if the class has one for its stem. -/
theorem isSome_getter?_iff :
  (c.getter? f).isSome ↔ c.HasGetterFor f.stem
  := by
  constructor
  · intro some
    obtain ⟨m, found⟩ := Option.isSome_iff_exists.mp some
    use m
    apply isGetterFor_of_getter? found
  · rintro ⟨m, mem, name | name, arity⟩
    · have get := isSome_findMethod? mem ⟨name, arity⟩
      simp [getter?, get]
    · have is := isSome_findMethod? mem ⟨name, arity⟩
      simp [getter?, is]

theorem getter_accessors :
  (c.accessors s f).getter
    = (c.getter? f).map fun getter => { name := getter.name, returnType := getter.returnType }
  := by
  rw [accessors]
  cases c.getter? f with
  | none => rfl
  | some getter => rfl

theorem isGetterFor_of_getter_accessors (h : (c.accessors s f).getter = some m) :
  m.IsGetterFor f.stem ∧ c.HasGetterFor f.stem
  := by
  rw [getter_accessors] at h
  obtain ⟨getter, found, rfl⟩ := Option.map_eq_some_iff.mp h
  obtain ⟨mem, isGetter⟩ := isGetterFor_of_getter? found
  exact ⟨⟨isGetter.1, rfl⟩, getter, mem, isGetter⟩

theorem isSetterFor_of_setter_accessors (h : (c.accessors s f).setter = some m) :
  m.IsSetterFor f.stem ∧ c.HasGetterFor f.stem
  := by
  rw [accessors] at h
  split at h
  · cases h
  · next getter found =>
      have has := isSome_getter?_iff.mp (by rw [found]; rfl)
      simp only at h
      split at h
      · cases h
      · obtain ⟨setter, found, rfl⟩ := Option.map_eq_some_iff.mp h
        obtain ⟨-, name, arity⟩ := eq_of_findMethod?_eq_some found
        exact ⟨⟨name, arity⟩, has⟩

/-- Every method that is declared for a field is named for its stem, and there are none for a field
without a getter. -/
theorem exists_word_of_mem_methods (h : m ∈ (c.accessors s f).methods) :
  (∃ word ∈ ["get", "is", "set"], m.name = word ++ f.stem) ∧ c.HasGetterFor f.stem
  := by
  rcases List.mem_append.mp h with get | set
  · obtain ⟨⟨name | name, -⟩, has⟩ :=
      isGetterFor_of_getter_accessors (Option.mem_toList.mp get)
    · exact ⟨⟨"get", by simp, name⟩, has⟩
    · exact ⟨⟨"is", by simp, name⟩, has⟩
  · obtain ⟨⟨name, -⟩, has⟩ := isSetterFor_of_setter_accessors (Option.mem_toList.mp set)
    exact ⟨⟨"set", by simp, name⟩, has⟩

/-- Published fields have property names of their own if the members of the group have. -/
theorem nodup_propertyName_fieldsFor {d : GroupDecl} (distinct : d.DistinctProperties) :
  ((c.fieldsFor d).map (·.propertyName)).Nodup
  := by
  apply List.pairwise_map.mpr
  apply List.pairwise_filterMap.mpr
  apply (List.pairwise_map.mp distinct).imp
  intro m m' apart f found f' found' same
  have name := List.find?_some found
  have name' := List.find?_some found'
  apply apart
  rw [← of_decide_eq_true name, ← of_decide_eq_true name', same]

/-! ### Methods for fields -/

/-- The methods for each of some fields are told by the stem of the field, and there are such
methods exactly for the fields with a getter. -/
structure NamedByStem (c : GeneratedClass) (fs : List Field) (ms : Field → List Method) :
    Prop where
  single : ∀ f ∈ fs, NoAccessorTwice (ms f)
  stem : ∀ {f f'}, f ∈ fs → f' ∈ fs → ∀ m ∈ ms f, ∀ m' ∈ ms f', m.SameAccessor m' →
    f.stem = f'.stem
  getter : ∀ f ∈ fs, ∀ m ∈ ms f, c.HasGetterFor f.stem
  again : ∀ {f f'}, f ∈ fs → f' ∈ fs → f.stem = f'.stem → c.HasGetterFor f.stem →
    ∃ m ∈ ms f, ∃ m' ∈ ms f', m.SameAccessor m'

/-- Methods that are named by the stems of fields with property names of their own are repeated
for content only. -/
theorem NamedByStem.noAccessorTwice_iff {ms : Field → List Method} (h : c.NamedByStem fs ms)
    (distinct : (fs.map (·.propertyName)).Nodup) :
  NoAccessorTwice (fs.flatMap ms) ↔ ¬ c.ContentTwice fs
  := by
  rw [NoAccessorTwice, List.pairwise_flatMap]
  constructor
  · rintro ⟨-, across⟩ ⟨any, content, has⟩
    obtain ⟨f, mem, any⟩ := List.mem_map.mp any
    obtain ⟨f', mem', content⟩ := List.mem_map.mp content
    have stem : f.stem = "Content" := if_pos any
    have stem' : f'.stem = "Content" := by
      rw [Field.stem, content]
      rfl
    have apart : f ≠ f' := by
      rintro rfl
      rw [any] at content
      simp at content
    -- It is not known which of the two fields comes first.
    have symm : Std.Symm fun f f' : Field =>
        ∀ m ∈ ms f, ∀ m' ∈ ms f', ¬ m.SameAccessor m' := by
      constructor
      intro f f' across m mem m' mem' same
      apply across m' mem' m mem ⟨same.1.symm, same.2.symm⟩
    obtain ⟨m, here, m', here', same⟩ := h.again mem mem' (stem.trans stem'.symm) (stem ▸ has)
    apply across.forall mem mem' apart m here m' here' same
  · -- Methods of one field differ anyway, and those of different fields if the stems do.
    intro once
    use h.single
    apply (List.pairwise_map.mp distinct).imp_of_mem
    intro f f' mem mem' apart m here m' here' same
    obtain ⟨stem, names⟩ := Field.content_of_stem_eq apart (h.stem mem mem' m here m' here' same)
    apply once
    have has := h.getter f mem m here
    rw [stem] at has
    rcases names with ⟨any, content⟩ | ⟨content, any⟩
    · exact ⟨List.mem_map.mpr ⟨f, mem, any⟩, List.mem_map.mpr ⟨f', mem', content⟩, has⟩
    · exact ⟨List.mem_map.mpr ⟨f', mem', any⟩, List.mem_map.mpr ⟨f, mem, content⟩, has⟩

/-- Accessors are named by stems. -/
theorem namedByStem_accessors (c : GeneratedClass) (s : Settings) (fs : List Field) :
  c.NamedByStem fs fun f => (c.accessors s f).methods
  where
  single := by
    intro f _
    apply List.pairwise_append.mpr
    refine ⟨noAccessorTwice_toList _, noAccessorTwice_toList _, ?_⟩
    intro m get m' set same
    obtain ⟨⟨-, arity⟩, -⟩ := isGetterFor_of_getter_accessors (Option.mem_toList.mp get)
    obtain ⟨⟨-, arity'⟩, -⟩ := isSetterFor_of_setter_accessors (Option.mem_toList.mp set)
    have lengths := same.2
    rw [arity, arity'] at lengths
    cases lengths
  stem := by
    intro f f' _ _ m here m' here' same
    obtain ⟨⟨word, mem, name⟩, -⟩ := exists_word_of_mem_methods here
    obtain ⟨⟨word', mem', name'⟩, -⟩ := exists_word_of_mem_methods here'
    apply (eq_of_append_stem mem mem' _).2
    rw [← name, ← name', same.1]
  getter := by
    intro f _ m here
    apply (exists_word_of_mem_methods here).2
  again := by
    intro f f' _ _ same has
    obtain ⟨getter, found⟩ := Option.isSome_iff_exists.mp (isSome_getter?_iff.mpr has)
    have found' : c.getter? f' = some getter := by
      rw [← found, getter?, getter?, same]
    have declared : ∀ {f : Field}, c.getter? f = some getter →
        { name := getter.name, returnType := getter.returnType }
          ∈ (c.accessors s f).methods := by
      intro f found
      apply List.mem_append_left
      rw [getter_accessors, found]
      apply List.mem_singleton_self
    exact ⟨_, declared found, _, declared found', rfl, rfl⟩

/-- In an interface with accessors for some fields, a method with the name of a getter for one of
these is the getter that is declared for it. -/
theorem getter_accessors_of_mem_methods {d : InterfaceDecl}
    (methods : d.methods = fs.flatMap fun f => (c.accessors s f).methods) (mem : m ∈ d.methods)
    (name : m.name = "get" ++ f.stem ∨ m.name = "is" ++ f.stem) :
  (c.accessors s f).getter = some m
  := by
  obtain ⟨word, begins, name⟩ : ∃ word ∈ ["get", "is"], m.name = word ++ f.stem := by
    rcases name with get | is
    · use "get", by simp
    · use "is", by simp
  have begins' : word ∈ ["get", "is", "set"] := List.mem_append_left ["set"] begins
  rw [methods] at mem
  obtain ⟨f', -, declared⟩ := List.mem_flatMap.mp mem
  rcases List.mem_append.mp declared with get | set
  · have getter := Option.mem_toList.mp get
    obtain ⟨⟨word', mem', name'⟩, -⟩ := exists_word_of_mem_methods declared
    have stem := (eq_of_append_stem begins' mem' (name.symm.trans name')).2
    rw [getter_accessors, getter?, stem, ← getter?, ← getter_accessors, getter]
  · obtain ⟨⟨name', -⟩, -⟩ := isSetterFor_of_setter_accessors (Option.mem_toList.mp set)
    have same := (eq_of_append_stem begins' (by simp) (name.symm.trans name')).1
    simp [same] at begins

/-- The method of a builder for a field is told by the getter that the interface has for it. -/
theorem fluentMethod?_eq {d : InterfaceDecl} (builderType : String)
    (methods : d.methods = fs.flatMap fun f => (c.accessors s f).methods) (mem : f ∈ fs) :
  fluentMethod? d builderType f = (c.accessors s f).getter.map fun getter =>
    { name := "with" ++ f.stem, returnType := builderType
      params := [{ name := "value", type := getter.returnType }] }
  := by
  have sound : ∀ m, (d.findMethod? ("get" ++ f.stem)).or (d.findMethod? ("is" ++ f.stem)) = some m
      → (c.accessors s f).getter = some m := by
    intro m found
    rcases Option.or_eq_some_iff.mp found with get | ⟨-, is⟩
    · have name := List.find?_some get
      apply getter_accessors_of_mem_methods methods (List.mem_of_find?_eq_some get)
      apply Or.inl (of_decide_eq_true name)
    · have name := List.find?_some is
      apply getter_accessors_of_mem_methods methods (List.mem_of_find?_eq_some is)
      apply Or.inr (of_decide_eq_true name)
  rw [fluentMethod?]
  apply congrArg
  cases getter : (c.accessors s f).getter with
  | none =>
      apply Option.eq_none_iff_forall_ne_some.mpr
      intro m found
      rw [sound m found] at getter
      cases getter
  | some m =>
      have declared : m ∈ d.methods := by
        rw [methods]
        apply List.mem_flatMap.mpr
        use f, mem
        apply List.mem_append_left _ (Option.mem_toList.mpr getter)
      have look : ∀ name, m.name = name → (d.findMethod? name).isSome := by
        intro name here
        apply List.find?_isSome.mpr
        use m, declared, decide_eq_true here
      have some : ((d.findMethod? ("get" ++ f.stem)).or
          (d.findMethod? ("is" ++ f.stem))).isSome := by
        obtain ⟨⟨name | name, -⟩, -⟩ := isGetterFor_of_getter_accessors getter
        · simp [look _ name]
        · simp [look _ name]
      obtain ⟨m', found⟩ := Option.isSome_iff_exists.mp some
      rw [found, ← sound m' found, getter]

/-- For an interface with accessors for some fields, there is a method of the builder for each of
these that has a getter. -/
theorem isSome_fluentMethod?_iff {d : InterfaceDecl} (builderType : String)
    (methods : d.methods = fs.flatMap fun f => (c.accessors s f).methods) (mem : f ∈ fs) :
  (fluentMethod? d builderType f).isSome ↔ c.HasGetterFor f.stem
  := by
  rw [fluentMethod?_eq builderType methods mem, Option.isSome_map, getter_accessors,
    Option.isSome_map]
  apply isSome_getter?_iff

/-- The methods of a fluent builder for an interface with accessors are named by stems. -/
theorem namedByStem_fluent {d : InterfaceDecl} (builderType : String)
    (methods : d.methods = fs.flatMap fun f => (c.accessors s f).methods) :
  c.NamedByStem fs fun f => (fluentMethod? d builderType f).toList
  where
  single := by
    intro f _
    apply noAccessorTwice_toList
  stem := by
    intro f f' _ _ m here m' here' same
    obtain ⟨getter, -, rfl⟩ := Option.map_eq_some_iff.mp (Option.mem_toList.mp here)
    obtain ⟨getter', -, rfl⟩ := Option.map_eq_some_iff.mp (Option.mem_toList.mp here')
    simpa using same.1
  getter := by
    intro f mem m here
    apply (isSome_fluentMethod?_iff builderType methods mem).mp
    rw [Option.mem_toList.mp here]
    rfl
  again := by
    intro f f' mem mem' same has
    have method : ∀ {f}, f ∈ fs → c.HasGetterFor f.stem →
        ∃ m ∈ (fluentMethod? d builderType f).toList,
          m.name = "with" ++ f.stem ∧ m.params.length = 1 := by
      intro f mem has
      obtain ⟨m, found⟩ := Option.isSome_iff_exists.mp
        ((isSome_fluentMethod?_iff builderType methods mem).mpr has)
      use m, Option.mem_toList.mpr found
      obtain ⟨getter, -, rfl⟩ := Option.map_eq_some_iff.mp found
      exact ⟨rfl, rfl⟩
    obtain ⟨m, here, name, arity⟩ := method mem has
    obtain ⟨m', here', name', arity'⟩ := method mem' (same ▸ has)
    use m, here, m', here'
    constructor
    · rw [name, name', same]
    · rw [arity, arity']

end GeneratedClass

/-! ### A run -/

/-- Building changes no accessors of an interface. -/
theorem Report.Built.exists_methods_eq {s : Settings} {g : BuilderGenerator} {r : Report}
    {o o' : Outline} {t : TypeRef} {d : InterfaceDecl} (h : r.Built s g o o')
    (found : o.interface? t = some d) :
  ∃ d', o'.interface? t = some d' ∧ d'.methods = d.methods
  := by
  have same := h.sameButNested.interface? t
  rw [found, Option.map_some] at same
  obtain ⟨d', found', same⟩ := Option.map_eq_some_iff.mp same
  use d', found'
  apply congrArg InterfaceDecl.methods same

namespace Generator

variable {g : Generator} {store : FileStore} {input : Input} {index : Episode.Index} {r : Report}
  {outcome : Outcome} {i : SynthesizedInterface}

theorem Completed.nodup_propertyName_publishedFields (h : Completed g input index r outcome)
    (mem : i ∈ r.interfaces) :
  (i.publishedFields.map (·.propertyName)).Nodup
  := by
  obtain ⟨pending, -, -, j, interface, fields⟩ := h.declaration_of_mem_interfaces mem
  obtain ⟨c, -, rfl⟩ := Outline.interfaceFor?_eq_some_iff.mp interface
  rw [fields]
  apply GeneratedClass.nodup_propertyName_fieldsFor (h.accepts.of_mem pending).properties

/-- An interface of a run that succeeds declares an accessor twice exactly if it publishes both
properties that have content for their stem, and its placeholder has a getter for content. Where
it does not, neither does the interface of its builder. -/
theorem noAccessorTwice_of_result_run (h : (g.run store input).result = .ok r)
    (mem : i ∈ r.interfaces) :
  ∃ c d, input.outline.classForGroup? i.name = some c
    ∧ (g.run store input).outline.interface? i.typeRef = some d
    ∧ (NoAccessorTwice d.methods ↔ ¬ c.ContentTwice i.publishedFields)
    ∧ (g.settings.declareBuilderInterface = true →
      ∃ n, d.nested? g.settings.builderInterfaceName = some n
        ∧ (¬ c.ContentTwice i.publishedFields → NoAccessorTwice n.methods))
  := by
  obtain ⟨index, o, -, completed, settled, built⟩ := exists_settled_of_result_run h
  obtain ⟨c, p, d, placeholder, -, -, found, -, -, methods⟩ :=
    settled.exists_interface? completed mem
  obtain ⟨d', found', same⟩ := built.exists_methods_eq found
  have distinct := completed.nodup_propertyName_publishedFields mem
  use c, d', placeholder, found'
  constructor
  · rw [same, methods]
    apply (c.namedByStem_accessors g.settings i.publishedFields).noAccessorTwice_iff distinct
  · intro wanted
    obtain ⟨d'', n, declared, nested, -, -, builder⟩ :=
      built.exists_nested wanted completed.nodup_typeRef_interfaces mem found
    obtain rfl := Option.some.inj (found'.symm.trans declared)
    use n, nested
    intro once
    rcases builder with none | fluent
    · rw [none]
      apply List.Pairwise.nil
    · rw [fluent, List.filterMap_eq_flatMap_toList]
      apply ((GeneratedClass.namedByStem_fluent _ methods).noAccessorTwice_iff distinct).mpr once

/-- In the sample, where no group has an element by the name of `any`, no accessor occurs twice. -/
theorem noAccessorTwice_sample :
  ∃ r, (Sample.builderGenerator.run {} Sample.input).result = .ok r
    ∧ ∀ i ∈ r.interfaces, ∃ d n,
      (Sample.builderGenerator.run {} Sample.input).outline.interface? i.typeRef = some d
        ∧ NoAccessorTwice d.methods
        ∧ d.nested? Sample.builderGenerator.settings.builderInterfaceName = some n
        ∧ NoAccessorTwice n.methods
  := by
  obtain ⟨r, ok, others⟩ : ∃ r, (Sample.builderGenerator.run {} Sample.input).result = .ok r
      ∧ ∀ i ∈ r.interfaces, "Any" ∉ i.publishedFields.map (·.propertyName) :=
    ⟨_, rfl, by decide +kernel⟩
  use r, ok
  intro i mem
  obtain ⟨c, d, -, found, accessors, builder⟩ := noAccessorTwice_of_result_run ok mem
  obtain ⟨n, nested, methods⟩ := builder rfl
  have once : ¬ c.ContentTwice i.publishedFields := fun twice => others i mem twice.1
  exact ⟨d, n, found, accessors.mpr once, nested, methods once⟩

end Generator

namespace Sample

/-- A model group with the elements `any` and `content`. -/
def mixed : ModelGroupDecl where
  name := { space := "urn:sample", localName := "mixed" }
  group :=
    { particles :=
        [.element {} { name := { space := "urn:sample", localName := "any" } },
          .element {} { name := { space := "urn:sample", localName := "content" } }] }

/-- Its placeholder, with one getter for both. -/
def mixedClass : GeneratedClass where
  package := "sample"
  name := "Mixed"
  component := .group mixed.name
  fields :=
    [{ propertyName := "Any", fieldName := "any", type := "java.lang.Object" },
      { propertyName := "Content", fieldName := "content", type := "java.lang.Object" }]
  methods := [{ name := "getContent", returnType := "java.lang.Object" }]

/-- What a run for the group works on. -/
def mixedInput : Input where
  schema := { modelGroups := [mixed] }
  outline :=
    { packages := .ofList
        [("sample",
          { name := "sample", space := some "urn:sample"
            types := .ofList [("Mixed", .class "sample.Mixed")] })]
      classes := .ofList [("sample.Mixed", mixedClass)] }

end Sample

/-- For a group with the elements `any` and `content`, the getter is declared twice, and so is the
method of the builder. -/
theorem Generator.accessorTwice_mixed :
  ∃ r, (Sample.builderGenerator.run {} Sample.mixedInput).result = .ok r
    ∧ ∃ i ∈ r.interfaces, ∃ d n,
      (Sample.builderGenerator.run {} Sample.mixedInput).outline.interface? i.typeRef = some d
        ∧ ¬ NoAccessorTwice d.methods
        ∧ d.nested? Sample.builderGenerator.settings.builderInterfaceName = some n
        ∧ ¬ NoAccessorTwice n.methods
  := by
  refine ⟨_, rfl, _, List.mem_cons_self, _, _, rfl, ?_, rfl, ?_⟩
  · decide +kernel
  · decide +kernel

end GroupInterfaces
