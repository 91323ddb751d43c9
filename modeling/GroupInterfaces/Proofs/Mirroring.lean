import GroupInterfaces.Proofs.Completion

/-!
# What interfaces take from placeholders

For each member of its group that is not fixed, an interface publishes the field of the
placeholder with the property name of the member, and it declares the accessors that the
placeholder has for these fields. Which field or method of a placeholder is meant is said here by
its position, as the first one with a name or a name and a number of parameters. Linking, binding
and builders leave all of this alone.
-/

namespace GroupInterfaces

/-- The element is the first one of a list with a property. -/
def IsFirst {α : Type*} (P : α → Prop) (as : List α) (a : α) : Prop :=
  ∃ before after, as = before ++ a :: after ∧ P a ∧ ∀ b ∈ before, ¬ P b

section

variable {α β : Type*}

theorem find?_eq_some_iff_isFirst {P : α → Prop} [DecidablePred P] {as : List α} {a : α} :
  as.find? (P ·) = some a ↔ IsFirst P as a
  := by
  rw [List.find?_eq_some_iff_append]
  constructor
  · rintro ⟨here, before, after, rfl, others⟩
    use before, after, rfl, of_decide_eq_true here
    intro b mem
    simpa using others b mem
  · rintro ⟨before, after, rfl, here, others⟩
    use decide_eq_true here, before, after, rfl
    intro b mem
    simpa using others b mem

theorem find?_eq_none_iff_not_isFirst {P : α → Prop} [DecidablePred P] {as : List α} :
  as.find? (P ·) = none ↔ ∀ a, ¬ IsFirst P as a
  := by
  rw [Option.eq_none_iff_forall_ne_some]
  apply forall_congr'
  intro a
  rw [Ne, find?_eq_some_iff_isFirst]

/-- Where a function answers for every element of a list, its answers go with the elements. -/
theorem forall₂_filterMap {f : α → Option β} {as : List α} (h : ∀ a ∈ as, (f a).isSome) :
  List.Forall₂ (fun a b => f a = some b) as (as.filterMap f)
  := by
  induction as with
  | nil => apply List.Forall₂.nil
  | cons a as ih =>
      obtain ⟨b, answer⟩ := Option.isSome_iff_exists.mp (h a List.mem_cons_self)
      rw [List.filterMap_cons_some answer]
      exact List.Forall₂.cons answer (ih fun a' mem => h a' (List.mem_cons_of_mem a mem))

end

/-! ### Accessors for a stem -/

namespace GeneratedClass

/-- The field is the first one of the class with a property name. -/
def FirstField (c : GeneratedClass) (property : String) (f : Field) : Prop :=
  IsFirst (·.propertyName = property) c.fields f

/-- The method is the first one of the class with a name and a number of parameters. -/
def FirstMethod (c : GeneratedClass) (name : String) (arity : Nat) (m : Method) : Prop :=
  IsFirst (fun m => m.name = name ∧ m.params.length = arity) c.methods m

/-- The method is the one by which the class gives the value of a stem. A getter by the name of
`get` comes before one by the name of `is`. -/
inductive GetterFor (c : GeneratedClass) (stem : String) (m : Method) : Prop where
  | get (first : c.FirstMethod ("get" ++ stem) 0 m)
  | is (none : ∀ m', ¬ c.FirstMethod ("get" ++ stem) 0 m')
      (first : c.FirstMethod ("is" ++ stem) 0 m)

/-- What an interface declares for a stem: nothing if the class has no getter for it; otherwise
the getter by name and return type, and behind it the setter, if there is one and there are to be
any, which throws a veto if it should and nothing else. -/
inductive Mirrored (c : GeneratedClass) (s : Settings) (stem : String) : List Method → Prop where
  | none (unread : ∀ m, ¬ c.GetterFor stem m) : Mirrored c s stem []
  | getter {getter : Method} (read : c.GetterFor stem getter)
      (unwritten : s.immutable = true ∨ ∀ m, ¬ c.FirstMethod ("set" ++ stem) 1 m) :
    Mirrored c s stem
      [{ name := getter.name, returnType := getter.returnType, params := [], throws := [] }]
  | both {getter setter : Method} (read : c.GetterFor stem getter)
      (mutable : s.immutable = false) (written : c.FirstMethod ("set" ++ stem) 1 setter) :
    Mirrored c s stem
      [{ name := getter.name, returnType := getter.returnType, params := [], throws := [] },
        { name := setter.name, returnType := setter.returnType, params := setter.params
          throws := if s.setterThrowsVeto then [vetoException] else [] }]

variable {c : GeneratedClass} {s : Settings} {f : Field} {m : Method}

theorem findMethod?_eq_some_iff {name : String} {arity : Nat} :
  c.findMethod? name arity = some m ↔ c.FirstMethod name arity m
  := find?_eq_some_iff_isFirst

theorem findMethod?_eq_none_iff {name : String} {arity : Nat} :
  c.findMethod? name arity = none ↔ ∀ m, ¬ c.FirstMethod name arity m
  := find?_eq_none_iff_not_isFirst

theorem getter?_eq_some_iff :
  c.getter? f = some m ↔ c.GetterFor f.stem m
  := by
  rw [getter?, Option.or_eq_some_iff, findMethod?_eq_some_iff, findMethod?_eq_none_iff,
    findMethod?_eq_some_iff]
  constructor
  · rintro (get | ⟨none, is⟩)
    · apply GetterFor.get get
    · apply GetterFor.is none is
  · rintro (get | ⟨none, is⟩)
    · apply Or.inl get
    · apply Or.inr ⟨none, is⟩

theorem getter?_eq_none_iff :
  c.getter? f = none ↔ ∀ m, ¬ c.GetterFor f.stem m
  := by
  rw [Option.eq_none_iff_forall_ne_some]
  apply forall_congr'
  intro m
  rw [Ne, getter?_eq_some_iff]

theorem setter?_eq_some_iff :
  c.setter? f = some m ↔ c.FirstMethod ("set" ++ f.stem) 1 m
  := findMethod?_eq_some_iff

theorem setter?_eq_none_iff :
  c.setter? f = none ↔ ∀ m, ¬ c.FirstMethod ("set" ++ f.stem) 1 m
  := findMethod?_eq_none_iff

/-- The accessors for a field are what is to be declared for its stem. -/
theorem mirrored_accessors (c : GeneratedClass) (s : Settings) (f : Field) :
  c.Mirrored s f.stem (c.accessors s f).methods
  := by
  rw [accessors]
  cases get : c.getter? f with
  | none => apply Mirrored.none (getter?_eq_none_iff.mp get)
  | some getter =>
      have read := getter?_eq_some_iff.mp get
      cases immutable : s.immutable with
      | true => apply Mirrored.getter read (Or.inl immutable)
      | false =>
          cases set : c.setter? f with
          | none => apply Mirrored.getter read (Or.inr (setter?_eq_none_iff.mp set))
          | some setter => apply Mirrored.both read immutable (setter?_eq_some_iff.mp set)

/-- A class that has a field for every member that is not fixed publishes the first one for
each. -/
theorem forall₂_fieldsFor {d : GroupDecl}
    (h : ∀ m ∈ d.groupStructure.variableMembers, c.HasFieldFor m) :
  List.Forall₂ (fun m f => c.FirstField m.propertyName f) d.groupStructure.variableMembers
    (c.fieldsFor d)
  := by
  have found : ∀ m ∈ d.groupStructure.variableMembers,
      (c.fields.find? (·.propertyName = m.propertyName)).isSome := by
    intro m mem
    obtain ⟨f, mem', name⟩ := h m mem
    apply List.find?_isSome.mpr
    use f, mem', decide_eq_true name
  apply (forall₂_filterMap found).imp
  intro m f answer
  apply find?_eq_some_iff_isFirst.mp answer

end GeneratedClass

/-! ### A run -/

/-- The interface publishes the fields of a class for the members of its group, and is declared
with the accessors that the class has for them and the documentation of the group. -/
structure SynthesizedInterface.Mirrors (i : SynthesizedInterface) (s : Settings)
    (c : GeneratedClass) (d : InterfaceDecl) : Prop where
  fields : List.Forall₂ (fun m f => c.FirstField m.propertyName f)
    (i.declaration.groupStructure.members.filter (! ·.fixed)) i.publishedFields
  methods : ∃ parts, List.Forall₂ (fun f ms => c.Mirrored s f.stem ms) i.publishedFields parts
    ∧ d.methods = parts.flatten
  doc : d.doc = i.declaration.documentation

/-! #### A sample

The placeholder of a model group in which names are not told apart by themselves: methods of a
name with several numbers of parameters, two fields for a property, and a fixed element with the
property of another one. -/

namespace Sample

/-- An element of the group with a property name. -/
def policyElement (property : String) (fixedValue : Option String := none) : Particle :=
  .element {}
    { name := { space := "urn:sample", localName := property }
      fixedValue := fixedValue
      customization := some { propertyName := some property } }

/-- The group. -/
def policy : ModelGroupDecl where
  name := { space := "urn:sample", localName := "policy" }
  group :=
    { particles :=
        [policyElement "Any", policyElement "Active" (some "true"), policyElement "Active",
          policyElement "Limit", policyElement "Remark"] }

/-- Its placeholder. -/
def policyClass : GeneratedClass where
  package := "sample"
  name := "Policy"
  component := .group policy.name
  fields :=
    [{ propertyName := "Limit", fieldName := "limit", type := "long" },
      { propertyName := "Limit", fieldName := "oldLimit", type := "int" },
      { propertyName := "Active", fieldName := "active", type := "boolean" },
      { propertyName := "Any", fieldName := "any", type := "java.lang.Object" },
      { propertyName := "Remark", fieldName := "remark", type := "String" }]
  methods :=
    [{ name := "getLimit", returnType := "int", params := [{ name := "unit", type := "String" }] },
      { name := "getLimit", returnType := "long" },
      { name := "setLimit", returnType := "void" },
      { name := "setLimit", returnType := "void", params := [{ name := "value", type := "long" }]
        throws := ["java.lang.IllegalArgumentException"] },
      { name := "isActive", returnType := "boolean" },
      { name := "getContent", returnType := "java.lang.Object" },
      { name := "setRemark", returnType := "void"
        params := [{ name := "value", type := "String" }] }]

/-- What a run for the group works on. -/
def policyInput : Input where
  schema := { modelGroups := [policy] }
  outline :=
    { packages := .ofList
        [("sample",
          { name := "sample", space := some "urn:sample"
            types := .ofList [("Policy", .class "sample.Policy")] })]
      classes := .ofList [("sample.Policy", policyClass)] }

/-- A generator for properties whose changes may be vetoed. -/
def vetoGenerator : Generator where
  settings := { generator.settings with setterThrowsVeto := true }

end Sample

namespace Generator

variable {g : Generator} {store : FileStore} {input : Input} {r : Report}
  {i : SynthesizedInterface}

/-- Behind a run that succeeds, each interface of the report is declared with what it takes from
its placeholder as that was before the run. -/
theorem mirrors_of_result_run (h : (g.run store input).result = .ok r) (mem : i ∈ r.interfaces) :
  ∃ c d, input.outline.classForGroup? i.declaration.name = some c ∧ c.typeRef = i.placeholder
    ∧ (g.run store input).outline.interface? i.typeRef = some d
    ∧ i.Mirrors g.settings c d
  := by
  obtain ⟨index, -, completed⟩ := completed_of_result_run h
  obtain ⟨pending, place, placeholder, j, interface, published⟩ :=
    completed.declaration_of_mem_interfaces mem
  have accepts := completed.accepts.of_mem pending
  obtain ⟨linked, answer⟩ := Option.isSome_iff_exists.mp accepts.isSome_linkedFor?
  have declared := completed.declared i.declaration pending place
  rw [answer, Option.map_some] at declared
  obtain ⟨d, found, same⟩ := Option.map_eq_some_iff.mp declared
  obtain ⟨c, p, here, -, rfl⟩ := Outline.linkedFor?_inv answer
  obtain ⟨c', there, rfl⟩ := Outline.interfaceFor?_eq_some_iff.mp interface
  obtain rfl := Option.some.inj (here.symm.trans there)
  rw [Outline.place?, here] at place
  use c, d, here, (Option.some.inj place).trans placeholder.symm, found
  constructor
  · rw [published]
    apply GeneratedClass.forall₂_fieldsFor (accepts.fields here)
  · use (c.fieldsFor i.declaration).map fun f => (c.accessors g.settings f).methods
    constructor
    · rw [published, List.forall₂_map_right_iff, List.forall₂_same]
      intro f _
      apply c.mirrored_accessors
    · rw [← List.flatMap_def]
      apply congrArg InterfaceDecl.methods same
  · apply congrArg InterfaceDecl.doc same

/-- In the sample, the interface has a getter for content, one for a truth value, and the
accessors for the limit that have the right numbers of parameters. -/
theorem mirrors_policy :
  ∃ r, (Sample.vetoGenerator.run {} Sample.policyInput).result = .ok r
    ∧ ∃ i ∈ r.interfaces, ∃ d,
      (Sample.vetoGenerator.run {} Sample.policyInput).outline.interface? i.typeRef = some d
      ∧ i.Mirrors Sample.vetoGenerator.settings Sample.policyClass d
      ∧ d.methods.map Method.signature = ["java.lang.Object getContent()", "boolean isActive()",
        "long getLimit()", "void setLimit(long value) throws java.beans.PropertyVetoException"]
  := by
  have placeholder : Sample.policyInput.outline.classForGroup? Sample.policy.name
      = some Sample.policyClass := rfl
  obtain ⟨r, ok, i, mem, name, shown⟩ :
      ∃ r, (Sample.vetoGenerator.run {} Sample.policyInput).result = .ok r
        ∧ ∃ i ∈ r.interfaces, i.declaration.name = Sample.policy.name
          ∧ ((Sample.vetoGenerator.run {} Sample.policyInput).outline.interface? i.typeRef).map
              (·.methods.map Method.signature)
            = some ["java.lang.Object getContent()", "boolean isActive()", "long getLimit()",
              "void setLimit(long value) throws java.beans.PropertyVetoException"] :=
    ⟨_, rfl, _, List.mem_cons_self, rfl, by decide +kernel⟩
  obtain ⟨c, d, here, -, found, mirrors⟩ := mirrors_of_result_run ok mem
  rw [name, placeholder] at here
  rw [found, Option.map_some] at shown
  rw [Option.some.inj here]
  use r, ok, i, mem, d, found, mirrors, Option.some.inj shown

end Generator

end GroupInterfaces
