import GroupInterfaces.Proofs.Acceptance

/-!
# What synthesis does

For a declaration that is accepted, the interface and its declaration in the outline are
functions of the outline as it is before the run. The outline of a run in progress is the one
before it with declarations of interfaces laid over the places of the declarations taken so
far. Synthesizing one more interface lays one more over; a declaration that is refused ends
the batch with the failure of the refusal.
-/

namespace GroupInterfaces

/-- The fields that a class has for the published members of a group. -/
def GeneratedClass.fieldsFor (c : GeneratedClass) (d : GroupDecl) : List Field :=
  d.groupStructure.variableMembers.filterMap fun m =>
    c.fields.find? (·.propertyName = m.propertyName)

namespace Outline

/-- The interface that is synthesized for a declaration. -/
def interfaceFor? (o : Outline) (d : GroupDecl) : Option SynthesizedInterface :=
  (o.classForGroup? d.name).map fun c =>
    { declaration := d, typeRef := c.typeRef, placeholder := c.typeRef
      publishedFields := c.fieldsFor d }

/-- How the interface for a declaration is declared by its synthesis. -/
def declarationFor? (s : Settings) (o : Outline) (d : GroupDecl) : Option InterfaceDecl :=
  (o.classForGroup? d.name).bind fun c =>
    (o.packages.get? c.package).map fun p =>
      .mk c.name p.name d.documentation
        ((c.fieldsFor d).flatMap fun f => (c.accessors s f).methods) [] []

/-- The second outline is the first one with declarations of interfaces laid over the places
of some declarations of groups. -/
structure Overlaid (o : Outline) (ds : List GroupDecl)
    (decl : GroupDecl → Option InterfaceDecl) (o' : Outline) : Prop where
  frame : SameFrame o o'
  declared : ∀ d ∈ ds, ∀ {t}, o.place? d = some t → o'.slot? t = (decl d).map .interface
  kept : ∀ {t}, (∀ d ∈ ds, o.place? d ≠ some t) → o'.slot? t = o.slot? t

variable {s : Settings} {o cur : Outline} {earlier : List GroupDecl} {d : GroupDecl}
  {decl : GroupDecl → Option InterfaceDecl}

theorem overlaid_nil (o : Outline) (decl : GroupDecl → Option InterfaceDecl) :
  Overlaid o [] decl o
  where
  frame := .refl o
  declared d mem := by cases mem
  kept _ := rfl

/-! ### Fields -/

/-- Behind members for which a class has fields, the fields for further members are looked
for. -/
theorem publishedFields_append {c : GeneratedClass} (group : QName) {ms : List Member}
    (rest : List Member) (h : ∀ m ∈ ms, c.HasFieldFor m) :
  publishedFields c group (ms ++ rest)
    = (ms.filterMap (fun m => c.fields.find? (·.propertyName = m.propertyName)) ++ ·)
        <$> publishedFields c group rest
  := by
  induction ms with
  | nil =>
      simp only [List.nil_append, List.filterMap_nil]
      cases publishedFields c group rest with
      | error f => rfl
      | ok fields => rfl
  | cons m ms ih =>
      obtain ⟨f, mem, name⟩ := h m List.mem_cons_self
      have some : (c.fields.find? (·.propertyName = m.propertyName)).isSome := by
        apply List.find?_isSome.mpr
        use f, mem
        simpa using name
      obtain ⟨f', found⟩ := Option.isSome_iff_exists.mp some
      simp only [List.cons_append, publishedFields, found, List.filterMap_cons,
        ih fun m' mem' => h m' (List.mem_cons_of_mem m mem')]
      cases publishedFields c group rest with
      | error f => rfl
      | ok fields => rfl

theorem publishedFields_eq_ok {c : GeneratedClass} {d : GroupDecl}
    (h : ∀ m ∈ d.groupStructure.variableMembers, c.HasFieldFor m) :
  publishedFields c d.name d.groupStructure.variableMembers = .ok (c.fieldsFor d)
  := by
  have all := publishedFields_append d.name [] h
  rw [List.append_nil] at all
  rw [all]
  simp [publishedFields, GeneratedClass.fieldsFor, Functor.map, Except.map]

/-- The first member for which a class has no field is the one that is reported. -/
theorem publishedFields_eq_error {c : GeneratedClass} (group : QName)
    {before : List Member} (after : List Member) {m : Member}
    (found : ∀ m' ∈ before, c.HasFieldFor m') (h : ¬ c.HasFieldFor m) :
  publishedFields c group (before ++ m :: after)
    = .error
        { error := .propertyNotFound group m.propertyName c.qualifiedName
          locator := some m.locator }
  := by
  have missing : c.fields.find? (·.propertyName = m.propertyName) = none := by
    apply List.find?_eq_none.mpr
    intro f mem name
    apply h
    use f, mem
    simpa using name
  rw [publishedFields_append group (m :: after) found]
  simp only [publishedFields, missing]
  rfl

/-! ### One interface -/

/-- The placeholder of a declaration, where it is asked for. -/
theorem placeholder_eq_ok {c : GeneratedClass} (package : o.HasPackageFor d)
    (found : o.classForGroup? d.name = some c) (properties : d.DistinctProperties) :
  o.placeholder d = .ok c
  := by
  obtain ⟨p, hp⟩ := Option.isSome_iff_exists.mp
    ((isSome_packageForNamespace?_iff o d.name.space).mpr package)
  simp only [Outline.placeholder, hp, found, findCollision?_eq_none properties]

/-- In an outline with interfaces laid over, a class has its place exactly if it has a free
place in the outline below. -/
theorem Overlaid.hasPlaceFor_iff {c : GeneratedClass} (h : Overlaid o earlier decl cur)
    (declared : ∀ d ∈ earlier, (decl d).isSome) :
  cur.HasPlaceFor c ↔ o.HasFreePlaceFor earlier c
  := by
  have package : (cur.packages.get? c.package).isSome = (o.packages.get? c.package).isSome := by
    have bare := congrArg Option.isSome (h.frame.packages c.package)
    rw [Option.isSome_map, Option.isSome_map] at bare
    apply bare
  by_cases untaken : ∀ e ∈ earlier, o.place? e ≠ some c.typeRef
  · simp only [HasPlaceFor, HasFreePlaceFor, package, h.kept untaken]
    apply (and_iff_left untaken).symm
  · constructor
    · rintro ⟨-, free⟩
      exfalso
      push Not at untaken
      obtain ⟨e, mem, place⟩ := untaken
      obtain ⟨i, found⟩ := Option.isSome_iff_exists.mp (declared e mem)
      rw [h.declared e mem place, found] at free
      simp at free
    · intro free
      apply (untaken free.2).elim

/-- An interface is declared under the name of the placeholder, with the accessors for the
published fields. -/
theorem declarationFor?_inv {i : InterfaceDecl} (h : o.declarationFor? s d = some i) :
  ∃ c p, o.classForGroup? d.name = some c ∧ o.packages.get? c.package = some p
    ∧ i = .mk c.name p.name d.documentation
      ((c.fieldsFor d).flatMap fun f => (c.accessors s f).methods) [] []
  := by
  obtain ⟨c, found, declared⟩ := Option.bind_eq_some_iff.mp h
  obtain ⟨p, package, rfl⟩ := Option.map_eq_some_iff.mp declared
  exact ⟨c, p, found, package, rfl⟩

/-- An interface is declared for every declaration that is accepted. -/
theorem Accepts.isSome_declarationFor? (s : Settings) (h : o.Accepts earlier d) :
  (o.declarationFor? s d).isSome
  := by
  obtain ⟨c, found⟩ := h.placeholder
  obtain ⟨p, package⟩ := Option.isSome_iff_exists.mp (h.place found).1.1
  simp [declarationFor?, found, package]

/-- For a declaration that is accepted, synthesis gives its interface and lays the declaration
of the interface over its place. -/
theorem synthesize_of_accepts (h : Overlaid o earlier decl cur)
    (declared : ∀ e ∈ earlier, (decl e).isSome) (accepts : o.Accepts earlier d)
    (new : decl d = o.declarationFor? s d) :
  ∃ i o', o.interfaceFor? d = some i ∧ synthesize s cur d = (.ok i, o')
    ∧ Overlaid o (earlier ++ [d]) decl o'
  := by
  obtain ⟨c, found, place⟩ := accepts.place?_isSome
  obtain ⟨p, package⟩ := Option.isSome_iff_exists.mp (accepts.place found).1.1
  obtain ⟨p', package', bare⟩ := h.frame.package package
  have ok : cur.placeholder d = .ok c := by
    rw [h.frame.placeholder]
    apply placeholder_eq_ok accepts.package found accepts.properties
  obtain ⟨o₁, displaced, frame₁, slots₁⟩ := displace?_of_hasPlaceFor d.documentation package'
    ((h.hasPlaceFor_iff declared).mpr (accepts.place found))
  have fields := publishedFields_eq_ok (accepts.fields found)
  let methods := (c.fieldsFor d).flatMap fun f => (c.accessors s f).methods
  have new' : decl d = some (.mk c.name p.name d.documentation methods [] []) := by
    rw [new, declarationFor?, found, Option.bind_some, package, Option.map_some]
  have slots : ∀ t, (o₁.modifyInterface c.typeRef (·.addMethods methods)).slot? t
      = if t = c.typeRef then (decl d).map .interface else cur.slot? t := by
    intro t
    rw [slot?_modifyInterface]
    split
    · next here =>
        rw [slots₁, if_pos rfl, new', Package.name_eq_of_bare_eq bare]
        rfl
    · next other => rw [slots₁, if_neg other]
  use { declaration := d, typeRef := c.typeRef, placeholder := c.typeRef
        publishedFields := c.fieldsFor d }
  use o₁.modifyInterface c.typeRef (·.addMethods methods)
  refine ⟨?_, ?_, ?_⟩
  · rw [interfaceFor?, found, Option.map_some]
  · simp only [synthesize, ok, displaced, fields]
    rfl
  · constructor
    · apply (h.frame.trans frame₁).trans (sameFrame_modifyInterface _ _ _)
    · intro e mem t place'
      rw [slots]
      rcases List.mem_append.mp mem with mem | mem
      · have apart : t ≠ c.typeRef := by
          rintro rfl
          apply (accepts.place found).2 e mem place'
        rw [if_neg apart, h.declared e mem place']
      · obtain rfl := List.mem_singleton.mp mem
        obtain rfl := Option.some.inj (place.symm.trans place')
        rw [if_pos rfl]
    · intro t untaken
      have apart : t ≠ c.typeRef := by
        rintro rfl
        apply untaken d (by simp) place
      rw [slots, if_neg apart]
      apply h.kept
      intro e mem
      apply untaken e (List.mem_append_left _ mem)

/-- For a declaration that is refused, synthesis fails as the refusal tells. -/
theorem synthesize_of_refuses {f : Failure} (h : Overlaid o earlier decl cur)
    (declared : ∀ e ∈ earlier, (decl e).isSome) (refuses : o.Refuses earlier d f) :
  (synthesize s cur d).1 = .error f
  := by
  have found : o.HasPackageFor d → ∃ p, o.packageForNamespace? d.name.space = some p := by
    intro package
    apply Option.isSome_iff_exists.mp
    apply (isSome_packageForNamespace?_iff o d.name.space).mpr package
  cases refuses with
  | package missing =>
      have none : o.packageForNamespace? d.name.space = none := by
        apply Option.not_isSome_iff_eq_none.mp
        apply mt (isSome_packageForNamespace?_iff o d.name.space).mp missing
      have error : cur.placeholder d = .error (.packageNotFound d.name.space d.name) := by
        rw [h.frame.placeholder]
        simp only [Outline.placeholder, none]
      simp only [synthesize, error]
      rfl
  | placeholder package missing =>
      obtain ⟨p, hp⟩ := found package
      have error : cur.placeholder d
          = .error (.noImplementation (Naming.className d.name.localName) d.name) := by
        rw [h.frame.placeholder]
        simp only [Outline.placeholder, hp, missing]
      simp only [synthesize, error]
      rfl
  | properties package placeholder members distinct mem same =>
      rename_i c before after first second
      obtain ⟨p, hp⟩ := found package
      have collision := findCollision?_eq_some after distinct mem same
      rw [← members] at collision
      have error : cur.placeholder d = .error
          (.propertyNameCollision d.name second.propertyName first.name second.name) := by
        rw [h.frame.placeholder]
        simp only [Outline.placeholder, hp, placeholder, collision]
      simp only [synthesize, error]
      rfl
  | place package placeholder properties taken =>
      have none := displace?_eq_none_of_not d.documentation
        (mt (h.hasPlaceFor_iff declared).mp taken)
      simp only [synthesize, h.frame.placeholder, none,
        placeholder_eq_ok package placeholder properties]
      rfl
  | field package placeholder properties free members found missing =>
      rename_i c before after m
      obtain ⟨p, hp⟩ := Option.isSome_iff_exists.mp
        ((h.hasPlaceFor_iff declared).mpr free).1
      obtain ⟨o₁, displaced, -⟩ := displace?_of_hasPlaceFor d.documentation hp
        ((h.hasPlaceFor_iff declared).mpr free)
      have error := publishedFields_eq_error d.name after found missing
      simp only [synthesize, h.frame.placeholder, displaced, members, error,
        placeholder_eq_ok package placeholder properties]

/-! ### Batches -/

/-- A batch for declarations all of which are accepted has no failure. It gives their
interfaces and lays the declarations of these over their places. -/
theorem synthesizeAll_of_acceptsAll {ds : List GroupDecl} (h : Overlaid o earlier decl cur)
    (declared : ∀ e ∈ earlier, (decl e).isSome) (accepts : o.AcceptsAll (earlier ++ ds))
    (new : ∀ d ∈ ds, decl d = o.declarationFor? s d) :
  (synthesizeAll s cur ds).failure = none
    ∧ (synthesizeAll s cur ds).interfaces = ds.filterMap o.interfaceFor?
    ∧ Overlaid o (earlier ++ ds) decl (synthesizeAll s cur ds).outline
  := by
  induction ds generalizing earlier cur with
  | nil =>
      rw [List.append_nil]
      exact ⟨rfl, rfl, h⟩
  | cons d ds ih =>
      have first : o.Accepts earlier d := accepts earlier d ds rfl
      have newFirst := new d List.mem_cons_self
      obtain ⟨i, o', interface, ok, next⟩ := synthesize_of_accepts h declared first newFirst
      have split : earlier ++ d :: ds = (earlier ++ [d]) ++ ds := by simp
      rw [split] at accepts
      have declared' : ∀ e ∈ earlier ++ [d], (decl e).isSome := by
        intro e mem
        rcases List.mem_append.mp mem with mem | mem
        · apply declared e mem
        · rw [List.mem_singleton.mp mem, newFirst]
          apply first.isSome_declarationFor?
      obtain ⟨failure, interfaces, overlaid⟩ := ih next declared' accepts
        fun e mem => new e (List.mem_cons_of_mem d mem)
      rw [split]
      simp only [synthesizeAll, ok, List.filterMap_cons, interface]
      refine ⟨failure, ?_, overlaid⟩
      rw [interfaces]

/-- A batch without a failure can be followed by a further one. -/
theorem synthesizeAll_append {before : List GroupDecl} (rest : List GroupDecl)
    (h : (synthesizeAll s cur before).failure = none) :
  synthesizeAll s cur (before ++ rest)
    = { synthesizeAll s (synthesizeAll s cur before).outline rest with
        interfaces := (synthesizeAll s cur before).interfaces
          ++ (synthesizeAll s (synthesizeAll s cur before).outline rest).interfaces }
  := by
  induction before generalizing cur with
  | nil => rfl
  | cons d before ih =>
      simp only [List.cons_append, synthesizeAll]
      cases step : synthesize s cur d with
      | mk result o' =>
          cases result with
          | error f => simp [synthesizeAll, step] at h
          | ok i =>
              simp only [synthesizeAll, step] at h
              simp only [ih h, List.cons_append]

/-- A batch fails at the first declaration that is refused, with what its synthesis leaves of an
outline in which all declarations in front have their interfaces. -/
theorem synthesizeAll_of_refuses {before : List GroupDecl} (after : List GroupDecl)
    {f : Failure} (h : Overlaid o earlier decl cur) (declared : ∀ e ∈ earlier, (decl e).isSome)
    (accepts : o.AcceptsAll (earlier ++ before))
    (new : ∀ e ∈ before, decl e = o.declarationFor? s e)
    (refuses : o.Refuses (earlier ++ before) d f) :
  (synthesizeAll s cur (before ++ d :: after)).failure = some f
    ∧ ∃ cur', Overlaid o (earlier ++ before) decl cur'
      ∧ synthesize s cur' d
        = (.error f, (synthesizeAll s cur (before ++ d :: after)).outline)
  := by
  obtain ⟨none, -, next⟩ := synthesizeAll_of_acceptsAll h declared accepts new
  have declared' : ∀ e ∈ earlier ++ before, (decl e).isSome := by
    intro e mem
    rcases List.mem_append.mp mem with mem | mem
    · apply declared e mem
    · rw [new e mem]
      apply (accepts.of_mem (List.mem_append_right earlier mem)).isSome_declarationFor?
  have error := synthesize_of_refuses (s := s) next declared' refuses
  rw [synthesizeAll_append (d :: after) none]
  cases step : synthesize s (synthesizeAll s cur before).outline d with
  | mk result o' =>
      rw [step] at error
      obtain rfl : result = .error f := error
      have ends : synthesizeAll s (synthesizeAll s cur before).outline (d :: after)
          = { outline := o', failure := some f } := by simp only [synthesizeAll, step]
      rw [ends]
      exact ⟨rfl, _, next, step⟩

end Outline

end GroupInterfaces
