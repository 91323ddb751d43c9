import GroupInterfaces.Proofs.Binding

/-!
# What is recorded of binding

Records add to the interfaces of their classes one by one, whichever records for other classes come
between. Binding records for each class the interfaces of the same run that it comes to implement.
Each class is bound once, so what is recorded for a class are the synthesized interfaces for the
groups that its own complex type uses, and a class without any is not named at all.
-/

namespace GroupInterfaces

/-- The interface of the same run that stands for a group, if there is one. -/
def Resolution.synthesized? : Resolution → Option TypeRef
  | .synthesized t => some t
  | .compiled _ | .unavailable _ => none

/-- The interfaces of the same run among those for some groups. -/
def synthesizedOf (resolutions : List (QName × Resolution)) : List TypeRef :=
  resolutions.filterMap (·.2.synthesized?)

/-- What a class implements of the same run, it implements. -/
theorem mem_interfacesOf_of_mem_synthesizedOf {resolutions : List (QName × Resolution)}
    {t : TypeRef} (h : t ∈ synthesizedOf resolutions) :
  t ∈ interfacesOf resolutions
  := by
  obtain ⟨⟨group, r⟩, mem, found⟩ := List.mem_filterMap.mp h
  apply List.mem_filterMap.mpr
  use (group, r), mem
  cases r with
  | synthesized t' => apply found
  | compiled t' => cases found
  | unavailable reason => cases found

/-! ### Records -/

namespace Associations

theorem get?_record (a : Associations) (className name : String) (t : TypeRef) :
  (a.record className t).byClass.get? name
    = if name = className then some (addNew (a.interfacesOf className) t)
      else a.byClass.get? name
  := SortedMap.get?_insert_key _ _ _ _

/-- The associations with a class and an interface of it more for each record. -/
def recordEach (a : Associations) (records : List (String × TypeRef)) : Associations :=
  records.foldl (fun a r => a.record r.1 r.2) a

/-- The interfaces recorded for a class, as often as they were recorded. -/
def recordedFor (className : String) (records : List (String × TypeRef)) : List TypeRef :=
  (records.filter (·.1 = className)).map (·.2)

theorem recordedFor_eq_nil_iff {className : String} {records : List (String × TypeRef)} :
  recordedFor className records = [] ↔ className ∉ records.map (·.1)
  := by
  simp only [recordedFor, List.map_eq_nil_iff, List.filter_eq_nil_iff, decide_eq_true_eq,
    List.mem_map, not_exists, not_and]

/-- What is recorded for a class is added to its interfaces one by one, and what is recorded for
other classes is not. -/
theorem get?_recordEach (a : Associations) (records : List (String × TypeRef))
    (className : String) :
  (a.recordEach records).byClass.get? className
    = if recordedFor className records = [] then a.byClass.get? className
      else some ((recordedFor className records).foldl addNew (a.interfacesOf className))
  := by
  induction records generalizing a with
  | nil => rfl
  | cons r records ih =>
      apply (ih (a.record r.1 r.2)).trans
      rw [interfacesOf, get?_record]
      by_cases own : className = r.1
      · have more : recordedFor className (r :: records)
            = r.2 :: recordedFor className records := by
          simp [recordedFor, own]
        rw [if_pos own, more, if_neg (List.cons_ne_nil _ _), List.foldl_cons, own]
        split
        · next last => rw [last, List.foldl_nil]
        · rfl
      · have same : recordedFor className (r :: records) = recordedFor className records := by
          simp [recordedFor, Ne.symm own]
        rw [if_neg own, same]
        rfl

/-! ### One class -/

/-- The associations with several interfaces more for a class. -/
def recordAll (a : Associations) (className : String) (interfaces : List TypeRef) :
    Associations :=
  interfaces.foldl (·.record className ·) a

/-- Recording several interfaces for a class lists them behind those that it has, once each. -/
theorem get?_recordAll (a : Associations) (className name : String) (ts : List TypeRef) :
  (a.recordAll className ts).byClass.get? name
    = if name = className ∧ ts ≠ [] then some (ts.foldl addNew (a.interfacesOf className))
      else a.byClass.get? name
  := by
  have each : a.recordAll className ts = a.recordEach (ts.map (className, ·)) := by
    rw [recordAll, recordEach, List.foldl_map]
  rw [each, get?_recordEach]
  by_cases here : name = className
  · subst here
    have own : recordedFor name (ts.map (name, ·)) = ts := by
      simp [recordedFor, List.filter_map, Function.comp_def]
    simp [own]
  · have others : recordedFor name (ts.map (className, ·)) = [] := by
      simp [recordedFor, Ne.symm here]
    simp [others, here]

end Associations

namespace Bound

theorem associations_bindAll (b : Bound) (schema : SchemaSet) (className : String)
    (resolutions : List (QName × Resolution)) :
  (b.bindAll schema className resolutions).associations
    = b.associations.recordAll className (synthesizedOf resolutions)
  := by
  induction resolutions generalizing b with
  | nil => rfl
  | cons first rest ih =>
      obtain ⟨group, r⟩ := first
      have step := ih (b.bind schema className group r)
      cases r with
      | synthesized t => apply step
      | compiled t => apply step
      | unavailable reason => apply step

end Bound

/-! ### All classes -/

/-- What is recorded for a class: the interfaces that go with the groups its complex type uses,
once each, if there are any. -/
def GeneratedClass.associated? (c : GeneratedClass) (f : ContentGroups → List TypeRef) :
    Option (List TypeRef) :=
  match c.complexType? with
  | some t => if f t.groups = [] then none else some ((f t.groups).foldl addNew [])
  | none => none

theorem GeneratedClass.mem_of_associated? {c : GeneratedClass} {f : ContentGroups → List TypeRef}
    {ts : List TypeRef} (h : c.associated? f = some ts) :
  ∃ t, c.complexType? = some t ∧ ∀ i ∈ ts, i ∈ f t.groups
  := by
  rw [associated?] at h
  split at h
  · next t type =>
      split at h
      · cases h
      · obtain rfl := Option.some.inj h
        use t, type
        intro i mem
        rcases mem_foldl_addNew_iff.mp mem with none | mem
        · cases none
        · apply mem
  · cases h

namespace Outline

section

variable (f : ContentGroups → List TypeRef)

/-- The associations of classes with the interfaces for the groups that go with them. -/
def recordClasses (a : Associations) (bindable : List (String × ContentGroups)) : Associations :=
  bindable.foldl (fun a b => a.recordAll b.1 (f b.2)) a

theorem get?_recordClasses_of_notMem {bindable : List (String × ContentGroups)} {name : String}
    (h : name ∉ bindable.map (·.1)) (a : Associations) :
  (recordClasses f a bindable).byClass.get? name = a.byClass.get? name
  := by
  induction bindable generalizing a with
  | nil => rfl
  | cons first rest ih =>
      rw [List.map_cons, List.mem_cons, not_or] at h
      apply (ih h.2 _).trans
      rw [Associations.get?_recordAll]
      apply if_neg
      rintro ⟨same, -⟩
      apply h.1 same

/-- Of classes with names of their own, each is recorded with the interfaces for its groups. -/
theorem get?_recordClasses {bindable : List (String × ContentGroups)}
    (distinct : (bindable.map (·.1)).Nodup) {name : String} {groups : ContentGroups}
    (mem : (name, groups) ∈ bindable) (a : Associations) :
  (recordClasses f a bindable).byClass.get? name
    = if f groups = [] then a.byClass.get? name
      else some ((f groups).foldl addNew (a.interfacesOf name))
  := by
  induction bindable generalizing a with
  | nil => cases mem
  | cons first rest ih =>
      rw [List.map_cons, List.nodup_cons] at distinct
      obtain ⟨fresh, distinct⟩ := distinct
      rcases List.mem_cons.mp mem with rfl | mem
      · apply (get?_recordClasses_of_notMem f fresh _).trans
        rw [Associations.get?_recordAll]
        by_cases none : f groups = []
        · simp [none]
        · simp [none]
      · have apart : name ≠ first.1 := key_ne_of_notMem_map fresh mem
        have one : (a.recordAll first.1 (f first.2)).byClass.get? name = a.byClass.get? name := by
          rw [Associations.get?_recordAll]
          apply if_neg
          rintro ⟨same, -⟩
          apply apart same
        apply (ih distinct mem _).trans
        rw [Associations.interfacesOf, one, Associations.interfacesOf]

end

variable (schema : SchemaSet) (modelGroups attributeGroups : InterfaceSet)
  (index : Episode.Index) (environment : Environment)

theorem associations_bind (o : Outline) :
  (o.bind schema modelGroups attributeGroups index environment).associations
    = recordClasses (fun groups => synthesizedOf
        (groups.resolutions modelGroups attributeGroups index environment)) {} o.bindable
  := by
  have fold : ∀ (b : Bound) (bindable : List (String × ContentGroups)),
      (bindable.foldl
        (fun b e => b.bindAll schema e.1
          (e.2.resolutions modelGroups attributeGroups index environment)) b).associations
      = recordClasses (fun groups => synthesizedOf
        (groups.resolutions modelGroups attributeGroups index environment))
        b.associations bindable := by
    intro b bindable
    induction bindable generalizing b with
    | nil => rfl
    | cons first rest ih =>
        apply (ih _).trans
        rw [Bound.associations_bindAll]
        rfl
  apply fold

/-- Binding records for each class the interfaces of the same run for the groups that its complex
type uses. -/
theorem get?_associations_bind (o : Outline) (name : String) :
  (o.bind schema modelGroups attributeGroups index environment).associations.byClass.get? name
    = (o.classes.get? name).bind (·.associated? fun groups => synthesizedOf
        (groups.resolutions modelGroups attributeGroups index environment))
  := by
  rw [associations_bind]
  obtain ⟨c, t, found, type, mem⟩ | ⟨absent, untyped⟩ := o.bindable_cases name
  · rw [get?_recordClasses _ o.nodup_bindable mem]
    simp only [found, Option.bind_some, GeneratedClass.associated?, type]
    rfl
  · rw [get?_recordClasses_of_notMem _ absent]
    cases found : o.classes.get? name with
    | none => rfl
    | some c =>
        simp only [Option.bind_some, GeneratedClass.associated?, untyped c found]
        rfl

end Outline

end GroupInterfaces
