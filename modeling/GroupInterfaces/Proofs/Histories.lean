import GroupInterfaces.Proofs.Nesting
import GroupInterfaces.Proofs.Outcome
import GroupInterfaces.Proofs.Parts

/-!
# Histories of outlines

An outline keeps each class twice: under its qualified name among the classes, and by that name in
the slot of its own name in its package. Interfaces are kept whole, with what is nested in them.
Outlines are made from the empty one by operations on the outline, on its packages, on its classes,
and on interfaces, and the parts fit together behind any history of them. An operation that fails
has changed nothing.
-/

namespace GroupInterfaces

/-! ### Interfaces within interfaces -/

namespace InterfaceDecl

/-- The interface at the end of a path of keys. -/
def at? (d : InterfaceDecl) : List String → Option InterfaceDecl
  | [] => some d
  | key :: path => (d.nested? key).bind (·.at? path)

/-- The interface with the one at the end of a path of keys changed. -/
def modifyAt (d : InterfaceDecl) (f : InterfaceDecl → InterfaceDecl) : List String → InterfaceDecl
  | [] => f d
  | key :: path => d.modifyNested key (·.modifyAt f path)

/-- The interface has the package and the name of a type, extends nothing twice, and what is nested
in it has, under each key, the name of the type with that name within it. -/
inductive DeclaredAs : InterfaceDecl → TypeRef → Prop where
  | intro {d : InterfaceDecl} {t : TypeRef} (package : d.package = t.package) (name : d.name = t.name)
      (supertypes : d.supertypes.Nodup)
      (nested : ∀ key n, d.nested? key = some n → DeclaredAs n (t.nested key)) : DeclaredAs d t

theorem nested?_withNested_insert (d n : InterfaceDecl) (key key' : String) :
  (d.withNested (Entries.insert key n d.nested)).nested? key'
    = if key' = key then some n else d.nested? key'
  := by
  apply (Entries.get?_insert key key' n d.nested).trans
  simp only [Std.compare_eq_iff_eq]
  rfl

theorem nested?_modifyNested_key (d : InterfaceDecl) (f : InterfaceDecl → InterfaceDecl)
    (key key' : String) :
  (d.modifyNested key f).nested? key'
    = if key' = key then (d.nested? key').map f else d.nested? key'
  := by
  apply (Entries.get?_modify key key' f d.nested).trans
  simp only [Std.compare_eq_iff_eq]
  rfl

/-- A nested interface is declared where there is none under the key. -/
theorem declareNested_eq (d : InterfaceDecl) (key : String) :
  d.declareNested key = if (d.nested? key).isSome then
      .error (.typeExists d.package (d.name ++ "." ++ key))
    else .ok (d.nesting key)
  := rfl

namespace DeclaredAs

variable {d : InterfaceDecl} {t : TypeRef}

theorem new (package name : String) :
  DeclaredAs (.new package name) ⟨package, name⟩
  := by
  constructor
  · rfl
  · rfl
  · apply List.nodup_nil
  · intro key n found
    cases found

theorem addSupertype (h : d.DeclaredAs t) (u : TypeRef) :
  (d.addSupertype u).DeclaredAs t
  := by
  obtain ⟨package, name, supertypes, nested⟩ := h
  constructor
  · apply package
  · apply name
  · apply nodup_addNew supertypes
  · apply nested

theorem nesting (h : d.DeclaredAs t) (key : String) :
  (d.nesting key).DeclaredAs t
  := by
  obtain ⟨package, name, supertypes, nested⟩ := h
  constructor
  · apply package
  · apply name
  · apply supertypes
  · intro key' n found
    rw [InterfaceDecl.nesting, nested?_withNested_insert] at found
    split at found
    · next same =>
        obtain rfl := Option.some.inj found
        rw [same, package, name]
        apply new
    · apply nested _ _ found

/-- Changing what is nested somewhere keeps the names, if the change keeps them there. -/
theorem modifyAt {f : InterfaceDecl → InterfaceDecl} {path : List String} (h : d.DeclaredAs t)
    (step : ∀ {n u}, d.at? path = some n → n.DeclaredAs u → (f n).DeclaredAs u) :
  (d.modifyAt f path).DeclaredAs t
  := by
  induction path generalizing d t with
  | nil => apply step rfl h
  | cons key path ih =>
      obtain ⟨package, name, supertypes, nested⟩ := h
      constructor
      · apply package
      · apply name
      · apply supertypes
      · intro key' n found
        rw [InterfaceDecl.modifyAt, nested?_modifyNested_key] at found
        split at found
        · next same =>
            obtain ⟨n', found', rfl⟩ := Option.map_eq_some_iff.mp found
            apply ih (nested _ _ found')
            intro m u there
            apply step
            rw [at?, ← same, found', Option.bind_some, there]
        · apply nested _ _ found

end DeclaredAs

end InterfaceDecl

/-! ### Operations -/

/-- The operations that make an outline. What is nested in an interface is named by the type of the
interface and a path of keys. -/
inductive Outline.Operation where
  | addPackage (p : Package)
  | addClass (c : GeneratedClass)
  | removeClass (package : String) (c : GeneratedClass)
  | declareInterface (package name : String)
  | declareNested (t : TypeRef) (path : List String) (key : String)
  | addSupertype (t : TypeRef) (path : List String) (u : TypeRef)
  | addImplements (className : String) (t : TypeRef)
  | removeFactoryMethods (package name : String)

namespace Outline

namespace Operation

/-- What an operation does, change by change. Where there is no package, class or interface to do
it to, nothing is done. -/
def steps : Operation → ExceptT OutlineError (StateM Outline) Unit
  | .addPackage p => modify (·.addPackage p)
  | .addClass c => do
      let some p := (← get).packages.get? c.package | throw (.unknownPackage c.package)
      if p.types.contains c.name then throw (.typeExists c.package c.name)
      modify (·.modifyPackage c.package fun p =>
        { p with types := p.types.insert c.name (.class c.qualifiedName) })
      modify fun o => { o with classes := o.classes.insert c.qualifiedName c }
  | .removeClass package c => do
      let some p := (← get).packages.get? package | return
      if p.holdsClass c then
        modify (·.modifyPackage package fun p => { p with types := p.types.erase c.name })
  | .declareInterface package name => do
      let some p := (← get).packages.get? package | return
      if p.types.contains name then throw (.typeExists p.name name)
      modify (·.modifyPackage package fun p =>
        { p with types := p.types.insert name (.interface (.new p.name name)) })
  | .declareNested t path key => do
      let some d := ((← get).interface? t).bind (·.at? path) | return
      if (d.nested? key).isSome then throw (.typeExists d.package (d.name ++ "." ++ key))
      modify (·.modifyInterface t (·.modifyAt (fun _ => d.nesting key) path))
  | .addSupertype t path u => modify (·.modifyInterface t (·.modifyAt (·.addSupertype u) path))
  | .addImplements className t => modify (·.modifyClass className (·.addImplements t))
  | .removeFactoryMethods package name =>
      modify (·.modifyPackage package (·.removeFactoryMethods name))

/-- How an operation ends, and the outline behind it. -/
def perform (op : Operation) (o : Outline) : Except OutlineError Unit × Outline :=
  op.steps.run.run o

/-- What an operation makes of an outline as a whole. -/
def outcome (op : Operation) (o : Outline) : Except OutlineError Outline :=
  match op with
  | .addPackage p => .ok (o.addPackage p)
  | .addClass c => o.addClass c
  | .removeClass package c => .ok (o.modifyPackage package (·.removeClass c))
  | .declareInterface package name =>
      match o.packages.get? package with
      | none => .ok o
      | some p => (p.declareInterface name).map fun p =>
          { o with packages := o.packages.insert package p }
  | .declareNested t path key =>
      match (o.interface? t).bind (·.at? path) with
      | none => .ok o
      | some d => (d.declareNested key).map fun n =>
          o.modifyInterface t (·.modifyAt (fun _ => n) path)
  | .addSupertype t path u => .ok (o.modifyInterface t (·.modifyAt (·.addSupertype u) path))
  | .addImplements className t => .ok (o.modifyClass className (·.addImplements t))
  | .removeFactoryMethods package name =>
      .ok (o.modifyPackage package (·.removeFactoryMethods name))

section

variable (f : Outline → Outline) (next : ExceptT OutlineError (StateM Outline) Unit)
  (e : OutlineError) (o : Outline)

theorem run_read (next : Outline → ExceptT OutlineError (StateM Outline) Unit) :
  (get >>= next).run.run o = (next o).run.run o
  := rfl

theorem run_change :
  (modify f : ExceptT OutlineError (StateM Outline) Unit).run.run o = (.ok (), f o)
  := rfl

theorem run_change_then :
  (modify f >>= fun _ => next).run.run o = next.run.run (f o)
  := rfl

theorem run_fail_then :
  ((throw e : ExceptT OutlineError (StateM Outline) Unit) >>= fun _ => next).run.run o
    = (.error e, o)
  := rfl

theorem run_done :
  (pure () : ExceptT OutlineError (StateM Outline) Unit).run.run o = (.ok (), o)
  := rfl

end

/-- Change by change, an operation makes of an outline what it makes of it as a whole; and if it
fails, there was no change. -/
theorem perform_eq (op : Operation) (o : Outline) :
  op.perform o = match op.outcome o with
    | .ok o' => (.ok (), o')
    | .error e => (.error e, o)
  := by
  cases op with
  | addPackage p => rfl
  | addClass c =>
      simp only [perform, steps, run_read, outcome, Outline.addClass]
      cases found : o.packages.get? c.package with
      | none => rfl
      | some p =>
          cases occupied : p.types.contains c.name with
          | true => simp only [occupied, if_true, run_fail_then]
          | false =>
              simp only [occupied, Bool.false_eq_true, if_false, run_change_then, run_change,
                modifyPackage, SortedMap.modify_eq_insert found]
  | removeClass package c =>
      simp only [perform, steps, run_read, outcome, modifyPackage]
      cases found : o.packages.get? package with
      | none => simp only [run_done, SortedMap.modify_eq_self found]
      | some p =>
          cases held : p.holdsClass c with
          | true =>
              simp only [held, if_true, run_change, SortedMap.modify_eq_insert found,
                Package.removeClass]
          | false =>
              simp only [held, Bool.false_eq_true, if_false, run_done,
                SortedMap.modify_eq_insert found, Package.removeClass,
                SortedMap.insert_eq_self found]
  | declareInterface package name =>
      simp only [perform, steps, run_read, outcome, Package.declareInterface]
      cases found : o.packages.get? package with
      | none => rfl
      | some p =>
          cases occupied : p.types.contains name with
          | true =>
              simp only [occupied, if_true, run_fail_then]
              rfl
          | false =>
              simp only [occupied, Bool.false_eq_true, if_false, run_change, modifyPackage,
                SortedMap.modify_eq_insert found]
              rfl
  | declareNested t path key =>
      simp only [perform, steps, run_read, outcome, InterfaceDecl.declareNested_eq]
      cases found : (o.interface? t).bind (·.at? path) with
      | none => rfl
      | some d =>
          cases occupied : (d.nested? key).isSome with
          | true =>
              simp only [occupied, if_true, run_fail_then]
              rfl
          | false =>
              simp only [occupied, Bool.false_eq_true, if_false, run_change]
              rfl
  | addSupertype t path u => rfl
  | addImplements className t => rfl
  | removeFactoryMethods package name => rfl

/-- The packages that are added have no types, and the classes that are added have names without
dots and implement nothing twice. -/
def Permitted : Operation → Prop
  | .addPackage p => p.types.isEmpty
  | .addClass c => '.' ∉ c.name.toList ∧ c.implements.Nodup
  | _ => True

instance (op : Operation) : Decidable op.Permitted :=
  match op with
  | .addPackage p => inferInstanceAs (Decidable (p.types.isEmpty = true))
  | .addClass c => inferInstanceAs (Decidable ('.' ∉ c.name.toList ∧ c.implements.Nodup))
  | .removeClass _ _ | .declareInterface _ _ | .declareNested _ _ _ | .addSupertype _ _ _
  | .addImplements _ _ | .removeFactoryMethods _ _ => .isTrue trivial

end Operation

/-! ### What an operation keeps -/

/-- The parts of an outline fit together: packages and classes are kept under their names; what a
slot says of a class is the qualified name of the slot, under which there is the class of the slot;
and interfaces are declared as their slots say. Nothing is implemented or extended twice. -/
structure FitsTogether (o : Outline) : Prop where
  packages : ∀ {name p}, o.packages.get? name = some p → p.name = name
  classes : ∀ {name c}, o.classes.get? name = some c →
    c.qualifiedName = name ∧ '.' ∉ c.name.toList ∧ c.implements.Nodup
  classSlots : ∀ {t name}, o.slot? t = some (.class name) →
    name = t.qualifiedName
      ∧ ∃ c, o.classes.get? name = some c ∧ c.package = t.package ∧ c.name = t.name
  interfaceSlots : ∀ {t d}, o.slot? t = some (.interface d) → d.DeclaredAs t

/-- Qualified names tell types apart whose names have no dots. -/
theorem eq_of_qualifiedName_eq {t u : TypeRef} (h : '.' ∉ t.name.toList) (h' : '.' ∉ u.name.toList)
    (same : t.qualifiedName = u.qualifiedName) :
  t = u
  := by
  rw [← TypeRef.ofQualifiedName_qualifiedName h, same, TypeRef.ofQualifiedName_qualifiedName h']

theorem slot?_modifyPackage (o : Outline) (name : String) (f : Package → Package) (t : TypeRef) :
  (o.modifyPackage name f).slot? t
    = if t.package = name then (o.packages.get? name).bind fun p => (f p).types.get? t.name
      else o.slot? t
  := by
  rw [slot?, modifyPackage, SortedMap.get?_modify_key]
  split
  · next same => rw [Option.bind_map, same]; rfl
  · rfl

theorem addClass_inv {o o' : Outline} {c : GeneratedClass} (h : o.addClass c = .ok o') :
  ∃ p, o.packages.get? c.package = some p ∧ p.types.get? c.name = none
    ∧ o' =
      { packages := o.packages.insert c.package
          { p with types := p.types.insert c.name (.class c.qualifiedName) }
        classes := o.classes.insert c.qualifiedName c }
  := by
  rw [addClass] at h
  cases found : o.packages.get? c.package with
  | none =>
      rw [found] at h
      cases h
  | some p =>
      simp only [found] at h
      split at h
      · cases h
      · next vacant =>
          use p, rfl
          rw [SortedMap.contains, Option.not_isSome_iff_eq_none] at vacant
          use vacant, (Except.ok.inj h).symm

theorem slot?_addClass {o : Outline} {c : GeneratedClass} {p : Package}
    (found : o.packages.get? c.package = some p) (s : Slot)
    (classes : SortedMap String GeneratedClass) (t : TypeRef) :
  slot? ⟨o.packages.insert c.package { p with types := p.types.insert c.name s }, classes⟩ t
    = if t = c.typeRef then some s else o.slot? t
  := by
  obtain ⟨package, name⟩ := t
  simp only [slot?, SortedMap.get?_insert_key, GeneratedClass.typeRef, TypeRef.mk.injEq]
  by_cases same : package = c.package
  · subst same
    simp only [if_true, true_and, Option.bind_some, SortedMap.get?_insert_key, found]
  · simp only [same, if_false, false_and]

namespace FitsTogether

variable {o o' : Outline}

theorem empty :
  FitsTogether {}
  where
  packages found := by cases found
  classes found := by cases found
  classSlots found := by cases found
  interfaceSlots found := by cases found

/-- What does not touch the classes keeps the parts of an outline together if what it puts into
slots are interfaces that are declared as they should be. -/
theorem of_slots (h : o.FitsTogether) (classes : o'.classes = o.classes)
    (packages : ∀ {name p}, o'.packages.get? name = some p → p.name = name)
    (slots : ∀ {t s}, o'.slot? t = some s →
      o.slot? t = some s ∨ ∃ d, s = .interface d ∧ d.DeclaredAs t) :
  o'.FitsTogether
  where
  packages := packages
  classes found := by
    rw [classes] at found
    apply h.classes found
  classSlots found := by
    rw [classes]
    rcases slots found with old | ⟨d, new, -⟩
    · apply h.classSlots old
    · cases new
  interfaceSlots found := by
    rcases slots found with old | ⟨d, new, declared⟩
    · apply h.interfaceSlots old
    · obtain rfl := Slot.interface.inj new
      apply declared

theorem modifyPackage (h : o.FitsTogether) {package : String} {f : Package → Package}
    (name : ∀ p, (f p).name = p.name)
    (slots : ∀ {p n s}, o.packages.get? package = some p → (f p).types.get? n = some s →
      p.types.get? n = some s ∨ ∃ d, s = .interface d ∧ d.DeclaredAs ⟨package, n⟩) :
  (o.modifyPackage package f).FitsTogether
  := by
  have classes : (o.modifyPackage package f).classes = o.classes := rfl
  apply h.of_slots classes
  · intro name' p found
    rw [Outline.modifyPackage, SortedMap.get?_modify_key] at found
    split at found
    · obtain ⟨p', found', rfl⟩ := Option.map_eq_some_iff.mp found
      rw [name, h.packages found']
    · apply h.packages found
  · intro t s found
    rw [slot?_modifyPackage] at found
    split at found
    · next same =>
        obtain ⟨p, found', here⟩ := Option.bind_eq_some_iff.mp found
        subst same
        rcases slots found' here with old | new
        · apply Or.inl
          rw [slot?, found', Option.bind_some, old]
        · apply Or.inr new
    · apply Or.inl found

theorem modifyInterface (h : o.FitsTogether) {t : TypeRef} {f : InterfaceDecl → InterfaceDecl}
    (keeps : ∀ {d}, o.interface? t = some d → d.DeclaredAs t → (f d).DeclaredAs t) :
  (o.modifyInterface t f).FitsTogether
  := by
  have classes : (o.modifyInterface t f).classes = o.classes := rfl
  apply h.of_slots classes
  · intro name p found
    rw [Outline.modifyInterface, Outline.modifyPackage, SortedMap.get?_modify_key] at found
    split at found
    · obtain ⟨p', found', rfl⟩ := Option.map_eq_some_iff.mp found
      apply h.packages found'
    · apply h.packages found
  · intro u s found
    rw [slot?_modifyInterface] at found
    split at found
    · next same =>
        obtain ⟨s', found', rfl⟩ := Option.map_eq_some_iff.mp found
        cases s' with
        | «class» name => apply Or.inl (by rw [same, found']; rfl)
        | interface d =>
            apply Or.inr
            use f d, rfl
            rw [same]
            apply keeps _ (h.interfaceSlots found')
            rw [interface?_eq, found']
            rfl
    · apply Or.inl found

theorem addPackage (h : o.FitsTogether) {p : Package} (empty : p.types.isEmpty) :
  (o.addPackage p).FitsTogether
  := by
  have classes : (o.addPackage p).classes = o.classes := rfl
  apply h.of_slots classes
  · intro name p' found
    rw [Outline.addPackage, SortedMap.get?_insert_key] at found
    split at found
    · next same => rw [same, Option.some.inj found]
    · apply h.packages found
  · intro t s found
    rw [slot?, Outline.addPackage, SortedMap.get?_insert_key] at found
    split at found
    · rw [Option.bind_some, SortedMap.get?, List.isEmpty_iff.mp empty] at found
      cases found
    · apply Or.inl found

/-- A new class gets its slot and its place among the classes together. The place may have been
that of another class of the same name, whose slot has been removed. -/
theorem addClass (h : o.FitsTogether) {c : GeneratedClass} (simple : '.' ∉ c.name.toList)
    (implements : c.implements.Nodup) (ok : o.addClass c = .ok o') :
  o'.FitsTogether
  := by
  obtain ⟨p, found, vacant, rfl⟩ := addClass_inv ok
  constructor
  · intro name p' found'
    rw [SortedMap.get?_insert_key] at found'
    split at found'
    · next same =>
        obtain rfl := Option.some.inj found'
        rw [same]
        apply h.packages found
    · apply h.packages found'
  · intro name c' found'
    rw [SortedMap.get?_insert_key] at found'
    split at found'
    · next same =>
        obtain rfl := Option.some.inj found'
        use same.symm, simple
    · apply h.classes found'
  · intro t name occupied
    rw [slot?_addClass found] at occupied
    split at occupied
    · next same =>
        obtain rfl := Slot.class.inj (Option.some.inj occupied)
        use congrArg TypeRef.qualifiedName same.symm, c
        rw [SortedMap.get?_insert_key, if_pos rfl, same]
        use rfl, rfl
        rfl
    · next apart =>
        -- The slot of another class: its place among the classes is another one as well, for the
        -- names of classes have no dots.
        obtain ⟨rfl, c', registered, package, local'⟩ := h.classSlots occupied
        use rfl, c'
        rw [SortedMap.get?_insert_key, if_neg]
        · use registered, package
        · intro same
          apply apart
          apply eq_of_qualifiedName_eq _ simple same
          rw [← local']
          apply (h.classes registered).2.1
  · intro t d occupied
    rw [slot?_addClass found] at occupied
    split at occupied
    · cases occupied
    · apply h.interfaceSlots occupied

theorem modifyClass (h : o.FitsTogether) (name : String) (t : TypeRef) :
  (o.modifyClass name (·.addImplements t)).FitsTogether
  where
  packages := h.packages
  classes := by
    intro name' c found
    rw [Outline.modifyClass, SortedMap.get?_modify_key] at found
    split at found
    · obtain ⟨c', found', rfl⟩ := Option.map_eq_some_iff.mp found
      obtain ⟨same, simple, implements⟩ := h.classes found'
      use same, simple
      apply nodup_addNew implements
    · apply h.classes found
  classSlots := by
    intro u name' occupied
    obtain ⟨same, c, registered, package, local'⟩ := h.classSlots occupied
    use same
    rw [Outline.modifyClass, SortedMap.get?_modify_key]
    split
    · rw [registered, Option.map_some]
      use c.addImplements t, rfl, package, local'
    · use c, registered, package, local'
  interfaceSlots := h.interfaceSlots

theorem removeClass (h : o.FitsTogether) (package : String) (c : GeneratedClass) :
  (o.modifyPackage package (·.removeClass c)).FitsTogether
  := by
  apply h.modifyPackage
  · intro p
    apply Package.name_eq_of_bare_eq (bare_removeClass p c)
  · intro p n s found occupied
    apply Or.inl
    rw [Package.removeClass] at occupied
    split at occupied
    · rw [SortedMap.get?_erase_key] at occupied
      split at occupied
      · cases occupied
      · apply occupied
    · apply occupied

theorem declareInterface (h : o.FitsTogether) {package name : String}
    (ok : (Operation.declareInterface package name).outcome o = .ok o') :
  o'.FitsTogether
  := by
  simp only [Operation.outcome] at ok
  cases found : o.packages.get? package with
  | none =>
      rw [found] at ok
      obtain rfl := Except.ok.inj ok
      apply h
  | some p =>
      rw [found] at ok
      simp only [Package.declareInterface] at ok
      split at ok
      · cases ok
      · obtain rfl := Except.ok.inj ok
        -- Putting the new package in the place of the old one is a change of that package.
        beta_reduce
        rw [← SortedMap.modify_eq_insert found fun p =>
          { p with types := p.types.insert name (.interface (.new p.name name)) }]
        apply h.modifyPackage
        · intro p
          rfl
        · intro p' n s found' occupied
          rw [SortedMap.get?_insert_key] at occupied
          split at occupied
          · next same =>
              apply Or.inr
              use .new p'.name name, (Option.some.inj occupied).symm
              rw [same, h.packages found']
              apply InterfaceDecl.DeclaredAs.new
          · apply Or.inl occupied

theorem declareNested (h : o.FitsTogether) {t : TypeRef} {path : List String} {key : String}
    (ok : (Operation.declareNested t path key).outcome o = .ok o') :
  o'.FitsTogether
  := by
  simp only [Operation.outcome] at ok
  cases found : (o.interface? t).bind (·.at? path) with
  | none =>
      rw [found] at ok
      obtain rfl := Except.ok.inj ok
      apply h
  | some d =>
      rw [found] at ok
      simp only [InterfaceDecl.declareNested_eq] at ok
      split at ok
      · cases ok
      · obtain rfl := Except.ok.inj ok
        apply h.modifyInterface
        intro d' here declared
        apply declared.modifyAt
        intro n u there declared'
        rw [here, Option.bind_some, there] at found
        obtain rfl := Option.some.inj found
        apply declared'.nesting

theorem addSupertype (h : o.FitsTogether) (t : TypeRef) (path : List String) (u : TypeRef) :
  (o.modifyInterface t (·.modifyAt (·.addSupertype u) path)).FitsTogether
  := by
  apply h.modifyInterface
  intro d _ declared
  apply declared.modifyAt
  intro n u' _ declared'
  apply declared'.addSupertype

theorem removeFactoryMethods (h : o.FitsTogether) (package name : String) :
  (o.modifyPackage package (·.removeFactoryMethods name)).FitsTogether
  := by
  apply h.modifyPackage
  · intro p
    rfl
  · intro p n s found occupied
    apply Or.inl occupied

/-- An operation that is permitted keeps the parts of an outline together. -/
theorem outcome (h : o.FitsTogether) {op : Operation} (permitted : op.Permitted)
    (ok : op.outcome o = .ok o') :
  o'.FitsTogether
  := by
  cases op with
  | addPackage p =>
      obtain rfl := Except.ok.inj ok
      apply h.addPackage permitted
  | addClass c => apply h.addClass permitted.1 permitted.2 ok
  | removeClass package c =>
      obtain rfl := Except.ok.inj ok
      apply h.removeClass
  | declareInterface package name => apply h.declareInterface ok
  | declareNested t path key => apply h.declareNested ok
  | addSupertype t path u =>
      obtain rfl := Except.ok.inj ok
      apply h.addSupertype
  | addImplements className t =>
      obtain rfl := Except.ok.inj ok
      apply h.modifyClass
  | removeFactoryMethods package name =>
      obtain rfl := Except.ok.inj ok
      apply h.removeFactoryMethods

theorem perform (h : o.FitsTogether) {op : Operation} (permitted : op.Permitted) :
  (op.perform o).2.FitsTogether
  := by
  rw [op.perform_eq]
  cases ok : op.outcome o with
  | ok o' => apply h.outcome permitted ok
  | error e => apply h

end FitsTogether

/-! ### Histories -/

/-- The outline behind operations that are performed one after the other, whether they fail or
not. -/
def behind (o : Outline) (ops : List Operation) : Outline :=
  ops.foldl (fun o op => (op.perform o).2) o

theorem FitsTogether.behind {o : Outline} (h : o.FitsTogether) {ops : List Operation}
    (permitted : ∀ op ∈ ops, op.Permitted) :
  (o.behind ops).FitsTogether
  := by
  induction ops generalizing o with
  | nil => apply h
  | cons op ops ih =>
      apply ih (h.perform (permitted op List.mem_cons_self))
      intro op' mem
      apply permitted op' (List.mem_cons_of_mem op mem)

/-- Behind any history that begins with the empty outline, the parts of the outline fit together,
and an operation that fails leaves the whole outline as it is. -/
theorem fitsTogether_of_history {ops : List Operation} (permitted : ∀ op ∈ ops, op.Permitted) :
  (behind {} ops).FitsTogether
    ∧ ∀ (op : Operation) {e o'}, op.perform (behind {} ops) = (.error e, o') →
      o' = behind {} ops
  := by
  use FitsTogether.empty.behind permitted
  intro op e o' failed
  rw [op.perform_eq] at failed
  cases ok : op.outcome (behind {} ops) with
  | ok o =>
      rw [ok] at failed
      cases failed
  | error e' =>
      rw [ok] at failed
      exact (Prod.mk.inj failed).2.symm

end Outline

namespace Sample

/-- A class is added twice, the second time behind the removal of its slot, and a third time in
vain. In the place of another class, an interface is declared that has others nested in it. -/
def history : List Outline.Operation :=
  [.addPackage { name := "sample", space := some "urn:sample" }, .addClass partyClass,
    .removeClass "sample" partyClass, .addClass { partyClass with fields := [] },
    .addClass partyClass, .addImplements "sample.Party" ⟨"base", "Entity"⟩,
    .addClass auditClass, .removeClass "sample" auditClass, .declareInterface "sample" "Audit",
    .declareNested ⟨"sample", "Audit"⟩ [] "Builder",
    .declareNested ⟨"sample", "Audit"⟩ ["Builder"] "Step",
    .addSupertype ⟨"sample", "Audit"⟩ ["Builder"] ⟨"base", "Builder"⟩,
    .removeFactoryMethods "sample" "createAudit"]

end Sample

/-- In the sample, the innermost interface has the name of its whole path, and adding the class
once more changes nothing. -/
theorem Outline.fitsTogether_sampleHistory :
  (behind {} Sample.history).FitsTogether
    ∧ (((behind {} Sample.history).interface? ⟨"sample", "Audit"⟩).bind
        (·.at? ["Builder", "Step"])).map InterfaceDecl.name = some "Audit.Builder.Step"
    ∧ (Operation.addClass Sample.partyClass).perform (behind {} Sample.history)
      = (.error (.typeExists "sample" "Party"), behind {} Sample.history)
  := by
  have permitted : ∀ op ∈ Sample.history, op.Permitted := by decide +kernel
  obtain ⟨fits, unchanged⟩ := fitsTogether_of_history permitted
  have failed : (Operation.addClass Sample.partyClass).perform (behind {} Sample.history)
      = (.error (.typeExists "sample" "Party"),
        ((Operation.addClass Sample.partyClass).perform (behind {} Sample.history)).2) := by
    apply Prod.ext
    · decide +kernel
    · rfl
  rw [unchanged _ failed] at failed
  use fits, by decide +kernel

end GroupInterfaces
