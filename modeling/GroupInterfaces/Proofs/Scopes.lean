import GroupInterfaces.Proofs.Forests
import GroupInterfaces.Proofs.Recording

/-!
# Reading by recursion

What an element stands for depends on the elements around it, which declare the prefixes and set
the namespace of names without one. A forest can be read by recursion over its elements with
those around them at hand. The walk keeps frames of the open elements in their place, and its
outcome is that of the recursion.
-/

namespace GroupInterfaces.Episode

/-! ### Names within elements

Elements around a place are listed from the innermost one outwards. -/

/-- What an element points at, behind the path by which it does so. -/
def Element.target? (e : Element) : Option (String × Target) :=
  if e.localName = "bindings" then (e.attribute? "scd").map fun scd => (scd, .ofScd scd)
  else none

/-- The element is that of a group. -/
def Element.isGroup (e : Element) : Bool :=
  match e.target? with
  | some (_, .group _) => true
  | _ => false

/-- The namespace of a prefix, as the innermost element that declares the prefix has it. -/
def spaceOf? (scope : List Element) (qualifier : String) : Option String :=
  scope.findSome? (·.attribute? ("xmlns:" ++ qualifier))

/-- The namespace of the schema that an element points at. -/
def Element.schemaSpace? (e : Element) (around : List Element) : Option String :=
  match e.target? with
  | some (_, .schema qualifier) => spaceOf? (e :: around) qualifier
  | _ => none

/-- The namespace of names without a prefix: that of the innermost schema, or none. -/
def schemaSpace : (scope : List Element) → String
  | [] => ""
  | e :: around => (e.schemaSpace? around).getD (schemaSpace around)

/-- The parts of a name in front of its first colon and behind it. -/
def splitName? (name : String) : Option (String × String) :=
  match name.toList.span (· ≠ ':') with
  | (_, []) => none
  | (front, _ :: behind) => some (.ofList front, .ofList behind)

/-- The component that a name on a path stands for. -/
def componentOf (scope : List Element) (scd name : String) : Except Error QName :=
  match splitName? name with
  | none => .ok { space := schemaSpace scope, localName := name }
  | some (qualifier, localName) =>
    match spaceOf? scope qualifier with
    | some space => .ok { space, localName }
    | none => .error (.unknownPrefix qualifier scd)

/-- The path and the component of the group of an element, if it is that of a group. -/
def Element.group? (e : Element) (around : List Element) :
    Except Error (Option (String × QName)) :=
  match e.target? with
  | some (scd, .schema qualifier) =>
    match spaceOf? (e :: around) qualifier with
    | some _ => .ok none
    | none => .error (.unknownPrefix qualifier scd)
  | some (scd, .group name) => do
    let component ← componentOf (e :: around) scd name
    pure (some (scd, component))
  | _ => .ok none

/-! ### Readings -/

/-- The binding of a group to an interface, where there is a group. -/
def bindingsOf (group : Option (String × QName)) (interface : Option String) :
    Except Error (List Binding) :=
  match group, interface with
  | none, _ => .ok []
  | some (_, component), some interface => .ok [{ interface, component }]
  | some (scd, _), none => .error (.missingInterface scd)

namespace Forest

/-- The bindings of the elements within some others. Each group has one, behind those of the
groups within it. What is within a group names its interface. -/
def reading (named : Forest → Option String) (around : List Element) :
    Forest → Except Error (List Binding)
  | .nil => pure []
  | .cons e within rest => do
    let group ← e.group? around
    let inner ← within.reading named (e :: around)
    let own ← bindingsOf group (named within)
    let others ← rest.reading named around
    pure (inner ++ own ++ others)

/-- The interfaces that the elements name, in the order of the document, without those named
within a group. -/
def references : Forest → List String
  | .nil => []
  | .cons e within rest =>
    e.reference?.toList ++ (if e.isGroup then [] else within.references) ++ rest.references

/-- The first interface that elements name outside of the groups among them. -/
def ownReference? (f : Forest) : Option String := f.references.head?

end Forest

/-! ### Prefixes -/

theorem exists_eq_append_of_startsWith {start s : String} (h : s.startsWith start) :
  ∃ rest, s = start ++ rest
  := by
  rw [String.startsWith_string_iff] at h
  obtain ⟨cs, eq⟩ := h
  use .ofList cs
  apply String.toList_inj.mp
  rw [String.toList_append, String.toList_ofList, eq]

/-- Looking up a prefix is looking up the attribute that declares it. -/
theorem Element.lookup_prefixes (e : Element) (qualifier : String) :
  e.prefixes.lookup qualifier = e.attribute? ("xmlns:" ++ qualifier)
  := by
  rw [prefixes, attribute?]
  induction e.attributes.reverse with
  | nil => rfl
  | cons a attributes ih =>
      obtain ⟨key, value⟩ := a
      by_cases declares : key.startsWith "xmlns:"
      · obtain ⟨name, rfl⟩ := exists_eq_append_of_startsWith declares
        have behind : (("xmlns:" ++ name).drop 6).toString = name := by
          have h := behind?_append "xmlns:" name
          rw [behind?, if_pos declares] at h
          apply Option.some.inj h
        simp only [List.filterMap_cons, if_pos declares, behind]
        by_cases same : qualifier = name
        · subst same
          rw [List.lookup_cons_self, List.lookup_cons_self]
        · have apart : "xmlns:" ++ qualifier ≠ "xmlns:" ++ name := by
            intro eq
            apply same
            apply String.toList_inj.mp
            have letters := congrArg String.toList eq
            rw [String.toList_append, String.toList_append] at letters
            apply List.append_cancel_left letters
          rw [List.lookup_cons, List.lookup_cons, beq_false_of_ne same, beq_false_of_ne apart]
          apply ih
      · have apart : "xmlns:" ++ qualifier ≠ key := by
          rintro rfl
          apply declares
          rw [String.startsWith_string_iff, String.toList_append]
          apply List.prefix_append
        simp only [List.filterMap_cons, if_neg declares, List.lookup_cons, beq_false_of_ne apart]
        apply ih

/-! ### Frames of open elements -/

/-- Frames say of prefixes and namespaces what the elements say that they are of. -/
inductive Scoped : List Frame → List Element → Prop where
  | nil : Scoped [] []
  | cons {frame : Frame} {e : Element} {stack : List Frame} {around : List Element}
      (prefixes : frame.prefixes = e.prefixes) (space : frame.space = e.schemaSpace? around)
      (h : Scoped stack around) :
    Scoped (frame :: stack) (e :: around)

namespace Scoped

variable {stack : List Frame} {around : List Element}

/-- A prefix means what the innermost element that declares it says. -/
theorem resolvePrefix?_eq (h : Scoped stack around) (qualifier : String) :
  resolvePrefix? stack qualifier = spaceOf? around qualifier
  := by
  induction h with
  | nil => rfl
  | cons prefixes _ _ ih =>
      rw [resolvePrefix?, spaceOf?, List.findSome?_cons, List.findSome?_cons, prefixes,
        Element.lookup_prefixes]
      rw [resolvePrefix?, spaceOf?] at ih
      rw [ih]

theorem resolvePrefix?_cons (h : Scoped stack around) (e : Element) (qualifier : String) :
  resolvePrefix? ({ prefixes := e.prefixes } :: stack) qualifier = spaceOf? (e :: around) qualifier
  := by
  have inside : Scoped ({ prefixes := e.prefixes, space := e.schemaSpace? around } :: stack)
      (e :: around) := .cons rfl rfl h
  apply inside.resolvePrefix?_eq

/-- A name without a prefix is in the namespace of the innermost schema. -/
theorem defaultSpace_eq (h : Scoped stack around) :
  defaultSpace stack = schemaSpace around
  := by
  induction h with
  | nil => rfl
  | @cons frame e stack around _ space _ ih =>
      rw [defaultSpace, schemaSpace, List.findSome?_cons, space, ← ih]
      cases e.schemaSpace? around with
      | none => rfl
      | some space => rfl

/-- A name stands for the same component among the frames and among the elements. -/
theorem resolveName_eq (h : Scoped stack around) (scd name : String) :
  resolveName stack scd name = componentOf around scd name
  := by
  rw [resolveName, componentOf, splitName?, List.span_eq_takeWhile_dropWhile, h.defaultSpace_eq]
  cases name.toList.dropWhile (· ≠ ':') with
  | nil => rfl
  | cons _ behind =>
      cases declared : spaceOf? around (.ofList (name.toList.takeWhile (· ≠ ':'))) with
      | none => simp only [h.resolvePrefix?_eq, declared]
      | some space => simp only [h.resolvePrefix?_eq, declared]

/-- Interfaces for groups leave prefixes and namespaces as they are. -/
theorem attach (h : Scoped stack around) (interface : String) :
  Scoped (attach interface stack) around
  := by
  induction h with
  | nil => apply Scoped.nil
  | cons prefixes space h ih =>
      rw [Episode.attach]
      split
      · apply Scoped.cons prefixes space ih
      · apply Scoped.cons _ _ h
        · apply prefixes
        · apply space

end Scoped

/-- The frame of an element, with the interface of its group once that is known. -/
def Element.frame (e : Element) (around : List Element) (group : Option (String × QName))
    (interface : Option String) : Frame where
  prefixes := e.prefixes
  space := e.schemaSpace? around
  pending := group.map fun (scd, component) => { scd, component, interface }

/-- The frame of an element is what the element says among those around it. -/
theorem Scoped.frameOf_eq {stack : List Frame} {around : List Element} (h : Scoped stack around)
    (e : Element) :
  frameOf stack e = (e.group? around).map fun group => e.frame around group none
  := by
  simp only [frameOf, Element.group?, Element.frame, Element.schemaSpace?, Element.target?]
  by_cases named : e.localName = "bindings"
  · simp only [if_pos named]
    cases path : e.attribute? "scd" with
    | none => rfl
    | some scd =>
        simp only [Option.map_some]
        cases target : Target.ofScd scd with
        | other => rfl
        | schema qualifier =>
            simp only [h.resolvePrefix?_cons]
            cases spaceOf? (e :: around) qualifier with
            | none => rfl
            | some space => rfl
        | group name =>
            have none : e.schemaSpace? around = none := by
              simp only [Element.schemaSpace?, Element.target?, if_pos named, path,
                Option.map_some, target]
            have inside : Scoped ({ prefixes := e.prefixes } :: stack) (e :: around) :=
              .cons rfl none.symm h
            simp only [inside.resolveName_eq]
            cases componentOf (e :: around) scd name with
            | error reason => rfl
            | ok component => rfl
  · simp only [if_neg named]
    rfl

/-- An element with a group is one of a group. -/
theorem Element.isSome_of_group? {e : Element} {around : List Element}
    {group : Option (String × QName)} (h : e.group? around = .ok group) :
  group.isSome = e.isGroup
  := by
  rw [group?] at h
  rw [isGroup]
  split at h
  · next target =>
      split at h
      · cases h
        rw [target]
        rfl
      · cases h
  · next scd name target =>
      cases found : componentOf (e :: around) scd name with
      | error reason =>
          rw [found] at h
          cases h
      | ok component =>
          rw [found] at h
          cases h
          rw [target]
          rfl
  · next schema group =>
      cases h
      split
      · next target => cases group _ _ target
      · rfl

/-- The element of a group names no interface. -/
theorem Element.reference?_of_isGroup {e : Element} (h : e.isGroup) :
  e.reference? = none
  := by
  rw [isGroup, target?] at h
  by_cases named : e.localName = "bindings"
  · rw [reference?, named]
    rfl
  · rw [if_neg named] at h
    cases h

/-- Gives interfaces to the innermost group that is open, one after the other. -/
def attachAll (interfaces : List String) (stack : List Frame) : List Frame :=
  interfaces.foldl (fun stack interface => attach interface stack) stack

theorem attachAll_nil (interfaces : List String) :
  attachAll interfaces [] = []
  := by
  induction interfaces with
  | nil => rfl
  | cons _ _ ih => apply ih

theorem attachAll_append (interfaces interfaces' : List String) (stack : List Frame) :
  attachAll (interfaces ++ interfaces') stack = attachAll interfaces' (attachAll interfaces stack)
  := List.foldl_append

theorem Scoped.attachAll {stack : List Frame} {around : List Element} (h : Scoped stack around)
    (interfaces : List String) :
  Scoped (attachAll interfaces stack) around
  := by
  induction interfaces generalizing stack with
  | nil => apply h
  | cons interface interfaces ih => apply ih (h.attach interface)

/-- A group keeps the first interface that it is given, and lets none of them past. -/
theorem attachAll_frame (e : Element) (around : List Element) (group : Option (String × QName))
    (interface : Option String) (interfaces : List String) (stack : List Frame) :
  attachAll interfaces (e.frame around group interface :: stack)
    = e.frame around group (interface.or interfaces.head?)
      :: attachAll (if group.isSome then [] else interfaces) stack
  := by
  induction interfaces generalizing interface stack with
  | nil =>
      rw [List.head?_nil, Option.or_none, ite_self]
      rfl
  | cons first interfaces ih =>
      cases group with
      | none => apply ih
      | some group =>
          apply (ih (interface.or (some first)) stack).trans
          cases interface with
          | none => rfl
          | some interface => rfl

namespace Walk

variable {w : Walk} {around : List Element}

/-- Going into an element gives its interface to the groups around it. -/
theorem enter_eq (h : Scoped w.stack around) (e : Element) :
  w.enter e = (e.group? around).map fun group =>
    { w with stack := attachAll e.reference?.toList (e.frame around group none :: w.stack) }
  := by
  rw [enter, h.frameOf_eq]
  cases e.group? around with
  | error reason => rfl
  | ok group =>
      cases e.reference? with
      | none => rfl
      | some interface => rfl

/-- Going out of an element binds its group. -/
theorem leave_frame (e : Element) (around : List Element) (group : Option (String × QName))
    (interface : Option String) (stack : List Frame) (bindings : List Binding) :
  leave { stack := e.frame around group interface :: stack, bindings }
    = (bindingsOf group interface).map fun own => { stack, bindings := bindings ++ own }
  := by
  cases group with
  | none =>
      have same : bindings ++ [] = bindings := List.append_nil _
      rw [bindingsOf, Except.map, same]
      rfl
  | some group =>
      cases interface with
      | none => rfl
      | some interface => rfl

/-- The interface that an element names is not that of its own group. -/
theorem attachAll_reference? {e : Element} {group : Option (String × QName)}
    (opening : e.group? around = .ok group) (stack : List Frame) :
  attachAll e.reference?.toList (e.frame around group none :: stack)
    = e.frame around group e.reference? :: attachAll e.reference?.toList stack
  := by
  rw [attachAll_frame, Element.isSome_of_group? opening, Option.none_or]
  by_cases named : e.isGroup
  · rw [Element.reference?_of_isGroup named, Option.toList_none, ite_self]
    rfl
  · rw [if_neg named]
    cases e.reference? with
    | none => rfl
    | some interface => rfl

theorem bindingsOf_or_reference? {e : Element} {group : Option (String × QName)}
    (opening : e.group? around = .ok group) (interface : Option String) :
  bindingsOf group (e.reference?.or interface) = bindingsOf group interface
  := by
  cases group with
  | none => rfl
  | some group =>
      rw [Element.reference?_of_isGroup (Element.isSome_of_group? opening).symm, Option.none_or]

/-- Going through a forest adds its bindings, and gives its interfaces to the groups around it. -/
theorem through_eq (f : Forest) (h : Scoped w.stack around) :
  w.through f = (f.reading Forest.ownReference? around).map fun bindings =>
    { stack := attachAll f.references w.stack, bindings := w.bindings ++ bindings }
  := by
  induction f generalizing w around with
  | nil =>
      have same : w.bindings ++ [] = w.bindings := List.append_nil _
      simp only [Forest.reading, pure, Except.pure, Except.map, same]
      rfl
  | cons e within rest ihWithin ihRest =>
      rw [through, Forest.reading, enter_eq h]
      cases opening : e.group? around with
      | error reason => rfl
      | ok group =>
          let outer := attachAll e.reference?.toList w.stack
          have outside : Scoped outer around := h.attachAll _
          have inside : Scoped (e.frame around group e.reference? :: outer) (e :: around) :=
            .cons rfl rfl outside
          simp only [Except.map, bind, Except.bind, attachAll_reference? opening]
          rw [ihWithin (w := ⟨_, w.bindings⟩) inside]
          cases within.reading Forest.ownReference? (e :: around) with
          | error reason => rfl
          | ok inner =>
              simp only [Except.map, attachAll_frame, leave_frame,
                bindingsOf_or_reference? opening, ← Forest.ownReference?.eq_1]
              cases bindingsOf group within.ownReference? with
              | error reason => rfl
              | ok own =>
                  have beside : Scoped (attachAll
                      (if group.isSome then [] else within.references) outer) around :=
                    outside.attachAll _
                  simp only [ihRest (w := ⟨attachAll _ outer, _⟩) beside]
                  cases rest.reading Forest.ownReference? around with
                  | error reason => rfl
                  | ok others =>
                      simp only [Except.map, pure, Except.pure, Forest.references,
                        attachAll_append, List.append_assoc, Element.isSome_of_group? opening]
                      rfl

end Walk

/-! ### Documents -/

/-- Walking over the tags of a forest is reading the forest. -/
theorem Spells.foldlM_step_eq {events : List (Xml.Event × Nat)} {f : Forest}
    (h : Spells events f) :
  events.foldlM Walk.step {}
    = (f.reading Forest.ownReference? []).map fun bindings => { bindings }
  := by
  rw [h.foldlM_step, Walk.through_eq f Scoped.nil]
  simp only [attachAll_nil, List.nil_append]

theorem Spells.readAnnotations_eq {document : Xml.Reading} {f : Forest}
    (h : Spells document.events f) (whole : document.error = none) :
  readAnnotations document = f.reading Forest.ownReference? []
  := by
  rw [readAnnotations, h.foldlM_step_eq, whole]
  cases f.reading Forest.ownReference? [] with
  | error reason => rfl
  | ok bindings => rfl

/-- The element of a tag has the local name of the tag. -/
theorem localName_of_readElement {position : Nat} {tag : Xml.Tag} {e : Element}
    (h : readElement position tag = .ok e) :
  e.localName = .ofList tag.localName
  := by
  rw [readElement] at h
  cases values : readValues position tag.attributes.1 with
  | error reason =>
      simp only [values] at h
      cases h
  | ok attributes =>
      simp only [values] at h
      cases failed : tag.attributes.2 with
      | some e =>
          simp only [failed] at h
          cases h
      | none =>
          simp only [failed] at h
          cases h
          rfl

/-- The root of a document is the first element of its forest. -/
theorem Spells.rootName?_eq {document : Xml.Reading} {root : Element} {within rest : Forest}
    (h : Spells document.events (.cons root within rest)) :
  rootName? document = some root.localName
  := by
  rw [rootName?]
  generalize document.events = events at h
  generalize tree : Forest.cons root within rest = f at h
  induction h with
  | nil => cases tree
  | @skip e position events f noTag h ih =>
      cases e with
      | text raw | cdata content | doctype | aside => apply ih tree
      | start tag | empty tag | close name => cases noTag
  | empty read h ih =>
      cases tree
      apply congrArg some (localName_of_readElement read).symm
  | element read inside h ihInside ih =>
      cases tree
      apply congrArg some (localName_of_readElement read).symm

/-- A document in the form of annotations is read by recursion over its forest. -/
theorem Spells.readBindings_eq {text : String} {f : Forest}
    (h : Spells (Xml.read text).events f) (whole : (Xml.read text).error = none)
    (root : rootName? (Xml.read text) = some "bindings") :
  readBindings text = f.reading Forest.ownReference? []
  := by
  simp only [readBindings, root]
  apply h.readAnnotations_eq whole

end GroupInterfaces.Episode
