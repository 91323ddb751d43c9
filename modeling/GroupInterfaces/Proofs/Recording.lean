import GroupInterfaces.Episode.Index
import GroupInterfaces.Episode.Record
import GroupInterfaces.Proofs.Annotations
import GroupInterfaces.Proofs.Grouping
import GroupInterfaces.Proofs.Loading

/-!
# Records as they are read back

A record is written with its entries in groups by namespace. Reading it back gives the binding
of every entry, in the order of the namespaces and within a namespace as they were recorded,
as long as no local name ends in white space, and no colon in a local name without a namespace
makes a prefix of what is in front of it.
-/

namespace GroupInterfaces.Episode

open Xml (Markup)

/-- The binding that an entry records. -/
def Entry.binding (e : Entry) : Binding where
  interface := e.interface.qualifiedName
  component := e.component

/-- A text does not end in white space. -/
def Untrailed (s : String) : Prop := ∀ c ∈ s.toList.getLast?, Text.isBlank c = false

/-! ### Paths -/

theorem behind?_append (start s : String) :
  behind? start (start ++ s) = some s
  := by
  have here : (start ++ s).startsWith start := by
    rw [String.startsWith_string_iff, String.toList_append]
    apply List.prefix_append
  rw [behind?, if_pos here]
  apply congrArg some
  apply String.toList_inj.mp
  change ((start ++ s).drop start.length).copy.toList = s.toList
  rw [String.toList_copy_drop, String.toList_append, ← String.length_toList, List.drop_left]

/-- A text has no beginning with another first character. -/
theorem behind?_eq_none {start s : String} {c d : Char} {cs ds : List Char}
    (hc : start.toList = c :: cs) (hd : s.toList = d :: ds) (apart : c ≠ d) :
  behind? start s = none
  := by
  rw [behind?, if_neg]
  rw [String.startsWith_string_iff, hc, hd, List.cons_prefix_cons]
  intro both
  apply apart both.1

/-- A text without white space around it is its own trimming. -/
theorem trim_eq {s : String} (leading : ∀ c ∈ s.toList.head?, Text.isBlank c = false)
    (trailing : Untrailed s) :
  Text.trim s = s
  := by
  have front : s.toList.dropWhile Text.isBlank = s.toList := by
    cases h : s.toList with
    | nil => rfl
    | cons c cs =>
        rw [List.dropWhile_cons, if_neg]
        rw [leading c (by simp [h])]
        decide
  have back : s.toList.reverse.dropWhile Text.isBlank = s.toList.reverse := by
    cases h : s.toList.reverse with
    | nil => rfl
    | cons c cs =>
        rw [List.dropWhile_cons, if_neg]
        rw [trailing c (by rw [List.getLast?_eq_head?_reverse, h]; rfl)]
        decide
  rw [Text.trim, Text.dropTrailing, front, back, List.reverse_reverse, String.ofList_toList]

theorem untrailed_append {s t : String} (hs : Untrailed s) (ht : Untrailed t) :
  Untrailed (s ++ t)
  := by
  intro c mem
  rw [String.toList_append, List.getLast?_append] at mem
  rcases Option.or_eq_some_iff.mp mem with mem | ⟨-, mem⟩
  · apply ht c mem
  · apply hs c mem

theorem untrailed_of_concat {s : String} {c : Char} (front : String)
    (h : s.toList = front.toList ++ [c]) (blank : Text.isBlank c = false) :
  Untrailed s
  := by
  intro d mem
  rw [h, List.getLast?_concat] at mem
  cases mem
  apply blank

/-- A path that begins with neither white space nor a slash, but with the axis of a group, points
at what is behind the axis. -/
theorem Target.ofScd_eq_group {s rest : String} {c : Char} {cs : List Char}
    (first : s.toList = c :: cs) (blank : Text.isBlank c = false) (slash : c ≠ '/')
    (trailing : Untrailed s) (schema : behind? "x-schema::" s = none)
    (group : behind? "group::" s = some rest
      ∨ behind? "group::" s = none ∧ behind? "attributeGroup::" s = some rest) :
  Target.ofScd s = .group rest
  := by
  have trimmed : Text.trim s = s := by
    apply trim_eq _ trailing
    intro d mem
    rw [first] at mem
    cases mem
    apply blank
  have path : s.toList.dropWhile (· = '/') = s.toList := by
    rw [first, List.dropWhile_cons, if_neg (by simpa using slash)]
  rcases group with model | ⟨model, attributes⟩
  · simp only [Target.ofScd, trimmed, path, String.ofList_toList, schema, model]
  · simp only [Target.ofScd, trimmed, path, String.ofList_toList, schema, model, attributes]

/-- The path to a group points at what is behind the axis. -/
theorem Target.ofScd_axis (kind : GroupKind) {rest : String} (h : Untrailed rest) :
  Target.ofScd (axis kind ++ "::" ++ rest) = .group rest
  := by
  have schema : "x-schema::".toList = 'x' :: "-schema::".toList := by decide +kernel
  have model : "group::".toList = 'g' :: "roup::".toList := by decide +kernel
  have attributes : "attributeGroup::".toList = 'a' :: "ttributeGroup::".toList := by
    decide +kernel
  cases kind with
  | modelGroup =>
      have start : axis .modelGroup ++ "::" = "group::" := by decide +kernel
      have first : ("group::" ++ rest).toList = 'g' :: ("roup::".toList ++ rest.toList) := by
        rw [String.toList_append, model]
        rfl
      have trailing : Untrailed ("group::" ++ rest) :=
        untrailed_append (untrailed_of_concat "group:" rfl (by decide)) h
      rw [start]
      apply Target.ofScd_eq_group first (by decide) (by decide) trailing
      · apply behind?_eq_none schema first (by decide)
      · apply Or.inl (behind?_append "group::" rest)
  | attributeGroup =>
      have start : axis .attributeGroup ++ "::" = "attributeGroup::" := by decide +kernel
      have first : ("attributeGroup::" ++ rest).toList
          = 'a' :: ("ttributeGroup::".toList ++ rest.toList) := by
        rw [String.toList_append, attributes]
        rfl
      have trailing : Untrailed ("attributeGroup::" ++ rest) :=
        untrailed_append (untrailed_of_concat "attributeGroup:" rfl (by decide)) h
      rw [start]
      apply Target.ofScd_eq_group first (by decide) (by decide) trailing
      · apply behind?_eq_none schema first (by decide)
      · apply Or.inr ⟨behind?_eq_none model first (by decide), behind?_append _ rest⟩

/-! ### Walks over records -/

theorem localName_written_bindings (attributes : List (String × String)) :
  (Element.written "bindings" attributes).localName = "bindings"
  := rfl

theorem reference?_written_bindings (attributes : List (String × String)) :
  (Element.written "bindings" attributes).reference? = none
  := rfl

/-- An element that sets no prefix and has no path goes by what is around it. -/
theorem enter_root (w : Walk) :
  w.enter (.written "bindings" [("xmlns", "https://jakarta.ee/xml/ns/jaxb"), ("version", "3.0")])
    = .ok { w with stack := {} :: w.stack }
  := by
  have prefixes : (Element.written "bindings"
      [("xmlns", "https://jakarta.ee/xml/ns/jaxb"), ("version", "3.0")]).prefixes = [] := by
    decide +kernel
  simp only [Walk.enter, frameOf, prefixes, localName_written_bindings,
    reference?_written_bindings]
  rfl

/-- The element of a namespace binds a prefix to it and sets it for names without one. -/
theorem enter_space (w : Walk) (space : String) :
  w.enter (.written "bindings" [("scd", "x-schema::tns"), ("xmlns:tns", space)])
    = .ok { w with stack := { prefixes := [("tns", space)], space := some space } :: w.stack }
  := by
  have prefixes : (Element.written "bindings"
      [("scd", "x-schema::tns"), ("xmlns:tns", space)]).prefixes = [("tns", space)] := by
    have path : "scd".startsWith "xmlns:" = false := rfl
    have setting : "xmlns:tns".startsWith "xmlns:" = true := by decide +kernel
    have behind : ("xmlns:tns".drop 6).toString = "tns" := by decide +kernel
    simp only [Element.prefixes, Element.written, List.reverse_cons, List.reverse_nil,
      List.nil_append, List.cons_append, List.filterMap_cons, List.filterMap_nil, path, setting,
      behind]
    rfl
  have target : Target.ofScd "x-schema::tns" = .schema "tns" := by decide +kernel
  have scd : (Element.written "bindings"
      [("scd", "x-schema::tns"), ("xmlns:tns", space)]).attribute? "scd"
      = some "x-schema::tns" := rfl
  have resolved : resolvePrefix? ({ prefixes := [("tns", space)] } :: w.stack) "tns"
      = some space := rfl
  simp only [Walk.enter, frameOf, prefixes, localName_written_bindings, scd, if_true, target,
    resolved, reference?_written_bindings]
  rfl

/-- The element of an entry waits for the interface of its group. -/
theorem enter_entry {w : Walk} {scd name : String} {component : QName}
    (target : Target.ofScd scd = .group name)
    (resolved : resolveName ({} :: w.stack) scd name = .ok component) :
  w.enter (.written "bindings" [("scd", scd)])
    = .ok { w with stack := { pending := some { scd, component } } :: w.stack }
  := by
  have prefixes : (Element.written "bindings" [("scd", scd)]).prefixes = [] := rfl
  have path : (Element.written "bindings" [("scd", scd)]).attribute? "scd" = some scd := rfl
  simp only [Walk.enter, frameOf, prefixes, localName_written_bindings, path, if_true, target,
    resolved, reference?_written_bindings]
  rfl

/-- The element of an interface gives it to the group that waits for it. -/
theorem visit_interface (stack : List Frame) (bindings : List Binding) (scd : String)
    (component : QName) (interface : String) :
  Walk.visit { stack := { pending := some { scd, component } } :: stack, bindings }
      (.leaf "interface" [("ref", interface)])
    = .ok { stack := { pending := some { scd, component, interface := some interface } } :: stack
            bindings }
  := by
  have prefixes : (Element.written "interface" [("ref", interface)]).prefixes = [] := rfl
  have localName : (Element.written "interface" [("ref", interface)]).localName
      = "interface" := rfl
  have reference : (Element.written "interface" [("ref", interface)]).reference?
      = some interface := rfl
  have other : "interface" ≠ "bindings" := by decide
  simp only [Walk.visit, Walk.enter, frameOf, prefixes, localName, if_neg other, reference]
  rfl

/-- Going through the element of an entry gives its binding. -/
theorem visit_entry {w : Walk} {qualifier : String} {e : Entry}
    (trailing : Untrailed (qualifier ++ e.component.localName))
    (resolved : ∀ scd, resolveName ({} :: w.stack) scd (qualifier ++ e.component.localName)
      = .ok e.component) :
  w.visit (e.markup qualifier) = .ok { w with bindings := w.bindings ++ [e.binding] }
  := by
  rw [Entry.markup, String.append_assoc, Walk.visit,
    enter_entry (Target.ofScd_axis e.kind trailing) (resolved _)]
  simp only [bind, Except.bind, Walk.visitAll, visit_interface]
  rfl

theorem visitAll_append (w : Walk) (ms ms' : List Markup) :
  w.visitAll (ms ++ ms') = (do
    let w ← w.visitAll ms
    w.visitAll ms')
  := by
  induction ms generalizing w with
  | nil => rfl
  | cons m ms ih =>
      rw [List.cons_append, Walk.visitAll, Walk.visitAll, bind_assoc]
      congr 1
      funext w'
      apply ih

/-- Going through several elements gives the bindings of each if each gives its own. -/
theorem visitAll_map {α : Type} {items : List α} {f : α → List Markup} {bs : α → List Binding}
    {stack : List Frame}
    (h : ∀ a ∈ items, ∀ w : Walk, w.stack = stack →
      w.visitAll (f a) = .ok { w with bindings := w.bindings ++ bs a })
    {w : Walk} (here : w.stack = stack) :
  w.visitAll (items.flatMap f) = .ok { w with bindings := w.bindings ++ items.flatMap bs }
  := by
  induction items generalizing w with
  | nil => simp [Walk.visitAll, pure, Except.pure]
  | cons a items ih =>
      rw [List.flatMap_cons, List.flatMap_cons, visitAll_append, h a List.mem_cons_self w here]
      apply (ih (fun b mem => h b (List.mem_cons_of_mem a mem)) _).trans
      · rw [List.append_assoc]
      · apply here

theorem visitAll_entries {w : Walk} {qualifier : String} {es : List Entry}
    (trailing : ∀ e ∈ es, Untrailed (qualifier ++ e.component.localName))
    (resolved : ∀ e ∈ es, ∀ scd,
      resolveName ({} :: w.stack) scd (qualifier ++ e.component.localName) = .ok e.component) :
  w.visitAll (es.map (·.markup qualifier))
    = .ok { w with bindings := w.bindings ++ es.map Entry.binding }
  := by
  rw [List.map_eq_flatMap, List.map_eq_flatMap]
  apply visitAll_map _ rfl
  intro e mem w' here
  rw [← here] at resolved
  rw [Walk.visitAll, visit_entry (trailing e mem) (resolved e mem)]
  rfl

/-- A name without a colon belongs to the namespace that is set. -/
theorem resolveName_of_notMem {stack : List Frame} {name : String} (scd : String)
    (h : ':' ∉ name.toList) :
  resolveName stack scd name = .ok { space := defaultSpace stack, localName := name }
  := by
  have none : name.toList.dropWhile (· ≠ ':') = [] := by
    apply List.dropWhile_eq_nil_iff.mpr
    intro c mem
    apply decide_eq_true
    rintro rfl
    apply h mem
  simp only [resolveName, none]

/-- A name with the prefix of the namespace belongs to the namespace. -/
theorem resolveName_tns (stack : List Frame) (scd space name : String) :
  resolveName ({} :: { prefixes := [("tns", space)], space := some space } :: stack) scd
      ("tns:" ++ name)
    = .ok { space, localName := name }
  := by
  have letters : ("tns:" ++ name).toList = ['t', 'n', 's', ':'] ++ name.toList := by
    rw [String.toList_append]
    rfl
  have resolved : resolvePrefix? ({} :: { prefixes := [("tns", space)], space := some space }
      :: stack) (String.ofList ['t', 'n', 's']) = some space := rfl
  have front : (['t', 'n', 's', ':'] ++ name.toList).takeWhile (· ≠ ':') = ['t', 'n', 's'] := rfl
  have behind : (['t', 'n', 's', ':'] ++ name.toList).dropWhile (· ≠ ':')
      = ':' :: name.toList := rfl
  simp only [resolveName, letters, front, behind, resolved, String.ofList_toList]

namespace Record

variable {r : Record}

section

variable (trailing : ∀ e ∈ r, Untrailed e.component.localName)
  (colons : ∀ e ∈ r, e.component.space = "" → ':' ∉ e.component.localName.toList)
include trailing colons

/-- Going through the elements for a namespace gives the bindings of its entries. -/
theorem visitAll_spaceMarkup (space : String) {w : Walk} (root : w.stack = [{}]) :
  w.visitAll (r.spaceMarkup space)
    = .ok { w with
        bindings := w.bindings ++ (r.filter (·.component.space = space)).map Entry.binding }
  := by
  have spaces : ∀ e ∈ r.filter (·.component.space = space), e ∈ r ∧ e.component.space = space := by
    intro e mem
    simpa using mem
  rw [spaceMarkup]
  by_cases none : space = ""
  · rw [if_pos none]
    apply visitAll_entries
    · intro e mem
      rw [String.empty_append]
      apply trailing e (spaces e mem).1
    · intro e mem scd
      obtain ⟨entry, here⟩ := spaces e mem
      rw [String.empty_append, root, resolveName_of_notMem scd (colons e entry (here.trans none))]
      obtain ⟨kind, ⟨_, localName⟩, interface⟩ := e
      rw [← here] at none
      subst none
      rfl
  · rw [if_neg none, Walk.visitAll, Walk.visit, enter_space]
    simp only [bind, Except.bind]
    rw [visitAll_entries]
    · rfl
    · intro e mem
      apply untrailed_append _ (trailing e (spaces e mem).1)
      apply untrailed_of_concat "tns" rfl
      decide
    · intro e mem scd
      obtain ⟨entry, here⟩ := spaces e mem
      rw [resolveName_tns, ← here]

/-- Going through the element of a record gives the bindings of its entries by namespace. -/
theorem visit_markup :
  Walk.visit {} r.markup
    = .ok { bindings := r.spaces.flatMap fun space =>
        (r.filter (·.component.space = space)).map Entry.binding }
  := by
  rw [markup, Walk.visit, enter_root]
  simp only [bind, Except.bind]
  rw [visitAll_map (fun space _ w root => visitAll_spaceMarkup trailing colons space root) rfl]
  rfl

end

/-- The element of a record is well-formed. -/
theorem wellFormed_markup (r : Record) :
  r.markup.WellFormed
  := by
  have bindings : Xml.IsName "bindings".toList := .of_all rfl rfl
  have interface : Xml.IsName "interface".toList := .of_all rfl rfl
  have scd : Xml.IsName "scd".toList := .of_all rfl rfl
  have ref : Xml.IsName "ref".toList := .of_all rfl rfl
  have tns : Xml.IsName "xmlns:tns".toList := .of_all rfl rfl
  have xmlns : Xml.IsName "xmlns".toList := .of_all rfl rfl
  have version : Xml.IsName "version".toList := .of_all rfl rfl
  have entry : ∀ (qualifier : String) (e : Entry), (e.markup qualifier).WellFormed := by
    intro qualifier e
    apply Markup.WellFormed.branch bindings (by simpa using scd) (by simp)
    intro m mem
    obtain rfl := List.mem_singleton.mp mem
    apply Markup.WellFormed.leaf interface (by simpa using ref) (by simp)
  apply Markup.WellFormed.branch bindings (by simpa using ⟨xmlns, version⟩) (by simp)
  intro m mem
  obtain ⟨space, -, mem⟩ := List.mem_flatMap.mp mem
  rw [spaceMarkup] at mem
  split at mem
  · obtain ⟨e, -, rfl⟩ := List.mem_map.mp mem
    apply entry
  · obtain rfl := List.mem_singleton.mp mem
    apply Markup.WellFormed.branch bindings (by simpa using ⟨scd, tns⟩) (by simp)
    intro m mem
    obtain ⟨e, -, rfl⟩ := List.mem_map.mp mem
    apply entry

/-! ### Reading a record back -/

/-- The entries by namespace, with those of a namespace as they were recorded. -/
def sorted (r : Record) : Record := sortedBy (·.component.space) r

theorem flatMap_spaces (r : Record) :
  (r.spaces.flatMap fun space => r.filter (·.component.space = space)) = r.sorted
  := by
  apply flatMap_filter_eq_sortedBy
  · apply Entries.ascending_iff_map_fst.mp
    apply SortedMap.ascending
  · intro e mem
    have some : ((SortedMap.ofList (r.map fun e => (e.component.space, ()))).get?
        e.component.space).isSome := by
      rw [SortedMap.get?_ofList, Option.isSome_map, List.find?_isSome]
      use (e.component.space, ())
      constructor
      · apply List.mem_reverse.mpr
        apply List.mem_map_of_mem (f := fun e => (e.component.space, ())) mem
      · simp
    obtain ⟨a, found⟩ := Option.isSome_iff_exists.mp some
    apply List.mem_map_of_mem (SortedMap.mem_toList_iff.mpr found)

/-- The last entry for a component is the same by namespace as it was recorded. -/
theorem find?_reverse_sorted (r : Record) (group : QName) :
  r.sorted.reverse.find? (·.component = group) = r.reverse.find? (·.component = group)
  := by
  have within : ∀ r : Record, r.filter (·.component = group)
      = (r.filter (·.component.space = group.space)).filter (·.component = group) := by
    intro r
    rw [List.filter_filter]
    congr 1
    funext e
    by_cases here : e.component = group
    · simp [here]
    · simp [here]
  rw [← List.head?_filter, ← List.head?_filter, List.filter_reverse, List.filter_reverse,
    within r.sorted, within r, sorted, filter_sortedBy]

theorem get?_ofBindings_sorted (r : Record) (environment : Environment) (group : QName) :
  (Index.ofBindings (r.sorted.map Entry.binding) environment).get? group
    = (r.reverse.find? (·.component = group)).map fun e =>
        .resolve (.ofQualifiedName e.interface.qualifiedName) environment
  := by
  rw [Index.get?_ofBindings, ← List.map_reverse, List.find?_map, Option.map_map,
    ← find?_reverse_sorted]
  rfl

/-- An index of what was recorded knows the components of the entries. -/
theorem contains_ofBindings_sorted_iff (r : Record) (environment : Environment) (group : QName) :
  (Index.ofBindings (r.sorted.map Entry.binding) environment).contains group
    ↔ ∃ e ∈ r, e.component = group
  := by
  rw [SortedMap.contains, get?_ofBindings_sorted, Option.isSome_map, List.find?_isSome]
  simp

section

variable (trailing : ∀ e ∈ r, Untrailed e.component.localName)
  (colons : ∀ e ∈ r, e.component.space = "" → ':' ∉ e.component.localName.toList)
include trailing colons

/-- The bindings that are read from a record are those of its entries by namespace. -/
theorem readBindings_write :
  readBindings r.write = .ok (r.sorted.map Entry.binding)
  := by
  have visit := visit_markup trailing colons
  rw [← List.map_flatMap, flatMap_spaces] at visit
  apply readBindings_renderDocument r.wellFormed_markup rfl visit

/-- Reading undoes writing: the entries of a record come back by namespace, and an index of them
knows their components and has for each what was recorded for it last. -/
theorem readBindings_write_and_index :
  readBindings r.write = .ok (r.sorted.map Entry.binding)
    ∧ ∀ environment group,
      ((Index.ofBindings (r.sorted.map Entry.binding) environment).contains group
        ↔ ∃ e ∈ r, e.component = group)
      ∧ (Index.ofBindings (r.sorted.map Entry.binding) environment).get? group
        = (r.reverse.find? (·.component = group)).map fun e =>
            .resolve (.ofQualifiedName e.interface.qualifiedName) environment
  := by
  use readBindings_write trailing colons
  intro environment group
  use contains_ofBindings_sorted_iff r environment group
  apply get?_ofBindings_sorted

end

/-- A record with a local name that has to be escaped, and with two entries for another one. -/
def sample : Record :=
  [⟨.modelGroup, ⟨"urn:z", "a<\"b\">&'c'"⟩, ⟨"org.z", "Mixed"⟩⟩,
    ⟨.attributeGroup, ⟨"", "audit"⟩, ⟨"", "First"⟩⟩,
    ⟨.attributeGroup, ⟨"", "audit"⟩, ⟨"org.audit", "Second"⟩⟩]

/-- The sample is read back, and what was recorded last counts. -/
theorem readBindings_write_and_index_sample :
  readBindings sample.write = .ok (sample.sorted.map Entry.binding)
    ∧ (Index.ofBindings (sample.sorted.map Entry.binding) {}).get? ⟨"", "audit"⟩
      = some { typeRef := ⟨"org.audit", "Second"⟩, availability := .missing }
  := by
  have trailing : ∀ e ∈ sample, Untrailed e.component.localName := by
    simp only [sample, List.forall_mem_cons]
    refine ⟨?_, ?_, ?_, by simp⟩
    · apply untrailed_of_concat "a<\"b\">&'c" rfl (by decide)
    · apply untrailed_of_concat "audi" rfl (by decide)
    · apply untrailed_of_concat "audi" rfl (by decide)
  have colons : ∀ e ∈ sample, e.component.space = "" → ':' ∉ e.component.localName.toList := by
    decide +kernel
  obtain ⟨bindings, index⟩ := readBindings_write_and_index trailing colons
  use bindings
  rw [(index {} ⟨"", "audit"⟩).2]
  decide +kernel

end Record

end GroupInterfaces.Episode
