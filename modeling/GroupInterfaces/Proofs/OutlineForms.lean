import GroupInterfaces.Outline.Json
import GroupInterfaces.Proofs.SchemaForms
import GroupInterfaces.Proofs.Slots

/-!
# The forms of outlines

Members, classes, packages, outlines and environments lose nothing in their JSON forms, provided
that what is nested in an interface stands in the order of its keys: this is the order in which it
is read.
-/

namespace GroupInterfaces

/-! ### References and members -/

theorem TypeRef.encode_eq (t : TypeRef) :
  encode t = .object (present
    [("package", some (encode t.package)), ("name", some (encode t.name))])
  := rfl

instance : PlainForm TypeRef where
  isPlain_encode t := isPlain_record t.encode_eq (by simp)

instance : LawfulForm TypeRef where
  recovers t := by
    apply recovers_record t.encode_eq (fun _ _ => rfl) (by simp)
    intro fields give
    rw [give.required (recovers t.package) rfl, give.required (recovers t.name) rfl]
    rfl

theorem Param.encode_eq (p : Param) :
  encode p = .object (present [("name", some (encode p.name)), ("ty", some (encode p.type))])
  := rfl

instance : PlainForm Param where
  isPlain_encode p := isPlain_record p.encode_eq (by simp)

instance : LawfulForm Param where
  recovers p := by
    apply recovers_record p.encode_eq (fun _ _ => rfl) (by simp)
    intro fields give
    rw [give.required (recovers p.name) rfl, give.required (recovers p.type) rfl]
    rfl

theorem Method.encode_eq (m : Method) :
  encode m = .object (present
    [("name", some (encode m.name)), ("return_type", some (encode m.returnType)),
      ("params", some (encode m.params)),
      ("throws", if m.throws.isEmpty then none else some (encode m.throws))])
  := by
  apply congrArg Json.object
  cases m.throws with
  | nil => rfl
  | cons t ts => rfl

instance : PlainForm Method where
  isPlain_encode m := isPlain_record m.encode_eq (by simp)

instance : LawfulForm Method where
  recovers m := by
    apply recovers_record m.encode_eq (fun _ _ => rfl) (by simp)
    intro fields give
    rw [give.required (recovers m.name) rfl, give.required (recovers m.returnType) rfl,
      give.getD (recovers m.params) rfl]
    obtain ⟨name, returnType, params, throws⟩ := m
    cases throws with
    | nil =>
        rw [give.absent [] rfl]
        rfl
    | cons t ts =>
        rw [give.getD (recovers (t :: ts)) rfl]
        rfl

theorem Field.encode_eq (f : Field) :
  encode f = .object (present
    [("property_name", some (encode f.propertyName)), ("field_name", some (encode f.fieldName)),
      ("ty", some (encode f.type))])
  := rfl

instance : PlainForm Field where
  isPlain_encode f := isPlain_record f.encode_eq (by simp)

instance : LawfulForm Field where
  recovers f := by
    apply recovers_record f.encode_eq (fun _ _ => rfl) (by simp)
    intro fields give
    rw [give.required (recovers f.propertyName) rfl, give.required (recovers f.fieldName) rfl,
      give.required (recovers f.type) rfl]
    rfl

/-! ### Classes -/

namespace SchemaComponent

theorem encode_group (name : QName) :
  encode (SchemaComponent.group name)
    = tagRecord "tag" "group" (.object (present [("name", some (encode name))]))
  := rfl

theorem encode_element (name : QName) (t : Option ComplexType) :
  encode (SchemaComponent.element name t)
    = tagRecord "tag" "element" (.object (present
      [("name", some (encode name)), ("complex_type", t.map encode)]))
  := by
  rw [present_cons_some, present_cons_map, present_nil, List.append_nil]
  rfl

end SchemaComponent

instance : PlainForm SchemaComponent where
  isPlain_encode
    | .group name => by
        rw [SchemaComponent.encode_group]
        apply isPlain_tagRecord _ _ (isPlain_present (by simp))
    | .complexType t => isPlain_tagRecord _ _ (isPlain_encode t)
    | .element name t => by
        rw [SchemaComponent.encode_element]
        apply isPlain_tagRecord _ _ (isPlain_present (by simp))
    | .none => rfl

instance : LawfulForm SchemaComponent where
  recovers c := by
    intro s deep
    cases c with
    | group name =>
        rw [SchemaComponent.encode_group] at deep ⊢
        obtain ⟨variant, fields, same, named, given, give⟩ :=
          Variant.ofTagged_written ["group", "complex_type", "element", "none"] ["name"]
            (by simp) (by simp) (by simp) (by simp) deep
        change (Variant.ofTagged _ _ s _ >>= _) = _
        simp only [same, ok_bind, named, given]
        rw [give.required (recovers name) rfl]
        rfl
    | complexType t =>
        have read : decode { s with tagged := true } (encode t) = .ok t :=
          recovers t (depth_tagRecord _ _ _ ▸ deep)
        change (Variant.ofTagged _ _ s (tagRecord "tag" "complex_type" (encode t)) >>= _) = _
        rw [Variant.ofTagged_encode t.encode_eq (by simp) (by simp) deep]
        simp only [ok_bind, Variant.decodePayload, read]
        rfl
    | element name t =>
        rw [SchemaComponent.encode_element] at deep ⊢
        obtain ⟨variant, fields, same, named, given, give⟩ :=
          Variant.ofTagged_written ["group", "complex_type", "element", "none"]
            ["name", "complex_type"] (by simp) (by simp) (by simp) (by simp) deep
        change (Variant.ofTagged _ _ s _ >>= _) = _
        simp only [same, ok_bind, named, given]
        rw [give.required (recovers name) rfl, give.optional (recovers t) rfl]
        rfl
    | none =>
        change (Variant.ofTagged _ _ s (.object [("tag", .string "none")]) >>= _) = _
        rw [Variant.ofTagged_bare (by simp) deep]
        simp only [ok_bind]
        rfl

theorem GeneratedClass.encode_eq (c : GeneratedClass) :
  encode c = .object (present
    [("package", some (encode c.package)), ("name", some (encode c.name)),
      ("schema_component", some (encode c.component)), ("fields", some (encode c.fields)),
      ("methods", some (encode c.methods)), ("implements", some (encode c.implements))])
  := rfl

instance : PlainForm GeneratedClass where
  isPlain_encode c := isPlain_record c.encode_eq (by simp)

instance : LawfulForm GeneratedClass where
  recovers c := by
    apply recovers_record c.encode_eq (fun _ _ => rfl) (by simp)
    intro fields give
    rw [give.required (recovers c.package) rfl, give.required (recovers c.name) rfl,
      give.required (recovers c.component) rfl, give.getD (recovers c.fields) rfl,
      give.getD (recovers c.methods) rfl, give.getD (recovers c.implements) rfl]
    rfl

/-! ### Interfaces -/

namespace InterfaceDecl

/-- What is nested in the interface, and further in, stands in the order of its keys. -/
inductive InOrder : InterfaceDecl → Prop where
  | intro {d : InterfaceDecl} (ascending : Entries.Ascending d.nested)
      (nested : ∀ e ∈ d.nested, InOrder e.2) : InOrder d

theorem encodeEntries_eq (entries : List (String × InterfaceDecl)) :
  encodeEntries entries = entries.map fun (key, d) => (key, encode d)
  := by
  induction entries with
  | nil => rfl
  | cons e entries ih =>
      rw [encodeEntries, ih]
      rfl

theorem encode_eq (d : InterfaceDecl) :
  encode d = .object (present
    [("name", some (encode d.name)), ("package", some (encode d.package)),
      ("doc", some (encode d.doc)), ("methods", some (encode d.methods)),
      ("extends", some (encode d.supertypes)),
      ("nested", some (.object (d.nested.map fun (key, n) => (key, encode n))))])
  := by
  obtain ⟨name, package, doc, methods, supertypes, nested⟩ := d
  change Json.object (encodeMembers _) = _
  rw [encodeMembers, encodeEntries_eq]
  rfl

mutual

theorem isPlain_encode_interface (d : InterfaceDecl) :
  (encode d).isPlain
  := by
  obtain ⟨name, package, doc, methods, supertypes, nested⟩ := d
  have members := arePlainMembers_encodeEntries nested
  change Json.arePlainMembers (encodeMembers _) = true
  simp [encodeMembers, Json.arePlainMembers, Json.isPlain, members]

theorem arePlainMembers_encodeEntries (entries : List (String × InterfaceDecl)) :
  Json.arePlainMembers (encodeEntries entries)
  := by
  cases entries with
  | nil => rfl
  | cons e entries =>
      have first := isPlain_encode_interface e.2
      have others := arePlainMembers_encodeEntries entries
      rw [encodeEntries, Json.arePlainMembers]
      apply Bool.and_eq_true_iff.mpr ⟨first, others⟩

end

instance : PlainForm InterfaceDecl := ⟨isPlain_encode_interface⟩

theorem depth_lt_depth_interface {d : InterfaceDecl} {e : String × InterfaceDecl}
    (mem : e ∈ d.nested) :
  (encode e.2).depth < (encode d).depth
  := by
  have inner : (encode e.2).depth < (Json.object (d.nested.map fun (key, n) =>
      (key, encode n))).depth :=
    Nat.lt_succ_of_le (Json.depth_le_depthOfMembers (m := (e.1, _)) (List.mem_map_of_mem mem))
  have outer : (Json.object (d.nested.map fun (key, n) => (key, encode n))).depth
      < (encode d).depth := by
    rw [d.encode_eq]
    apply Nat.lt_succ_of_le (Json.depth_le_depthOfMembers (m := ("nested", _)) (by simp))
  apply inner.trans outer

/-- Entries in the order of their keys are not moved by being put in one by one. -/
theorem foldl_insert_eq {entries : List (String × InterfaceDecl)}
    (h : Entries.Ascending entries) :
  entries.foldl (fun entries (key, d) => Entries.insert key d entries) [] = entries
  := by
  have same : ∀ (es : List (String × InterfaceDecl)) (m : SortedMap String InterfaceDecl),
      (es.foldl (fun m e => m.insert e.1 e.2) m).toList
        = es.foldl (fun entries (key, d) => Entries.insert key d entries) m.toList := by
    intro es
    induction es with
    | nil =>
        intro m
        rfl
    | cons e es ih =>
        intro m
        apply ih (m.insert e.1 e.2)
  calc entries.foldl (fun entries (key, d) => Entries.insert key d entries) []
      = (SortedMap.ofList entries).toList := (same entries {}).symm
    _ = entries := congrArg SortedMap.toList (SortedMap.ofList_toList ⟨entries, h⟩)

/-- Interfaces that are nested less deeply than the bound are recovered. -/
theorem decodeWithin_encode {fuel : Nat} {d : InterfaceDecl} (h : d.InOrder)
    (bound : (encode d).depth < fuel) {s : Scope} (deep : (encode d).depth ≤ s.levels) :
  decodeWithin fuel s (encode d) = .ok d
  := by
  induction fuel generalizing d s with
  | zero => cases bound
  | succ fuel ih =>
      obtain ⟨ascending, nested⟩ := h
      obtain ⟨fields, given, give⟩ := Fields.ofRecord_encode
        ["name", "package", "doc", "methods", "extends", "nested"] d.encode_eq (by simp) deep
      have entries : ∀ e ∈ d.nested, ∀ {s : Scope}, (encode e.2).depth ≤ s.levels →
          decodeWithin fuel s (encode e.2) = .ok e.2 := by
        intro e mem s deep
        have shallow := depth_lt_depth_interface mem
        apply ih (nested e mem) _ deep
        omega
      rw [decodeWithin, given]
      simp only [ok_bind]
      rw [give.required (recovers d.name) rfl, give.required (recovers d.package) rfl,
        give.getD (recovers d.doc) rfl, give.getD (recovers d.methods) rfl,
        give.getD (recovers d.supertypes) rfl, give.getWith rfl (decodeEntries_eq_ok entries),
        foldl_insert_eq ascending]
      cases d with
      | mk name package doc methods supertypes nested => rfl

end InterfaceDecl

theorem recovers_interface {d : InterfaceDecl} (h : d.InOrder) :
  Recovers d
  := by
  intro s deep
  apply d.decodeWithin_encode h (Nat.lt_succ_of_le deep) deep

/-! ### Packages and outlines -/

theorem Slot.encode_class (name : String) :
  encode (Slot.class name)
    = tagRecord "tag" "class" (.object (present [("qualified_name", some (encode name))]))
  := rfl

instance : PlainForm Slot where
  isPlain_encode
    | .class _ => rfl
    | .interface d => isPlain_tagRecord _ _ (isPlain_encode d)

theorem recovers_slot {slot : Slot} (h : ∀ d, slot = .interface d → d.InOrder) :
  Recovers slot
  := by
  intro s deep
  cases slot with
  | «class» name =>
      rw [Slot.encode_class] at deep ⊢
      obtain ⟨variant, fields, same, named, given, give⟩ :=
        Variant.ofTagged_written ["class", "interface"] ["qualified_name"]
          (by simp) (by simp) (by simp) (by simp) deep
      change (Variant.ofTagged _ _ s _ >>= _) = _
      simp only [same, ok_bind, named, given]
      rw [give.required (recovers name) rfl]
      rfl
  | interface d =>
      have read : decode { s with tagged := true } (encode d) = .ok d :=
        recovers_interface (h d rfl) (depth_tagRecord _ _ _ ▸ deep)
      change (Variant.ofTagged _ _ s (tagRecord "tag" "interface" (encode d)) >>= _) = _
      rw [Variant.ofTagged_encode d.encode_eq (by simp) (by simp) deep]
      simp only [ok_bind, Variant.decodePayload, read]
      rfl

theorem Package.encode_eq (p : Package) :
  encode p = .object (present
    [("name", some (encode p.name)), ("namespace", p.space.map encode),
      ("types", some (encode p.types)), ("object_factory", some (encode p.objectFactory))])
  := by
  apply congrArg Json.object
  simp

instance : PlainForm Package where
  isPlain_encode p := isPlain_record p.encode_eq (by simp)

theorem recovers_package {p : Package}
    (h : ∀ {name d}, p.types.get? name = some (.interface d) → d.InOrder) :
  Recovers p
  := by
  have types : Recovers p.types := by
    apply recovers_map
    rintro ⟨name, slot⟩ mem
    apply recovers_slot
    rintro d rfl
    apply h (SortedMap.mem_toList_iff.mp mem)
  apply recovers_record p.encode_eq (fun _ _ => rfl) (by simp)
  intro fields give
  rw [give.required (recovers p.name) rfl, give.optional (recovers p.space) rfl,
    give.getD types rfl, give.getD (recovers p.objectFactory) rfl]
  rfl

/-- What is nested in the interfaces of the outline stands in the order of its keys. -/
def Outline.InOrder (o : Outline) : Prop :=
  ∀ t d, o.interface? t = some d → d.InOrder

theorem Outline.encode_eq (o : Outline) :
  encode o = .object (present
    [("packages", some (encode o.packages)), ("classes", some (encode o.classes))])
  := rfl

instance : PlainForm Outline where
  isPlain_encode o := isPlain_record o.encode_eq (by simp)

theorem recovers_outline {o : Outline} (h : o.InOrder) :
  Recovers o
  := by
  have packages : Recovers o.packages := by
    apply recovers_map
    intro e mem
    apply recovers_package
    intro name d found
    apply h ⟨e.1, name⟩
    have package : o.packages.get? e.1 = some e.2 := SortedMap.mem_toList_iff.mp mem
    simp only [Outline.interface?, package, Option.bind_some, Package.interface?, found]
    rfl
  apply recovers_record o.encode_eq (fun _ _ => rfl) (by simp)
  intro fields give
  rw [give.getD packages rfl, give.getD (recovers o.classes) rfl]
  rfl

/-! ### Environments -/

instance : PlainForm Environment where
  isPlain_encode e := isPlain_encode e.toList

theorem Environment.ofList_toList (e : Environment) :
  ofList e.toList = e
  := by
  have names : ∀ (es : List (String × Unit)) (e : Environment),
      ((es.map (·.1)).foldl add e).names = es.foldl (fun m e => m.insert e.1 e.2) e.names := by
    intro es
    induction es with
    | nil =>
        intro e
        rfl
    | cons name es ih =>
        intro e
        apply ih (e.add name.1)
  obtain ⟨m⟩ := e
  exact congrArg Environment.mk ((names m.toList {}).trans m.ofList_toList)

instance : LawfulForm Environment where
  recovers e := by
    intro s deep
    have read : decode s (encode e.toList) = .ok e.toList := recovers e.toList deep
    change Environment.ofList <$> (decode s (encode e.toList) : Except DecodeError (List String)) = _
    rw [read]
    exact congrArg Except.ok e.ofList_toList

end GroupInterfaces
