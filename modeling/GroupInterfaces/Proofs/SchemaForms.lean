import GroupInterfaces.Proofs.Forms
import GroupInterfaces.Schema.Json

/-!
# The forms of schemas

Names, declarations, content models and schema sets lose nothing in their JSON forms. Particles are
read with a bound on how deep they are nested, which the form of a particle always keeps to, since
each particle within another one lies three levels further in.
-/

namespace GroupInterfaces

/-! ### Names and places -/

theorem QName.encode_eq (q : QName) :
  encode q = .object (present
    [("namespace", some (encode q.space)), ("local", some (encode q.localName))])
  := rfl

instance : PlainForm QName where
  isPlain_encode q := isPlain_record q.encode_eq (by simp)

instance : NonNullForm QName := ⟨fun _ => nofun⟩

instance : LawfulForm QName where
  recovers q := by
    apply recovers_record q.encode_eq (fun _ _ => rfl) (by simp)
    intro fields give
    rw [give.getD (recovers q.space) rfl, give.required (recovers q.localName) rfl]
    rfl

theorem Locator.encode_eq (l : Locator) :
  encode l = .object (present
    [("system_id", some (encode l.systemId)), ("line", some (encode l.line)),
      ("column", some (encode l.column))])
  := rfl

instance : PlainForm Locator where
  isPlain_encode l := isPlain_record l.encode_eq (by simp)

instance : LawfulForm Locator where
  recovers l := by
    apply recovers_record l.encode_eq (fun _ _ => rfl) (by simp)
    intro fields give
    rw [give.required (recovers l.systemId) rfl, give.required (recovers l.line) rfl,
      give.required (recovers l.column) rfl]
    rfl

/-! ### Elements and attributes -/

theorem Customization.encode_eq (c : Customization) :
  encode c = .object (present [("property_name", c.propertyName.map encode)])
  := by
  apply congrArg Json.object
  simp

instance : PlainForm Customization where
  isPlain_encode c := isPlain_record c.encode_eq (by simp)

instance : NonNullForm Customization := ⟨fun _ => nofun⟩

instance : LawfulForm Customization where
  recovers c := by
    apply recovers_record c.encode_eq (fun _ _ => rfl) (by simp)
    intro fields give
    rw [give.optional (recovers c.propertyName) rfl]
    rfl

theorem ElementDecl.encode_eq (d : ElementDecl) :
  encode d = .object (present
    [("name", some (encode d.name)), ("type_name", d.typeName.map encode),
      ("fixed_value", d.fixedValue.map encode), ("customization", d.customization.map encode),
      ("locator", some (encode d.locator))])
  := by
  apply congrArg Json.object
  simp

instance : PlainForm ElementDecl where
  isPlain_encode d := isPlain_record d.encode_eq (by simp)

instance : LawfulForm ElementDecl where
  recovers d := by
    apply recovers_record d.encode_eq (fun _ _ => rfl) (by simp)
    intro fields give
    rw [give.required (recovers d.name) rfl, give.optional (recovers d.typeName) rfl,
      give.optional (recovers d.fixedValue) rfl, give.optional (recovers d.customization) rfl,
      give.getD (recovers d.locator) rfl]
    rfl

theorem AttributeDecl.encode_eq (d : AttributeDecl) :
  encode d = .object (present
    [("name", some (encode d.name)), ("type_name", d.typeName.map encode),
      ("fixed_value", d.fixedValue.map encode), ("customization", d.customization.map encode)])
  := by
  apply congrArg Json.object
  simp

instance : PlainForm AttributeDecl where
  isPlain_encode d := isPlain_record d.encode_eq (by simp)

instance : LawfulForm AttributeDecl where
  recovers d := by
    apply recovers_record d.encode_eq (fun _ _ => rfl) (by simp)
    intro fields give
    rw [give.required (recovers d.name) rfl, give.optional (recovers d.typeName) rfl,
      give.optional (recovers d.fixedValue) rfl, give.optional (recovers d.customization) rfl]
    rfl

theorem AttributeUse.encode_eq (u : AttributeUse) :
  encode u = .object (present
    [("decl", some (encode u.decl)), ("required", some (encode u.required)),
      ("fixed_value", u.fixedValue.map encode), ("customization", u.customization.map encode),
      ("locator", some (encode u.locator))])
  := by
  apply congrArg Json.object
  simp

instance : PlainForm AttributeUse where
  isPlain_encode u := isPlain_record u.encode_eq (by simp)

instance : LawfulForm AttributeUse where
  recovers u := by
    apply recovers_record u.encode_eq (fun _ _ => rfl) (by simp)
    intro fields give
    rw [give.required (recovers u.decl) rfl, give.getD (recovers u.required) rfl,
      give.optional (recovers u.fixedValue) rfl, give.optional (recovers u.customization) rfl,
      give.getD (recovers u.locator) rfl]
    rfl

/-! ### Particles -/

instance : PlainForm MaxOccurs where
  isPlain_encode
    | .bounded n => Json.arePlainMembers_iff.mpr (by simp)
    | .unbounded => rfl

instance : LawfulForm MaxOccurs where
  recovers m := by
    cases m with
    | bounded n =>
        intro s deep
        obtain ⟨inner, entered, deep⟩ := Scope.inner_eq deep
        have read : decode inner (encode n) = .ok n :=
          recovers n ((Nat.le_max_left _ _).trans deep)
        change (s.inner >>= _) >>= _ = _
        rw [entered]
        change MaxOccurs.bounded <$> (decode inner (encode n) : Except DecodeError UInt32) = _
        rw [read]
        rfl
    | unbounded =>
        intro s deep
        rfl

instance : PlainForm Compositor where
  isPlain_encode _ := rfl

instance : LawfulForm Compositor where
  recovers
    | .sequence | .choice | .all => fun _ => rfl

namespace Particle

theorem encodeParticles_eq (ps : List Particle) :
  encodeParticles ps = ps.map encode
  := by
  induction ps with
  | nil => rfl
  | cons p ps ih =>
      rw [encodeParticles, ih]
      rfl

theorem encode_eq (p : Particle) :
  encode p = .object (present
    [("min_occurs", some (encode p.occurs.min)), ("max_occurs", some (encode p.occurs.max)),
      ("term", some p.encodeTerm)])
  := rfl

end Particle

theorem ModelGroup.encode_eq (g : ModelGroup) :
  encode g = .object (present
    [("compositor", some (encode g.compositor)), ("particles", some (encode g.particles))])
  := rfl

namespace Particle

/-- The term of a particle that puts others together is tagged like a model group. -/
theorem encodeTerm_group (o : Occurs) (compositor : Compositor) (ps : List Particle) :
  encodeTerm (.group o compositor ps)
    = tagRecord "tag" "model_group" (encode ({ compositor, particles := ps } : ModelGroup))
  := by
  rw [encodeTerm, encodeParticles_eq]
  rfl

mutual

theorem isPlain_encodeTerm (p : Particle) :
  p.encodeTerm.isPlain
  := by
  cases p with
  | element o d => apply isPlain_tagRecord _ _ (isPlain_encode d)
  | groupRef o name => apply isPlain_tagRecord _ _ (isPlain_encode name)
  | group o compositor ps =>
      have members := arePlainElements_encodeParticles ps
      simp [encodeTerm, Json.isPlain, Json.arePlainMembers, members]
  | wildcard o => rfl

theorem arePlainElements_encodeParticles (ps : List Particle) :
  Json.arePlainElements (encodeParticles ps)
  := by
  cases ps with
  | nil => rfl
  | cons p ps =>
      have first := isPlain_encodeTerm p
      have others := arePlainElements_encodeParticles ps
      simp [encodeParticles, Json.arePlainElements, Json.isPlain, Json.arePlainMembers, first,
        others]

end

instance : PlainForm Particle where
  isPlain_encode p := isPlain_record p.encode_eq (by simp [p.isPlain_encodeTerm])

instance : PlainForm ModelGroup where
  isPlain_encode g := isPlain_record g.encode_eq (by simp)

variable {particle : Scope → Json → Except DecodeError Particle}

/-- A model group is recovered from its fields if its particles are. -/
theorem decodeGroupWith_eq_ok {g : ModelGroup}
    (within : ∀ p ∈ g.particles, ∀ {s : Scope}, (encode p).depth ≤ s.levels →
      particle s (encode p) = .ok p)
    {fields : Fields}
    (give : fields.Give [("compositor", some (encode g.compositor)),
      ("particles", some (encode g.particles))]) :
  decodeGroupWith particle fields = .ok g
  := by
  rw [decodeGroupWith, give.getD (recovers g.compositor) rfl,
    give.getWith rfl (decodeElements_eq_ok within)]
  rfl

theorem depth_lt_depth_modelGroup {p : Particle} {g : ModelGroup} (mem : p ∈ g.particles) :
  (encode p).depth < (encode g).depth
  := by
  have inner : (encode p).depth < (encode g.particles).depth :=
    Nat.lt_succ_of_le (Json.depth_le_depthOfElements (List.mem_map_of_mem mem))
  have outer : (encode g.particles).depth < (encode g).depth :=
    Nat.lt_succ_of_le (Json.depth_le_depthOfMembers (m := ("particles", _)) (by simp))
  apply inner.trans outer

/-- A particle is recovered from its term if the particles in the term are. -/
theorem decodeTermWith_encodeTerm {p : Particle}
    (within : ∀ q : Particle, (encode q).depth < p.encodeTerm.depth →
      ∀ {s : Scope}, (encode q).depth ≤ s.levels → particle s (encode q) = .ok q)
    {s : Scope} (deep : p.encodeTerm.depth ≤ s.levels) :
  decodeTermWith particle p.occurs s p.encodeTerm = .ok p
  := by
  cases p with
  | element o d =>
      have read : decode { s with tagged := true } (encode d) = .ok d :=
        recovers d (depth_tagRecord _ _ _ ▸ deep)
      rw [encodeTerm, decodeTermWith,
        Variant.ofTagged_encode d.encode_eq (by simp) (by simp) deep]
      change Particle.element o <$> (decode _ (encode d) : Except DecodeError ElementDecl) = _
      rw [read]
      rfl
  | groupRef o name =>
      have read : decode { s with tagged := true } (encode name) = .ok name :=
        recovers name (depth_tagRecord _ _ _ ▸ deep)
      rw [encodeTerm, decodeTermWith,
        Variant.ofTagged_encode name.encode_eq (by simp) (by simp) deep]
      change Particle.groupRef o <$> (decode _ (encode name) : Except DecodeError QName) = _
      rw [read]
      rfl
  | group o compositor ps =>
      obtain ⟨g, rfl, rfl⟩ : ∃ g : ModelGroup, g.compositor = compositor ∧ g.particles = ps :=
        ⟨{ compositor, particles := ps }, rfl, rfl⟩
      rw [encodeTerm_group] at deep within ⊢
      have shallow : (encode g).depth ≤ s.levels := depth_tagRecord _ _ _ ▸ deep
      obtain ⟨fields, given, give⟩ := Fields.ofRecord_encode (s := { s with tagged := true })
        ["compositor", "particles"] g.encode_eq (by simp) shallow
      have read : decodeGroupWith particle fields = .ok g := by
        apply decodeGroupWith_eq_ok _ give
        intro q mem
        apply within
        rw [depth_tagRecord]
        apply depth_lt_depth_modelGroup mem
      rw [decodeTermWith, Variant.ofTagged_encode g.encode_eq (by simp) (by simp) deep]
      simp only [ok_bind, Variant.fields, given, read]
      rfl
  | wildcard o =>
      rw [decodeTermWith, encodeTerm, Variant.ofTagged_bare (by simp) deep]
      simp only [ok_bind]
      rfl

/-- Particles that are nested less deeply than the bound are recovered. -/
theorem decodeWithin_encode {fuel : Nat} {p : Particle} (bound : (encode p).depth < fuel)
    {s : Scope} (deep : (encode p).depth ≤ s.levels) :
  decodeWithin fuel s (encode p) = .ok p
  := by
  induction fuel generalizing p s with
  | zero => cases bound
  | succ fuel ih =>
      obtain ⟨fields, given, give⟩ := Fields.ofRecord_encode ["min_occurs", "max_occurs", "term"]
        p.encode_eq (by simp) deep
      -- The particles in the term lie two levels further in, the bound is lowered by one.
      have term : p.encodeTerm.depth < (encode p).depth :=
        Nat.lt_succ_of_le (Json.depth_le_depthOfMembers (m := ("term", _)) (by simp))
      rw [decodeWithin, given]
      change (fields.getD "min_occurs" 1 >>= _) = _
      rw [give.getD (recovers p.occurs.min) rfl, give.getD (recovers p.occurs.max) rfl]
      apply give.read rfl
      apply decodeTermWith_encodeTerm
      intro q within s deep
      apply ih _ deep
      omega

end Particle

instance : LawfulForm Particle where
  recovers p := by
    intro s deep
    apply p.decodeWithin_encode (Nat.lt_succ_of_le deep) deep

instance : LawfulForm ModelGroup where
  recovers g := by
    apply recovers_record g.encode_eq (fun _ _ => rfl) (by simp)
    intro fields give
    apply Particle.decodeGroupWith_eq_ok (fun p _ => recovers p) give

/-! ### Types -/

instance : PlainForm ContentType where
  isPlain_encode
    | .particle p => isPlain_tagRecord _ _ (isPlain_encode p)
    | .simple | .empty => rfl

instance : NonNullForm ContentType where
  encode_ne_null
    | .particle _ | .simple | .empty => nofun

instance : LawfulForm ContentType where
  recovers t := by
    intro s deep
    cases t with
    | particle p =>
        have read : decode { s with tagged := true } (encode p) = .ok p :=
          recovers p (depth_tagRecord _ _ _ ▸ deep)
        change (Variant.ofTagged _ _ s (tagRecord "tag" "particle" (encode p)) >>= _) = _
        rw [Variant.ofTagged_encode p.encode_eq (by simp) (by simp) deep]
        simp only [ok_bind, Variant.decodePayload, read]
        rfl
    | simple =>
        change (Variant.ofTagged _ _ s (.object [("tag", .string "simple")]) >>= _) = _
        rw [Variant.ofTagged_bare (by simp) deep]
        simp only [ok_bind]
        rfl
    | empty =>
        change (Variant.ofTagged _ _ s (.object [("tag", .string "empty")]) >>= _) = _
        rw [Variant.ofTagged_bare (by simp) deep]
        simp only [ok_bind]
        rfl

theorem ComplexType.encode_eq (t : ComplexType) :
  encode t = .object (present
    [("name", t.name.map encode), ("explicit_content", t.explicitContent.map encode),
      ("content", some (encode t.content)),
      ("attribute_groups", some (encode t.attributeGroups))])
  := by
  apply congrArg Json.object
  simp

instance : PlainForm ComplexType where
  isPlain_encode t := isPlain_record t.encode_eq (by simp)

instance : NonNullForm ComplexType := ⟨fun _ => nofun⟩

instance : LawfulForm ComplexType where
  recovers t := by
    apply recovers_record t.encode_eq (fun _ _ => rfl) (by simp)
    intro fields give
    rw [give.optional (recovers t.name) rfl, give.optional (recovers t.explicitContent) rfl,
      give.required (recovers t.content) rfl, give.getD (recovers t.attributeGroups) rfl]
    rfl

/-! ### Groups -/

theorem ModelGroupDecl.encode_eq (d : ModelGroupDecl) :
  encode d = .object (present
    [("name", some (encode d.name)), ("group", some (encode d.group)),
      ("locator", some (encode d.locator))])
  := rfl

instance : PlainForm ModelGroupDecl where
  isPlain_encode d := isPlain_record d.encode_eq (by simp)

instance : LawfulForm ModelGroupDecl where
  recovers d := by
    apply recovers_record d.encode_eq (fun _ _ => rfl) (by simp)
    intro fields give
    rw [give.required (recovers d.name) rfl, give.required (recovers d.group) rfl,
      give.getD (recovers d.locator) rfl]
    rfl

theorem AttributeGroupDecl.encode_eq (d : AttributeGroupDecl) :
  encode d = .object (present
    [("name", some (encode d.name)), ("attribute_uses", some (encode d.attributeUses)),
      ("attribute_groups", some (encode d.attributeGroups)),
      ("locator", some (encode d.locator))])
  := rfl

instance : PlainForm AttributeGroupDecl where
  isPlain_encode d := isPlain_record d.encode_eq (by simp)

instance : LawfulForm AttributeGroupDecl where
  recovers d := by
    apply recovers_record d.encode_eq (fun _ _ => rfl) (by simp)
    intro fields give
    rw [give.required (recovers d.name) rfl, give.getD (recovers d.attributeUses) rfl,
      give.getD (recovers d.attributeGroups) rfl, give.getD (recovers d.locator) rfl]
    rfl

theorem SchemaSet.encode_eq (s : SchemaSet) :
  encode s = .object (present
    [("model_groups", some (encode s.modelGroups)),
      ("attribute_groups", some (encode s.attributeGroups))])
  := rfl

instance : PlainForm SchemaSet where
  isPlain_encode s := isPlain_record s.encode_eq (by simp)

instance : LawfulForm SchemaSet where
  recovers s := by
    apply recovers_record s.encode_eq (fun _ _ => rfl) (by simp)
    intro fields give
    rw [give.getD (recovers s.modelGroups) rfl, give.getD (recovers s.attributeGroups) rfl]
    rfl

end GroupInterfaces
