import GroupInterfaces.Json.Decoding
import GroupInterfaces.Schema.Group

/-!
# Schemas as JSON

The JSON forms of names, content models, group declarations and schema sets.
-/

namespace GroupInterfaces

/-! ### Names and places -/

instance : Encodable QName where
  encode q := .object [("namespace", encode q.space), ("local", encode q.localName)]

instance : Decodable QName where
  decode s v := do
    let fields ← Fields.ofRecord ["namespace", "local"] s v
    let space ← fields.getD "namespace" ""
    let localName ← fields.required "local"
    pure { space, localName }

instance : Encodable Locator where
  encode l := .object
    [("system_id", encode l.systemId), ("line", encode l.line), ("column", encode l.column)]

instance : Decodable Locator where
  decode s v := do
    let fields ← Fields.ofRecord ["system_id", "line", "column"] s v
    let systemId ← fields.required "system_id"
    let line ← fields.required "line"
    let column ← fields.required "column"
    pure { systemId, line, column }

/-! ### Elements and attributes -/

instance : Encodable Customization where
  encode c := .object (optionalMember "property_name" c.propertyName)

instance : Decodable Customization where
  decode s v := do
    let fields ← Fields.ofRecord ["property_name"] s v
    let propertyName ← fields.getD "property_name" none
    pure { propertyName }

instance : Encodable ElementDecl where
  encode d := .object <|
    [("name", encode d.name)]
      ++ optionalMember "type_name" d.typeName
      ++ optionalMember "fixed_value" d.fixedValue
      ++ optionalMember "customization" d.customization
      ++ [("locator", encode d.locator)]

instance : Decodable ElementDecl where
  decode s v := do
    let fields ← Fields.ofRecord
      ["name", "type_name", "fixed_value", "customization", "locator"] s v
    let name ← fields.required "name"
    let typeName ← fields.getD "type_name" none
    let fixedValue ← fields.getD "fixed_value" none
    let customization ← fields.getD "customization" none
    let locator ← fields.getD "locator" {}
    pure { name, typeName, fixedValue, customization, locator }

instance : Encodable AttributeDecl where
  encode d := .object <|
    [("name", encode d.name)]
      ++ optionalMember "type_name" d.typeName
      ++ optionalMember "fixed_value" d.fixedValue
      ++ optionalMember "customization" d.customization

instance : Decodable AttributeDecl where
  decode s v := do
    let fields ← Fields.ofRecord ["name", "type_name", "fixed_value", "customization"] s v
    let name ← fields.required "name"
    let typeName ← fields.getD "type_name" none
    let fixedValue ← fields.getD "fixed_value" none
    let customization ← fields.getD "customization" none
    pure { name, typeName, fixedValue, customization }

instance : Encodable AttributeUse where
  encode u := .object <|
    [("decl", encode u.decl), ("required", encode u.required)]
      ++ optionalMember "fixed_value" u.fixedValue
      ++ optionalMember "customization" u.customization
      ++ [("locator", encode u.locator)]

instance : Decodable AttributeUse where
  decode s v := do
    let fields ← Fields.ofRecord
      ["decl", "required", "fixed_value", "customization", "locator"] s v
    let decl ← fields.required "decl"
    let required ← fields.getD "required" false
    let fixedValue ← fields.getD "fixed_value" none
    let customization ← fields.getD "customization" none
    let locator ← fields.getD "locator" {}
    pure { decl, required, fixedValue, customization, locator }

/-! ### Particles -/

instance : Encodable MaxOccurs where
  encode
    | .bounded n => .object [("bounded", encode n)]
    | .unbounded => .string "unbounded"

instance : Decodable MaxOccurs where
  decode s v := do
    let variant ← Variant.ofUntagged s v
    match variant.name, variant.payload with
    | "bounded", some n => .bounded <$> decode variant.scope n
    | "bounded", none => .error (.expected "a bound")
    | "unbounded", _ =>
      if variant.isUnit then .ok .unbounded else .error (.expected "nothing but a name")
    | name, _ => .error (.unknownVariant name)

instance : Encodable Compositor where
  encode c := .string c.schemaName

instance : Decodable Compositor where
  decode := decodeName [("sequence", .sequence), ("choice", .choice), ("all", .all)]

namespace Particle

mutual

/-- The JSON form of the term of a particle. -/
def encodeTerm : Particle → Json
  | .element _ d => tagRecord "tag" "element" (encode d)
  | .groupRef _ name => tagRecord "tag" "group_ref" (encode name)
  | .group _ compositor particles => .object
    [("tag", .string "model_group"), ("compositor", encode compositor),
      ("particles", .array (encodeParticles particles))]
  | .wildcard _ => .object [("tag", .string "wildcard")]

/-- The JSON forms of particles. -/
def encodeParticles : List Particle → List Json
  | [] => []
  | p :: rest =>
    .object [("min_occurs", encode p.occurs.min), ("max_occurs", encode p.occurs.max),
      ("term", encodeTerm p)] :: encodeParticles rest

end

instance : Encodable Particle where
  encode p := .object
    [("min_occurs", encode p.occurs.min), ("max_occurs", encode p.occurs.max),
      ("term", p.encodeTerm)]

/-- A model group with particles read by a function. -/
def decodeGroupWith (particle : Scope → Json → Except DecodeError Particle) (fields : Fields) :
    Except DecodeError ModelGroup := do
  let compositor ← fields.getD "compositor" .sequence
  let particles ← fields.getWith (decodeElements particle) "particles" (.ok [])
  pure { compositor, particles }

/-- The particle of a term that occurs as often as given, with particles within it read by a
function. -/
def decodeTermWith (particle : Scope → Json → Except DecodeError Particle) (occurs : Occurs)
    (s : Scope) (v : Json) : Except DecodeError Particle := do
  let variant ← Variant.ofTagged "tag" ["element", "group_ref", "model_group", "wildcard"] s v
  match variant.name with
  | "element" => .element occurs <$> variant.decodePayload
  | "group_ref" => .groupRef occurs <$> variant.decodePayload
  | "model_group" =>
    let fields ← variant.fields ["compositor", "particles"]
    let group ← decodeGroupWith particle fields
    pure (.group occurs group.compositor group.particles)
  | _ => variant.noFields (.wildcard occurs)

/-- Reads a particle with further particles within it at most `fuel` deep. -/
def decodeWithin : Nat → Scope → Json → Except DecodeError Particle
  | 0, _, _ => .error .nestedTooDeeply
  | fuel + 1, s, v => do
    let fields ← Fields.ofRecord ["min_occurs", "max_occurs", "term"] s v
    let min ← fields.getD "min_occurs" 1
    let max ← fields.getD "max_occurs" (.bounded 1)
    fields.getWith (decodeTermWith (decodeWithin fuel) { min, max }) "term"
      (.error (.missingField "term"))

instance : Decodable Particle where
  decode s := decodeWithin (s.levels + 1) s

/-- Reads a term as a particle that occurs once. -/
def decodeTerm (s : Scope) (v : Json) : Except DecodeError Particle :=
  decodeTermWith decode {} s v

end Particle

instance : Encodable ModelGroup where
  encode g := .object
    [("compositor", encode g.compositor), ("particles", encode g.particles)]

instance : Decodable ModelGroup where
  decode s v := do
    let fields ← Fields.ofRecord ["compositor", "particles"] s v
    Particle.decodeGroupWith decode fields

/-! ### Types -/

instance : Encodable ContentType where
  encode
    | .particle p => tagRecord "tag" "particle" (encode p)
    | .simple => .object [("tag", .string "simple")]
    | .empty => .object [("tag", .string "empty")]

instance : Decodable ContentType where
  decode s v := do
    let variant ← Variant.ofTagged "tag" ["particle", "simple", "empty"] s v
    match variant.name with
    | "particle" => .particle <$> variant.decodePayload
    | "simple" => variant.noFields .simple
    | _ => variant.noFields .empty

instance : Encodable ComplexType where
  encode t := .object <|
    optionalMember "name" t.name
      ++ optionalMember "explicit_content" t.explicitContent
      ++ [("content", encode t.content), ("attribute_groups", encode t.attributeGroups)]

instance : Decodable ComplexType where
  decode s v := do
    let fields ← Fields.ofRecord
      ["name", "explicit_content", "content", "attribute_groups"] s v
    let name ← fields.getD "name" none
    let explicitContent ← fields.getD "explicit_content" none
    let content ← fields.required "content"
    let attributeGroups ← fields.getD "attribute_groups" []
    pure { name, explicitContent, content, attributeGroups }

/-! ### Groups -/

instance : Encodable GroupKind where
  encode
    | .modelGroup => .string "model_group"
    | .attributeGroup => .string "attribute_group"

instance : Decodable GroupKind where
  decode := decodeName [("model_group", .modelGroup), ("attribute_group", .attributeGroup)]

instance : Encodable ModelGroupDecl where
  encode d := .object
    [("name", encode d.name), ("group", encode d.group), ("locator", encode d.locator)]

instance : Decodable ModelGroupDecl where
  decode s v := do
    let fields ← Fields.ofRecord ["name", "group", "locator"] s v
    let name ← fields.required "name"
    let group ← fields.required "group"
    let locator ← fields.getD "locator" {}
    pure { name, group, locator }

instance : Encodable AttributeGroupDecl where
  encode d := .object
    [("name", encode d.name), ("attribute_uses", encode d.attributeUses),
      ("attribute_groups", encode d.attributeGroups), ("locator", encode d.locator)]

instance : Decodable AttributeGroupDecl where
  decode s v := do
    let fields ← Fields.ofRecord
      ["name", "attribute_uses", "attribute_groups", "locator"] s v
    let name ← fields.required "name"
    let attributeUses ← fields.getD "attribute_uses" []
    let attributeGroups ← fields.getD "attribute_groups" []
    let locator ← fields.getD "locator" {}
    pure { name, attributeUses, attributeGroups, locator }

instance : Encodable GroupDecl where
  encode
    | .model d => tagRecord "kind" "model_group" (encode d)
    | .attribute d => tagRecord "kind" "attribute_group" (encode d)

instance : Decodable GroupDecl where
  decode s v := do
    let variant ← Variant.ofTagged "kind" ["model_group", "attribute_group"] s v
    match variant.name with
    | "model_group" => .model <$> variant.decodePayload
    | _ => .attribute <$> variant.decodePayload

instance : Encodable SchemaSet where
  encode s := .object
    [("model_groups", encode s.modelGroups), ("attribute_groups", encode s.attributeGroups)]

instance : Decodable SchemaSet where
  decode s v := do
    let fields ← Fields.ofRecord ["model_groups", "attribute_groups"] s v
    let modelGroups ← fields.getD "model_groups" []
    let attributeGroups ← fields.getD "attribute_groups" []
    pure { modelGroups, attributeGroups }

end GroupInterfaces
