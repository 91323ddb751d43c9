import GroupInterfaces.Environment
import GroupInterfaces.Outline.Basic
import GroupInterfaces.Schema.Json

/-!
# Outlines as JSON

The JSON forms of members, classes, interfaces, packages, outlines and environments.
-/

namespace GroupInterfaces

/-! ### References and members -/

instance : Encodable TypeRef where
  encode t := .object [("package", encode t.package), ("name", encode t.name)]

instance : Decodable TypeRef where
  decode s v := do
    let fields ← Fields.ofRecord ["package", "name"] s v
    let package ← fields.required "package"
    let name ← fields.required "name"
    pure { package, name }

instance : Encodable Param where
  encode p := .object [("name", encode p.name), ("ty", encode p.type)]

instance : Decodable Param where
  decode s v := do
    let fields ← Fields.ofRecord ["name", "ty"] s v
    let name ← fields.required "name"
    let type ← fields.required "ty"
    pure { name, type }

instance : Encodable Method where
  encode m := .object <|
    [("name", encode m.name), ("return_type", encode m.returnType),
      ("params", encode m.params)]
      ++ (if m.throws.isEmpty then [] else [("throws", encode m.throws)])

instance : Decodable Method where
  decode s v := do
    let fields ← Fields.ofRecord ["name", "return_type", "params", "throws"] s v
    let name ← fields.required "name"
    let returnType ← fields.required "return_type"
    let params ← fields.getD "params" []
    let throws ← fields.getD "throws" []
    pure { name, returnType, params, throws }

instance : Encodable Field where
  encode f := .object
    [("property_name", encode f.propertyName), ("field_name", encode f.fieldName),
      ("ty", encode f.type)]

instance : Decodable Field where
  decode s v := do
    let fields ← Fields.ofRecord ["property_name", "field_name", "ty"] s v
    let propertyName ← fields.required "property_name"
    let fieldName ← fields.required "field_name"
    let type ← fields.required "ty"
    pure { propertyName, fieldName, type }

/-! ### Classes -/

instance : Encodable SchemaComponent where
  encode
    | .group name => .object [("tag", .string "group"), ("name", encode name)]
    | .complexType t => tagRecord "tag" "complex_type" (encode t)
    | .element name t => .object <|
      [("tag", .string "element"), ("name", encode name)] ++ optionalMember "complex_type" t
    | .none => .object [("tag", .string "none")]

instance : Decodable SchemaComponent where
  decode s v := do
    let variant ← Variant.ofTagged "tag" ["group", "complex_type", "element", "none"] s v
    match variant.name with
    | "group" =>
      let fields ← variant.fields ["name"]
      let name ← fields.required "name"
      pure (.group name)
    | "complex_type" => .complexType <$> variant.decodePayload
    | "element" =>
      let fields ← variant.fields ["name", "complex_type"]
      let name ← fields.required "name"
      let type ← fields.getD "complex_type" none
      pure (.element name type)
    | _ => variant.noFields .none

instance : Encodable GeneratedClass where
  encode c := .object
    [("package", encode c.package), ("name", encode c.name),
      ("schema_component", encode c.component), ("fields", encode c.fields),
      ("methods", encode c.methods), ("implements", encode c.implements)]

instance : Decodable GeneratedClass where
  decode s v := do
    let fields ← Fields.ofRecord
      ["package", "name", "schema_component", "fields", "methods", "implements"] s v
    let package ← fields.required "package"
    let name ← fields.required "name"
    let component ← fields.required "schema_component"
    let classFields ← fields.getD "fields" []
    let methods ← fields.getD "methods" []
    let implements ← fields.getD "implements" []
    pure { package, name, component, fields := classFields, methods, implements }

/-! ### Interfaces -/

namespace InterfaceDecl

mutual

/-- The members of the JSON form of an interface. -/
def encodeMembers : InterfaceDecl → List (String × Json)
  | .mk name package doc methods supertypes nested =>
    [("name", encode name), ("package", encode package), ("doc", encode doc),
      ("methods", encode methods), ("extends", encode supertypes),
      ("nested", .object (encodeEntries nested))]

/-- The JSON forms of nested interfaces by their keys. -/
def encodeEntries : List (String × InterfaceDecl) → List (String × Json)
  | [] => []
  | (key, d) :: rest => (key, .object (encodeMembers d)) :: encodeEntries rest

end

instance : Encodable InterfaceDecl := ⟨fun d => .object d.encodeMembers⟩

/-- Reads an interface with further interfaces within it at most `fuel` deep. -/
def decodeWithin : Nat → Scope → Json → Except DecodeError InterfaceDecl
  | 0, _, _ => .error .nestedTooDeeply
  | fuel + 1, s, v => do
    let fields ← Fields.ofRecord ["name", "package", "doc", "methods", "extends", "nested"] s v
    let name ← fields.required "name"
    let package ← fields.required "package"
    let doc ← fields.getD "doc" ""
    let methods ← fields.getD "methods" []
    let supertypes ← fields.getD "extends" []
    let nested ← fields.getWith (decodeEntries (decodeWithin fuel)) "nested" (.ok [])
    let nested := nested.foldl (fun entries (key, d) => Entries.insert key d entries) []
    pure (.mk name package doc methods supertypes nested)

instance : Decodable InterfaceDecl where
  decode s := decodeWithin (s.levels + 1) s

end InterfaceDecl

/-! ### Packages and outlines -/

instance : Encodable Slot where
  encode
    | .class qualifiedName =>
      .object [("tag", .string "class"), ("qualified_name", encode qualifiedName)]
    | .interface d => tagRecord "tag" "interface" (encode d)

instance : Decodable Slot where
  decode s v := do
    let variant ← Variant.ofTagged "tag" ["class", "interface"] s v
    match variant.name with
    | "class" =>
      let fields ← variant.fields ["qualified_name"]
      let qualifiedName ← fields.required "qualified_name"
      pure (.class qualifiedName)
    | _ => .interface <$> variant.decodePayload

instance : Encodable Package where
  encode p := .object <|
    [("name", encode p.name)]
      ++ optionalMember "namespace" p.space
      ++ [("types", encode p.types), ("object_factory", encode p.objectFactory)]

instance : Decodable Package where
  decode s v := do
    let fields ← Fields.ofRecord ["name", "namespace", "types", "object_factory"] s v
    let name ← fields.required "name"
    let space ← fields.getD "namespace" none
    let types ← fields.getD "types" {}
    let objectFactory ← fields.getD "object_factory" []
    pure { name, space, types, objectFactory }

instance : Encodable Outline where
  encode o := .object [("packages", encode o.packages), ("classes", encode o.classes)]

instance : Decodable Outline where
  decode s v := do
    let fields ← Fields.ofRecord ["packages", "classes"] s v
    let packages ← fields.getD "packages" {}
    let classes ← fields.getD "classes" {}
    pure { packages, classes }

/-! ### Environments -/

instance : Encodable Environment := ⟨fun e => encode e.toList⟩

instance : Decodable Environment where
  decode s v := Environment.ofList <$> decode s v

end GroupInterfaces
