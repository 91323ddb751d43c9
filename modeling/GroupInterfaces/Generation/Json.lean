import GroupInterfaces.Episode.Json
import GroupInterfaces.Generation.Generator
import GroupInterfaces.Outline.Json
import GroupInterfaces.Schema.Structure

/-!
# Runs as JSON

The JSON forms of configurations, diagnostics, members, interfaces and reports.
-/

namespace GroupInterfaces

/-! ### Configurations -/

instance : Encodable BoundProperties where
  encode b := .object
    [("constrained", encode b.constrained), ("setter_throws", encode b.setterThrows)]

instance : Decodable BoundProperties where
  decode s v := do
    let fields ← Fields.ofRecord ["constrained", "setter_throws"] s v
    let constrained ← fields.getD "constrained" false
    let setterThrows ← fields.getD "setter_throws" false
    pure { constrained, setterThrows }

instance : Encodable DeepClone where
  encode d := .object [("clone_throws", encode d.cloneThrows)]

instance : Decodable DeepClone where
  decode s v := do
    let fields ← Fields.ofRecord ["clone_throws"] s v
    let cloneThrows ← fields.getD "clone_throws" false
    pure { cloneThrows }

instance : Encodable Plugins where
  encode p := .object
    [("immutable", encode p.immutable), ("bound_properties", encode p.boundProperties),
      ("deep_clone", encode p.deepClone), ("deep_copy", encode p.deepCopy),
      ("fluent_builder", encode p.fluentBuilder)]

instance : Decodable Plugins where
  decode s v := do
    let fields ← Fields.ofRecord
      ["immutable", "bound_properties", "deep_clone", "deep_copy", "fluent_builder"] s v
    let immutable ← fields.getD "immutable" false
    let boundProperties ← fields.getD "bound_properties" none
    let deepClone ← fields.getD "deep_clone" none
    let deepCopy ← fields.getD "deep_copy" false
    let fluentBuilder ← fields.getD "fluent_builder" false
    pure { immutable, boundProperties, deepClone, deepCopy, fluentBuilder }

instance : Encodable Config where
  encode c := .object
    [("declare_setters", encode c.declareSetters),
      ("declare_builder_interface", encode c.declareBuilderInterface),
      ("new_builder_method_name", encode c.newBuilderMethodName),
      ("new_copy_builder_method_name", encode c.newCopyBuilderMethodName),
      ("builder_interface_name", encode c.builderInterfaceName),
      ("upstream_episode", encode c.upstreamEpisode),
      ("plugins", encode c.plugins)]

instance : Decodable Config where
  decode s v := do
    let fields ← Fields.ofRecord
      ["declare_setters", "declare_builder_interface", "new_builder_method_name",
        "new_copy_builder_method_name", "builder_interface_name", "upstream_episode",
        "plugins"] s v
    let usual : Config := {}
    let declareSetters ← fields.getD "declare_setters" usual.declareSetters
    let declareBuilderInterface ←
      fields.getD "declare_builder_interface" usual.declareBuilderInterface
    let newBuilderMethodName ← fields.getD "new_builder_method_name" usual.newBuilderMethodName
    let newCopyBuilderMethodName ←
      fields.getD "new_copy_builder_method_name" usual.newCopyBuilderMethodName
    let builderInterfaceName ← fields.getD "builder_interface_name" usual.builderInterfaceName
    let upstreamEpisode ← fields.getD "upstream_episode" usual.upstreamEpisode
    let plugins ← fields.getD "plugins" usual.plugins
    pure
      { declareSetters, declareBuilderInterface, newBuilderMethodName,
        newCopyBuilderMethodName, builderInterfaceName, upstreamEpisode, plugins }

instance : Encodable BuilderOptions where
  encode o := .object
    [("new_builder_method_name", encode o.newBuilderMethodName),
      ("new_copy_builder_method_name", encode o.newCopyBuilderMethodName)]

instance : Decodable BuilderOptions where
  decode s v := do
    let fields ← Fields.ofRecord
      ["new_builder_method_name", "new_copy_builder_method_name"] s v
    let newBuilderMethodName ← fields.required "new_builder_method_name"
    let newCopyBuilderMethodName ← fields.required "new_copy_builder_method_name"
    pure { newBuilderMethodName, newCopyBuilderMethodName }

instance : Encodable Settings where
  encode s := .object
    [("immutable", encode s.immutable), ("setter_throws_veto", encode s.setterThrowsVeto),
      ("declare_builder_interface", encode s.declareBuilderInterface),
      ("needs_clone_method", encode s.needsCloneMethod),
      ("clone_method_throws", encode s.cloneMethodThrows),
      ("needs_copy_method", encode s.needsCopyMethod),
      ("builder_interface_name", encode s.builderInterfaceName),
      ("builder_options", encode s.builderOptions)]

instance : Decodable Settings where
  decode s v := do
    let fields ← Fields.ofRecord
      ["immutable", "setter_throws_veto", "declare_builder_interface", "needs_clone_method",
        "clone_method_throws", "needs_copy_method", "builder_interface_name",
        "builder_options"] s v
    let immutable ← fields.required "immutable"
    let setterThrowsVeto ← fields.required "setter_throws_veto"
    let declareBuilderInterface ← fields.required "declare_builder_interface"
    let needsCloneMethod ← fields.required "needs_clone_method"
    let cloneMethodThrows ← fields.required "clone_method_throws"
    let needsCopyMethod ← fields.required "needs_copy_method"
    let builderInterfaceName ← fields.required "builder_interface_name"
    let builderOptions ← fields.required "builder_options"
    pure
      { immutable, setterThrowsVeto, declareBuilderInterface, needsCloneMethod,
        cloneMethodThrows, needsCopyMethod, builderInterfaceName, builderOptions }

/-! ### Diagnostics -/

instance : Encodable Severity where
  encode
    | .warning => .string "warning"
    | .error => .string "error"

instance : Decodable Severity where
  decode := decodeName [("warning", .warning), ("error", .error)]

instance : Encodable Diagnostic where
  encode d := .object <|
    [("severity", encode d.severity), ("message", encode d.message)]
      ++ optionalMember "locator" d.locator

instance : Decodable Diagnostic where
  decode s v := do
    let fields ← Fields.ofRecord ["severity", "message", "locator"] s v
    let severity ← fields.required "severity"
    let message ← fields.required "message"
    let locator ← fields.getD "locator" none
    pure { severity, message, locator }

/-! ### Members -/

instance : Encodable MemberKind where
  encode
    | .element => .string "element"
    | .attribute => .string "attribute"

instance : Decodable MemberKind where
  decode := decodeName [("element", .element), ("attribute", .attribute)]

instance : Encodable Member where
  encode m := .object
    [("kind", encode m.kind), ("name", encode m.name),
      ("property_name", encode m.propertyName), ("fixed", encode m.fixed),
      ("locator", encode m.locator)]

instance : Decodable Member where
  decode s v := do
    let fields ← Fields.ofRecord ["kind", "name", "property_name", "fixed", "locator"] s v
    let kind ← fields.required "kind"
    let name ← fields.required "name"
    let propertyName ← fields.required "property_name"
    let fixed ← fields.required "fixed"
    let locator ← fields.required "locator"
    pure { kind, name, propertyName, fixed, locator }

/-! ### Reports -/

instance : Encodable Supertype where
  encode
    | .synthesized t => tagRecord "origin" "synthesized" (.object [("type_ref", encode t)])
    | .published i => tagRecord "origin" "referenced" (encode i)

instance : Encodable SynthesizedInterface where
  encode i := .object
    [("declaration", encode i.declaration), ("type_ref", encode i.typeRef),
      ("dummy_implementation", encode i.placeholder),
      ("super_interfaces", encode i.supertypes),
      ("published_fields", encode i.publishedFields)]

instance : Encodable Associations := ⟨fun a => encode a.byClass⟩

instance : Encodable BuilderOutline where
  encode b := .object
    [("interface", encode b.interface), ("builder_type", encode b.builderType),
      ("builder_name", encode b.builderName), ("fields", encode b.fields),
      ("super_interfaces", encode b.supertypes)]

instance : Encodable BuilderNote where
  encode n := .object
    [("builder", encode n.builder), ("declared", encode n.declared),
      ("builders", encode n.builders), ("implementors", encode n.implementors),
      ("options", encode n.options)]

instance : Encodable Report where
  encode r := .object
    [("settings", encode r.settings),
      ("model_group_interfaces", encode r.modelGroupInterfaces.values),
      ("attribute_group_interfaces", encode r.attributeGroupInterfaces.values),
      ("associations", encode r.associations),
      ("builders", encode r.builders.values),
      ("removed_classes", encode r.removedClasses),
      ("warnings", encode r.warnings)]

/-! ### Documents -/

instance : Encodable Input where
  encode i := .object
    [("schema", encode i.schema), ("outline", encode i.outline),
      ("environment", encode i.environment)]

instance : Decodable Input where
  decode s v := do
    let fields ← Fields.ofRecord ["schema", "outline", "environment"] s v
    let schema ← fields.getD "schema" {}
    let outline ← fields.getD "outline" {}
    let environment ← fields.getD "environment" {}
    pure { schema, outline, environment }

/-- The document that a run hands out. -/
def outputDocument (o : Outline) (r : Report) : Json :=
  .object [("outline", encode o), ("report", encode r)]

end GroupInterfaces
