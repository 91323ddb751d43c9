import GroupInterfaces.Episode.Index
import GroupInterfaces.Outline.Json

/-!
# Episodes as JSON

The JSON forms of bindings and published interfaces.
-/

namespace GroupInterfaces

instance : Encodable Availability where
  encode
    | .compiled => .string "compiled"
    | .missing => .string "missing"

instance : Decodable Availability where
  decode := decodeName [("compiled", .compiled), ("missing", .missing)]

instance : Encodable PublishedInterface where
  encode i := .object
    [("type_ref", encode i.typeRef), ("availability", encode i.availability)]

instance : Decodable PublishedInterface where
  decode s v := do
    let fields ← Fields.ofRecord ["type_ref", "availability"] s v
    let typeRef ← fields.required "type_ref"
    let availability ← fields.required "availability"
    pure { typeRef, availability }

namespace Episode

/-- The JSON form of the component of a binding. -/
def encodeComponent (q : QName) : Json :=
  .object [("@namespace", encode q.space), ("@name", encode q.localName)]

/-- Reads the component of a binding. -/
def decodeComponent (s : Scope) (v : Json) : Except DecodeError QName := do
  let fields ← Fields.ofRecord ["@namespace", "@name"] s v
  let space ← fields.getD "@namespace" ""
  let localName ← fields.required "@name"
  pure { space, localName }

instance : Encodable Binding where
  encode b := .object
    [("@name", encode b.interface), ("schema-component", encodeComponent b.component)]

instance : Decodable Binding where
  decode s v := do
    let fields ← Fields.ofRecord ["@name", "schema-component"] s v
    let interface ← fields.required "@name"
    let component ← fields.getWith decodeComponent "schema-component"
      (.error (.missingField "schema-component"))
    pure { interface, component }

/-- The JSON form of a list of bindings. -/
def encodeBindings (bindings : List Binding) : Json :=
  .object [("interface", encode bindings)]

/-- Reads a list of bindings. -/
def decodeBindings (s : Scope) (v : Json) : Except DecodeError (List Binding) := do
  let fields ← Fields.ofRecord ["interface"] s v
  fields.getD "interface" []

end Episode

end GroupInterfaces
