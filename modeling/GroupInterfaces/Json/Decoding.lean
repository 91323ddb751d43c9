import GroupInterfaces.Json.Value
import GroupInterfaces.SortedMap

/-!
# Values as JSON

`Encodable` and `Decodable` tie types to their JSON form.

A record is an object with a member for each of its fields, or an array of its fields in
their order. Members that are no fields are passed over unread, a field given twice is
refused. A tagged record carries the name of its variant as one more member, or in front
of the array. A variant without tag is its name, or an object with that name as its only
member.

Values are read under a `Scope`, which says how many levels of arrays and objects may still
be entered, and whether the value lies within a tagged record. A tagged record is looked
through as a whole before its variant is known, so all of it has to be sound, also what no
field asks for.
-/

namespace GroupInterfaces

open Std

/-- The reasons for which a JSON text or value is refused. -/
inductive DecodeError where
  | malformed
  | nestedTooDeeply
  | unsound
  | expected (form : String)
  | missingField (name : String)
  | repeatedField (name : String)
  | unknownVariant (name : String)
deriving DecidableEq

/-- The refusal in words. -/
def DecodeError.message : DecodeError → String
  | .malformed => "malformed JSON text"
  | .nestedTooDeeply => "arrays and objects nested too deeply"
  | .unsound => "a text or a number that cannot be read"
  | .expected form => s!"expected {form}"
  | .missingField name => s!"missing field {name}"
  | .repeatedField name => s!"repeated field {name}"
  | .unknownVariant name => s!"unknown variant {name}"

/-- Where a value is read: how many levels may still be entered, and whether it lies within
a tagged record. -/
structure Scope where
  levels : Nat
  tagged : Bool := false
deriving DecidableEq

/-- The scope one level further in. -/
def Scope.inner (s : Scope) : Except DecodeError Scope :=
  match s.levels with
  | 0 => .error .nestedTooDeeply
  | n + 1 => .ok { s with levels := n }

/-- Types with a JSON form. -/
class Encodable (α : Type u) where
  encode : α → Json

/-- Types that are read from JSON values. -/
class Decodable (α : Type u) where
  decode : Scope → Json → Except DecodeError α

export Encodable (encode)
export Decodable (decode)

/-! ### Simple values -/

instance : Encodable String := ⟨.string⟩

instance : Decodable String where
  decode
    | _, .string text => .ok text
    | _, _ => .error (.expected "a text")

instance : Encodable Bool := ⟨.bool⟩

instance : Decodable Bool where
  decode
    | _, .bool b => .ok b
    | _, _ => .error (.expected "true or false")

instance : Encodable UInt32 := ⟨fun n => .natural n.toNat⟩

instance : Decodable UInt32 where
  decode
    | _, .natural n =>
      if n < UInt32.size then .ok (.ofNat n) else .error (.expected "a smaller number")
    | _, _ => .error (.expected "a number written with digits alone")

instance [Encodable α] : Encodable (Option α) where
  encode
    | some a => encode a
    | none => .null

instance [Decodable α] : Decodable (Option α) where
  decode
    | _, .null => .ok none
    | s, v => some <$> decode s v

/-- The values of the elements of an array, read by a function. -/
def decodeElements (f : Scope → Json → Except DecodeError α) (s : Scope) :
    Json → Except DecodeError (List α)
  | .array elements => do
    let inner ← s.inner
    elements.mapM (f inner)
  | _ => .error (.expected "an array")

/-- The entries of an object, with values read by a function. -/
def decodeEntries (f : Scope → Json → Except DecodeError α) (s : Scope) :
    Json → Except DecodeError (List (String × α))
  | .object members => do
    let inner ← s.inner
    members.mapM fun (name, v) => do
      let a ← f inner v
      pure (name, a)
  | _ => .error (.expected "an object")

instance [Encodable α] : Encodable (List α) := ⟨fun as => .array (as.map encode)⟩

instance [Decodable α] : Decodable (List α) := ⟨decodeElements decode⟩

instance [Encodable α] : Encodable (SortedMap String α) where
  encode m := .object (m.toList.map fun (name, a) => (name, encode a))

instance [Decodable α] : Decodable (SortedMap String α) where
  decode s v := SortedMap.ofList <$> decodeEntries decode s v

/-! ### Records -/

/-- The fields that a record gives, and the scope of their values. -/
structure Fields where
  scope : Scope
  values : List (String × Json)

/-- The first of some names that is the name of more than one member. -/
def firstRepeated? (names : List String) (members : List (String × Json)) : Option String :=
  names.find? fun name => 1 < members.countP (·.1 == name)

/-- The fields of a record with the given field names. -/
def Fields.ofRecord (names : List String) (s : Scope) : Json → Except DecodeError Fields
  | .object members => do
    let inner ← s.inner
    match firstRepeated? names members with
    | some name => .error (.repeatedField name)
    | none => .ok { scope := inner, values := members }
  | .array elements => do
    let inner ← s.inner
    if names.length < elements.length then .error (.expected "fewer elements")
    else .ok { scope := inner, values := names.zip elements }
  | _ => .error (.expected "a record")

/-- The value of a field, read by a function, or a value for a field that is not given. -/
def Fields.getWith (f : Scope → Json → Except DecodeError α) (fields : Fields) (name : String)
    (absent : Except DecodeError α) : Except DecodeError α :=
  match fields.values.lookup name with
  | some v => f fields.scope v
  | none => absent

/-- The value of a field that has to be given. -/
def Fields.required [Decodable α] (fields : Fields) (name : String) : Except DecodeError α :=
  fields.getWith decode name (.error (.missingField name))

/-- The value of a field that may be left out. -/
def Fields.getD [Decodable α] (fields : Fields) (name : String) (absent : α) :
    Except DecodeError α :=
  fields.getWith decode name (.ok absent)

/-- The member of an object for a value that is left out if it is absent. -/
def optionalMember [Encodable α] (name : String) : Option α → List (String × Json)
  | some a => [(name, encode a)]
  | none => []

/-! ### Variants -/

/-- The name of a variant and what it carries. -/
structure Variant where
  name : String
  scope : Scope
  payload : Option Json

/-- A variant given by its name, or as an object with its name for the only member. -/
def Variant.ofUntagged (s : Scope) : Json → Except DecodeError Variant
  | .string name => .ok { name, scope := s, payload := none }
  | .object [(name, v)] => do
    let inner ← s.inner
    .ok { name, scope := inner, payload := some v }
  | _ => .error (.expected "a variant")

/-- The variant carries nothing: no value or `null`. Within a tagged record an empty object
will do as well. -/
def Variant.isUnit (v : Variant) : Bool :=
  match v.payload with
  | none => true
  | some .null => true
  | some (.object []) => v.scope.tagged
  | some _ => false

/-- The name of a variant in a tag. Within a tagged record its number will do as well. -/
def tagName (variants : List String) (s : Scope) : Json → Except DecodeError String
  | .string name => if name ∈ variants then .ok name else .error (.unknownVariant name)
  | .natural n =>
    match if s.tagged then variants[n]? else none with
    | some name => .ok name
    | none => .error (.expected "the name of a variant")
  | _ => .error (.expected "the name of a variant")

/-- The value may be looked through as a whole. -/
def Scope.admits (s : Scope) (v : Json) : Except DecodeError Unit :=
  if s.tagged then .ok ()
  else if s.levels < v.depth then .error .nestedTooDeeply
  else if v.isSound then .ok ()
  else .error .unsound

/-- A variant given as a tagged record. -/
def Variant.ofTagged (tag : String) (variants : List String) (s : Scope) (v : Json) :
    Except DecodeError Variant :=
  match v with
  | .object members => do
    s.admits v
    match members.filter (·.1 == tag) with
    | [(_, t)] =>
      let name ← tagName variants s t
      let rest := members.filter (·.1 != tag)
      .ok { name, scope := { s with tagged := true }, payload := some (.object rest) }
    | [] => .error (.missingField tag)
    | _ => .error (.repeatedField tag)
  | .array (t :: rest) => do
    s.admits v
    let name ← tagName variants s t
    .ok { name, scope := { s with tagged := true }, payload := some (.array rest) }
  | _ => .error (.expected "a tagged record")

/-- The fields of a tagged record. -/
def Variant.fields (names : List String) (v : Variant) : Except DecodeError Fields :=
  match v.payload with
  | some payload => Fields.ofRecord names v.scope payload
  | none => .error (.expected "a record")

/-- A tagged record without fields: its other members do not matter, but there are no other
elements. -/
def Variant.noFields (v : Variant) (a : α) : Except DecodeError α :=
  match v.payload with
  | some (.array (_ :: _)) => .error (.expected "fewer elements")
  | _ => .ok a

/-- The payload of a tagged record as a value of its own. -/
def Variant.decodePayload [Decodable α] (v : Variant) : Except DecodeError α :=
  match v.payload with
  | some payload => decode v.scope payload
  | none => .error (.expected "a record")

/-- A value given by the name of a variant that carries nothing. -/
def decodeName (names : List (String × α)) (s : Scope) (v : Json) : Except DecodeError α := do
  let variant ← Variant.ofUntagged s v
  match names.lookup variant.name with
  | some a => if variant.isUnit then .ok a else .error (.expected "nothing but a name")
  | none => .error (.unknownVariant variant.name)

/-! ### Whole values -/

/-- The members of an encoded record with one more in front. -/
def tagRecord (tag name : String) : Json → Json
  | .object members => .object ((tag, .string name) :: members)
  | v => v

/-- The value that a JSON value stands for. -/
def Json.decodeAs (α : Type u) [Decodable α] (v : Json) : Except DecodeError α :=
  decode { levels := v.depth } v

/-- The levels of arrays and objects that a text may be read through. -/
def textLevels : Nat := 127

end GroupInterfaces
