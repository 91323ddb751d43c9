import GroupInterfaces.Json.Range

/-!
# JSON values

A value keeps the members of its objects in the order they were written, repeated names
included. A number written with digits alone is a natural number; every other number is
kept as it was written.
-/

namespace GroupInterfaces

/-- JSON values. `unreadable` stands for a text, or an object with a member name, in which
half of a surrogate pair is written: it may be passed over but cannot be read. -/
inductive Json where
  | null
  | bool (value : Bool)
  | natural (value : Nat)
  | numeral (literal : String)
  | string (text : String)
  | array (elements : List Json)
  | object (members : List (String × Json))
  | unreadable
deriving Inhabited

namespace Json

mutual

/-- The number of arrays and objects around the innermost value. -/
def depth : Json → Nat
  | .array elements => depthOfElements elements + 1
  | .object members => depthOfMembers members + 1
  | _ => 0

/-- The greatest depth of the elements of an array. -/
def depthOfElements : List Json → Nat
  | [] => 0
  | v :: rest => max (depth v) (depthOfElements rest)

/-- The greatest depth of the members of an object. -/
def depthOfMembers : List (String × Json) → Nat
  | [] => 0
  | (_, v) :: rest => max (depth v) (depthOfMembers rest)

end

mutual

/-- All texts of the value can be read and all its numbers lie in the range of double
precision. -/
def isSound : Json → Bool
  | .natural n => naturalInRange n
  | .numeral literal => numeralInRange literal
  | .array elements => areSoundElements elements
  | .object members => areSoundMembers members
  | .unreadable => false
  | _ => true

/-- All elements of an array are sound. -/
def areSoundElements : List Json → Bool
  | [] => true
  | v :: rest => isSound v && areSoundElements rest

/-- All members of an object are sound. -/
def areSoundMembers : List (String × Json) → Bool
  | [] => true
  | (_, v) :: rest => isSound v && areSoundMembers rest

end

mutual

/-- The value with one member for every name of an object, the last one written. -/
def lastMembers : Json → Json
  | .array elements => .array (lastMembersInElements elements)
  | .object members => .object (lastMembersInMembers members)
  | v => v

/-- The elements of an array with one member for every name of an object. -/
def lastMembersInElements : List Json → List Json
  | [] => []
  | v :: rest => lastMembers v :: lastMembersInElements rest

/-- The members of an object, without those whose name is written again. -/
def lastMembersInMembers : List (String × Json) → List (String × Json)
  | [] => []
  | (name, v) :: rest =>
    if rest.any (·.1 == name) then lastMembersInMembers rest
    else (name, lastMembers v) :: lastMembersInMembers rest

end

/-- The last member of an object with a name. -/
def member? (v : Json) (name : String) : Option Json :=
  match v with
  | .object members => (members.reverse.lookup name)
  | _ => none

end Json

end GroupInterfaces
