import GroupInterfaces.Xml.Event

/-!
# Attributes

The attributes of a tag are keys with values in quotes. They are read from left to right up
to the first mistake.
-/

namespace GroupInterfaces.Xml

/-- An attribute as it is written, its value without the quotes. -/
structure Attribute where
  key : List Char
  raw : List Char
deriving DecidableEq

/-- The value of an attribute, with the character for every reference. -/
def Attribute.value (a : Attribute) : Except ReferenceError String :=
  .ofList <$> unescape a.raw

/-- The reasons for which attributes cannot be read. Places count bytes from the start of
the tag. -/
inductive AttributeError where
  | noEquals (place : Nat)
  | noValue (place : Nat)
  | unquoted (place : Nat)
  | unclosed (place : Nat) (quote : Char)
  | repeated (place first : Nat)
deriving DecidableEq

/-- The reason in words. -/
def AttributeError.message : AttributeError → String
  | .noEquals place => at_ place ++ "attribute key must be directly followed by `=` or space"
  | .noValue place => at_ place ++ "`=` must be followed by an attribute value"
  | .unquoted place => at_ place ++ "attribute value must be enclosed in `\"` or `'`"
  | .unclosed place quote =>
    at_ place ++ "missing closing quote `" ++ quote.toString ++ "` in attribute value"
  | .repeated place first =>
    at_ place ++ "duplicated attribute, previous declaration at position " ++ toString first
where
  /-- The beginning of a message about a place. -/
  at_ (place : Nat) : String := "position " ++ toString place ++ ": "

/-- Skips white space: the place behind it, and the text there. -/
def skipSpace (place : Nat) (cs : List Char) : Nat × List Char :=
  (place + (cs.takeWhile isSpace).length, cs.dropWhile isSpace)

/-- The key in front of a text, which has at least one character. -/
def splitKey : List Char → List Char × List Char
  | [] => ([], [])
  | c :: rest =>
    let isEnd c := c = '=' || isSpace c
    (c :: rest.takeWhile (! isEnd ·), rest.dropWhile (! isEnd ·))

/-- The attributes of a tag of `total` bytes from a place on, and the mistake that ends them,
if there is one. `seen` are the keys so far and their places. -/
def readAttributes (total : Nat) : (fuel : Nat) → (seen : List (List Char × Nat)) →
    (place : Nat) → List Char → List Attribute × Option AttributeError
  | 0, _, _, _ => ([], none)
  | fuel + 1, seen, place, cs =>
    match skipSpace place cs with
    | (_, []) => ([], none)
    | (start, cs) =>
      let (key, rest) := splitKey cs
      match skipSpace (start + byteLength key) rest with
      | (place, '=' :: rest) =>
        match seen.lookup key with
        | some first => ([], some (.repeated start first))
        | none =>
          match skipSpace (place + 1) rest with
          | (place, q :: rest) =>
            if q = '\x22' || q = '\x27' then
              let raw := rest.takeWhile (· ≠ q)
              match rest.dropWhile (· ≠ q) with
              | [] => ([], some (.unclosed total q))
              | _ :: rest =>
                let (attributes, error) := readAttributes total fuel ((key, start) :: seen)
                  (place + byteLength raw + 2) rest
                ({ key, raw } :: attributes, error)
            else ([], some (.unquoted place))
          | (_, []) => ([], some (.noValue total))
      | (_, []) => ([], some (.noEquals total))
      | (place, _) => ([], some (.noEquals place))

/-- The attributes of a tag, and the mistake that ends them, if there is one. -/
def Tag.attributes (t : Tag) : List Attribute × Option AttributeError :=
  readAttributes (byteLength t.text) (t.text.length + 1) [] (byteLength t.name)
    (t.text.drop t.name.length)

end GroupInterfaces.Xml
