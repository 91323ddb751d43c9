import GroupInterfaces.FileStore
import GroupInterfaces.Xml.Attribute

/-!
# Failures around episodes

Every reason for which an episode cannot be found, read or written.
-/

namespace GroupInterfaces.Episode

/-- The reasons for which a document is malformed. -/
inductive Malformation where
  | markup (e : Xml.MarkupError)
  | attribute (e : Xml.AttributeError)
  | reference (e : Xml.ReferenceError)
  | unexpectedEnd
deriving DecidableEq

/-- The reason in words. -/
def Malformation.message : Malformation → String
  | .markup e => e.message
  | .attribute e => e.message
  | .reference e => e.message
  | .unexpectedEnd => "unexpected end of document"

/-- The reasons for which a list of interfaces cannot be read. -/
inductive ListingError where
  | markup (e : Xml.MarkupError)
  | attribute (e : Xml.AttributeError)
  | reference (e : Xml.ReferenceError)
  | unexpectedEnd
  | expectedElement
  | unexpectedStart (name : String)
  | missingField (name : String)
  | repeatedField (name : String)
deriving DecidableEq

/-- The reason in words. -/
def ListingError.message : ListingError → String
  | .markup e => e.message
  | .attribute e => "error while parsing attribute: " ++ e.message
  | .reference e => e.message
  | .unexpectedEnd => "Unexpected `Event::Eof`"
  | .expectedElement => "Expecting `Event::Start`"
  | .unexpectedStart name => "Unexpected `Event::Start(" ++ Text.quotedBytes name ++ ")`"
  | .missingField name => "missing field `" ++ name ++ "`"
  | .repeatedField name => "duplicate field `" ++ name ++ "`"

/-- The reasons for which dealing with an episode fails. That a record cannot be made a text is not
one of them: a text at hand takes all that is written to it. -/
inductive Error where
  | file (location : String) (cause : FileError)
  | invalidLocation (location message : String)
  | unsupportedScheme (location scheme : String)
  | malformed (position : Nat) (cause : Malformation)
  | unrecognizedDocument (root : String)
  | emptyDocument
  | unknownPrefix (name scd : String)
  | missingInterface (scd : String)
  | listing (cause : ListingError)
deriving DecidableEq

/-- The reason in words. -/
def Error.message : Error → String
  | .file location cause => "cannot read episode " ++ location ++ ": " ++ cause.message
  | .invalidLocation location message =>
    "invalid episode location " ++ Text.quoted location ++ ": " ++ message
  | .unsupportedScheme location scheme =>
    "unsupported episode URL scheme " ++ Text.quoted scheme ++ " in " ++ location
  | .malformed position cause =>
    "malformed episode XML at byte " ++ toString position ++ ": " ++ cause.message
  | .unrecognizedDocument root => "unrecognized episode document root <" ++ root ++ ">"
  | .emptyDocument => "episode document is empty"
  | .unknownPrefix name scd =>
    "undeclared namespace prefix " ++ Text.quoted name ++ " in scd " ++ Text.quoted scd
  | .missingInterface scd =>
    "episode binding " ++ Text.quoted scd ++ " names no interface"
  | .listing cause => "cannot deserialize interface bindings: " ++ cause.message

/-- The failure of the operating system behind the failure, if there is one. -/
def Error.fileError? : Error → Option FileError
  | .file _ cause => some cause
  | _ => none

end GroupInterfaces.Episode
