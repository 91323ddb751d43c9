import GroupInterfaces.Episode.Error
import GroupInterfaces.Schema.QName

/-!
# Failures and diagnostics

A run ends at its first failure. What it has to tell its user it tells in diagnostics: a
failure is an error, and what it has to leave out is a warning.
-/

namespace GroupInterfaces

/-- The reasons for which a run fails. The fragment that documents a group is written to a text at
hand, which cannot fail. -/
inductive GenerationError where
  | episode (cause : Episode.Error)
  | packageNotFound (space : String) (group : QName)
  | noImplementation (className : String) (group : QName)
  | interfaceExists (name : String)
  | propertyNotFound (group : QName) (property className : String)
  | propertyNameCollision (group : QName) (property : String) (first second : QName)
  | builder (interface message : String)
deriving DecidableEq

/-- The reason in words. -/
def GenerationError.message : GenerationError → String
  | .episode cause => "upstream episode: " ++ cause.message
  | .packageNotFound space group =>
    "no package found for namespace \"" ++ space ++ "\" of group " ++ group.clark
  | .noImplementation className group =>
    "no implementation class " ++ className ++ " found for group " ++ group.clark
  | .interfaceExists name => "interface " ++ name ++ " already exists"
  | .propertyNotFound group property className =>
    "property " ++ property ++ " of group " ++ group.clark
      ++ " not found in implementation class " ++ className
  | .propertyNameCollision group property first second =>
    "members " ++ first.clark ++ " and " ++ second.clark ++ " of group " ++ group.clark
      ++ " both map to property " ++ property
  | .builder interface message => "builder generation for " ++ interface ++ ": " ++ message

/-- The failure of a run, with the place in a schema that it is about. -/
structure Failure where
  error : GenerationError
  locator : Option Locator := none
deriving DecidableEq

/-- How grave a diagnostic is. -/
inductive Severity where
  | warning
  | error
deriving DecidableEq, Inhabited

/-- What a user is told. -/
structure Diagnostic where
  severity : Severity
  message : String
  locator : Option Locator := none
deriving DecidableEq, Inhabited

/-- The diagnostic on one line. -/
def Diagnostic.display (d : Diagnostic) : String :=
  match d.locator with
  | some l => l.display ++ ": " ++ d.message
  | none => d.message

/-- The diagnostic of a failure. -/
def Failure.diagnostic (f : Failure) : Diagnostic :=
  { severity := .error, message := f.error.message, locator := f.locator }

/-- Diagnostics in order, errors apart from warnings. -/
structure Diagnostics where
  errors : List Diagnostic := []
  warnings : List Diagnostic := []
deriving DecidableEq, Inhabited

namespace Diagnostics

/-- The diagnostics with one more, put down where it belongs. -/
def report (ds : Diagnostics) (d : Diagnostic) : Diagnostics :=
  match d.severity with
  | .error => { ds with errors := ds.errors ++ [d] }
  | .warning => { ds with warnings := ds.warnings ++ [d] }

/-- An error was reported. -/
def hasErrors (ds : Diagnostics) : Bool := !ds.errors.isEmpty

end Diagnostics

end GroupInterfaces
