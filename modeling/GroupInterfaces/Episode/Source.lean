import GroupInterfaces.Episode.Index
import GroupInterfaces.Episode.Reader
import GroupInterfaces.Url.Basic

/-!
# Sources of episodes

An episode lies in a file, on another host, or in a text at hand.
-/

namespace GroupInterfaces.Episode

/-- The places that episodes are read from. -/
inductive Source where
  | file (path : String)
  | remote (url : Url)
  | inline (name text : String)
deriving DecidableEq

namespace Source

/-- The source of a URL, as it is given by a location. -/
def ofUrl (location : String) (url : Url) : Except Error Source :=
  if url.scheme.length = 1 then .ok (.file location)
  else if url.scheme = "file" then
    match url.toFilePath? with
    | some path => .ok (.file path)
    | none => .error (.invalidLocation location "file URL has no local path")
  else if url.scheme = "http" || url.scheme = "https" then
    if url.host.isNone then .error (.invalidLocation location "URL has no host")
    else .ok (.remote url)
  else .error (.unsupportedScheme location url.scheme)

/-- The source at a location, which is a URL or the path of a file. A scheme of a single
letter is a drive. -/
def ofLocation (location : String) : Except Error Source :=
  let location := Text.trim location
  if location = "" then .error (.invalidLocation location "empty location")
  else
    match Url.parse location with
    | .ok url => ofUrl location url
    | .error .relativeWithoutBase => .ok (.file location)
    | .error e => .error (.invalidLocation location e.message)

/-- The source in words. -/
def display : Source → String
  | .file path => path
  | .remote url => url.display
  | .inline name _ => "inline:" ++ name

/-- The text of the episode. -/
def read (source : Source) (store : FileStore) : Except Error String :=
  match source with
  | .file path => (store.read path).mapError (.file path)
  | .remote url => (store.fetch url.display).mapError (.file url.display)
  | .inline _ text => .ok text

/-- The index of the episode in an environment. -/
def loadIndex (source : Source) (store : FileStore) (environment : Environment) :
    Except Error Index := do
  let text ← source.read store
  let bindings ← readBindings text
  pure (.ofBindings bindings environment)

end Source

end GroupInterfaces.Episode
