import GroupInterfaces.SortedMap
import GroupInterfaces.Text.Blank
import GroupInterfaces.Text.Split

/-!
# Files

A file store holds what a command can see around it: files by their path from the working
directory, and documents by their address on other hosts. A directory exists if a file is in it,
or if the store says so; the working directory, those above it and the root always exist.

A file holds bytes. The operating system can refuse to open it, and it need not have room for all
that is written to it. A file is emptied before it is written, so a write that fails leaves it as
it was only if it could not be opened.
-/

namespace GroupInterfaces

/-- The reasons for which a file or a document cannot be read or written. -/
inductive FileError where
  | notFound
  | notADirectory
  | isADirectory
  | nameTooLong
  | nullInName
  | notText
  | system (reason : String)
  | request (reason : String) (causes : List String)
deriving DecidableEq

/-- The reason in the words of the operating system, or of the request to another host. -/
def FileError.message : FileError → String
  | .notFound => "No such file or directory (os error 2)"
  | .notADirectory => "Not a directory (os error 20)"
  | .isADirectory => "Is a directory (os error 21)"
  | .nameTooLong => "File name too long (os error 36)"
  | .nullInName => "file name contained an unexpected NUL byte"
  | .notText => "stream did not contain valid UTF-8"
  | .system reason => reason
  | .request reason _ => reason

/-- What the reason goes back to, if more is known of it. -/
def FileError.causes : FileError → List String
  | .request _ causes => causes
  | _ => []

/-- How much of something there is room for, and the reason for which there is no more. -/
structure Room where
  size : Nat
  cause : FileError
deriving DecidableEq

/-- What the operating system refuses for a file: to open it for reading, to open it for writing,
or to take more than some bytes of what is written to it. -/
structure Restriction where
  reading : Option FileError := none
  writing : Option FileError := none
  room : Option Room := none
deriving DecidableEq, Inhabited

/-- What another host answers to a request for a document. -/
inductive HostAnswer where
  | document (text : String)
  | failure (reason : String) (causes : List String)
deriving DecidableEq

/-- File stores: the contents of files by path, directories that may be empty, what is refused for
files by path, and the answers of other hosts by address. -/
structure FileStore where
  files : SortedMap String ByteArray := {}
  directories : List String := []
  restrictions : SortedMap String Restriction := {}
  hosts : SortedMap String HostAnswer := {}
deriving Inhabited

namespace FileStore

/-- A place in the tree of directories: the names on the way there from the working
directory. The way may begin with steps upwards, or at the root. -/
abbrev Place : Type := List String

/-- The path of a place. -/
def pathOf (place : Place) : String :=
  match place with
  | "/" :: names => "/" ++ "/".intercalate names
  | names => "/".intercalate names

/-- The place above a place. -/
def above (place : Place) : Place :=
  match place.reverse with
  | [] => [".."]
  | ".." :: _ => place ++ [".."]
  | "/" :: _ => place
  | _ :: rest => rest.reverse

/-- The contents of the file at a place. -/
def fileAt? (s : FileStore) (place : Place) : Option ByteArray := s.files.get? (pathOf place)

/-- What is refused for the file at a place, which need not exist. -/
def restrictionAt (s : FileStore) (place : Place) : Restriction :=
  (s.restrictions.get? (pathOf place)).getD {}

/-- A place is a directory that exists. -/
def isDirectory (s : FileStore) (place : Place) : Bool :=
  place.all (· = "..") || place = ["/"] || s.directories.contains (pathOf place)
    || s.files.keys.any fun path => path.startsWith (pathOf place ++ "/")

/-- Follows the names of a path from a directory. The last name need not exist. -/
def follow (s : FileStore) : Place → List String → Except FileError Place
  | place, [] => .ok place
  | place, name :: rest =>
    if name = "" || name = "." then follow s place rest
    else if 255 < name.utf8ByteSize then .error .nameTooLong
    else
      let next := if name = ".." then above place else place ++ [name]
      if s.isDirectory next || rest.isEmpty then follow s next rest
      else if (s.fileAt? next).isSome then .error .notADirectory
      else .error .notFound

/-- The place that a path leads to. -/
def locate (s : FileStore) (path : String) : Except FileError Place :=
  let cs := path.toList
  if cs.contains '\x00' then .error .nullInName
  else if 4095 < path.utf8ByteSize then .error .nameTooLong
  else if path = "" then .error .notFound
  else s.follow (if cs.head? = some '/' then ["/"] else []) ((Text.splitAt '/' cs).map .ofList)

/-- The text of a file. -/
def read (s : FileStore) (path : String) : Except FileError String := do
  let place ← s.locate path
  match (s.restrictionAt place).reading, s.fileAt? place with
  | some cause, _ => .error cause
  | none, some bytes =>
    match String.fromUTF8? bytes with
    | some text => .ok text
    | none => .error .notText
  | none, none => .error (if s.isDirectory place then .isADirectory else .notFound)

/-- The place of a file that is opened for writing. A path that ends in a slash is one of a
directory. -/
def placeToWrite (s : FileStore) (path : String) : Except FileError Place := do
  let stem := String.ofList (Text.dropTrailing (· = '/') path.toList)
  let place ← s.locate (if stem = "" then path else stem)
  if stem ≠ path || s.isDirectory place then .error .isADirectory
  else
    match (s.restrictionAt place).writing with
    | some cause => .error cause
    | none => .ok place

/-- What a file with some room takes of bytes that are written to it, and the reason for which it
does not take all. -/
def taken (room : Option Room) (bytes : ByteArray) : ByteArray × Option FileError :=
  match room with
  | none => (bytes, none)
  | some room =>
    if room.size < bytes.size then (bytes.extract 0 room.size, some room.cause) else (bytes, none)

/-- Writes a text to a file, which is made if it does not exist and is emptied if it does. The
store behind that, and the reason for which it has failed, if so. -/
def put (s : FileStore) (path text : String) : FileStore × Option FileError :=
  match s.placeToWrite path with
  | .error cause => (s, some cause)
  | .ok place =>
    let (bytes, failure) := taken (s.restrictionAt place).room text.toUTF8
    ({ s with files := s.files.insert (pathOf place) bytes }, failure)

/-- The store behind a text that has been written to a file as a whole. What is left of the file
otherwise, `put` tells. -/
def write (s : FileStore) (path text : String) : Except FileError FileStore :=
  match s.put path text with
  | (s, none) => .ok s
  | (_, some cause) => .error cause

/-- The store without a file. -/
def remove (s : FileStore) (path : String) : Except FileError FileStore := do
  let place ← s.locate path
  match s.fileAt? place with
  | some _ => .ok { s with files := s.files.erase (pathOf place) }
  | none => .error (if s.isDirectory place then .isADirectory else .notFound)

/-- The document at an address on another host. A host that nothing is known of is not reached. -/
def fetch (s : FileStore) (address : String) : Except FileError String :=
  match s.hosts.get? address with
  | some (.document text) => .ok text
  | some (.failure reason causes) => .error (.request reason causes)
  | none => .error (.request ("error sending request for url (" ++ address ++ ")") [])

end FileStore

end GroupInterfaces
