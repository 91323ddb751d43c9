import GroupInterfaces.Command.Files

/-!
# The program

Loads the files that the command line names, carries it out on them, and writes the files that have
changed.
-/

namespace GroupInterfaces.Command

/-- The reason for which a file that is there cannot be read. -/
def refusal : IO.Error → FileError
  | .permissionDenied .. => .system "Permission denied (os error 13)"
  | e => .system e.toString

/-- The store with what is found at a path. -/
def look (store : FileStore) (path : String) : IO FileStore := do
  let here ← IO.currentDir
  let mut store := store
  for directory in directoriesAbove path ++ [path] do
    if ← (here / directory).isDir then
      store := { store with directories := directory :: store.directories }
  match store.locate path with
  | .error _ => pure store
  | .ok place =>
    if store.isDirectory place || !(← (here / path).pathExists) then pure store
    else
      let name := FileStore.pathOf place
      try
        let bytes ← IO.FS.readBinFile path
        pure { store with files := store.files.insert name bytes }
      catch e =>
        let restriction : Restriction := { reading := some (refusal e) }
        pure { store with restrictions := store.restrictions.insert name restriction }

/-- The store with what is found at the paths that a command names. -/
def lookAll (store : FileStore) (invocation : Invocation) : IO FileStore :=
  (invocation.paths store).foldlM look store

end GroupInterfaces.Command

open GroupInterfaces Command in
/-- Carries out a command line. -/
def main (arguments : List String) : IO UInt32 := do
  let mut store : FileStore := {}
  if let .ok invocation := Invocation.read arguments then
    store ← lookAll store invocation
    store ← lookAll store invocation
  let result := execute arguments store
  for (path, bytes) in result.store.files.toList do
    if (store.files.get? path).map (·.data) ≠ some bytes.data then IO.FS.writeBinFile path bytes
  IO.print result.output
  IO.eprint result.messages
  return result.code
