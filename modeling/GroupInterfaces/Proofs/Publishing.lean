import GroupInterfaces.Proofs.Rereading

/-!
# What a command leaves that fails

A command that fails leaves the files as they were, unless it fails while it hands out what a run
has made that has succeeded. The episode is handed out first, and the document only behind the whole
of it. A file that cannot be opened stays as it was. One that could be opened holds a beginning of
its text, which is all of it if the failure came later. No other file is changed.
-/

namespace GroupInterfaces.Command

open GroupInterfaces.FileStore

namespace GenerateOptions

variable {options : GenerateOptions} {store : FileStore} {streams : Streams} {session : Session}
  {outcome : Outcome} {r : Report} {d : Delivery} {e : CommandError}

/-- A run that succeeds and is published. -/
structure Publication (options : GenerateOptions) (store : FileStore) where
  generator : Generator
  input : Input
  report : Report
  prepared : options.prepare store = .ok (generator, input)
  succeeded : (generator.run store input).result = .ok report

/-- The files that are handed out of the run. -/
def Publication.deliveries (p : options.Publication store) : List Delivery :=
  options.deliveries (p.generator.run store p.input) p.report

end GenerateOptions

/-! ### Command lines -/

namespace Sample

/-- A command line for an episode and a document. -/
def arguments : List String :=
  ["generate", "--input", "order.json", "--emit-episode", "party.episode", "--out", "later.json"]

end Sample

end GroupInterfaces.Command
