import GroupInterfaces.Command.Basic

/-!
# The files of a command line

Which files a command line reads and writes. What it reads may hang on what it has read: the
configuration can name an episode.
-/

namespace GroupInterfaces.Command

/-- The file at a location. -/
def locationPath? (location : String) : Option String :=
  match Episode.Source.ofLocation location with
  | .ok (.file path) => some path
  | _ => none

/-- The paths that a command names or that its configuration in a store does. -/
def Invocation.paths (store : FileStore) : Invocation → List String
  | .episode o => (locationPath? o.location).toList
  | .generate o =>
    let configured :=
      match loadConfig store o.config with
      | .ok c => (o.apply c).upstreamEpisode.bind locationPath?
      | .error _ => none
    [o.input] ++ o.config.toList ++ configured.toList ++ o.emitEpisode.toList ++ o.out.toList

/-- The paths of the directories on the way to a path, outermost one first. -/
def directoriesAbove (path : String) : List String :=
  let names := Text.splitAt '/' path.toList
  ((List.range names.length).drop 1).map fun n =>
    .ofList ((names.take n).intersperse ['/']).flatten

end GroupInterfaces.Command
