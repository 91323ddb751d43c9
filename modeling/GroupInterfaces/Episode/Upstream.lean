import GroupInterfaces.Episode.Source

/-!
# The upstream episode

The episode that a run builds on is loaded when it is first needed, and only once. If
loading fails it is tried again the next time.
-/

namespace GroupInterfaces.Episode

/-- An upstream episode: where it comes from, if there is one, and its index once it is
loaded. -/
structure Upstream where
  source : Option Source := none
  index : Option Index := none
deriving DecidableEq, Inhabited

namespace Upstream

/-- The index was loaded. -/
def isLoaded (u : Upstream) : Bool := u.index.isSome

/-- The index as loading it now gives it. It is empty if there is no source. -/
def loadIndex (u : Upstream) (store : FileStore) (environment : Environment) :
    Except Error Index :=
  match u.source with
  | some source => source.loadIndex store environment
  | none => .ok {}

/-- The index, and the upstream episode with it. -/
def load (u : Upstream) (store : FileStore) (environment : Environment) :
    Except Error Index × Upstream :=
  match u.index with
  | some index => (.ok index, u)
  | none =>
    match u.loadIndex store environment with
    | .ok index => (.ok index, { u with index := some index })
    | .error e => (.error e, u)

end Upstream

end GroupInterfaces.Episode
