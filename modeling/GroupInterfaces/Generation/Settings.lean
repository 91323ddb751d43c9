import GroupInterfaces.Episode.Source

/-!
# Configuration and settings

A configuration says what a user asks for and which other plugins take part in the
compilation. The settings are what follows from it for the interfaces of a run.
-/

namespace GroupInterfaces

/-- The plugin for properties that can be observed. -/
structure BoundProperties where
  constrained : Bool := false
  setterThrows : Bool := false
deriving DecidableEq, Inhabited

/-- The plugin for deep clones. -/
structure DeepClone where
  cloneThrows : Bool := false
deriving DecidableEq, Inhabited

/-- The plugins that take part in the compilation. -/
structure Plugins where
  immutable : Bool := false
  boundProperties : Option BoundProperties := none
  deepClone : Option DeepClone := none
  deepCopy : Bool := false
  fluentBuilder : Bool := false
deriving DecidableEq, Inhabited

/-- What a user asks for. The upstream episode is given by its location. -/
structure Config where
  declareSetters : Bool := true
  declareBuilderInterface : Bool := false
  newBuilderMethodName : String := "builder"
  newCopyBuilderMethodName : String := "newCopyBuilder"
  builderInterfaceName : String := "BuildSupport"
  upstreamEpisode : Option String := none
  plugins : Plugins := {}
deriving DecidableEq, Inhabited

/-- The names of the methods that hand out builders. -/
structure BuilderOptions where
  newBuilderMethodName : String
  newCopyBuilderMethodName : String
deriving DecidableEq, Inhabited

/-- What holds for the interfaces of a run. Without setters they are immutable; a setter
may have to declare that it throws a veto. -/
structure Settings where
  immutable : Bool
  setterThrowsVeto : Bool
  declareBuilderInterface : Bool
  needsCloneMethod : Bool
  cloneMethodThrows : Bool
  needsCopyMethod : Bool
  builderInterfaceName : String
  builderOptions : BuilderOptions
deriving DecidableEq, Inhabited

/-- The settings that follow from a configuration. -/
def Config.settings (c : Config) : Settings where
  immutable := !c.declareSetters || c.plugins.immutable
  setterThrowsVeto := c.plugins.boundProperties.any fun b => b.constrained && b.setterThrows
  declareBuilderInterface := c.declareBuilderInterface && c.plugins.fluentBuilder
  needsCloneMethod := c.plugins.deepClone.isSome
  cloneMethodThrows := c.plugins.deepClone.any (·.cloneThrows)
  needsCopyMethod := c.plugins.deepCopy
  builderInterfaceName := c.builderInterfaceName
  builderOptions :=
    { newBuilderMethodName := c.newBuilderMethodName
      newCopyBuilderMethodName := c.newCopyBuilderMethodName }

/-- The source of the upstream episode, if there is one. -/
def Config.episodeSource (c : Config) : Except Episode.Error (Option Episode.Source) :=
  match c.upstreamEpisode with
  | some location => some <$> Episode.Source.ofLocation location
  | none => .ok none

end GroupInterfaces
