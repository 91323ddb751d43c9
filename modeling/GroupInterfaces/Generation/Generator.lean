import GroupInterfaces.Builder.Generator
import GroupInterfaces.Episode.Record
import GroupInterfaces.Episode.Upstream
import GroupInterfaces.Generation.Report
import GroupInterfaces.Implementation.Binding
import GroupInterfaces.Implementation.Placeholders
import GroupInterfaces.Interface.Supertypes
import GroupInterfaces.Interface.Synthesis

/-!
# Runs

A run makes the interfaces of the model groups, then those of the attribute groups, except
for groups that the upstream episode knows. It binds the classes to them, removes the
placeholders, and has the builders declared if they are wanted.

A generator keeps from run to run the upstream episode once it is loaded, the record of all
interfaces it has made, and the generator of builders.
-/

namespace GroupInterfaces

/-- What a run works on. -/
structure Input where
  schema : SchemaSet := {}
  outline : Outline := {}
  environment : Environment := {}
deriving Inhabited

/-- Generators of interfaces. The record is kept if there is to be one. -/
structure Generator where
  settings : Settings
  upstream : Episode.Upstream := {}
  record : Option Episode.Record := none
  builders : BuilderGenerator := .fluent
deriving Inhabited

/-- What comes of a run. The outline is as the run left it, also if it failed. -/
structure Outcome where
  result : Except Failure Report
  outline : Outline
  diagnostics : Diagnostics
  generator : Generator

/-- The entry of an interface in a record. -/
def SynthesizedInterface.entry (i : SynthesizedInterface) : Episode.Entry where
  kind := i.declaration.kind
  component := i.name
  interface := i.typeRef

/-- The declarations of one kind that an episode does not know. -/
def SchemaSet.unpublished (s : SchemaSet) (index : Episode.Index) (kind : GroupKind) :
    List GroupDecl :=
  (s.declarations kind).filter fun d => !index.contains d.name

namespace Generator

/-- The generator that a configuration asks for. -/
def ofConfig (c : Config) : Except GenerationError Generator :=
  match c.episodeSource with
  | .ok source => .ok { settings := c.settings, upstream := { source } }
  | .error e => .error (.episode e)

/-- The generator with interfaces recorded, if there is a record. -/
def recordAll (g : Generator) (is : List SynthesizedInterface) : Generator :=
  { g with record := g.record.map (· ++ is.map SynthesizedInterface.entry) }

/-- The end of a run that has failed. -/
def fail (g : Generator) (o : Outline) (warnings : List Diagnostic) (f : Failure) : Outcome where
  result := .error f
  outline := o
  diagnostics := { errors := [f.diagnostic], warnings }
  generator := g

/-- The end of a run behind the synthesis of interfaces. -/
def finish (g : Generator) (input : Input) (index : Episode.Index) (o : Outline)
    (modelGroups attributeGroups : InterfaceSet) : Outcome :=
  let bound := o.bind input.schema modelGroups attributeGroups index input.environment
  let interfaces := modelGroups.values ++ attributeGroups.values
  let (removedClasses, o) := bound.outline.removePlaceholders interfaces
  let succeed (g : Generator) (o : Outline) (builders : BuilderOutlines) : Outcome :=
    { result := .ok
        { settings := g.settings
          modelGroupInterfaces := modelGroups
          attributeGroupInterfaces := attributeGroups
          associations := bound.associations
          builders := builders
          removedClasses := removedClasses
          warnings := bound.warnings }
      outline := o
      diagnostics := { warnings := bound.warnings }
      generator := g }
  if g.settings.declareBuilderInterface then
    match o.declareBuilders g.settings.builderInterfaceName {} interfaces with
    | (.error f, o) => g.fail o bound.warnings f
    | (.ok builders, o) =>
      let built := g.builders.buildAll builders bound.associations g.settings.builderOptions o
        builders.values
      let g := { g with builders := built.generator }
      match built.failure with
      | some f => g.fail built.outline bound.warnings f
      | none => succeed g built.outline builders
  else succeed g o {}

/-- One run with an upstream episode that is loaded. -/
def runWith (g : Generator) (input : Input) (index : Episode.Index) : Outcome :=
  let modelBatch := synthesizeAll g.settings input.outline
    (input.schema.unpublished index .modelGroup)
  let g := g.recordAll modelBatch.interfaces
  match modelBatch.failure with
  | some f => g.fail modelBatch.outline [] f
  | none =>
    let modelGroups := InterfaceSet.ofInterfaces modelBatch.interfaces
    let o := modelBatch.outline.link modelGroups index
    let attributeBatch := synthesizeAll g.settings o
      (input.schema.unpublished index .attributeGroup)
    let g := g.recordAll attributeBatch.interfaces
    match attributeBatch.failure with
    | some f => g.fail attributeBatch.outline [] f
    | none =>
      let attributeGroups := InterfaceSet.ofInterfaces attributeBatch.interfaces
      let o := attributeBatch.outline.link attributeGroups index
      g.finish input index o (modelGroups.link index) (attributeGroups.link index)

/-- One run. -/
def run (g : Generator) (store : FileStore) (input : Input) : Outcome :=
  match g.upstream.load store input.environment with
  | (.error e, upstream) =>
    { g with upstream }.fail input.outline [] { error := .episode e }
  | (.ok index, upstream) => { g with upstream }.runWith input index

end Generator

end GroupInterfaces
