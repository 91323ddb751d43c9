import GroupInterfaces.Generation.Failure
import GroupInterfaces.Implementation.Associations
import GroupInterfaces.Interface.Accessors
import GroupInterfaces.Interface.Basic

/-!
# Builder interfaces

Each synthesized interface may have an interface nested in it that its builders implement.
What that interface declares is up to a generator, which sees one builder at a time together
with all others of the run.
-/

namespace GroupInterfaces

/-- The builder interface of a synthesized interface, with what its generator may want to
know of the latter. -/
structure BuilderOutline where
  interface : TypeRef
  builderType : TypeRef
  builderName : String
  fields : List Field := []
  supertypes : List TypeRef := []
deriving DecidableEq, Inhabited

/-- Builders by the qualified names of their interfaces. -/
abbrev BuilderOutlines : Type := SortedMap String BuilderOutline

namespace BuilderOutline

/-- The builder interface of a synthesized interface, under a name. -/
def ofInterface (builderName : String) (i : SynthesizedInterface) : BuilderOutline where
  interface := i.typeRef
  builderType := i.typeRef.nested builderName
  builderName := builderName
  fields := i.publishedFields
  supertypes := i.supertypes.map Supertype.typeRef

/-- The declaration of the builder interface in an outline. -/
def declaration? (b : BuilderOutline) (o : Outline) : Option InterfaceDecl :=
  (o.interface? b.interface).bind (·.nested? b.builderName)

end BuilderOutline

/-- The outline with one more interface nested in the one that a reference names. -/
def Outline.declareNested (o : Outline) (t : TypeRef) (name : String) : Option Outline :=
  match o.interface? t with
  | none => none
  | some d =>
    match d.declareNested name with
    | .error _ => none
    | .ok d => some (o.modifyInterface t fun _ => d)

/-- Declares the builder interfaces of some interfaces, in order: the outline with them, and
the builders, or the failure that ended it. -/
def Outline.declareBuilders (builderName : String) :
    Outline → BuilderOutlines → List SynthesizedInterface →
      Except Failure BuilderOutlines × Outline
  | o, builders, [] => (.ok builders, o)
  | o, builders, i :: rest =>
    match o.declareNested i.typeRef builderName with
    | none =>
      (.error
        { error := .interfaceExists (i.typeRef.nested builderName).qualifiedName
          locator := some i.declaration.locator }, o)
    | some o =>
      o.declareBuilders builderName
        (builders.insert i.typeRef.qualifiedName (.ofInterface builderName i)) rest

/-- What a generator of builders is asked for: one builder, among all of the run. -/
structure BuilderRequest where
  builder : BuilderOutline
  builders : BuilderOutlines
  associations : Associations
  options : BuilderOptions

end GroupInterfaces
