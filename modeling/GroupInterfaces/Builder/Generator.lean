import GroupInterfaces.Builder.Basic

/-!
# Generators of builders

The usual generator declares a method for every field by which a value is given to a
builder, and lets a builder extend the builders of the interfaces that its own interface
extends. Another one declares nothing and notes what it is asked for.
-/

namespace GroupInterfaces

/-! ### Fluent builders -/

/-- The method by which a builder takes the value of a field, for a field with a getter. -/
def fluentMethod? (interface : InterfaceDecl) (builderType : String) (f : Field) :
    Option Method :=
  ((interface.findMethod? ("get" ++ f.stem)).or (interface.findMethod? ("is" ++ f.stem))).map
    fun getter =>
      { name := "with" ++ f.stem, returnType := builderType
        params := [{ name := "value", type := getter.returnType }] }

/-- The builders that a builder extends. -/
def BuilderRequest.superBuilders (r : BuilderRequest) : List TypeRef :=
  r.builder.supertypes.filterMap fun t =>
    (r.builders.get? t.qualifiedName).map (·.builderType)

/-- The outline with a fluent builder. -/
def Outline.buildFluent (o : Outline) (r : BuilderRequest) : Except GenerationError Outline :=
  let b := r.builder
  match o.interface? b.interface with
  | none => .error (.builder b.interface.qualifiedName "interface is not declared")
  | some interface =>
    match interface.nested? b.builderName with
    | none =>
      .error <| .builder b.interface.qualifiedName
        ("builder interface " ++ b.builderName ++ " is not declared")
    | some _ =>
      let methods := b.fields.filterMap (fluentMethod? interface b.builderType.qualifiedName)
      .ok <| o.modifyInterface b.interface fun d =>
        d.modifyNested b.builderName fun n =>
          r.superBuilders.foldl InterfaceDecl.addSupertype (n.addMethods methods)

/-! ### Notes -/

/-- What a generator is asked for, and what it finds. -/
structure BuilderNote where
  builder : BuilderOutline
  declared : Bool
  builders : List String
  implementors : List String
  options : BuilderOptions
deriving DecidableEq, Inhabited

/-- The note of a request. -/
def BuilderRequest.note (r : BuilderRequest) (o : Outline) : BuilderNote where
  builder := r.builder
  declared := (r.builder.declaration? o).isSome
  builders := r.builders.keys
  implementors := r.associations.implementorsOf r.builder.interface
  options := r.options

/-! ### Generators -/

/-- Generators of builders. One that takes notes has those that it took so far. -/
inductive BuilderGenerator where
  | fluent
  | notes (taken : List BuilderNote)
deriving DecidableEq, Inhabited

namespace BuilderGenerator

/-- The notes that were taken. -/
def taken : BuilderGenerator → List BuilderNote
  | .fluent => []
  | .notes taken => taken

/-- Asks for one builder. Where there are no fields, a generator that takes notes has
nothing to build. -/
def build (g : BuilderGenerator) (o : Outline) (r : BuilderRequest) :
    Except GenerationError Outline × BuilderGenerator :=
  match g with
  | .fluent => (o.buildFluent r, .fluent)
  | .notes taken =>
    let answer :=
      if r.builder.fields.isEmpty then
        .error (.builder r.builder.interface.qualifiedName "nothing to build")
      else .ok o
    (answer, .notes (taken ++ [r.note o]))

end BuilderGenerator

/-- What comes of several builders: the outline with them, the generator behind the last
one, and the failure that ended it. -/
structure BuildResult where
  outline : Outline
  generator : BuilderGenerator
  failure : Option Failure := none

/-- Asks for some of the builders of a run, in order. -/
def BuilderGenerator.buildAll (builders : BuilderOutlines) (associations : Associations)
    (options : BuilderOptions) : BuilderGenerator → Outline → List BuilderOutline → BuildResult
  | g, o, [] => { outline := o, generator := g }
  | g, o, builder :: rest =>
    match g.build o { builder, builders, associations, options } with
    | (.error e, g) => { outline := o, generator := g, failure := some { error := e } }
    | (.ok o, g) => buildAll builders associations options g o rest

end GroupInterfaces
