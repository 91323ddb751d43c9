import GroupInterfaces.Generation.Failure
import GroupInterfaces.Interface.Accessors
import GroupInterfaces.Interface.Basic
import GroupInterfaces.Schema.Documentation
import GroupInterfaces.Schema.Structure

/-!
# Synthesis of interfaces

An interface is declared in the slot of the placeholder of its group. It publishes the
fields of the placeholder for the members of the group, and has the accessors that the
placeholder has for them.

Groups are taken one by one, and the first failure ends it. What was done to the outline up
to then stays.
-/

namespace GroupInterfaces

/-- The first two members with the same property name, going by the second one. -/
def findCollision? : (seen : List Member) → List Member → Option (Member × Member)
  | _, [] => none
  | seen, m :: rest =>
    match seen.find? (·.propertyName = m.propertyName) with
    | some first => some (first, m)
    | none => findCollision? (m :: seen) rest

/-- The placeholder of a group, if all that an interface for it needs is there. -/
def Outline.placeholder (o : Outline) (d : GroupDecl) : Except GenerationError GeneratedClass :=
  match o.packageForNamespace? d.name.space with
  | none => .error (.packageNotFound d.name.space d.name)
  | some _ =>
    match o.classForGroup? d.name with
    | none => .error (.noImplementation (Naming.className d.name.localName) d.name)
    | some c =>
      match findCollision? [] d.groupStructure.variableMembers with
      | some (first, second) =>
        .error (.propertyNameCollision d.name second.propertyName first.name second.name)
      | none => .ok c

/-- The outline with an interface declared in the slot of a class, if the slot is that of
the class or free. -/
def Outline.displace? (o : Outline) (c : GeneratedClass) (doc : String) : Option Outline :=
  match o.packages.get? c.package with
  | none => none
  | some p =>
    match (p.removeClass c).declareInterface c.name with
    | .error _ => none
    | .ok p =>
      let p := p.modifyInterface c.name (·.withDoc doc)
      some { o with packages := o.packages.insert c.package p }

/-- The fields of a class for members of a group. -/
def publishedFields (c : GeneratedClass) (group : QName) :
    List Member → Except Failure (List Field)
  | [] => .ok []
  | m :: rest =>
    match c.fields.find? (·.propertyName = m.propertyName) with
    | none =>
      .error
        { error := .propertyNotFound group m.propertyName c.qualifiedName
          locator := some m.locator }
    | some f => (f :: ·) <$> publishedFields c group rest

/-- The interface for a group, and the outline with it. -/
def synthesize (s : Settings) (o : Outline) (d : GroupDecl) :
    Except Failure SynthesizedInterface × Outline :=
  let fail (e : GenerationError) : Except Failure SynthesizedInterface :=
    .error { error := e, locator := some d.locator }
  match o.placeholder d with
  | .error e => (fail e, o)
  | .ok c =>
    match o.displace? c d.documentation with
    | none => (fail (.interfaceExists c.qualifiedName), o)
    | some o =>
      match publishedFields c d.name d.groupStructure.variableMembers with
      | .error f => (.error f, o)
      | .ok fields =>
        let methods := fields.flatMap fun f => (c.accessors s f).methods
        let interface : SynthesizedInterface :=
          { declaration := d, typeRef := c.typeRef, placeholder := c.typeRef
            publishedFields := fields }
        (.ok interface, o.modifyInterface c.typeRef (·.addMethods methods))

/-- What comes of several groups: the interfaces up to the first failure, the outline with
them, and the failure. -/
structure Batch where
  interfaces : List SynthesizedInterface := []
  outline : Outline
  failure : Option Failure := none

/-- The interfaces for groups in order. -/
def synthesizeAll (s : Settings) : Outline → List GroupDecl → Batch
  | o, [] => { outline := o }
  | o, d :: rest =>
    match synthesize s o d with
    | (.error f, o) => { outline := o, failure := some f }
    | (.ok i, o) =>
      let batch := synthesizeAll s o rest
      { batch with interfaces := i :: batch.interfaces }

end GroupInterfaces
