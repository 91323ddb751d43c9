import GroupInterfaces.Command.Arguments
import GroupInterfaces.Command.Session
import GroupInterfaces.Generation.Json
import GroupInterfaces.Json.Printer
import GroupInterfaces.Json.Reader

/-!
# Commands

The command `generate` takes a document with a schema, an outline and an environment through one
run, and hands out the outline with a report. The command `episode` lists the interfaces that an
episode publishes.
-/

namespace GroupInterfaces.Command

/-! ### Generation -/

/-- A value in the JSON text of a file. -/
def decodeText (α : Type) [Decodable α] (text : String) : Except DecodeError α :=
  match Json.read? text with
  | some v => decode { levels := textLevels } v
  | none => .error .malformed

/-- The configuration in a file, if there is one. -/
def loadConfig (store : FileStore) : Option String → Except CommandError Config
  | none => .ok {}
  | some path => do
    let text ← (store.read path).mapError (.read path)
    (decodeText Config text).mapError (.config path)

/-- The configuration with what the options ask for. -/
def GenerateOptions.apply (o : GenerateOptions) (c : Config) : Config :=
  { c with
    upstreamEpisode := o.episode.or c.upstreamEpisode
    declareSetters := o.declareSetters.getD c.declareSetters
    declareBuilderInterface := o.builderInterface || c.declareBuilderInterface
    plugins := { c.plugins with
      fluentBuilder := o.builderInterface || c.plugins.fluentBuilder } }

/-- The generator and the document that a run is to start with. -/
def GenerateOptions.prepare (o : GenerateOptions) (store : FileStore) :
    Except CommandError (Generator × Input) := do
  let config ← loadConfig store o.config
  let text ← (store.read o.input).mapError (.read o.input)
  let input ← (decodeText Input text).mapError (.document o.input)
  let generator ← (Generator.ofConfig (o.apply config)).mapError .setup
  pure ({ generator with record := o.emitEpisode.map fun _ => [] }, input)

/-- What is handed out of a run that succeeds: the episode first, then the document. -/
def GenerateOptions.deliveries (o : GenerateOptions) (outcome : Outcome) (r : Report) :
    List Delivery :=
  let episode :=
    match o.emitEpisode, outcome.generator.record with
    | some path, some record =>
      [{ path, text := record.write, failure := fun cause => .writeEpisode path (.file path cause) }]
    | _, _ => []
  let document :=
    match o.out with
    | some path =>
      [{ path, text := (outputDocument outcome.outline r).pretty, failure := .write path }]
    | none => []
  episode ++ document

/-- The last line of a run that succeeds. -/
def summary (r : Report) : String :=
  "ok " ++ toString r.modelGroupInterfaces.size ++ " model-group and "
    ++ toString r.attributeGroupInterfaces.size ++ " attribute-group interfaces, "
    ++ toString r.associations.size ++ " classes bound, "
    ++ toString r.warnings.length ++ " warnings"

/-- Hands out what a run has made. The document is printed if there is no file for it. -/
def GenerateOptions.publish (o : GenerateOptions) (outcome : Outcome) (r : Report) : Task Unit := do
  (o.deliveries outcome r).forM Delivery.perform
  if o.out.isNone then print .output ((outputDocument outcome.outline r).pretty ++ "\n")
  tell (summary r)

/-- What the command `generate` does. -/
def GenerateOptions.perform (o : GenerateOptions) : Task Unit := do
  let store := (← get).store
  let (generator, input) ← o.prepare store
  let outcome := generator.run store input
  outcome.diagnostics.warnings.forM fun d => tell ("warning: " ++ d.display)
  match outcome.result with
  | .error f => do
    outcome.diagnostics.errors.forM fun d => tell ("error: " ++ d.display)
    throw (.generation f.error)
  | .ok r => o.publish outcome r

/-- The command `generate`. -/
def GenerateOptions.run (o : GenerateOptions) (store : FileStore) (streams : Streams := {}) :
    Session × Option CommandError :=
  o.perform.runOn store streams

/-! ### Episodes -/

/-- The line for a published interface. -/
def publishedLine (group : QName) (i : PublishedInterface) : String :=
  let availability :=
    match i.availability with
    | .compiled => "compiled"
    | .missing => "missing"
  group.clark ++ " → " ++ i.typeRef.qualifiedName ++ " (" ++ availability ++ ")"

/-- The lines for the interfaces that an episode publishes. -/
def EpisodeOptions.lines (o : EpisodeOptions) (store : FileStore) :
    Except CommandError (List String) := do
  let source ← (Episode.Source.ofLocation o.location).mapError .location
  let index ← (source.loadIndex store (.ofList o.compiled)).mapError (.load source.display)
  if index.isEmpty then throw (.nothingPublished source.display)
  else pure (index.toList.map fun (group, i) => publishedLine group i)

/-- What the command `episode` does. -/
def EpisodeOptions.perform (o : EpisodeOptions) : Task Unit := do
  let lines ← o.lines (← get).store
  lines.forM fun line => print .output (line ++ "\n")

/-- The command `episode`. -/
def EpisodeOptions.run (o : EpisodeOptions) (store : FileStore) (streams : Streams := {}) :
    Session × Option CommandError :=
  o.perform.runOn store streams

/-! ### The command line -/

/-- What a command line leaves: its exit code, what it printed, and the files. -/
structure Result where
  code : UInt32
  output : String
  messages : String
  store : FileStore
deriving Inhabited

/-- What is printed about the use of the commands. -/
def usageText : String :=
  "Interfaces for the model groups and attribute groups of XML schemas\n\n"
    ++ "Usage: groupgen [-v] generate --input FILE [--config FILE] [--episode LOCATION]\n"
    ++ "                [--declare-setters[=true|false]] [--builder-interface]\n"
    ++ "                [--emit-episode FILE] [--out FILE]\n"
    ++ "       groupgen [-v] episode LOCATION [--compiled NAME]...\n"
    ++ "       groupgen --version\n"

/-- What is printed about the version. -/
def versionText : String := "groupgen 0.6.0\n"

/-- The end of a command line, where a last text is printed as far as its stream takes it. -/
def Session.close (s : Session) (code : UInt32) (text : String) (stream : Stream) : Result :=
  let (s, _) := s.print text stream
  { code, output := s.output, messages := s.messages, store := s.store }

/-- The end of a command. -/
def Result.ofSession (s : Session) : Option CommandError → Result
  | none => { code := 0, output := s.output, messages := s.messages, store := s.store }
  | some e => s.close e.code e.message .messages

/-- Carries out a command line on files. -/
def execute (arguments : List String) (store : FileStore) (streams : Streams := {}) : Result :=
  let s : Session := { store, streams }
  match Invocation.read arguments with
  | .error .usage => s.close 2 usageText .messages
  | .error .help => s.close 0 usageText .output
  | .error .version => s.close 0 versionText .output
  | .ok (.generate o) =>
    let (s, error) := o.run store streams
    .ofSession s error
  | .ok (.episode o) =>
    let (s, error) := o.run store streams
    .ofSession s error

end GroupInterfaces.Command
