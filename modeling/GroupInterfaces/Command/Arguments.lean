/-!
# Arguments of the command line

The first bare word names a command; the options and words behind it belong to the command.
An option is given by its long name, with its value behind an equals sign or in the next
argument, if that does not look like an option. Options of one letter can be joined.
Behind two hyphens there are only words.
-/

namespace GroupInterfaces.Command

/-- What the command `generate` is asked for. -/
structure GenerateOptions where
  input : String
  config : Option String := none
  episode : Option String := none
  declareSetters : Option Bool := none
  builderInterface : Bool := false
  emitEpisode : Option String := none
  out : Option String := none
deriving DecidableEq, Inhabited

/-- What the command `episode` is asked for. -/
structure EpisodeOptions where
  location : String
  compiled : List String := []
deriving DecidableEq, Inhabited

/-- What a command line asks for. -/
inductive Invocation where
  | generate (options : GenerateOptions)
  | episode (options : EpisodeOptions)
deriving DecidableEq

/-- The reasons for which a command line does not come to a command. -/
inductive Halt where
  | usage
  | help
  | version
deriving DecidableEq

/-! ### Tokens -/

/-- What a single argument looks like. -/
inductive Token where
  | escape
  | long (name : String) (value : Option String)
  | letters (letters : List Char)
  | word (text : String)
deriving DecidableEq

/-- Splits an option at its first equals sign. -/
def splitEquals (cs : List Char) : String × Option String :=
  (.ofList (cs.takeWhile (· ≠ '=')),
    match cs.dropWhile (· ≠ '=') with
    | _ :: value => some (.ofList value)
    | [] => none)

/-- The token that an argument is. -/
def Token.ofArgument (argument : String) : Token :=
  match argument.toList with
  | ['-', '-'] => .escape
  | '-' :: '-' :: rest =>
    let (name, value) := splitEquals rest
    .long name value
  | '-' :: c :: rest => .letters (c :: rest)
  | _ => .word argument

/-! ### Options -/

/-- Whether an option takes a value. -/
inductive Arity where
  | none
  | one
  | atMostOne (usual : String)
deriving DecidableEq

/-- Options of a command. -/
structure OptionSpec where
  name : String
  letter : Option Char := Option.none
  arity : Arity := .none
  repeats : Bool := false
  accepts : String → Bool := fun _ => true

/-- What was given on a command line: options with their values, and words. -/
structure Given where
  options : List (String × String) := []
  words : List String := []
deriving DecidableEq, Inhabited

namespace Given

/-- The value of an option. -/
def value? (g : Given) (name : String) : Option String := g.options.lookup name

/-- All values of an option, in order. -/
def values (g : Given) (name : String) : List String :=
  g.options.filterMap fun (n, value) => if n = name then some value else none

/-- The option was given. -/
def has (g : Given) (name : String) : Bool := (g.value? name).isSome

/-- One more option. Most options are given once at most. -/
def add (g : Given) (spec : OptionSpec) (value : String) : Except Halt Given :=
  if !spec.repeats && g.has spec.name then .error .usage
  else if !spec.accepts value then .error .usage
  else .ok { g with options := g.options ++ [(spec.name, value)] }

/-- The end of an option that waits for a value. -/
def settle (g : Given) (waiting : Option OptionSpec) : Except Halt Given :=
  match waiting with
  | none => .ok g
  | some spec =>
    match spec.arity with
    | .atMostOne usual => g.add spec usual
    | _ => .error .usage

/-- Options that are joined letters. -/
def addLetters (specs : List OptionSpec) : Given → List Char → Except Halt Given
  | g, [] => .ok g
  | g, c :: rest =>
    if c = 'h' then .error .help
    else
      match specs.find? (·.letter = some c) with
      | some spec => do
        let g ← g.add spec ""
        addLetters specs g rest
      | none => .error .usage

end Given

/-- Reads the arguments of a command behind those already read, while an option may wait for
its value. More words than the command takes are refused where they stand. -/
def readArguments (specs : List OptionSpec) (maxWords : Nat) :
    Given → (waiting : Option OptionSpec) → List String → Except Halt Given
  | g, waiting, [] => g.settle waiting
  | g, waiting, argument :: rest =>
    match Token.ofArgument argument with
    | .escape => do
      let g ← g.settle waiting
      pure { g with words := g.words ++ rest }
    | .long name value => do
      if name = "help" then
        let _ ← g.settle waiting
        throw (if value.isNone then .help else .usage)
      match specs.find? (·.name = name) with
      | none => throw .usage
      | some spec =>
        let g ← g.settle waiting
        match spec.arity, value with
        | .none, none => readArguments specs maxWords (← g.add spec "") none rest
        | .none, some _ => throw .usage
        | _, some value => readArguments specs maxWords (← g.add spec value) none rest
        | _, none => readArguments specs maxWords g (some spec) rest
    | .letters letters => do
      let g ← g.settle waiting
      readArguments specs maxWords (← g.addLetters specs letters) none rest
    | .word text =>
      match waiting with
      | some spec => do readArguments specs maxWords (← g.add spec text) none rest
      | none =>
        if g.words.length < maxWords then
          readArguments specs maxWords { g with words := g.words ++ [text] } none rest
        else .error .usage

/-! ### Commands -/

/-- The option for more messages, which every command has. -/
def verboseOption : OptionSpec := { name := "verbose", letter := some 'v' }

/-- An option whose value is a path. -/
def pathOption (name : String) : OptionSpec :=
  { name, arity := .one, accepts := (· ≠ "") }

/-- The options of the command `generate`. -/
def generateSpecs : List OptionSpec :=
  [pathOption "input", pathOption "config", { name := "episode", arity := .one },
    { name := "declare-setters", arity := .atMostOne "true"
      accepts := fun value => value = "true" || value = "false" },
    { name := "builder-interface" }, pathOption "emit-episode", pathOption "out",
    verboseOption]

/-- The options of the command `episode`. -/
def episodeSpecs : List OptionSpec :=
  [{ name := "compiled", arity := .one, repeats := true }, verboseOption]

/-- Reads the arguments of the command `generate`. -/
def readGenerate (arguments : List String) : Except Halt GenerateOptions := do
  let g ← readArguments generateSpecs 0 {} none arguments
  match g.words, g.value? "input" with
  | [], some input =>
    pure
      { input
        config := g.value? "config"
        episode := g.value? "episode"
        declareSetters := (g.value? "declare-setters").map (· = "true")
        builderInterface := g.has "builder-interface"
        emitEpisode := g.value? "emit-episode"
        out := g.value? "out" }
  | _, _ => throw .usage

/-- Reads the arguments of the command `episode`. -/
def readEpisode (arguments : List String) : Except Halt EpisodeOptions := do
  let g ← readArguments episodeSpecs 1 {} none arguments
  match g.words with
  | [location] => pure { location, compiled := g.values "compiled" }
  | _ => throw .usage

/-- Reads the letters of options in front of a command. `verbose` was given already or not. -/
def readLeadingLetters : (verbose : Bool) → List Char → Except Halt Bool
  | verbose, [] => .ok verbose
  | verbose, c :: rest =>
    if c = 'h' then .error .help
    else if c = 'V' then .error .version
    else if c = 'v' && !verbose then readLeadingLetters true rest
    else .error .usage

/-- Reads a command line behind its first options. -/
def readCommand : (verbose : Bool) → List String → Except Halt Invocation
  | _, [] => .error .usage
  | verbose, argument :: rest =>
    match Token.ofArgument argument with
    | .escape => .error .usage
    | .long "help" none => .error .help
    | .long "version" none => .error .version
    | .long "verbose" none => if verbose then .error .usage else readCommand true rest
    | .long _ _ => .error .usage
    | .letters letters => do
      let verbose ← readLeadingLetters verbose letters
      readCommand verbose rest
    | .word "generate" => .generate <$> readGenerate rest
    | .word "episode" => .episode <$> readEpisode rest
    | .word "help" =>
      match rest with
      | [] | ["generate"] | ["episode"] | ["help"] => .error .help
      | _ => .error .usage
    | .word _ => .error .usage

/-- What a command line asks for. -/
def Invocation.read (arguments : List String) : Except Halt Invocation :=
  readCommand false arguments

end GroupInterfaces.Command
