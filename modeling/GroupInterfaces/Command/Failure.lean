import GroupInterfaces.Generation.Failure
import GroupInterfaces.Json.Decoding

/-!
# Failures of commands

A command fails with a reason that it tells with all its causes, or because a stream that it
prints to takes no more. In the first case it ends in order, with exit code 1. In the second one
it breaks off where it is.
-/

namespace GroupInterfaces.Command

/-- The streams that a command prints to. -/
inductive Stream where
  | output
  | messages
deriving DecidableEq, Inhabited

/-- The name of the stream. -/
def Stream.name : Stream → String
  | .output => "stdout"
  | .messages => "stderr"

/-- The reasons for which a command fails. -/
inductive CommandError where
  | read (path : String) (cause : FileError)
  | config (path : String) (cause : DecodeError)
  | document (path : String) (cause : DecodeError)
  | setup (cause : GenerationError)
  | generation (cause : GenerationError)
  | writeEpisode (path : String) (cause : Episode.Error)
  | write (path : String) (cause : FileError)
  | location (cause : Episode.Error)
  | load (source : String) (cause : Episode.Error)
  | nothingPublished (source : String)
  | unprintable (stream : Stream) (cause : FileError)
deriving DecidableEq

/-- A failure around an episode with its causes. -/
def episodeCauses (e : Episode.Error) : List String :=
  e.message ::
    match e.fileError? with
    | some cause => cause.message :: cause.causes
    | none => []

/-- A failure of a run with its causes. -/
def generationCauses (e : GenerationError) : List String :=
  e.message ::
    match e with
    | .episode cause => episodeCauses cause
    | _ => []

/-- A failure with its causes, outermost one first. -/
def CommandError.causes : CommandError → List String
  | .read path cause => ["failed to read " ++ path, cause.message]
  | .config path cause => ["invalid config " ++ path, cause.message]
  | .document path cause => ["invalid generation document " ++ path, cause.message]
  | .setup cause => generationCauses cause
  | .generation cause => "group interface generation failed" :: generationCauses cause
  | .writeEpisode path cause => ("failed to write episode " ++ path) :: episodeCauses cause
  | .write path cause => ["failed to write " ++ path, cause.message]
  | .location cause => episodeCauses cause
  | .load source cause => ("failed to load episode " ++ source) :: episodeCauses cause
  | .nothingPublished source => ["episode " ++ source ++ " publishes no interfaces"]
  | .unprintable stream cause => ["failed printing to " ++ stream.name ++ ": " ++ cause.message]

/-- A text whose lines but the first are moved in by some blanks. -/
def indentLines (blanks : Nat) (text : String) : String :=
  .ofList <| text.toList.flatMap fun c =>
    if c = '\n' then '\n' :: List.replicate blanks ' ' else [c]

/-- The causes of a failure below each other, with numbers if there are several. -/
def causeLines : List String → List String
  | [cause] => ["    " ++ indentLines 4 cause]
  | causes => causes.zipIdx.map fun (cause, n) =>
    "    " ++ toString n ++ ": " ++ indentLines 7 cause

/-- A failure in words, with all its causes. Where a command breaks off, the runtime system puts
lines of its own around the reason. -/
def CommandError.message (e : CommandError) : String :=
  match e, e.causes with
  | _, [] => ""
  | .unprintable _ _, [text] => text ++ "\n"
  | _, [text] => "Error: " ++ text ++ "\n"
  | _, text :: causes =>
    "Error: " ++ text ++ "\n\nCaused by:\n" ++ "\n".intercalate (causeLines causes) ++ "\n"

/-- The exit code of a command that fails. -/
def CommandError.code : CommandError → UInt32
  | .unprintable _ _ => 101
  | _ => 1

end GroupInterfaces.Command
