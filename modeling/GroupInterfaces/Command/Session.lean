import GroupInterfaces.Command.Failure

/-!
# Sessions

What a command does step by step: it prints to its streams and hands out files. A step that fails
ends the command, and leaves what it has done so far.
-/

namespace GroupInterfaces.Command

/-- How many characters the streams take before printing to them fails. One of which nothing is
said takes everything. -/
structure Streams where
  output : Option Room := none
  messages : Option Room := none
deriving DecidableEq, Inhabited

/-- What a command has printed and written so far. -/
structure Session where
  store : FileStore
  streams : Streams := {}
  output : String := ""
  messages : String := ""
deriving Inhabited

/-- What a stream with some room has taken of all that is printed to it, and the reason for which
that is not everything. -/
def shown (room : Option Room) (text : String) : String × Option FileError :=
  match room with
  | none => (text, none)
  | some room =>
    if room.size < text.length then (.ofList (text.toList.take room.size), some room.cause)
    else (text, none)

/-- Prints a text. The session behind that, and the reason for which it has failed, if so. -/
def Session.print (s : Session) (text : String) : Stream → Session × Option FileError
  | .output =>
    let (output, failure) := shown s.streams.output (s.output ++ text)
    ({ s with output }, failure)
  | .messages =>
    let (messages, failure) := shown s.streams.messages (s.messages ++ text)
    ({ s with messages }, failure)

/-- A part of what a command does. -/
abbrev Task : Type → Type := ExceptT CommandError (StateM Session)

/-- Prints a text to a stream. -/
def print (stream : Stream) (text : String) : Task Unit := do
  let (s, failure) := (← get).print text stream
  set s
  match failure with
  | some cause => throw (.unprintable stream cause)
  | none => pure ()

/-- Tells the user a line. -/
def tell (line : String) : Task Unit := print .messages (line ++ "\n")

/-- A text that is to be handed out in a file, and what it means that it cannot be written. -/
structure Delivery where
  path : String
  text : String
  failure : FileError → CommandError

/-- Hands out a text in its file. -/
def Delivery.perform (d : Delivery) : Task Unit := do
  let s ← get
  let (store, failure) := s.store.put d.path d.text
  set { s with store }
  match failure with
  | some cause => throw (d.failure cause)
  | none => tell ("wrote " ++ d.path)

/-- Carries out a task on files, with nothing printed yet. -/
def Task.runOn (task : Task Unit) (store : FileStore) (streams : Streams) :
    Session × Option CommandError :=
  match task.run.run { store, streams } with
  | (.ok _, s) => (s, none)
  | (.error e, s) => (s, some e)

end GroupInterfaces.Command
