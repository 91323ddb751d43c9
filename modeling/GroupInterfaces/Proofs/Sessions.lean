import GroupInterfaces.Command.Basic
import GroupInterfaces.Proofs.Files

/-!
# Sessions of commands

A task ends with the first of its steps that fails, and leaves what it has done so far. What every
step keeps is kept by the task, also where it fails.

Files are handed out one after the other. The first one that cannot be written as a whole is the
last one that is touched, and all before it hold the whole of their texts.
-/

namespace GroupInterfaces.Command

open GroupInterfaces.FileStore

variable {α β γ : Type} {s s' s'' : Session} {result : Except CommandError Unit}
  {store after : FileStore} {stream : Stream} {text : String}

/-- The room in a stream. -/
def Streams.room (streams : Streams) : Stream → Option Room
  | .output => streams.output
  | .messages => streams.messages

/-- The failure is that one of the streams takes no more. -/
def Streams.Refuse (streams : Streams) (e : CommandError) : Prop :=
  ∃ stream room, streams.room stream = some room ∧ e = .unprintable stream room.cause

namespace Task

variable {task : Task α} {next : α → Task β} {view : Session → γ}

theorem run_bind (task : Task α) (next : α → Task β) (s : Session) :
  (task >>= next).run.run s
    = match task.run.run s with
      | (.ok a, s') => (next a).run.run s'
      | (.error e, s') => (.error e, s')
  := by
  change StateT.bind task.run (ExceptT.bindCont next) s = _
  rw [StateT.bind]
  change ExceptT.bindCont next (task.run.run s).1 (task.run.run s).2 = _
  rcases task.run.run s with ⟨e | a, s'⟩
  · rfl
  · rfl

theorem run_get (s : Session) :
  (get : Task Session).run.run s = (.ok s, s)
  := rfl

theorem run_liftM (outcome : Except CommandError α) (s : Session) :
  (liftM outcome : Task α).run.run s = (outcome, s)
  := rfl

theorem run_of_runOn {task : Task Unit} {streams : Streams}
    (h : task.runOn store streams = (s, none)) :
  task.run.run { store, streams } = (.ok (), s)
  := by
  rw [runOn] at h
  rcases ran : task.run.run { store, streams } with ⟨e | ⟨⟩, s'⟩
  · rw [ran] at h
    cases h
  · rw [ran] at h
    cases h
    rfl

/-- A task with a further one behind it fails as the first one does, or goes on where that one has
ended. -/
theorem bind_inv {result : Except CommandError β} (h : (task >>= next).run.run s = (result, s'')) :
  (∃ e, task.run.run s = (.error e, s'') ∧ result = .error e)
    ∨ ∃ a s', task.run.run s = (.ok a, s') ∧ (next a).run.run s' = (result, s'')
  := by
  rw [run_bind] at h
  rcases ran : task.run.run s with ⟨e | a, s'⟩
  · rw [ran] at h
    cases h
    exact Or.inl ⟨e, rfl, rfl⟩
  · rw [ran] at h
    exact Or.inr ⟨a, s', rfl, h⟩

/-- The task leaves a part of the session as it is, also where it fails. -/
def Keeps (view : Session → γ) (task : Task α) : Prop :=
  ∀ ⦃s s' result⦄, task.run.run s = (result, s') → view s' = view s

theorem Keeps.bind (h : Keeps view task) (h' : ∀ a, Keeps view (next a)) :
  Keeps view (task >>= next)
  := by
  intro s s'' result ran
  rcases bind_inv ran with ⟨e, failed, -⟩ | ⟨a, s', first, rest⟩
  · apply h failed
  · apply (h' a rest).trans (h first)

theorem Keeps.forM {step : α → Task Unit} (h : ∀ a, Keeps view (step a)) (as : List α) :
  Keeps view (as.forM step)
  := by
  induction as with
  | nil =>
      rintro s s' result ⟨⟩
      rfl
  | cons a as ih => apply Keeps.bind (h a) fun _ => ih

/-- The task fails only if a stream takes no more. -/
def BreaksOff (task : Task α) : Prop :=
  ∀ ⦃s s' e⦄, task.run.run s = (.error e, s') → s.streams.Refuse e

theorem BreaksOff.bind (h : BreaksOff task) (kept : Keeps (fun s => (s.store, s.streams)) task)
    (h' : ∀ a, BreaksOff (next a)) :
  BreaksOff (task >>= next)
  := by
  intro s s'' e ran
  rcases bind_inv ran with ⟨e', failed, same⟩ | ⟨a, s', first, rest⟩
  · cases same
    apply h failed
  · rw [← (Prod.mk.inj (kept first)).2]
    apply h' a rest

end Task

/-! ### Printing -/

/-- A stream takes all of a text, or fails as its room says. -/
theorem shown_inv {room : Option Room} {taken : String} {failure : Option FileError}
    (h : shown room text = (taken, failure)) :
  (failure = none ∧ taken = text) ∨ ∃ r, room = some r ∧ failure = some r.cause
  := by
  simp only [shown] at h
  split at h
  · cases h
    exact Or.inl ⟨rfl, rfl⟩
  · next r =>
      split at h
      · cases h
        exact Or.inr ⟨r, rfl, rfl⟩
      · cases h
        exact Or.inl ⟨rfl, rfl⟩

theorem print_inv (h : (print stream text).run.run s = (result, s')) :
  (s.print text stream = (s', none) ∧ result = .ok ())
    ∨ ∃ cause, s.print text stream = (s', some cause) ∧ result = .error (.unprintable stream cause)
  := by
  simp only [print] at h
  rcases Task.bind_inv h with ⟨e, failed, -⟩ | ⟨a, s₁, first, rest⟩
  · cases failed
  · cases first
    rcases printed : s.print text stream with ⟨s₂, _ | cause⟩
    · rw [printed] at rest
      cases rest
      exact Or.inl ⟨rfl, rfl⟩
    · rw [printed] at rest
      cases rest
      exact Or.inr ⟨cause, rfl, rfl⟩

theorem keeps_of_print {view : Session → γ} (h : ∀ s, view (s.print text stream).1 = view s) :
  Task.Keeps view (print stream text)
  := by
  intro s s' result ran
  have kept := h s
  rcases print_inv ran with ⟨printed, -⟩ | ⟨cause, printed, -⟩
  · rw [printed] at kept
    apply kept
  · rw [printed] at kept
    apply kept

theorem keeps_print (stream : Stream) (text : String) :
  Task.Keeps (fun s => (s.store, s.streams)) (print stream text)
  := by
  apply keeps_of_print
  intro s
  cases stream with
  | output => rfl
  | messages => rfl

/-- What the user is told changes nothing else. -/
theorem keeps_tell (line : String) :
  Task.Keeps (fun s => (s.store, s.streams, s.output)) (tell line)
  := by
  apply keeps_of_print
  intro s
  rfl

theorem exists_shown (s : Session) (text : String) (stream : Stream) :
  ∃ before, shown (s.streams.room stream) (before ++ text)
    = ((shown (s.streams.room stream) (before ++ text)).1, (s.print text stream).2)
  := by
  cases stream with
  | output => exact ⟨s.output, rfl⟩
  | messages => exact ⟨s.messages, rfl⟩

theorem breaksOff_print (stream : Stream) (text : String) :
  Task.BreaksOff (print stream text)
  := by
  intro s s' e ran
  rcases print_inv ran with ⟨-, same⟩ | ⟨cause, printed, same⟩
  · cases same
  · cases same
    obtain ⟨before, taken⟩ := exists_shown s text stream
    rw [printed] at taken
    rcases shown_inv taken with ⟨none, -⟩ | ⟨room, given, failed⟩
    · cases none
    · cases failed
      exact ⟨stream, room, given, rfl⟩

/-- A text that is printed without a failure is all in its stream. -/
theorem output_of_print (h : (print .output text).run.run s = (.ok (), s')) :
  s'.output = s.output ++ text
  := by
  rcases print_inv h with ⟨printed, -⟩ | ⟨cause, -, same⟩
  · rcases taking : shown s.streams.output (s.output ++ text) with ⟨taken, failure⟩
    simp only [Session.print, taking] at printed
    cases printed
    rcases shown_inv taking with ⟨-, all⟩ | ⟨room, -, failed⟩
    · apply all
    · cases failed
  · cases same

/-- A text that is printed with a line behind it changes no file, and is all in its stream if nothing
fails. -/
theorem print_tell_inv {line : String}
    (h : (print .output text >>= fun _ => tell line).run.run s = (result, s')) :
  (s'.store, s'.streams) = (s.store, s.streams) ∧ (∀ e, result = .error e → s.streams.Refuse e)
    ∧ (result = .ok () → s'.output = s.output ++ text)
  := by
  refine ⟨?_, ?_, ?_⟩
  · have keeps := (keeps_print .output text).bind fun _ => keeps_print .messages (line ++ "\n")
    apply keeps h
  · rintro e rfl
    have breaks := (breaksOff_print .output text).bind (keeps_print .output text) fun _ =>
      breaksOff_print .messages (line ++ "\n")
    apply breaks h
  · rintro rfl
    rcases Task.bind_inv h with ⟨e, -, same⟩ | ⟨a, s₁, printed, told⟩
    · cases same
    · rw [← output_of_print printed]
      apply congrArg (fun parts => parts.2.2) (keeps_tell line told)

/-- Streams of which nothing is said take what the user is told. -/
theorem run_tell (line : String) (free : s.streams = {}) :
  (tell line).run.run s = (.ok (), { s with messages := s.messages ++ (line ++ "\n") })
  := by
  obtain ⟨store, streams, output, messages⟩ := s
  cases free
  rfl

theorem run_forM_tell (line : α → String) (as : List α) (free : s.streams = {}) :
  ∃ messages, (as.forM fun a => tell (line a)).run.run s = (.ok (), { s with messages })
  := by
  induction as generalizing s with
  | nil => exact ⟨s.messages, rfl⟩
  | cons a as ih =>
      have next : ({ s with messages := s.messages ++ (line a ++ "\n") } : Session).streams = {} :=
        free
      obtain ⟨messages, ran⟩ := ih next
      use messages
      simp only [List.forM, Task.run_bind, run_tell (line a) free, ran]

/-! ### Handing out files -/

/-- A text is written to its file, and the user is told so if it is there as a whole. -/
theorem Delivery.perform_inv {d : Delivery} (h : d.perform.run.run s = (result, s')) :
  (s'.streams, s'.output) = (s.streams, s.output)
    ∧ ((∃ cause, s.store.put d.path d.text = (s'.store, some cause)
          ∧ result = .error (d.failure cause))
      ∨ s.store.put d.path d.text = (s'.store, none)
          ∧ ∀ e, result = .error e → s.streams.Refuse e)
  := by
  simp only [perform] at h
  rcases Task.bind_inv h with ⟨e, failed, -⟩ | ⟨a, s₁, first, rest⟩
  · cases failed
  · cases first
    rcases written : s.store.put d.path d.text with ⟨after, _ | cause⟩
    · rw [written] at rest
      have told : (tell ("wrote " ++ d.path)).run.run { s with store := after } = (result, s') :=
        rest
      obtain ⟨rfl, others⟩ := Prod.mk.inj (keeps_tell _ told)
      use others, Or.inr ⟨rfl, ?_⟩
      rintro e rfl
      apply breaksOff_print _ _ told
    · rw [written] at rest
      cases rest
      exact ⟨rfl, Or.inl ⟨cause, rfl, rfl⟩⟩

theorem Delivery.run_perform {d : Delivery} (written : s.store.put d.path d.text = (after, none))
    (free : s.streams = {}) :
  ∃ messages, d.perform.run.run s = (.ok (), { s with store := after, messages })
  := by
  have free' : ({ s with store := after } : Session).streams = {} := free
  use s.messages ++ ("wrote " ++ d.path ++ "\n")
  rw [← run_tell _ free']
  simp only [perform, Task.run_bind, Task.run_get]
  rw [written]
  rfl

theorem Delivery.keeps_perform (d : Delivery) :
  Task.Keeps (fun s => (s.streams, s.output)) d.perform
  := by
  intro s s' result ran
  apply (d.perform_inv ran).1

/-- What becomes of files that are to be handed out one after the other: the last one that is
touched is the first one that cannot be written as a whole, or whose line the user cannot be told.
What is printed behind them can fail, too. -/
inductive HandedOut (streams : Streams) :
    List Delivery → FileStore → FileStore → Except CommandError Unit → Prop
  | done {store : FileStore} {result : Except CommandError Unit}
      (printed : ∀ e, result = .error e → streams.Refuse e) :
      HandedOut streams [] store store result
  | stopped {d : Delivery} {rest : List Delivery} {store after : FileStore} {cause : FileError}
      (written : store.put d.path d.text = (after, some cause)) :
      HandedOut streams (d :: rest) store after (.error (d.failure cause))
  | untold {d : Delivery} {rest : List Delivery} {store after : FileStore} {e : CommandError}
      (written : store.put d.path d.text = (after, none)) (refused : streams.Refuse e) :
      HandedOut streams (d :: rest) store after (.error e)
  | handed {d : Delivery} {rest : List Delivery} {store between after : FileStore}
      {result : Except CommandError Unit} (written : store.put d.path d.text = (between, none))
      (further : HandedOut streams rest between after result) :
      HandedOut streams (d :: rest) store after result

theorem handedOut_of_forM {ds : List Delivery}
    (h : (ds.forM Delivery.perform).run.run s = (result, s')) :
  HandedOut s.streams ds s.store s'.store result
  := by
  induction ds generalizing s with
  | nil =>
      cases h
      apply HandedOut.done
      rintro e ⟨⟩
  | cons d rest ih =>
      rcases Task.bind_inv h with ⟨e, failed, rfl⟩ | ⟨a, s₁, first, further⟩
      · rcases (d.perform_inv failed).2 with ⟨cause, written, same⟩ | ⟨written, printed⟩
        · cases same
          apply HandedOut.stopped written
        · apply HandedOut.untold written (printed e rfl)
      · obtain ⟨kept, ⟨cause, -, same⟩ | ⟨written, -⟩⟩ := d.perform_inv first
        · cases same
        · have rest := ih further
          rw [(Prod.mk.inj kept).1] at rest
          apply HandedOut.handed written rest

namespace HandedOut

variable {streams : Streams} {ds : List Delivery} {d : Delivery}

/-- What is printed behind files that have all been handed out. -/
theorem behind (h : HandedOut streams ds store after (.ok ()))
    (printed : ∀ e, result = .error e → streams.Refuse e) :
  HandedOut streams ds store after result
  := by
  generalize whole : Except.ok () = all at h
  induction h with
  | done => apply HandedOut.done printed
  | stopped => cases whole
  | untold => cases whole
  | handed written _ ih => apply HandedOut.handed written (ih whole)

/-- The last file holds the whole of its text if nothing has failed. -/
theorem text?_last (h : HandedOut streams (ds ++ [d]) store after (.ok ())) :
  after.text? d.path = some d.text
  := by
  induction ds generalizing store with
  | nil =>
      cases h with
      | handed written further =>
          cases further
          apply text?_of_put written
  | cons d' ds ih =>
      cases h with
      | handed written further => apply ih further

end HandedOut

end GroupInterfaces.Command
