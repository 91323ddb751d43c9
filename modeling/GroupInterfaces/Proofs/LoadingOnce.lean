import GroupInterfaces.Proofs.Files
import GroupInterfaces.Proofs.Reuse

/-!
# Loading an episode once

An upstream episode is asked for its index again and again, in environments that differ, while the
files around it change in any way. It is loaded behind a history exactly if it has given an index in
it. Until then each answer is what the source has at that moment, and a failure leaves the episode
as it was. From then on every answer is the index that was given first.
-/

namespace GroupInterfaces

namespace Episode.Upstream

/-- The index is kept if there is one, and is what loading gives if there is none. -/
theorem load_snd (u : Upstream) (store : FileStore) (environment : Environment) :
  (u.load store environment).2
    = { u with index := u.index.or (u.load store environment).1.toOption }
  := by
  obtain ⟨source, index⟩ := u
  cases index with
  | some index => rfl
  | none =>
      cases readBack : (⟨source, none⟩ : Upstream).bindings store with
      | error e =>
          rw [load_of_error rfl readBack]
          rfl
      | ok bindings =>
          rw [load_of_bindings rfl readBack]
          rfl

/-- An episode that is not loaded answers as its source is. -/
theorem load_fst_of_unloaded (source : Option Source) (store : FileStore)
    (environment : Environment) :
  (({ source } : Upstream).load store environment).1
    = ({ source } : Upstream).loadIndex store environment
  := by
  simp only [load]
  split
  · next index loaded => rw [loaded]
  · next e failed => rw [failed]

/-- It is loaded then exactly if it answers with an index. -/
theorem isLoaded_load_of_unloaded (source : Option Source) (store : FileStore)
    (environment : Environment) :
  (({ source } : Upstream).load store environment).2.isLoaded
    = (({ source } : Upstream).load store environment).1.toOption.isSome
  := by
  rw [load_snd, isLoaded, Option.none_or]

/-! ### Histories -/

/-- What happens around an upstream episode: the files change to others, or the episode is asked for
its index in an environment. -/
inductive Event where
  | change (store : FileStore)
  | load (environment : Environment)

/-- An upstream episode, and the files that there are. -/
structure Scene where
  upstream : Upstream
  store : FileStore

namespace Scene

/-- The scene with an episode that was not asked for yet. -/
def fresh (source : Option Source) (store : FileStore) : Scene :=
  { upstream := { source }, store }

/-- The answer to an event, if it asks for one. -/
def answer? (s : Scene) : Event → Option (Except Error Index)
  | .change _ => none
  | .load environment => some (s.upstream.load s.store environment).1

/-- The scene behind an event. -/
def next (s : Scene) : Event → Scene
  | .change store => { s with store }
  | .load environment => { s with upstream := (s.upstream.load s.store environment).2 }

/-- The scene behind a history. -/
def behind (s : Scene) (history : List Event) : Scene := history.foldl next s

/-- The answers that are given in a history, in order. -/
def answers (s : Scene) : List Event → List (Except Error Index)
  | [] => []
  | event :: history => (s.answer? event).toList ++ (s.next event).answers history

variable (s : Scene)

theorem behind_concat (history : List Event) (event : Event) :
  s.behind (history ++ [event]) = (s.behind history).next event
  := List.foldl_concat ..

theorem answers_concat (history : List Event) (event : Event) :
  s.answers (history ++ [event]) = s.answers history ++ ((s.behind history).answer? event).toList
  := by
  induction history generalizing s with
  | nil => simp only [List.nil_append, answers, List.append_nil, behind, List.foldl_nil]
  | cons first history ih =>
      rw [List.cons_append, answers, ih, answers, List.append_assoc]
      rfl

/-- An event leaves the index that was there, or else the one that it answers with. -/
theorem upstream_next (event : Event) :
  (s.next event).upstream
    = { s.upstream with
        index := s.upstream.index.or ((s.answer? event).toList.findSome? Except.toOption) }
  := by
  cases event with
  | change store => simp [next, answer?]
  | load environment =>
      rw [next, load_snd]
      simp [answer?]

/-- A history leaves the index that was there, or else the first one that it answers with. -/
theorem upstream_behind (history : List Event) :
  (s.behind history).upstream
    = { s.upstream with
        index := s.upstream.index.or ((s.answers history).findSome? Except.toOption) }
  := by
  induction history using List.reverseRecOn with
  | nil => simp [behind, answers]
  | append_singleton history event ih =>
      rw [behind_concat, upstream_next, ih, answers_concat, List.findSome?_append, Option.or_assoc]

/-- The first index that is given in a history is the only one. -/
theorem findSome?_answers {history : List Event} {index : Index}
    (given : .ok index ∈ s.answers history) :
  s.upstream.index.or ((s.answers history).findSome? Except.toOption) = some index
  := by
  induction history using List.reverseRecOn with
  | nil => cases given
  | append_singleton history event ih =>
      rw [answers_concat] at given ⊢
      rw [List.findSome?_append, ← Option.or_assoc]
      rcases List.mem_append.mp given with before | last
      · rw [ih before, Option.some_or]
      · cases event with
        | change store => cases last
        | load environment =>
            have upstream := s.upstream_behind history
            generalize s.upstream.index.or ((s.answers history).findSome? Except.toOption) = kept
              at upstream ⊢
            simp only [answer?, Option.toList_some, List.mem_singleton] at last
            cases kept with
            | none => simp [answer?, ← last, Except.toOption]
            | some index' =>
                rw [upstream] at last
                cases last
                rfl

theorem exists_findSome?_answers_iff (history : List Event) :
  ((s.answers history).findSome? Except.toOption).isSome ↔ ∃ index, .ok index ∈ s.answers history
  := by
  rw [List.findSome?_isSome_iff]
  constructor
  · rintro ⟨answer, mem, given⟩
    cases answer with
    | error e => cases given
    | ok index => use index, mem
  · rintro ⟨index, mem⟩
    use .ok index, mem
    rfl

/-- Behind any history, an upstream episode is loaded exactly if it has given an index. If it has
not, it answers as its source is then: the text is read, the bindings are taken from the text, and
they are indexed as the environment of this call has the interfaces. Without a source the index is
empty. A failure leaves the episode as it is, to be tried again. If it has given an index, it
answers with that one, whatever the environment and the files are. -/
theorem load_once (source : Option Source) (store : FileStore) (history : List Event) :
  let given := (fresh source store).answers history
  let now := (fresh source store).behind history
  (now.upstream.isLoaded ↔ ∃ index, .ok index ∈ given)
    ∧ ((∀ index, .ok index ∉ given) → ∀ environment,
      let answer := (now.upstream.load now.store environment).1
      (source = none → answer = .ok {})
        ∧ (∀ origin, source = some origin → answer = do
            let text ← origin.read now.store
            let bindings ← readBindings text
            pure (Index.ofBindings bindings environment))
        ∧ (∀ e, answer = .error e → (now.next (.load environment)).upstream.isLoaded = false)
        ∧ ∀ index, answer = .ok index → (now.next (.load environment)).upstream.isLoaded = true)
    ∧ ∀ index, .ok index ∈ given → ∀ environment,
      now.upstream.load now.store environment = (.ok index, now.upstream)
  := by
  intro given now
  have upstream : now.upstream = { source, index := given.findSome? Except.toOption } := by
    apply (upstream_behind _ history).trans
    rfl
  refine ⟨?_, ?_, ?_⟩
  · rw [upstream]
    apply exists_findSome?_answers_iff
  · intro none_given environment answer
    have unloaded : now.upstream = { source } := by
      rw [upstream]
      congr
      rw [← Option.not_isSome_iff_eq_none, exists_findSome?_answers_iff]
      rintro ⟨index, mem⟩
      apply none_given index mem
    have reading : answer = ({ source } : Upstream).loadIndex now.store environment := by
      simp only [answer, unloaded, load_fst_of_unloaded]
    have loaded_next : (now.next (.load environment)).upstream.isLoaded = answer.toOption.isSome := by
      simp only [next, answer, unloaded, isLoaded_load_of_unloaded]
    refine ⟨?_, ?_, ?_, ?_⟩
    · rintro rfl
      rw [reading]
      rfl
    · rintro origin rfl
      rw [reading]
      rfl
    · intro e failed
      rw [loaded_next, failed]
      rfl
    · intro index loaded
      rw [loaded_next, loaded]
      rfl
  · intro index mem environment
    have kept : given.findSome? Except.toOption = some index := findSome?_answers _ mem
    rw [upstream, kept]
    rfl

end Scene

end Episode.Upstream

/-! ### A sample

An episode in a file that is written late. -/

namespace Sample

/-- The file with a text. -/
def lateFile (text : String) : FileStore where
  files := ({} : SortedMap String ByteArray).insert "late.episode" text.toUTF8

theorem read_lateFile (text : String) :
  (Episode.Source.file "late.episode").read (lateFile text) = .ok text
  := by
  have read : (lateFile text).read "late.episode" = .ok text :=
    FileStore.read_of_fileAt? rfl rfl rfl
  rw [Episode.Source.read, read]
  rfl

/-- The file, once it is written. -/
def lateFiles : FileStore := lateFile partyRecord.write

/-- The episode before that. -/
def late : Episode.Upstream.Scene := .fresh (some (.file "late.episode")) {}

/-- It is asked for its index too early, and then the file is written. -/
def lateHistory : List Episode.Upstream.Event := [.load {}, .change lateFiles]

end Sample

/-- The first answer is a failure, the next one is the index with the interface compiled, and so is
the one behind it, where the file is gone and nothing is compiled. -/
theorem Episode.Upstream.Scene.load_once_late :
  ∃ index, (Sample.late.behind Sample.lateHistory).upstream.isLoaded = false
    ∧ ((Sample.late.behind Sample.lateHistory).upstream.load Sample.lateFiles
      (.ofList ["sample.Party"])).1 = .ok index
    ∧ (index.get? Sample.party.name).map (·.availability) = some .compiled
    ∧ let later := Sample.late.behind
        (Sample.lateHistory ++ [.load (.ofList ["sample.Party"]), .change {}])
      (later.upstream.load later.store {}).1 = .ok index
  := by
  have failed : Sample.late.answers Sample.lateHistory = [.error (.file "late.episode" .notFound)] :=
    rfl
  have none_given : ∀ index, .ok index ∉ Sample.late.answers Sample.lateHistory := by
    simp [failed]
  obtain ⟨loaded, first, -⟩ :=
    load_once (some (.file "late.episode")) {} Sample.lateHistory
  have named : Sample.partyRecord.WellNamed := Record.wellNamed_of_all (by decide)
  have answer : ((Sample.late.behind Sample.lateHistory).upstream.load Sample.lateFiles
      (.ofList ["sample.Party"])).1
        = (Source.file "late.episode").loadIndex Sample.lateFiles (.ofList ["sample.Party"]) :=
    (first none_given (.ofList ["sample.Party"])).2.1 _ rfl
  have read : (Source.file "late.episode").read Sample.lateFiles = .ok Sample.partyRecord.write :=
    Sample.read_lateFile _
  rw [named.loadIndex read] at answer
  have given : .ok (Index.ofBindings (Sample.partyRecord.sorted.map Entry.binding)
      (.ofList ["sample.Party"])) ∈ Sample.late.answers
        (Sample.lateHistory ++ [.load (.ofList ["sample.Party"]), .change {}]) := by
    rw [← List.singleton_append, ← List.append_assoc, answers_concat, answers_concat]
    apply List.mem_append_left
    apply List.mem_append_right
    apply List.mem_singleton.mpr answer.symm
  use Index.ofBindings (Sample.partyRecord.sorted.map Entry.binding) (.ofList ["sample.Party"])
  refine ⟨?_, answer, by decide +kernel, ?_⟩
  · rw [← Bool.not_eq_true]
    intro h
    obtain ⟨index, mem⟩ := loaded.mp h
    apply none_given index mem
  · intro later
    obtain ⟨-, -, again⟩ := load_once (some (.file "late.episode")) {}
      (Sample.lateHistory ++ [.load (.ofList ["sample.Party"]), .change {}])
    exact congrArg Prod.fst (again _ given {})

end GroupInterfaces
