import GroupInterfaces.Proofs.NestedOrder
import GroupInterfaces.Proofs.Printing
import GroupInterfaces.Proofs.Sessions

/-!
# Reading again what a command has written

A file that is written is read back as it was written. What the command `generate` writes or prints
is the document of a run, so the outline in it is the outline of a further run, provided that the
document is not nested more deeply than a text may be read through.
-/

namespace GroupInterfaces

/-! ### Documents as texts -/

namespace Command

theorem decodeText_of_read? (α : Type) [Decodable α] {text : String} {v : Json}
    (read : Json.read? text = some v) :
  decodeText α text = decode { levels := textLevels } v
  := by
  rw [decodeText, read]

theorem inOrder_of_decodeText {text : String} {input : Input}
    (h : decodeText Input text = .ok input) :
  input.outline.InOrder
  := by
  rw [decodeText] at h
  split at h
  · apply Input.inOrder_of_decode h
  · cases h

namespace GenerateOptions

variable {options : GenerateOptions} {store : FileStore} {streams : Streams}
  {generator : Generator} {input : Input} {s s' session : Session} {outcome : Outcome} {r : Report}
  {result : Except CommandError Unit} {path : String}

/-- A run starts from what is read in the document. -/
theorem prepare_inv (h : options.prepare store = .ok (generator, input)) :
  ∃ text, store.read options.input = .ok text ∧ decodeText Input text = .ok input
  := by
  obtain ⟨config, -, h⟩ := bind_inv h
  obtain ⟨text, read, h⟩ := bind_inv h
  obtain ⟨input', decoded, h⟩ := bind_inv h
  obtain ⟨generator', -, h⟩ := bind_inv h
  cases h
  use text, mapError_inv read, mapError_inv decoded

/-- A command fails with nothing but messages, or else it publishes a run that succeeds, and has
given nothing but messages before. -/
theorem perform_inv (h : options.perform.run.run s = (result, s')) :
  ((s'.store, s'.streams, s'.output) = (s.store, s.streams, s.output) ∧ ∃ e, result = .error e)
    ∨ ∃ generator input r s₁, options.prepare s.store = .ok (generator, input)
      ∧ (generator.run s.store input).result = .ok r
      ∧ (s₁.store, s₁.streams, s₁.output) = (s.store, s.streams, s.output)
      ∧ (options.publish (generator.run s.store input) r).run.run s₁ = (result, s')
  := by
  simp only [perform] at h
  rcases Task.bind_inv h with ⟨e, failed, -⟩ | ⟨a, s₀, first, h⟩
  · cases failed
  cases first
  rcases Task.bind_inv h with ⟨e, failed, rfl⟩ | ⟨⟨generator, input⟩, s₀, first, h⟩
  · rw [Task.run_liftM] at failed
    obtain ⟨-, rfl⟩ := Prod.mk.inj failed
    exact Or.inl ⟨rfl, e, rfl⟩
  rw [Task.run_liftM] at first
  obtain ⟨prepared, rfl⟩ := Prod.mk.inj first
  have warn := Task.Keeps.forM fun d : Diagnostic => keeps_tell ("warning: " ++ d.display)
  have complain := Task.Keeps.forM fun d : Diagnostic => keeps_tell ("error: " ++ d.display)
  rcases Task.bind_inv h with ⟨e, failed, rfl⟩ | ⟨a, s₁, warned, h⟩
  · exact Or.inl ⟨warn _ failed, e, rfl⟩
  · rcases succeeded : (generator.run s.store input).result with f | r
    · simp only [succeeded] at h
      apply Or.inl
      rcases Task.bind_inv h with ⟨e, failed, rfl⟩ | ⟨a, s₂, told, h⟩
      · exact ⟨(complain _ failed).trans (warn _ warned), e, rfl⟩
      · cases h
        exact ⟨(complain _ told).trans (warn _ warned), _, rfl⟩
    · simp only [succeeded] at h
      exact Or.inr ⟨generator, input, r, s₁, prepared, succeeded, warn _ warned, h⟩

/-- The text that is printed of a document for which there is no file. -/
def printed (options : GenerateOptions) (document : String) : String :=
  if options.out.isNone then document ++ "\n" else ""

/-- What a run has made is handed out, and printed if there is no file for it. -/
theorem publish_inv (h : (options.publish outcome r).run.run s = (result, s')) :
  HandedOut s.streams (options.deliveries outcome r) s.store s'.store result
    ∧ s'.streams = s.streams
    ∧ (result = .ok () →
      s'.output = s.output ++ options.printed (outputDocument outcome.outline r).pretty)
  := by
  simp only [publish] at h
  have deliver := Task.Keeps.forM Delivery.keeps_perform
  rcases Task.bind_inv h with ⟨e, failed, rfl⟩ | ⟨a, s₁, handed, h⟩
  · use handedOut_of_forM failed, congrArg Prod.fst (deliver _ failed)
    rintro ⟨⟩
  · have all := handedOut_of_forM handed
    obtain ⟨streams, output⟩ := Prod.mk.inj (deliver _ handed)
    rw [← streams] at all
    rw [← streams, ← output, printed]
    split at h
    · next asked =>
        obtain ⟨kept, breaks, output⟩ := print_tell_inv h
        obtain ⟨store, streams'⟩ := Prod.mk.inj kept
        rw [store, if_pos asked]
        exact ⟨all.behind breaks, streams', output⟩
    · next asked =>
        have kept := keeps_tell _ h
        simp only [Prod.mk.injEq] at kept
        rw [if_neg asked, String.append_empty, kept.1]
        refine ⟨all.behind ?_, kept.2.1, fun _ => kept.2.2⟩
        rintro e rfl
        apply breaksOff_print _ _ h

/-- The document that the command leaves: in the file that it writes, or else in what it prints. -/
def written? (options : GenerateOptions) (session : Session) : Option String :=
  match options.out with
  | some path => session.store.text? path
  | none => some session.output

/-- A command that succeeds leaves the document of a run. -/
theorem run_inv (h : options.run store streams = (session, none)) :
  ∃ generator input r text, options.prepare store = .ok (generator, input)
    ∧ (generator.run store input).result = .ok r ∧ options.written? session = some text
    ∧ Json.read? text = some (outputDocument (generator.run store input).outline r)
  := by
  rcases perform_inv (Task.run_of_runOn h) with
    ⟨-, e, same⟩ | ⟨generator, input, r, s₁, prepared, succeeded, kept, published⟩
  · cases same
  · have plain : (outputDocument (generator.run store input).outline r).isPlain :=
      isPlain_outputDocument _ r
    obtain ⟨handed, -, output⟩ := publish_inv published
    use generator, input, r
    rw [written?]
    rcases asked : options.out with _ | path
    · have silent : s₁.output = "" := congrArg (fun parts => parts.2.2) kept
      have all := output rfl
      rw [silent, String.empty_append, printed, asked, Option.isNone_none, if_pos rfl] at all
      use session.output, prepared, succeeded, rfl
      rw [all]
      apply Json.read?_pretty_append plain
      simp [Json.isSpace]
    · rw [deliveries, asked] at handed
      use (outputDocument (generator.run store input).outline r).pretty, prepared, succeeded,
        handed.text?_last
      apply Json.read?_pretty plain

/-- A run that succeeds is published if its document can be written. -/
theorem exists_run (prepared : options.prepare store = .ok (generator, input))
    (succeeded : (generator.run store input).result = .ok r) (silent : options.emitEpisode = none)
    (out : options.out = some path) {after : FileStore}
    (written : store.put path (outputDocument (generator.run store input).outline r).pretty
      = (after, none)) :
  ∃ session, options.run store = (session, none) ∧ session.store = after
  := by
  obtain ⟨messages, warned⟩ := run_forM_tell (s := { store }) (fun d => "warning: " ++ d.display)
    (generator.run store input).diagnostics.warnings rfl
  obtain ⟨messages', handed⟩ := Delivery.run_perform (s := { store, messages })
    (d := ⟨path, (outputDocument (generator.run store input).outline r).pretty, .write path⟩)
    written rfl
  simp only [run, Task.runOn, perform, Task.run_bind, Task.run_get, Task.run_liftM, prepared,
    warned, succeeded, publish, deliveries, silent, out, List.nil_append, List.forM, handed]
  exact ⟨_, rfl, rfl⟩

end GenerateOptions

/-! ### A sample

A command that reads one file and writes another one, with two documents for it: that of the
sample of runs, and one with a class whose type has many model groups within each other. -/

namespace Sample

/-- What the command is asked for. -/
def options : GenerateOptions where
  input := "order.json"
  out := some "later.json"

/-- The command for what the first one writes. -/
def laterOptions : GenerateOptions where
  input := "later.json"

/-- The file with a document. -/
def files (text : String) : FileStore where
  files := ({} : SortedMap String ByteArray).insert "order.json" text.toUTF8

theorem mayRead_files (text path : String) :
  (files text).MayRead path
  := by
  intro place _
  rfl

theorem read_files (text : String) :
  (files text).read "order.json" = .ok text
  := FileStore.read_of_fileAt? rfl rfl rfl

/-- A model group within as many others, written without what it need not have. -/
def nestedForm : Nat → Json
  | 0 => .object [("tag", .string "model_group")]
  | n + 1 => .object [("tag", .string "model_group"),
      ("particles", .array [.object [("term", nestedForm n)]])]

/-- The model group. -/
def nestedGroup : Nat → Particle
  | 0 => .group {} .sequence []
  | n + 1 => .group {} .sequence [nestedGroup n]

/-- The document with the class, as deep as a text may be read through. -/
def deepDocument : Json :=
  .object [("outline", .object [("classes", .object [("a.B", .object
    [("package", .string "a"), ("name", .string "B"), ("schema_component", .object
      [("tag", .string "complex_type"), ("content", .object
        [("tag", .string "particle"), ("term", nestedForm 40)])])])])])]

/-- What the document says. -/
def deepInput : Input where
  outline :=
    { classes := .ofList
        [("a.B",
          { package := "a", name := "B"
            component := .complexType { content := .particle (nestedGroup 40) } })] }

set_option maxRecDepth 20000 in
theorem decode_deepDocument :
  decode { levels := textLevels } deepDocument = .ok deepInput
  := rfl

set_option maxRecDepth 20000 in
theorem decode_deepOutput (r : Report) :
  (decode { levels := textLevels } (outputDocument deepInput.outline r) : Except _ Input)
    = .error .nestedTooDeeply
  := rfl

theorem prepare_files {text : String} {input : Input} (h : decodeText Input text = .ok input) :
  options.prepare (files text) = .ok (GroupInterfaces.Sample.generator, input)
  := by
  have read : (files text).read options.input = .ok text := read_files text
  simp only [GenerateOptions.prepare, loadConfig, read]
  change ((decodeText Input text).mapError _ >>= _) = _
  rw [h]
  rfl

theorem exists_run_files {text : String} {input : Input} {r : Report}
    (h : decodeText Input text = .ok input)
    (succeeded : (GroupInterfaces.Sample.generator.run (files text) input).result = .ok r) :
  ∃ session, options.run (files text) = (session, none)
    ∧ session.store.read "later.json" = .ok (outputDocument
      (GroupInterfaces.Sample.generator.run (files text) input).outline r).pretty
  := by
  obtain ⟨after, written⟩ : ∃ after, (files text).put "later.json" (outputDocument
      (GroupInterfaces.Sample.generator.run (files text) input).outline r).pretty
        = (after, none) := ⟨_, rfl⟩
  obtain ⟨session, success, rfl⟩ :=
    GenerateOptions.exists_run (prepare_files h) succeeded rfl rfl written
  use session, success
  apply FileStore.read_of_text? (FileStore.text?_of_put written)
  apply (FileStore.mayRead_of_put written _).mpr
  apply mayRead_files

end Sample

/-- The JSON forms of schemas, outlines, environments and configurations lose nothing. The outline
that a command writes or prints is read back as the outline of a further document, be it the
document itself or any other one with that outline, if a text may be read through as many levels. -/
theorem recovers_written_outline :
  (∀ s : SchemaSet, (encode s).decodeAs SchemaSet = .ok s)
    ∧ (∀ o : Outline, o.InOrder → (encode o).decodeAs Outline = .ok o)
    ∧ (∀ e : Environment, (encode e).decodeAs Environment = .ok e)
    ∧ (∀ c : Config, (encode c).decodeAs Config = .ok c)
    ∧ ∀ {options : GenerateOptions} {store : FileStore} {streams : Streams} {session : Session},
      options.run store streams = (session, none) →
      ∃ generator input text, options.prepare store = .ok (generator, input)
        ∧ (generator.run store input).outline.InOrder ∧ options.written? session = some text
        ∧ (∀ path, options.out = some path → session.store.MayRead path →
          session.store.read path = .ok text)
        ∧ ((encode (generator.run store input).outline).depth < textLevels →
          decodeText Input text = .ok { outline := (generator.run store input).outline })
        ∧ ∀ document : Input, document.outline = (generator.run store input).outline →
          (encode document).depth ≤ textLevels →
          decodeText Input (encode document).pretty = .ok document
  := by
  refine ⟨fun s => recovers s le_rfl, fun o inOrder => recovers_outline inOrder le_rfl,
    fun e => recovers e le_rfl, fun c => recovers c le_rfl, ?_⟩
  intro options store streams session success
  obtain ⟨generator, input, r, text, prepared, succeeded, written, read⟩ := options.run_inv success
  obtain ⟨given, -, decoded⟩ := options.prepare_inv prepared
  have inOrder : (generator.run store input).outline.InOrder :=
    Generator.inOrder_of_result_run succeeded (inOrder_of_decodeText decoded)
  refine ⟨generator, input, text, prepared, inOrder, written, ?_, ?_, ?_⟩
  · intro path asked may
    rw [GenerateOptions.written?, asked] at written
    apply FileStore.read_of_text? written may
  · intro shallow
    rw [decodeText_of_read? Input read]
    apply decode_outputDocument inOrder r shallow
  · intro document same shallow
    rw [decodeText_of_read? Input (Json.read?_pretty (isPlain_encode document))]
    apply recovers_input (same ▸ inOrder) shallow

/-- What the command writes for the sample of runs is read back. -/
theorem recovers_written_sample :
  ∃ session text, Sample.options.run (Sample.files (encode GroupInterfaces.Sample.input).pretty)
      = (session, none)
    ∧ Sample.options.written? session = some text
    ∧ decodeText Input text
      = .ok { outline := (GroupInterfaces.Sample.generator.run {}
        GroupInterfaces.Sample.input).outline }
  := by
  let store := Sample.files (encode GroupInterfaces.Sample.input).pretty
  have read : decodeText Input (encode GroupInterfaces.Sample.input).pretty
      = .ok GroupInterfaces.Sample.input := by
    rw [decodeText_of_read? Input (Json.read?_pretty (isPlain_encode _))]
    rfl
  obtain ⟨r, succeeded⟩ :
      ∃ r, (GroupInterfaces.Sample.generator.run store GroupInterfaces.Sample.input).result
        = .ok r := ⟨_, rfl⟩
  obtain ⟨session, success, -⟩ := Sample.exists_run_files read succeeded
  obtain ⟨generator, input, text, prepared, -, written, -, again, -⟩ :=
    recovers_written_outline.2.2.2.2 success
  cases (Sample.prepare_files read).symm.trans prepared
  use session, text, success, written
  apply again
  decide +kernel

/-- The type of the class is read, and written one level deeper than it was. The document is then
too deep to be read. -/
theorem rejects_written_outline :
  ∃ session, Sample.options.run (Sample.files Sample.deepDocument.pretty) = (session, none)
    ∧ Sample.laterOptions.run session.store
      = ({ store := session.store }, some (.document "later.json" .nestedTooDeeply))
  := by
  have plain : Sample.deepDocument.isPlain := by decide +kernel
  have decoded : decodeText Input Sample.deepDocument.pretty = .ok Sample.deepInput := by
    rw [decodeText_of_read? Input (Json.read?_pretty plain)]
    apply Sample.decode_deepDocument
  obtain ⟨r, succeeded⟩ : ∃ r, (GroupInterfaces.Sample.generator.run
      (Sample.files Sample.deepDocument.pretty) Sample.deepInput).result = .ok r := ⟨_, rfl⟩
  obtain ⟨session, success, written⟩ := Sample.exists_run_files decoded succeeded
  use session, success
  have rejected : decodeText Input (outputDocument Sample.deepInput.outline r).pretty
      = .error .nestedTooDeeply := by
    rw [decodeText_of_read? Input (Json.read?_pretty (isPlain_outputDocument _ r))]
    apply Sample.decode_deepOutput
  have same : (GroupInterfaces.Sample.generator.run (Sample.files Sample.deepDocument.pretty)
      Sample.deepInput).outline = Sample.deepInput.outline := rfl
  rw [same] at written
  have failed : Sample.laterOptions.prepare session.store
      = .error (.document "later.json" .nestedTooDeeply) := by
    simp only [GenerateOptions.prepare, loadConfig, Sample.laterOptions, written]
    change ((decodeText Input _).mapError _ >>= _) = _
    rw [rejected]
    rfl
  simp only [GenerateOptions.run, Task.runOn, GenerateOptions.perform, Task.run_bind, Task.run_get,
    Task.run_liftM, failed]

end Command

end GroupInterfaces
