import GroupInterfaces.Generation.Json
import GroupInterfaces.Proofs.OutlineForms

/-!
# The forms of documents

Configurations lose nothing in their JSON forms, and neither do the documents that a run starts
from. What a run hands out has a plain form, and the outline in it is recovered as that of a
further document, in which everything else is passed over or absent.
-/

namespace GroupInterfaces

/-! ### Configurations -/

theorem BoundProperties.encode_eq (b : BoundProperties) :
  encode b = .object (present
    [("constrained", some (encode b.constrained)),
      ("setter_throws", some (encode b.setterThrows))])
  := rfl

instance : NonNullForm BoundProperties := ⟨fun _ => nofun⟩

instance : LawfulForm BoundProperties where
  recovers b := by
    apply recovers_record b.encode_eq (fun _ _ => rfl) (by simp)
    intro fields give
    rw [give.getD (recovers b.constrained) rfl, give.getD (recovers b.setterThrows) rfl]
    rfl

theorem DeepClone.encode_eq (d : DeepClone) :
  encode d = .object (present [("clone_throws", some (encode d.cloneThrows))])
  := rfl

instance : NonNullForm DeepClone := ⟨fun _ => nofun⟩

instance : LawfulForm DeepClone where
  recovers d := by
    apply recovers_record d.encode_eq (fun _ _ => rfl) (by simp)
    intro fields give
    rw [give.getD (recovers d.cloneThrows) rfl]
    rfl

theorem Plugins.encode_eq (p : Plugins) :
  encode p = .object (present
    [("immutable", some (encode p.immutable)),
      ("bound_properties", some (encode p.boundProperties)),
      ("deep_clone", some (encode p.deepClone)), ("deep_copy", some (encode p.deepCopy)),
      ("fluent_builder", some (encode p.fluentBuilder))])
  := rfl

instance : LawfulForm Plugins where
  recovers p := by
    apply recovers_record p.encode_eq (fun _ _ => rfl) (by simp)
    intro fields give
    rw [give.getD (recovers p.immutable) rfl, give.getD (recovers p.boundProperties) rfl,
      give.getD (recovers p.deepClone) rfl, give.getD (recovers p.deepCopy) rfl,
      give.getD (recovers p.fluentBuilder) rfl]
    rfl

theorem Config.encode_eq (c : Config) :
  encode c = .object (present
    [("declare_setters", some (encode c.declareSetters)),
      ("declare_builder_interface", some (encode c.declareBuilderInterface)),
      ("new_builder_method_name", some (encode c.newBuilderMethodName)),
      ("new_copy_builder_method_name", some (encode c.newCopyBuilderMethodName)),
      ("builder_interface_name", some (encode c.builderInterfaceName)),
      ("upstream_episode", some (encode c.upstreamEpisode)),
      ("plugins", some (encode c.plugins))])
  := rfl

instance : LawfulForm Config where
  recovers c := by
    apply recovers_record c.encode_eq (fun _ _ => rfl) (by simp)
    intro fields give
    rw [give.getD (recovers c.declareSetters) rfl, give.getD (recovers c.declareBuilderInterface) rfl,
      give.getD (recovers c.newBuilderMethodName) rfl,
      give.getD (recovers c.newCopyBuilderMethodName) rfl,
      give.getD (recovers c.builderInterfaceName) rfl,
      give.getD (recovers c.upstreamEpisode) rfl, give.getD (recovers c.plugins) rfl]
    rfl

/-! ### Documents that a run starts from -/

theorem Input.encode_eq (i : Input) :
  encode i = .object (present
    [("schema", some (encode i.schema)), ("outline", some (encode i.outline)),
      ("environment", some (encode i.environment))])
  := rfl

instance : PlainForm Input where
  isPlain_encode i := isPlain_record i.encode_eq (by simp)

theorem recovers_input {i : Input} (h : i.outline.InOrder) :
  Recovers i
  := by
  apply recovers_record i.encode_eq (fun _ _ => rfl) (by simp)
  intro fields give
  rw [give.getD (recovers i.schema) rfl, give.getD (recovers_outline h) rfl,
    give.getD (recovers i.environment) rfl]
  rfl

/-! ### Documents that a run hands out -/

instance : PlainForm GroupKind where
  isPlain_encode
    | .modelGroup | .attributeGroup => rfl

instance : PlainForm GroupDecl where
  isPlain_encode
    | .model d => isPlain_tagRecord _ _ (isPlain_encode d)
    | .attribute d => isPlain_tagRecord _ _ (isPlain_encode d)

instance : PlainForm Availability where
  isPlain_encode
    | .compiled | .missing => rfl

instance : PlainForm PublishedInterface where
  isPlain_encode _ := Json.arePlainMembers_iff.mpr (by simp)

instance : PlainForm BuilderOptions where
  isPlain_encode _ := Json.arePlainMembers_iff.mpr (by simp)

instance : PlainForm Settings where
  isPlain_encode _ := Json.arePlainMembers_iff.mpr (by simp)

instance : PlainForm Severity where
  isPlain_encode
    | .warning | .error => rfl

theorem Diagnostic.encode_eq (d : Diagnostic) :
  encode d = .object (present
    [("severity", some (encode d.severity)), ("message", some (encode d.message)),
      ("locator", d.locator.map encode)])
  := by
  apply congrArg Json.object
  simp

instance : PlainForm Diagnostic where
  isPlain_encode d := isPlain_record d.encode_eq (by simp)

instance : PlainForm Supertype where
  isPlain_encode
    | .synthesized t =>
      isPlain_tagRecord _ _ (Json.arePlainMembers_iff.mpr (by simp))
    | .published i => isPlain_tagRecord _ _ (isPlain_encode i)

instance : PlainForm SynthesizedInterface where
  isPlain_encode _ := Json.arePlainMembers_iff.mpr (by simp)

instance : PlainForm Associations where
  isPlain_encode a := isPlain_encode a.byClass

instance : PlainForm BuilderOutline where
  isPlain_encode _ := Json.arePlainMembers_iff.mpr (by simp)

instance : PlainForm Report where
  isPlain_encode _ := Json.arePlainMembers_iff.mpr (by simp)

theorem isPlain_outputDocument (o : Outline) (r : Report) :
  (outputDocument o r).isPlain
  := Json.arePlainMembers_iff.mpr (by simp)

/-- The outline that a run hands out is the outline of a further document. The report is passed
over, however deep it is. -/
theorem decode_outputDocument {o : Outline} (h : o.InOrder) (r : Report) {s : Scope}
    (deep : (encode o).depth < s.levels) :
  decode s (outputDocument o r) = .ok ({ outline := o } : Input)
  := by
  obtain ⟨inner, entered, deep⟩ := Scope.inner_eq deep
  have read : decode inner (encode o) = .ok o := recovers_outline h deep
  change (Fields.ofRecord _ s (.object [("outline", encode o), ("report", encode r)]) >>= _) = _
  simp only [Fields.ofRecord, entered]
  change (decode inner (encode o) >>= fun outline => _) = _
  rw [read]
  rfl

end GroupInterfaces
