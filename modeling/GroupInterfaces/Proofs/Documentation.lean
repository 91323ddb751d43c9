import GroupInterfaces.Proofs.Comments

/-!
# Documentation within comments

The documentation of an interface names the group and its document and shows the fragment of the
schema. Only the fragment is escaped. So the documentation fits into a comment exactly if the
namespace and the local name of the group and the name of the document do not end comments and
have no brackets of tags.
-/

namespace GroupInterfaces

/-! ### Texts without markup -/

/-- The brackets of tags in a text. -/
def brackets (cs : List Char) : List Char := cs.filter fun c => c = '<' || c = '>'

theorem brackets_append (cs ds : List Char) :
  brackets (cs ++ ds) = brackets cs ++ brackets ds
  := List.filter_append cs ds

theorem brackets_eq_nil {cs : List Char} (h : ∀ c ∈ cs, c ∉ ['<', '>']) :
  brackets cs = []
  := by
  apply List.filter_eq_nil_iff.mpr
  intro c mem
  have plain := h c mem
  simp_all

/-- A text without markup: it has no brackets of tags, and no comment ends within it. -/
@[mk_iff]
structure Unmarked (text : String) : Prop where
  noBracket : brackets text.toList = []
  noTerminator : NoTerminator text.toList

/-- The text can be put into a comment: the comment does not end within it, and it has no
brackets but those of the tags around its last part. -/
structure FitsComment (text : String) : Prop where
  noTerminator : NoTerminator text.toList
  onlyPre : ∃ front shown, text = front ++ "<pre>" ++ shown ++ "</pre>"
    ∧ brackets front.toList = [] ∧ brackets shown.toList = []

theorem FitsComment.brackets_eq {text : String} (h : FitsComment text) :
  brackets text.toList = ['<', '>', '<', '>']
  := by
  obtain ⟨front, shown, rfl, inFront, inShown⟩ := h.onlyPre
  simp only [String.toList_append, brackets_append, inFront, inShown]
  rfl

/-- A text of words and numbers, where no character has a meaning in comments. -/
def IsWordy (cs : List Char) : Prop := ∀ c ∈ cs, c ∉ ['<', '>', '*', '/']

namespace IsWordy

variable {cs ds : List Char}

theorem of_all (h : cs.all (· ∉ ['<', '>', '*', '/']) = true) :
  IsWordy cs
  := by
  intro c mem
  apply of_decide_eq_true (List.all_eq_true.mp h c mem)

theorem append (h : IsWordy cs) (h' : IsWordy ds) :
  IsWordy (cs ++ ds)
  := List.forall_mem_append.mpr ⟨h, h'⟩

theorem toString (n : Nat) :
  IsWordy (toString n).toList
  := by
  intro c mem other
  have digit : c.isDigit = true := by
    change c ∈ (Nat.repr n).toList at mem
    rw [Nat.repr_eq_ofList_toDigits, String.toList_ofList] at mem
    apply Nat.isDigit_of_mem_toDigits (by decide) (by decide) mem
  simp only [List.mem_cons, List.mem_nil_iff, or_false] at other
  rcases other with rfl | rfl | rfl | rfl
  · cases digit
  · cases digit
  · cases digit
  · cases digit

theorem noBracket (h : IsWordy cs) :
  brackets cs = []
  := by
  apply brackets_eq_nil
  intro c mem
  have plain := h c mem
  simp_all

theorem isChain_append (h : IsWordy cs) (h' : ds.IsChain GoesOn) :
  (cs ++ ds).IsChain GoesOn
  := by
  apply isChain_append_of_notMem _ h'
  intro star
  apply h '*' star
  decide

/-- Words keep two texts apart. -/
theorem isChain_between {es : List Char} (h : IsWordy ds) (words : ds ≠ [])
    (front : cs.IsChain GoesOn) (behind : es.IsChain GoesOn) :
  (cs ++ (ds ++ es)).IsChain GoesOn
  := by
  have chain := h.isChain_append behind
  obtain ⟨d, ds, rfl⟩ := List.exists_cons_of_ne_nil words
  apply isChain_append_cons front chain
  rintro rfl
  apply h '/' List.mem_cons_self
  decide

end IsWordy

namespace QName

theorem toList_clark {q : QName} (h : q.space ≠ "") :
  q.clark.toList = ['\x7b'] ++ (q.space.toList ++ (['\x7d'] ++ q.localName.toList))
  := by
  rw [clark, if_neg h]
  simp only [String.toList_append, List.append_assoc]
  rfl

theorem brackets_clark (q : QName) :
  brackets q.clark.toList = brackets q.space.toList ++ brackets q.localName.toList
  := by
  by_cases none : q.space = ""
  · rw [clark, if_pos none, none]
    rfl
  · rw [toList_clark none, brackets_append, brackets_append, brackets_append]
    rfl

/-- The braces keep the parts of a name apart. -/
theorem noTerminator_clark_iff (q : QName) :
  NoTerminator q.clark.toList ↔ NoTerminator q.space.toList ∧ NoTerminator q.localName.toList
  := by
  by_cases none : q.space = ""
  · have empty : NoTerminator [] := noTerminator_iff_isChain.mpr List.IsChain.nil
    rw [clark, if_pos none, none]
    simp [empty]
  · rw [toList_clark none]
    constructor
    · intro h
      constructor
      · apply h.of_infix
        apply List.infix_append'
      · apply h.of_infix
        apply List.IsSuffix.isInfix
        use ['\x7b'] ++ (q.space.toList ++ ['\x7d'])
        simp
    · rintro ⟨space, localName⟩
      rw [noTerminator_iff_isChain] at space localName ⊢
      have opening : IsWordy ['\x7b'] := IsWordy.of_all (by decide)
      have closing : IsWordy ['\x7d'] := IsWordy.of_all (by decide)
      apply opening.isChain_append
      apply closing.isChain_between (by simp) space localName

/-- A name is without markup if its parts are. -/
theorem unmarked_clark_iff {q : QName} :
  Unmarked q.clark ↔ Unmarked q.space ∧ Unmarked q.localName
  := by
  simp only [unmarked_iff, brackets_clark, noTerminator_clark_iff, List.append_eq_nil_iff]
  tauto

end QName

/-! ### Documentation -/

namespace GroupDecl

/-- The first words of the documentation. -/
def heading : String :=
  "Group interface generated from the following XML Schema declaration.\n" ++ "Name: "

/-- The words between the name of the group and that of the document. -/
def source : String := "\n" ++ "Source: "

/-- What the documentation says between the name of the document and the fragment. -/
def place (d : GroupDecl) : String :=
  ", line " ++ toString d.locator.line.toNat ++ ", column " ++ toString d.locator.column.toNat
    ++ "\n" ++ "Schema source:\n"

/-- What the documentation shows of the group. -/
def shown (d : GroupDecl) : String := "\n" ++ escapeDoc d.fragment.render ++ "\n"

theorem documentation_eq (d : GroupDecl) :
  d.documentation
    = heading ++ d.name.clark ++ source ++ d.locator.systemId ++ d.place ++ "<pre>" ++ d.shown
      ++ "</pre>"
  := by
  have opening : ("<pre>\n" : String) = "<pre>" ++ "\n" := by decide +kernel
  have closing : ("\n</pre>" : String) = "\n" ++ "</pre>" := by decide +kernel
  unfold documentation heading source place shown
  rw [opening, closing]
  simp only [String.append_assoc]

theorem toList_documentation (d : GroupDecl) :
  d.documentation.toList
    = heading.toList ++ (d.name.clark.toList ++ (source.toList ++ (d.locator.systemId.toList
      ++ (d.place.toList ++ ("<pre>".toList ++ (d.shown.toList ++ "</pre>".toList))))))
  := by
  rw [documentation_eq]
  simp only [String.toList_append, List.append_assoc]

theorem isWordy_heading :
  IsWordy heading.toList
  := IsWordy.of_all (by decide +kernel)

theorem isWordy_source :
  IsWordy source.toList
  := IsWordy.of_all (by decide +kernel)

theorem isWordy_place (d : GroupDecl) :
  IsWordy d.place.toList
  := by
  have line : IsWordy ", line ".toList := IsWordy.of_all (by decide +kernel)
  have column : IsWordy ", column ".toList := IsWordy.of_all (by decide +kernel)
  have lineBreak : IsWordy "\n".toList := IsWordy.of_all (by decide +kernel)
  have source : IsWordy "Schema source:\n".toList := IsWordy.of_all (by decide +kernel)
  simp only [place, String.toList_append]
  apply IsWordy.append _ source
  apply IsWordy.append _ lineBreak
  apply IsWordy.append _ (IsWordy.toString _)
  apply IsWordy.append _ column
  apply line.append (IsWordy.toString _)

theorem place_ne_nil (d : GroupDecl) :
  d.place.toList ≠ []
  := by
  simp only [place, String.toList_append]
  simp

/-- The fragment is shown without markup of its own. -/
theorem unmarked_shown (d : GroupDecl) :
  Unmarked d.shown
  := by
  have lineBreak : brackets "\n".toList = [] := by decide +kernel
  have text : d.shown.toList
      = "\n".toList ++ ((escapeDoc d.fragment.render).toList ++ "\n".toList) := by
    rw [shown, String.toList_append, String.toList_append, List.append_assoc]
  constructor
  · have fragment : brackets (escapeDoc d.fragment.render).toList = [] := by
      apply brackets_eq_nil
      intro c mem bracket
      apply notMem_escapeDoc (List.mem_append_left ['@'] bracket) _ mem
    rw [text, brackets_append, brackets_append, lineBreak, fragment]
    rfl
  · rw [text, noTerminator_iff_isChain]
    apply isChain_append_of_notMem (by decide +kernel)
    have fragment := noTerminator_iff_isChain.mp (noTerminator_escapeDoc d.fragment.render)
    apply isChain_append_cons fragment (List.IsChain.singleton _) (by decide)

/-- The documentation has the brackets of the names, and those around the fragment. -/
theorem brackets_documentation (d : GroupDecl) :
  brackets d.documentation.toList
    = brackets d.name.clark.toList ++ (brackets d.locator.systemId.toList ++ ['<', '>', '<', '>'])
  := by
  have opening : brackets "<pre>".toList = ['<', '>'] := by decide +kernel
  have closing : brackets "</pre>".toList = ['<', '>'] := by decide +kernel
  rw [toList_documentation]
  simp only [brackets_append, isWordy_heading.noBracket, isWordy_source.noBracket,
    d.isWordy_place.noBracket, d.unmarked_shown.noBracket, opening, closing, List.nil_append,
    List.cons_append]

/-- A comment ends in the documentation only if it ends in one of the names. -/
theorem noTerminator_documentation_iff (d : GroupDecl) :
  NoTerminator d.documentation.toList
    ↔ NoTerminator d.name.clark.toList ∧ NoTerminator d.locator.systemId.toList
  := by
  constructor
  · intro h
    constructor
    · apply h.of_infix
      rw [toList_documentation]
      apply List.infix_append'
    · apply h.of_infix
      rw [toList_documentation, ← List.append_assoc, ← List.append_assoc]
      apply List.infix_append'
  · rintro ⟨name, systemId⟩
    rw [noTerminator_iff_isChain] at name systemId ⊢
    have shown := noTerminator_iff_isChain.mp d.unmarked_shown.noTerminator
    have ends : ("</pre>".toList).IsChain GoesOn := isChain_of_notMem (by decide +kernel)
    have wordsBetween : source.toList ≠ [] := by decide +kernel
    rw [toList_documentation]
    apply isWordy_heading.isChain_append
    apply isWordy_source.isChain_between wordsBetween name
    apply d.isWordy_place.isChain_between d.place_ne_nil systemId
    apply isChain_append_of_notMem (by decide +kernel)
    apply isChain_append_cons shown ends (by decide)

/-- The documentation of an interface fits into a comment if and only if the namespace and the
local name of the group and the name of its document are without markup. -/
theorem fitsComment_documentation_iff (d : GroupDecl) :
  FitsComment d.documentation
    ↔ Unmarked d.name.space ∧ Unmarked d.name.localName ∧ Unmarked d.locator.systemId
  := by
  rw [← and_assoc, ← QName.unmarked_clark_iff]
  constructor
  · intro h
    have noTerminator := d.noTerminator_documentation_iff.mp h.noTerminator
    have lengths := congrArg List.length (d.brackets_documentation.symm.trans h.brackets_eq)
    simp only [List.length_append, List.length_cons, List.length_nil] at lengths
    refine ⟨⟨?_, noTerminator.1⟩, ?_, noTerminator.2⟩
    · apply List.length_eq_zero_iff.mp
      omega
    · apply List.length_eq_zero_iff.mp
      omega
  · rintro ⟨name, systemId⟩
    constructor
    · apply d.noTerminator_documentation_iff.mpr ⟨name.noTerminator, systemId.noTerminator⟩
    · use heading ++ d.name.clark ++ source ++ d.locator.systemId ++ d.place, d.shown,
        d.documentation_eq
      constructor
      · simp only [String.toList_append, brackets_append, isWordy_heading.noBracket,
          isWordy_source.noBracket, name.noBracket, systemId.noBracket,
          d.isWordy_place.noBracket, List.append_nil]
      · apply d.unmarked_shown.noBracket

end GroupDecl

/-- A group of a namespace within which a comment ends. -/
def Sample.starredGroup : GroupDecl :=
  .model { name := { space := "http://example.org/*/party", localName := "party" }, group := {} }

/-- The comment ends within the documentation of a group that has such a namespace. -/
theorem GroupDecl.not_fitsComment_starredGroup :
  ¬ FitsComment Sample.starredGroup.documentation
  := by
  intro h
  obtain ⟨name, -⟩ := (noTerminator_documentation_iff _).mp h.noTerminator
  apply name
  decide +kernel

end GroupInterfaces
