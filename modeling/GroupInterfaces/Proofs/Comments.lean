import GroupInterfaces.Schema.Documentation
import Mathlib

/-!
# Texts within comments

The documentation of an interface goes into a comment. An escaped text can stand there: no tag
begins in it, and the comment does not end in it, not even between what was written for two
neighbouring characters. Nothing is lost, for the text is read back by putting the character for
every entity.
-/

namespace GroupInterfaces

/-! ### Escaped characters -/

/-- The entities of escaped texts, each with the character that it stands for. -/
def docEntities : List (List Char × Char) :=
  [("&amp;".toList, '&'), ("&lt;".toList, '<'), ("&gt;".toList, '>'), ("&#47;".toList, '/'),
    ("&#064;".toList, '@')]

/-- A character is written as its entity, or as itself if it has no meaning behind the one in
front of it. -/
theorem escapeDocChar_cases (previous c : Char) :
  (∃ e ∈ docEntities, escapeDocChar previous c = e.1 ∧ c = e.2)
    ∨ escapeDocChar previous c = [c] ∧ c ∉ ['&', '<', '>', '@'] ∧ ¬ (previous = '*' ∧ c = '/')
  := by
  unfold escapeDocChar
  split
  · next amp => exact .inl ⟨("&amp;".toList, '&'), by simp [docEntities], rfl, amp⟩
  split
  · next lt => exact .inl ⟨("&lt;".toList, '<'), by simp [docEntities], rfl, lt⟩
  split
  · next gt => exact .inl ⟨("&gt;".toList, '>'), by simp [docEntities], rfl, gt⟩
  split
  · next slash => exact .inl ⟨("&#47;".toList, '/'), by simp [docEntities], rfl, slash.1⟩
  split
  · next at_ => exact .inl ⟨("&#064;".toList, '@'), by simp [docEntities], rfl, at_⟩
  · next amp lt gt slash at_ =>
      refine .inr ⟨rfl, by simp [amp, lt, gt, at_], ?_⟩
      rintro ⟨star, rfl⟩
      apply slash ⟨rfl, star⟩

/-- Entities have no characters with a meaning in comments but their ampersand. -/
theorem notMem_of_mem_docEntities {e : List Char × Char} (h : e ∈ docEntities) :
  ∀ c ∈ e.1, c ∉ ['<', '>', '@', '*', '/']
  := by
  have plain : docEntities.all fun e => e.1.all (· ∉ ['<', '>', '@', '*', '/']) := by
    decide +kernel
  intro c mem
  have each := List.all_eq_true.mp (List.all_eq_true.mp plain e h) c mem
  apply of_decide_eq_true each

/-- Entities begin with their ampersand. -/
theorem eq_cons_of_mem_docEntities {e : List Char × Char} (h : e ∈ docEntities) :
  ∃ name, e.1 = '&' :: name ∧ '&' ∉ name
  := by
  have begins : ∀ e ∈ docEntities, e.1 = '&' :: e.1.tail ∧ '&' ∉ e.1.tail := by decide +kernel
  use e.1.tail
  apply begins e h

/-- Escaped texts have none of the characters that begin or end tags. -/
theorem notMem_escapeDocAfter (previous : Char) (cs : List Char) :
  ∀ c ∈ escapeDocAfter previous cs, c ∉ ['<', '>', '@']
  := by
  induction cs generalizing previous with
  | nil =>
      intro c mem
      cases mem
  | cons d cs ih =>
      intro c mem
      rcases List.mem_append.mp mem with mem | mem
      · rcases escapeDocChar_cases previous d with ⟨e, entity, same, -⟩ | ⟨same, plain, -⟩
        · rw [same] at mem
          have others := notMem_of_mem_docEntities entity c mem
          simp_all
        · rw [same] at mem
          obtain rfl := List.mem_singleton.mp mem
          simp_all
      · apply ih d c mem

/-! ### The end of a comment -/

/-- A comment goes on behind two neighbouring characters. -/
def GoesOn (a b : Char) : Prop := ¬ (a = '*' ∧ b = '/')

/-- No comment ends within the text. -/
def NoTerminator (cs : List Char) : Prop := ¬ "*/".toList <:+: cs

/-- A comment does not end in a text if it goes on behind any two neighbours. -/
theorem noTerminator_iff_isChain {cs : List Char} :
  NoTerminator cs ↔ cs.IsChain GoesOn
  := by
  rw [List.isChain_iff_forall_rel_of_append_cons_cons]
  constructor
  · rintro h a b front rest rfl ⟨rfl, rfl⟩
    apply h
    use front, rest
    rw [List.append_assoc]
    rfl
  · rintro h ⟨front, rest, rfl⟩
    have goesOn : GoesOn '*' '/' := by
      apply h
      rw [List.append_assoc]
      rfl
    apply goesOn ⟨rfl, rfl⟩

theorem NoTerminator.of_infix {cs ds : List Char} (h : NoTerminator ds) (within : cs <:+: ds) :
  NoTerminator cs
  := by
  intro ends
  apply h (ends.trans within)

/-- Behind a text without asterisks, a comment does not end with the first character. -/
theorem isChain_append_of_notMem {cs ds : List Char} (noStar : '*' ∉ cs)
    (h : ds.IsChain GoesOn) :
  (cs ++ ds).IsChain GoesOn
  := by
  induction cs with
  | nil => apply h
  | cons c cs ih =>
      rw [List.mem_cons, not_or] at noStar
      rw [List.cons_append, List.isChain_cons]
      use fun d _ ends => noStar.1 ends.1.symm
      apply ih noStar.2

theorem isChain_of_notMem {cs : List Char} (noStar : '*' ∉ cs) :
  cs.IsChain GoesOn
  := by
  rw [← List.append_nil cs]
  apply isChain_append_of_notMem noStar List.IsChain.nil

/-- In front of a text that does not begin with a slash, the end of another text does not
matter. -/
theorem isChain_append_cons {cs ds : List Char} {d : Char} (h : cs.IsChain GoesOn)
    (h' : (d :: ds).IsChain GoesOn) (noSlash : d ≠ '/') :
  (cs ++ d :: ds).IsChain GoesOn
  := by
  apply h.append h'
  rintro a - b first ⟨-, slash⟩
  apply noSlash (Option.some.inj first |>.trans slash)

/-- The comment does not end in an escaped text, nor with its first character behind the
one that it was written behind. -/
theorem isChain_escapeDocAfter (previous : Char) (cs : List Char) :
  (escapeDocAfter previous cs).IsChain GoesOn
    ∧ ∀ c ∈ (escapeDocAfter previous cs).head?, GoesOn previous c
  := by
  induction cs generalizing previous with
  | nil =>
      use List.IsChain.nil
      rintro c ⟨⟩
  | cons d cs ih =>
      obtain ⟨chain, first⟩ := ih d
      rw [escapeDocAfter]
      rcases escapeDocChar_cases previous d with ⟨e, entity, same, -⟩ | ⟨same, -, goesOn⟩
      · have others := notMem_of_mem_docEntities entity
        obtain ⟨name, text, -⟩ := eq_cons_of_mem_docEntities entity
        rw [same]
        constructor
        · apply isChain_append_of_notMem _ chain
          intro star
          apply others '*' star
          decide
        · rw [text]
          rintro c ⟨⟩ ⟨-, ⟨⟩⟩
      · rw [same, List.singleton_append, List.isChain_cons]
        use ⟨first, chain⟩
        rintro c ⟨⟩
        apply goesOn

/-! ### Entities -/

/-- Every ampersand of the text is the beginning of an entity. -/
def EntitiesOnly (cs : List Char) : Prop :=
  ∀ front rest, cs = front ++ '&' :: rest → ∃ e ∈ docEntities, e.1 <+: '&' :: rest

theorem EntitiesOnly.cons {c : Char} {cs : List Char} (h : EntitiesOnly cs) (plain : c ≠ '&') :
  EntitiesOnly (c :: cs)
  := by
  intro front rest split
  cases front with
  | nil => cases plain (List.cons.inj split).1
  | cons d front => apply h front rest (List.cons.inj split).2

theorem EntitiesOnly.entity {e : List Char × Char} (entity : e ∈ docEntities) {cs : List Char}
    (h : EntitiesOnly cs) :
  EntitiesOnly (e.1 ++ cs)
  := by
  obtain ⟨name, text, others⟩ := eq_cons_of_mem_docEntities entity
  intro front rest split
  cases front with
  | nil =>
      rw [List.nil_append] at split
      use e, entity, cs
  | cons d front =>
      -- The ampersand is behind the first one, hence behind the whole entity.
      rw [text, List.cons_append] at split
      have behind : EntitiesOnly (name ++ cs) := by
        clear split text
        induction name with
        | nil => apply h
        | cons c name ih =>
            rw [List.mem_cons, not_or] at others
            apply (ih others.2).cons (Ne.symm others.1)
      apply behind front rest (List.cons.inj split).2

theorem entitiesOnly_escapeDocAfter (previous : Char) (cs : List Char) :
  EntitiesOnly (escapeDocAfter previous cs)
  := by
  induction cs generalizing previous with
  | nil =>
      intro front rest split
      cases front <;> cases split
  | cons c cs ih =>
      rw [escapeDocAfter]
      rcases escapeDocChar_cases previous c with ⟨e, entity, same, -⟩ | ⟨same, plain, -⟩
      · rw [same]
        apply EntitiesOnly.entity entity (ih c)
      · rw [same]
        apply (ih c).cons
        rintro rfl
        apply plain List.mem_cons_self

/-- The text with the character for every entity, from left to right. -/
def replaceEntities : List Char → List Char
  | '&' :: 'a' :: 'm' :: 'p' :: ';' :: rest => '&' :: replaceEntities rest
  | '&' :: 'l' :: 't' :: ';' :: rest => '<' :: replaceEntities rest
  | '&' :: 'g' :: 't' :: ';' :: rest => '>' :: replaceEntities rest
  | '&' :: '#' :: '4' :: '7' :: ';' :: rest => '/' :: replaceEntities rest
  | '&' :: '#' :: '0' :: '6' :: '4' :: ';' :: rest => '@' :: replaceEntities rest
  | c :: rest => c :: replaceEntities rest
  | [] => []

theorem replaceEntities_entity {e : List Char × Char} (h : e ∈ docEntities) (rest : List Char) :
  replaceEntities (e.1 ++ rest) = e.2 :: replaceEntities rest
  := by
  simp only [docEntities, List.mem_cons, List.mem_nil_iff, or_false] at h
  rcases h with rfl | rfl | rfl | rfl | rfl
  · rfl
  · rfl
  · rfl
  · rfl
  · rfl

theorem replaceEntities_cons {c : Char} (h : c ≠ '&') (rest : List Char) :
  replaceEntities (c :: rest) = c :: replaceEntities rest
  := by
  rw [replaceEntities.eq_def]
  split <;> simp_all

/-- A text is read back from the way it is written, whatever it is written behind. -/
theorem replaceEntities_escapeDocAfter (previous : Char) (cs : List Char) :
  replaceEntities (escapeDocAfter previous cs) = cs
  := by
  induction cs generalizing previous with
  | nil => rfl
  | cons c cs ih =>
      rw [escapeDocAfter]
      rcases escapeDocChar_cases previous c with ⟨e, entity, same, rfl⟩ | ⟨same, plain, -⟩
      · rw [same, replaceEntities_entity entity, ih]
      · have other : c ≠ '&' := by
          rintro rfl
          apply plain List.mem_cons_self
        rw [same, List.singleton_append, replaceEntities_cons other, ih]

/-! ### Escaped texts -/

theorem toList_escapeDoc (text : String) :
  (escapeDoc text).toList = escapeDocAfter '\x00' text.toList
  := String.toList_ofList

theorem notMem_escapeDoc {c : Char} (h : c ∈ ['<', '>', '@']) (text : String) :
  c ∉ (escapeDoc text).toList
  := by
  rw [toList_escapeDoc]
  intro mem
  apply notMem_escapeDocAfter _ _ c mem h

theorem noTerminator_escapeDoc (text : String) :
  NoTerminator (escapeDoc text).toList
  := by
  rw [toList_escapeDoc]
  apply noTerminator_iff_isChain.mpr (isChain_escapeDocAfter _ _).1

/-- A text that can stand anywhere in a comment: no tag begins or ends in it, of markup or of
the comment, the comment does not end, and ampersands stand in entities only. -/
structure Harmless (text : String) : Prop where
  noBracket : '<' ∉ text.toList ∧ '>' ∉ text.toList
  noTag : '@' ∉ text.toList
  noTerminator : NoTerminator text.toList
  entitiesOnly : EntitiesOnly text.toList

/-- Every text is harmless when it is escaped, and it is recovered by putting the character for
every entity. -/
theorem harmless_escapeDoc (text : String) :
  Harmless (escapeDoc text)
    ∧ String.ofList (replaceEntities (escapeDoc text).toList) = text
  := by
  constructor
  · constructor
    · use notMem_escapeDoc (by decide) text
      apply notMem_escapeDoc (by decide) text
    · apply notMem_escapeDoc (by decide) text
    · apply noTerminator_escapeDoc text
    · rw [toList_escapeDoc]
      apply entitiesOnly_escapeDocAfter
  · rw [toList_escapeDoc, replaceEntities_escapeDocAfter]
    apply String.ofList_toList

end GroupInterfaces
