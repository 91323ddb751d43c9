import GroupInterfaces.Proofs.Histories
import GroupInterfaces.Proofs.Loading

/-!
# Splitting and joining qualified names

Types are compared by package and name, but are kept by qualified name, so each of the two has to
tell the other. A qualified name is split at its last dot, and the parts join to it again, unless it
is a dot in front of a text without dots: what is in front of that dot is the unnamed package, which
is joined without a dot. The other way round, a type is told by its qualified name if its own name
has no dot; the names of nested types have one.
-/

namespace GroupInterfaces

namespace TypeRef

/-- The text is a dot in front of a text without dots. -/
def BeginsWithOnlyDot (qualified : String) : Prop :=
  qualified.toList.head? = some '.' ∧ '.' ∉ qualified.toList.tail

instance (qualified : String) : Decidable (BeginsWithOnlyDot qualified) :=
  inferInstanceAs (Decidable (_ ∧ _))

/-- A text has no dots, or a last one. -/
theorem dotless_or_exists_split (qualified : String) :
  '.' ∉ qualified.toList
    ∨ ∃ package name : String,
      qualified.toList = package.toList ++ '.' :: name.toList ∧ '.' ∉ name.toList
  := by
  by_cases dot : '.' ∈ qualified.toList
  · right
    obtain ⟨name, package, split, dotless⟩ :=
      List.eq_append_cons_of_mem (List.mem_reverse.mpr dot)
    use String.ofList package.reverse, String.ofList name.reverse
    constructor
    · rw [← List.reverse_reverse qualified.toList, split]
      simp
    · simpa using dotless
  · left
    apply dot

/-- A text is joined from its parts exactly if it does not begin with its only dot. -/
theorem qualifiedName_ofQualifiedName_iff {qualified : String} :
  (ofQualifiedName qualified).qualifiedName = qualified ↔ ¬ BeginsWithOnlyDot qualified
  := by
  rcases dotless_or_exists_split qualified with dotless | ⟨package, name, split, dotless⟩
  · rw [ofQualifiedName_of_dotless dotless]
    constructor
    · rintro - ⟨dot, -⟩
      apply dotless (List.mem_of_mem_head? dot)
    · intro _
      apply if_pos rfl
  · rw [ofQualifiedName_of_split split dotless]
    by_cases unnamed : package = ""
    · -- The dot is lost, so the joined text is too short.
      have begins : BeginsWithOnlyDot qualified := by
        rw [BeginsWithOnlyDot, split, unnamed]
        exact ⟨rfl, dotless⟩
      have shorter : qualifiedName ⟨package, name⟩ ≠ qualified := by
        rw [qualifiedName, if_pos unnamed]
        intro (same : name = qualified)
        have length := congrArg List.length split
        rw [← same, List.length_append, List.length_cons] at length
        omega
      exact iff_of_false shorter (not_not_intro begins)
    · have joined : qualifiedName ⟨package, name⟩ = qualified :=
        String.toList_inj.mp ((toList_qualifiedName unnamed).trans split.symm)
      apply iff_of_true joined
      rintro ⟨-, rest⟩
      apply rest
      rw [split, List.tail_append_of_ne_nil]
      · simp
      · simpa using unnamed

end TypeRef

/-! ### What rests on it -/

theorem Environment.contains_iff {e : Environment} {t : TypeRef} :
  e.contains t ↔ t.qualifiedName ∈ e.toList
  := by
  rw [toList, SortedMap.mem_keys_iff]
  rfl

theorem Environment.mem_toList_add (e : Environment) (name : String) :
  name ∈ (e.add name).toList
  := by
  rw [toList, SortedMap.mem_keys_iff, add, SortedMap.get?_insert_key, if_pos rfl]
  rfl

theorem PublishedInterface.availability_resolve_iff {t : TypeRef} {e : Environment} :
  (resolve t e).availability = .compiled ↔ t.qualifiedName ∈ e.toList
  := by
  rw [← Environment.contains_iff]
  simp only [resolve]
  split
  · next compiled => simp [compiled]
  · next missing => simp [missing]

/-- The last binding of a group is the one in the index. -/
theorem Episode.Index.get?_ofBindings_of_split {before after : List Binding} {b : Binding}
    (last : ∀ c ∈ after, c.component ≠ b.component) (e : Environment) :
  (ofBindings (before ++ b :: after) e).get? b.component
    = some (.resolve (.ofQualifiedName b.interface) e)
  := by
  rw [get?_ofBindings, List.reverse_append, List.reverse_cons, List.append_assoc,
    List.find?_append, List.find?_eq_none.mpr]
  · simp
  · intro c mem
    simpa using last c (List.mem_reverse.mp mem)

/-- Splitting at the last dot and joining with a dot undo each other: from the text, exactly if it
does not begin with its only dot, and then an environment with the text has the type, and what is
bound by the text counts as compiled exactly if the text is in the environment; and from the type, if
its name has no dot, so that then the qualified name tells types apart. -/
theorem TypeRef.splits_and_joins :
  (∀ s, (ofQualifiedName s).qualifiedName = s ↔ ¬ BeginsWithOnlyDot s)
    ∧ (∀ s, ¬ BeginsWithOnlyDot s → ∀ e : Environment, (e.add s).contains (ofQualifiedName s))
    ∧ (∀ (before after : List Episode.Binding) (b : Episode.Binding),
      ¬ BeginsWithOnlyDot b.interface → (∀ c ∈ after, c.component ≠ b.component) →
      ∀ e, ∃ p, (Episode.Index.ofBindings (before ++ b :: after) e).get? b.component = some p
        ∧ p.typeRef = ofQualifiedName b.interface
        ∧ (p.availability = .compiled ↔ b.interface ∈ e.toList))
    ∧ (∀ t : TypeRef, '.' ∉ t.name.toList → ofQualifiedName t.qualifiedName = t)
    ∧ ∀ t u : TypeRef, '.' ∉ t.name.toList → '.' ∉ u.name.toList →
      t.qualifiedName = u.qualifiedName → t = u
  := by
  refine ⟨fun s => qualifiedName_ofQualifiedName_iff, ?_, ?_, fun t => ofQualifiedName_qualifiedName,
    fun t u => Outline.eq_of_qualifiedName_eq⟩
  · intro s joins e
    rw [Environment.contains_iff, qualifiedName_ofQualifiedName_iff.mpr joins]
    apply e.mem_toList_add
  · intro before after b joins last e
    use .resolve (ofQualifiedName b.interface) e, Episode.Index.get?_ofBindings_of_split last e, rfl
    rw [PublishedInterface.availability_resolve_iff, qualifiedName_ofQualifiedName_iff.mpr joins]

/-- A nested name is joined from its parts, though the type that has it is split elsewhere. -/
theorem TypeRef.splits_and_joins_nested :
  (ofQualifiedName "sample.Order.Line").qualifiedName = "sample.Order.Line"
    ∧ (Environment.add {} "sample.Order.Line").contains (ofQualifiedName "sample.Order.Line")
    ∧ (∃ p, (Episode.Index.ofBindings [⟨"sample.Order", ⟨"urn:sample", "line"⟩⟩,
        ⟨"sample.Order.Line", ⟨"urn:sample", "line"⟩⟩] (.ofList ["sample.Order.Line"])).get?
          ⟨"urn:sample", "line"⟩ = some p
        ∧ p.typeRef = ⟨"sample.Order", "Line"⟩ ∧ p.availability = .compiled)
    ∧ ofQualifiedName (qualifiedName ⟨"sample", "Order"⟩) = ⟨"sample", "Order"⟩
    ∧ ofQualifiedName (qualifiedName ⟨"sample", "Order.Line"⟩) ≠ ⟨"sample", "Order.Line"⟩
    ∧ qualifiedName ⟨"sample", "Order"⟩ ≠ qualifiedName ⟨"sample", "Line"⟩
  := by
  obtain ⟨joins, contains, stamped, splits, apart⟩ := splits_and_joins
  have inner : ofQualifiedName "sample.Order.Line" = ⟨"sample.Order", "Line"⟩ := by decide +kernel
  refine ⟨?_, ?_, ?_, ?_, ?_, ?_⟩
  · apply (joins _).mpr
    decide +kernel
  · apply contains
    decide +kernel
  · obtain ⟨p, found, type, compiled⟩ :=
      stamped [⟨"sample.Order", ⟨"urn:sample", "line"⟩⟩] []
        ⟨"sample.Order.Line", ⟨"urn:sample", "line"⟩⟩ (by decide +kernel) (by simp)
        (.ofList ["sample.Order.Line"])
    use p, found, type.trans inner
    apply compiled.mpr
    decide +kernel
  · apply splits
    decide +kernel
  · decide +kernel
  · intro same
    apply absurd (apart _ _ (by decide +kernel) (by decide +kernel) same)
    decide

end GroupInterfaces
