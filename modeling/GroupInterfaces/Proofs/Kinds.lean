import GroupInterfaces.Episode.Source
import GroupInterfaces.Proofs.Parts

/-!
# Groups of both kinds in a record

A record tells model groups from attribute groups, but an index goes by the names of groups
alone. If no group of a kind is recorded twice, then a name is recorded at most twice, once for
each kind, and the index answers for it with what was recorded last.
-/

namespace GroupInterfaces.Episode

/-- What an entry publishes for its component, by its qualified name. -/
def Entry.published (e : Entry) (environment : Environment) : PublishedInterface :=
  .resolve (.ofQualifiedName e.interface.qualifiedName) environment

/-- An interface whose name does not look like that of a nested type is published as itself. -/
theorem Entry.published_eq {e : Entry} (h : '.' ∉ e.interface.name.toList)
    (environment : Environment) :
  e.published environment = .resolve e.interface environment
  := by
  rw [published, TypeRef.ofQualifiedName_qualifiedName h]

namespace Record

/-- There are neither colons nor white space in the local names of a record. -/
def WellNamed (r : Record) : Prop :=
  ∀ e ∈ r, ∀ c ∈ e.component.localName.toList, c ≠ ':' ∧ Text.isBlank c = false

/-- No group of a kind is recorded twice. -/
def ByKind (r : Record) : Prop := (r.map fun e => (e.kind, e.component)).Nodup

variable {r before after : Record} {e f : Entry}

/-! ### Entries for one name -/

/-- There are only two kinds. -/
theorem kind_eq_of_ne {k k' k'' : GroupKind} (h : k' ≠ k) (h' : k'' ≠ k) :
  k' = k''
  := by
  cases k
  all_goals
    cases k'
    all_goals
      cases k''
      all_goals first | rfl | contradiction

/-- A name that is recorded again is recorded for the other kind. -/
theorem ByKind.kind_ne (distinct : ByKind (before ++ e :: after)) (mem : f ∈ after)
    (same : f.component = e.component) :
  f.kind ≠ e.kind
  := by
  rw [ByKind, List.map_append, List.map_cons, List.nodup_append] at distinct
  obtain ⟨-, distinct, -⟩ := distinct
  obtain ⟨fresh, -⟩ := List.nodup_cons.mp distinct
  intro kind
  apply key_ne_of_notMem_map fresh mem
  simp only [kind, same]

/-- A name is not recorded a third time. -/
theorem ByKind.component_ne (distinct : ByKind (before ++ e :: after)) {between rest : Record}
    (split : after = between ++ f :: rest) (same : f.component = e.component) :
  ∀ g ∈ rest, g.component ≠ f.component
  := by
  subst split
  intro g mem again
  have second : f.kind ≠ e.kind := distinct.kind_ne (by simp) same
  have third : g.kind ≠ e.kind := distinct.kind_ne (by simp [mem]) (again.trans same)
  rw [← List.cons_append, ← List.append_assoc] at distinct
  apply distinct.kind_ne mem again
  apply kind_eq_of_ne third second

/-- The last entry for a name is the one behind which the name does not come again. -/
theorem find?_reverse_of_split (last : ∀ f ∈ after, f.component ≠ e.component) :
  (before ++ e :: after).reverse.find? (·.component = e.component) = some e
  := by
  have none : after.reverse.find? (·.component = e.component) = none := by
    apply List.find?_eq_none.mpr
    intro f mem same
    apply last f (List.mem_reverse.mp mem) (of_decide_eq_true same)
  rw [List.reverse_append, List.reverse_cons, List.append_assoc, List.find?_append, none]
  simp

/-! ### Looking up what was recorded -/

theorem wellNamed_of_all
    (h : (r.all fun e => e.component.localName.toList.all fun c =>
      c ≠ ':' && !Text.isBlank c) = true) :
  r.WellNamed
  := by
  intro e mem c letter
  simpa using List.all_eq_true.mp (List.all_eq_true.mp h e mem) c letter

theorem WellNamed.readBindings_write (named : r.WellNamed) :
  readBindings r.write = .ok (r.sorted.map Entry.binding)
  := by
  apply Record.readBindings_write
  · intro e mem c last
    apply (named e mem c (List.mem_of_getLast? last)).2
  · intro e mem _ colon
    apply (named e mem ':' colon).1 rfl

/-- A record is read back from where it was written to. -/
theorem WellNamed.loadIndex (named : r.WellNamed) {source : Source} {store : FileStore}
    (read : source.read store = .ok r.write) (environment : Environment) :
  source.loadIndex store environment
    = .ok (.ofBindings (r.sorted.map Entry.binding) environment)
  := by
  simp only [Source.loadIndex, read, named.readBindings_write, bind, Except.bind]
  rfl

/-- The answer for a name is what the last entry for it publishes. -/
theorem get?_of_split (last : ∀ f ∈ after, f.component ≠ e.component)
    (environment : Environment) :
  (Index.ofBindings ((sorted (before ++ e :: after)).map Entry.binding) environment).get?
      e.component
    = some (e.published environment)
  := by
  rw [get?_ofBindings_sorted, find?_reverse_of_split last]
  rfl

/-- If no group of a kind is recorded twice, then the record is loaded with an answer for the
component of each entry. The answer is the interface of the entry, unless the component is
recorded again behind the entry. This happens for the other kind only, and then the answer is the
interface of that later entry. -/
theorem get?_of_loadIndex (named : r.WellNamed) (distinct : r.ByKind) {source : Source}
    {store : FileStore} (read : source.read store = .ok r.write) (environment : Environment) :
  ∃ index, source.loadIndex store environment = .ok index
    ∧ (∀ e ∈ r, '.' ∉ e.interface.name.toList →
        e.published environment = .resolve e.interface environment)
    ∧ ∀ before e after, r = before ++ e :: after →
        ((∀ f ∈ after, f.component ≠ e.component) →
          index.get? e.component = some (e.published environment))
        ∧ ∀ f ∈ after, f.component = e.component →
          f.kind ≠ e.kind ∧ index.get? e.component = some (f.published environment)
  := by
  use .ofBindings (r.sorted.map Entry.binding) environment
  use named.loadIndex read environment
  use fun e _ h => Entry.published_eq h environment
  rintro before e after rfl
  constructor
  · intro last
    apply get?_of_split last
  · intro f mem same
    use distinct.kind_ne mem same
    obtain ⟨between, rest, split⟩ := List.append_of_mem mem
    have last := distinct.component_ne split same
    rw [← same, split, ← List.cons_append, ← List.append_assoc]
    apply get?_of_split last

/-- A model group and an attribute group of the same name. -/
def twins : Record :=
  [⟨.modelGroup, ⟨"urn:sample", "party"⟩, ⟨"sample", "Party"⟩⟩,
    ⟨.attributeGroup, ⟨"urn:sample", "party"⟩, ⟨"sample", "PartyAttributes"⟩⟩]

theorem wellNamed_twins :
  twins.WellNamed
  := wellNamed_of_all (by decide)

/-- The twins are loaded, and the model group is answered for with the later interface. -/
theorem get?_of_loadIndex_twins :
  ∃ index, (Source.inline "upstream" twins.write).loadIndex {} {} = .ok index
    ∧ index.get? ⟨"urn:sample", "party"⟩
      = some { typeRef := ⟨"sample", "PartyAttributes"⟩, availability := .missing }
  := by
  have distinct : twins.ByKind := by
    unfold ByKind
    decide
  have read : (Source.inline "upstream" twins.write).read {} = .ok twins.write := rfl
  obtain ⟨index, loaded, published, answers⟩ :=
    get?_of_loadIndex wellNamed_twins distinct read {}
  use index, loaded
  obtain ⟨-, answer⟩ := (answers [] _ _ rfl).2 _ List.mem_cons_self rfl
  rw [published _ (by decide) (by decide)] at answer
  rw [answer]
  decide +kernel

/-- The record of the twins is well named and has no group of a kind twice, but the component of
the model group is not answered for with its interface. -/
theorem twins_not_kept_apart :
  twins.WellNamed ∧ twins.ByKind
    ∧ ⟨.modelGroup, ⟨"urn:sample", "party"⟩, ⟨"sample", "Party"⟩⟩ ∈ twins
    ∧ ∀ environment, ∃ index,
      (Source.inline "upstream" twins.write).loadIndex {} environment = .ok index
        ∧ ∃ answer, index.get? ⟨"urn:sample", "party"⟩ = some answer
          ∧ answer.typeRef = ⟨"sample", "PartyAttributes"⟩
          ∧ answer.typeRef ≠ ⟨"sample", "Party"⟩
  := by
  use wellNamed_twins
  constructor
  · unfold ByKind
    decide
  use List.mem_cons_self
  intro environment
  use .ofBindings (twins.sorted.map Entry.binding) environment
  use wellNamed_twins.loadIndex rfl environment
  let later : Entry := ⟨.attributeGroup, ⟨"urn:sample", "party"⟩, ⟨"sample", "PartyAttributes"⟩⟩
  use later.published environment
  have answer : (Index.ofBindings ((sorted ([twins.head (by decide)] ++ later :: [])).map
      Entry.binding) environment).get? later.component = some (later.published environment) :=
    get?_of_split (by simp) environment
  use answer
  rw [Entry.published_eq (by decide)]
  use rfl
  change (⟨"sample", "PartyAttributes"⟩ : TypeRef) ≠ ⟨"sample", "Party"⟩
  decide

end Record

end GroupInterfaces.Episode
