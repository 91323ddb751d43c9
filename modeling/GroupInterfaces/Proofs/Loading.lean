import GroupInterfaces.Episode.Upstream
import GroupInterfaces.Proofs.Maps

/-!
# Loading an episode in an environment

The bindings of an episode are the same in every environment. An environment only decides which
of the published interfaces count as compiled, so that two environments that agree on these give
the same index.
-/

namespace GroupInterfaces

variable {environment environment' : Environment}

namespace PublishedInterface

/-- The published interface as another environment has it. -/
def within (p : PublishedInterface) (environment : Environment) : PublishedInterface :=
  .resolve p.typeRef environment

theorem compiled?_within (p : PublishedInterface) (environment : Environment) :
  (p.within environment).compiled?
    = if environment.contains p.typeRef then some p.typeRef else none
  := by
  simp only [within, resolve, compiled?]
  by_cases compiled : environment.contains p.typeRef = true
  · simp [compiled]
  · simp [compiled]

end PublishedInterface

namespace Episode

/-! ### Indexes in environments -/

namespace Index

variable {index : Index} {group : QName}

theorem get?_ofBindings (bindings : List Binding) (environment : Environment) (group : QName) :
  (ofBindings bindings environment).get? group
    = (bindings.reverse.find? (·.component = group)).map fun b =>
        .resolve (.ofQualifiedName b.interface) environment
  := by
  rw [ofBindings, SortedMap.get?_ofList, ← List.map_reverse, List.find?_map, Option.map_map]
  rfl

/-- The index of the same interfaces in another environment. -/
def within (index : Index) (environment : Environment) : Index :=
  index.mapValues (·.within environment)

/-- The index has interfaces as an environment has them. -/
def IsWithin (index : Index) (environment : Environment) : Prop :=
  index.within environment = index

theorem get?_within (index : Index) (environment : Environment) (group : QName) :
  (index.within environment).get? group = (index.get? group).map (·.within environment)
  := SortedMap.get?_mapValues _ _ _

theorem contains_within (index : Index) (environment : Environment) (group : QName) :
  (index.within environment).contains group = index.contains group
  := by
  rw [SortedMap.contains, get?_within, Option.isSome_map, SortedMap.contains]

theorem within_ofBindings (bindings : List Binding) (environment environment' : Environment) :
  (ofBindings bindings environment).within environment' = ofBindings bindings environment'
  := by
  apply SortedMap.ext_get?
  intro group
  rw [get?_within, get?_ofBindings, get?_ofBindings, Option.map_map]
  rfl

theorem IsWithin.eq_of_get? (h : index.IsWithin environment) {p : PublishedInterface}
    (found : index.get? group = some p) :
  p.within environment = p
  := by
  have again := index.get?_within environment group
  rw [h, found] at again
  apply (Option.some.inj again).symm

/-- The environments agree on the interfaces of an index. -/
def Agree (index : Index) (environment environment' : Environment) : Prop :=
  ∀ {group p}, index.get? group = some p →
    environment.contains p.typeRef = environment'.contains p.typeRef

/-- The environments that agree on what is published give one index. -/
theorem ofBindings_eq {bindings : List Binding}
    (agree : (ofBindings bindings environment).Agree environment environment') :
  ofBindings bindings environment' = ofBindings bindings environment
  := by
  have here : (ofBindings bindings environment).IsWithin environment :=
    within_ofBindings bindings environment environment
  rw [← within_ofBindings bindings environment environment']
  apply SortedMap.ext_get?
  intro group
  rw [get?_within]
  cases found : (ofBindings bindings environment).get? group with
  | none => rfl
  | some p =>
      have same : p.within environment' = p.within environment := by
        simp only [PublishedInterface.within, PublishedInterface.resolve, agree found]
      rw [Option.map_some, same, here.eq_of_get? found]

end Index

/-! ### Bindings of upstream episodes -/

namespace Upstream

variable {u : Upstream} {store store' : FileStore} {index : Index}

/-- The bindings of the upstream episode, of which there are none without a source. -/
def bindings (u : Upstream) (store : FileStore) : Except Error (List Binding) :=
  match u.source with
  | some source => source.read store >>= readBindings
  | none => .ok []

/-- The text of the upstream episode is at hand, if there is an episode. -/
def AtHand (u : Upstream) : Prop := ∀ source ∈ u.source, ∃ name text, source = .inline name text

theorem loadIndex_eq (u : Upstream) (store : FileStore) (environment : Environment) :
  u.loadIndex store environment = (u.bindings store).map (Index.ofBindings · environment)
  := by
  rw [loadIndex, bindings]
  cases u.source with
  | none => rfl
  | some source =>
      simp only [Source.loadIndex]
      cases source.read store with
      | error e => rfl
      | ok text => rfl

theorem bindings_of_inline {name text : String} (h : u.source = some (.inline name text))
    (store : FileStore) :
  u.bindings store = readBindings text
  := by
  rw [bindings, h]
  rfl

/-- Where the text is at hand, files do not matter. -/
theorem AtHand.bindings_eq (h : u.AtHand) (store store' : FileStore) :
  u.bindings store = u.bindings store'
  := by
  cases found : u.source with
  | none => rw [bindings, bindings, found]
  | some source =>
      obtain ⟨name, text, rfl⟩ := h source found
      rw [bindings_of_inline found, bindings_of_inline found]

/-- An index that was loaded is not loaded again. -/
theorem load_of_index (u : Upstream) (index : Index) (store : FileStore)
    (environment : Environment) :
  ({ u with index := some index } : Upstream).load store environment
    = (.ok index, { u with index := some index })
  := rfl

theorem load_of_bindings {bindings : List Binding} (h : u.index = none)
    (readBack : u.bindings store = .ok bindings) :
  u.load store environment
    = (.ok (.ofBindings bindings environment),
        { u with index := some (.ofBindings bindings environment) })
  := by
  have loaded : u.loadIndex store environment = .ok (.ofBindings bindings environment) := by
    rw [loadIndex_eq, readBack]
    rfl
  simp only [load, h, loaded]

/-- What cannot be loaded is left as it is. -/
theorem load_of_error {e : Error} (h : u.index = none) (fails : u.bindings store = .error e) :
  u.load store environment = (.error e, u)
  := by
  have failed : u.loadIndex store environment = .error e := by
    rw [loadIndex_eq, fails]
    rfl
  simp only [load, h, failed]

/-- To load an episode whose text is at hand once more changes nothing, whether loading it has
succeeded or failed before. -/
theorem AtHand.load_load (atHand : u.AtHand) (h : u.index = none) :
  ((u.load store environment).2.load store' environment').2 = (u.load store environment).2
  := by
  cases readBack : u.bindings store with
  | ok bindings =>
      rw [load_of_bindings h readBack, load_of_index]
  | error e =>
      rw [load_of_error h readBack]
      rw [atHand.bindings_eq store store'] at readBack
      rw [load_of_error h readBack]

end Upstream

end Episode

end GroupInterfaces
