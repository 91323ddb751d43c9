import GroupInterfaces.Json.Decoding
import GroupInterfaces.Proofs.Maps

/-!
# JSON forms that lose nothing

A value is recovered from its JSON form if decoding the form gives the value, wherever the levels
of arrays and objects in it may be entered, within a tagged record or not. A record is recovered
from its fields, each of which is found under its own name among the members; a tagged record is
what the record is that the tag stands beside. A form is plain if no text of it is broken and its
numbers are small and written with digits alone, which is what a tagged record must have in it to
be looked through.
-/

namespace GroupInterfaces

/-! ### Plain forms -/

namespace Json

mutual

/-- The value has no broken texts, and no numbers but small ones that are written with digits
alone. -/
def isPlain : Json → Bool
  | .natural n => n < UInt32.size
  | .numeral _ => false
  | .array elements => arePlainElements elements
  | .object members => arePlainMembers members
  | .unreadable => false
  | _ => true

/-- All elements of an array are plain. -/
def arePlainElements : List Json → Bool
  | [] => true
  | v :: rest => isPlain v && arePlainElements rest

/-- All members of an object are plain. -/
def arePlainMembers : List (String × Json) → Bool
  | [] => true
  | (_, v) :: rest => isPlain v && arePlainMembers rest

end

theorem arePlainElements_iff {vs : List Json} :
  arePlainElements vs ↔ ∀ v ∈ vs, v.isPlain
  := by
  induction vs with
  | nil => simp [arePlainElements]
  | cons v rest ih => simp [arePlainElements, ih]

theorem arePlainMembers_iff {ms : List (String × Json)} :
  arePlainMembers ms ↔ ∀ m ∈ ms, m.2.isPlain
  := by
  induction ms with
  | nil => simp [arePlainMembers]
  | cons m rest ih => simp [arePlainMembers, ih]

mutual

/-- Plain values are sound. -/
theorem isSound_of_isPlain (v : Json) (h : v.isPlain) :
  v.isSound
  := by
  cases v with
  | null => rfl
  | bool b => rfl
  | natural n =>
      have small : n < UInt32.size := by simpa [isPlain] using h
      have limit : UInt32.size ≤ digitsLimit := by decide
      simp only [isSound, naturalInRange, Bool.or_eq_true, decide_eq_true_eq]
      apply Or.inl (small.trans_le limit)
  | numeral literal => cases h
  | string s => rfl
  | array elements => apply areSoundElements_of_arePlainElements elements h
  | object members => apply areSoundMembers_of_arePlainMembers members h
  | unreadable => cases h

theorem areSoundElements_of_arePlainElements (vs : List Json) (h : arePlainElements vs) :
  areSoundElements vs
  := by
  cases vs with
  | nil => rfl
  | cons v rest =>
      obtain ⟨first, others⟩ := Bool.and_eq_true_iff.mp h
      apply Bool.and_eq_true_iff.mpr ⟨isSound_of_isPlain v first,
        areSoundElements_of_arePlainElements rest others⟩

theorem areSoundMembers_of_arePlainMembers (ms : List (String × Json)) (h : arePlainMembers ms) :
  areSoundMembers ms
  := by
  cases ms with
  | nil => rfl
  | cons m rest =>
      obtain ⟨first, others⟩ := Bool.and_eq_true_iff.mp h
      apply Bool.and_eq_true_iff.mpr ⟨isSound_of_isPlain m.2 first,
        areSoundMembers_of_arePlainMembers rest others⟩

end

theorem depth_le_depthOfElements {v : Json} {vs : List Json} (mem : v ∈ vs) :
  v.depth ≤ depthOfElements vs
  := by
  induction vs with
  | nil => cases mem
  | cons w rest ih =>
      rw [depthOfElements]
      cases mem with
      | head => apply le_max_left
      | tail _ mem => apply (ih mem).trans (le_max_right _ _)

theorem depth_le_depthOfMembers {m : String × Json} {ms : List (String × Json)} (mem : m ∈ ms) :
  m.2.depth ≤ depthOfMembers ms
  := by
  induction ms with
  | nil => cases mem
  | cons w rest ih =>
      rw [depthOfMembers]
      cases mem with
      | head => apply le_max_left
      | tail _ mem => apply (ih mem).trans (le_max_right _ _)

end Json

/-- Types with plain forms. -/
class PlainForm (α : Type) [Encodable α] : Prop where
  isPlain_encode : ∀ a : α, (encode a).isPlain

export PlainForm (isPlain_encode)

attribute [simp] isPlain_encode

/-- The form of a value of the type is not the one that stands for its absence. -/
class NonNullForm (α : Type) [Encodable α] : Prop where
  encode_ne_null : ∀ a : α, encode a ≠ .null

export NonNullForm (encode_ne_null)

/-! ### Readings step by step -/

section

variable {ε α β : Type}

theorem ok_bind (a : α) (next : α → Except ε β) :
  (Except.ok a >>= next) = next a
  := rfl

/-- A reading in two steps gives what the second step makes of what the first one gives. -/
theorem bind_inv {read : Except ε α} {next : α → Except ε β} {b : β}
    (h : (read >>= next) = .ok b) :
  ∃ a, read = .ok a ∧ next a = .ok b
  := by
  cases read with
  | error e => cases h
  | ok a => use a, rfl, h

theorem map_inv {f : α → β} {read : Except ε α} {b : β} (h : f <$> read = .ok b) :
  ∃ a, read = .ok a ∧ f a = b
  := by
  cases read with
  | error e => cases h
  | ok a => use a, rfl, Except.ok.inj h

theorem mapM_inv {f : α → Except ε β} {as : List α} {bs : List β}
    (h : as.mapM f = .ok bs) :
  ∀ b ∈ bs, ∃ a ∈ as, f a = .ok b
  := by
  induction as generalizing bs with
  | nil =>
      cases h
      apply List.forall_mem_nil
  | cons a as ih =>
      rw [List.mapM_cons] at h
      obtain ⟨b, first, h⟩ := bind_inv h
      obtain ⟨others, rest, h⟩ := bind_inv h
      cases h
      intro b' mem
      rcases List.mem_cons.mp mem with rfl | mem
      · use a, List.mem_cons_self, first
      · obtain ⟨a', mem, read⟩ := ih rest b' mem
        use a', List.mem_cons_of_mem a mem, read

theorem mapError_inv {ε' : Type} {f : ε → ε'} {e : Except ε α} {a : α} (h : e.mapError f = .ok a) :
  e = .ok a
  := by
  cases e with
  | error e => cases h
  | ok a' => exact congrArg Except.ok (Except.ok.inj h)

/-- Elements that a function reads one by one are read together. -/
theorem mapM_eq_ok {f : α → Except ε β} {as : List α} {bs : List β}
    (h : List.Forall₂ (fun a b => f a = .ok b) as bs) :
  as.mapM f = .ok bs
  := by
  induction h with
  | nil => rfl
  | cons read _ ih =>
      rw [List.mapM_cons, read]
      change (List.mapM f _ >>= fun bs => Except.ok (_ :: bs)) = _
      rw [ih]
      rfl

end

/-! ### Values that are recovered -/

/-- Decoding the form of the value gives the value. -/
def Recovers {α : Type} [Encodable α] [Decodable α] (a : α) : Prop :=
  ∀ {s : Scope}, (encode a).depth ≤ s.levels → decode s (encode a) = .ok a

/-- Types all of whose values are recovered. -/
class LawfulForm (α : Type) [Encodable α] [Decodable α] : Prop where
  recovers : ∀ a : α, Recovers a

export LawfulForm (recovers)

instance : PlainForm String := ⟨fun _ => rfl⟩

instance : LawfulForm String := ⟨fun _ _ _ => rfl⟩

instance : NonNullForm String := ⟨fun _ => nofun⟩

instance : PlainForm Bool := ⟨fun _ => rfl⟩

instance : LawfulForm Bool := ⟨fun _ _ _ => rfl⟩

instance : PlainForm UInt32 where
  isPlain_encode n := decide_eq_true n.toNat_lt

instance : LawfulForm UInt32 where
  recovers n _ _ := (if_pos n.toNat_lt).trans (congrArg Except.ok UInt32.ofNat_toNat)

instance {α : Type} [Encodable α] [PlainForm α] : PlainForm (Option α) where
  isPlain_encode
    | some a => isPlain_encode a
    | none => rfl

section

variable {α : Type}

theorem encode_some [Encodable α] (a : α) :
  encode (some a) = encode a
  := rfl

theorem decode_option [Decodable α] {s : Scope} {v : Json} (some : v ≠ .null) :
  (decode s v : Except DecodeError (Option α)) = Option.some <$> decode s v
  := by
  cases v with
  | null => cases some rfl
  | bool | natural | numeral | string | array | object | unreadable => rfl

variable [Encodable α] [Decodable α]

theorem recovers_none :
  Recovers (none : Option α)
  := fun _ => rfl

theorem recovers_some {a : α} (h : Recovers a) (some : encode a ≠ .null) :
  Recovers (Option.some a)
  := by
  intro s deep
  have read : decode s (encode a) = .ok a := h deep
  rw [encode_some, decode_option some, read]
  rfl

instance [LawfulForm α] [NonNullForm α] : LawfulForm (Option α) where
  recovers
    | some a => recovers_some (recovers a) (encode_ne_null a)
    | none => recovers_none

end

/-! ### Lists and maps -/

section

variable {α : Type} [Encodable α]

instance [PlainForm α] : PlainForm (List α) where
  isPlain_encode as := Json.arePlainElements_iff.mpr (by simp)

instance [PlainForm α] : PlainForm (SortedMap String α) where
  isPlain_encode m := by
    apply Json.arePlainMembers_iff.mpr
    intro e mem
    obtain ⟨e, -, rfl⟩ := List.mem_map.mp mem
    apply isPlain_encode

theorem Scope.inner_eq {s : Scope} {n : Nat} (deep : n + 1 ≤ s.levels) :
  ∃ inner, s.inner = .ok inner ∧ n ≤ inner.levels
  := by
  obtain ⟨levels, tagged⟩ := s
  cases levels with
  | zero => cases deep
  | succ levels => exact ⟨_, rfl, Nat.le_of_succ_le_succ deep⟩

/-- The elements of an array are read if each of them is. -/
theorem decodeElements_eq_ok {f : Scope → Json → Except DecodeError α} {as : List α}
    (read : ∀ a ∈ as, ∀ {s : Scope}, (encode a).depth ≤ s.levels → f s (encode a) = .ok a)
    {s : Scope} (deep : (Json.array (as.map encode)).depth ≤ s.levels) :
  decodeElements f s (.array (as.map encode)) = .ok as
  := by
  obtain ⟨inner, entered, deep⟩ := Scope.inner_eq deep
  rw [decodeElements, entered, ok_bind]
  apply mapM_eq_ok
  apply List.forall₂_map_left_iff.mpr
  apply List.forall₂_same.mpr
  intro a mem
  apply read a mem
  apply (Json.depth_le_depthOfElements (List.mem_map_of_mem mem)).trans deep

/-- The entries of an object are read if each of them is. -/
theorem decodeEntries_eq_ok {f : Scope → Json → Except DecodeError α} {es : List (String × α)}
    (read : ∀ e ∈ es, ∀ {s : Scope}, (encode e.2).depth ≤ s.levels →
      f s (encode e.2) = .ok e.2)
    {s : Scope}
    (deep : (Json.object (es.map fun (name, a) => (name, encode a))).depth ≤ s.levels) :
  decodeEntries f s (.object (es.map fun (name, a) => (name, encode a))) = .ok es
  := by
  obtain ⟨inner, entered, deep⟩ := Scope.inner_eq deep
  rw [decodeEntries, entered, ok_bind]
  apply mapM_eq_ok
  apply List.forall₂_map_left_iff.mpr
  apply List.forall₂_same.mpr
  intro e mem
  have shallow : (encode e.2).depth ≤ inner.levels :=
    (Json.depth_le_depthOfMembers (List.mem_map_of_mem mem)).trans deep
  change (f inner (encode e.2) >>= _) = _
  rw [read e mem shallow]
  rfl

variable [Decodable α]

theorem recovers_list {as : List α} (h : ∀ a ∈ as, Recovers a) :
  Recovers as
  := decodeElements_eq_ok h

instance [LawfulForm α] : LawfulForm (List α) where
  recovers _ := recovers_list fun a _ => recovers a

theorem recovers_map {m : SortedMap String α} (h : ∀ e ∈ m.toList, Recovers e.2) :
  Recovers m
  := by
  intro s deep
  change SortedMap.ofList <$> decodeEntries decode s (.object _) = _
  rw [decodeEntries_eq_ok h deep]
  apply congrArg Except.ok m.ofList_toList

instance [LawfulForm α] : LawfulForm (SortedMap String α) where
  recovers _ := recovers_map fun e _ => recovers e.2

end

/-! ### Records -/

/-- The members of a record for those of its fields that are written. -/
def present : List (String × Option Json) → List (String × Json)
  | [] => []
  | (name, some v) :: fields => (name, v) :: present fields
  | (_, none) :: fields => present fields

section

variable {fields : List (String × Option Json)} {name : String} {v : Option Json}

@[simp]
theorem present_nil :
  present [] = []
  := rfl

@[simp]
theorem present_cons_some (v : Json) :
  present ((name, some v) :: fields) = (name, v) :: present fields
  := rfl

@[simp]
theorem present_cons_map {α : Type} [Encodable α] (o : Option α) :
  present ((name, o.map encode) :: fields) = optionalMember name o ++ present fields
  := by
  cases o with
  | none => rfl
  | some a => rfl

theorem mem_present_iff {m : String × Json} :
  m ∈ present fields ↔ (m.1, some m.2) ∈ fields
  := by
  induction fields with
  | nil => simp [present]
  | cons field fields ih =>
      obtain ⟨name, v⟩ := field
      cases v with
      | none => simp [present, ih]
      | some v => simp [present, ih, Prod.ext_iff]

theorem sublist_present (fields : List (String × Option Json)) :
  ((present fields).map (·.1)).Sublist (fields.map (·.1))
  := by
  induction fields with
  | nil => apply List.Sublist.refl
  | cons field fields ih =>
      obtain ⟨name, v⟩ := field
      cases v with
      | none => apply ih.cons
      | some v => apply ih.cons_cons

/-- What is written of a field is found under its name. -/
theorem lookup_present (distinct : (fields.map (·.1)).Nodup) (found : fields.lookup name = some v) :
  (present fields).lookup name = v
  := by
  induction fields with
  | nil => cases found
  | cons field fields ih =>
      obtain ⟨name', v'⟩ := field
      obtain ⟨first, others⟩ := List.nodup_cons.mp distinct
      by_cases same : name = name'
      · subst same
        obtain rfl : v' = v := by simpa using found
        cases v' with
        | none =>
            apply List.lookup_eq_none_iff.mpr
            intro m mem
            have written : name ≠ m.1 := by
              rintro rfl
              apply first ((sublist_present fields).subset (List.mem_map_of_mem mem))
            simpa using written
        | some v' => simp [present]
      · have other : (name == name') = false := beq_false_of_ne same
        rw [List.lookup_cons, other] at found
        cases v' with
        | none => apply ih others found
        | some v' =>
            rw [present, List.lookup_cons, other]
            apply ih others found

end

theorem firstRepeated?_eq_none {names : List String} {ms : List (String × Json)}
    (distinct : (ms.map (·.1)).Nodup) :
  firstRepeated? names ms = none
  := by
  apply List.find?_eq_none.mpr
  intro name _
  have once : (ms.map (·.1)).count name ≤ 1 := List.nodup_iff_count_le_one.mp distinct name
  rw [List.count, List.countP_map] at once
  simpa [Function.comp_def] using once

/-- A record gives the fields that are written, each in a scope where it can be read. -/
structure Fields.Give (fields : Fields) (written : List (String × Option Json)) : Prop where
  lookup : ∀ {name v}, written.lookup name = some v → fields.values.lookup name = v
  deep : ∀ {name v}, written.lookup name = some (some v) → v.depth ≤ fields.scope.levels

theorem Fields.ofRecord_present (names : List String) {written : List (String × Option Json)}
    (distinct : (written.map (·.1)).Nodup) {s : Scope}
    (deep : (Json.object (present written)).depth ≤ s.levels) :
  ∃ fields : Fields, Fields.ofRecord names s (.object (present written)) = .ok fields
    ∧ fields.Give written
  := by
  obtain ⟨inner, entered, deep⟩ := Scope.inner_eq deep
  refine ⟨⟨inner, present written⟩, ?_, lookup_present distinct, ?_⟩
  · simp only [ofRecord, entered,
      firstRepeated?_eq_none ((sublist_present written).nodup distinct)]
    rfl
  · intro name v found
    obtain ⟨before, after, rfl, -⟩ := List.lookup_eq_some_iff.mp found
    have mem : (name, v) ∈ present (before ++ (name, some v) :: after) :=
      mem_present_iff.mpr (by simp)
    apply (Json.depth_le_depthOfMembers mem).trans deep

theorem isPlain_present {written : List (String × Option Json)}
    (plain : ∀ field ∈ written, ∀ v ∈ field.2, v.isPlain) :
  (Json.object (present written)).isPlain
  := by
  apply Json.arePlainMembers_iff.mpr
  intro m mem
  apply plain _ (mem_present_iff.mp mem) m.2 rfl

section

variable {α : Type} [Encodable α]

theorem isPlain_record {a : α} {written : List (String × Option Json)}
    (form : encode a = .object (present written))
    (plain : ∀ field ∈ written, ∀ v ∈ field.2, v.isPlain) :
  (encode a).isPlain
  := form ▸ isPlain_present plain

/-- A record gives its fields. -/
theorem Fields.ofRecord_encode (names : List String) {a : α}
    {written : List (String × Option Json)} (form : encode a = .object (present written))
    (distinct : (written.map (·.1)).Nodup) {s : Scope} (deep : (encode a).depth ≤ s.levels) :
  ∃ fields : Fields, Fields.ofRecord names s (encode a) = .ok fields ∧ fields.Give written
  := by
  rw [form] at deep ⊢
  apply ofRecord_present names distinct deep

variable [Decodable α]

/-- A record is recovered from its fields. -/
theorem recovers_record {a : α} {names : List String} {read : Fields → Except DecodeError α}
    {written : List (String × Option Json)} (form : encode a = .object (present written))
    (decoding : ∀ s v, (decode s v : Except DecodeError α) = Fields.ofRecord names s v >>= read)
    (distinct : (written.map (·.1)).Nodup)
    (reads : ∀ fields : Fields, fields.Give written → read fields = .ok a) :
  Recovers a
  := by
  intro s deep
  obtain ⟨fields, same, give⟩ := Fields.ofRecord_encode names form distinct deep
  rw [decoding, same]
  apply reads fields give

end

namespace Fields.Give

variable {α β : Type} {fields : Fields} {written : List (String × Option Json)}
  (give : fields.Give written) {name : String} {a : α} {next : α → Except DecodeError β}
include give

theorem read {f : Scope → Json → Except DecodeError α} {v : Json}
    {absent : Except DecodeError α} (found : written.lookup name = some (some v))
    (read : ∀ {s : Scope}, v.depth ≤ s.levels → f s v = .ok a) :
  fields.getWith f name absent = .ok a
  := by
  rw [Fields.getWith, give.lookup found]
  apply read (give.deep found)

theorem getWith {f : Scope → Json → Except DecodeError α} {v : Json}
    {absent : Except DecodeError α} (found : written.lookup name = some (some v))
    (read : ∀ {s : Scope}, v.depth ≤ s.levels → f s v = .ok a) :
  (fields.getWith f name absent >>= next) = next a
  := by
  rw [give.read found read, ok_bind]

variable [Decodable α]

theorem absent (a : α) (found : written.lookup name = some none) :
  (fields.getD name a >>= next) = next a
  := by
  rw [Fields.getD, Fields.getWith, give.lookup found]
  rfl

variable [Encodable α]

theorem required (h : Recovers a) (found : written.lookup name = some (some (encode a))) :
  (fields.required name >>= next) = next a
  := give.getWith found h

theorem getD {absent : α} (h : Recovers a)
    (found : written.lookup name = some (some (encode a))) :
  (fields.getD name absent >>= next) = next a
  := give.getWith found h

theorem optional {o : Option α} {next : Option α → Except DecodeError β} (h : Recovers o)
    (found : written.lookup name = some (o.map encode)) :
  (fields.getD name none >>= next) = next o
  := by
  cases o with
  | none => apply give.absent none found
  | some a => apply give.getD h found

end Fields.Give

/-! ### Tagged records -/

section

variable {tag name : String} {written : List (String × Option Json)}

theorem isPlain_tagRecord (tag name : String) {v : Json} (plain : v.isPlain) :
  (tagRecord tag name v).isPlain
  := by
  cases v with
  | object ms => apply Bool.and_eq_true_iff.mpr ⟨rfl, plain⟩
  | null | bool | natural | numeral | string | array | unreadable => apply plain

theorem depth_tagRecord (tag name : String) (v : Json) :
  (tagRecord tag name v).depth = v.depth
  := by
  cases v with
  | object ms => simp [tagRecord, Json.depth, Json.depthOfMembers]
  | null | bool | natural | numeral | string | array | unreadable => rfl

/-- The variant of a tagged record is told by the tag, and carries what the tag stands beside. -/
theorem Variant.ofTagged_tagRecord {variants : List String} (known : name ∈ variants)
    (apart : tag ∉ written.map (·.1)) (plain : (Json.object (present written)).isPlain)
    {s : Scope} (deep : (Json.object (present written)).depth ≤ s.levels) :
  Variant.ofTagged tag variants s (tagRecord tag name (.object (present written)))
    = .ok ⟨name, { s with tagged := true }, some (.object (present written))⟩
  := by
  have others : ∀ m ∈ present written, m.1 ≠ tag := by
    rintro m mem rfl
    apply apart ((sublist_present written).subset (List.mem_map_of_mem mem))
  have tags : (present written).filter (·.1 == tag) = [] := by
    apply List.filter_eq_nil_iff.mpr
    intro m mem
    simpa using others m mem
  have rest : (present written).filter (·.1 != tag) = present written := by
    apply List.filter_eq_self.mpr
    intro m mem
    simpa using others m mem
  have admitted : s.admits (tagRecord tag name (.object (present written))) = .ok () := by
    have sound := Json.isSound_of_isPlain _ (isPlain_tagRecord tag name plain)
    have shallow : ¬ s.levels < (tagRecord tag name (.object (present written))).depth := by
      rw [depth_tagRecord]
      apply Nat.not_lt.mpr deep
    simp only [Scope.admits, shallow, sound, if_true, if_false, ite_self]
  simp only [ofTagged, tagRecord] at admitted ⊢
  rw [admitted]
  simp [tags, rest, tagName, known]
  rfl

/-- A tagged record gives the fields that stand beside its tag. -/
theorem Variant.ofTagged_written (variants names : List String)
    (known : name ∈ variants) (apart : tag ∉ written.map (·.1))
    (distinct : (written.map (·.1)).Nodup) (plain : ∀ field ∈ written, ∀ v ∈ field.2, v.isPlain)
    {s : Scope} (deep : (tagRecord tag name (.object (present written))).depth ≤ s.levels) :
  ∃ variant fields,
    Variant.ofTagged tag variants s (tagRecord tag name (.object (present written))) = .ok variant
      ∧ variant.name = name ∧ variant.fields names = .ok fields ∧ fields.Give written
  := by
  rw [depth_tagRecord] at deep
  obtain ⟨fields, given, give⟩ :=
    Fields.ofRecord_present (s := { s with tagged := true }) names distinct deep
  refine ⟨_, fields, ofTagged_tagRecord known apart (isPlain_present plain) deep, rfl, given, give⟩

/-- A tagged record without fields is its tag alone. -/
theorem Variant.ofTagged_bare {variants : List String} (known : name ∈ variants) {s : Scope}
    (deep : (Json.object [(tag, .string name)]).depth ≤ s.levels) :
  Variant.ofTagged tag variants s (.object [(tag, .string name)])
    = .ok ⟨name, { s with tagged := true }, some (.object [])⟩
  := by
  have apart : tag ∉ ([] : List (String × Option Json)).map (·.1) := List.not_mem_nil
  apply ofTagged_tagRecord known apart rfl
  rw [← depth_tagRecord tag name]
  apply deep

/-- The variant of a tagged record carries the record that the tag stands beside. -/
theorem Variant.ofTagged_encode {α : Type} [Encodable α] [PlainForm α] {a : α}
    {variants : List String} {s : Scope} (form : encode a = .object (present written))
    (known : name ∈ variants) (apart : tag ∉ written.map (·.1))
    (deep : (tagRecord tag name (encode a)).depth ≤ s.levels) :
  Variant.ofTagged tag variants s (tagRecord tag name (encode a))
    = .ok ⟨name, { s with tagged := true }, some (encode a)⟩
  := by
  have plain : (encode a).isPlain := isPlain_encode a
  rw [depth_tagRecord] at deep
  rw [form] at plain deep ⊢
  apply ofTagged_tagRecord known apart plain deep

end

end GroupInterfaces
