import GroupInterfaces.FileStore
import GroupInterfaces.Proofs.Forms

/-!
# Reading and writing files

A path leads to a place through directories only, and a place has one path of its own. So a file
that is written makes no directory of anything that was none, and what it holds is seen at the paths
that lead to its place and nowhere else. A file that holds the whole of a text is read as that text.
-/

namespace GroupInterfaces.FileStore

variable {s s' : FileStore} {place target : Place} {name path other text : String}
  {names : List String} {bytes : ByteArray}

/-! ### The places that paths lead to -/

/-- The name is one that a directory can give to what is in it. -/
def IsName (name : String) : Prop := name ≠ "" ∧ name ≠ ".." ∧ '/' ∉ name.toList

/-- The way to the place leads through directories, and takes steps upwards only at its start. -/
inductive Reached (s : FileStore) : Place → Prop where
  | root : Reached s ["/"]
  | up (n : Nat) : Reached s (List.replicate n "..")
  | within {place : Place} {name : String} (reached : Reached s place)
      (directory : s.isDirectory place) (legal : IsName name) : Reached s (place ++ [name])

theorem isDirectory_root (s : FileStore) :
  s.isDirectory ["/"]
  := by
  simp [isDirectory]

theorem isDirectory_up (s : FileStore) (n : Nat) :
  s.isDirectory (List.replicate n "..")
  := by
  simp [isDirectory]

theorem above_up (n : Nat) :
  above (List.replicate n "..") = List.replicate (n + 1) ".."
  := by
  cases n with
  | zero => rfl
  | succ n =>
      rw [above, List.reverse_replicate]
      change List.replicate (n + 1) ".." ++ [".."] = _
      rw [← List.replicate_succ']

theorem above_within (place : Place) (legal : IsName name) :
  above (place ++ [name]) = place
  := by
  have notRoot : name ≠ "/" := by
    rintro rfl
    apply legal.2.2
    decide
  simp only [above, List.reverse_append, List.reverse_singleton, List.singleton_append]
  split
  · next empty => cases empty
  · next up => exact absurd (List.cons.inj up).1 legal.2.1
  · next root => exact absurd (List.cons.inj root).1 notRoot
  · next same => rw [← (List.cons.inj same).2, List.reverse_reverse]

/-- What is above a place is a directory. -/
theorem Reached.above (h : s.Reached place) :
  s.Reached (above place) ∧ s.isDirectory (above place)
  := by
  cases h with
  | root => exact ⟨Reached.root, s.isDirectory_root⟩
  | up n =>
      rw [above_up]
      exact ⟨Reached.up (n + 1), s.isDirectory_up (n + 1)⟩
  | within reached directory legal =>
      rw [above_within _ legal]
      exact ⟨reached, directory⟩

/-- All places on the way to a place are directories. -/
theorem Reached.isDirectory_of_prefix (h : s.Reached target) (front : place <+: target)
    (before : place ≠ target) :
  s.isDirectory place
  := by
  induction h with
  | root =>
      rcases List.prefix_cons_iff.mp front with rfl | ⟨rest, rfl, nothing⟩
      · apply s.isDirectory_up 0
      · rw [List.prefix_nil] at nothing
        rw [nothing] at before
        contradiction
  | up n =>
      rw [(List.prefix_replicate_iff.mp front).2]
      apply s.isDirectory_up
  | @within above _ reached directory legal ih =>
      rcases List.prefix_concat_iff.mp front with rfl | front
      · contradiction
      · rcases eq_or_ne place above with rfl | before
        · apply directory
        · apply ih front before

/-! ### The path of a place -/

/-- The names stand between the slashes of a path. -/
def AreBetween (names : List String) : Prop := ∀ name ∈ names, name ≠ "" ∧ '/' ∉ name.toList

/-- A place is given by names alone, or from the root. -/
theorem Reached.areBetween (h : s.Reached place) :
  ∃ names, AreBetween names ∧ (place = names ∨ place = "/" :: names)
  := by
  induction h with
  | root =>
      use []
      exact ⟨by simp [AreBetween], Or.inr rfl⟩
  | up n =>
      use List.replicate n ".."
      refine ⟨?_, Or.inl rfl⟩
      intro name mem
      rw [List.eq_of_mem_replicate mem]
      decide
  | @within above last reached directory legal ih =>
      obtain ⟨names, all, start⟩ := ih
      use names ++ [last]
      constructor
      · intro name mem
        rcases List.mem_append.mp mem with mem | mem
        · apply all name mem
        · obtain rfl := List.mem_singleton.mp mem
          exact ⟨legal.1, legal.2.2⟩
      · rcases start with rfl | rfl
        · apply Or.inl rfl
        · apply Or.inr rfl

theorem splitAt_intercalate (all : AreBetween names) (nonempty : names ≠ []) :
  Text.splitAt '/' ("/".intercalate names).toList = names.map String.toList
  := by
  have slash : "/".toList = ['/'] := rfl
  have separate : ∀ cs ∈ names.map String.toList, '/' ∉ cs := by
    intro cs mem
    obtain ⟨name, among, rfl⟩ := List.mem_map.mp mem
    apply (all name among).2
  rw [String.toList_intercalate, slash, Text.splitAt_eq_splitOn,
    List.splitOn_intercalate _ separate (by simpa using nonempty)]

/-- The names between slashes. -/
def between (cs : List Char) : List String :=
  ((Text.splitAt '/' cs).filter (· ≠ [])).map .ofList

theorem between_intercalate (all : AreBetween names) :
  between ("/".intercalate names).toList = names
  := by
  rcases eq_or_ne names [] with rfl | nonempty
  · rfl
  · have kept : ∀ cs ∈ names.map String.toList, decide (cs ≠ []) := by
      intro cs mem
      obtain ⟨name, among, rfl⟩ := List.mem_map.mp mem
      simpa using (all name among).1
    rw [between, splitAt_intercalate all nonempty, List.filter_eq_self.mpr kept]
    simp

theorem between_append (cs rest : List Char) :
  between (cs ++ '/' :: rest) = between cs ++ between rest
  := by
  simp only [between, Text.splitAt_eq_splitOn, List.splitOn_append_cons_self, List.filter_append,
    List.map_append]

/-- The place that a path spells, whatever is there. -/
def spelled (cs : List Char) : Place :=
  if cs.head? = some '/' then "/" :: between cs else between cs

theorem spelled_append {cs : List Char} (nonempty : cs ≠ []) (rest : List Char) :
  spelled (cs ++ '/' :: rest) = spelled cs ++ between rest
  := by
  rw [spelled, spelled, List.head?_append_of_ne_nil _ nonempty, between_append]
  split
  · rw [List.cons_append]
  · rfl

/-- Only the path of a place that is given from the root begins with a slash. -/
theorem head?_intercalate_ne (all : AreBetween names) :
  ("/".intercalate names).toList.head? ≠ some '/'
  := by
  intro slash
  obtain ⟨rest, begins⟩ := List.head?_eq_some_iff.mp slash
  have nonempty : names ≠ [] := by
    rintro rfl
    cases begins
  have split := splitAt_intercalate all nonempty
  rw [begins, Text.splitAt_cons, if_pos rfl] at split
  cases names with
  | nil => contradiction
  | cons name names =>
      apply (all name List.mem_cons_self).1
      apply String.toList_eq_nil_iff.mp (List.cons.inj split).1.symm

/-- A place is what its path spells. -/
theorem spelled_pathOf (h : s.Reached place) :
  spelled (pathOf place).toList = place
  := by
  obtain ⟨names, all, rfl | rfl⟩ := h.areBetween
  · have path : pathOf place = "/".intercalate place := by
      rw [pathOf]
      intro names same
      subst same
      apply (all "/" List.mem_cons_self).2
      decide
    rw [path, spelled, if_neg (head?_intercalate_ne all), between_intercalate all]
  · have path : (pathOf ("/" :: names)).toList = '/' :: ("/".intercalate names).toList := by
      rw [pathOf, String.toList_append]
      rfl
    rw [path, spelled, List.head?_cons, if_pos rfl]
    have split := between_append [] ("/".intercalate names).toList
    rw [List.nil_append] at split
    rw [split, between_intercalate all]
    rfl

/-- A place has one path of its own. -/
theorem pathOf_inj (h : s.Reached place) (h' : s'.Reached target) :
  pathOf place = pathOf target ↔ place = target
  := by
  constructor
  · intro same
    rw [← spelled_pathOf h, same, spelled_pathOf h']
  · apply congrArg

/-- What has a path within that of a place is within the place. -/
theorem Reached.prefix_of_startsWith (h : s.Reached place) (h' : s.Reached target)
    (nonempty : place ≠ []) (within : (pathOf target).startsWith (pathOf place ++ "/")) :
  place <+: target ∧ place ≠ target
  := by
  obtain ⟨rest, path⟩ := String.startsWith_string_iff.mp within
  have slash : "/".toList = ['/'] := rfl
  rw [String.toList_append, slash, List.append_assoc, List.singleton_append] at path
  constructor
  · have nonempty' : (pathOf place).toList ≠ [] := by
      intro empty
      apply nonempty
      apply (pathOf_inj h (Reached.up 0 : s.Reached [])).mp
      apply String.toList_eq_nil_iff.mp empty
    use between rest
    rw [← spelled_pathOf h', ← path, spelled_append nonempty', spelled_pathOf h]
  · rintro rfl
    have length := congrArg List.length path
    simp at length

/-! ### Following a path -/

/-- Where a name leads from a directory. -/
def towards (place : Place) (name : String) : Place :=
  if name = ".." then above place else place ++ [name]

/-- The first name of a path stays where it is, or leads elsewhere: to a directory, unless it is the
last name. -/
theorem follow_cons_eq_ok_iff :
  s.follow place (name :: names) = .ok target ↔
    if name = "" ∨ name = "." then s.follow place names = .ok target
    else name.utf8ByteSize ≤ 255 ∧ (s.isDirectory (towards place name) ∨ names = [])
      ∧ s.follow (towards place name) names = .ok target
  := by
  have same : (if name = ".." then above place else place ++ [name]) = towards place name := rfl
  simp only [follow, Bool.or_eq_true, decide_eq_true_eq, List.isEmpty_iff, same]
  split
  · rfl
  · split
    · next long => simp [long]
    · next short =>
        rw [not_lt] at short
        split
        · next passable => simp [short, passable]
        · next stuck =>
            split
            · simp [stuck]
            · simp [stuck]

theorem Reached.towards (h : s.Reached place) (directory : s.isDirectory place)
    (moves : ¬ (name = "" ∨ name = ".")) (legal : '/' ∉ name.toList) :
  s.Reached (towards place name)
  := by
  rw [FileStore.towards]
  split
  · apply h.above.1
  · next other => exact h.within directory ⟨not_or.mp moves |>.1, other, legal⟩

/-- What is followed from a directory leads through directories. -/
theorem Reached.follow (h : s.Reached place) (directory : s.isDirectory place)
    (legal : ∀ name ∈ names, '/' ∉ name.toList) (found : s.follow place names = .ok target) :
  s.Reached target
  := by
  induction names generalizing place with
  | nil =>
      cases found
      apply h
  | cons name names ih =>
      obtain ⟨first, others⟩ := List.forall_mem_cons.mp legal
      rw [follow_cons_eq_ok_iff] at found
      split at found
      · apply ih h directory others found
      · next moves =>
          obtain ⟨-, directory' | rfl, found⟩ := found
          · apply ih (h.towards directory moves first) directory' others found
          · cases found
            apply h.towards directory moves first

/-- A path leads to the same place if the same places are directories. -/
theorem Reached.follow_iff (h : s.Reached place) (directory : s.isDirectory place)
    (legal : ∀ name ∈ names, '/' ∉ name.toList)
    (same : ∀ place, s.Reached place → s'.isDirectory place = s.isDirectory place) :
  s'.follow place names = .ok target ↔ s.follow place names = .ok target
  := by
  induction names generalizing place with
  | nil => rfl
  | cons name names ih =>
      obtain ⟨first, others⟩ := List.forall_mem_cons.mp legal
      rw [follow_cons_eq_ok_iff, follow_cons_eq_ok_iff]
      split
      · apply ih h directory others
      · next moves =>
          have reached := h.towards directory moves first
          rw [same _ reached]
          apply and_congr_right
          rintro -
          apply and_congr_right
          rintro (directory' | rfl)
          · apply ih reached directory' others
          · rfl

/-- What a path leads to that ends in a slash is a directory. -/
theorem isDirectory_of_follow (directory : s.isDirectory place)
    (found : s.follow place (names ++ [""]) = .ok target) :
  s.isDirectory target
  := by
  induction names generalizing place with
  | nil =>
      cases found
      apply directory
  | cons name names ih =>
      rw [List.cons_append, follow_cons_eq_ok_iff] at found
      split at found
      · apply ih directory found
      · obtain ⟨-, directory' | last, found⟩ := found
        · apply ih directory' found
        · simp at last

/-- Where a path starts. -/
def start (path : String) : Place := if path.toList.head? = some '/' then ["/"] else []

theorem Reached.start (s : FileStore) (path : String) :
  s.Reached (start path) ∧ s.isDirectory (start path)
  := by
  rw [FileStore.start]
  split
  · exact ⟨Reached.root, s.isDirectory_root⟩
  · exact ⟨Reached.up 0, s.isDirectory_up 0⟩

theorem notMem_of_mem_names (path : String) :
  ∀ name ∈ (Text.splitAt '/' path.toList).map String.ofList, '/' ∉ name.toList
  := by
  intro name mem
  obtain ⟨part, among, rfl⟩ := List.mem_map.mp mem
  rw [String.toList_ofList]
  apply Text.notMem_of_mem_splitAt among

theorem locate_inv (h : s.locate path = .ok place) :
  s.follow (start path) ((Text.splitAt '/' path.toList).map .ofList) = .ok place
  := by
  simp only [locate] at h
  split at h
  · cases h
  · split at h
    · cases h
    · split at h
      · cases h
      · apply h

theorem reached_of_locate (h : s.locate path = .ok place) :
  s.Reached place
  := by
  obtain ⟨reached, directory⟩ := Reached.start s path
  apply reached.follow directory (notMem_of_mem_names path) (locate_inv h)

theorem locate_iff (same : ∀ place, s.Reached place → s'.isDirectory place = s.isDirectory place) :
  s'.locate path = .ok place ↔ s.locate path = .ok place
  := by
  obtain ⟨reached, directory⟩ := Reached.start s path
  simp only [locate]
  split
  · rfl
  · split
    · rfl
    · split
      · rfl
      · apply reached.follow_iff directory (notMem_of_mem_names path) same

theorem exists_eq_append_of_dropTrailing_ne {cs : List Char}
    (h : Text.dropTrailing (· = '/') cs ≠ cs) :
  ∃ before, cs = before ++ ['/']
  := by
  rw [Text.dropTrailing] at h
  rcases List.eq_nil_or_concat cs with rfl | ⟨before, last, rfl⟩
  · contradiction
  · rw [List.concat_eq_append] at h ⊢
    use before
    by_contra other
    apply h
    rw [List.reverse_append, List.reverse_singleton, List.singleton_append,
      List.dropWhile_cons_of_neg (by simpa using other)]
    simp

theorem isDirectory_of_locate (h : s.locate path = .ok place)
    (slash : String.ofList (Text.dropTrailing (· = '/') path.toList) ≠ path) :
  s.isDirectory place
  := by
  obtain ⟨before, ends⟩ := exists_eq_append_of_dropTrailing_ne
    (mt (fun same => (congrArg String.ofList same).trans String.ofList_toList) slash)
  have found := locate_inv h
  have split : Text.splitAt '/' path.toList = Text.splitAt '/' before ++ [[]] := by
    rw [ends, Text.splitAt_eq_splitOn, Text.splitAt_eq_splitOn, List.splitOn_append_cons_self,
      List.splitOn_nil]
  rw [split, List.map_append] at found
  apply isDirectory_of_follow (Reached.start s path).2 found

/-! ### Writing -/

theorem any_keys_insert {α : Type} (files : SortedMap String α) (file : String) (a : α)
    (p : String → Bool) :
  (files.insert file a).keys.any p = (files.keys.any p || p file)
  := by
  apply Bool.eq_iff_iff.mpr
  simp only [Bool.or_eq_true, List.any_eq_true, SortedMap.mem_keys_iff, SortedMap.get?_insert_key]
  constructor
  · rintro ⟨file', mem, holds⟩
    split at mem
    · next same => exact Or.inr (same ▸ holds)
    · exact Or.inl ⟨file', mem, holds⟩
  · rintro (⟨file', mem, holds⟩ | holds)
    · use file'
      split
      · exact ⟨rfl, holds⟩
      · exact ⟨mem, holds⟩
    · use file
      rw [if_pos rfl]
      exact ⟨rfl, holds⟩

/-- Writing a file makes no directory of a place that was none. -/
theorem isDirectory_insert (h : s.Reached target) (h' : s.Reached place) :
  isDirectory { s with files := s.files.insert (pathOf target) bytes } place = s.isDirectory place
  := by
  have added : isDirectory { s with files := s.files.insert (pathOf target) bytes } place
      = (s.isDirectory place || (pathOf target).startsWith (pathOf place ++ "/")) := by
    simp only [isDirectory, any_keys_insert, Bool.or_assoc]
  rw [added, Bool.or_eq_left_iff_imp]
  intro within
  rcases eq_or_ne place [] with rfl | nonempty
  · apply s.isDirectory_up 0
  · obtain ⟨front, before⟩ := h'.prefix_of_startsWith h nonempty within
    apply h.isDirectory_of_prefix front before

theorem locate_insert (located : s.locate path = .ok target) (other : String) :
  locate { s with files := s.files.insert (pathOf target) bytes } other = .ok place
    ↔ s.locate other = .ok place
  := by
  apply locate_iff
  intro place reached
  apply isDirectory_insert (reached_of_locate located) reached

/-- The bytes of the file that a path leads to, if there is one. -/
def bytes? (s : FileStore) (path : String) : Option ByteArray :=
  (s.locate path).toOption.bind s.fileAt?

theorem bytes?_eq_some_iff :
  s.bytes? path = some bytes ↔ ∃ place, s.locate path = .ok place ∧ s.fileAt? place = some bytes
  := by
  rw [bytes?]
  cases s.locate path with
  | error cause => simp [Except.toOption]
  | ok place => simp [Except.toOption]

/-- The bytes are then those of the paths that lead to their place, and of no other path. -/
theorem bytes?_insert (located : s.locate path = .ok target) (other : String) :
  bytes? { s with files := s.files.insert (pathOf target) bytes } other
    = if s.locate other = .ok target then some bytes else s.bytes? other
  := by
  apply Option.ext
  intro found
  rw [bytes?_eq_some_iff]
  simp only [locate_insert located]
  have at_place : ∀ {place}, s.locate other = .ok place →
      fileAt? { s with files := s.files.insert (pathOf target) bytes } place
        = if place = target then some bytes else s.fileAt? place := by
    intro place located'
    rw [fileAt?, SortedMap.get?_insert_key]
    simp only [pathOf_inj (reached_of_locate located') (reached_of_locate located), fileAt?]
  split
  · next same =>
      constructor
      · rintro ⟨place, located', written⟩
        cases same.symm.trans located'
        rw [← written, at_place same, if_pos rfl]
      · intro written
        use target, same
        rw [at_place same, if_pos rfl, written]
  · next apart =>
      rw [bytes?_eq_some_iff]
      apply exists_congr
      intro place
      apply and_congr_right
      intro located'
      rw [at_place located', if_neg]
      rintro rfl
      apply apart located'

/-- A file is opened for writing at the place that the path leads to, unless that is a directory or
the file may not be written. -/
theorem placeToWrite_eq_ok_iff :
  s.placeToWrite path = .ok place
    ↔ s.locate path = .ok place ∧ ¬ s.isDirectory place ∧ (s.restrictionAt place).writing = none
  := by
  by_cases slash : String.ofList (Text.dropTrailing (· = '/') path.toList) = path
  · simp only [placeToWrite, slash, ite_self, ne_eq, not_true, decide_false, Bool.false_or]
    constructor
    · intro h
      obtain ⟨place', located, h⟩ := bind_inv h
      split at h
      · cases h
      · next noDirectory =>
          split at h
          · cases h
          · next writable =>
              cases h
              use located, noDirectory
    · rintro ⟨located, noDirectory, writable⟩
      rw [located, ok_bind, if_neg noDirectory, writable]
  · constructor
    · intro h
      obtain ⟨place', -, h⟩ := bind_inv h
      simp [slash] at h
    · rintro ⟨located, noDirectory, -⟩
      apply absurd (isDirectory_of_locate located slash) noDirectory

/-- What is taken of some bytes is a beginning of them, and all of them if nothing fails. -/
theorem taken_inv {room : Option Room} {taken' : ByteArray} {failure : Option FileError}
    (h : taken room bytes = (taken', failure)) :
  ∃ n, taken' = bytes.extract 0 n ∧ (failure = none → taken' = bytes)
  := by
  simp only [taken] at h
  split at h
  · cases h
    use bytes.size
    simp
  · next room =>
      split at h
      · cases h
        use room.size
        simp
      · cases h
        use bytes.size
        simp

/-- A file that cannot be opened stays as it is. One that is opened holds a beginning of the text,
and all of it if nothing fails. Nothing else changes. -/
theorem put_inv {failure : Option FileError} (h : s.put path text = (s', failure)) :
  (s' = s ∧ failure ≠ none)
    ∨ ∃ place n, s.locate path = .ok place
      ∧ s' = { s with files := s.files.insert (pathOf place) (text.toUTF8.extract 0 n) }
      ∧ (failure = none → text.toUTF8.extract 0 n = text.toUTF8)
  := by
  rw [put] at h
  split at h
  · cases h
    apply Or.inl ⟨rfl, Option.some_ne_none _⟩
  · next place opened =>
      cases taking : taken (s.restrictionAt place).room text.toUTF8 with
      | mk bytes failure' =>
          rw [taking] at h
          cases h
          obtain ⟨n, rfl, all⟩ := taken_inv taking
          apply Or.inr
          use place, n, (placeToWrite_eq_ok_iff.mp opened).1, rfl

theorem locate_of_put {failure : Option FileError} (h : s.put path text = (s', failure))
    (other : String) :
  s'.locate other = .ok place ↔ s.locate other = .ok place
  := by
  rcases put_inv h with ⟨rfl, -⟩ | ⟨target, n, located, rfl, -⟩
  · rfl
  · apply locate_insert located

/-- The text that the bytes of a file spell, if there is one. -/
def text? (s : FileStore) (path : String) : Option String :=
  (s.bytes? path).bind String.fromUTF8?

/-- Nothing is refused to the one who reads the file that the path leads to. -/
def MayRead (s : FileStore) (path : String) : Prop :=
  ∀ place, s.locate path = .ok place → (s.restrictionAt place).reading = none

theorem mayRead_of_put {failure : Option FileError} (h : s.put path text = (s', failure))
    (other : String) :
  s'.MayRead other ↔ s.MayRead other
  := by
  simp only [MayRead, locate_of_put h]
  rcases put_inv h with ⟨rfl, -⟩ | ⟨target, n, -, rfl, -⟩
  · rfl
  · rfl

theorem fromUTF8?_toUTF8 (text : String) :
  String.fromUTF8? text.toUTF8 = some text
  := by
  apply dif_pos text.isValidUTF8

/-- A text is read that is there and may be read. -/
theorem read_of_text? (h : s.text? path = some text) (may : s.MayRead path) :
  s.read path = .ok text
  := by
  obtain ⟨bytes, holds, spelt⟩ := Option.bind_eq_some_iff.mp h
  obtain ⟨place, located, found⟩ := bytes?_eq_some_iff.mp holds
  simp only [read, located, ok_bind, may place located, found, spelt]

theorem read_of_fileAt? (located : s.locate path = .ok place)
    (found : s.fileAt? place = some text.toUTF8)
    (may : (s.restrictionAt place).reading = none) :
  s.read path = .ok text
  := by
  simp only [read, located, ok_bind, may, found, fromUTF8?_toUTF8]

/-- A text that has been written as a whole is there. -/
theorem text?_of_put (h : s.put path text = (s', none)) :
  s'.text? path = some text
  := by
  obtain ⟨-, failed⟩ | ⟨target, n, located, rfl, all⟩ := put_inv h
  · apply absurd rfl failed
  · rw [text?, bytes?_insert located, if_pos located, all rfl]
    apply fromUTF8?_toUTF8

end GroupInterfaces.FileStore
