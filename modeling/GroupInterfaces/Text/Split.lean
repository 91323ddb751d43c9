/-!
# Splitting texts

A text is split at every place of a separator, which belongs to no part.
-/

namespace GroupInterfaces.Text

/-- The part of a text in front of the first separator, and the parts behind it. -/
def splitFirst (separator : Char) (cs : List Char) : List Char × List (List Char) :=
  cs.foldr (fun c (current, others) =>
    if c = separator then ([], current :: others) else (c :: current, others)) ([], [])

/-- The parts of a text between separators. -/
def splitAt (separator : Char) (cs : List Char) : List (List Char) :=
  let (first, others) := splitFirst separator cs
  first :: others

theorem splitAt_cons (separator c : Char) (rest : List Char) :
  splitAt separator (c :: rest)
    = if c = separator then [] :: splitAt separator rest
      else (splitAt separator rest).modifyHead (c :: ·)
  := by
  by_cases h : c = separator
  · simp [splitAt, splitFirst, h]
  · simp [splitAt, splitFirst, h]

/-- The parts are those that lists are split into. -/
theorem splitAt_eq_splitOn (separator : Char) (cs : List Char) :
  splitAt separator cs = cs.splitOn separator
  := by
  induction cs with
  | nil => rfl
  | cons c rest ih =>
      rw [splitAt_cons, ih, List.splitOn_cons_eq_if_modifyHead]
      simp only [beq_iff_eq]

/-- No separator is in a part. -/
theorem notMem_of_mem_splitAt {separator : Char} {cs part : List Char}
    (h : part ∈ splitAt separator cs) :
  separator ∉ part
  := by
  induction cs generalizing part with
  | nil =>
      obtain rfl := List.mem_singleton.mp h
      apply List.not_mem_nil
  | cons c rest ih =>
      rw [splitAt_cons] at h
      split at h
      · rcases List.mem_cons.mp h with rfl | mem
        · apply List.not_mem_nil
        · apply ih mem
      · next other =>
          rw [splitAt, List.modifyHead_cons] at h
          rcases List.mem_cons.mp h with rfl | mem
          · rw [List.mem_cons, not_or]
            exact ⟨Ne.symm other, ih List.mem_cons_self⟩
          · apply ih (List.mem_cons_of_mem _ mem)

end GroupInterfaces.Text
