import Mathlib

/-!
# Lists taken one by one

Where things are taken one by one, what is asked of one of them may depend on those that were
taken before. A list satisfies such a condition throughout if each of its elements satisfies
it behind the elements in front; otherwise there is a first element that does not.

Elements with keys of their own are found by their keys. A list can be taken apart into two
lists, each of which keeps the order of its elements.
-/

namespace GroupInterfaces

/-- Every element of a list satisfies a condition behind the elements in front of it. -/
def Throughout (P : List α → α → Prop) (as : List α) : Prop :=
  ∀ before a after, as = before ++ a :: after → P before a

namespace Throughout

variable {P : List α → α → Prop}

theorem nil :
  Throughout P []
  := by
  intro before a after h
  simp at h

theorem concat_iff {as : List α} {a : α} :
  Throughout P (as ++ [a]) ↔ Throughout P as ∧ P as a
  := by
  constructor
  · intro h
    constructor
    · intro before b after split
      apply h before b (after ++ [a])
      simp [split]
    · apply h as a []
      rfl
  · rintro ⟨front, last⟩ before b after split
    rcases List.eq_nil_or_concat after with rfl | ⟨after', a', rfl⟩
    · obtain ⟨rfl, same⟩ := List.append_inj' split rfl
      obtain rfl := List.singleton_inj.mp same
      apply last
    · rw [List.concat_eq_append, ← List.cons_append, ← List.append_assoc] at split
      apply front before b after' (List.append_inj' split rfl).1

/-- The condition holds throughout a list exactly if there is no first element that fails. -/
theorem not_iff {as : List α} :
  ¬ Throughout P as
    ↔ ∃ before a after, as = before ++ a :: after ∧ Throughout P before ∧ ¬ P before a
  := by
  constructor
  · induction as using List.reverseRecOn with
    | nil =>
        intro h
        apply (h nil).elim
    | append_singleton as a ih =>
        intro h
        by_cases front : Throughout P as
        · use as, a, [], rfl, front
          intro last
          apply h (concat_iff.mpr ⟨front, last⟩)
        · obtain ⟨before, b, after, rfl, holds, fails⟩ := ih front
          use before, b, after ++ [a]
          simp [holds, fails]
  · rintro ⟨before, a, after, rfl, -, fails⟩ h
    apply fails (h before a after rfl)

/-- A condition that asks less behind fewer elements holds throughout sublists. -/
theorem sublist (fewer : ∀ {before before' a}, before.Sublist before' → P before' a → P before a)
    {as bs : List α} (sub : as.Sublist bs) (h : Throughout P bs) :
  Throughout P as
  := by
  rintro before a after rfl
  obtain ⟨front, back, rfl, sub₁, sub₂⟩ := List.append_sublist_iff.mp sub
  obtain ⟨between, rest, rfl, mem, -⟩ := List.cons_sublist_iff.mp sub₂
  obtain ⟨skipped, behind, rfl⟩ := List.append_of_mem mem
  apply fewer (sub₁.trans (List.sublist_append_left front skipped))
  apply h (front ++ skipped) a (behind ++ rest)
  simp

/-- A condition between two elements holds throughout a list exactly if it holds pairwise. -/
theorem forall_mem_iff_pairwise {R : α → α → Prop} {as : List α} :
  Throughout (fun before a => ∀ b ∈ before, R b a) as ↔ as.Pairwise R
  := by
  induction as using List.reverseRecOn with
  | nil => simp [nil]
  | append_singleton as a ih => simp [concat_iff, ih, List.pairwise_append]

/-- A condition on single elements holds throughout a list exactly if it holds of each. -/
theorem const_iff {Q : α → Prop} {as : List α} :
  Throughout (fun _ a => Q a) as ↔ ∀ a ∈ as, Q a
  := by
  constructor
  · intro h a mem
    obtain ⟨before, after, rfl⟩ := List.append_of_mem mem
    apply h before a after rfl
  · rintro h before a after rfl
    apply h
    simp

end Throughout

/-! ### Keys -/

/-- Elements of a list have other keys than one whose key is new to the list. -/
theorem key_ne_of_notMem_map {β : Type*} {key : α → β} {as : List α} {a : α}
    (fresh : key a ∉ as.map key) {b : α} (mem : b ∈ as) :
  key b ≠ key a
  := by
  intro same
  apply fresh
  rw [← same]
  apply List.mem_map_of_mem mem

/-- Among elements with keys of their own, the one that is found by its key is the only one. -/
theorem find?_eq_some_iff_of_nodup {κ : Type*} [DecidableEq κ] {key : α → κ} {as : List α}
    (distinct : (as.map key).Nodup) {k : κ} {a : α} :
  as.find? (key · = k) = some a ↔ a ∈ as ∧ key a = k
  := by
  constructor
  · intro found
    have name := List.find?_some found
    use List.mem_of_find?_eq_some found, of_decide_eq_true name
  · rintro ⟨mem, rfl⟩
    have some : (as.find? (key · = key a)).isSome := by
      apply List.find?_isSome.mpr
      use a, mem, decide_eq_true rfl
    obtain ⟨b, found⟩ := Option.isSome_iff_exists.mp some
    have name := List.find?_some found
    have same : b = a := List.inj_on_of_nodup_map distinct (List.mem_of_find?_eq_some found) mem
      (of_decide_eq_true name)
    rw [found, same]

/-- Among elements with keys of their own, the same one is found by its key in any order. -/
theorem find?_eq_of_perm {κ : Type*} [DecidableEq κ] {key : α → κ} {as bs : List α}
    (distinct : (as.map key).Nodup) (perm : as.Perm bs) (k : κ) :
  bs.find? (key · = k) = as.find? (key · = k)
  := by
  have distinct' : (bs.map key).Nodup := (perm.map key).nodup_iff.mp distinct
  apply Option.ext
  intro a
  rw [find?_eq_some_iff_of_nodup distinct', find?_eq_some_iff_of_nodup distinct, perm.mem_iff]

/-! ### Lists in two parts -/

/-- A list has the elements of two others, each of them in their order. -/
inductive Interleaves : List α → List α → List α → Prop where
  | nil : Interleaves [] [] []
  | left {us ds ss : List α} (a : α) (rest : Interleaves us ds ss) :
    Interleaves (a :: us) ds (a :: ss)
  | right {us ds ss : List α} (a : α) (rest : Interleaves us ds ss) :
    Interleaves us (a :: ds) (a :: ss)

namespace Interleaves

variable {us ds ss : List α}

theorem refl_left (ss : List α) :
  Interleaves ss [] ss
  := by
  induction ss with
  | nil => apply nil
  | cons a ss ih => apply left a ih

theorem map {β : Type*} (f : α → β) (h : Interleaves us ds ss) :
  Interleaves (us.map f) (ds.map f) (ss.map f)
  := by
  induction h with
  | nil => apply nil
  | left a _ ih => apply left (f a) ih
  | right a _ ih => apply right (f a) ih

theorem sublist_left (h : Interleaves us ds ss) :
  us.Sublist ss
  := by
  induction h with
  | nil => apply List.Sublist.refl
  | left a _ ih => apply ih.cons_cons a
  | right a _ ih => apply ih.cons a

theorem sublist_right (h : Interleaves us ds ss) :
  ds.Sublist ss
  := by
  induction h with
  | nil => apply List.Sublist.refl
  | left a _ ih => apply ih.cons a
  | right a _ ih => apply ih.cons_cons a

theorem perm (h : Interleaves us ds ss) :
  ss.Perm (us ++ ds)
  := by
  induction h with
  | nil => apply List.Perm.refl
  | left a _ ih => apply ih.cons a
  | right a _ ih => apply (ih.cons a).trans List.perm_middle.symm

end Interleaves

end GroupInterfaces
