import Mathlib

/-!
# Lists grouped by keys

Elements with the same key keep their order when a list is sorted by keys. So sorting is the
same as taking, key by key in order, the elements that have the key. A list that is sorted by
keys is known once it is known for each key which elements it has there, and in which order.
-/

namespace GroupInterfaces

open Std

variable {α : Type u} {κ : Type v} [Ord κ] [TransOrd κ] [LawfulEqOrd κ] [DecidableEq κ]

/-- The list sorted by keys, with the order kept among elements of the same key. -/
def sortedBy (key : α → κ) (l : List α) : List α :=
  l.mergeSort fun a b => (compare (key a) (key b)).isLE

section

variable {key : α → κ}

omit [LawfulEqOrd κ] [DecidableEq κ] in
theorem isLE_trans (a b c : α) (h : (compare (key a) (key b)).isLE)
    (h' : (compare (key b) (key c)).isLE) :
  (compare (key a) (key c)).isLE
  := TransCmp.isLE_trans h h'

omit [LawfulEqOrd κ] [DecidableEq κ] in
theorem isLE_total (a b : α) :
  (compare (key a) (key b)).isLE || (compare (key b) (key a)).isLE
  := by
  cases h : compare (key a) (key b) with
  | lt => rfl
  | eq => rfl
  | gt =>
      rw [OrientedCmp.lt_of_gt h]
      rfl

omit [DecidableEq κ] in
theorem eq_of_isLE_of_isLE {k k' : κ} (h : (compare k k').isLE) (h' : (compare k' k).isLE) :
  k = k'
  := by
  cases c : compare k k' with
  | lt =>
      rw [OrientedCmp.gt_of_lt c] at h'
      cases h'
  | eq => apply LawfulEqCmp.eq_of_compare c
  | gt =>
      rw [c] at h
      cases h

omit [LawfulEqOrd κ] [DecidableEq κ] in
theorem isLE_of_eq {k k' : κ} (h : k = k') :
  (compare k k').isLE
  := by
  have same : compare k k = .eq := ReflCmp.compare_self
  rw [← h, same]
  rfl

omit [TransOrd κ] [LawfulEqOrd κ] [DecidableEq κ] in
theorem perm_sortedBy (key : α → κ) (l : List α) :
  (sortedBy key l).Perm l
  := List.mergeSort_perm l _

omit [LawfulEqOrd κ] in
/-- Elements of the same key are sorted. -/
theorem pairwise_isLE_filter (key : α → κ) (l : List α) (k : κ) :
  (l.filter (key · = k)).Pairwise fun a b => (compare (key a) (key b)).isLE
  := by
  apply List.pairwise_of_forall_mem_list
  intro a ha b hb
  apply isLE_of_eq
  rw [of_decide_eq_true (List.mem_filter.mp ha).2, of_decide_eq_true (List.mem_filter.mp hb).2]

omit [LawfulEqOrd κ] in
/-- Sorting keeps the order among elements of the same key. -/
theorem filter_sortedBy (l : List α) (k : κ) :
  (sortedBy key l).filter (key · = k) = l.filter (key · = k)
  := by
  have kept := (List.sublist_mergeSort isLE_trans isLE_total (pairwise_isLE_filter key l k)
    List.filter_sublist).filter (key · = k)
  rw [List.filter_filter] at kept
  simp only [Bool.and_self] at kept
  apply (kept.eq_of_length _).symm
  apply ((perm_sortedBy key l).filter _).length_eq.symm

omit [Ord κ] [TransOrd κ] [LawfulEqOrd κ] in
theorem mem_iff_of_filter_eq {l l' : List α}
    (same : ∀ k, l.filter (key · = k) = l'.filter (key · = k)) (a : α) :
  a ∈ l ↔ a ∈ l'
  := by
  have here : ∀ l : List α, a ∈ l ↔ a ∈ l.filter (key · = key a) := by
    intro l
    simp
  rw [here l, same, ← here l']

/-- Lists that are sorted by keys are equal if they have the same elements at each key. -/
theorem eq_of_filter_eq (key : α → κ) {l l' : List α}
    (sorted : l.Pairwise fun a b => (compare (key a) (key b)).isLE)
    (sorted' : l'.Pairwise fun a b => (compare (key a) (key b)).isLE)
    (same : ∀ k, l.filter (key · = k) = l'.filter (key · = k)) :
  l = l'
  := by
  induction l generalizing l' with
  | nil =>
      cases l' with
      | nil => rfl
      | cons b l' =>
          have none := (mem_iff_of_filter_eq same b).mpr List.mem_cons_self
          cases none
  | cons a l ih =>
      have mem_iff := mem_iff_of_filter_eq same
      cases l' with
      | nil =>
          have none := (mem_iff a).mp List.mem_cons_self
          cases none
      | cons b l' =>
          obtain ⟨least, rest⟩ := List.pairwise_cons.mp sorted
          obtain ⟨least', rest'⟩ := List.pairwise_cons.mp sorted'
          have le : (compare (key a) (key b)).isLE := by
            rcases List.mem_cons.mp ((mem_iff b).mpr List.mem_cons_self) with rfl | mem
            · apply isLE_of_eq rfl
            · apply least b mem
          have le' : (compare (key b) (key a)).isLE := by
            rcases List.mem_cons.mp ((mem_iff a).mp List.mem_cons_self) with rfl | mem
            · apply isLE_of_eq rfl
            · apply least' a mem
          have keys : key a = key b := eq_of_isLE_of_isLE le le'
          have first := same (key a)
          rw [List.filter_cons_of_pos (by simp), List.filter_cons_of_pos (by simp [keys])] at first
          obtain ⟨rfl, -⟩ := List.cons.inj first
          have behind : ∀ k, l.filter (key · = k) = l'.filter (key · = k) := by
            intro k
            have whole := same k
            by_cases here : key a = k
            · rw [List.filter_cons_of_pos (by simp [here]),
                List.filter_cons_of_pos (by simp [here])] at whole
              apply (List.cons.inj whole).2
            · rw [List.filter_cons_of_neg (by simp [here]),
                List.filter_cons_of_neg (by simp [here])] at whole
              apply whole
          rw [ih rest rest' behind]

omit [Ord κ] [TransOrd κ] [LawfulEqOrd κ] in
theorem filter_flatMap_filter {keys : List κ} (distinct : keys.Nodup) (l : List α) (k : κ) :
  (keys.flatMap fun k' => l.filter (key · = k')).filter (key · = k)
    = if k ∈ keys then l.filter (key · = k) else []
  := by
  induction keys with
  | nil => rfl
  | cons k' keys ih =>
      obtain ⟨fresh, distinct⟩ := List.nodup_cons.mp distinct
      rw [List.flatMap_cons, List.filter_append, ih distinct, List.filter_filter]
      by_cases here : k = k'
      · subst here
        simp [fresh]
      · have none : (l.filter fun a => decide (key a = k) && decide (key a = k')) = [] := by
          apply List.filter_eq_nil_iff.mpr
          intro a _
          simp only [Bool.and_eq_true, decide_eq_true_eq, not_and]
          rintro rfl
          apply here
        simp [here, none]

/-- Taking the elements key by key, in the order of the keys, sorts a list. -/
theorem flatMap_filter_eq_sortedBy {keys : List κ}
    (ascending : keys.Pairwise fun k k' => compare k k' = .lt) {l : List α}
    (covers : ∀ a ∈ l, key a ∈ keys) :
  (keys.flatMap fun k => l.filter (key · = k)) = sortedBy key l
  := by
  have distinct : keys.Nodup := by
    apply ascending.imp
    rintro k k' lt rfl
    have same : compare k k = .eq := ReflCmp.compare_self
    rw [same] at lt
    cases lt
  apply eq_of_filter_eq key
  · apply List.pairwise_flatMap.mpr
    constructor
    · intro k _
      apply pairwise_isLE_filter
    · apply ascending.imp
      intro k k' lt a ha b hb
      rw [of_decide_eq_true (List.mem_filter.mp ha).2, of_decide_eq_true (List.mem_filter.mp hb).2,
        lt]
      rfl
  · apply List.pairwise_mergeSort isLE_trans isLE_total
  · intro k
    rw [filter_flatMap_filter distinct, filter_sortedBy]
    split
    · rfl
    · next absent =>
        apply (List.filter_eq_nil_iff.mpr _).symm
        intro a mem here
        apply absent
        rw [← of_decide_eq_true here]
        apply covers a mem

end

end GroupInterfaces
