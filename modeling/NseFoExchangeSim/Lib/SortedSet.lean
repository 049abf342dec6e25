import Mathlib.Data.List.Destutter
import Mathlib.Data.List.Sort

/-!
# Sorted without repetitions

A list that is sorted and then rid of adjacent repetitions has the same members, each of them once, in
strictly growing order.
-/

namespace Lib

universe u

variable {α : Type u} [LinearOrder α]

def sortedSet (l : List α) : List α := (l.insertionSort (· ≤ ·)).destutter (· ≠ ·)

section SortedSet

variable {l : List α} {x : α}

theorem mem_destutter'_of_mem {a : α} (h : x ∈ a :: l) : x ∈ l.destutter' (· ≠ ·) a := by
  induction l generalizing a with
  | nil => simpa using h
  | cons b l ih =>
      by_cases hab : a = b
      · subst hab
        rw [List.destutter'_cons_neg _ (by simp)]
        exact ih (by simpa using h)
      · rw [List.destutter'_cons_pos _ hab]
        rcases List.mem_cons.mp h with rfl | h
        · exact List.mem_cons_self
        · exact List.mem_cons_of_mem _ (ih h)

theorem mem_sortedSet : x ∈ sortedSet l ↔ x ∈ l := by
  rw [sortedSet, ← List.mem_insertionSort (· ≤ ·) (l := l)]
  refine ⟨fun h => (List.destutter_sublist _ _).subset h, fun h => ?_⟩
  cases hl : l.insertionSort (· ≤ ·) with
  | nil =>
      rw [hl] at h
      cases h
  | cons a rest =>
      rw [hl] at h
      exact mem_destutter'_of_mem h

theorem sortedSet_pairwise (l : List α) : (sortedSet l).Pairwise (· < ·) := by
  have hle : (sortedSet l).Pairwise (· ≤ ·) :=
    (List.pairwise_insertionSort (· ≤ ·) l).sublist (List.destutter_sublist _ _)
  have hne : (sortedSet l).IsChain (· ≠ ·) := List.isChain_destutter _ _
  refine List.isChain_iff_pairwise.mp (List.isChain_iff_forall_rel_of_append_cons_cons.mpr ?_)
  intro a b before after heq
  exact lt_of_le_of_ne (List.isChain_iff_forall_rel_of_append_cons_cons.mp hle.isChain heq)
    (List.isChain_iff_forall_rel_of_append_cons_cons.mp hne heq)

end SortedSet

end Lib
