import Std.Data.ExtTreeMap

/-!
# The first entry that fits

A search through the entries of an ordered map, in the order of the keys, finds the entry with the least
key among those that fit.
-/

namespace Lib

open Std

section FirstEntry

variable {α β : Type} [Ord α] [TransOrd α] [LawfulEqOrd α] {t : ExtTreeMap α β} {p : α × β → Bool}
  {k k' : α} {v v' : β} {before after : List (α × β)}

/-- An entry with a smaller key comes earlier. -/
theorem mem_before_of_lt (hlist : t.toList = before ++ (k, v) :: after) (hlt : compare k' k = .lt)
    (hv : t[k']? = some v') : (k', v') ∈ before := by
  have hsorted := ExtTreeMap.ordered_keys_toList (t := t)
  have hmem : (k', v') ∈ t.toList := ExtTreeMap.mem_toList_iff_getElem?_eq_some.mpr hv
  rw [hlist] at hsorted hmem
  rcases List.mem_append.mp hmem with hin | hin
  · exact hin
  · exfalso
    rcases List.mem_cons.mp hin with heq | hin
    · cases heq
      rw [ReflOrd.compare_self] at hlt
      cases hlt
    · have hgreater : compare k k' = .lt :=
        (List.pairwise_cons.mp (List.pairwise_append.mp hsorted).2.1).1 _ hin
      rw [@OrientedCmp.eq_swap _ compare, hlt] at hgreater
      cases hgreater

theorem find?_toList_eq_some (h : t.toList.find? p = some (k, v)) :
    t[k]? = some v ∧ p (k, v) = true ∧
      ∀ k' v', t[k']? = some v' → compare k' k = .lt → p (k', v') = false := by
  obtain ⟨hp, before, after, hlist, hbefore⟩ := List.find?_eq_some_iff_append.mp h
  have hmem : (k, v) ∈ t.toList := by simp [hlist]
  refine ⟨ExtTreeMap.mem_toList_iff_getElem?_eq_some.mp hmem, hp, fun k' v' hv' hlt => ?_⟩
  simpa using hbefore _ (mem_before_of_lt hlist hlt hv')

theorem find?_toList_eq_none (h : t.toList.find? p = none) (hv : t[k]? = some v) :
    p (k, v) = false := by
  have hnone := List.find?_eq_none.mp h (k, v) (ExtTreeMap.mem_toList_iff_getElem?_eq_some.mpr hv)
  simpa using hnone

end FirstEntry

end Lib
