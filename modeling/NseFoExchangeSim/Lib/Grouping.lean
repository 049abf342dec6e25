import Mathlib.Data.List.Nodup
import Std.Data.ExtTreeMap

/-!
# The rows of a table that have a property

`valuesWith` lists the values of a table that pass a test. An insertion or a removal changes the list by
one value, up to the order; so a count or a sum over a group of rows changes by what that one value
counts.
-/

namespace Lib

open Std

variable {κ ν : Type} {cmp : κ → κ → Ordering} [TransCmp cmp]

/-- The values of a table that pass a test, in the order of their keys. -/
def valuesWith (t : ExtTreeMap κ ν cmp) (p : ν → Bool) : List ν := (t.toList.map Prod.snd).filter p

section ValuesWith

variable {t : ExtTreeMap κ ν cmp} {p : ν → Bool} {k : κ} {v w : ν}

@[simp] theorem valuesWith_empty : valuesWith (∅ : ExtTreeMap κ ν cmp) p = [] := by
  simp [valuesWith]

variable [LawfulEqCmp cmp]

theorem mem_valuesWith : v ∈ valuesWith t p ↔ (∃ k : κ, t[k]? = some v) ∧ p v = true := by
  simp only [valuesWith, List.mem_filter, List.mem_map, Prod.exists, exists_eq_right,
    ExtTreeMap.mem_toList_iff_getElem?_eq_some]

theorem toList_nodup (t : ExtTreeMap κ ν cmp) : t.toList.Nodup := by
  apply (ExtTreeMap.distinct_keys_toList (t := t)).imp
  rintro a b hab rfl
  exact hab ReflCmp.compare_self

/-- A row that was not there comes to the front. -/
theorem toList_insert_perm (hnew : t[k]? = none) (v : ν) :
    (t.insert k v).toList.Perm ((k, v) :: t.toList) := by
  have hnotin : (k, v) ∉ t.toList := by
    rw [ExtTreeMap.mem_toList_iff_getElem?_eq_some, hnew]
    exact nofun
  refine (List.perm_ext_iff_of_nodup (toList_nodup _)
    (List.nodup_cons.mpr ⟨hnotin, toList_nodup t⟩)).mpr ?_
  rintro ⟨k', v'⟩
  rw [List.mem_cons, ExtTreeMap.mem_toList_iff_getElem?_eq_some,
    ExtTreeMap.mem_toList_iff_getElem?_eq_some, ExtTreeMap.getElem?_insert]
  split
  · rename_i he
    obtain rfl := LawfulEqCmp.eq_of_compare he
    simp [hnew, eq_comm]
  · rename_i hne
    have hk : k' ≠ k := by
      rintro rfl
      exact hne ReflCmp.compare_self
    simp [hk]

theorem valuesWith_insert (hnew : t[k]? = none) (v : ν) :
    (valuesWith (t.insert k v) p).Perm (if p v then v :: valuesWith t p else valuesWith t p) := by
  have hperm := ((toList_insert_perm hnew v).map Prod.snd).filter p
  rw [List.map_cons, List.filter_cons] at hperm
  exact hperm

theorem insert_erase_self (hold : t[k]? = some v) : (t.erase k).insert k v = t := by
  refine ExtTreeMap.ext_getElem? fun k' => ?_
  rw [ExtTreeMap.getElem?_insert]
  split
  · rename_i he
    obtain rfl := LawfulEqCmp.eq_of_compare he
    exact hold.symm
  · rename_i hne
    rw [ExtTreeMap.getElem?_erase, if_neg hne]

theorem insert_erase (t : ExtTreeMap κ ν cmp) (k : κ) (v : ν) :
    (t.erase k).insert k v = t.insert k v := by
  refine ExtTreeMap.ext_getElem? fun k' => ?_
  rw [ExtTreeMap.getElem?_insert, ExtTreeMap.getElem?_insert]
  split
  · rfl
  · rename_i hne
    rw [ExtTreeMap.getElem?_erase, if_neg hne]

theorem valuesWith_erase (hold : t[k]? = some v) :
    (valuesWith t p).Perm
      (if p v then v :: valuesWith (t.erase k) p else valuesWith (t.erase k) p) := by
  have hperm := valuesWith_insert (p := p) (ExtTreeMap.getElem?_erase_self (t := t) (k := k)) v
  rwa [insert_erase_self hold] at hperm

end ValuesWith

end Lib
