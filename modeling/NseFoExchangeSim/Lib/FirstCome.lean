import Mathlib.Data.List.Induction
import Std.Data.ExtTreeMap

/-!
# Tables with a limited number of rows

A table gives its rows to keys first come, first served. A key that is asked for gets a row if it may
have one and there is room, and keeps it; a message that comes with the key goes to its row. Which keys
have a row is then a matter of the keys alone, and what a row holds of the messages for its key alone.
-/

namespace Lib

open Std

variable {κ ν μ : Type} {cmp : κ → κ → Ordering} [TransCmp cmp]

/-- What such a table is made with. -/
structure FirstCome (κ ν μ : Type) where
  allowed : κ → Bool
  places : Nat
  fresh : ν
  on : ν → μ → ν

namespace FirstCome

variable (F : FirstCome κ ν μ)

/-- A row after the message that came with its key, if one came. -/
def onTouch (row : ν) (message : Option μ) : ν := message.elim row (F.on row)

def touch (table : ExtTreeMap κ ν cmp) (key : κ) (message : Option μ) : ExtTreeMap κ ν cmp :=
  if F.allowed key && (table.contains key || decide (table.size < F.places)) then
    table.insert key (F.onTouch ((table[key]?).getD F.fresh) message)
  else table

def run (table : ExtTreeMap κ ν cmp) (touches : List (κ × Option μ)) : ExtTreeMap κ ν cmp :=
  touches.foldl (fun table t => F.touch table t.1 t.2) table

section Rows

variable [DecidableEq κ]

/-- The keys that get a row, in the order in which they get it. -/
def admitted (keys : List κ) : List κ := ((keys.filter F.allowed).eraseDups).take F.places

/-- The messages for a key. -/
def messagesFor (key : κ) (touches : List (κ × Option μ)) : List μ :=
  (touches.filter (·.1 = key)).filterMap (·.2)

def rowOf (key : κ) (touches : List (κ × Option μ)) : ν :=
  (messagesFor key touches).foldl F.on F.fresh

variable {F} {key k : κ} {keys : List κ} {touches : List (κ × Option μ)} {message : Option μ}
  {table : ExtTreeMap κ ν cmp}

/-! ## The keys that get a row -/

theorem mem_of_mem_admitted (hk : k ∈ F.admitted keys) : k ∈ keys ∧ F.allowed k = true := by
  have hmem := List.mem_eraseDups.mp (List.mem_of_mem_take hk)
  exact List.mem_filter.mp hmem

theorem length_admitted_le : (F.admitted keys).length ≤ F.places := by
  rw [admitted, List.length_take]
  exact Nat.min_le_left _ _

/-- While there is room nobody was turned away. -/
theorem not_mem_keys_of_room (hallowed : F.allowed k = true) (hnot : k ∉ F.admitted keys)
    (hroom : (F.admitted keys).length < F.places) : k ∉ keys := by
  intro hmem
  apply hnot
  rw [admitted, List.length_take] at hroom
  rw [admitted, List.take_of_length_le (by omega), List.mem_eraseDups]
  exact List.mem_filter.mpr ⟨hmem, hallowed⟩

/-- One more key gets a row when it is new and there is room. -/
theorem admitted_concat :
    F.admitted (keys ++ [key]) =
      if F.allowed key = true ∧ key ∉ F.admitted keys ∧ (F.admitted keys).length < F.places then
        F.admitted keys ++ [key]
      else F.admitted keys := by
  by_cases hallowed : F.allowed key = true
  · have hone : [key].filter F.allowed = [key] := by simp [hallowed]
    have hall : F.admitted (keys ++ [key]) =
        ((keys.filter F.allowed).eraseDups ++
          ([key].removeAll (keys.filter F.allowed)).eraseDups).take F.places := by
      rw [admitted, List.filter_append, hone, List.eraseDups_append]
    by_cases hold : key ∈ keys
    · have hdrop : [key].removeAll (keys.filter F.allowed) = [] := by
        simp [List.cons_removeAll, hold, hallowed]
      rw [hall, hdrop, if_neg ?_, List.eraseDups_nil, List.append_nil, admitted]
      rintro ⟨-, hnot, hroom⟩
      exact not_mem_keys_of_room hallowed hnot hroom hold
    · have hkeep : [key].removeAll (keys.filter F.allowed) = [key] := by
        simp [List.cons_removeAll, hold]
      have hnot : key ∉ F.admitted keys := fun hc => hold (mem_of_mem_admitted hc).1
      rw [hall, hkeep, List.eraseDups_cons, List.filter_nil, List.eraseDups_nil]
      by_cases hroom : (F.admitted keys).length < F.places
      · rw [if_pos ⟨hallowed, hnot, hroom⟩]
        rw [admitted, List.length_take] at hroom
        rw [admitted, List.take_of_length_le (by simp; omega), List.take_of_length_le (by omega)]
      · rw [if_neg fun hc => hroom hc.2.2]
        rw [admitted, List.length_take] at hroom
        rw [admitted, List.take_append_of_le_length (by omega)]
  · rw [if_neg fun hc => hallowed hc.1, admitted, List.filter_append]
    simp [hallowed, admitted]

theorem mem_admitted_concat :
    k ∈ F.admitted (keys ++ [key]) ↔
      k ∈ F.admitted keys ∨
        k = key ∧ F.allowed key = true ∧ (F.admitted keys).length < F.places := by
  rw [admitted_concat]
  split
  · rename_i hnew
    rw [List.mem_append, List.mem_singleton]
    exact or_congr_right ⟨fun hk => ⟨hk, hnew.1, hnew.2.2⟩, And.left⟩
  · rename_i hold
    refine ⟨.inl, ?_⟩
    rintro (hk | ⟨rfl, hallowed, hroom⟩)
    · exact hk
    · by_contra hnot
      exact hold ⟨hallowed, hnot, hroom⟩

theorem admitted_nodup (keys : List κ) : (F.admitted keys).Nodup := by
  induction keys using List.reverseRecOn with
  | nil => simp [admitted]
  | append_singleton keys key ih =>
      rw [admitted_concat]
      split
      · rename_i hnew
        exact List.nodup_append.mpr ⟨ih, by simp, by
          rintro k hk _ hkey rfl
          exact hnew.2.1 (List.mem_singleton.mp hkey ▸ hk)⟩
      · exact ih

/-- Who has a row keeps it. -/
theorem admitted_prefix (keys more : List κ) : F.admitted keys <+: F.admitted (keys ++ more) := by
  induction more using List.reverseRecOn with
  | nil => simp
  | append_singleton more key ih =>
      rw [← List.append_assoc, admitted_concat]
      split
      · exact ih.trans (List.prefix_append _ _)
      · exact ih

/-! ## The messages of a row -/

theorem rowOf_concat :
    F.rowOf k (touches ++ [(key, message)]) =
      if key = k then F.onTouch (F.rowOf k touches) message else F.rowOf k touches := by
  rw [rowOf, rowOf, messagesFor, messagesFor, List.filter_append, List.filterMap_append,
    List.foldl_append]
  split
  · rename_i hk
    cases message <;> simp [hk, onTouch]
  · rename_i hk
    simp [hk]

theorem rowOf_of_not_mem (hnot : k ∉ touches.map Prod.fst) : F.rowOf k touches = F.fresh := by
  have hnone : touches.filter (·.1 = k) = [] := by
    rw [List.filter_eq_nil_iff]
    intro t ht hk
    exact hnot (List.mem_map.mpr ⟨t, ht, by simpa using hk⟩)
  rw [rowOf, messagesFor, hnone]
  rfl

end Rows

/-! ## The table -/

section Table

variable [DecidableEq κ] {F} {key k : κ} {touches : List (κ × Option μ)} {message : Option μ}
  {table : ExtTreeMap κ ν cmp}

/-- The table that the touches make. -/
structure Made (F : FirstCome κ ν μ) (touches : List (κ × Option μ)) (table : ExtTreeMap κ ν cmp) :
    Prop where
  rows : ∀ k : κ, table[k]? =
    if k ∈ F.admitted (touches.map Prod.fst) then some (F.rowOf k touches) else none
  size : table.size = (F.admitted (touches.map Prod.fst)).length

theorem made_nil : Made F [] (∅ : ExtTreeMap κ ν cmp) := by
  constructor <;> simp [admitted]

theorem Made.mem_iff (h : Made F touches table) :
    k ∈ table ↔ k ∈ F.admitted (touches.map Prod.fst) := by
  rw [ExtTreeMap.mem_iff_isSome_getElem?, h.rows]
  split <;> simp_all

/-- The row that a touch writes to has had the messages for its key, also when it is new. -/
theorem Made.getD (h : Made F touches table)
    (hhas : key ∈ F.admitted (touches.map Prod.fst ++ [key])) :
    (table[key]?).getD F.fresh = F.rowOf key touches := by
  rw [h.rows]
  split
  · rfl
  · rename_i hnot
    obtain ⟨-, hallowed, hroom⟩ := (mem_admitted_concat.mp hhas).resolve_left hnot
    exact (rowOf_of_not_mem (not_mem_keys_of_room hallowed hnot hroom)).symm

theorem Made.skip (h : Made F touches table)
    (hnot : key ∉ F.admitted (touches.map Prod.fst ++ [key])) :
    Made F (touches ++ [(key, message)]) table := by
  have hmap : (touches ++ [(key, message)]).map Prod.fst = touches.map Prod.fst ++ [key] := by simp
  have hsame : F.admitted (touches.map Prod.fst ++ [key]) = F.admitted (touches.map Prod.fst) := by
    rw [admitted_concat, if_neg]
    intro hc
    exact hnot (mem_admitted_concat.mpr (.inr ⟨rfl, hc.1, hc.2.2⟩))
  refine ⟨fun k => ?_, by rw [hmap, hsame, h.size]⟩
  rw [hmap, hsame, h.rows, rowOf_concat]
  split
  · rename_i hk
    have hne : key ≠ k := by
      rintro rfl
      exact hnot (hsame ▸ hk)
    rw [if_neg hne]
  · rfl

variable [LawfulEqCmp cmp]

theorem Made.write (h : Made F touches table)
    (hhas : key ∈ F.admitted (touches.map Prod.fst ++ [key])) :
    Made F (touches ++ [(key, message)])
      (table.insert key (F.onTouch ((table[key]?).getD F.fresh) message)) := by
  have hmap : (touches ++ [(key, message)]).map Prod.fst = touches.map Prod.fst ++ [key] := by simp
  refine ⟨fun k => ?_, ?_⟩
  · rw [h.getD hhas, hmap, rowOf_concat, ExtTreeMap.getElem?_insert]
    by_cases hk : key = k
    · subst hk
      rw [if_pos ReflCmp.compare_self, if_pos hhas, if_pos rfl]
    · rw [if_neg fun hc => hk (LawfulEqCmp.eq_of_compare hc), h.rows, if_neg hk]
      simp only [mem_admitted_concat, Ne.symm hk, false_and, or_false]
  · have hcontains : table.contains key = true ↔ key ∈ F.admitted (touches.map Prod.fst) :=
      ExtTreeMap.mem_iff_contains.symm.trans h.mem_iff
    rw [hmap, ExtTreeMap.size_insert, h.size, admitted_concat]
    by_cases hold : key ∈ F.admitted (touches.map Prod.fst)
    · rw [if_pos (hcontains.mpr hold), if_neg fun hc => hc.2.1 hold]
    · have hnew := (mem_admitted_concat.mp hhas).resolve_left hold
      rw [if_neg fun hc => hold (hcontains.mp hc), if_pos ⟨hnew.2.1, hold, hnew.2.2⟩,
        List.length_append, List.length_singleton]

theorem Made.touch (h : Made F touches table) :
    Made F (touches ++ [(key, message)]) (F.touch table key message) := by
  have hiff : (F.allowed key && (table.contains key || decide (table.size < F.places))) = true ↔
      key ∈ F.admitted (touches.map Prod.fst ++ [key]) := by
    rw [Bool.and_eq_true, Bool.or_eq_true, decide_eq_true_eq, ← ExtTreeMap.mem_iff_contains,
      h.mem_iff, h.size, mem_admitted_concat]
    refine ⟨fun ⟨hallowed, hhas⟩ => hhas.imp_right fun hroom => ⟨rfl, hallowed, hroom⟩, ?_⟩
    rintro (hhas | ⟨-, hallowed, hroom⟩)
    · exact ⟨(mem_of_mem_admitted hhas).2, .inl hhas⟩
    · exact ⟨hallowed, .inr hroom⟩
  rw [FirstCome.touch]
  split
  · rename_i htake
    exact h.write (hiff.mp htake)
  · rename_i hturn
    exact h.skip fun hc => hturn (hiff.mpr hc)

/-- A table that starts empty: who has a row, and what is in it. -/
theorem made_run (touches : List (κ × Option μ)) :
    Made F touches (F.run (∅ : ExtTreeMap κ ν cmp) touches) := by
  induction touches using List.reverseRecOn with
  | nil => exact made_nil
  | append_singleton touches t ih =>
      obtain ⟨key, message⟩ := t
      rw [run, List.foldl_append]
      exact ih.touch

end Table

end FirstCome

end Lib
