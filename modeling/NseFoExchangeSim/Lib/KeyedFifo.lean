import Mathlib.Data.List.Nodup

/-!
# A queue that is served by key

Items wait in one queue, and a claim takes the first item with a given key. Seen from one key the queue
is first in, first out: the items claimed, and then those that wait, are the items added, so that each
claim gets the item whose turn it is among those of its key.
-/

namespace Lib

universe u v

variable {α : Type u} {κ : Type v} [BEq κ]

/-- The items with the key, in order. -/
def ofKey (key : α → κ) (k : κ) (items : List α) : List α := items.filter fun a => key a == k

/-- The first item with the key, and the queue without it. -/
def claimFirst (key : α → κ) (k : κ) (queue : List α) : Option α × List α :=
  match queue.find? fun a => key a == k with
  | none => (none, queue)
  | some a => (some a, queue.eraseP fun a => key a == k)

section OfKey

variable {key : α → κ} {k k' : κ} {items : List α} {a : α}

theorem ofKey_append (items' : List α) :
    ofKey key k (items ++ items') = ofKey key k items ++ ofKey key k items' :=
  List.filter_append _ _

theorem claimFirst_head : (claimFirst key k items).1 = (ofKey key k items).head? := by
  rw [ofKey, List.head?_filter, claimFirst]
  cases items.find? fun a => key a == k with
  | none => rfl
  | some a => rfl

theorem claimFirst_none (hc : (claimFirst key k items).1 = none) :
    (claimFirst key k items).2 = items := by
  unfold claimFirst at hc ⊢
  cases hf : items.find? fun a => key a == k with
  | none => rfl
  | some a =>
      rw [hf] at hc
      cases hc

variable [LawfulBEq κ]

theorem ofKey_snoc_self (hk : key a = k) : ofKey key k (items ++ [a]) = ofKey key k items ++ [a] := by
  rw [ofKey_append]
  simp [ofKey, hk]

theorem ofKey_snoc_of_ne (hk : key a ≠ k) : ofKey key k (items ++ [a]) = ofKey key k items := by
  rw [ofKey_append]
  simp [ofKey, hk]

theorem mem_ofKey : a ∈ ofKey key k items ↔ a ∈ items ∧ key a = k := by simp [ofKey]

theorem claimFirst_key (hc : (claimFirst key k items).1 = some a) : key a = k := by
  rw [claimFirst_head] at hc
  exact (mem_ofKey.mp (List.mem_of_head? hc)).2

theorem claimFirst_self : ofKey key k (claimFirst key k items).2 = (ofKey key k items).tail := by
  induction items with
  | nil => rfl
  | cons b items ih =>
      unfold claimFirst at ih ⊢
      by_cases hb : key b = k
      · simp [ofKey, hb]
      · rw [List.find?_cons_of_neg (by simpa using hb)]
        cases hf : items.find? fun a => key a == k with
        | none =>
            simp only [hf] at ih ⊢
            simpa [ofKey, hb] using ih
        | some c =>
            simp only [hf] at ih ⊢
            simpa [ofKey, hb] using ih

theorem claimFirst_of_ne (hk : k' ≠ k) :
    ofKey key k' (claimFirst key k items).2 = ofKey key k' items := by
  induction items with
  | nil => rfl
  | cons b items ih =>
      unfold claimFirst at ih ⊢
      by_cases hb : key b = k
      · simp [ofKey, hb, hk.symm]
      · rw [List.find?_cons_of_neg (by simpa using hb)]
        cases hf : items.find? fun a => key a == k with
        | none => rfl
        | some c =>
            simp only [hf] at ih ⊢
            simp only [ofKey, List.filter_cons] at ih ⊢
            simp [hb, ih, List.filter_cons]

end OfKey

/-! ## Turns -/

/-- Key by key, the items claimed and those that wait are the items added. -/
def Fifo (key : α → κ) (added claimed queue : List α) : Prop :=
  ∀ k, ofKey key k claimed ++ ofKey key k queue = ofKey key k added

namespace Fifo

variable {key : α → κ} {added claimed queue : List α} {k : κ} {a : α}

theorem nil : Fifo key [] [] [] := fun _ => rfl

theorem add (hf : Fifo key added claimed queue) (a : α) :
    Fifo key (added ++ [a]) claimed (queue ++ [a]) := by
  intro k
  rw [ofKey_append, ofKey_append, ← List.append_assoc, hf k]

/-- The claim after `n` others of its key gets the item added after `n` others of its key. -/
theorem claim_eq (hf : Fifo key added claimed queue) (k : κ) :
    (claimFirst key k queue).1 = (ofKey key k added)[(ofKey key k claimed).length]? := by
  rw [claimFirst_head, ← hf k, List.getElem?_append_right (Nat.le_refl _), Nat.sub_self,
    List.head?_eq_getElem?]

variable [LawfulBEq κ]

/-- Only what was added is claimed. -/
theorem claimed_added (hf : Fifo key added claimed queue) (hmem : a ∈ claimed) : a ∈ added := by
  have hkeyed : a ∈ ofKey key (key a) claimed := mem_ofKey.mpr ⟨hmem, rfl⟩
  have hadded : a ∈ ofKey key (key a) added := by
    rw [← hf (key a)]
    exact List.mem_append_left _ hkeyed
  exact (mem_ofKey.mp hadded).1

theorem claim (hf : Fifo key added claimed queue) (hc : (claimFirst key k queue).1 = some a) :
    Fifo key added (claimed ++ [a]) (claimFirst key k queue).2 := by
  intro k'
  have ha := claimFirst_key hc
  by_cases hk : k' = k
  · subst hk
    rw [claimFirst_head] at hc
    rw [ofKey_snoc_self ha, claimFirst_self, ← hf k', List.append_assoc, List.singleton_append]
    rw [List.head?_eq_some_iff] at hc
    obtain ⟨rest, hrest⟩ := hc
    rw [hrest, List.tail_cons]
  · rw [ofKey_snoc_of_ne (by rw [ha]; exact Ne.symm hk), claimFirst_of_ne hk]
    exact hf k'

end Fifo

end Lib
