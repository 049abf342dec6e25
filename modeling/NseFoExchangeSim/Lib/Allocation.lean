import Mathlib.Algebra.BigOperators.Group.List.Basic
import Mathlib.Algebra.Ring.Nat
import Mathlib.Data.List.Forall2
import Mathlib.Logic.Function.Basic
import Mathlib.Tactic.Common

/-!
# Greedy allocation

A quantity is given out over a list of items, each asking for its demand: an item gets what it asks
for as far as the quantity reaches. `serve` does this for several pools in one pass over the list, as a
loop with one running quantity a pool does; seen from one pool it is `greedy` on the pool's own items.
-/

namespace Lib

universe u v

variable {ι : Type u} {P : Type v}

/-- The items that get something, with what they get. -/
def greedy (demand : ι → Nat) : Nat → List ι → List (ι × Nat)
  | _, [] => []
  | q, x :: xs =>
      if min (demand x) q = 0 then greedy demand q xs
      else (x, min (demand x) q) :: greedy demand (q - min (demand x) q) xs

/-- One pass over items that draw on different pools; an item without a pool gets nothing. -/
def serve [DecidableEq P] (pool : ι → Option P) (demand : ι → Nat) :
    (P → Nat) → List ι → List (ι × Nat)
  | _, [] => []
  | q, x :: xs =>
      match pool x with
      | none => serve pool demand q xs
      | some p =>
          if min (demand x) (q p) = 0 then serve pool demand q xs
          else
            (x, min (demand x) (q p)) ::
              serve pool demand (Function.update q p (q p - min (demand x) (q p))) xs

/-! ## One quantity -/

section Greedy

variable (demand : ι → Nat)

@[simp] theorem greedy_zero (xs : List ι) : greedy demand 0 xs = [] := by
  induction xs with
  | nil => rfl
  | cons x xs ih => simp [greedy, ih]

/-- All that is given out is the quantity or the whole demand, whichever is less. -/
theorem greedy_sum (q : Nat) (xs : List ι) :
    ((greedy demand q xs).map Prod.snd).sum = min q (xs.map demand).sum := by
  induction xs generalizing q with
  | nil => simp [greedy]
  | cons x xs ih =>
      simp only [greedy, List.map_cons, List.sum_cons]
      split
      · rw [ih]; omega
      · simp only [List.map_cons, List.sum_cons, ih]; omega

variable {demand} {q : Nat} {xs : List ι}

theorem mem_greedy {r : ι × Nat} (h : r ∈ greedy demand q xs) :
    r.1 ∈ xs ∧ 0 < r.2 ∧ r.2 ≤ demand r.1 ∧ r.2 ≤ q := by
  induction xs generalizing q with
  | nil => simp [greedy] at h
  | cons x xs ih =>
      simp only [greedy] at h
      split at h
      · obtain ⟨hmem, hpos, hd, hq⟩ := ih h
        exact ⟨List.mem_cons_of_mem _ hmem, hpos, hd, hq⟩
      · rcases List.mem_cons.mp h with rfl | h
        · exact ⟨List.mem_cons_self, by omega, Nat.min_le_left _ _, Nat.min_le_right _ _⟩
        · obtain ⟨hmem, hpos, hd, hq⟩ := ih h
          exact ⟨List.mem_cons_of_mem _ hmem, hpos, hd, by omega⟩

/-- A greedy allocation leaves something of every item it serves exactly when it serves the first item
only, and that one in part. -/
theorem greedy_leaves {P : ι → Prop} (quantity : Nat) (hpos : ∀ x ∈ xs, 0 < demand x) :
    (∀ r ∈ greedy demand quantity xs, P r.1 ∧ r.2 < demand r.1) ↔
      ∀ x, xs.head? = some x → 0 < quantity → P x ∧ quantity < demand x := by
  cases xs with
  | nil => simp [greedy]
  | cons x xs =>
      have hx := hpos x List.mem_cons_self
      simp only [List.head?_cons, Option.some.injEq, forall_eq']
      rcases Nat.eq_zero_or_pos quantity with rfl | hq
      · simp
      · rw [greedy, if_neg (by omega)]
        rcases Nat.lt_or_ge quantity (demand x) with hlt | hge
        · rw [Nat.min_eq_right (by omega), Nat.sub_self, greedy_zero]
          simp [hq]
        · rw [Nat.min_eq_left hge]
          refine iff_of_false (fun hall => ?_) fun hc => ?_
          · exact Nat.lt_irrefl _ (hall _ List.mem_cons_self).2
          · exact absurd (hc hq).2 (by omega)

end Greedy

/-! ## Several pools -/

section Serve

variable [DecidableEq P] {pool : ι → Option P} {demand : ι → Nat}

/-- Seen from one pool, the pass is the greedy allocation over the pool's own items. -/
theorem serve_pool (q : P → Nat) (xs : List ι) (p : P) :
    (serve pool demand q xs).filter (fun r => pool r.1 = some p) =
      greedy demand (q p) (xs.filter fun x => pool x = some p) := by
  induction xs generalizing q with
  | nil => rfl
  | cons x xs ih =>
      simp only [serve]
      split
      · rename_i hx
        rw [ih]; simp [hx]
      · rename_i p' hx
        split
        · rename_i h0
          rw [ih]
          by_cases hp : p' = p
          · subst hp; simp [hx, greedy, h0]
          · simp [hx, hp]
        · rename_i h0
          rw [List.filter_cons, ih]
          by_cases hp : p' = p
          · subst hp; simp [hx, greedy, h0]
          · simp [hx, hp, Function.update_of_ne (Ne.symm hp)]

theorem mem_serve {q : P → Nat} {xs : List ι} {r : ι × Nat} (h : r ∈ serve pool demand q xs) :
    ∃ p, pool r.1 = some p ∧ r.1 ∈ xs ∧ 0 < r.2 ∧ r.2 ≤ demand r.1 ∧ r.2 ≤ q p := by
  have hpool : ∃ p, pool r.1 = some p := by
    induction xs generalizing q with
    | nil => simp [serve] at h
    | cons x xs ih =>
        simp only [serve] at h
        split at h
        · exact ih h
        · rename_i p hx
          split at h
          · exact ih h
          · rcases List.mem_cons.mp h with rfl | h
            · exact ⟨p, hx⟩
            · exact ih h
  obtain ⟨p, hp⟩ := hpool
  have hin : r ∈ greedy demand (q p) (xs.filter fun x => pool x = some p) := by
    rw [← serve_pool]
    exact List.mem_filter.mpr ⟨h, by simp [hp]⟩
  obtain ⟨hmem, hpos, hd, hq⟩ := mem_greedy hin
  exact ⟨p, hp, (List.mem_filter.mp hmem).1, hpos, hd, hq⟩

/-- The pass looks at the pool and the demand of an item only. -/
theorem serve_map {f : ι → ι} (q : P → Nat) (hpool : ∀ x, pool (f x) = pool x)
    (hdemand : ∀ x, demand (f x) = demand x) (xs : List ι) :
    serve pool demand q (xs.map f) = (serve pool demand q xs).map fun r => (f r.1, r.2) := by
  induction xs generalizing q with
  | nil => rfl
  | cons x xs ih =>
      rw [List.map_cons, serve, serve, hpool, hdemand]
      split
      · exact ih q
      · split
        · exact ih q
        · rw [List.map_cons, ih]

theorem serve_sublist (q : P → Nat) (xs : List ι) :
    ((serve pool demand q xs).map Prod.fst).Sublist xs := by
  induction xs generalizing q with
  | nil => exact .refl _
  | cons x xs ih =>
      simp only [serve]
      split
      · exact (ih q).cons x
      · split
        · exact (ih q).cons x
        · exact (ih _).cons_cons x

end Serve

/-! ## Two lists item by item -/

section Forall

variable {κ : Type v} {γ : Type*} {R : ι → κ → Prop} {xs : List ι} {ys : List κ}

theorem exists_of_forall₂ (h : List.Forall₂ R xs ys) {y : κ} (hy : y ∈ ys) : ∃ x ∈ xs, R x y := by
  induction h with
  | nil => cases hy
  | cons hr _ ih =>
      rcases List.mem_cons.mp hy with rfl | hy
      · exact ⟨_, List.mem_cons_self, hr⟩
      · obtain ⟨x, hx, hr⟩ := ih hy
        exact ⟨x, List.mem_cons_of_mem _ hx, hr⟩

theorem map_eq_of_forall₂ {f : ι → γ} {g : κ → γ} (h : List.Forall₂ R xs ys)
    (hfg : ∀ x y, R x y → f x = g y) : xs.map f = ys.map g := by
  induction h with
  | nil => rfl
  | cons hr _ ih => rw [List.map_cons, List.map_cons, hfg _ _ hr, ih]

end Forall

end Lib
