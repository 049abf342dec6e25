import Mathlib.Data.UInt
import Mathlib.Data.List.Nodup
import Mathlib.Data.Nat.ModEq

/-!
# Counters

The numbers a 64-bit counter draws before it comes round, and the labels a counter of any width hands
out one after the other.
-/

namespace Lib

def drawn (start : UInt64) (i : Nat) : UInt64 := start + UInt64.ofNat i

theorem drawn_succ (start : UInt64) (i : Nat) : drawn start (i + 1) = drawn start i + 1 := by
  rw [drawn, drawn, UInt64.ofNat_add, UInt64.add_assoc]
  rfl

theorem drawn_inj {start : UInt64} {i j : Nat} (hi : i < 2 ^ 64) (hj : j < 2 ^ 64)
    (he : drawn start i = drawn start j) : i = j := by
  have hnat : UInt64.ofNat i = UInt64.ofNat j := (UInt64.add_right_inj _).mp he
  have hmod := congrArg UInt64.toNat hnat
  rw [UInt64.toNat_ofNat_of_lt' hi, UInt64.toNat_ofNat_of_lt' hj] at hmod
  exact hmod

/-! ## Labels -/

section Labels

universe u

variable {α : Type u} [Add α] [OfNat α 1]

/-- A counter that stands at the first value hands out the labels and then stands at the last. -/
inductive Draws : α → List α → α → Prop
  | nil {c} : Draws c [] c
  | cons {c labels c'} : Draws (c + 1) labels c' → Draws c (c :: labels) c'

variable {c c' c'' : α} {labels labels' : List α}

theorem Draws.one (c : α) : Draws c [c] (c + 1) := .cons .nil

theorem Draws.append (hd : Draws c labels c') (hd' : Draws c' labels' c'') :
    Draws c (labels ++ labels') c'' := by
  induction hd with
  | nil => exact hd'
  | cons _ ih => exact .cons (ih hd')

/-- Where a counter stands is a matter of how many labels it has handed out. -/
theorem Draws.next_eq (hd : Draws c labels c') (hd' : Draws c labels' c'')
    (hlen : labels.length = labels'.length) : c' = c'' := by
  induction hd generalizing labels' with
  | nil =>
      cases hd' with
      | nil => rfl
      | cons _ => cases hlen
  | cons _ ih =>
      cases hd' with
      | nil => cases hlen
      | cons hd' => exact ih hd' (Nat.succ.inj hlen)

variable {toNat : α → Nat} {m : Nat} (hlt : ∀ c, toNat c < m)
  (hsucc : ∀ c, toNat (c + 1) = (toNat c + 1) % m)
include hlt hsucc

/-- A counter that comes round at `m` hands out consecutive numbers modulo `m`. -/
theorem Draws.map_toNat (hd : Draws c labels c') :
    labels.map toNat = (List.range labels.length).map (fun k => (toNat c + k) % m) ∧
      toNat c' = (toNat c + labels.length) % m := by
  induction hd with
  | @nil c => simp [Nat.mod_eq_of_lt (hlt c)]
  | @cons c labels c' _ ih =>
      have hshift : ∀ k, (toNat (c + 1) + k) % m = (toNat c + (k + 1)) % m := by
        intro k
        rw [hsucc, Nat.mod_add_mod, Nat.add_assoc, Nat.add_comm 1 k]
      refine ⟨?_, ?_⟩
      · rw [List.map_cons, ih.1, List.length_cons, List.range_succ_eq_map, List.map_cons, List.map_map,
          Nat.add_zero, Nat.mod_eq_of_lt (hlt c)]
        exact congrArg _ (List.map_congr_left fun k _ => hshift k)
      · rw [ih.2, hshift, List.length_cons]

/-- It repeats no label before it comes round. -/
theorem Draws.nodup (hd : Draws c labels c') (hle : labels.length ≤ m) : labels.Nodup := by
  apply List.Nodup.of_map toNat
  rw [(Draws.map_toNat hlt hsucc hd).1]
  refine List.nodup_range.map_on fun i hi j hj he => ?_
  rw [List.mem_range] at hi hj
  have hmod : i % m = j % m := Nat.ModEq.add_left_cancel' (toNat c) he
  rwa [Nat.mod_eq_of_lt (by omega), Nat.mod_eq_of_lt (by omega)] at hmod

/-- Its labels increase as long as it does not come round. -/
theorem Draws.increasing (hd : Draws c labels c') (hle : toNat c + labels.length ≤ m) :
    (labels.map toNat).Pairwise (· < ·) := by
  have hplain : labels.map toNat = (List.range labels.length).map (fun k => toNat c + k) := by
    rw [(Draws.map_toNat hlt hsucc hd).1]
    refine List.map_congr_left fun k hk => Nat.mod_eq_of_lt ?_
    rw [List.mem_range] at hk
    omega
  rw [hplain, List.pairwise_map]
  exact List.pairwise_lt_range.imp fun hij => Nat.add_lt_add_left hij _

end Labels

end Lib
