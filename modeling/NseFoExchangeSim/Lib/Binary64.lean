import Mathlib.Algebra.Order.Ring.Nat
import Mathlib.Data.UInt
import Mathlib.Tactic.Ring

/-!
# Natural numbers as doubles

The IEEE 754 binary64 number a natural number is converted to: the nearest one, a tie going to the even
significand. A natural number survives the conversion exactly when its significant bits fit into 53.
-/

namespace Lib.Binary64

/-- `n / 2 ^ k` rounded to the nearest integer, a tie to the even one. -/
def roundQuotient (n k : Nat) : Nat :=
  if 2 * (n % 2 ^ k) < 2 ^ k then n / 2 ^ k
  else if 2 ^ k < 2 * (n % 2 ^ k) then n / 2 ^ k + 1
  else n / 2 ^ k + n / 2 ^ k % 2

/-- The significand of the nearest double, in units of `2 ^ (n.log2 - 52)`. It is `2 ^ 53` when the
rounding carries out of its 53 bits. -/
def significand (n : Nat) : Nat :=
  if n.log2 ≤ 52 then n * 2 ^ (52 - n.log2) else roundQuotient n (n.log2 - 52)

/-- The value of the nearest double. -/
def nearest (n : Nat) : Nat :=
  if n.log2 ≤ 52 then n else roundQuotient n (n.log2 - 52) * 2 ^ (n.log2 - 52)

/-- The bits of the nearest double: the biased exponent, and the significand without its first bit. A
significand that carries out steps the exponent up. -/
def encode (n : Nat) : UInt64 :=
  if n = 0 then 0 else UInt64.ofNat ((n.log2 + 1023) * 2 ^ 52 + (significand n - 2 ^ 52))

/-- The significant bits of the number fit into a double. -/
def IsDouble (n : Nat) : Prop := ∃ m e, m < 2 ^ 53 ∧ n = m * 2 ^ e

variable {n k : Nat}

/-! ## Rounding -/

theorem roundQuotient_cases (n k : Nat) :
    roundQuotient n k = n / 2 ^ k ∨ roundQuotient n k = n / 2 ^ k + 1 := by
  unfold roundQuotient
  split
  · exact .inl rfl
  · split
    · exact .inr rfl
    · omega

theorem roundQuotient_exact (h : 2 ^ k ∣ n) : roundQuotient n k = n / 2 ^ k := by
  rw [roundQuotient, Nat.mod_eq_zero_of_dvd h, if_pos (by simp)]

/-- Rounding gives the number back exactly when there was nothing to round. -/
theorem roundQuotient_mul_eq_iff : roundQuotient n k * 2 ^ k = n ↔ 2 ^ k ∣ n := by
  refine ⟨fun h => ⟨_, by rw [Nat.mul_comm]; exact h.symm⟩, fun h => ?_⟩
  rw [roundQuotient_exact h, Nat.div_mul_cancel h]

theorem log2_bounds (h0 : n ≠ 0) : 2 ^ n.log2 ≤ n ∧ n < 2 ^ (n.log2 + 1) :=
  ⟨Nat.log2_self_le h0, Nat.lt_log2_self⟩

theorem pow_split {a b c : Nat} (h : a = b + c) : 2 ^ a = 2 ^ b * 2 ^ c := by rw [h, Nat.pow_add]

theorem significand_short (h0 : n ≠ 0) (h : n.log2 ≤ 52) :
    significand n = n * 2 ^ (52 - n.log2) ∧ 2 ^ 52 ≤ significand n ∧ significand n < 2 ^ 53 := by
  obtain ⟨hlow, hhigh⟩ := log2_bounds h0
  have hs : significand n = n * 2 ^ (52 - n.log2) := if_pos h
  refine ⟨hs, ?_, ?_⟩
  · rw [hs, pow_split (show 52 = n.log2 + (52 - n.log2) by omega)]
    exact Nat.mul_le_mul_right _ hlow
  · rw [hs, pow_split (show 53 = n.log2 + 1 + (52 - n.log2) by omega)]
    exact Nat.mul_lt_mul_of_pos_right hhigh (Nat.two_pow_pos _)

theorem significand_long (h0 : n ≠ 0) (h : 52 < n.log2) :
    significand n = roundQuotient n (n.log2 - 52) ∧ 2 ^ 52 ≤ significand n ∧
      significand n ≤ 2 ^ 53 := by
  obtain ⟨hlow, hhigh⟩ := log2_bounds h0
  have hs : significand n = roundQuotient n (n.log2 - 52) := if_neg (by omega)
  have hq : 2 ^ 52 ≤ n / 2 ^ (n.log2 - 52) := by
    rw [Nat.le_div_iff_mul_le (Nat.two_pow_pos _), ← pow_split (show n.log2 = 52 + _ by omega)]
    exact hlow
  have hq' : n / 2 ^ (n.log2 - 52) < 2 ^ 53 := by
    rw [Nat.div_lt_iff_lt_mul (Nat.two_pow_pos _), ← pow_split (show n.log2 + 1 = 53 + _ by omega)]
    exact hhigh
  refine ⟨hs, ?_, ?_⟩
  · rcases roundQuotient_cases n (n.log2 - 52) with hr | hr
    · rw [hs, hr]; exact hq
    · rw [hs, hr]; omega
  · rcases roundQuotient_cases n (n.log2 - 52) with hr | hr
    · rw [hs, hr]; omega
    · rw [hs, hr]; omega

theorem encode_toNat (h0 : n ≠ 0) (hlog : n.log2 < 1023) :
    (encode n).toNat = (n.log2 + 1023) * 2 ^ 52 + (significand n - 2 ^ 52) := by
  have hs : significand n ≤ 2 ^ 53 := by
    rcases Nat.lt_or_ge 52 n.log2 with hlong | hshort
    · exact (significand_long h0 hlong).2.2
    · exact Nat.le_of_lt (significand_short h0 hshort).2.2
  have hbits : (n.log2 + 1023) * 2 ^ 52 + (significand n - 2 ^ 52) < 2 ^ 64 := by omega
  rw [encode, if_neg h0]
  exact UInt64.toNat_ofNat_of_lt' hbits

theorem nearest_eq_zero_iff : nearest n = 0 ↔ n = 0 := by
  refine ⟨fun h => ?_, fun h => by rw [h]; rfl⟩
  by_contra h0
  unfold nearest at h
  split at h
  · exact h0 h
  · rename_i hlong
    obtain ⟨hs, hlow, -⟩ := significand_long h0 (by omega)
    rw [← hs] at h
    have hpos : 0 < significand n * 2 ^ (n.log2 - 52) :=
      Nat.mul_pos (by omega) (Nat.two_pow_pos _)
    omega

/-- A number is its own nearest double exactly when it is one. -/
theorem nearest_eq_iff : nearest n = n ↔ IsDouble n := by
  by_cases h0 : n = 0
  · subst h0
    exact iff_of_true rfl ⟨0, 0, by decide, rfl⟩
  obtain ⟨hlow, hhigh⟩ := log2_bounds h0
  unfold nearest
  split
  · rename_i hshort
    refine iff_of_true rfl ⟨n, 0, ?_, by simp⟩
    exact Nat.lt_of_lt_of_le hhigh (Nat.pow_le_pow_right (by decide) (by omega))
  · rename_i hlong
    rw [roundQuotient_mul_eq_iff]
    constructor
    · rintro ⟨m, hm⟩
      refine ⟨m, n.log2 - 52, ?_, by rw [Nat.mul_comm]; exact hm⟩
      have hlt : 2 ^ (n.log2 - 52) * m < 2 ^ (n.log2 - 52) * 2 ^ 53 := by
        rw [← hm, ← pow_split (show n.log2 + 1 = _ + 53 by omega)]
        exact hhigh
      exact Nat.lt_of_mul_lt_mul_left hlt
    · rintro ⟨m, e, hm, rfl⟩
      refine (Nat.pow_dvd_pow 2 ?_).trans (Nat.dvd_mul_left _ _)
      -- otherwise the number would have fewer bits than it has
      by_contra hlt
      have hsmall : m * 2 ^ e < 2 ^ (53 + e) := by
        rw [Nat.pow_add]
        exact Nat.mul_lt_mul_of_pos_right hm (Nat.two_pow_pos _)
      have hle : 2 ^ (53 + e) ≤ 2 ^ (m * 2 ^ e).log2 := Nat.pow_le_pow_right (by decide) (by omega)
      omega

theorem isDouble_of_le (h : n ≤ 2 ^ 53) : IsDouble n := by
  rcases Nat.lt_or_eq_of_le h with hlt | heq
  · exact ⟨n, 0, hlt, by simp⟩
  · exact ⟨1, 53, by decide, by simp [heq]⟩

/-- Past `2 ^ 53` the odd numbers are no doubles. -/
theorem not_isDouble_of_odd (hodd : n % 2 = 1) (h : 2 ^ 53 < n) : ¬IsDouble n := by
  rintro ⟨m, e, hm, rfl⟩
  cases e with
  | zero => omega
  | succ e =>
      rw [Nat.pow_succ, ← Nat.mul_assoc, Nat.mul_mod_left] at hodd
      cases hodd

/-- Of the numbers a 64-bit counter gives out, as many as there are from its start to `2 ^ 53` are doubles.
If it gives out more, they are all doubles only if there is just one of them. -/
theorem counted_isDouble_iff {start count : Nat} (h : start < 2 ^ 64) :
    (∀ i < count, IsDouble ((start + i) % 2 ^ 64)) ↔
      count = 0 ∨ (count = 1 ∧ IsDouble start) ∨ start + count ≤ 2 ^ 53 + 1 := by
  constructor
  · intro hall
    by_contra hno
    obtain ⟨hcount, hone, hmore⟩ : count ≠ 0 ∧ ¬(count = 1 ∧ IsDouble start) ∧
        2 ^ 53 + 1 < start + count := by
      simpa only [not_or, Nat.not_le] using hno
    by_cases hsingle : count = 1
    · have hfirst := hall 0 (by omega)
      rw [Nat.add_zero, Nat.mod_eq_of_lt h] at hfirst
      exact hone ⟨hsingle, hfirst⟩
    · -- an odd number past `2 ^ 53` is among the first ones
      obtain ⟨i, hi, hodd, hbig⟩ : ∃ i < count, (start + i) % 2 ^ 64 % 2 = 1 ∧
          2 ^ 53 < (start + i) % 2 ^ 64 := by
        rcases Nat.lt_or_ge (2 ^ 53) start with hlarge | hsmall
        · refine ⟨(start + 1) % 2, ?_, ?_, ?_⟩
          · omega
          · omega
          · omega
        · refine ⟨2 ^ 53 + 1 - start, ?_, ?_, ?_⟩
          · omega
          · omega
          · omega
      exact not_isDouble_of_odd hodd hbig (hall i hi)
  · rintro (rfl | ⟨rfl, hstart⟩ | hle) i hi
    · omega
    · obtain rfl : i = 0 := by omega
      rwa [Nat.add_zero, Nat.mod_eq_of_lt h]
    · apply isDouble_of_le
      rw [Nat.mod_eq_of_lt (by omega)]
      omega

end Lib.Binary64
