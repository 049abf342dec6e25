import NseFoExchangeSim.Protocol.ByteOrder

/-!
# Integers sent as doubles

An integer that is converted to a double, sent, and converted back is the nearest double, when that is
less than `2 ^ 64`.
-/

namespace NseFoExchangeSim.Protocol

open Lib Binary64

/-! ## The fields of a double -/

section Fields

variable (bits : DoubleBits)

theorem exponent_toNat : ((bits >>> 52) &&& 0x7ff).toNat = bits.toNat / 2 ^ 52 % 2 ^ 11 := by
  rw [UInt64.toNat_and, UInt64.toNat_shiftRight, Nat.shiftRight_eq_div_pow]
  exact Nat.and_two_pow_sub_one_eq_mod _ 11

theorem fraction_toNat : (bits &&& 0xfffffffffffff).toNat = bits.toNat % 2 ^ 52 := by
  rw [UInt64.toNat_and]
  exact Nat.and_two_pow_sub_one_eq_mod _ 52

theorem sign_eq_zero (h : bits.toNat < 2 ^ 63) : bits >>> 63 = 0 := by
  apply UInt64.toNat_inj.mp
  rw [UInt64.toNat_shiftRight, Nat.shiftRight_eq_div_pow]
  exact Nat.div_eq_of_lt h

end Fields

/-- The number a positive double of the two fields truncates to. -/
def magnitude (exponent fraction : Nat) : Nat :=
  if exponent < 1075 then (2 ^ 52 + fraction) / 2 ^ (1075 - exponent)
  else (2 ^ 52 + fraction) * 2 ^ (exponent - 1075)

/-- A positive double that is neither subnormal nor infinite truncates to its magnitude. -/
theorem truncToUInt64_of_fields {bits : DoubleBits} {exponent fraction : Nat}
    (hbits : bits.toNat = exponent * 2 ^ 52 + fraction) (hfraction : fraction < 2 ^ 52)
    (hpos : 0 < exponent) (hlt : exponent < 2047) (hne : magnitude exponent fraction ≠ 0) :
    truncToUInt64 bits =
      if magnitude exponent fraction < 2 ^ 64 then some (UInt64.ofNat (magnitude exponent fraction))
      else none := by
  have hexponent : ((bits >>> 52) &&& 0x7ff).toNat = exponent := by
    rw [exponent_toNat, hbits]
    omega
  have hfield : (bits &&& 0xfffffffffffff).toNat = fraction := by
    rw [fraction_toNat, hbits]
    omega
  have hsign : bits >>> 63 = 0 := sign_eq_zero bits (by omega)
  have hnonzero : exponent ≠ 0 := by omega
  have hfinite : exponent ≠ 0x7ff := by omega
  simp only [truncToUInt64, hexponent, hfield, hsign, hnonzero, hfinite, if_false]
  rw [← magnitude, if_neg hne]
  rfl

/-- The fields of the nearest double, from which it truncates to its value. -/
theorem encode_fields {n : Nat} (h0 : n ≠ 0) (hlog : n.log2 < 64) :
    ∃ exponent fraction, (encode n).toNat = exponent * 2 ^ 52 + fraction ∧ fraction < 2 ^ 52 ∧
      0 < exponent ∧ exponent < 2047 ∧ magnitude exponent fraction = nearest n := by
  have hbits := encode_toNat h0 (by omega)
  rcases Nat.lt_or_ge 52 n.log2 with hlong | hshort
  · obtain ⟨hs, hlow, hhigh⟩ := significand_long h0 hlong
    have hnearest : nearest n = significand n * 2 ^ (n.log2 - 52) := by
      rw [nearest, if_neg (by omega), hs]
    rcases Nat.lt_or_eq_of_le hhigh with hlt | hcarry
    · refine ⟨n.log2 + 1023, significand n - 2 ^ 52, hbits, by omega, by omega, by omega, ?_⟩
      have hshift : n.log2 + 1023 - 1075 = n.log2 - 52 := by omega
      rw [magnitude, if_neg (by omega), hnearest, Nat.add_sub_cancel' hlow, hshift]
    · -- the rounding carried out: the exponent is one more, and the fraction nothing
      refine ⟨n.log2 + 1024, 0, ?_, by omega, by omega, by omega, ?_⟩
      · rw [hbits, hcarry]
        omega
      · have hshift : 52 + (n.log2 + 1024 - 1075) = 53 + (n.log2 - 52) := by omega
        rw [magnitude, if_neg (by omega), hnearest, hcarry, Nat.add_zero, ← Nat.pow_add,
          ← Nat.pow_add, hshift]
  · obtain ⟨hs, hlow, hhigh⟩ := significand_short h0 hshort
    have hnearest : nearest n = n := if_pos hshort
    refine ⟨n.log2 + 1023, significand n - 2 ^ 52, hbits, by omega, by omega, by omega, ?_⟩
    rw [magnitude, hnearest, Nat.add_sub_cancel' hlow, hs]
    split
    · have hshift : 1075 - (n.log2 + 1023) = 52 - n.log2 := by omega
      rw [hshift, Nat.mul_div_cancel _ (Nat.two_pow_pos _)]
    · have hlast : n.log2 = 52 := by omega
      rw [hlast]
      simp

/-- What comes back of an integer that was converted to a double is the nearest double. -/
theorem truncToUInt64_uint64ToDouble (n : UInt64) :
    truncToUInt64 (uint64ToDouble n) =
      if nearest n.toNat < 2 ^ 64 then some (UInt64.ofNat (nearest n.toNat)) else none := by
  by_cases h0 : n.toNat = 0
  · have hn : n = 0 := UInt64.toNat_inj.mp h0
    rw [hn]
    rfl
  · have hlog : n.toNat.log2 < 64 := (Nat.log2_lt h0).mpr n.toNat_lt
    obtain ⟨exponent, fraction, hbits, hfraction, hpos, hlt, hvalue⟩ := encode_fields h0 hlog
    have hne : magnitude exponent fraction ≠ 0 := by
      rw [hvalue]
      exact fun hzero => h0 (nearest_eq_zero_iff.mp hzero)
    have htrunc := @truncToUInt64_of_fields (uint64ToDouble n) _ _ hbits hfraction hpos hlt hne
    rwa [hvalue] at htrunc

/-- An integer comes back from the wire, whatever is made of a double out of range, exactly when its
significant bits fit into a double. -/
theorem wire_round_trip_iff (n : UInt64) :
    (∀ outOfRange : DoubleBits → UInt64,
      (truncToUInt64 (wireToHostDouble (hostToWireDouble (uint64ToDouble n)))).getD
        (outOfRange (wireToHostDouble (hostToWireDouble (uint64ToDouble n)))) = n) ↔
      IsDouble n.toNat := by
  have hback : wireToHostDouble (hostToWireDouble (uint64ToDouble n)) = uint64ToDouble n :=
    byteswap_byteswap _
  rw [hback, truncToUInt64_uint64ToDouble, ← nearest_eq_iff]
  constructor
  · intro hall
    split at hall
    · rename_i hlt
      have heq : UInt64.ofNat (nearest n.toNat) = n := hall fun _ => 0
      rw [← UInt64.toNat_ofNat_of_lt' hlt, heq]
    · -- out of range, anything may come back, and so something else too
      have hzero : (0 : UInt64) = n := hall fun _ => 0
      have hone : (1 : UInt64) = n := hall fun _ => 1
      rw [← hzero] at hone
      cases hone
  · intro heq outOfRange
    rw [heq, if_pos n.toNat_lt, Option.getD_some, UInt64.ofNat_toNat]

end NseFoExchangeSim.Protocol
