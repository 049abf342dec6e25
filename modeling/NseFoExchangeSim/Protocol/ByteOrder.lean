import Mathlib.Tactic.IntervalCases
import NseFoExchangeSim.Protocol.Wire

/-!
# Byte order

`byteswap` moves the bytes of an integer to the opposite places, and so undoes itself: what a client
writes in network order is what the simulator reads.
-/

namespace NseFoExchangeSim.Protocol

/-- Byte orders that are read back as they were written. -/
class LawfulByteSwap (α : Type) [ByteSwap α] : Prop where
  byteswap_byteswap : ∀ x : α, byteswap (byteswap x) = x

@[simp] theorem byteswap_byteswap {α : Type} [ByteSwap α] [LawfulByteSwap α] (x : α) :
    byteswap (byteswap x) = x := LawfulByteSwap.byteswap_byteswap x

@[simp] theorem byteswap16_zero : byteswap (0 : UInt16) = 0 := rfl

@[simp] theorem byteswap32_zero : byteswap (0 : UInt32) = 0 := rfl

theorem getLsbD_byteswap16 (x : UInt16) (i : Nat) (hi : i < 16) :
    (byteswap x).toBitVec.getLsbD i = x.toBitVec.getLsbD (8 - 8 * (i / 8) + i % 8) := by
  simp only [byteswap, UInt16.toBitVec_or, UInt16.toBitVec_shiftLeft, UInt16.toBitVec_shiftRight]
  interval_cases i <;> simp

theorem getLsbD_byteswap32 (x : UInt32) (i : Nat) (hi : i < 32) :
    (byteswap x).toBitVec.getLsbD i = x.toBitVec.getLsbD (24 - 8 * (i / 8) + i % 8) := by
  simp only [byteswap, UInt32.toBitVec_or, UInt32.toBitVec_shiftLeft, UInt32.toBitVec_shiftRight,
    UInt32.toBitVec_and]
  interval_cases i <;> simp

theorem getLsbD_byteswap64 (x : UInt64) (i : Nat) (hi : i < 64) :
    (byteswap x).toBitVec.getLsbD i = x.toBitVec.getLsbD (56 - 8 * (i / 8) + i % 8) := by
  simp only [byteswap, UInt64.toBitVec_or, UInt64.toBitVec_shiftLeft, UInt64.toBitVec_shiftRight,
    UInt64.toBitVec_and]
  interval_cases i <;> simp

instance : LawfulByteSwap UInt16 where
  byteswap_byteswap x := by
    apply UInt16.toBitVec_inj.mp
    apply BitVec.eq_of_getLsbD_eq
    intro i hi
    rw [getLsbD_byteswap16 _ i hi, getLsbD_byteswap16 _ _ (by omega)]
    congr 1
    omega

instance : LawfulByteSwap UInt32 where
  byteswap_byteswap x := by
    apply UInt32.toBitVec_inj.mp
    apply BitVec.eq_of_getLsbD_eq
    intro i hi
    rw [getLsbD_byteswap32 _ i hi, getLsbD_byteswap32 _ _ (by omega)]
    congr 1
    omega

instance : LawfulByteSwap UInt64 where
  byteswap_byteswap x := by
    apply UInt64.toBitVec_inj.mp
    apply BitVec.eq_of_getLsbD_eq
    intro i hi
    rw [getLsbD_byteswap64 _ i hi, getLsbD_byteswap64 _ _ (by omega)]
    congr 1
    omega

end NseFoExchangeSim.Protocol
