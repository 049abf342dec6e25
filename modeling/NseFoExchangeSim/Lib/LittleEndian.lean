import Mathlib.Data.UInt

/-!
# Integers in memory

An unsigned integer as the bytes a little-endian machine stores it in, and back.
-/

namespace Lib

/-- The integer of the given size at an offset. -/
def loadLittleEndian (size : Nat) (data : List UInt8) (offset : Nat) : Nat :=
  ((data.drop offset).take size).foldr (fun byte value => byte.toNat + 256 * value) 0

def storeLittleEndian : Nat → Nat → List UInt8
  | 0, _ => []
  | size + 1, value => value.toUInt8 :: storeLittleEndian size (value / 256)

@[simp] theorem length_storeLittleEndian {size value : Nat} :
    (storeLittleEndian size value).length = size := by
  induction size generalizing value with
  | zero => rfl
  | succ size ih => simp [storeLittleEndian, ih]

theorem loadLittleEndian_store {size value offset : Nat} {before after : List UInt8}
    (hoffset : before.length = offset) :
    loadLittleEndian size (before ++ (storeLittleEndian size value ++ after)) offset =
      value % 256 ^ size := by
  subst hoffset
  rw [loadLittleEndian, List.drop_left, List.take_left' length_storeLittleEndian]
  clear before after
  induction size generalizing value with
  | zero => simp [storeLittleEndian, Nat.mod_one]
  | succ size ih =>
      rw [storeLittleEndian, List.foldr_cons, ih, Nat.pow_succ', Nat.mod_mul]
      rfl

theorem loadLittleEndian_store_of_lt {size value offset : Nat} {before after : List UInt8}
    (hoffset : before.length = offset) (hvalue : value < 256 ^ size) :
    loadLittleEndian size (before ++ (storeLittleEndian size value ++ after)) offset = value := by
  rw [loadLittleEndian_store hoffset, Nat.mod_eq_of_lt hvalue]

/-- Only the bytes of the integer are read. -/
theorem loadLittleEndian_take {size offset count : Nat} {data : List UInt8}
    (h : offset + size ≤ count) :
    loadLittleEndian size (data.take count) offset = loadLittleEndian size data offset := by
  rw [loadLittleEndian, List.drop_take, List.take_take, Nat.min_eq_left (by omega)]
  rfl

end Lib
