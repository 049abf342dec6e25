import NseFoExchangeSim.Protocol.Layout

/-!
# Loading what was stored

A field is loaded from the bytes of a structure by passing over the fields before it, one after the
other, until it stands in front.
-/

namespace NseFoExchangeSim.Protocol

open Lib

variable {before after bytes : List UInt8} {offset : Nat}

/-! ## Passing over a field -/

theorem loadLittleEndian_skip {size : Nat} (h : before.length ≤ offset) :
    loadLittleEndian size (before ++ after) offset =
      loadLittleEndian size after (offset - before.length) := by
  rw [loadLittleEndian, loadLittleEndian, List.drop_append, List.drop_of_length_le h,
    List.nil_append]

theorem load16_skip (h : before.length ≤ offset) :
    load16 (before ++ after) offset = load16 after (offset - before.length) := by
  rw [load16, load16, loadLittleEndian_skip h]

theorem load32_skip (h : before.length ≤ offset) :
    load32 (before ++ after) offset = load32 after (offset - before.length) := by
  rw [load32, load32, loadLittleEndian_skip h]

theorem load64_skip (h : before.length ≤ offset) :
    load64 (before ++ after) offset = load64 after (offset - before.length) := by
  rw [load64, load64, loadLittleEndian_skip h]

theorem loadArray_skip {size : Nat} (h : before.length ≤ offset) :
    loadArray size (before ++ after) offset = loadArray size after (offset - before.length) := by
  rw [loadArray, loadArray]
  congr 1
  funext i
  rw [List.getD_eq_getElem?_getD, List.getD_eq_getElem?_getD,
    List.getElem?_append_right (Nat.le_add_right_of_le h), Nat.sub_add_comm h]

theorem ContractDescTr.ofBytes_skip (h : before.length ≤ offset) :
    ContractDescTr.ofBytes (before ++ after) offset =
      ContractDescTr.ofBytes after (offset - before.length) := by
  have hadd : ∀ n, offset + n - before.length = offset - before.length + n := fun n => by omega
  simp only [ContractDescTr.ofBytes, loadArray_skip h,
    loadArray_skip (Nat.le_add_right_of_le h), load32_skip (Nat.le_add_right_of_le h), hadd]

/-! ## A beginning of the bytes -/

section Take

variable {count : Nat}

theorem load16_take (h : offset + 2 ≤ count) : load16 (bytes.take count) offset = load16 bytes offset := by
  rw [load16, load16, loadLittleEndian_take h]

theorem load32_take (h : offset + 4 ≤ count) : load32 (bytes.take count) offset = load32 bytes offset := by
  rw [load32, load32, loadLittleEndian_take h]

theorem loadArray_take {size : Nat} (h : offset + size ≤ count) :
    loadArray size (bytes.take count) offset = loadArray size bytes offset := by
  rw [loadArray, loadArray]
  congr 1
  funext i
  rw [List.getD_eq_getElem?_getD, List.getD_eq_getElem?_getD,
    List.getElem?_take_of_lt (by omega)]

end Take

/-! ## Passing over a byte -/

section Byte

variable {byte : UInt8}

theorem load16_succ : load16 (byte :: after) (offset + 1) = load16 after offset :=
  @load16_skip [byte] after _ (Nat.le_add_left 1 offset)

theorem load32_succ : load32 (byte :: after) (offset + 1) = load32 after offset :=
  @load32_skip [byte] after _ (Nat.le_add_left 1 offset)

theorem load64_succ : load64 (byte :: after) (offset + 1) = load64 after offset :=
  @load64_skip [byte] after _ (Nat.le_add_left 1 offset)

theorem loadArray_succ {size : Nat} :
    loadArray size (byte :: after) (offset + 1) = loadArray size after offset :=
  @loadArray_skip [byte] after _ _ (Nat.le_add_left 1 offset)

theorem ContractDescTr.ofBytes_succ :
    ContractDescTr.ofBytes (byte :: after) (offset + 1) = ContractDescTr.ofBytes after offset :=
  @ContractDescTr.ofBytes_skip [byte] after _ (Nat.le_add_left 1 offset)

end Byte

/-! ## The field in front -/

@[simp] theorem load16_store (value : UInt16) : load16 (store16 value ++ after) 0 = value := by
  have hlt : value.toNat < 256 ^ 2 := value.toNat_lt
  have hload := @loadLittleEndian_store_of_lt 2 value.toNat 0 [] after rfl hlt
  rw [List.nil_append] at hload
  rw [load16, store16, hload]
  exact UInt16.ofNat_toNat

@[simp] theorem load32_store (value : UInt32) : load32 (store32 value ++ after) 0 = value := by
  have hlt : value.toNat < 256 ^ 4 := value.toNat_lt
  have hload := @loadLittleEndian_store_of_lt 4 value.toNat 0 [] after rfl hlt
  rw [List.nil_append] at hload
  rw [load32, store32, hload]
  exact UInt32.ofNat_toNat

@[simp] theorem load64_store (value : UInt64) : load64 (store64 value ++ after) 0 = value := by
  have hlt : value.toNat < 256 ^ 8 := value.toNat_lt
  have hload := @loadLittleEndian_store_of_lt 8 value.toNat 0 [] after rfl hlt
  rw [List.nil_append] at hload
  rw [load64, store64, hload]
  exact UInt64.ofNat_toNat

@[simp] theorem load16_store_last (value : UInt16) : load16 (store16 value) 0 = value := by
  rw [← List.append_nil (store16 value), load16_store]

@[simp] theorem load64_store_last (value : UInt64) : load64 (store64 value) 0 = value := by
  rw [← List.append_nil (store64 value), load64_store]

@[simp] theorem loadArray_toList {size : Nat} (array : Vector UInt8 size) :
    loadArray size (array.toList ++ after) 0 = array := by
  apply Vector.ext
  intro i hi
  rw [loadArray, Vector.getElem_ofFn, List.getD_eq_getElem?_getD, Nat.zero_add,
    List.getElem?_append_left (by simpa using hi), List.getElem?_eq_getElem (by simpa using hi)]
  rfl

@[simp] theorem loadArray_toList_last {size : Nat} (array : Vector UInt8 size) :
    loadArray size array.toList 0 = array := by
  rw [← List.append_nil array.toList, loadArray_toList]

@[simp] theorem ContractDescTr.ofBytes_bytes (c : ContractDescTr) :
    ContractDescTr.ofBytes (c.bytes ++ after) 0 = c := by
  simp (disch := simp) [ContractDescTr.ofBytes, ContractDescTr.bytes, List.append_assoc,
    loadArray_skip, load32_skip]

end NseFoExchangeSim.Protocol
