import Mathlib.Data.UInt

/-!
# Stream ciphers

A stream cipher is a state that gives one byte of keystream after another. To cipher is to combine
every byte of the data with the next byte of the keystream; from the same state, ciphering what was
ciphered gives the data back and leads to the same state. Where the data is cut into chunks does not
matter, and when the state is known by its position, neither does anything else.
-/

namespace Lib

universe u

variable {S : Type u} (next : S → UInt8 × S)

/-- The ciphered bytes, and the state after them. -/
def xorStream : S → List UInt8 → List UInt8 × S
  | s, [] => ([], s)
  | s, byte :: bytes =>
      ((byte ^^^ (next s).1) :: (xorStream (next s).2 bytes).1, (xorStream (next s).2 bytes).2)

section Keystream

variable {next} {s : S} {bytes : List UInt8}

@[simp] theorem length_xorStream : (xorStream next s bytes).1.length = bytes.length := by
  induction bytes generalizing s with
  | nil => rfl
  | cons byte bytes ih => simp [xorStream, ih]

/-- Whoever is in the state of the sender reads what the sender wrote, and stays with the sender. -/
theorem xorStream_xorStream :
    xorStream next s (xorStream next s bytes).1 = (bytes, (xorStream next s bytes).2) := by
  induction bytes generalizing s with
  | nil => rfl
  | cons byte bytes ih =>
      have hback : byte ^^^ (next s).1 ^^^ (next s).1 = byte := by
        rw [UInt8.xor_assoc, UInt8.xor_self, UInt8.xor_zero]
      simp [xorStream, ih, hback]

theorem xorStream_append {more : List UInt8} :
    xorStream next s (bytes ++ more) =
      ((xorStream next s bytes).1 ++ (xorStream next (xorStream next s bytes).2 more).1,
        (xorStream next (xorStream next s bytes).2 more).2) := by
  induction bytes generalizing s with
  | nil => rfl
  | cons byte bytes ih => simp [xorStream, ih]

/-! ## Data in chunks -/

variable (next) in
/-- The chunks ciphered one after the other, and the state after them. -/
def xorChunks : S → List (List UInt8) → List (List UInt8) × S
  | s, [] => ([], s)
  | s, chunk :: chunks =>
      let r := xorStream next s chunk
      (r.1 :: (xorChunks r.2 chunks).1, (xorChunks r.2 chunks).2)

variable {chunks : List (List UInt8)}

theorem lengths_xorChunks :
    (xorChunks next s chunks).1.map List.length = chunks.map List.length := by
  induction chunks generalizing s with
  | nil => rfl
  | cons chunk chunks ih => simp [xorChunks, ih]

/-- The chunks only cut the ciphered data into pieces. -/
theorem flatten_xorChunks :
    (xorChunks next s chunks).1.flatten = (xorStream next s chunks.flatten).1 := by
  induction chunks generalizing s with
  | nil => rfl
  | cons chunk chunks ih => simp [xorChunks, ih, xorStream_append]

/-! ## The keystream by position -/

/-- In a state at position `n` the next byte is byte `n` of the key, and leads to position `n + 1`. -/
def Gives (next : S → UInt8 × S) (key : Nat → UInt8) (At : Nat → S → Prop) : Prop :=
  ∀ n s, At n s → (next s).1 = key n ∧ At (n + 1) (next s).2

theorem xorStream_eq_mapIdx {key : Nat → UInt8} {At : Nat → S → Prop} (hgives : Gives next key At)
    {n : Nat} (hs : At n s) :
    (xorStream next s bytes).1 = bytes.mapIdx fun i byte => byte ^^^ key (n + i) := by
  induction bytes generalizing n s with
  | nil => rfl
  | cons byte bytes ih =>
      obtain ⟨hbyte, hnext⟩ := hgives n s hs
      rw [xorStream, ih hnext, List.mapIdx_cons, hbyte]
      simp only [Nat.add_zero, Nat.add_assoc, Nat.add_comm 1]

end Keystream

end Lib
