import Mathlib.Tactic.IntervalCases
import NseFoExchangeSim.Server.Crypto

/-!
# The session's cipher is counter mode

Byte `i` that a stream ciphers is combined with byte `i % 16` of the ciphered counter block `i / 16`, and
the block ends in the big-endian counter `2 + i / 16`. How the data is cut into calls does not matter.
-/

namespace NseFoExchangeSim.Server

open Lib

/-! ## The reference keystream -/

/-- Byte `k` of a 32-bit value in network order. -/
def bigEndianByte (value k : Nat) : UInt8 := (value / 256 ^ (3 - k)).toUInt8

/-- The first 12 bytes of the initialization vector, then the counter of the block. -/
def referenceBlock (iv : Vector UInt8 16) (block : Nat) : Vector UInt8 16 :=
  .ofFn fun i => if i.val < 12 then iv[i] else bigEndianByte ((2 + block) % 2 ^ 32) (i.val - 12)

/-- Byte `i` of the keystream. -/
def referenceByte (prims : Primitives) (key : Vector UInt8 32) (iv : Vector UInt8 16) (i : Nat) :
    UInt8 :=
  (prims.aesEncrypt key (referenceBlock iv (i / 16)))[i % 16]

theorem bigEndianByte_inj {a b : Nat} (ha : a < 2 ^ 32) (hb : b < 2 ^ 32)
    (h : ∀ k, k < 4 → bigEndianByte a k = bigEndianByte b k) : a = b := by
  have hbyte : ∀ k, k < 4 → a / 256 ^ (3 - k) % 256 = b / 256 ^ (3 - k) % 256 := by
    intro k hk
    have := congrArg UInt8.toNat (h k hk)
    simpa [bigEndianByte] using this
  have h0 := hbyte 0 (by omega)
  have h1 := hbyte 1 (by omega)
  have h2 := hbyte 2 (by omega)
  have h3 := hbyte 3 (by omega)
  norm_num at h0 h1 h2 h3
  omega

theorem referenceBlock_inj {iv : Vector UInt8 16} {j j' : Nat} (hj : j < 2 ^ 32) (hj' : j' < 2 ^ 32)
    (h : referenceBlock iv j = referenceBlock iv j') : j = j' := by
  have hcounter : (2 + j) % 2 ^ 32 = (2 + j') % 2 ^ 32 := by
    refine bigEndianByte_inj (by omega) (by omega) fun k hk => ?_
    have hin : 12 + k < 16 := by omega
    have hget := congrArg (fun block : Vector UInt8 16 => block[12 + k]) h
    have hhigh : ¬12 + k < 12 := by omega
    simpa only [referenceBlock, Vector.getElem_ofFn, if_neg hhigh, Nat.add_sub_cancel_left]
      using hget
  omega

/-! ## The counter of a block -/

namespace CtrCryptoStream

theorem getElem_setCounter_of_lt (block : Vector UInt8 16) (ctr : UInt32) {i : Nat} (hi : i < 12) :
    (setCounter block ctr)[i] = block[i] := by
  simp only [setCounter]
  rw [Vector.getElem_set_ne _ _ (by omega), Vector.getElem_set_ne _ _ (by omega),
    Vector.getElem_set_ne _ _ (by omega), Vector.getElem_set_ne _ _ (by omega)]

theorem getElem_setCounter (block : Vector UInt8 16) (ctr : UInt32) {i : Nat} (hlow : ¬i < 12)
    (hi : i < 16) :
    (setCounter block ctr)[i] = (ctr >>> UInt32.ofNat (8 * (3 - (i - 12)))).toUInt8 := by
  have hlast : i = 12 ∨ i = 13 ∨ i = 14 ∨ i = 15 := by omega
  rcases hlast with rfl | rfl | rfl | rfl <;> simp [setCounter]

theorem counter_setCounter (block : Vector UInt8 16) (ctr : UInt32) :
    counter (setCounter block ctr) = ctr := by
  rw [counter, getElem_setCounter _ _ (by decide), getElem_setCounter _ _ (by decide),
    getElem_setCounter _ _ (by decide), getElem_setCounter _ _ (by decide)]
  apply UInt32.toBitVec_inj.mp
  apply BitVec.eq_of_getLsbD_eq
  intro i hi
  simp only [UInt32.toBitVec_or, UInt32.toBitVec_shiftLeft, UInt32.toBitVec_shiftRight,
    UInt8.toBitVec_toUInt32, UInt32.toBitVec_toUInt8]
  interval_cases i <;> simp

theorem setCounter_setCounter (block : Vector UInt8 16) (ctr ctr' : UInt32) :
    setCounter (setCounter block ctr) ctr' = setCounter block ctr' := by
  ext i hi : 1
  by_cases hlow : i < 12
  · rw [getElem_setCounter_of_lt _ _ hlow, getElem_setCounter_of_lt _ _ hlow,
      getElem_setCounter_of_lt _ _ hlow]
  · rw [getElem_setCounter _ _ hlow hi, getElem_setCounter _ _ hlow hi]

theorem toUInt8_shiftRight (n k : Nat) :
    (UInt32.ofNat n >>> UInt32.ofNat (8 * (3 - k))).toUInt8 = bigEndianByte (n % 2 ^ 32) k := by
  have hlt : 8 * (3 - k) < 32 := by omega
  have hshift : (UInt32.ofNat (8 * (3 - k))).toNat = 8 * (3 - k) :=
    UInt32.toNat_ofNat_of_lt' (Nat.lt_trans hlt (by decide))
  have hpow : 2 ^ (8 * (3 - k)) = 256 ^ (3 - k) := Nat.pow_mul 2 8 (3 - k)
  apply UInt8.toNat_inj.mp
  rw [UInt32.toNat_toUInt8, UInt32.toNat_shiftRight, hshift, Nat.mod_eq_of_lt hlt,
    UInt32.toNat_ofNat', Nat.shiftRight_eq_div_pow, hpow, bigEndianByte, UInt8.toNat_ofNat']

/-- The counter block that the code builds is the one of the reference. -/
theorem setCounter_eq_referenceBlock (iv : Vector UInt8 16) (block : Nat) :
    setCounter iv (UInt32.ofNat (2 + block)) = referenceBlock iv block := by
  ext i hi : 1
  rw [referenceBlock, Vector.getElem_ofFn]
  by_cases hlow : i < 12
  · rw [getElem_setCounter_of_lt _ _ hlow, if_pos hlow]
    rfl
  · rw [getElem_setCounter _ _ hlow hi, if_neg hlow]
    exact toUInt8_shiftRight (2 + block) (i - 12)

/-! ## The position of a stream -/

variable {prims : Primitives} {key : Vector UInt8 32} {iv : Vector UInt8 16} {n : Nat}
  {stream : CtrCryptoStream}

/-- The stream has given `n` bytes since it was initialised: `blocks` blocks are made, and of the last
one `offset` bytes are used. -/
def At (prims : Primitives) (key : Vector UInt8 32) (iv : Vector UInt8 16) (n : Nat)
    (stream : CtrCryptoStream) : Prop :=
  ∃ blocks, n + 16 = 16 * blocks + stream.offset ∧ stream.aesKey = key ∧
    stream.counterBlock = setCounter iv (UInt32.ofNat (2 + blocks)) ∧
    (0 < blocks → stream.keystreamBlock = prims.aesEncrypt key (referenceBlock iv (blocks - 1)))

theorem at_initializeStream (stream : CtrCryptoStream) :
    At prims key iv 0 (stream.initializeStream key iv) :=
  ⟨0, rfl, rfl, rfl, fun h => absurd h (Nat.lt_irrefl 0)⟩

/-- A refill makes the next block. -/
theorem At.refill (h : At prims key iv n stream) (hused : stream.offset = 16) :
    At prims key iv n (stream.refill prims) := by
  obtain ⟨blocks, hn, rfl, hcounter, _⟩ := h
  refine ⟨blocks + 1, ?_, rfl, ?_, fun _ => ?_⟩
  · show n + 16 = 16 * (blocks + 1) + 0
    omega
  · have hnext : UInt32.ofNat (2 + blocks) + 1 = UInt32.ofNat (2 + (blocks + 1)) :=
      (UInt32.ofNat_add (2 + blocks) 1).symm
    show setCounter stream.counterBlock (counter stream.counterBlock + 1) = _
    rw [hcounter, counter_setCounter, setCounter_setCounter, hnext]
  · show prims.aesEncrypt stream.aesKey stream.counterBlock = _
    rw [hcounter, setCounter_eq_referenceBlock, Nat.add_sub_cancel]

theorem At.readByte (h : At prims key iv n stream) (hleft : stream.offset < 16) :
    (stream.readByte hleft).1 = referenceByte prims key iv n ∧
      At prims key iv (n + 1) (stream.readByte hleft).2 := by
  obtain ⟨blocks, hn, hkey, hcounter, hblock⟩ := h
  have hpos : 0 < blocks := by omega
  have hdiv : n / 16 = blocks - 1 := by omega
  have hmod : n % 16 = stream.offset := by omega
  refine ⟨?_, blocks, ?_, hkey, hcounter, hblock⟩
  · show stream.keystreamBlock[stream.offset] = _
    simp only [referenceByte, hblock hpos, hdiv, hmod]
  · show n + 1 + 16 = 16 * blocks + (stream.offset + 1)
    omega

/-- Every byte of a stream is the byte of the reference at its position. -/
theorem gives_referenceByte :
    Gives (nextByte prims) (referenceByte prims key iv) (At prims key iv) := by
  intro n stream h
  unfold nextByte
  split
  · rename_i hused
    exact (h.refill hused).readByte _
  · exact h.readByte _

/-! ## Calls of `xorData` -/

/-- The calls of `xorData` for some pieces of data, one after the other. -/
def xorCalls (prims : Primitives) (stream : CtrCryptoStream) :
    List (List UInt8) → Except String (List (List UInt8) × CtrCryptoStream)
  | [] => .ok ([], stream)
  | chunk :: chunks => do
      let (bytes, stream) ← stream.xorData prims chunk
      let (rest, stream) ← xorCalls prims stream chunks
      return (bytes :: rest, stream)

theorem xorCalls_of_initialized {chunks : List (List UInt8)} (h : stream.initialized = true) :
    stream.xorCalls prims chunks = .ok (xorChunks (nextByte prims) stream chunks) := by
  induction chunks generalizing stream with
  | nil => rfl
  | cons chunk chunks ih =>
      have hmore : (xorStream (nextByte prims) stream chunk).2.initialized = true :=
        initialized_xorStream.trans h
      simp [xorCalls, xorData_of_initialized h, ih hmore, xorChunks, bind, Except.bind, pure,
        Except.pure]

end CtrCryptoStream

/-! ## The stream is the reference -/

open CtrCryptoStream

section Reference

variable {prims : Primitives} {key : Vector UInt8 32} {iv : Vector UInt8 16}

/-- The data combined with the reference keystream, byte by byte. -/
def xorReference (prims : Primitives) (key : Vector UInt8 32) (iv : Vector UInt8 16)
    (data : List UInt8) : List UInt8 :=
  data.mapIdx fun i byte => byte ^^^ referenceByte prims key iv i

theorem xorReference_xorReference (data : List UInt8) :
    xorReference prims key iv (xorReference prims key iv data) = data := by
  have hback : ∀ byte key : UInt8, byte ^^^ key ^^^ key = byte := by
    intro byte key
    rw [UInt8.xor_assoc, UInt8.xor_self, UInt8.xor_zero]
  apply List.ext_getElem
  · simp [xorReference]
  · intro i _ _
    simp [xorReference, hback]

/-- From any state a stream may be in, initialisation takes it to the first byte of the reference. -/
theorem xorCalls_initializeStream (stream : CtrCryptoStream) (chunks : List (List UInt8)) :
    ∃ out stream', (stream.initializeStream key iv).xorCalls prims chunks = .ok (out, stream') ∧
      out.map List.length = chunks.map List.length ∧
      out.flatten = xorReference prims key iv chunks.flatten := by
  refine ⟨_, _, xorCalls_of_initialized rfl, lengths_xorChunks, ?_⟩
  rw [flatten_xorChunks, xorStream_eq_mapIdx gives_referenceByte (at_initializeStream stream)]
  simp only [xorReference, Nat.zero_add]

end Reference

/-- From any state of a stream, its initialisation and any calls after it combine byte `i` of the data
with byte `i` of the reference; a stream initialised with the same key and vector gives the data back,
however the ciphered bytes are cut; and the counter blocks are distinct until the counter comes round. -/
theorem ctr_stream_is_keystream (prims : Primitives) (key : Vector UInt8 32) (iv : Vector UInt8 16) :
    (∀ (stream : CtrCryptoStream) (chunks : List (List UInt8)), ∃ out stream',
      (stream.initializeStream key iv).xorCalls prims chunks = .ok (out, stream') ∧
        out.map List.length = chunks.map List.length ∧
        out.flatten =
          chunks.flatten.mapIdx (fun i byte => byte ^^^ referenceByte prims key iv i) ∧
        ∀ (other : CtrCryptoStream) (pieces : List (List UInt8)), pieces.flatten = out.flatten →
          ∃ back other',
            (other.initializeStream key iv).xorCalls prims pieces = .ok (back, other') ∧
              back.flatten = chunks.flatten) ∧
      ∀ block block', block < 2 ^ 32 → block' < 2 ^ 32 →
        referenceBlock iv block = referenceBlock iv block' → block = block' := by
  refine ⟨fun stream chunks => ?_, fun block block' hb hb' h => referenceBlock_inj hb hb' h⟩
  obtain ⟨out, stream', hcalls, hlengths, hout⟩ :=
    @xorCalls_initializeStream prims key iv stream chunks
  refine ⟨out, stream', hcalls, hlengths, hout, fun other pieces hpieces => ?_⟩
  obtain ⟨back, other', hcalls', _, hback⟩ := @xorCalls_initializeStream prims key iv other pieces
  refine ⟨back, other', hcalls', ?_⟩
  rw [hback, hpieces, hout, xorReference_xorReference]

end NseFoExchangeSim.Server
