import NseFoExchangeSim.Lib.Keystream

/-!
# The session's cipher

`Md5Digest` and `CtrCryptoStream` of `crypto.cpp`, over any digest and any block cipher.
-/

namespace NseFoExchangeSim.Server

/-- What `crypto.cpp` takes from OpenSSL: the MD5 digest, and AES with a 256-bit key on one block. -/
structure Primitives where
  md5 : List UInt8 → Vector UInt8 16
  aesEncrypt : Vector UInt8 32 → Vector UInt8 16 → Vector UInt8 16

theorem used_up_le : 16 ≤ 16 := Nat.le_refl 16

/-- The AES key schedule is represented by the key it was made from. -/
structure CtrCryptoStream where
  aesKey : Vector UInt8 32 := .replicate 32 0
  counterBlock : Vector UInt8 16 := .replicate 16 0
  keystreamBlock : Vector UInt8 16 := .replicate 16 0
  offset : Nat := 16
  initialized : Bool := false
  offset_le : offset ≤ 16 := by exact used_up_le
deriving DecidableEq

namespace CtrCryptoStream

/-- `CtrCryptoStream::initialize`; of the initialization vector 12 bytes are used. -/
def initializeStream (stream : CtrCryptoStream) (key : Vector UInt8 32) (iv : Vector UInt8 16) :
    CtrCryptoStream :=
  { stream with
    aesKey := key
    counterBlock := (((iv.set 12 0).set 13 0).set 14 0).set 15 2
    offset := 16
    initialized := true
    offset_le := used_up_le }

/-- The counter in the last four bytes of the block, in network order. -/
def counter (block : Vector UInt8 16) : UInt32 :=
  (block[12].toUInt32 <<< (24 : UInt32)) ||| (block[13].toUInt32 <<< (16 : UInt32)) |||
    (block[14].toUInt32 <<< (8 : UInt32)) ||| block[15].toUInt32

def setCounter (block : Vector UInt8 16) (ctr : UInt32) : Vector UInt8 16 :=
  (((block.set 12 (ctr >>> (24 : UInt32)).toUInt8).set 13 (ctr >>> (16 : UInt32)).toUInt8).set 14
    (ctr >>> (8 : UInt32)).toUInt8).set 15 ctr.toUInt8

variable (prims : Primitives)

def refill (stream : CtrCryptoStream) : CtrCryptoStream :=
  { stream with
    keystreamBlock := prims.aesEncrypt stream.aesKey stream.counterBlock
    counterBlock := setCounter stream.counterBlock (counter stream.counterBlock + 1)
    offset := 0
    offset_le := Nat.zero_le 16 }

/-- `keystream_block_[offset_++]` -/
def readByte (stream : CtrCryptoStream) (h : stream.offset < 16) : UInt8 × CtrCryptoStream :=
  (stream.keystreamBlock[stream.offset],
    { stream with offset := stream.offset + 1, offset_le := h })

/-- The next byte of the keystream, after a `refill` when the block is used up. -/
def nextByte (stream : CtrCryptoStream) : UInt8 × CtrCryptoStream :=
  if h : stream.offset = 16 then (stream.refill prims).readByte (Nat.zero_lt_succ 15)
  else stream.readByte (Nat.lt_of_le_of_ne stream.offset_le h)

def xorData (stream : CtrCryptoStream) (data : List UInt8) :
    Except String (List UInt8 × CtrCryptoStream) :=
  if !stream.initialized then .error "CTR stream used before initialize"
  else .ok (Lib.xorStream (nextByte prims) stream data)

variable {prims} {stream : CtrCryptoStream} {data : List UInt8}

theorem initialized_nextByte : (stream.nextByte prims).2.initialized = stream.initialized := by
  unfold nextByte
  split
  · rfl
  · rfl

theorem initialized_xorStream :
    (Lib.xorStream (nextByte prims) stream data).2.initialized = stream.initialized := by
  induction data generalizing stream with
  | nil => rfl
  | cons byte bytes ih =>
      simp only [Lib.xorStream, ih]
      exact initialized_nextByte

theorem xorData_of_initialized (h : stream.initialized = true) :
    stream.xorData prims data = .ok (Lib.xorStream (nextByte prims) stream data) := by
  simp [xorData, h]

end CtrCryptoStream

end NseFoExchangeSim.Server
