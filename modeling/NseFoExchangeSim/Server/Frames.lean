import NseFoExchangeSim.Lib.Fallible
import NseFoExchangeSim.Lib.LittleEndian
import NseFoExchangeSim.Protocol.ByteOrder
import NseFoExchangeSim.Server.Crypto

/-!
# Frames

How `SessionConnection` puts a payload on the wire and takes one from it. What the peer has sent is a
list of chunks, of which a `recv` gives the first or, when that is longer than asked for, its beginning;
no chunk or an empty one is a `recv` that fails.
-/

namespace NseFoExchangeSim.Server

open Lib Protocol

def kMaxSessionPayload : Nat := 2048

/-! ## Headers -/

/-- The fields are in network order. -/
structure DirectExCtclHeader where
  length : UInt16
  sequenceNumber : UInt32
  md5Checksum : Vector UInt8 16
deriving DecidableEq, Repr

/-- The size of `DirectExCtclHeader` in memory. -/
def ctclHeaderSize : Nat := 22

def DirectExCtclHeader.bytes (header : DirectExCtclHeader) : List UInt8 :=
  storeLittleEndian 2 header.length.toNat ++
    (storeLittleEndian 4 header.sequenceNumber.toNat ++ header.md5Checksum.toList)

/-- The header in the 22 bytes that were read for it. -/
def DirectExCtclHeader.ofBytes (bytes : List UInt8) : DirectExCtclHeader where
  length := (loadLittleEndian 2 bytes 0).toUInt16
  sequenceNumber := (loadLittleEndian 4 bytes 2).toUInt32
  md5Checksum := .ofFn fun i => bytes.getD (6 + i) 0

@[simp] theorem length_headerBytes (header : DirectExCtclHeader) :
    header.bytes.length = ctclHeaderSize := by
  simp [DirectExCtclHeader.bytes, ctclHeaderSize]

theorem ofBytes_bytes (header : DirectExCtclHeader) :
    DirectExCtclHeader.ofBytes header.bytes = header := by
  have hlength : loadLittleEndian 2 header.bytes 0 = header.length.toNat := by
    have hlt := header.length.toNat_lt
    exact @loadLittleEndian_store_of_lt _ _ _ [] _ rfl (by simpa using hlt)
  have hsequence : loadLittleEndian 4 header.bytes 2 = header.sequenceNumber.toNat := by
    have hlt := header.sequenceNumber.toNat_lt
    exact loadLittleEndian_store_of_lt length_storeLittleEndian (by simpa using hlt)
  have hdigest : (Vector.ofFn fun i : Fin 16 => header.bytes.getD (6 + i) 0) =
      header.md5Checksum := by
    apply Vector.ext
    intro i hi
    rw [Vector.getElem_ofFn, List.getD_eq_getElem?_getD, DirectExCtclHeader.bytes,
      ← List.append_assoc, List.getElem?_append_right (by simp)]
    simp [hi]
  rw [DirectExCtclHeader.ofBytes, hlength, hsequence, hdigest]
  simp

/-! ## The state of a connection that frames depend on -/

structure Channel where
  encryptionEnabled : Bool := false
  inboundCrypto : CtrCryptoStream := {}
  outboundCrypto : CtrCryptoStream := {}
  sequenceNumber : UInt32 := 0
deriving DecidableEq

namespace Channel

variable (prims : Primitives)

/-! ## Sending -/

/-- `outbound_crypto_.xorData`, when the session is encrypted. -/
def encrypt (channel : Channel) (bytes : List UInt8) : Except String (List UInt8 × Channel) :=
  if channel.encryptionEnabled then do
    let (bytes, outboundCrypto) ← channel.outboundCrypto.xorData prims bytes
    return (bytes, { channel with outboundCrypto })
  else return (bytes, channel)

/-- Only the outbound stream changes. -/
theorem encrypt_frame {prims : Primitives} {channel channel' : Channel} {bytes body : List UInt8}
    (h : channel.encrypt prims bytes = .ok (body, channel')) :
    channel' = { channel with outboundCrypto := channel'.outboundCrypto } := by
  rw [encrypt] at h
  split at h
  · obtain ⟨_, -, hreturn⟩ := bind_eq_ok h
    cases hreturn
    rfl
  · cases h
    rfl

/-- `++sequence_number_` -/
def nextNumber (channel : Channel) : UInt32 × Channel :=
  (channel.sequenceNumber + 1, { channel with sequenceNumber := channel.sequenceNumber + 1 })

/-- The header of a frame with a body of a given size. -/
def frameHeader (size : Nat) (number : UInt32) (digest : Vector UInt8 16) : DirectExCtclHeader where
  length := byteswap (ctclHeaderSize + size).toUInt16
  sequenceNumber := byteswap number
  md5Checksum := digest

/-- The bytes that are written. -/
def sendPayload (payload : List UInt8) (channel : Channel) :
    Except String (List UInt8 × Channel) := do
  let digest := prims.md5 payload
  let (bytes, channel) ← channel.encrypt prims payload
  let (number, channel) := channel.nextNumber
  let header := frameHeader bytes.length number digest
  return (header.bytes ++ bytes, channel)

/-- The payloads one after another. -/
def sendPayloads : List (List UInt8) → Channel → Except String (List UInt8 × Channel)
  | [], channel => return ([], channel)
  | payload :: payloads, channel => do
      let (frame, channel) ← channel.sendPayload prims payload
      let (frames, channel) ← sendPayloads payloads channel
      return (frame ++ frames, channel)

end Channel

/-! ## Receiving -/

def readFully (size : Nat) : List (List UInt8) → Except String (List UInt8 × List (List UInt8))
  | [] => if size = 0 then .ok ([], []) else .error "socket read failed"
  | chunk :: chunks =>
      if size = 0 then .ok ([], chunk :: chunks)
      else if chunk.isEmpty then .error "socket read failed"
      else if size < chunk.length then .ok (chunk.take size, chunk.drop size :: chunks)
      else do
        let (bytes, chunks) ← readFully (size - chunk.length) chunks
        return (chunk ++ bytes, chunks)

namespace Channel

variable (prims : Primitives)

/-- `inbound_crypto_.xorData`, when the session is encrypted. -/
def decrypt (channel : Channel) (bytes : List UInt8) : Except String (List UInt8 × Channel) :=
  if channel.encryptionEnabled then do
    let (bytes, inboundCrypto) ← channel.inboundCrypto.xorData prims bytes
    return (bytes, { channel with inboundCrypto })
  else return (bytes, channel)

/-- Only the inbound stream changes. -/
theorem decrypt_frame {prims : Primitives} {channel channel' : Channel} {bytes payload : List UInt8}
    (h : channel.decrypt prims bytes = .ok (payload, channel')) :
    channel' = { channel with inboundCrypto := channel'.inboundCrypto } := by
  rw [decrypt] at h
  split at h
  · obtain ⟨_, -, hreturn⟩ := bind_eq_ok h
    cases hreturn
    rfl
  · cases h
    rfl

/-- One turn of the loop of `run`, up to the payload that it hands to `handlePayload`. -/
def receivePayload (channel : Channel) (chunks : List (List UInt8)) :
    Except String (List UInt8 × Channel × List (List UInt8)) := do
  let (headerBytes, chunks) ← readFully ctclHeaderSize chunks
  let header := DirectExCtclHeader.ofBytes headerBytes
  let wireLength := (byteswap header.length).toNat
  if wireLength < ctclHeaderSize ∨ wireLength > kMaxSessionPayload + ctclHeaderSize then
    throw "invalid session packet length"
  let (body, chunks) ← readFully (wireLength - ctclHeaderSize) chunks
  let (payload, channel) ← channel.decrypt prims body
  if header.md5Checksum ≠ prims.md5 payload then
    throw "bad session MD5"
  return (payload, channel, chunks)

/-- The loop of `run` without what `handlePayload` does: the payloads, and the exception that ends it
with the connection's state then, unless it still runs after some turns. -/
def receivePayloads : Nat → Channel → List (List UInt8) →
    List (List UInt8) × Option (String × Channel)
  | 0, _, _ => ([], none)
  | turns + 1, channel, chunks =>
      match channel.receivePayload prims chunks with
      | .error message => ([], some (message, channel))
      | .ok (payload, channel, chunks) =>
          let rest := receivePayloads turns channel chunks
          (payload :: rest.1, rest.2)

end Channel

end NseFoExchangeSim.Server
