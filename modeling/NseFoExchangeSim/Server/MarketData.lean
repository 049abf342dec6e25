import NseFoExchangeSim.Protocol.Tbt
import NseFoExchangeSim.Server.Threads

/-!
# The market-data threads

`marketDataLoop` of `runtime.cpp`. A thread has one buffer for all its packets: `recvfrom` writes the
beginning of it and leaves what earlier packets wrote behind that.
-/

namespace NseFoExchangeSim.Server

open Protocol Engine

def kMaxMarketDataPayload : Nat := 2048

/-- What `recvfrom` returns with: an error, or a datagram. -/
inductive Received
  | failed
  | datagram (bytes : List UInt8)
deriving DecidableEq, Repr

/-- The buffer after a datagram, which is cut to its size, and how much of it was written. -/
def recvfrom (buffer datagram : List UInt8) : List UInt8 × Nat :=
  let received := datagram.take buffer.length
  (received ++ buffer.drop received.length, received.length)

/-- The packet of a buffer whose first bytes were received. -/
def packetIn (buffer : List UInt8) (packetSize : Nat) : Option Packet :=
  if packetSize < streamHeaderSize then none
  else
    let header := TbtStreamHeader.ofBytes buffer
    if header.messageType = 'N'.toUInt8 ∨ header.messageType = 'M'.toUInt8 ∨
        header.messageType = 'X'.toUInt8 then
      if packetSize < orderMessageSize then none else some (.order (.ofBytes buffer))
    else if header.messageType = 'T'.toUInt8 then
      if packetSize < tradeMessageSize then none else some (.trade (.ofBytes buffer))
    else none

/-- One turn of the loop: the packets it passes to the engine, and the buffer it leaves. -/
def marketDataLoop : Lib.Machine (List UInt8) Received Packet
  | buffer, .failed => ([], buffer)
  | buffer, .datagram bytes =>
      let r := recvfrom buffer bytes
      ((packetIn r.1 r.2).toList, r.1)

/-- The buffer before the first packet. -/
def emptyBuffer : List UInt8 := .replicate kMaxMarketDataPayload 0

/-- The packet that a datagram is, on its own. -/
def packetOf (datagram : List UInt8) : Option Packet := packetIn datagram datagram.length

def Received.packet : Received → Option Packet
  | .failed => none
  | .datagram bytes => packetOf bytes

/-! ## A datagram on its own -/

section Loads

variable {bytes bytes' : List UInt8} {size offset count : Nat}

theorem getElem?_of_take_eq (h : bytes.take size = bytes'.take size) (hle : offset < size) :
    bytes[offset]? = bytes'[offset]? := by
  rw [← List.getElem?_take_of_lt hle, h, List.getElem?_take_of_lt hle]

theorem loadLittleEndian_of_take_eq (h : bytes.take size = bytes'.take size)
    (hle : offset + count ≤ size) :
    Lib.loadLittleEndian count bytes offset = Lib.loadLittleEndian count bytes' offset := by
  have hslice : (bytes.drop offset).take count = (bytes'.drop offset).take count := by
    have hmore := congrArg (fun l => (l.drop offset).take count) h
    simp only [List.drop_take, List.take_take, Nat.min_eq_left (show count ≤ size - offset by omega)]
      at hmore
    exact hmore
  rw [Lib.loadLittleEndian, Lib.loadLittleEndian, hslice]

theorem TbtStreamHeader.ofBytes_of_take_eq (h : bytes.take size = bytes'.take size)
    (hle : streamHeaderSize ≤ size) :
    TbtStreamHeader.ofBytes bytes = TbtStreamHeader.ofBytes bytes' := by
  rw [streamHeaderSize] at hle
  simp only [TbtStreamHeader.ofBytes, load16, load32, List.getD_eq_getElem?_getD,
    loadLittleEndian_of_take_eq h (show 0 + 2 ≤ size by omega),
    loadLittleEndian_of_take_eq h (show 2 + 2 ≤ size by omega),
    loadLittleEndian_of_take_eq h (show 4 + 4 ≤ size by omega),
    getElem?_of_take_eq h (show 8 < size by omega)]

theorem TbtOrderMessage.ofBytes_of_take_eq (h : bytes.take size = bytes'.take size)
    (hle : orderMessageSize ≤ size) :
    TbtOrderMessage.ofBytes bytes = TbtOrderMessage.ofBytes bytes' := by
  rw [orderMessageSize] at hle
  simp only [TbtOrderMessage.ofBytes, load64, load32, List.getD_eq_getElem?_getD,
    TbtStreamHeader.ofBytes_of_take_eq h (show 9 ≤ size by omega),
    loadLittleEndian_of_take_eq h (show 17 + 8 ≤ size by omega),
    loadLittleEndian_of_take_eq h (show 25 + 4 ≤ size by omega),
    loadLittleEndian_of_take_eq h (show 30 + 4 ≤ size by omega),
    loadLittleEndian_of_take_eq h (show 34 + 4 ≤ size by omega),
    getElem?_of_take_eq h (show 29 < size by omega)]

theorem TbtTradeMessage.ofBytes_of_take_eq (h : bytes.take size = bytes'.take size)
    (hle : tradeMessageSize ≤ size) :
    TbtTradeMessage.ofBytes bytes = TbtTradeMessage.ofBytes bytes' := by
  rw [tradeMessageSize] at hle
  simp only [TbtTradeMessage.ofBytes, load64, load32,
    loadLittleEndian_of_take_eq h (show 17 + 8 ≤ size by omega),
    loadLittleEndian_of_take_eq h (show 25 + 8 ≤ size by omega),
    loadLittleEndian_of_take_eq h (show 33 + 4 ≤ size by omega),
    loadLittleEndian_of_take_eq h (show 37 + 4 ≤ size by omega),
    loadLittleEndian_of_take_eq h (show 41 + 4 ≤ size by omega)]

/-- A packet is read from the first bytes of the buffer, as many as were received. -/
theorem packetIn_of_take_eq (h : bytes.take size = bytes'.take size) :
    packetIn bytes size = packetIn bytes' size := by
  rw [packetIn, packetIn]
  split
  · rfl
  · rename_i hheader
    simp only [TbtStreamHeader.ofBytes_of_take_eq h (Nat.not_lt.mp hheader)]
    split
    · split
      · rfl
      · rename_i hsize
        rw [TbtOrderMessage.ofBytes_of_take_eq h (Nat.not_lt.mp hsize)]
    · split
      · split
        · rfl
        · rename_i hsize
          rw [TbtTradeMessage.ofBytes_of_take_eq h (Nat.not_lt.mp hsize)]
      · rfl

end Loads

/-- What is received beyond the largest message makes no difference. -/
theorem packetIn_of_le {bytes : List UInt8} {size size' : Nat} (hle : tradeMessageSize ≤ size)
    (hle' : tradeMessageSize ≤ size') : packetIn bytes size = packetIn bytes size' := by
  rw [tradeMessageSize] at hle hle'
  have hnot : ∀ n ≤ 45, ¬ size < n ∧ ¬ size' < n := fun n hn => by omega
  simp only [packetIn, hnot streamHeaderSize (by decide), hnot orderMessageSize (by decide),
    hnot tradeMessageSize (by decide), if_false]

/-- The packet that is found in the buffer after a datagram is the datagram's own. -/
theorem packetIn_recvfrom {buffer : List UInt8} (hbuffer : tradeMessageSize ≤ buffer.length)
    (datagram : List UInt8) :
    packetIn (recvfrom buffer datagram).1 (recvfrom buffer datagram).2 = packetOf datagram := by
  have htake : (recvfrom buffer datagram).1.take (recvfrom buffer datagram).2 =
      datagram.take (recvfrom buffer datagram).2 := by
    rw [recvfrom, List.take_left, List.length_take, List.take_eq_take_min]
  rw [packetIn_of_take_eq htake, packetOf]
  by_cases hfits : datagram.length ≤ buffer.length
  · simp [recvfrom, List.take_of_length_le hfits]
  · refine packetIn_of_le ?_ (by omega)
    simp only [recvfrom, List.length_take]
    omega

theorem recvfrom_length (buffer datagram : List UInt8) :
    (recvfrom buffer datagram).1.length = buffer.length := by
  simp only [recvfrom, List.length_append, List.length_take, List.length_drop]
  omega

end NseFoExchangeSim.Server
