import NseFoExchangeSim.Protocol.Fields

/-!
# Tick-by-tick messages in memory

The packed structures of the feed, and the packets that are made of them. What no one acts on (the
length, the stream, the sequence number and the time) comes with a packet as its stamp.
-/

namespace NseFoExchangeSim.Protocol

open Lib

/-- `sizeof(TbtStreamHeader)`, `sizeof(TbtOrderMessage)` and `sizeof(TbtTradeMessage)`. -/
def streamHeaderSize : Nat := 9
def orderMessageSize : Nat := 38
def tradeMessageSize : Nat := 45

structure TbtStreamHeader where
  msgLen : UInt16 := 0
  streamId : UInt16 := 0
  seqNo : UInt32 := 0
  messageType : UInt8 := 0
deriving DecidableEq, Repr

def TbtStreamHeader.ofBytes (bytes : List UInt8) : TbtStreamHeader where
  msgLen := load16 bytes 0
  streamId := load16 bytes 2
  seqNo := load32 bytes 4
  messageType := bytes.getD 8 0

def TbtStreamHeader.bytes (h : TbtStreamHeader) : List UInt8 :=
  List.flatten [store16 h.msgLen, store16 h.streamId, store32 h.seqNo, [h.messageType]]

def TbtOrderMessage.ofBytes (bytes : List UInt8) : TbtOrderMessage where
  messageType := (TbtStreamHeader.ofBytes bytes).messageType
  orderId := load64 bytes 17
  token := load32 bytes 25
  orderType := bytes.getD 29 0
  price := load32 bytes 30
  quantity := load32 bytes 34

def TbtTradeMessage.ofBytes (bytes : List UInt8) : TbtTradeMessage where
  buyOrderId := load64 bytes 17
  sellOrderId := load64 bytes 25
  token := load32 bytes 33
  tradePrice := load32 bytes 37
  tradeQuantity := load32 bytes 41

/-! ## Packets -/

/-- The stream a packet is of, its number there, and the time it carries. -/
structure PacketStamp where
  streamId : UInt16 := 1
  seqNo : UInt32 := 1
  timestamp : UInt64 := 0
deriving DecidableEq, Repr

def TbtOrderMessage.bytes (stamp : PacketStamp) (m : TbtOrderMessage) : List UInt8 :=
  List.flatten
    [TbtStreamHeader.bytes
        { msgLen := orderMessageSize.toUInt16
          streamId := stamp.streamId
          seqNo := stamp.seqNo
          messageType := m.messageType },
      store64 stamp.timestamp, store64 m.orderId, store32 m.token, [m.orderType], store32 m.price,
      store32 m.quantity]

def TbtTradeMessage.bytes (stamp : PacketStamp) (m : TbtTradeMessage) : List UInt8 :=
  List.flatten
    [TbtStreamHeader.bytes
        { msgLen := tradeMessageSize.toUInt16
          streamId := stamp.streamId
          seqNo := stamp.seqNo
          messageType := 'T'.toUInt8 },
      store64 stamp.timestamp, store64 m.buyOrderId, store64 m.sellOrderId, store32 m.token,
      store32 m.tradePrice, store32 m.tradeQuantity]

@[simp] theorem TbtStreamHeader.length_bytes (h : TbtStreamHeader) :
    h.bytes.length = streamHeaderSize := by
  simp [TbtStreamHeader.bytes, streamHeaderSize]

theorem TbtOrderMessage.length_bytes (stamp : PacketStamp) (m : TbtOrderMessage) :
    (m.bytes stamp).length = orderMessageSize := by
  simp [TbtOrderMessage.bytes, orderMessageSize, streamHeaderSize]

theorem TbtTradeMessage.length_bytes (stamp : PacketStamp) (m : TbtTradeMessage) :
    (m.bytes stamp).length = tradeMessageSize := by
  simp [TbtTradeMessage.bytes, tradeMessageSize, streamHeaderSize]

/-! ## Round trips -/

section RoundTrips

variable {after : List UInt8} {stamp : PacketStamp}

@[simp] theorem TbtStreamHeader.ofBytes_bytes (h : TbtStreamHeader) :
    TbtStreamHeader.ofBytes (h.bytes ++ after) = h := by
  simp (disch := simp) [TbtStreamHeader.ofBytes, TbtStreamHeader.bytes, load16_skip, load32_skip,
    List.getElem?_append_right]

theorem TbtOrderMessage.ofBytes_bytes (m : TbtOrderMessage) :
    TbtOrderMessage.ofBytes (m.bytes stamp ++ after) = m := by
  simp (disch := simp [streamHeaderSize]) [TbtOrderMessage.ofBytes, TbtOrderMessage.bytes,
    streamHeaderSize, load32_skip, load64_skip, load32_succ, List.getElem?_append_right]

theorem TbtTradeMessage.ofBytes_bytes (m : TbtTradeMessage) :
    TbtTradeMessage.ofBytes (m.bytes stamp ++ after) = m := by
  simp (disch := simp [streamHeaderSize]) [TbtTradeMessage.ofBytes, TbtTradeMessage.bytes,
    streamHeaderSize, load32_skip, load64_skip]

end RoundTrips

end NseFoExchangeSim.Protocol
