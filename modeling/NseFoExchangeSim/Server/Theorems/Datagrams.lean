import NseFoExchangeSim.Server.MarketData

/-!
# What the market-data threads pass on

Each datagram counts for itself: the packets that reach the engine are those of the datagrams, in their
order, and nothing that an earlier datagram left in the buffer is taken for a part of a later one.
-/

namespace NseFoExchangeSim.Server

open Lib Protocol Engine

variable {buffer trailing : List UInt8} {stamp : PacketStamp}

/-! ## One turn -/

theorem marketDataLoop_turn (hbuffer : tradeMessageSize ≤ buffer.length) (received : Received) :
    (marketDataLoop buffer received).1 = received.packet.toList ∧
      (marketDataLoop buffer received).2.length = buffer.length := by
  cases received with
  | failed => exact ⟨rfl, rfl⟩
  | datagram bytes =>
      refine ⟨?_, recvfrom_length buffer bytes⟩
      simp only [marketDataLoop, Received.packet, packetIn_recvfrom hbuffer]

/-- All turns: the packets of the datagrams. -/
theorem exec_marketDataLoop (hbuffer : tradeMessageSize ≤ buffer.length) (received : List Received) :
    (exec marketDataLoop buffer received).1 = received.filterMap Received.packet := by
  induction received generalizing buffer with
  | nil => rfl
  | cons r received ih =>
      obtain ⟨hpackets, hlength⟩ := marketDataLoop_turn hbuffer r
      rw [exec, hpackets, ih (hlength ▸ hbuffer), List.filterMap_cons]
      cases r.packet with
      | none => rfl
      | some packet => rfl

theorem length_emptyBuffer : tradeMessageSize ≤ emptyBuffer.length := by
  rw [emptyBuffer, List.length_replicate]
  decide

/-! ## Datagrams that were encoded -/

theorem packetOf_order {m : TbtOrderMessage} (hknown : m.messageType = 'N'.toUInt8 ∨
      m.messageType = 'M'.toUInt8 ∨ m.messageType = 'X'.toUInt8) :
    packetOf (m.bytes stamp ++ trailing) = some (.order m) := by
  have hlength : ¬ (m.bytes stamp ++ trailing).length < orderMessageSize := by
    rw [List.length_append, m.length_bytes]
    omega
  have hheader : ¬ (m.bytes stamp ++ trailing).length < streamHeaderSize := by
    rw [orderMessageSize] at hlength
    rw [streamHeaderSize]
    omega
  have htype : (TbtStreamHeader.ofBytes (m.bytes stamp ++ trailing)).messageType = m.messageType := by
    rw [TbtOrderMessage.bytes, List.flatten_cons, List.append_assoc, TbtStreamHeader.ofBytes_bytes]
  rw [packetOf, packetIn, if_neg hheader]
  simp only [htype, if_pos hknown, if_neg hlength, m.ofBytes_bytes]

theorem packetOf_trade (m : TbtTradeMessage) :
    packetOf (m.bytes stamp ++ trailing) = some (.trade m) := by
  have hlength : ¬ (m.bytes stamp ++ trailing).length < tradeMessageSize := by
    rw [List.length_append, m.length_bytes]
    omega
  have hheader : ¬ (m.bytes stamp ++ trailing).length < streamHeaderSize := by
    rw [tradeMessageSize] at hlength
    rw [streamHeaderSize]
    omega
  have htype : (TbtStreamHeader.ofBytes (m.bytes stamp ++ trailing)).messageType = 'T'.toUInt8 := by
    rw [TbtTradeMessage.bytes, List.flatten_cons, List.append_assoc, TbtStreamHeader.ofBytes_bytes]
  have hother : ¬ ('T'.toUInt8 = 'N'.toUInt8 ∨ 'T'.toUInt8 = 'M'.toUInt8 ∨
      'T'.toUInt8 = 'X'.toUInt8) := by decide
  rw [packetOf, packetIn, if_neg hheader]
  simp only [htype, if_neg hother, if_neg hlength, if_true, m.ofBytes_bytes]

/-! ## What reaches the engine -/

/-- A packet as it is sent, with its stamp. -/
def Packet.bytes (stamp : PacketStamp) : Packet → List UInt8
  | .order message => message.bytes stamp
  | .trade message => message.bytes stamp

/-- The packet has a message type the loop knows. -/
def Packet.known : Packet → Bool
  | .order message => message.messageType == 'N'.toUInt8 || message.messageType == 'M'.toUInt8 ||
      message.messageType == 'X'.toUInt8
  | .trade _ => true

theorem packetOf_bytes {packet : Packet} (hknown : packet.known = true) :
    packetOf (packet.bytes stamp ++ trailing) = some packet := by
  cases packet with
  | order message => exact packetOf_order (by simpa [Packet.known, or_assoc] using hknown)
  | trade message => exact packetOf_trade message

/-- Whatever datagrams a market-data thread receives, of any contents and sizes and with errors in
between, the packets it passes on are those of the datagrams taken one by one; and a datagram that
begins with a packet of a known type is that packet, whatever follows it. -/
theorem datagrams_pass_unmixed (received : List Received) :
    (exec marketDataLoop emptyBuffer received).1 = received.filterMap Received.packet ∧
      (∀ packet stamp trailing, packet.known = true →
        packetOf (packet.bytes stamp ++ trailing) = some packet) ∧
      ∀ datagram, datagram.length < orderMessageSize → packetOf datagram = none := by
  refine ⟨exec_marketDataLoop length_emptyBuffer received,
    fun packet stamp trailing hknown => packetOf_bytes hknown, fun datagram hshort => ?_⟩
  have hshort' : datagram.length < tradeMessageSize := Nat.lt_trans hshort (by decide)
  simp only [packetOf, packetIn, if_pos hshort, if_pos hshort', ite_self]

end NseFoExchangeSim.Server
