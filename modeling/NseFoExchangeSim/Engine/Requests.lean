import NseFoExchangeSim.Protocol.ByteOrder
import NseFoExchangeSim.Engine.Run

/-!
# Requests as a client writes them

The wire form of the requests and messages the engine takes, built from host values, and what the
engine makes of them: it reads back what the client wrote, and accepts the request exactly when its
values are in range.
-/

namespace NseFoExchangeSim.Engine

open Protocol

/-- A regular-lot order, its fields in network order. -/
def orderRequest (token : UInt32) (side : UInt16) (quantity price : UInt32) (orderFlags1 : UInt8) :
    OrderEntryRequestPayload :=
  { transactionCode := byteswap kTxnOrderEntryTrimmed
    tokenNo := byteswap token
    bookType := byteswap 1
    buySellIndicator := byteswap side
    disclosedVolume := byteswap quantity
    volume := byteswap quantity
    price := byteswap price
    orderFlags1 := orderFlags1
    openClose := 'O'.toUInt8 }

/-- A modification of the order whose number has the given bits as a double. -/
def modifyRequest (number : DoubleBits) (token : UInt32) (side : UInt16)
    (volume remaining filledToday price : UInt32) : OrderUpdateRequestPayload :=
  { transactionCode := byteswap kTxnOrderModificationTrimmed
    tokenNo := byteswap token
    orderNumber := byteswap number
    bookType := byteswap 1
    buySellIndicator := byteswap side
    disclosedVolume := byteswap volume
    totalVolumeRemaining := byteswap remaining
    volume := byteswap volume
    volumeFilledToday := byteswap filledToday
    price := byteswap price
    orderFlags1 := kOrderFlagsDay
    orderFlags2 := 0x10
    openClose := 'O'.toUInt8 }

/-- A cancellation of the order whose number has the given bits as a double. -/
def cancelRequest (number : DoubleBits) (token : UInt32) (side : UInt16) :
    OrderUpdateRequestPayload :=
  { transactionCode := byteswap kTxnOrderCancellationTrimmed
    tokenNo := byteswap token
    orderNumber := byteswap number
    bookType := byteswap 1
    buySellIndicator := byteswap side
    orderFlags1 := kOrderFlagsDay
    openClose := 'O'.toUInt8 }

def tbtOrder (messageType : Char) (orderId : DoubleBits) (token : UInt32) (orderType : Char)
    (price quantity : UInt32) : TbtOrderMessage :=
  { messageType := messageType.toUInt8, orderId, token, orderType := orderType.toUInt8, price,
    quantity }

/-- Surroundings in which the clock stands still, every session is there, and no cast goes wrong. -/
def calm : CallEnv where
  clock _ := ⟨1, 1⟩
  expired _ _ := false
  outOfRange _ := 0

/-- The configuration of the book-matching test, as far as the engine uses it. -/
def bookMatching : EngineConfig where
  config :=
    { exchangeOrderNumberStart := 200000
      fillNumberStart := 50
      maxBookContracts := 4
      marketDataStreams := [{ host := "127.0.0.1" }] }
  allowedTokens := (∅ : Std.ExtTreeSet UInt32).insert 654321 |>.insert 765432

/-- A day order to buy 25 at 1000. -/
def restingRun : List Op := [.newOrder calm (orderRequest 654321 1 25 1000 kOrderFlagsDay) 1 1]

/-- An offer of 10 at 999. -/
def offer : Op := .tbtOrder calm (tbtOrder 'N' 1 654321 'S' 999 10)

/-! ## What the engine reads -/

section Entry

variable (token : UInt32) (side : UInt16) (quantity price : UInt32) (orderFlags1 : UInt8)
  (sessionId : UInt64) (session : SessionRef)

theorem orderRequest_read :
    buildSnapshotFromEntryRequest (orderRequest token side quantity price orderFlags1) sessionId
        session =
      { token := token
        bookType := 1
        side := side
        disclosedVolume := quantity
        disclosedVolumeRemaining := quantity
        totalVolumeRemaining := quantity
        volume := quantity
        price := price
        orderFlags1 := orderFlags1
        openClose := 'O'.toUInt8
        ioc := orderFlags1 == kOrderFlagsIoc
        sessionId := sessionId
        session := session } := by
  simp only [buildSnapshotFromEntryRequest, orderRequest, byteswap_byteswap]
  rfl

/-- The engine accepts the order when its quantity, price, side and flags are in range. -/
theorem orderRequest_valid :
    isValidNewOrder
        (buildSnapshotFromEntryRequest (orderRequest token side quantity price orderFlags1) sessionId
          session)
        (orderRequest token side quantity price orderFlags1) = true ↔
      (orderFlags1 = kOrderFlagsDay ∨ orderFlags1 = kOrderFlagsIoc) ∧ 0 < quantity ∧ 0 < price ∧
        (side = 1 ∨ side = 2) := by
  rw [orderRequest_read]
  simp [isValidNewOrder, orderRequest, isValidSide]
  tauto

end Entry

end NseFoExchangeSim.Engine
