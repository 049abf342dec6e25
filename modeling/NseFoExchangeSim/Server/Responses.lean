import NseFoExchangeSim.Config
import NseFoExchangeSim.Engine.Snapshot
import NseFoExchangeSim.Protocol.Responses

/-!
# What the client is sent

`dispatchEvent` sends a trade as a trade confirmation and every other event as an order confirmation.
The functions here build the payload that `sendPayload` is given.
-/

namespace NseFoExchangeSim.Server

open Protocol Engine

variable (config : Config)

def sendOrderResponse (order : OrderSnapshot) (txnCode errorCode : UInt16) :
    OrderConfirmationPayload where
  transactionCode := byteswap txnCode
  logTime := byteswap order.eventSeconds
  userId := byteswap order.userId
  errorCode := byteswap errorCode
  timeStamp1 := byteswap order.eventNanos
  timeStamp2 := config.defaultStreamNo
  modifiedCancelledBy := 'T'.toUInt8
  reasonCode := 0
  tokenNo := byteswap order.token
  contractDescription := order.contractDescription
  closeOutFlag := ' '.toUInt8
  orderNumber := hostToWireDouble (uint64ToDouble order.exchangeOrderNumber)
  accountNumber := order.accountNumber
  bookType := byteswap order.bookType
  buySellIndicator := byteswap order.side
  disclosedVolume := byteswap order.disclosedVolume
  disclosedVolumeRemaining := byteswap (if errorCode == 0 then order.disclosedVolumeRemaining else 0)
  totalVolumeRemaining := byteswap (if errorCode == 0 then order.totalVolumeRemaining else 0)
  volume := byteswap order.volume
  volumeFilledToday := byteswap order.volumeFilledToday
  price := byteswap order.price
  goodTillDate := byteswap order.goodTillDate
  entryDateTime := byteswap order.entryDateTime
  lastModified := byteswap order.lastModified
  orderFlags1 := order.orderFlags1
  orderFlags2 := order.orderFlags2
  branchId := byteswap order.branchId
  traderId := byteswap order.traderId
  brokerId := order.brokerId
  openClose := order.openClose
  settlor := order.settlor
  proClientIndicator := byteswap order.proClientIndicator
  additionalFlags := order.additionalFlags
  filler := byteswap order.filler
  nnfField := order.nnfFieldWire
  timeStamp3 := byteswap order.eventNanos
  pan := order.pan
  algoId := byteswap order.algoId
  uniqueId := byteswap order.uniqueId
  lastActivityReference := byteswap order.lastActivityReference

def sendTradeResponse (order : OrderSnapshot) (fillQuantity fillPrice : UInt32) :
    TradeConfirmationPayload where
  transactionCode := byteswap kTxnTradeConfirmationTrimmed
  logTime := byteswap order.eventSeconds
  traderId := byteswap order.userId
  timeStamp := byteswap order.eventNanos
  timeStamp1 := byteswap order.eventNanos
  timeStamp2 := (Vector.replicate 8 0).set 7 config.defaultStreamNo
  responseOrderNumber := hostToWireDouble (uint64ToDouble order.exchangeOrderNumber)
  brokerId := order.brokerId
  accountNumber := order.accountNumber
  buySellIndicator := byteswap order.side
  originalVolume := byteswap order.volume
  disclosedVolume := byteswap order.disclosedVolume
  remainingVolume := byteswap order.totalVolumeRemaining
  disclosedVolumeRemaining := byteswap order.disclosedVolumeRemaining
  price := byteswap order.price
  orderFlags1 := order.orderFlags1
  orderFlags2 := order.orderFlags2
  goodTillDate := byteswap order.goodTillDate
  fillNumber := byteswap order.fillNumber
  fillQuantity := byteswap fillQuantity
  fillPrice := byteswap fillPrice
  volumeFilledToday := byteswap order.volumeFilledToday
  activityType := #v['T'.toUInt8, 'R'.toUInt8]
  activityTime := byteswap order.eventSeconds
  token := byteswap order.token
  contractDescription := order.contractDescription
  openClose := order.openClose
  bookType := order.bookType.toUInt8
  participant := order.settlor
  additionalFlags := order.additionalFlags
  pan := order.pan
  algoId := byteswap order.algoId
  lastActivityReference := byteswap order.lastActivityReference

/-- The payload of an event. -/
inductive Response
  | trade (payload : TradeConfirmationPayload)
  | order (payload : OrderConfirmationPayload)
deriving DecidableEq, Repr

/-- The response `dispatchEvent` chooses. -/
def responseTo (event : EngineEvent) : Response :=
  if event.txnCode == kTxnTradeConfirmationTrimmed then
    .trade (sendTradeResponse config event.order event.fillQuantity event.fillPrice)
  else .order (sendOrderResponse config event.order event.txnCode event.errorCode)

/-- The field in which a response names the order. -/
def Response.orderNumber : Response → DoubleBits
  | .trade payload => payload.responseOrderNumber
  | .order payload => payload.orderNumber

theorem responseTo_orderNumber (event : EngineEvent) :
    (responseTo config event).orderNumber =
      hostToWireDouble (uint64ToDouble event.order.exchangeOrderNumber) := by
  unfold responseTo
  split <;> rfl

end NseFoExchangeSim.Server
