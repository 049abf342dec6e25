import NseFoExchangeSim.Lib.Trace
import NseFoExchangeSim.Server.Responses

/-!
# The earlier fill engine

`FillEngine` of `simulator.cpp` and the responses its session sends for an order entry: every accepted
order is confirmed and filled at once. The session copies the fields of the request as they came.
-/

namespace NseFoExchangeSim.Simulator

open Protocol Engine

structure OrderSnapshot where
  request : OrderEntryRequestPayload := {}
  userId : UInt32 := 0
  token : UInt32 := 0
  bookType : UInt16 := 0
  side : UInt16 := 0
  disclosedVolume : UInt32 := 0
  volume : UInt32 := 0
  price : UInt32 := 0
  clientOrderId : UInt32 := 0
  branchId : UInt16 := 0
  uniqueId : UInt16 := 0
  algoId : UInt32 := 0
  exchangeOrderNumber : UInt64 := 0
  fillNumber : UInt32 := 0
  lastActivityReference : UInt64 := 0
  eventNanos : UInt64 := 0
  eventSeconds : UInt32 := 0
deriving DecidableEq, Repr

structure FillEngine where
  nextExchangeOrderNumber : UInt64
  nextFillNumber : UInt32
  nextLastActivityReference : UInt64
deriving DecidableEq, Repr

namespace FillEngine

def init (config : Config) : FillEngine where
  nextExchangeOrderNumber := config.exchangeOrderNumberStart
  nextFillNumber := config.fillNumberStart
  nextLastActivityReference := 1

/-- The check of `acceptLimitOrder`. -/
def unsupported (request : OrderEntryRequestPayload) : Bool :=
  let transactionCode := byteswap request.transactionCode
  let bookType := byteswap request.bookType
  let side := byteswap request.buySellIndicator
  let volume := byteswap request.volume
  let price := byteswap request.price
  let supportedOrderFlags1 := request.orderFlags1 == 0x8 || request.orderFlags1 == 0x2
  transactionCode != kTxnOrderEntryTrimmed || bookType != 1 || !supportedOrderFlags1 ||
    request.orderFlags2 != 0 || request.openClose != 'O'.toUInt8 || volume == 0 || price == 0 ||
    (side != 1 && side != 2)

def acceptLimitOrder (now : ClockReading) (request : OrderEntryRequestPayload)
    (engine : FillEngine) : Option OrderSnapshot × FillEngine :=
  if unsupported request then (none, engine)
  else
    (some
      { request := request
        userId := byteswap request.userId
        token := byteswap request.tokenNo
        bookType := byteswap request.bookType
        side := byteswap request.buySellIndicator
        disclosedVolume := byteswap request.disclosedVolume
        volume := byteswap request.volume
        price := byteswap request.price
        clientOrderId := byteswap request.filler
        branchId := byteswap request.branchId
        uniqueId := byteswap request.uniqueId
        algoId := byteswap request.algoId
        exchangeOrderNumber := engine.nextExchangeOrderNumber
        fillNumber := engine.nextFillNumber
        lastActivityReference := engine.nextLastActivityReference
        eventNanos := now.nanos
        eventSeconds := now.seconds },
      { nextExchangeOrderNumber := engine.nextExchangeOrderNumber + 1
        nextFillNumber := engine.nextFillNumber + 1
        nextLastActivityReference := engine.nextLastActivityReference + 1 })

end FillEngine

/-! ## Responses -/

variable (config : Config)

def sendOrderResponse (order : OrderSnapshot) (txnCode errorCode : UInt16) :
    OrderConfirmationPayload where
  transactionCode := byteswap txnCode
  logTime := byteswap order.eventSeconds
  userId := byteswap order.userId
  errorCode := byteswap errorCode
  timeStamp1 := byteswap order.eventNanos
  timeStamp2 := config.defaultStreamNo
  modifiedCancelledBy := 'T'.toUInt8
  reasonCode := 0
  tokenNo := order.request.tokenNo
  contractDescription := order.request.contractDescription
  closeOutFlag := ' '.toUInt8
  orderNumber := hostToWireDouble (uint64ToDouble order.exchangeOrderNumber)
  accountNumber := order.request.accountNumber
  bookType := order.request.bookType
  buySellIndicator := order.request.buySellIndicator
  disclosedVolume := order.request.disclosedVolume
  disclosedVolumeRemaining :=
    if txnCode == kTxnOrderErrorTrimmed then 0 else order.request.disclosedVolume
  totalVolumeRemaining := if txnCode == kTxnOrderErrorTrimmed then 0 else order.request.volume
  volume := order.request.volume
  volumeFilledToday := 0
  price := order.request.price
  goodTillDate := order.request.goodTillDate
  entryDateTime := byteswap order.eventSeconds
  lastModified := byteswap order.eventSeconds
  orderFlags1 := order.request.orderFlags1
  orderFlags2 := order.request.orderFlags2
  branchId := order.request.branchId
  traderId := order.request.traderId
  brokerId := order.request.brokerId
  openClose := order.request.openClose
  settlor := order.request.settlor
  proClientIndicator := order.request.proClientIndicator
  additionalFlags := order.request.additionalFlags
  filler := order.request.filler
  nnfField := order.request.nnfField
  timeStamp3 := byteswap order.eventNanos
  pan := order.request.pan
  algoId := order.request.algoId
  uniqueId := order.request.uniqueId
  lastActivityReference := byteswap order.lastActivityReference

theorem lastStampByte_lt : 7 < 8 := by decide

theorem activitySize : #['T'.toUInt8, 'R'.toUInt8].size = 2 := rfl

def sendTradeResponse (order : OrderSnapshot) : TradeConfirmationPayload where
  transactionCode := byteswap kTxnTradeConfirmationTrimmed
  logTime := byteswap order.eventSeconds
  traderId := byteswap order.userId
  timeStamp := byteswap order.eventNanos
  timeStamp1 := byteswap order.eventNanos
  timeStamp2 := (Vector.replicate 8 0).set 7 config.defaultStreamNo lastStampByte_lt
  responseOrderNumber := hostToWireDouble (uint64ToDouble order.exchangeOrderNumber)
  brokerId := order.request.brokerId
  accountNumber := order.request.accountNumber
  buySellIndicator := order.request.buySellIndicator
  originalVolume := order.request.volume
  disclosedVolume := order.request.disclosedVolume
  remainingVolume := 0
  disclosedVolumeRemaining := 0
  price := order.request.price
  orderFlags1 := order.request.orderFlags1
  orderFlags2 := order.request.orderFlags2
  goodTillDate := order.request.goodTillDate
  fillNumber := byteswap order.fillNumber
  fillQuantity := order.request.volume
  fillPrice := order.request.price
  volumeFilledToday := order.request.volume
  activityType := ⟨#['T'.toUInt8, 'R'.toUInt8], activitySize⟩
  activityTime := byteswap order.eventSeconds
  token := order.request.tokenNo
  contractDescription := order.request.contractDescription
  openClose := order.request.openClose
  bookType := order.bookType.toUInt8
  participant := order.request.settlor
  additionalFlags := order.request.additionalFlags
  pan := order.request.pan
  algoId := order.request.algoId
  lastActivityReference := byteswap order.lastActivityReference

/-- The snapshot of an order that is turned down. -/
def rejectedSnapshot (now : ClockReading) (request : OrderEntryRequestPayload) : OrderSnapshot where
  request := request
  userId := byteswap request.userId
  eventSeconds := now.seconds
  eventNanos := now.nanos
  lastActivityReference := 0

/-- The order entry case of `handleReadyPayload`, as a machine that answers a request, given with the
reading of the clock, with responses. -/
def orderEntry :
    Lib.Machine FillEngine (ClockReading × OrderEntryRequestPayload) Server.Response
  | engine, (now, request) =>
      match engine.acceptLimitOrder now request with
      | (none, engine) =>
          ([.order (sendOrderResponse config (rejectedSnapshot now request) kTxnOrderErrorTrimmed
              kErrorUnsupportedOrder)], engine)
      | (some accepted, engine) =>
          ([.order (sendOrderResponse config accepted kTxnOrderConfirmationTrimmed 0),
              .trade (sendTradeResponse config accepted)], engine)

end NseFoExchangeSim.Simulator
