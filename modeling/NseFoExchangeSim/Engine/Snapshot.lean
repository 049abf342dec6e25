import NseFoExchangeSim.Protocol.Wire

/-!
# Orders and events

`OrderSnapshot` and `EngineEvent` of `runtime.cpp`, the functions that build a snapshot from a request,
check it, stamp it with the clock, and apply a fill to it.
-/

namespace NseFoExchangeSim.Engine

open Protocol

/-- What a `weak_ptr<SessionConnection>` points at. -/
abbrev SessionRef := Nat

/-- One reading of the system clock: `nowSeconds32` and `nowNanos`. -/
structure ClockReading where
  seconds : UInt32
  nanos : UInt64
deriving DecidableEq, Repr

structure OrderSnapshot where
  userId : UInt32 := 0
  token : UInt32 := 0
  contractDescription : ContractDescTr := {}
  accountNumber : Vector UInt8 10 := .replicate 10 0
  bookType : UInt16 := 0
  side : UInt16 := 0
  disclosedVolume : UInt32 := 0
  disclosedVolumeRemaining : UInt32 := 0
  totalVolumeRemaining : UInt32 := 0
  volume : UInt32 := 0
  volumeFilledToday : UInt32 := 0
  price : UInt32 := 0
  goodTillDate : UInt32 := 0
  orderFlags1 : UInt8 := 0
  orderFlags2 : UInt8 := 0
  branchId : UInt16 := 0
  traderId : UInt32 := 0
  brokerId : Vector UInt8 5 := .replicate 5 0
  openClose : UInt8 := 32
  settlor : Vector UInt8 12 := .replicate 12 0
  proClientIndicator : UInt16 := 0
  additionalFlags : UInt8 := 0
  filler : UInt32 := 0
  nnfFieldWire : DoubleBits := 0
  pan : Vector UInt8 10 := .replicate 10 0
  algoId : UInt32 := 0
  uniqueId : UInt16 := 0
  exchangeOrderNumber : UInt64 := 0
  lastActivityReference : UInt64 := 0
  fillNumber : UInt32 := 0
  eventNanos : UInt64 := 0
  eventSeconds : UInt32 := 0
  entryDateTime : UInt32 := 0
  lastModified : UInt32 := 0
  ioc : Bool := false
  sessionId : UInt64 := 0
  session : SessionRef := 0
deriving DecidableEq, Repr

structure EngineEvent where
  session : SessionRef
  order : OrderSnapshot
  txnCode : UInt16 := 0
  errorCode : UInt16 := 0
  fillQuantity : UInt32 := 0
  fillPrice : UInt32 := 0
deriving DecidableEq, Repr

def makeOrderEvent (order : OrderSnapshot) (txnCode errorCode : UInt16) : EngineEvent :=
  { session := order.session, order := order, txnCode := txnCode, errorCode := errorCode }

def makeTradeEvent (order : OrderSnapshot) (fillPrice fillQuantity : UInt32) : EngineEvent :=
  { session := order.session, order := order, txnCode := kTxnTradeConfirmationTrimmed,
    fillPrice := fillPrice, fillQuantity := fillQuantity }

/-! ## Building a snapshot from a request -/

def buildSnapshotFromEntryRequest (request : OrderEntryRequestPayload) (sessionId : UInt64)
    (session : SessionRef) : OrderSnapshot :=
  { userId := byteswap request.userId
    token := byteswap request.tokenNo
    contractDescription := request.contractDescription
    accountNumber := request.accountNumber
    bookType := byteswap request.bookType
    side := byteswap request.buySellIndicator
    disclosedVolume := byteswap request.disclosedVolume
    disclosedVolumeRemaining := byteswap request.disclosedVolume
    totalVolumeRemaining := byteswap request.volume
    volume := byteswap request.volume
    price := byteswap request.price
    goodTillDate := byteswap request.goodTillDate
    orderFlags1 := request.orderFlags1
    orderFlags2 := request.orderFlags2
    branchId := byteswap request.branchId
    traderId := byteswap request.traderId
    brokerId := request.brokerId
    openClose := request.openClose
    settlor := request.settlor
    proClientIndicator := byteswap request.proClientIndicator
    additionalFlags := request.additionalFlags
    filler := byteswap request.filler
    nnfFieldWire := request.nnfField
    pan := request.pan
    algoId := byteswap request.algoId
    uniqueId := byteswap request.uniqueId
    ioc := request.orderFlags1 == kOrderFlagsIoc
    sessionId := sessionId
    session := session }

def buildSnapshotFromUpdateRequest (request : OrderUpdateRequestPayload) (sessionId : UInt64)
    (session : SessionRef) : OrderSnapshot :=
  { userId := byteswap request.userId
    token := byteswap request.tokenNo
    contractDescription := request.contractDescription
    accountNumber := request.accountNumber
    bookType := byteswap request.bookType
    side := byteswap request.buySellIndicator
    disclosedVolume := byteswap request.disclosedVolume
    disclosedVolumeRemaining := byteswap request.disclosedVolumeRemaining
    totalVolumeRemaining := byteswap request.totalVolumeRemaining
    volume := byteswap request.volume
    volumeFilledToday := byteswap request.volumeFilledToday
    price := byteswap request.price
    goodTillDate := byteswap request.goodTillDate
    entryDateTime := byteswap request.entryDateTime
    lastModified := byteswap request.lastModified
    orderFlags1 := request.orderFlags1
    orderFlags2 := request.orderFlags2
    branchId := byteswap request.branchId
    traderId := byteswap request.traderId
    brokerId := request.brokerId
    openClose := request.openClose
    settlor := request.settlor
    proClientIndicator := byteswap request.proClientIndicator
    additionalFlags := request.additionalFlags
    filler := byteswap request.filler
    nnfFieldWire := request.nnfField
    pan := request.pan
    algoId := byteswap request.algoId
    uniqueId := byteswap request.uniqueId
    lastActivityReference := byteswap request.lastActivityReference
    sessionId := sessionId
    session := session }

/-- `outOfRange` stands for the value the cast yields where C++ leaves it undefined. -/
def decodeExchangeOrderNumber (outOfRange : DoubleBits → UInt64) (wireOrderNumber : DoubleBits) :
    UInt64 :=
  (truncToUInt64 (wireToHostDouble wireOrderNumber)).getD
    (outOfRange (wireToHostDouble wireOrderNumber))

/-! ## Validity -/

def isValidSide (side : UInt16) : Bool := side == 1 || side == 2

def isValidNewOrder (snapshot : OrderSnapshot) (request : OrderEntryRequestPayload) : Bool :=
  let transactionCode := byteswap request.transactionCode
  let supportedFlags :=
    (request.orderFlags1 == kOrderFlagsDay && request.orderFlags2 == 0) ||
      (request.orderFlags1 == kOrderFlagsIoc && request.orderFlags2 == 0)
  transactionCode == kTxnOrderEntryTrimmed && snapshot.bookType == 1 && supportedFlags &&
    snapshot.openClose == 'O'.toUInt8 && decide (snapshot.volume > 0) &&
    decide (snapshot.price > 0) && isValidSide snapshot.side

def isValidModifyRequest (snapshot : OrderSnapshot) (request : OrderUpdateRequestPayload) : Bool :=
  let transactionCode := byteswap request.transactionCode
  transactionCode == kTxnOrderModificationTrimmed && snapshot.bookType == 1 &&
    snapshot.orderFlags1 == kOrderFlagsDay && snapshot.orderFlags2 == 0x10 &&
    snapshot.openClose == 'O'.toUInt8 && decide (snapshot.volume > 0) &&
    decide (snapshot.price > 0) && snapshot.exchangeOrderNumber != 0 && isValidSide snapshot.side

def isValidCancelRequest (snapshot : OrderSnapshot) (request : OrderUpdateRequestPayload) : Bool :=
  let transactionCode := byteswap request.transactionCode
  transactionCode == kTxnOrderCancellationTrimmed && snapshot.bookType == 1 &&
    snapshot.orderFlags1 == kOrderFlagsDay && snapshot.orderFlags2 == 0 &&
    snapshot.openClose == 'O'.toUInt8 && snapshot.exchangeOrderNumber != 0 &&
    isValidSide snapshot.side

/-! ## Changing a snapshot -/

def stampOrder (order : OrderSnapshot) (setEntryTime : Bool) (now : ClockReading) : OrderSnapshot :=
  { order with
    eventSeconds := now.seconds
    eventNanos := now.nanos
    entryDateTime :=
      if setEntryTime || order.entryDateTime == 0 then now.seconds else order.entryDateTime
    lastModified := now.seconds }

def applyFillToSnapshot (order : OrderSnapshot) (fillQuantity : UInt32) : OrderSnapshot :=
  let appliedFill := min fillQuantity order.totalVolumeRemaining
  { order with
    volumeFilledToday := order.volumeFilledToday + appliedFill
    totalVolumeRemaining := order.totalVolumeRemaining - appliedFill
    disclosedVolumeRemaining :=
      if appliedFill ≥ order.disclosedVolumeRemaining then 0
      else order.disclosedVolumeRemaining - appliedFill }

/-- The snapshot of a trade: the steps the three fill paths share, from the activity reference to the
stamp. -/
def fillSnapshot (order : OrderSnapshot) (lastActivityReference : UInt64) (fillNumber : UInt32)
    (fillQuantity : UInt32) (now : ClockReading) : OrderSnapshot :=
  stampOrder
    (applyFillToSnapshot
      { order with lastActivityReference := lastActivityReference, fillNumber := fillNumber }
      fillQuantity)
    false now

/-- The snapshot of a cancellation: the steps `onCancelOrder` and `cancelUnfilledOrderLocked` share. -/
def cancelSnapshot (order : OrderSnapshot) (lastActivityReference : UInt64) (now : ClockReading) :
    OrderSnapshot :=
  stampOrder
    { order with
      lastActivityReference := lastActivityReference
      disclosedVolumeRemaining := 0
      totalVolumeRemaining := 0 }
    false now

/-- The total remaining volume a modification leaves on the live order. -/
def modifiedRemaining (request : OrderSnapshot) : UInt32 :=
  if request.totalVolumeRemaining == 0 && decide (request.volume > 0) then request.volume
  else min request.totalVolumeRemaining request.volume

/-- The live order after an accepted modification: every field `onModifyOrder` copies. -/
def modifySnapshot (live request : OrderSnapshot) (lastActivityReference : UInt64)
    (now : ClockReading) : OrderSnapshot :=
  stampOrder
    { live with
      contractDescription := request.contractDescription
      accountNumber := request.accountNumber
      disclosedVolume := request.disclosedVolume
      disclosedVolumeRemaining :=
        if request.disclosedVolumeRemaining == 0 && decide (request.disclosedVolume > 0) then
          request.disclosedVolume
        else min request.disclosedVolumeRemaining request.disclosedVolume
      totalVolumeRemaining := modifiedRemaining request
      volume := request.volume
      volumeFilledToday := request.volumeFilledToday
      price := request.price
      goodTillDate := request.goodTillDate
      orderFlags1 := request.orderFlags1
      orderFlags2 := request.orderFlags2
      branchId := request.branchId
      traderId := request.traderId
      brokerId := request.brokerId
      openClose := request.openClose
      settlor := request.settlor
      proClientIndicator := request.proClientIndicator
      additionalFlags := request.additionalFlags
      filler := request.filler
      nnfFieldWire := request.nnfFieldWire
      pan := request.pan
      algoId := request.algoId
      uniqueId := request.uniqueId
      lastActivityReference := lastActivityReference }
    false now

end NseFoExchangeSim.Engine
