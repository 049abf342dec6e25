import NseFoExchangeSim.Lib.Trace
import NseFoExchangeSim.Server.Connection
import NseFoExchangeSim.Simulator.FillEngine

/-!
# Tracked orders of the earlier session

The ready phase of `SessionConnection` in `simulator.cpp`. A session keeps a state for every order it
was told is accepted, and answers modifications and cancellations from it. All sessions share the fill
engine; each handles its own payloads, one at a time.
-/

namespace NseFoExchangeSim.Simulator

open Lib Protocol Engine
open Server (Message)

/-! ## Requests -/

/-- The layout is that of `OrderUpdateRequestPayload`, field for field. -/
abbrev OrderModifyCancelRequestPayload := OrderUpdateRequestPayload

structure PriceVolumeModificationRequestPayload where
  headerTraderId : UInt32 := 0
  tokenNo : UInt32 := 0
  traderId : UInt32 := 0
  orderNumber : DoubleBits := 0
  buySell : UInt16 := 0
  price : UInt32 := 0
  volume : UInt32 := 0
  lastModified : UInt32 := 0
  filler : UInt32 := 0
  lastActivityReference : UInt64 := 0
deriving DecidableEq, Repr

def priceVolumeModificationRequestSize : Nat := 106

def PriceVolumeModificationRequestPayload.ofBytes (bytes : List UInt8) :
    PriceVolumeModificationRequestPayload where
  headerTraderId := load32 bytes 8
  tokenNo := load32 bytes 40
  traderId := load32 bytes 44
  orderNumber := load64 bytes 48
  buySell := load16 bytes 56
  price := load32 bytes 58
  volume := load32 bytes 62
  lastModified := load32 bytes 66
  filler := load32 bytes 70
  lastActivityReference := load64 bytes 74

/-! ## Tracked orders -/

structure TrackedOrderState where
  contractDescription : ContractDescTr := {}
  accountNumber : Vector UInt8 10 := .replicate 10 0
  brokerId : Vector UInt8 5 := .replicate 5 0
  settlor : Vector UInt8 12 := .replicate 12 0
  pan : Vector UInt8 10 := .replicate 10 0
  userId : UInt32 := 0
  traderId : UInt32 := 0
  token : UInt32 := 0
  bookType : UInt16 := 0
  side : UInt16 := 0
  disclosedVolume : UInt32 := 0
  disclosedVolumeRemaining : UInt32 := 0
  totalVolume : UInt32 := 0
  totalVolumeRemaining : UInt32 := 0
  volumeFilledToday : UInt32 := 0
  price : UInt32 := 0
  goodTillDate : UInt32 := 0
  entryDateTime : UInt32 := 0
  lastModified : UInt32 := 0
  orderFlags1 : UInt8 := 0
  orderFlags2 : UInt8 := 0
  branchId : UInt16 := 0
  openClose : UInt8 := ' '.toUInt8
  proClientIndicator : UInt16 := 0
  additionalFlags : UInt8 := 0
  filler : UInt32 := 0
  nnfField : DoubleBits := 0
  algoId : UInt32 := 0
  uniqueId : UInt16 := 0
  exchangeOrderNumber : UInt64 := 0
  lastActivityReference : UInt64 := 0
  eventNanos : UInt64 := 0
  eventSeconds : UInt32 := 0
deriving DecidableEq, Repr

/-- `tracked_orders_`, by order number. -/
abbrev TrackedOrders := Std.ExtTreeMap UInt64 TrackedOrderState

/-- The surroundings of a payload: the clock, and what a cast gives that C++ leaves undefined. -/
structure ReadyEnv where
  now : ClockReading
  outOfRange : DoubleBits → UInt64

def exchangeOrderNumberFromWire (env : ReadyEnv) (wireOrderNumber : DoubleBits) : UInt64 :=
  (truncToUInt64 (wireToHostDouble wireOrderNumber)).getD
    (env.outOfRange (wireToHostDouble wireOrderNumber))

def touchTrackedOrder (now : ClockReading) (requestLastActivityReference : UInt64)
    (order : TrackedOrderState) : TrackedOrderState :=
  { order with
    eventNanos := now.nanos
    eventSeconds := now.seconds
    lastModified := now.seconds
    entryDateTime := if order.entryDateTime = 0 then now.seconds else order.entryDateTime
    lastActivityReference := max order.lastActivityReference requestLastActivityReference + 1 }

/-- `makeTrackedOrderState` of an accepted order. -/
def trackedOfSnapshot (order : OrderSnapshot) : TrackedOrderState where
  contractDescription := order.request.contractDescription
  accountNumber := order.request.accountNumber
  brokerId := order.request.brokerId
  settlor := order.request.settlor
  pan := order.request.pan
  userId := order.userId
  traderId := byteswap order.request.traderId
  token := order.token
  bookType := order.bookType
  side := order.side
  disclosedVolume := order.disclosedVolume
  disclosedVolumeRemaining := order.disclosedVolume
  totalVolume := order.volume
  totalVolumeRemaining := order.volume
  volumeFilledToday := 0
  price := order.price
  goodTillDate := byteswap order.request.goodTillDate
  entryDateTime := order.eventSeconds
  lastModified := order.eventSeconds
  orderFlags1 := order.request.orderFlags1
  orderFlags2 := order.request.orderFlags2
  branchId := order.branchId
  openClose := order.request.openClose
  proClientIndicator := byteswap order.request.proClientIndicator
  additionalFlags := order.request.additionalFlags
  filler := order.clientOrderId
  nnfField := wireToHostDouble order.request.nnfField
  algoId := order.algoId
  uniqueId := order.uniqueId
  exchangeOrderNumber := order.exchangeOrderNumber
  lastActivityReference := order.lastActivityReference
  eventNanos := order.eventNanos
  eventSeconds := order.eventSeconds

/-- `makeTrackedOrderState` of a trimmed modification or a cancellation. -/
def trackedOfModifyCancel (env : ReadyEnv) (request : OrderModifyCancelRequestPayload) :
    TrackedOrderState where
  contractDescription := request.contractDescription
  accountNumber := request.accountNumber
  brokerId := request.brokerId
  settlor := request.settlor
  pan := request.pan
  userId := byteswap request.userId
  traderId := byteswap request.traderId
  token := byteswap request.tokenNo
  bookType := byteswap request.bookType
  side := byteswap request.buySellIndicator
  disclosedVolume := byteswap request.disclosedVolume
  disclosedVolumeRemaining := byteswap request.disclosedVolumeRemaining
  totalVolumeRemaining := byteswap request.totalVolumeRemaining
  volumeFilledToday := byteswap request.volumeFilledToday
  totalVolume := byteswap request.totalVolumeRemaining + byteswap request.volumeFilledToday
  price := byteswap request.price
  goodTillDate := byteswap request.goodTillDate
  entryDateTime := byteswap request.entryDateTime
  lastModified := byteswap request.lastModified
  orderFlags1 := request.orderFlags1
  orderFlags2 := request.orderFlags2
  branchId := byteswap request.branchId
  openClose := request.openClose
  proClientIndicator := byteswap request.proClientIndicator
  additionalFlags := request.additionalFlags
  filler := byteswap request.filler
  nnfField := wireToHostDouble request.nnfField
  algoId := byteswap request.algoId
  uniqueId := byteswap request.uniqueId
  exchangeOrderNumber := exchangeOrderNumberFromWire env request.orderNumber
  lastActivityReference := byteswap request.lastActivityReference

/-- `makeTrackedOrderState` of a price and volume modification. -/
def trackedOfPriceVolume (request : PriceVolumeModificationRequestPayload)
    (exchangeOrderNumber : UInt64) : TrackedOrderState where
  userId := byteswap request.headerTraderId
  traderId := byteswap request.traderId
  token := byteswap request.tokenNo
  side := byteswap request.buySell
  totalVolume := byteswap request.volume
  totalVolumeRemaining := byteswap request.volume
  disclosedVolume := byteswap request.volume
  disclosedVolumeRemaining := byteswap request.volume
  price := byteswap request.price
  lastModified := byteswap request.lastModified
  filler := byteswap request.filler
  exchangeOrderNumber := exchangeOrderNumber
  lastActivityReference := byteswap request.lastActivityReference

/-- The search by filler takes the first entry in the order of the numbers. -/
def findByFiller (orders : TrackedOrders) (filler : UInt32) : Option (UInt64 × TrackedOrderState) :=
  if filler = 0 then none else orders.toList.find? fun entry => entry.2.filler == filler

/-- The entry whose order state the source returns a pointer to. -/
def findTrackedOrder (orders : TrackedOrders) (exchangeOrderNumber : UInt64) (filler : UInt32) :
    Option (UInt64 × TrackedOrderState) :=
  if exchangeOrderNumber ≠ 0 then
    match orders[exchangeOrderNumber]? with
    | some order => some (exchangeOrderNumber, order)
    | none => findByFiller orders filler
  else findByFiller orders filler

def rememberAcceptedOrder (order : OrderSnapshot) (orders : TrackedOrders) : TrackedOrders :=
  orders.insert order.exchangeOrderNumber (trackedOfSnapshot order)

/-- The fields that `markOrderFilled` sets. -/
def filled (order : TrackedOrderState) : TrackedOrderState :=
  { order with
    volumeFilledToday := order.totalVolume
    totalVolumeRemaining := 0
    disclosedVolumeRemaining := 0 }

def markOrderFilled (exchangeOrderNumber : UInt64) (orders : TrackedOrders) : TrackedOrders :=
  match findTrackedOrder orders exchangeOrderNumber 0 with
  | none => orders
  | some (number, order) => orders.insert number (filled order)

def hasEmittedFill (order : TrackedOrderState) : Bool :=
  0 < order.totalVolume && order.totalVolumeRemaining == 0 &&
    order.totalVolume ≤ order.volumeFilledToday

def applyTrimmedModification (env : ReadyEnv) (request : OrderModifyCancelRequestPayload)
    (order : TrackedOrderState) : TrackedOrderState :=
  touchTrackedOrder env.now (byteswap request.lastActivityReference)
    { order with
      contractDescription := request.contractDescription
      accountNumber := request.accountNumber
      brokerId := request.brokerId
      settlor := request.settlor
      pan := request.pan
      userId := byteswap request.userId
      traderId := byteswap request.traderId
      token := byteswap request.tokenNo
      bookType := byteswap request.bookType
      side := byteswap request.buySellIndicator
      disclosedVolume := byteswap request.disclosedVolume
      disclosedVolumeRemaining := byteswap request.disclosedVolumeRemaining
      totalVolumeRemaining := byteswap request.totalVolumeRemaining
      volumeFilledToday := byteswap request.volumeFilledToday
      totalVolume := byteswap request.totalVolumeRemaining + byteswap request.volumeFilledToday
      price := byteswap request.price
      goodTillDate := byteswap request.goodTillDate
      entryDateTime := byteswap request.entryDateTime
      orderFlags1 := request.orderFlags1
      orderFlags2 := request.orderFlags2
      branchId := byteswap request.branchId
      openClose := request.openClose
      proClientIndicator := byteswap request.proClientIndicator
      additionalFlags := request.additionalFlags
      filler := byteswap request.filler
      nnfField := wireToHostDouble request.nnfField
      algoId := byteswap request.algoId
      uniqueId := byteswap request.uniqueId
      exchangeOrderNumber := exchangeOrderNumberFromWire env request.orderNumber }

def applyTrimmedCancellation (env : ReadyEnv) (request : OrderModifyCancelRequestPayload)
    (order : TrackedOrderState) : TrackedOrderState :=
  { applyTrimmedModification env request order with
    disclosedVolumeRemaining := 0
    totalVolumeRemaining := 0 }

def applyPriceVolumeModification (env : ReadyEnv) (request : PriceVolumeModificationRequestPayload)
    (order : TrackedOrderState) : TrackedOrderState :=
  let totalVolume := byteswap request.volume
  let volumeFilledToday := min order.volumeFilledToday totalVolume
  touchTrackedOrder env.now (byteswap request.lastActivityReference)
    { order with
      userId := byteswap request.headerTraderId
      traderId := byteswap request.traderId
      token := byteswap request.tokenNo
      side := byteswap request.buySell
      price := byteswap request.price
      filler := byteswap request.filler
      totalVolume := totalVolume
      volumeFilledToday := volumeFilledToday
      totalVolumeRemaining := totalVolume - volumeFilledToday
      disclosedVolume := totalVolume
      disclosedVolumeRemaining := totalVolume - volumeFilledToday
      exchangeOrderNumber := exchangeOrderNumberFromWire env request.orderNumber }

/-! ## Responses -/

section Responses

variable (config : Config)

def sendTrackedOrderResponse (order : TrackedOrderState) (txnCode errorCode : UInt16)
    (responseVolume : UInt32) : OrderConfirmationPayload where
  transactionCode := byteswap txnCode
  logTime := byteswap order.eventSeconds
  userId := byteswap order.userId
  errorCode := byteswap errorCode
  timeStamp1 := byteswap order.eventNanos
  timeStamp2 := config.defaultStreamNo
  modifiedCancelledBy := 'T'.toUInt8
  reasonCode := 0
  tokenNo := byteswap order.token
  contractDescription := order.contractDescription
  closeOutFlag := ' '.toUInt8
  orderNumber := hostToWireDouble (uint64ToDouble order.exchangeOrderNumber)
  accountNumber := order.accountNumber
  bookType := byteswap order.bookType
  buySellIndicator := byteswap order.side
  disclosedVolume := byteswap order.disclosedVolume
  disclosedVolumeRemaining := byteswap order.disclosedVolumeRemaining
  totalVolumeRemaining := byteswap order.totalVolumeRemaining
  volume := byteswap responseVolume
  volumeFilledToday := byteswap order.volumeFilledToday
  price := byteswap order.price
  goodTillDate := byteswap order.goodTillDate
  entryDateTime := byteswap order.entryDateTime
  lastModified := byteswap order.lastModified
  orderFlags1 := order.orderFlags1
  orderFlags2 := order.orderFlags2
  branchId := byteswap order.branchId
  traderId := byteswap order.traderId
  brokerId := order.brokerId
  openClose := order.openClose
  settlor := order.settlor
  proClientIndicator := byteswap order.proClientIndicator
  additionalFlags := order.additionalFlags
  filler := byteswap order.filler
  nnfField := hostToWireDouble order.nnfField
  timeStamp3 := byteswap order.eventNanos
  pan := order.pan
  algoId := byteswap order.algoId
  uniqueId := byteswap order.uniqueId
  lastActivityReference := byteswap order.lastActivityReference

end Responses

/-! ## Payloads -/

/-- How a modification or a cancellation names its order. -/
structure OrderName where
  number : UInt64
  filler : UInt32
deriving DecidableEq, Repr

/-- What a session does with a payload. A modification and a cancellation come with the number they
were found under, if any. -/
inductive ReadyEvent
  | direct (message : Message)
  | refused (response : OrderConfirmationPayload)
  | accepted (order : OrderSnapshot) (confirmation : OrderConfirmationPayload)
      (trade : TradeConfirmationPayload)
  | modified (name : OrderName) (found : Option UInt64) (response : OrderConfirmationPayload)
  | cancelled (name : OrderName) (found : Option UInt64) (response : OrderConfirmationPayload)
  | ended (what : String)

/-- The members of a session that the ready phase uses. -/
structure SessionConnection where
  loggedInUserId : UInt32 := 0
  trackedOrders : TrackedOrders := ∅
  ended : Bool := false

/-- What was done, and the engine and the session after it; or an exception. -/
abbrev ReadyResult := Except String (List ReadyEvent × FillEngine × SessionConnection)

section Handlers

variable (config : Config) (env : ReadyEnv) (payload : List UInt8) (engine : FillEngine)
  (session : SessionConnection)

def SessionConnection.track (orders : TrackedOrders) : SessionConnection :=
  { session with trackedOrders := orders }

/-- An order that was found to be filled is touched and reported as it is. -/
def sendFilledModificationError (requestLastActivityReference : UInt64) (order : TrackedOrderState) :
    OrderConfirmationPayload × TrackedOrderState :=
  let order := touchTrackedOrder env.now requestLastActivityReference order
  (sendTrackedOrderResponse config order kTxnOrderModificationErrorTrimmed kErrorOrderAlreadyFilled
    order.totalVolumeRemaining, order)

/-- Both forms of a modification: the state that stands for an unknown order, and the one that replaces
a known one. -/
def modifyTracked (name : OrderName) (requestLastActivityReference : UInt64)
    (fallback : TrackedOrderState) (apply : TrackedOrderState → TrackedOrderState) :
    ReadyEvent × TrackedOrders :=
  match findTrackedOrder session.trackedOrders name.number name.filler with
  | none =>
      let fallback := touchTrackedOrder env.now requestLastActivityReference fallback
      (.modified name none (sendTrackedOrderResponse config fallback
        kTxnOrderModificationErrorTrimmed kErrorUnknownOrder fallback.totalVolumeRemaining),
        session.trackedOrders)
  | some (number, order) =>
      if hasEmittedFill order then
        let answer := sendFilledModificationError config env requestLastActivityReference order
        (.modified name number answer.1, session.trackedOrders.insert number answer.2)
      else
        let order := apply order
        (.modified name number (sendTrackedOrderResponse config order
          kTxnOrderModificationConfirmationTrimmed 0 order.totalVolumeRemaining),
          session.trackedOrders.insert number order)

def handlePriceVolumeModificationRequest : ReadyResult :=
  if payload.length ≠ priceVolumeModificationRequestSize then
    .error "bad price/volume modification request size"
  else
    let request := PriceVolumeModificationRequestPayload.ofBytes payload
    let exchangeOrderNumber := exchangeOrderNumberFromWire env request.orderNumber
    let done := modifyTracked config env session ⟨exchangeOrderNumber, byteswap request.filler⟩
      (byteswap request.lastActivityReference) (trackedOfPriceVolume request exchangeOrderNumber)
      (applyPriceVolumeModification env request)
    .ok ([done.1], engine, session.track done.2)

def handleTrimmedModificationRequest : ReadyResult :=
  if payload.length ≠ orderUpdateRequestSize then .error "bad modification request size"
  else
    let request : OrderModifyCancelRequestPayload := .ofBytes payload
    let exchangeOrderNumber := exchangeOrderNumberFromWire env request.orderNumber
    let done := modifyTracked config env session ⟨exchangeOrderNumber, byteswap request.filler⟩
      (byteswap request.lastActivityReference) (trackedOfModifyCancel env request)
      (applyTrimmedModification env request)
    .ok ([done.1], engine, session.track done.2)

def handleTrimmedCancellationRequest : ReadyResult :=
  if payload.length ≠ orderUpdateRequestSize then .error "bad cancellation request size"
  else
    let request : OrderModifyCancelRequestPayload := .ofBytes payload
    let name : OrderName :=
      ⟨exchangeOrderNumberFromWire env request.orderNumber, byteswap request.filler⟩
    match findTrackedOrder session.trackedOrders name.number name.filler with
    | none =>
        let fallback :=
          { touchTrackedOrder env.now (byteswap request.lastActivityReference)
              (trackedOfModifyCancel env request) with
            disclosedVolumeRemaining := 0
            totalVolumeRemaining := 0 }
        .ok ([.cancelled name none (sendTrackedOrderResponse config fallback
          kTxnOrderCancellationErrorTrimmed kErrorUnknownOrder 0)], engine, session)
    | some (number, order) =>
        let order := applyTrimmedCancellation env request order
        .ok ([.cancelled name number (sendTrackedOrderResponse config order
          kTxnOrderCancellationConfirmationTrimmed 0 0)], engine,
          session.track (session.trackedOrders.insert number order))

def handleOrderEntry : ReadyResult :=
  if payload.length ≠ orderEntryRequestSize then .error "bad order request size"
  else
    let request := OrderEntryRequestPayload.ofBytes payload
    match engine.acceptLimitOrder env.now request with
    | (none, engine) =>
        .ok ([.refused (sendOrderResponse config (rejectedSnapshot env.now request)
          kTxnOrderErrorTrimmed kErrorUnsupportedOrder)], engine, session)
    | (some accepted, engine) =>
        .ok ([.accepted accepted (sendOrderResponse config accepted kTxnOrderConfirmationTrimmed 0)
            (sendTradeResponse config accepted)], engine,
          session.track (markOrderFilled accepted.exchangeOrderNumber
            (rememberAcceptedOrder accepted session.trackedOrders)))

theorem streamByte_lt : 0 < 2 := by decide

def sendSystemInfoResponse : Message :=
  let header := initializeMessageHeader env.now.seconds kTxnSystemInfoResponse
    session.loggedInUserId systemInfoResponseSize
  .systemInfoResponse
    { header :=
        { header with
          alphaChar := header.alphaChar.set 0 config.defaultStreamNo streamByte_lt }
      boardLotQuantity := byteswap 1
      tickSize := byteswap 5
      disclosedQuantityPercentAllowed := byteswap 100 }

def sendSimpleHeaderResponse (txnCode : UInt16) : Message :=
  .simpleHeaderResponse
    (initializeMessageHeader env.now.seconds txnCode session.loggedInUserId messageHeaderSize)

def handleReadyPayload (txnCode : UInt16) : ReadyResult :=
  if txnCode = kTxnSystemInfoRequest then
    if payload.length ≠ systemInfoRequestSize then .error "bad system info request size"
    else .ok ([.direct (sendSystemInfoResponse config env session)], engine, session)
  else if txnCode = kTxnUpdateLocalDatabase then
    if payload.length ≠ updateLocalDatabaseRequestSize then .error "bad update local db size"
    else
      .ok ([.direct (sendSimpleHeaderResponse env session kTxnUpdateLocalDatabaseTrailer)], engine,
        session)
  else if txnCode = kTxnMessageDownloadRequest then
    if payload.length ≠ messageDownloadRequestSize then .error "bad message download request size"
    else
      .ok ([.direct (sendSimpleHeaderResponse env session kTxnMessageDownloadTrailer)], engine,
        session)
  else if txnCode = kTxnHeartbeat then .ok ([], engine, session)
  else if txnCode = kTxnPriceVolModification then
    handlePriceVolumeModificationRequest config env payload engine session
  else if txnCode = kTxnOrderModificationTrimmed then
    handleTrimmedModificationRequest config env payload engine session
  else if txnCode = kTxnOrderCancellationTrimmed then
    handleTrimmedCancellationRequest config env payload engine session
  else if txnCode = kTxnOrderEntryTrimmed then
    handleOrderEntry config env payload engine session
  else .error "unsupported transaction code"

/-- `handlePayload` in the ready phase. -/
def handlePayload : ReadyResult :=
  if payload.length < 2 then .error "payload too small"
  else handleReadyPayload config env payload engine session (byteswap (load16 payload 0))

end Handlers

/-! ## The sessions -/

/-- The fill engine and the sessions that use it. -/
structure ReadySessions where
  engine : FillEngine
  session : Nat → SessionConnection := fun _ => {}

def ReadySessions.init (config : Config) : ReadySessions where
  engine := FillEngine.init config

/-- A payload that a session has received. -/
structure Arrival where
  session : Nat
  env : ReadyEnv
  payload : List UInt8

/-- A turn of a session's loop. An exception ends the session. -/
def readySessions (config : Config) : Machine ReadySessions Arrival (Nat × ReadyEvent)
  | state, arrival =>
      let session := state.session arrival.session
      if session.ended then ([], state)
      else
        match handlePayload config arrival.env arrival.payload state.engine session with
        | .error what =>
            ([(arrival.session, .ended what)],
              { state with
                session := Function.update state.session arrival.session
                  { session with ended := true } })
        | .ok (events, engine, session) =>
            (events.map (arrival.session, ·),
              { engine, session := Function.update state.session arrival.session session })

end NseFoExchangeSim.Simulator
