import NseFoExchangeSim.Config
import NseFoExchangeSim.Lib.MultiIndex
import NseFoExchangeSim.Engine.Snapshot
import NseFoExchangeSim.Engine.Book

/-!
# The matching engine

`MatchingEngine` of `runtime.cpp`. Every public operation takes the mutex for its whole body, so it is
a function from the state before to the events it returns and the state after. What an operation reads
from outside (the clock, whether a session object is gone, a cast C++ leaves undefined) is in `CallEnv`.
-/

namespace NseFoExchangeSim.Engine

open Std Protocol

/-! ## State -/

/-- `open_orders_`: a row stands under the number its order carries. -/
structure OrderStore where
  rows : ExtTreeMap UInt64 OrderSnapshot
  keyed : ∀ (k : UInt64) (o : OrderSnapshot), rows[k]? = some o → o.exchangeOrderNumber = k

namespace OrderStore

def empty : OrderStore := ⟨∅, by simp⟩

def find? (store : OrderStore) (k : UInt64) : Option OrderSnapshot := store.rows[k]?

/-- Writes an order at its own number. An assignment through an iterator or a reference to a row is
this write too, as it leaves the number of the row alone. -/
def put (store : OrderStore) (order : OrderSnapshot) : OrderStore where
  rows := store.rows.insert order.exchangeOrderNumber order
  keyed := by
    intro k o hk
    rw [ExtTreeMap.getElem?_insert] at hk
    split at hk
    · rename_i he
      cases hk
      exact LawfulEqOrd.compare_eq_iff_eq.mp he
    · exact store.keyed _ _ hk

def erase (store : OrderStore) (k : UInt64) : OrderStore where
  rows := store.rows.erase k
  keyed := by
    intro k' o hk
    rw [ExtTreeMap.getElem?_erase] at hk
    split at hk
    · cases hk
    · exact store.keyed _ _ hk

theorem find?_number {store : OrderStore} {k : UInt64} {o : OrderSnapshot}
    (h : store.find? k = some o) : o.exchangeOrderNumber = k := store.keyed k o h

@[simp] theorem find?_empty (k : UInt64) : empty.find? k = none := by simp [empty, find?]

theorem find?_put (store : OrderStore) (order : OrderSnapshot) (k : UInt64) :
    (store.put order).find? k =
      if k = order.exchangeOrderNumber then some order else store.find? k := by
  simp only [find?, put, ExtTreeMap.getElem?_insert, LawfulEqOrd.compare_eq_iff_eq,
    @eq_comm _ k]

@[simp] theorem find?_put_self (store : OrderStore) (order : OrderSnapshot) :
    (store.put order).find? order.exchangeOrderNumber = some order := by simp [find?_put]

theorem find?_put_of_ne (store : OrderStore) {order : OrderSnapshot} {k : UInt64}
    (h : k ≠ order.exchangeOrderNumber) : (store.put order).find? k = store.find? k := by
  simp [find?_put, h]

theorem find?_erase (store : OrderStore) (k k' : UInt64) :
    (store.erase k).find? k' = if k' = k then none else store.find? k' := by
  simp only [find?, erase, ExtTreeMap.getElem?_erase, LawfulEqOrd.compare_eq_iff_eq,
    @eq_comm _ k']

@[simp] theorem find?_erase_self (store : OrderStore) (k : UInt64) :
    (store.erase k).find? k = none := by simp [find?_erase]

theorem find?_erase_of_ne (store : OrderStore) {k k' : UInt64} (h : k' ≠ k) :
    (store.erase k).find? k' = store.find? k' := by simp [find?_erase, h]

end OrderStore

/-- What a `const OrderSnapshot&` argument is bound to: a copy the caller holds, or the entry of
`open_orders_` at a key. -/
inductive SnapshotArg
  | copy (order : OrderSnapshot)
  | entry (key : UInt64)

/-- A field read through the reference finds the whole snapshot, or nothing when its entry is gone. -/
def SnapshotArg.read (arg : SnapshotArg) (store : OrderStore) : Option OrderSnapshot :=
  match arg with
  | .copy order => some order
  | .entry key => store.find? key

/-- The fixed data of an engine: `config_`, and `allowed_tokens_` as the constructor loads it. -/
structure EngineConfig where
  config : Config := {}
  allowedTokens : ExtTreeSet UInt32 := ∅

/-- The changing data of an engine. `staleReads` is no field of the source: it counts the reads that
went through a reference to an entry already erased. -/
structure EngineState where
  books : ExtTreeMap UInt32 ExternalBook
  openOrders : OrderStore
  openOrderIdsByToken : Lib.MultiIndex UInt32 UInt64
  openOrderIdsBySession : Lib.MultiIndex UInt64 UInt64
  nextExchangeOrderNumber : UInt64
  nextFillNumber : UInt32
  nextLastActivityReference : UInt64
  staleReads : Nat

/-- The two places where an operation asks whether an order's session object is gone. -/
inductive ExpiryCheck
  | scan (orderId : UInt64)
  | fill (orderId : UInt64)
deriving DecidableEq, Repr

/-- What one call reads from outside the engine. -/
structure CallEnv where
  /-- The readings of the clock, in the order the call makes them. -/
  clock : Nat → ClockReading
  expired : ExpiryCheck → SessionRef → Bool
  outOfRange : DoubleBits → UInt64

def EngineConfig.marketDataEnabled (cfg : EngineConfig) : Bool :=
  !cfg.config.marketDataStreams.isEmpty

/-- The state the constructor leaves. -/
def EngineConfig.init (cfg : EngineConfig) : EngineState where
  books := ∅
  openOrders := .empty
  openOrderIdsByToken := .empty
  openOrderIdsBySession := .empty
  nextExchangeOrderNumber := cfg.config.exchangeOrderNumberStart
  nextFillNumber := cfg.config.fillNumberStart
  nextLastActivityReference := 1
  staleReads := 0

variable (cfg : EngineConfig) (env : CallEnv)

/-! ## Books -/

def canTrackTokenLocked (st : EngineState) (token : UInt32) : Bool :=
  if !cfg.marketDataEnabled then true
  else if !cfg.allowedTokens.contains token then false
  else st.books.contains token || decide (st.books.size < cfg.config.maxBookContracts.toNat)

/-- The book of the token, made when it is missing, and the state that holds it; `none` is the null
pointer. -/
def ensureBookLocked (st : EngineState) (token : UInt32) : Option (ExternalBook × EngineState) :=
  if !cfg.marketDataEnabled then none
  else if !canTrackTokenLocked cfg st token then none
  else
    match st.books[token]? with
    | some book => some (book, st)
    | none => some ({}, { st with books := st.books.insert token {} })

/-! ## The open orders and their indexes -/

def storeOpenOrderLocked (snapshot : OrderSnapshot) (st : EngineState) : EngineState :=
  { st with
    openOrders := st.openOrders.put snapshot
    openOrderIdsByToken :=
      st.openOrderIdsByToken.link snapshot.token snapshot.exchangeOrderNumber
    openOrderIdsBySession :=
      st.openOrderIdsBySession.link snapshot.sessionId snapshot.exchangeOrderNumber }

/-- The reads `eraseOpenOrderLocked` makes through its argument, each at its own moment: the number to
erase, then the token, the number again if the token is filed, the session, and the number again if
the session is filed. -/
def eraseReads (arg : SnapshotArg) (snapshot : OrderSnapshot) (st : EngineState) :
    List (Option OrderSnapshot) :=
  let later := arg.read (st.openOrders.erase snapshot.exchangeOrderNumber)
  [arg.read st.openOrders, later] ++
    (if st.openOrderIdsByToken.buckets.contains snapshot.token then [later] else []) ++ [later] ++
    (if st.openOrderIdsBySession.buckets.contains snapshot.sessionId then [later] else [])

/-- Takes an order out of the three maps, with the values the argument has at the call. -/
def eraseOpenOrderLocked (arg : SnapshotArg) (st : EngineState) : EngineState :=
  match arg.read st.openOrders with
  | none => st
  | some snapshot =>
      { st with
        openOrders := st.openOrders.erase snapshot.exchangeOrderNumber
        openOrderIdsByToken :=
          st.openOrderIdsByToken.unlink snapshot.token snapshot.exchangeOrderNumber
        openOrderIdsBySession :=
          st.openOrderIdsBySession.unlink snapshot.sessionId snapshot.exchangeOrderNumber
        staleReads := st.staleReads + (eraseReads arg snapshot st).count none }

/-! ## Matching -/

structure TopOfBookMatch where
  price : UInt32
  quantity : UInt32
deriving DecidableEq, Repr

def matchTopLocked (st : EngineState) (snapshot : OrderSnapshot) : Option TopOfBookMatch :=
  if !cfg.marketDataEnabled then
    some
      { price := snapshot.price
        quantity :=
          if snapshot.totalVolumeRemaining > 0 then snapshot.totalVolumeRemaining
          else snapshot.volume }
  else
    match st.books[snapshot.token]? with
    | none => none
    | some book =>
        if snapshot.side == 1 then
          match book.bestAsk with
          | some (topPrice, topQty) =>
              if topQty > 0 ∧ topPrice ≤ snapshot.price then some ⟨topPrice, topQty⟩ else none
          | none => none
        else if snapshot.side == 2 then
          match book.bestBid with
          | some (topPrice, topQty) =>
              if topQty > 0 ∧ topPrice ≥ snapshot.price then some ⟨topPrice, topQty⟩ else none
          | none => none
        else none

def cancelUnfilledOrderLocked (now : ClockReading) (order : OrderSnapshot) (st : EngineState) :
    List EngineEvent × EngineState :=
  let cancelled := cancelSnapshot order st.nextLastActivityReference now
  ([makeOrderEvent cancelled kTxnOrderCancellationConfirmationTrimmed 0],
    { st with nextLastActivityReference := st.nextLastActivityReference + 1 })

/-- Draws an activity reference and a fill number. -/
def drawFillNumbers (st : EngineState) : EngineState :=
  { st with
    nextLastActivityReference := st.nextLastActivityReference + 1
    nextFillNumber := st.nextFillNumber + 1 }

def fillOpenOrderLocked (now : ClockReading) (exchangeOrderNumber : UInt64)
    (fillPrice availableQuantity : UInt32) (st : EngineState) : List EngineEvent × EngineState :=
  match st.openOrders.find? exchangeOrderNumber with
  | none => ([], st)
  | some live =>
      if env.expired (.fill exchangeOrderNumber) live.session then
        ([], eraseOpenOrderLocked (.entry exchangeOrderNumber) st)
      else
        let fillQuantity := min availableQuantity live.totalVolumeRemaining
        if fillQuantity = 0 then ([], st)
        else
          let filled :=
            fillSnapshot live st.nextLastActivityReference st.nextFillNumber fillQuantity now
          let st := drawFillNumbers st
          ([makeTradeEvent filled fillPrice fillQuantity],
            if filled.totalVolumeRemaining = 0 then
              eraseOpenOrderLocked (.entry exchangeOrderNumber) st
            else { st with openOrders := st.openOrders.put filled })

structure FillRequest where
  orderId : UInt64
  fillPrice : UInt32
  fillQuantity : UInt32
deriving DecidableEq, Repr

/-- The quantities left at the two tops, and the requests and stale orders collected so far. -/
structure ScanState where
  bestBidQty : UInt32
  bestAskQty : UInt32
  fillable : List FillRequest := []
  staleOrders : List OrderSnapshot := []
deriving DecidableEq, Repr

/-- One turn of the scan of `maybeFillRestingOrdersLocked`. -/
def scanOrder (openOrders : OrderStore) (haveBid haveAsk : Bool) (bestBidPrice bestAskPrice : UInt32)
    (acc : ScanState) (orderId : UInt64) : ScanState :=
  match openOrders.find? orderId with
  | none => acc
  | some order =>
      if env.expired (.scan orderId) order.session then
        { acc with staleOrders := acc.staleOrders ++ [order] }
      else if order.side == 1 then
        if haveAsk && decide (bestAskPrice ≤ order.price) && decide (acc.bestAskQty > 0) then
          let fillQuantity := min order.totalVolumeRemaining acc.bestAskQty
          if fillQuantity > 0 then
            { acc with
              fillable := acc.fillable ++ [⟨orderId, bestAskPrice, fillQuantity⟩]
              bestAskQty := acc.bestAskQty - fillQuantity }
          else acc
        else acc
      else if order.side == 2 then
        if haveBid && decide (bestBidPrice ≥ order.price) && decide (acc.bestBidQty > 0) then
          let fillQuantity := min order.totalVolumeRemaining acc.bestBidQty
          if fillQuantity > 0 then
            { acc with
              fillable := acc.fillable ++ [⟨orderId, bestBidPrice, fillQuantity⟩]
              bestBidQty := acc.bestBidQty - fillQuantity }
          else acc
        else acc
      else acc

/-- The sweep of the orders whose session is gone; it holds copies of them. -/
def eraseStaleOrders (staleOrders : List OrderSnapshot) (st : EngineState) : EngineState :=
  staleOrders.foldl (fun st stale => eraseOpenOrderLocked (.copy stale) st) st

/-- The loop over the collected requests; the fill at position `i` stamps with reading `i`. -/
def fillRequests (i : Nat) (fillable : List FillRequest) (st : EngineState) :
    List EngineEvent × EngineState :=
  match fillable with
  | [] => ([], st)
  | fill :: rest =>
      let r := fillOpenOrderLocked env (env.clock i) fill.orderId fill.fillPrice fill.fillQuantity st
      let r' := fillRequests (i + 1) rest r.2
      (r.1 ++ r'.1, r'.2)

def scanRestingOrders (st : EngineState) (ids : ExtTreeSet UInt64) (book : ExternalBook) :
    ScanState :=
  let bid := book.bestBid.getD (0, 0)
  let ask := book.bestAsk.getD (0, 0)
  let haveBid := book.bestBid.isSome && decide (bid.2 > 0)
  let haveAsk := book.bestAsk.isSome && decide (ask.2 > 0)
  ids.toList.foldl (scanOrder env st.openOrders haveBid haveAsk bid.1 ask.1)
    { bestBidQty := bid.2, bestAskQty := ask.2 }

def maybeFillRestingOrdersLocked (token : UInt32) (st : EngineState) :
    List EngineEvent × EngineState :=
  match st.openOrderIdsByToken.buckets[token]? with
  | none => ([], st)
  | some ids =>
      match st.books[token]? with
      | none => ([], st)
      | some book =>
          let scan := scanRestingOrders env st ids book
          fillRequests env 0 scan.fillable (eraseStaleOrders scan.staleOrders st)

/-! ## Client operations -/

/-- The branch of `onNewOrder` without market data: the whole order trades at its own price. -/
def enterImmediate (snapshot : OrderSnapshot) (st : EngineState) : List EngineEvent × EngineState :=
  let filled :=
    fillSnapshot snapshot st.nextLastActivityReference st.nextFillNumber
      snapshot.totalVolumeRemaining (env.clock 1)
  ([makeOrderEvent snapshot kTxnOrderConfirmationTrimmed 0,
      makeTradeEvent filled filled.price filled.volumeFilledToday],
    drawFillNumbers st)

/-- The branch of `onNewOrder` for an IOC order. -/
def enterIoc (snapshot : OrderSnapshot) (st : EngineState) : List EngineEvent × EngineState :=
  let confirmation := makeOrderEvent snapshot kTxnOrderConfirmationTrimmed 0
  match matchTopLocked cfg st snapshot with
  | none =>
      let r := cancelUnfilledOrderLocked (env.clock 1) snapshot st
      (confirmation :: r.1, r.2)
  | some top =>
      let fillQuantity := min snapshot.totalVolumeRemaining top.quantity
      if fillQuantity > 0 then
        let filled :=
          fillSnapshot snapshot st.nextLastActivityReference st.nextFillNumber fillQuantity
            (env.clock 1)
        let st := drawFillNumbers st
        let trade := makeTradeEvent filled top.price fillQuantity
        if filled.totalVolumeRemaining > 0 then
          let r := cancelUnfilledOrderLocked (env.clock 2) filled st
          (confirmation :: trade :: r.1, r.2)
        else ([confirmation, trade], st)
      else
        let r := cancelUnfilledOrderLocked (env.clock 1) snapshot st
        (confirmation :: r.1, r.2)

/-- The branch of `onNewOrder` for a day order. -/
def enterDay (snapshot : OrderSnapshot) (st : EngineState) : List EngineEvent × EngineState :=
  let st := storeOpenOrderLocked snapshot st
  let confirmation := makeOrderEvent snapshot kTxnOrderConfirmationTrimmed 0
  match matchTopLocked cfg st snapshot with
  | none => ([confirmation], st)
  | some top =>
      let r :=
        fillOpenOrderLocked env (env.clock 1) snapshot.exchangeOrderNumber top.price top.quantity st
      (confirmation :: r.1, r.2)

/-- The snapshot of an accepted order: numbered, referenced and stamped. -/
def acceptedSnapshot (snapshot : OrderSnapshot) (st : EngineState) : OrderSnapshot :=
  stampOrder
    { snapshot with
      exchangeOrderNumber := st.nextExchangeOrderNumber
      lastActivityReference := st.nextLastActivityReference }
    true (env.clock 0)

/-- The state in which an accepted order is entered: its book made, its number and reference drawn. -/
def acceptedState (token : UInt32) (st : EngineState) : EngineState :=
  let st := ((ensureBookLocked cfg st token).map Prod.snd).getD st
  { st with
    nextExchangeOrderNumber := st.nextExchangeOrderNumber + 1
    nextLastActivityReference := st.nextLastActivityReference + 1 }

def onNewOrder (request : OrderEntryRequestPayload) (sessionId : UInt64) (session : SessionRef)
    (st : EngineState) : List EngineEvent × EngineState :=
  let snapshot := buildSnapshotFromEntryRequest request sessionId session
  if !isValidNewOrder snapshot request then
    ([makeOrderEvent (stampOrder snapshot true (env.clock 0)) kTxnOrderErrorTrimmed
        kErrorUnsupportedOrder], st)
  else if cfg.marketDataEnabled && !canTrackTokenLocked cfg st snapshot.token then
    ([makeOrderEvent (stampOrder snapshot true (env.clock 0)) kTxnOrderErrorTrimmed
        kErrorUnsupportedToken], st)
  else
    let accepted := acceptedSnapshot env snapshot st
    let st := acceptedState cfg snapshot.token st
    if !cfg.marketDataEnabled then enterImmediate env accepted st
    else if accepted.ioc then enterIoc cfg env accepted st
    else enterDay cfg env accepted st

/-- The snapshot of a modification or cancellation request, its order number decoded. -/
def updateRequestSnapshot (request : OrderUpdateRequestPayload) (sessionId : UInt64)
    (session : SessionRef) : OrderSnapshot :=
  { buildSnapshotFromUpdateRequest request sessionId session with
    exchangeOrderNumber := decodeExchangeOrderNumber env.outOfRange request.orderNumber }

def onModifyOrder (request : OrderUpdateRequestPayload) (sessionId : UInt64) (session : SessionRef)
    (st : EngineState) : List EngineEvent × EngineState :=
  let requestSnapshot := updateRequestSnapshot env request sessionId session
  let reject (errorCode : UInt16) : List EngineEvent × EngineState :=
    ([makeOrderEvent (stampOrder requestSnapshot false (env.clock 0))
        kTxnOrderModificationErrorTrimmed errorCode], st)
  if !isValidModifyRequest requestSnapshot request then reject kErrorUnsupportedOrder
  else
    match st.openOrders.find? requestSnapshot.exchangeOrderNumber with
    | none => reject kErrorUnknownOrder
    | some live =>
        if live.sessionId ≠ sessionId then reject kErrorUnknownOrder
        else if live.token ≠ requestSnapshot.token ∨ live.side ≠ requestSnapshot.side ∨
            live.bookType ≠ requestSnapshot.bookType ∨ live.ioc then
          reject kErrorUnsupportedOrder
        else
          let live := modifySnapshot live requestSnapshot st.nextLastActivityReference (env.clock 0)
          let st :=
            { st with
              openOrders := st.openOrders.put live
              nextLastActivityReference := st.nextLastActivityReference + 1 }
          let confirmation := makeOrderEvent live kTxnOrderModificationConfirmationTrimmed 0
          match matchTopLocked cfg st live with
          | none => ([confirmation], st)
          | some top =>
              let r :=
                fillOpenOrderLocked env (env.clock 1) live.exchangeOrderNumber top.price
                  top.quantity st
              (confirmation :: r.1, r.2)

def onCancelOrder (request : OrderUpdateRequestPayload) (sessionId : UInt64) (session : SessionRef)
    (st : EngineState) : List EngineEvent × EngineState :=
  let requestSnapshot := updateRequestSnapshot env request sessionId session
  let reject (errorCode : UInt16) : List EngineEvent × EngineState :=
    ([makeOrderEvent (stampOrder requestSnapshot false (env.clock 0))
        kTxnOrderCancellationErrorTrimmed errorCode], st)
  if !isValidCancelRequest requestSnapshot request then reject kErrorUnsupportedOrder
  else
    match st.openOrders.find? requestSnapshot.exchangeOrderNumber with
    | none => reject kErrorUnknownOrder
    | some live =>
        if live.sessionId ≠ sessionId then reject kErrorUnknownOrder
        else
          let cancelled := cancelSnapshot live st.nextLastActivityReference (env.clock 0)
          let st := { st with nextLastActivityReference := st.nextLastActivityReference + 1 }
          ([makeOrderEvent cancelled kTxnOrderCancellationConfirmationTrimmed 0],
            eraseOpenOrderLocked (.copy cancelled) st)

/-! ## Market data -/

/-- The book after an order message; `none` for a message type the switch does not know. -/
def applyTbtOrderMessage (message : TbtOrderMessage) (book : ExternalBook) : Option ExternalBook :=
  let isBuy := isTbtBuySide message.orderType
  if message.messageType == 'N'.toUInt8 then
    some (book.onNew message.orderId isBuy message.price message.quantity)
  else if message.messageType == 'M'.toUInt8 then
    some (book.onModify message.orderId isBuy message.price message.quantity)
  else if message.messageType == 'X'.toUInt8 then
    some (book.onCancel message.orderId isBuy message.price message.quantity)
  else none

def onTbtOrderMessage (message : TbtOrderMessage) (st : EngineState) :
    List EngineEvent × EngineState :=
  match ensureBookLocked cfg st message.token with
  | none => ([], st)
  | some (book, st) =>
      match applyTbtOrderMessage message book with
      | none => ([], st)
      | some book =>
          maybeFillRestingOrdersLocked env message.token
            { st with books := st.books.insert message.token book }

def onTbtTradeMessage (message : TbtTradeMessage) (st : EngineState) :
    List EngineEvent × EngineState :=
  match ensureBookLocked cfg st message.token with
  | none => ([], st)
  | some (book, st) =>
      maybeFillRestingOrdersLocked env message.token
        { st with
          books :=
            st.books.insert message.token
              (book.onTrade message.buyOrderId message.sellOrderId message.tradePrice
                message.tradeQuantity) }

/-! ## Session close -/

/-- The loop of `onSessionClosed`; it passes the map's own entry. -/
def eraseOrderIds (orderIds : List UInt64) (st : EngineState) : EngineState :=
  orderIds.foldl
    (fun st orderId =>
      match st.openOrders.find? orderId with
      | none => st
      | some _ => eraseOpenOrderLocked (.entry orderId) st)
    st

def onSessionClosed (sessionId : UInt64) (st : EngineState) : EngineState :=
  match st.openOrderIdsBySession.buckets[sessionId]? with
  | none => st
  | some ids => eraseOrderIds ids.toList st

end NseFoExchangeSim.Engine
