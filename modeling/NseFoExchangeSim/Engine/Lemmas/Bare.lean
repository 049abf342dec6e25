import NseFoExchangeSim.Engine.Run
import NseFoExchangeSim.Protocol.ByteOrder

/-!
# What the engine decides by

An order without the readings of the clock and, unless its session is one of those that are kept,
without the fields that the engine only hands back: who placed it, for which account, with which
descriptions, identifiers and disclosed volume. Every operation does the same with what is left of its
arguments, and what is left of its results is the result.
-/

namespace NseFoExchangeSim.Engine

open Std Protocol

/-! ## Erasure -/

section Erasure

variable (keep : UInt64 → Bool)

def OrderSnapshot.bare (o : OrderSnapshot) : OrderSnapshot :=
  { o with
    userId := if keep o.sessionId then o.userId else 0
    contractDescription := if keep o.sessionId then o.contractDescription else {}
    accountNumber := if keep o.sessionId then o.accountNumber else .replicate 10 0
    disclosedVolume := if keep o.sessionId then o.disclosedVolume else 0
    disclosedVolumeRemaining := if keep o.sessionId then o.disclosedVolumeRemaining else 0
    goodTillDate := if keep o.sessionId then o.goodTillDate else 0
    branchId := if keep o.sessionId then o.branchId else 0
    traderId := if keep o.sessionId then o.traderId else 0
    brokerId := if keep o.sessionId then o.brokerId else .replicate 5 0
    settlor := if keep o.sessionId then o.settlor else .replicate 12 0
    proClientIndicator := if keep o.sessionId then o.proClientIndicator else 0
    additionalFlags := if keep o.sessionId then o.additionalFlags else 0
    filler := if keep o.sessionId then o.filler else 0
    nnfFieldWire := if keep o.sessionId then o.nnfFieldWire else 0
    pan := if keep o.sessionId then o.pan else .replicate 10 0
    algoId := if keep o.sessionId then o.algoId else 0
    uniqueId := if keep o.sessionId then o.uniqueId else 0
    eventNanos := 0
    eventSeconds := 0
    entryDateTime := 0
    lastModified := 0 }

def EngineEvent.bare (e : EngineEvent) : EngineEvent := { e with order := e.order.bare keep }

def OrderStore.bare (store : OrderStore) : OrderStore where
  rows := store.rows.map fun _ o => o.bare keep
  keyed k o ho := by
    rw [ExtTreeMap.getElem?_map] at ho
    obtain ⟨o', hrow, rfl⟩ := Option.map_eq_some_iff.mp ho
    exact store.keyed k o' hrow

def EngineState.bare (st : EngineState) : EngineState :=
  { st with openOrders := st.openOrders.bare keep }

def SnapshotArg.bare : SnapshotArg → SnapshotArg
  | .copy order => .copy (order.bare keep)
  | .entry key => .entry key

/-- Of a request, what is left is what the engine decides by, unless its session is kept. -/
def bareEntry (sessionId : UInt64) (request : OrderEntryRequestPayload) : OrderEntryRequestPayload :=
  { request with
    userId := if keep sessionId then request.userId else 0
    contractDescription := if keep sessionId then request.contractDescription else {}
    accountNumber := if keep sessionId then request.accountNumber else .replicate 10 0
    disclosedVolume := if keep sessionId then request.disclosedVolume else 0
    goodTillDate := if keep sessionId then request.goodTillDate else 0
    branchId := if keep sessionId then request.branchId else 0
    traderId := if keep sessionId then request.traderId else 0
    brokerId := if keep sessionId then request.brokerId else .replicate 5 0
    settlor := if keep sessionId then request.settlor else .replicate 12 0
    proClientIndicator := if keep sessionId then request.proClientIndicator else 0
    additionalFlags := if keep sessionId then request.additionalFlags else 0
    filler := if keep sessionId then request.filler else 0
    nnfField := if keep sessionId then request.nnfField else 0
    pan := if keep sessionId then request.pan else .replicate 10 0
    algoId := if keep sessionId then request.algoId else 0
    uniqueId := if keep sessionId then request.uniqueId else 0 }

def bareUpdate (sessionId : UInt64) (request : OrderUpdateRequestPayload) :
    OrderUpdateRequestPayload :=
  { request with
    userId := if keep sessionId then request.userId else 0
    contractDescription := if keep sessionId then request.contractDescription else {}
    accountNumber := if keep sessionId then request.accountNumber else .replicate 10 0
    disclosedVolume := if keep sessionId then request.disclosedVolume else 0
    disclosedVolumeRemaining := if keep sessionId then request.disclosedVolumeRemaining else 0
    goodTillDate := if keep sessionId then request.goodTillDate else 0
    branchId := if keep sessionId then request.branchId else 0
    traderId := if keep sessionId then request.traderId else 0
    brokerId := if keep sessionId then request.brokerId else .replicate 5 0
    settlor := if keep sessionId then request.settlor else .replicate 12 0
    proClientIndicator := if keep sessionId then request.proClientIndicator else 0
    additionalFlags := if keep sessionId then request.additionalFlags else 0
    filler := if keep sessionId then request.filler else 0
    nnfField := if keep sessionId then request.nnfField else 0
    pan := if keep sessionId then request.pan else .replicate 10 0
    algoId := if keep sessionId then request.algoId else 0
    uniqueId := if keep sessionId then request.uniqueId else 0
    entryDateTime := 0
    lastModified := 0 }

/-- A clock that stands still. -/
def CallEnv.bare (env : CallEnv) : CallEnv := { env with clock := fun _ => ⟨0, 0⟩ }

def Op.bare : Op → Op
  | .newOrder env request sessionId session =>
      .newOrder env.bare (bareEntry keep sessionId request) sessionId session
  | .modifyOrder env request sessionId session =>
      .modifyOrder env.bare (bareUpdate keep sessionId request) sessionId session
  | .cancelOrder env request sessionId session =>
      .cancelOrder env.bare (bareUpdate keep sessionId request) sessionId session
  | .tbtOrder env message => .tbtOrder env.bare message
  | .tbtTrade env message => .tbtTrade env.bare message
  | .sessionClosed sessionId => .sessionClosed sessionId

/-- The result of an operation. -/
def bareResult (r : List EngineEvent × EngineState) : List EngineEvent × EngineState :=
  (r.1.map (·.bare keep), r.2.bare keep)

def ScanState.bare (acc : ScanState) : ScanState :=
  { acc with staleOrders := acc.staleOrders.map (·.bare keep) }

end Erasure

variable {keep : UInt64 → Bool} {cfg : EngineConfig} {env : CallEnv} {st : EngineState}
  {o live request : OrderSnapshot} {now : ClockReading}

/-! ## What is left -/

@[simp] theorem OrderSnapshot.bare_token : (o.bare keep).token = o.token := rfl

@[simp] theorem OrderSnapshot.bare_side : (o.bare keep).side = o.side := rfl

@[simp] theorem OrderSnapshot.bare_price : (o.bare keep).price = o.price := rfl

@[simp] theorem OrderSnapshot.bare_totalVolumeRemaining :
    (o.bare keep).totalVolumeRemaining = o.totalVolumeRemaining := rfl

@[simp] theorem OrderSnapshot.bare_exchangeOrderNumber :
    (o.bare keep).exchangeOrderNumber = o.exchangeOrderNumber := rfl

@[simp] theorem OrderSnapshot.bare_ioc : (o.bare keep).ioc = o.ioc := rfl

@[simp] theorem OrderSnapshot.bare_sessionId : (o.bare keep).sessionId = o.sessionId := rfl

@[simp] theorem OrderSnapshot.bare_bookType : (o.bare keep).bookType = o.bookType := rfl

@[simp] theorem EngineState.bare_books : (st.bare keep).books = st.books := rfl

@[simp] theorem EngineState.bare_openOrderIdsByToken :
    (st.bare keep).openOrderIdsByToken = st.openOrderIdsByToken := rfl

@[simp] theorem EngineState.bare_openOrderIdsBySession :
    (st.bare keep).openOrderIdsBySession = st.openOrderIdsBySession := rfl

@[simp] theorem EngineState.bare_nextFillNumber :
    (st.bare keep).nextFillNumber = st.nextFillNumber := rfl

@[simp] theorem EngineState.bare_nextLastActivityReference :
    (st.bare keep).nextLastActivityReference = st.nextLastActivityReference := rfl

@[simp] theorem EngineState.bare_openOrders : (st.bare keep).openOrders = st.openOrders.bare keep := rfl

/-! ## Snapshots -/

theorem stampOrder_bare (setEntryTime : Bool) :
    stampOrder (o.bare keep) setEntryTime ⟨0, 0⟩ = (stampOrder o setEntryTime now).bare keep := by
  simp [stampOrder, OrderSnapshot.bare]

theorem applyFillToSnapshot_bare (quantity : UInt32) :
    applyFillToSnapshot (o.bare keep) quantity = (applyFillToSnapshot o quantity).bare keep := by
  simp only [applyFillToSnapshot, OrderSnapshot.bare]
  by_cases hkeep : keep o.sessionId <;> simp [hkeep]

theorem fillSnapshot_bare (reference : UInt64) (number quantity : UInt32) :
    fillSnapshot (o.bare keep) reference number quantity ⟨0, 0⟩ =
      (fillSnapshot o reference number quantity now).bare keep := by
  rw [fillSnapshot, fillSnapshot, ← stampOrder_bare, ← applyFillToSnapshot_bare]
  rfl

theorem cancelSnapshot_bare (reference : UInt64) :
    cancelSnapshot (o.bare keep) reference ⟨0, 0⟩ = (cancelSnapshot o reference now).bare keep := by
  simp [cancelSnapshot, stampOrder, OrderSnapshot.bare]

theorem modifySnapshot_bare (hsame : live.sessionId = request.sessionId) (reference : UInt64) :
    modifySnapshot (live.bare keep) (request.bare keep) reference ⟨0, 0⟩ =
      (modifySnapshot live request reference now).bare keep := by
  simp only [modifySnapshot, stampOrder, OrderSnapshot.bare, modifiedRemaining, hsame]
  by_cases hkeep : keep request.sessionId
  · simp [hkeep]
  · simp [hkeep]
    rfl

theorem buildSnapshotFromEntryRequest_bare (request : OrderEntryRequestPayload) (sessionId : UInt64)
    (session : SessionRef) :
    buildSnapshotFromEntryRequest (bareEntry keep sessionId request) sessionId session =
      (buildSnapshotFromEntryRequest request sessionId session).bare keep := by
  simp only [buildSnapshotFromEntryRequest, bareEntry, OrderSnapshot.bare]
  by_cases hkeep : keep sessionId <;> simp [hkeep]

theorem updateRequestSnapshot_bare (request : OrderUpdateRequestPayload) (sessionId : UInt64)
    (session : SessionRef) :
    updateRequestSnapshot env.bare (bareUpdate keep sessionId request) sessionId session =
      (updateRequestSnapshot env request sessionId session).bare keep := by
  simp only [updateRequestSnapshot, buildSnapshotFromUpdateRequest, bareUpdate, CallEnv.bare,
    OrderSnapshot.bare]
  by_cases hkeep : keep sessionId <;> simp [hkeep]

/-! ## The open orders -/

section Store

variable {store : OrderStore} {arg : SnapshotArg} {k : UInt64}

theorem OrderStore.ext_rows {store store' : OrderStore} (h : store.rows = store'.rows) :
    store = store' := by
  cases store
  cases store'
  cases h
  rfl

@[simp] theorem OrderStore.find?_bare :
    (store.bare keep).find? k = (store.find? k).map (·.bare keep) :=
  ExtTreeMap.getElem?_map

theorem OrderStore.ext_find? {store store' : OrderStore} (h : ∀ k, store.find? k = store'.find? k) :
    store = store' := OrderStore.ext_rows (ExtTreeMap.ext_getElem? fun k => h k)

theorem OrderStore.put_bare : (store.bare keep).put (o.bare keep) = (store.put o).bare keep := by
  apply OrderStore.ext_find?
  intro k
  rw [OrderStore.find?_bare, OrderStore.find?_put, OrderStore.find?_put, OrderStore.find?_bare,
    apply_ite (Option.map _)]
  rfl

theorem OrderStore.erase_bare : (store.bare keep).erase k = (store.erase k).bare keep := by
  apply OrderStore.ext_find?
  intro k'
  rw [OrderStore.find?_bare, OrderStore.find?_erase, OrderStore.find?_erase, OrderStore.find?_bare,
    apply_ite (Option.map _)]
  rfl

theorem SnapshotArg.read_bare :
    (arg.bare keep).read (store.bare keep) = (arg.read store).map (·.bare keep) := by
  cases arg with
  | copy order => rfl
  | entry key => exact OrderStore.find?_bare

end Store

/-! ## Erasing and filling orders -/

section Orders

variable {arg : SnapshotArg}

theorem storeOpenOrderLocked_bare :
    storeOpenOrderLocked (o.bare keep) (st.bare keep) = (storeOpenOrderLocked o st).bare keep := by
  simp only [storeOpenOrderLocked, EngineState.bare, OrderStore.put_bare]
  rfl

theorem eraseReads_bare :
    eraseReads (arg.bare keep) (o.bare keep) (st.bare keep) =
      (eraseReads arg o st).map (·.map (·.bare keep)) := by
  simp only [eraseReads, EngineState.bare_openOrders, OrderSnapshot.bare_exchangeOrderNumber,
    OrderStore.erase_bare, SnapshotArg.read_bare, EngineState.bare_openOrderIdsByToken,
    EngineState.bare_openOrderIdsBySession, OrderSnapshot.bare_token, OrderSnapshot.bare_sessionId,
    List.map_append, List.map_cons, List.map_nil, apply_ite (List.map _)]

theorem count_none_bare (reads : List (Option OrderSnapshot)) :
    (reads.map (·.map (·.bare keep))).count none = reads.count none := by
  induction reads with
  | nil => rfl
  | cons read reads ih => cases read <;> simp [ih]

theorem eraseOpenOrderLocked_bare :
    eraseOpenOrderLocked (arg.bare keep) (st.bare keep) = (eraseOpenOrderLocked arg st).bare keep := by
  have hread : (arg.bare keep).read (st.bare keep).openOrders =
    (arg.read st.openOrders).map (·.bare keep) :=
    SnapshotArg.read_bare
  rw [eraseOpenOrderLocked, eraseOpenOrderLocked, hread]
  cases arg.read st.openOrders with
  | none => rfl
  | some snapshot =>
      simp only [Option.map_some, eraseReads_bare, count_none_bare]
      simp only [EngineState.bare, ← OrderStore.erase_bare]
      rfl

theorem matchTopLocked_bare :
    matchTopLocked cfg (st.bare keep) (o.bare keep) = matchTopLocked cfg st o := rfl

theorem canTrackTokenLocked_bare (token : UInt32) :
    canTrackTokenLocked cfg (st.bare keep) token = canTrackTokenLocked cfg st token := rfl

theorem ensureBookLocked_bare (token : UInt32) :
    ensureBookLocked cfg (st.bare keep) token =
      (ensureBookLocked cfg st token).map fun r => (r.1, r.2.bare keep) := by
  rw [ensureBookLocked, ensureBookLocked, canTrackTokenLocked_bare]
  split
  · rfl
  split
  · rfl
  have hbook : (st.bare keep).books[token]? = st.books[token]? := rfl
  rw [hbook]
  cases st.books[token]? with
  | none => rfl
  | some book => rfl

theorem cancelUnfilledOrderLocked_bare :
    cancelUnfilledOrderLocked ⟨0, 0⟩ (o.bare keep) (st.bare keep) =
      bareResult keep (cancelUnfilledOrderLocked now o st) := by
  have hcancelled := @cancelSnapshot_bare keep o now st.nextLastActivityReference
  simp only [cancelUnfilledOrderLocked, EngineState.bare_nextLastActivityReference, hcancelled]
  rfl

theorem fillOpenOrderLocked_bare (number : UInt64) (price available : UInt32) :
    fillOpenOrderLocked env.bare ⟨0, 0⟩ number price available (st.bare keep) =
      bareResult keep (fillOpenOrderLocked env now number price available st) := by
  have hopen : (st.bare keep).openOrders.find? number =
    (st.openOrders.find? number).map (·.bare keep) :=
    OrderStore.find?_bare
  rw [fillOpenOrderLocked, fillOpenOrderLocked, hopen]
  cases st.openOrders.find? number with
  | none => rfl
  | some live =>
      have hexpired : env.bare.expired (.fill number) (live.bare keep).session =
          env.expired (.fill number) live.session := rfl
      have hrest : (live.bare keep).totalVolumeRemaining = live.totalVolumeRemaining := rfl
      simp only [Option.map_some, hexpired, hrest]
      split
      · rw [← SnapshotArg.bare, eraseOpenOrderLocked_bare]
        rfl
      split
      · rfl
      have hfilled := @fillSnapshot_bare keep live now st.nextLastActivityReference st.nextFillNumber
        (min available live.totalVolumeRemaining)
      have hdrawn : drawFillNumbers (st.bare keep) = (drawFillNumbers st).bare keep := rfl
      simp only [EngineState.bare_nextLastActivityReference, EngineState.bare_nextFillNumber,
        hfilled, hdrawn, OrderSnapshot.bare_totalVolumeRemaining]
      refine Prod.ext rfl ?_
      split
      · rw [← SnapshotArg.bare, eraseOpenOrderLocked_bare]
        rfl
      · simp only [EngineState.bare_openOrders, OrderStore.put_bare]
        rfl

end Orders

/-! ## The resting orders of a token -/

section Resting

variable {token : UInt32}

theorem scanOrder_bare (haveBid haveAsk : Bool) (bestBidPrice bestAskPrice : UInt32)
    (acc : ScanState) (orderId : UInt64) :
    scanOrder env.bare (st.openOrders.bare keep) haveBid haveAsk bestBidPrice bestAskPrice
        (acc.bare keep) orderId =
      (scanOrder env st.openOrders haveBid haveAsk bestBidPrice bestAskPrice acc orderId).bare
        keep := by
  rw [scanOrder, scanOrder, OrderStore.find?_bare]
  cases st.openOrders.find? orderId with
  | none => rfl
  | some order =>
      have hexpired : env.bare.expired (.scan orderId) (order.bare keep).session =
          env.expired (.scan orderId) order.session := rfl
      have hswept : { acc.bare keep with
          staleOrders := (acc.bare keep).staleOrders ++ [order.bare keep] } =
          ScanState.bare keep { acc with staleOrders := acc.staleOrders ++ [order] } := by
        simp only [ScanState.bare, List.map_append, List.map_cons, List.map_nil]
      simp only [Option.map_some, hexpired, OrderSnapshot.bare_side, OrderSnapshot.bare_price,
        OrderSnapshot.bare_totalVolumeRemaining, hswept, apply_ite (ScanState.bare keep)]
      rfl

theorem foldl_scanOrder_bare (haveBid haveAsk : Bool) (bestBidPrice bestAskPrice : UInt32)
    (ids : List UInt64) (acc : ScanState) :
    ids.foldl (scanOrder env.bare (st.openOrders.bare keep) haveBid haveAsk bestBidPrice bestAskPrice)
        (acc.bare keep) =
      (ids.foldl (scanOrder env st.openOrders haveBid haveAsk bestBidPrice bestAskPrice) acc).bare
        keep := by
  induction ids generalizing acc with
  | nil => rfl
  | cons id ids ih => rw [List.foldl_cons, List.foldl_cons, scanOrder_bare, ih]

theorem scanRestingOrders_bare (ids : ExtTreeSet UInt64) (book : ExternalBook) :
    scanRestingOrders env.bare (st.bare keep) ids book =
      (scanRestingOrders env st ids book).bare keep := by
  rw [scanRestingOrders, scanRestingOrders, ← foldl_scanOrder_bare]
  rfl

theorem eraseStaleOrders_bare (staleOrders : List OrderSnapshot) :
    eraseStaleOrders (staleOrders.map (·.bare keep)) (st.bare keep) =
      (eraseStaleOrders staleOrders st).bare keep := by
  rw [eraseStaleOrders, eraseStaleOrders, List.foldl_map]
  induction staleOrders generalizing st with
  | nil => rfl
  | cons stale staleOrders ih =>
      rw [List.foldl_cons, List.foldl_cons, ← SnapshotArg.bare, eraseOpenOrderLocked_bare, ih]

theorem fillRequests_bare (i : Nat) (fillable : List FillRequest) :
    fillRequests env.bare i fillable (st.bare keep) =
      bareResult keep (fillRequests env i fillable st) := by
  induction fillable generalizing i st with
  | nil => rfl
  | cons fill rest ih =>
      have hclock : env.bare.clock i = ⟨0, 0⟩ := rfl
      rw [fillRequests, fillRequests, hclock,
        @fillOpenOrderLocked_bare keep env st (env.clock i) fill.orderId fill.fillPrice
          fill.fillQuantity]
      simp only [bareResult, ih, List.map_append]

theorem maybeFillRestingOrdersLocked_bare :
    maybeFillRestingOrdersLocked env.bare token (st.bare keep) =
      bareResult keep (maybeFillRestingOrdersLocked env token st) := by
  rw [maybeFillRestingOrdersLocked, maybeFillRestingOrdersLocked,
    EngineState.bare_openOrderIdsByToken, EngineState.bare_books]
  cases st.openOrderIdsByToken.buckets[token]? with
  | none => rfl
  | some ids =>
      cases st.books[token]? with
      | none => rfl
      | some book =>
          simp only [scanRestingOrders_bare]
          rw [← fillRequests_bare, ← eraseStaleOrders_bare]
          rfl

end Resting

/-! ## Entering orders -/

section Entering

theorem enterImmediate_bare :
    enterImmediate env.bare (o.bare keep) (st.bare keep) =
      bareResult keep (enterImmediate env o st) := by
  have hfilled := @fillSnapshot_bare keep o (env.clock 1) st.nextLastActivityReference st.nextFillNumber
    o.totalVolumeRemaining
  have hclock : env.bare.clock 1 = ⟨0, 0⟩ := rfl
  simp only [enterImmediate, EngineState.bare_nextLastActivityReference,
    EngineState.bare_nextFillNumber, OrderSnapshot.bare_totalVolumeRemaining, hclock, hfilled]
  rfl

theorem enterIoc_bare :
    enterIoc cfg env.bare (o.bare keep) (st.bare keep) = bareResult keep (enterIoc cfg env o st) := by
  have hclock : ∀ i, env.bare.clock i = ⟨0, 0⟩ := fun _ => rfl
  simp only [enterIoc, matchTopLocked_bare, hclock, OrderSnapshot.bare_totalVolumeRemaining]
  cases matchTopLocked cfg st o with
  | none =>
      simp only [@cancelUnfilledOrderLocked_bare keep st o (env.clock 1)]
      rfl
  | some top =>
      have hfilled := @fillSnapshot_bare keep o (env.clock 1) st.nextLastActivityReference
        st.nextFillNumber (min o.totalVolumeRemaining top.quantity)
      have hdrawn : drawFillNumbers (st.bare keep) = (drawFillNumbers st).bare keep := rfl
      simp only [EngineState.bare_nextLastActivityReference, EngineState.bare_nextFillNumber, hfilled,
        hdrawn, OrderSnapshot.bare_totalVolumeRemaining]
      split
      · split
        · simp only [@cancelUnfilledOrderLocked_bare keep (drawFillNumbers st) _ (env.clock 2)]
          rfl
        · rfl
      · simp only [@cancelUnfilledOrderLocked_bare keep st o (env.clock 1)]
        rfl

theorem enterDay_bare :
    enterDay cfg env.bare (o.bare keep) (st.bare keep) = bareResult keep (enterDay cfg env o st) := by
  have hclock : env.bare.clock 1 = ⟨0, 0⟩ := rfl
  simp only [enterDay, storeOpenOrderLocked_bare, matchTopLocked_bare, hclock,
    OrderSnapshot.bare_exchangeOrderNumber]
  cases matchTopLocked cfg (storeOpenOrderLocked o st) o with
  | none => rfl
  | some top =>
      simp only [@fillOpenOrderLocked_bare keep env (storeOpenOrderLocked o st) (env.clock 1)]
      rfl

theorem acceptedSnapshot_bare :
    acceptedSnapshot env.bare (o.bare keep) (st.bare keep) = (acceptedSnapshot env o st).bare keep := by
  rw [acceptedSnapshot, acceptedSnapshot, ← stampOrder_bare]
  rfl

theorem acceptedState_bare (token : UInt32) :
    acceptedState cfg token (st.bare keep) = (acceptedState cfg token st).bare keep := by
  rw [acceptedState, acceptedState, ensureBookLocked_bare]
  cases ensureBookLocked cfg st token with
  | none => rfl
  | some made => rfl

end Entering

/-! ## The operations -/

section Operations

variable {sessionId : UInt64} {session : SessionRef}

theorem isValidNewOrder_bare (request : OrderEntryRequestPayload) :
    isValidNewOrder (o.bare keep) (bareEntry keep sessionId request) = isValidNewOrder o request := rfl

theorem isValidModifyRequest_bare (request : OrderUpdateRequestPayload) :
    isValidModifyRequest (o.bare keep) (bareUpdate keep sessionId request) =
      isValidModifyRequest o request := rfl

theorem isValidCancelRequest_bare (request : OrderUpdateRequestPayload) :
    isValidCancelRequest (o.bare keep) (bareUpdate keep sessionId request) =
      isValidCancelRequest o request := rfl

theorem onNewOrder_bare (request : OrderEntryRequestPayload) :
    onNewOrder cfg env.bare (bareEntry keep sessionId request) sessionId session (st.bare keep) =
      bareResult keep (onNewOrder cfg env request sessionId session st) := by
  have hclock : env.bare.clock 0 = ⟨0, 0⟩ := rfl
  simp only [onNewOrder, buildSnapshotFromEntryRequest_bare, isValidNewOrder_bare,
    canTrackTokenLocked_bare, OrderSnapshot.bare_token, hclock,
    @stampOrder_bare keep _ (env.clock 0), acceptedSnapshot_bare, acceptedState_bare,
    OrderSnapshot.bare_ioc, enterImmediate_bare, enterIoc_bare, enterDay_bare]
  split
  · rfl
  split
  · rfl
  split
  · rfl
  split <;> rfl

theorem onModifyOrder_bare (request : OrderUpdateRequestPayload) :
    onModifyOrder cfg env.bare (bareUpdate keep sessionId request) sessionId session (st.bare keep) =
      bareResult keep (onModifyOrder cfg env request sessionId session st) := by
  have hclock : ∀ i, env.bare.clock i = ⟨0, 0⟩ := fun _ => rfl
  simp only [onModifyOrder, updateRequestSnapshot_bare, isValidModifyRequest_bare, hclock,
    @stampOrder_bare keep _ (env.clock 0), OrderSnapshot.bare_exchangeOrderNumber,
    EngineState.bare_openOrders, OrderStore.find?_bare]
  have hrequested : (updateRequestSnapshot env request sessionId session).sessionId = sessionId := rfl
  generalize updateRequestSnapshot env request sessionId session = requested at hrequested ⊢
  split
  · rfl
  cases st.openOrders.find? requested.exchangeOrderNumber with
  | none => rfl
  | some live =>
      simp only [Option.map_some, OrderSnapshot.bare_sessionId, OrderSnapshot.bare_token,
        OrderSnapshot.bare_side, OrderSnapshot.bare_bookType, OrderSnapshot.bare_ioc]
      by_cases hsession : live.sessionId ≠ sessionId
      · refine (if_pos hsession).trans (Eq.trans ?_ (congrArg _ (if_pos hsession)).symm)
        rfl
      refine (if_neg hsession).trans (Eq.trans ?_ (congrArg _ (if_neg hsession)).symm)
      rw [apply_ite (bareResult keep)]
      refine if_congr Iff.rfl rfl ?_
      have hmodified := @modifySnapshot_bare keep live requested (env.clock 0)
        ((not_not.mp hsession).trans hrequested.symm) st.nextLastActivityReference
      simp only [EngineState.bare_nextLastActivityReference, hmodified]
      generalize modifySnapshot live requested st.nextLastActivityReference (env.clock 0) = modified
      have hput : { st.bare keep with
          openOrders := (st.openOrders.bare keep).put (modified.bare keep)
          nextLastActivityReference := st.nextLastActivityReference + 1 } =
            EngineState.bare keep { st with
              openOrders := st.openOrders.put modified
              nextLastActivityReference := st.nextLastActivityReference + 1 } := by
        rw [OrderStore.put_bare]
        rfl
      rw [hput, matchTopLocked_bare]
      cases matchTopLocked cfg _ modified with
      | none => rfl
      | some top =>
          simp only [@fillOpenOrderLocked_bare keep env _ (env.clock 1),
            OrderSnapshot.bare_exchangeOrderNumber]
          rfl

theorem onCancelOrder_bare (request : OrderUpdateRequestPayload) :
    onCancelOrder env.bare (bareUpdate keep sessionId request) sessionId session (st.bare keep) =
      bareResult keep (onCancelOrder env request sessionId session st) := by
  have hclock : env.bare.clock 0 = ⟨0, 0⟩ := rfl
  simp only [onCancelOrder, updateRequestSnapshot_bare, isValidCancelRequest_bare, hclock,
    @stampOrder_bare keep _ (env.clock 0), OrderSnapshot.bare_exchangeOrderNumber,
    EngineState.bare_openOrders, OrderStore.find?_bare]
  generalize updateRequestSnapshot env request sessionId session = requested
  split
  · rfl
  cases st.openOrders.find? requested.exchangeOrderNumber with
  | none => rfl
  | some live =>
      simp only [Option.map_some, OrderSnapshot.bare_sessionId]
      rw [apply_ite (bareResult keep)]
      refine if_congr Iff.rfl rfl ?_
      have hcancelled := @cancelSnapshot_bare keep live (env.clock 0) st.nextLastActivityReference
      simp only [EngineState.bare_nextLastActivityReference, hcancelled]
      refine Prod.ext rfl ?_
      exact @eraseOpenOrderLocked_bare keep
        { st with nextLastActivityReference := st.nextLastActivityReference + 1 } (.copy _)

theorem onTbtOrderMessage_bare (message : TbtOrderMessage) :
    onTbtOrderMessage cfg env.bare message (st.bare keep) =
      bareResult keep (onTbtOrderMessage cfg env message st) := by
  rw [onTbtOrderMessage, onTbtOrderMessage, ensureBookLocked_bare]
  cases ensureBookLocked cfg st message.token with
  | none => rfl
  | some made =>
      obtain ⟨book, made⟩ := made
      simp only [Option.map_some]
      cases applyTbtOrderMessage message book with
      | none => rfl
      | some book =>
          exact @maybeFillRestingOrdersLocked_bare keep env
            { made with books := made.books.insert message.token book } message.token

theorem onTbtTradeMessage_bare (message : TbtTradeMessage) :
    onTbtTradeMessage cfg env.bare message (st.bare keep) =
      bareResult keep (onTbtTradeMessage cfg env message st) := by
  rw [onTbtTradeMessage, onTbtTradeMessage, ensureBookLocked_bare]
  cases ensureBookLocked cfg st message.token with
  | none => rfl
  | some made =>
      obtain ⟨book, made⟩ := made
      exact @maybeFillRestingOrdersLocked_bare keep env
        { made with
          books :=
            made.books.insert message.token
              (book.onTrade message.buyOrderId message.sellOrderId message.tradePrice
                message.tradeQuantity) }
        message.token

theorem eraseOrderIds_bare (orderIds : List UInt64) :
    eraseOrderIds orderIds (st.bare keep) = (eraseOrderIds orderIds st).bare keep := by
  rw [eraseOrderIds, eraseOrderIds]
  induction orderIds generalizing st with
  | nil => rfl
  | cons orderId orderIds ih =>
      rw [List.foldl_cons, List.foldl_cons, ← ih]
      congr 1
      rw [EngineState.bare_openOrders, OrderStore.find?_bare]
      cases st.openOrders.find? orderId with
      | none => rfl
      | some order =>
          simp only [Option.map_some]
          rw [← SnapshotArg.bare, eraseOpenOrderLocked_bare]
          rfl

theorem onSessionClosed_bare :
    onSessionClosed sessionId (st.bare keep) = (onSessionClosed sessionId st).bare keep := by
  rw [onSessionClosed, onSessionClosed, EngineState.bare_openOrderIdsBySession]
  cases st.openOrderIdsBySession.buckets[sessionId]? with
  | none => rfl
  | some ids => exact eraseOrderIds_bare ids.toList

/-- What is left of a call's result is the result of what is left of the call. -/
theorem engine_bare (op :
    Op) : engine cfg (st.bare keep) (op.bare keep) = bareResult keep (engine cfg st op) := by
  cases op with
  | newOrder env request sessionId session => exact onNewOrder_bare request
  | modifyOrder env request sessionId session => exact onModifyOrder_bare request
  | cancelOrder env request sessionId session => exact onCancelOrder_bare request
  | tbtOrder env message => exact onTbtOrderMessage_bare message
  | tbtTrade env message => exact onTbtTradeMessage_bare message
  | sessionClosed sessionId => exact Prod.ext rfl onSessionClosed_bare

end Operations

end NseFoExchangeSim.Engine
