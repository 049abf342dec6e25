import NseFoExchangeSim.Engine.Run

/-!
# What an operation can do

Every operation of the engine is made of a few kinds of acts: a request turned down, a book changed, an
order entered, modified, filled, cancelled or dropped. `Act` says what each of them does to the state
and which events it emits; the invariants are proved act by act.
-/

namespace NseFoExchangeSim.Engine

open Protocol

variable (cfg : EngineConfig)

/-! ## The premises of acts -/

/-- The snapshot of a valid entry request for a token the engine can track. -/
def Accepted (st : EngineState) (snapshot : OrderSnapshot) : Prop :=
  ∃ env request sessionId session,
    snapshot = acceptedSnapshot env (buildSnapshotFromEntryRequest request sessionId session) st ∧
    isValidNewOrder (buildSnapshotFromEntryRequest request sessionId session) request ∧
    canTrackTokenLocked cfg st snapshot.token

/-- A valid modification request, as a snapshot, for the open order `live` of its own session. -/
def Modifies (st : EngineState) (requestSnapshot live : OrderSnapshot) : Prop :=
  (∃ request, isValidModifyRequest requestSnapshot request) ∧
    st.openOrders.find? requestSnapshot.exchangeOrderNumber = some live ∧
    live.sessionId = requestSnapshot.sessionId ∧ live.token = requestSnapshot.token ∧
    live.side = requestSnapshot.side ∧ live.bookType = requestSnapshot.bookType ∧ live.ioc = false

/-- The order trades against the side of the book, and its limit admits the price. -/
def Admits (order : OrderSnapshot) : BookSide → UInt32 → Prop
  | .ask, price => order.side = 1 ∧ price ≤ order.price
  | .bid, price => order.side = 2 ∧ order.price ≤ price

instance (order : OrderSnapshot) (side : BookSide) (price : UInt32) :
    Decidable (Admits order side price) :=
  match side with
  | .ask => inferInstanceAs (Decidable (order.side = 1 ∧ price ≤ order.price))
  | .bid => inferInstanceAs (Decidable (order.side = 2 ∧ order.price ≤ price))

/-- The quantity is on offer at the top of the token's book, on the side the order trades against, at a
price its limit admits. -/
def AtTop (st : EngineState) (token : UInt32) (order : OrderSnapshot) (price quantity : UInt32) :
    Prop :=
  ∃ book side topQty, st.books[token]? = some book ∧ book.best side = some (price, topQty) ∧
    Admits order side price ∧ quantity ≤ topQty

/-! ## Acts -/

def drawReference (st : EngineState) : EngineState :=
  { st with nextLastActivityReference := st.nextLastActivityReference + 1 }

/-- The state after a fill: the order written back, or removed when nothing is left of it. -/
def afterFill (filled : OrderSnapshot) (st : EngineState) : EngineState :=
  if filled.totalVolumeRemaining = 0 then
    eraseOpenOrderLocked (.entry filled.exchangeOrderNumber) (drawFillNumbers st)
  else { drawFillNumbers st with openOrders := (drawFillNumbers st).openOrders.put filled }

def confirmationEvent (snapshot : OrderSnapshot) : EngineEvent :=
  makeOrderEvent snapshot kTxnOrderConfirmationTrimmed 0

def modificationEvent (snapshot : OrderSnapshot) : EngineEvent :=
  makeOrderEvent snapshot kTxnOrderModificationConfirmationTrimmed 0

def cancellationEvent (snapshot : OrderSnapshot) : EngineEvent :=
  makeOrderEvent snapshot kTxnOrderCancellationConfirmationTrimmed 0

def nextFill (st : EngineState) (order : OrderSnapshot) (quantity : UInt32) (now : ClockReading) :
    OrderSnapshot :=
  fillSnapshot order st.nextLastActivityReference st.nextFillNumber quantity now

def nextCancel (st : EngineState) (order : OrderSnapshot) (now : ClockReading) : OrderSnapshot :=
  cancelSnapshot order st.nextLastActivityReference now

/-- What an act is done for: an order entered, a modification carried out, a feed message applied to
the book, or something else. -/
inductive Label
  | accept (snapshot : OrderSnapshot)
  | modify (request : OrderSnapshot)
  | market
  | other

inductive Act : Label → EngineState → List EngineEvent → EngineState → Prop
  | reject {st e} (he : e.errorCode ≠ 0) : Act .other st [e] st
  | market {st} (books) (hkeep : ∀ t, t ∈ st.books → t ∈ books) :
      Act .market st [] { st with books := books }
  | enterImmediate {st snapshot entered filled} (now) (ha : Accepted cfg st snapshot)
      (hmd : cfg.marketDataEnabled = false) (hs : entered = acceptedState cfg snapshot.token st)
      (hf : filled = nextFill entered snapshot snapshot.totalVolumeRemaining now) :
      Act (.accept snapshot) st
        [confirmationEvent snapshot, makeTradeEvent filled filled.price filled.volumeFilledToday]
        (drawFillNumbers entered)
  | enterDay {st snapshot entered} (ha : Accepted cfg st snapshot)
      (hmd : cfg.marketDataEnabled = true) (hday : snapshot.ioc = false)
      (hs : entered = acceptedState cfg snapshot.token st) :
      Act (.accept snapshot) st [confirmationEvent snapshot] (storeOpenOrderLocked snapshot entered)
  | enterIocUnfilled {st snapshot entered} (now) (ha : Accepted cfg st snapshot)
      (hmd : cfg.marketDataEnabled = true) (hioc : snapshot.ioc = true)
      (hs : entered = acceptedState cfg snapshot.token st) :
      Act (.accept snapshot) st
        [confirmationEvent snapshot, cancellationEvent (nextCancel entered snapshot now)]
        (drawReference entered)
  | enterIocFilled {st snapshot entered filled price quantity} (now) (ha : Accepted cfg st snapshot)
      (hmd : cfg.marketDataEnabled = true) (hioc : snapshot.ioc = true)
      (hs : entered = acceptedState cfg snapshot.token st)
      (htop : AtTop entered snapshot.token snapshot price quantity) (hpos : 0 < quantity)
      (hle : quantity ≤ snapshot.totalVolumeRemaining)
      (hf : filled = nextFill entered snapshot quantity now)
      (hrest : filled.totalVolumeRemaining = 0) :
      Act (.accept snapshot) st [confirmationEvent snapshot, makeTradeEvent filled price quantity]
        (drawFillNumbers entered)
  | enterIocPartial {st snapshot entered filled price quantity} (now now')
      (ha : Accepted cfg st snapshot) (hmd : cfg.marketDataEnabled = true)
      (hioc : snapshot.ioc = true) (hs : entered = acceptedState cfg snapshot.token st)
      (htop : AtTop entered snapshot.token snapshot price quantity) (hpos : 0 < quantity)
      (hle : quantity ≤ snapshot.totalVolumeRemaining)
      (hf : filled = nextFill entered snapshot quantity now)
      (hrest : 0 < filled.totalVolumeRemaining) :
      Act (.accept snapshot) st
        [confirmationEvent snapshot, makeTradeEvent filled price quantity,
          cancellationEvent (nextCancel (drawFillNumbers entered) filled now')]
        (drawReference (drawFillNumbers entered))
  | modify {st request live modified} (now) (hm : Modifies st request live)
      (hl : modified = modifySnapshot live request st.nextLastActivityReference now) :
      Act (.modify request) st [modificationEvent modified]
        { drawReference st with openOrders := st.openOrders.put modified }
  | fill {st live filled price quantity} (token now)
      (hlive : st.openOrders.find? live.exchangeOrderNumber = some live) (hpos : 0 < quantity)
      (hle : quantity ≤ live.totalVolumeRemaining)
      (htoken : live.token = token ∨
        live.exchangeOrderNumber ∈ st.openOrderIdsByToken.ids token)
      (htop : cfg.marketDataEnabled = true → AtTop st token live price quantity)
      (hf : filled = nextFill st live quantity now) :
      Act .other st [makeTradeEvent filled price quantity] (afterFill filled st)
  | cancel {st live} (now)
      (hlive : st.openOrders.find? live.exchangeOrderNumber = some live) :
      Act .other st [cancellationEvent (nextCancel st live now)]
        (eraseOpenOrderLocked (.copy (nextCancel st live now)) (drawReference st))
  | drop {st live} (arg : SnapshotArg)
      (hlive : st.openOrders.find? live.exchangeOrderNumber = some live)
      (harg : arg.read st.openOrders = some live) :
      Act .other st [] (eraseOpenOrderLocked arg st)

/-- An act whose label meets a condition on the history and the state before it. -/
def ActWith (ok : List EngineEvent → EngineState → Label → Prop) (h : List EngineEvent)
    (st : EngineState) (es : List EngineEvent) (st' : EngineState) : Prop :=
  ∃ l, Act cfg l st es st' ∧ ok h st l

/-- The request is for an open order of its own session, and names it rightly. -/
def modifiable (st : EngineState) (request : OrderSnapshot) : Bool :=
  match st.openOrders.find? request.exchangeOrderNumber with
  | none => false
  | some live =>
      live.sessionId == request.sessionId && live.token == request.token &&
        live.side == request.side && live.bookType == request.bookType && !live.ioc

/-- What the first act of a call is done for. -/
def label (st : EngineState) : Op → Label
  | .newOrder env request sessionId session =>
      let snapshot := buildSnapshotFromEntryRequest request sessionId session
      if isValidNewOrder snapshot request && canTrackTokenLocked cfg st snapshot.token then
        .accept (acceptedSnapshot env snapshot st)
      else .other
  | .modifyOrder env request sessionId session =>
      let requestSnapshot := updateRequestSnapshot env request sessionId session
      if isValidModifyRequest requestSnapshot request && modifiable st requestSnapshot then
        .modify requestSnapshot
      else .other
  | .tbtOrder _ _ | .tbtTrade _ _ => .market
  | _ => .other

/-! ## Accepted snapshots -/

section Accepted

variable {cfg} {st : EngineState} {snapshot : OrderSnapshot}

theorem Accepted.number (h : Accepted cfg st snapshot) :
    snapshot.exchangeOrderNumber = st.nextExchangeOrderNumber := by
  obtain ⟨env, request, sessionId, session, rfl, _⟩ := h
  rfl

theorem Accepted.reference (h : Accepted cfg st snapshot) :
    snapshot.lastActivityReference = st.nextLastActivityReference := by
  obtain ⟨env, request, sessionId, session, rfl, _⟩ := h
  rfl

theorem Accepted.remaining (h : Accepted cfg st snapshot) :
    snapshot.totalVolumeRemaining = snapshot.volume := by
  obtain ⟨env, request, sessionId, session, rfl, _⟩ := h
  rfl

theorem Accepted.filled (h : Accepted cfg st snapshot) : snapshot.volumeFilledToday = 0 := by
  obtain ⟨env, request, sessionId, session, rfl, _⟩ := h
  rfl

theorem Accepted.volume_pos (h : Accepted cfg st snapshot) : 0 < snapshot.volume := by
  obtain ⟨env, request, sessionId, session, rfl, hv, _⟩ := h
  simp only [isValidNewOrder, Bool.and_eq_true, decide_eq_true_eq] at hv
  exact hv.1.1.2

theorem Accepted.tracked (h : Accepted cfg st snapshot) :
    canTrackTokenLocked cfg st snapshot.token := by
  obtain ⟨env, request, sessionId, session, _, _, ht⟩ := h
  exact ht

theorem Accepted.allowed (h : Accepted cfg st snapshot) (hmd : cfg.marketDataEnabled = true) :
    cfg.allowedTokens.contains snapshot.token = true := by
  have ht := h.tracked
  simp only [canTrackTokenLocked, hmd, Bool.not_true, Bool.false_eq_true, if_false] at ht
  split at ht
  · cases ht
  · rename_i hc
    simpa using hc

theorem Modifies.number {request live : OrderSnapshot} (h : Modifies st request live) :
    live.exchangeOrderNumber = request.exchangeOrderNumber := OrderStore.find?_number h.2.1

theorem Modifies.live {request live : OrderSnapshot} (h : Modifies st request live) :
    st.openOrders.find? live.exchangeOrderNumber = some live := by
  rw [h.number]
  exact h.2.1

theorem Modifies.volume_pos {request live : OrderSnapshot} (h : Modifies st request live) :
    0 < request.volume := by
  obtain ⟨⟨wire, hv⟩, _⟩ := h
  simp only [isValidModifyRequest, Bool.and_eq_true, decide_eq_true_eq] at hv
  exact hv.1.1.1.2

end Accepted

end NseFoExchangeSim.Engine
