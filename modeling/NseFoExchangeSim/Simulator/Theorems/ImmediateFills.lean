import NseFoExchangeSim.Lib.Lockstep
import NseFoExchangeSim.Engine.Requests
import NseFoExchangeSim.Simulator.FillEngine

/-!
# Immediate fills, then and now

Without market data the engine fills an accepted order at once, as the earlier fill engine did. Both are
given the same order entries; apart from the clock and the activity references they send the same
responses, as long as no accepted order discloses more than its volume.
-/

namespace NseFoExchangeSim.Simulator

open Protocol Engine Server

/-! ## Responses without the clock -/

/-- A response with the fields left out in which the two may differ. -/
def timeless : Response → Response
  | .trade payload =>
      .trade
        { payload with
          logTime := 0, timeStamp := 0, timeStamp1 := 0, activityTime := 0
          lastActivityReference := 0 }
  | .order payload =>
      .order
        { payload with
          logTime := 0, timeStamp1 := 0, timeStamp3 := 0, entryDateTime := 0, lastModified := 0
          lastActivityReference := 0 }

/-- An order entry, with the surroundings either engine meets it in. -/
structure Entry where
  request : OrderEntryRequestPayload
  env : CallEnv
  sessionId : UInt64
  session : SessionRef
  now : ClockReading

def Entry.op (entry : Entry) : Op :=
  .newOrder entry.env entry.request entry.sessionId entry.session

def Entry.dated (entry : Entry) : ClockReading × OrderEntryRequestPayload :=
  (entry.now, entry.request)

/-- An order that is turned down, or that discloses at most its volume. -/
def Entry.disclosesInFull (entry : Entry) : Prop :=
  FillEngine.unsupported entry.request = false →
    byteswap entry.request.disclosedVolume ≤ byteswap entry.request.volume

instance (entry : Entry) : Decidable entry.disclosesInFull := inferInstanceAs (Decidable (_ → _))

/-- The two engines give out the same numbers next. -/
structure SameNumbers (st : EngineState) (engine : FillEngine) : Prop where
  order : st.nextExchangeOrderNumber = engine.nextExchangeOrderNumber
  fill : st.nextFillNumber = engine.nextFillNumber

/-! ## One entry -/

theorem byteswap_eq_zero_iff {x : UInt32} : byteswap x = 0 ↔ x = 0 := by
  constructor
  · intro h
    have hback := congrArg byteswap h
    rwa [byteswap_byteswap, byteswap32_zero] at hback
  · intro h
    rw [h, byteswap32_zero]

section Entries

variable {cfg : EngineConfig} {st : EngineState} {fill : FillEngine} (entry : Entry)

theorem isValidNewOrder_eq (sessionId : UInt64) (session : SessionRef)
    (request : OrderEntryRequestPayload) :
    isValidNewOrder (buildSnapshotFromEntryRequest request sessionId session) request =
      !FillEngine.unsupported request := by
  rw [Bool.eq_iff_iff]
  simp [isValidNewOrder, buildSnapshotFromEntryRequest, FillEngine.unsupported, isValidSide,
    kOrderFlagsDay, kOrderFlagsIoc, UInt32.pos_iff_ne_zero]
  tauto

theorem onNewOrder_unsupported (hreq : FillEngine.unsupported entry.request = true) :
    engine cfg st entry.op =
      ([makeOrderEvent
          (stampOrder
            (buildSnapshotFromEntryRequest entry.request entry.sessionId entry.session) true
            (entry.env.clock 0))
          kTxnOrderErrorTrimmed kErrorUnsupportedOrder], st) := by
  have hvalid := isValidNewOrder_eq entry.sessionId entry.session entry.request
  rw [hreq, Bool.not_true] at hvalid
  simp [Engine.engine, Entry.op, onNewOrder, hvalid]

/-- Without market data an accepted order is confirmed and filled at its own price. -/
theorem onNewOrder_immediate (hno : cfg.marketDataEnabled = false)
    (hreq : FillEngine.unsupported entry.request = false) :
    engine cfg st entry.op =
      enterImmediate entry.env
        (acceptedSnapshot entry.env
          (buildSnapshotFromEntryRequest entry.request entry.sessionId entry.session) st)
        { st with
          nextExchangeOrderNumber := st.nextExchangeOrderNumber + 1
          nextLastActivityReference := st.nextLastActivityReference + 1 } := by
  have hvalid := isValidNewOrder_eq entry.sessionId entry.session entry.request
  rw [hreq, Bool.not_false] at hvalid
  simp [Engine.engine, Entry.op, onNewOrder, hvalid, hno, acceptedState, ensureBookLocked]

theorem orderEntry_unsupported (hreq : FillEngine.unsupported entry.request = true) :
    orderEntry cfg.config fill entry.dated =
      ([.order (sendOrderResponse cfg.config (rejectedSnapshot entry.now entry.request)
          kTxnOrderErrorTrimmed kErrorUnsupportedOrder)], fill) := by
  simp [orderEntry, Entry.dated, FillEngine.acceptLimitOrder, hreq]

theorem errorResponse_timeless (config : Config) :
    timeless (responseTo config (makeOrderEvent
        (stampOrder (buildSnapshotFromEntryRequest entry.request entry.sessionId entry.session) true
          (entry.env.clock 0)) kTxnOrderErrorTrimmed kErrorUnsupportedOrder)) =
      timeless (.order (sendOrderResponse config (rejectedSnapshot entry.now entry.request)
        kTxnOrderErrorTrimmed kErrorUnsupportedOrder)) := by
  simp [responseTo, makeOrderEvent, timeless, Server.sendOrderResponse, sendOrderResponse,
    buildSnapshotFromEntryRequest, stampOrder, rejectedSnapshot, kTxnOrderErrorTrimmed,
    kTxnTradeConfirmationTrimmed, kErrorUnsupportedOrder]

/-! ### Accepted orders -/

/-- The snapshot the earlier engine takes of an accepted order. -/
def acceptedOrder (fill : FillEngine) : OrderSnapshot :=
  { request := entry.request
    userId := byteswap entry.request.userId
    token := byteswap entry.request.tokenNo
    bookType := byteswap entry.request.bookType
    side := byteswap entry.request.buySellIndicator
    disclosedVolume := byteswap entry.request.disclosedVolume
    volume := byteswap entry.request.volume
    price := byteswap entry.request.price
    clientOrderId := byteswap entry.request.filler
    branchId := byteswap entry.request.branchId
    uniqueId := byteswap entry.request.uniqueId
    algoId := byteswap entry.request.algoId
    exchangeOrderNumber := fill.nextExchangeOrderNumber
    fillNumber := fill.nextFillNumber
    lastActivityReference := fill.nextLastActivityReference
    eventNanos := entry.now.nanos
    eventSeconds := entry.now.seconds }

theorem orderEntry_accepted (hreq : FillEngine.unsupported entry.request = false) :
    orderEntry cfg.config fill entry.dated =
      ([.order (sendOrderResponse cfg.config (acceptedOrder entry fill)
            kTxnOrderConfirmationTrimmed 0),
          .trade (sendTradeResponse cfg.config (acceptedOrder entry fill))],
        { nextExchangeOrderNumber := fill.nextExchangeOrderNumber + 1
          nextFillNumber := fill.nextFillNumber + 1
          nextLastActivityReference := fill.nextLastActivityReference + 1 }) := by
  simp [orderEntry, Entry.dated, FillEngine.acceptLimitOrder, hreq, acceptedOrder]

theorem confirmation_timeless (config : Config) (hn : SameNumbers st fill) :
    timeless (responseTo config (makeOrderEvent
        (acceptedSnapshot entry.env
          (buildSnapshotFromEntryRequest entry.request entry.sessionId entry.session) st)
        kTxnOrderConfirmationTrimmed 0)) =
      timeless (.order (sendOrderResponse config (acceptedOrder entry fill)
        kTxnOrderConfirmationTrimmed 0)) := by
  simp [responseTo, makeOrderEvent, timeless, Server.sendOrderResponse, sendOrderResponse,
    buildSnapshotFromEntryRequest, stampOrder, acceptedSnapshot, acceptedOrder, hn.order,
    kTxnOrderErrorTrimmed, kTxnTradeConfirmationTrimmed, kTxnOrderConfirmationTrimmed]

/-- What is still disclosed of an order once the whole of it has traded. -/
def disclosedAfterFill (order : Engine.OrderSnapshot) : UInt32 :=
  if order.totalVolumeRemaining ≥ order.disclosedVolumeRemaining then 0
  else order.disclosedVolumeRemaining - order.totalVolumeRemaining

theorem disclosedAfterFill_eq_zero_iff (order : Engine.OrderSnapshot) :
    byteswap (disclosedAfterFill order) = 0 ↔
      order.disclosedVolumeRemaining ≤ order.totalVolumeRemaining := by
  rw [byteswap_eq_zero_iff, disclosedAfterFill]
  split
  · rename_i hle
    exact ⟨fun _ => hle, fun _ => rfl⟩
  · rename_i hgt
    refine ⟨fun h0 => ?_, fun hle => absurd hle hgt⟩
    rw [sub_eq_zero.mp h0]
    exact UInt32.le_refl _

theorem applyFillToSnapshot_all (order : Engine.OrderSnapshot) :
    applyFillToSnapshot order order.totalVolumeRemaining =
      { order with
        volumeFilledToday := order.volumeFilledToday + order.totalVolumeRemaining
        totalVolumeRemaining := 0
        disclosedVolumeRemaining := disclosedAfterFill order } := by
  simp only [applyFillToSnapshot, Std.min_self, sub_self, disclosedAfterFill]

/-- The trade of an accepted order. -/
def immediateTrade (st : EngineState) : EngineEvent :=
  let accepted := acceptedSnapshot entry.env
    (buildSnapshotFromEntryRequest entry.request entry.sessionId entry.session) st
  let filled := fillSnapshot accepted (st.nextLastActivityReference + 1) st.nextFillNumber
    accepted.totalVolumeRemaining (entry.env.clock 1)
  makeTradeEvent filled filled.price filled.volumeFilledToday

theorem trade_timeless_iff (config : Config) (hn : SameNumbers st fill) :
    timeless (responseTo config (immediateTrade entry st)) =
        timeless (.trade (sendTradeResponse config (acceptedOrder entry fill))) ↔
      byteswap entry.request.disclosedVolume ≤ byteswap entry.request.volume := by
  have hzero := disclosedAfterFill_eq_zero_iff
    (buildSnapshotFromEntryRequest entry.request entry.sessionId entry.session)
  have hall := applyFillToSnapshot_all
    { acceptedSnapshot entry.env
        (buildSnapshotFromEntryRequest entry.request entry.sessionId entry.session) st with
      lastActivityReference := st.nextLastActivityReference + 1
      fillNumber := st.nextFillNumber }
  refine Iff.trans ?_ hzero
  rw [immediateTrade, fillSnapshot, hall]
  simp [responseTo, makeTradeEvent, timeless, Server.sendTradeResponse, sendTradeResponse,
    buildSnapshotFromEntryRequest, stampOrder, acceptedSnapshot, acceptedOrder, hn.order, hn.fill,
    disclosedAfterFill]

theorem onNewOrder_accepted (hno : cfg.marketDataEnabled = false)
    (hreq : FillEngine.unsupported entry.request = false) :
    (engine cfg st entry.op).1 =
      [makeOrderEvent
          (acceptedSnapshot entry.env
            (buildSnapshotFromEntryRequest entry.request entry.sessionId entry.session) st)
          kTxnOrderConfirmationTrimmed 0,
        immediateTrade entry st] := by
  rw [onNewOrder_immediate entry hno hreq]
  rfl

/-! ### Both engines in step -/

theorem entries_lockstep (hno : cfg.marketDataEnabled = false) :
    Lib.Lockstep (engine cfg) (orderEntry cfg.config) Entry.op Entry.dated SameNumbers where
  related st fill entry hn := by
    cases hreq : FillEngine.unsupported entry.request with
    | true =>
        rw [onNewOrder_unsupported entry hreq, orderEntry_unsupported entry hreq]
        exact hn
    | false =>
        rw [onNewOrder_immediate entry hno hreq, orderEntry_accepted entry hreq]
        exact ⟨congrArg (· + 1) hn.order, congrArg (· + 1) hn.fill⟩
  length st fill entry _ := by
    cases hreq : FillEngine.unsupported entry.request with
    | true => simp [onNewOrder_unsupported entry hreq, orderEntry_unsupported entry hreq]
    | false => simp [onNewOrder_accepted entry hno hreq, orderEntry_accepted entry hreq]

/-- One order entry is answered alike exactly when it discloses no more than it may. -/
theorem answers_agree_iff (hno : cfg.marketDataEnabled = false) (hn : SameNumbers st fill) :
    (engine cfg st entry.op).1.map (fun e => timeless (responseTo cfg.config e)) =
        (orderEntry cfg.config fill entry.dated).1.map timeless ↔
      entry.disclosesInFull := by
  rw [Entry.disclosesInFull]
  cases hreq : FillEngine.unsupported entry.request with
  | true =>
      rw [onNewOrder_unsupported entry hreq, orderEntry_unsupported entry hreq]
      simp [errorResponse_timeless]
  | false =>
      rw [onNewOrder_accepted entry hno hreq, orderEntry_accepted entry hreq]
      simp [confirmation_timeless entry cfg.config hn, trade_timeless_iff entry cfg.config hn]

end Entries

/-! ## Any number of entries -/

/-- Without market data the two engines answer a list of order entries with the same responses, apart
from the clock and the activity references, exactly when no accepted order discloses more than its
volume. -/
theorem immediate_fills_agree_iff {cfg : EngineConfig} (hno : cfg.config.marketDataStreams = [])
    (entries : List Entry) :
    (Lib.exec (engine cfg) cfg.init (entries.map Entry.op)).1.map
          (fun e => timeless (responseTo cfg.config e)) =
        (Lib.exec (orderEntry cfg.config) (.init cfg.config) (entries.map Entry.dated)).1.map
          timeless ↔
      ∀ entry ∈ entries, entry.disclosesInFull := by
  have hdisabled : cfg.marketDataEnabled = false := by simp [EngineConfig.marketDataEnabled, hno]
  apply (entries_lockstep hdisabled).exec_agree_iff
  · intro st fill entry hn
    exact answers_agree_iff entry hdisabled hn
  · exact ⟨rfl, rfl⟩

/-- A configuration without market data. -/
def fillsAtOnce : EngineConfig := {}

/-- A purchase of 10 that discloses the quantity. -/
def disclosing (quantity : UInt32) : Entry where
  request := { orderRequest 654321 1 10 1000 kOrderFlagsDay with disclosedVolume := byteswap quantity }
  env := calm
  sessionId := 1
  session := 1
  now := ⟨1, 1⟩

theorem immediate_fills_agree_iff_disclosed :
    (Lib.exec (engine fillsAtOnce) fillsAtOnce.init ([disclosing 10].map Entry.op)).1.map
        (fun e => timeless (responseTo fillsAtOnce.config e)) =
      (Lib.exec (orderEntry fillsAtOnce.config) (.init fillsAtOnce.config)
        ([disclosing 10].map Entry.dated)).1.map timeless := by
  refine (immediate_fills_agree_iff rfl [disclosing 10]).mpr ?_
  intro entry hentry
  rw [List.mem_singleton.mp hentry]
  decide

/-- An order for 10 that discloses 15: its trade still discloses 5, where the earlier engine has 0. -/
theorem immediate_fill_still_discloses :
    ¬∀ (cfg : EngineConfig) (entries : List Entry), cfg.config.marketDataStreams = [] →
      (Lib.exec (engine cfg) cfg.init (entries.map Entry.op)).1.map
          (fun e => timeless (responseTo cfg.config e)) =
        (Lib.exec (orderEntry cfg.config) (.init cfg.config) (entries.map Entry.dated)).1.map
          timeless := by
  intro hclaim
  have hagree := hclaim fillsAtOnce [disclosing 15] rfl
  revert hagree
  decide +kernel

end NseFoExchangeSim.Simulator
