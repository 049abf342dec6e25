import NseFoExchangeSim.Lib.Trace
import NseFoExchangeSim.Engine.Matching

/-!
# Runs of the engine

The calls an engine can receive, the machine they make, and what a history says about one order: its
events, what it has traded, and the volume it was last confirmed with.
-/

namespace NseFoExchangeSim.Engine

open Protocol

/-- A call of a public operation, with what it reads from outside. -/
inductive Op
  | newOrder (env : CallEnv) (request : OrderEntryRequestPayload) (sessionId : UInt64)
      (session : SessionRef)
  | modifyOrder (env : CallEnv) (request : OrderUpdateRequestPayload) (sessionId : UInt64)
      (session : SessionRef)
  | cancelOrder (env : CallEnv) (request : OrderUpdateRequestPayload) (sessionId : UInt64)
      (session : SessionRef)
  | tbtOrder (env : CallEnv) (message : TbtOrderMessage)
  | tbtTrade (env : CallEnv) (message : TbtTradeMessage)
  | sessionClosed (sessionId : UInt64)

def engine (cfg : EngineConfig) : Lib.Machine EngineState Op EngineEvent
  | st, .newOrder env request sessionId session => onNewOrder cfg env request sessionId session st
  | st, .modifyOrder env request sessionId session =>
      onModifyOrder cfg env request sessionId session st
  | st, .cancelOrder env request sessionId session => onCancelOrder env request sessionId session st
  | st, .tbtOrder env message => onTbtOrderMessage cfg env message st
  | st, .tbtTrade env message => onTbtTradeMessage cfg env message st
  | st, .sessionClosed sessionId => ([], onSessionClosed sessionId st)

/-- A history and a state that a run whose calls meet `ok` reaches. -/
abbrev RunWith (cfg : EngineConfig) (ok : List EngineEvent → EngineState → Op → Prop) :
    List EngineEvent → EngineState → Prop :=
  Lib.Run (engine cfg) ok cfg.init

/-- A history and a state that some run reaches. -/
abbrev Reachable (cfg : EngineConfig) : List EngineEvent → EngineState → Prop :=
  RunWith cfg Lib.anyCall

/-! ## Events -/

namespace EngineEvent

def successful (e : EngineEvent) : Bool := e.errorCode == 0

def isConfirmation (e : EngineEvent) : Bool :=
  e.successful && e.txnCode == kTxnOrderConfirmationTrimmed

def isModification (e : EngineEvent) : Bool :=
  e.successful && e.txnCode == kTxnOrderModificationConfirmationTrimmed

def isCancellation (e : EngineEvent) : Bool :=
  e.successful && e.txnCode == kTxnOrderCancellationConfirmationTrimmed

def isTrade (e : EngineEvent) : Bool := e.successful && e.txnCode == kTxnTradeConfirmationTrimmed

/-- A successful event for the order number. -/
def concerns (e : EngineEvent) (number : UInt64) : Bool :=
  e.successful && e.order.exchangeOrderNumber == number

end EngineEvent

/-! ## Histories -/

/-- The successful events for an order number. -/
def eventsOf (number : UInt64) (h : List EngineEvent) : List EngineEvent :=
  h.filter (·.concerns number)

def acceptedCount (h : List EngineEvent) : Nat := h.countP (·.isConfirmation)

/-- The quantity that the trades among some events add up to. -/
def filledIn (es : List EngineEvent) : Nat :=
  ((es.filter (·.isTrade)).map (·.fillQuantity.toNat)).sum

def traded (number : UInt64) (h : List EngineEvent) : Nat := filledIn (eventsOf number h)

end NseFoExchangeSim.Engine
