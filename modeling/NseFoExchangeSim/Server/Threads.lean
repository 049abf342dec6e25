import Mathlib.Logic.Function.Basic
import NseFoExchangeSim.Engine.Run

/-!
# The threads of the server

The threads of `runtime.cpp` that call the engine: one for each session connection
(`SessionConnection::run`) and one for each market-data socket (`marketDataLoop`). An engine call is
one step of its thread, and every `dispatchEvent` is a later step of the same thread. A socket that
fails, in a write or in a read, sets `closed_` in one step and calls `onSessionClosed` in a later one.
-/

namespace NseFoExchangeSim.Server

open Protocol Engine

/-! ## What the threads read and write -/

inductive Thread
  | session (sessionId : UInt64)
  | marketData (stream : Nat)
deriving DecidableEq, Repr

/-- A weak pointer to a connection is the number of its session. -/
def sharedFromThis (sessionId : UInt64) : SessionRef := sessionId.toNat

/-- The connection a weak pointer leads to. -/
def lock (session : SessionRef) : UInt64 := .ofNat session

/-- The requests of the ready phase that go to the engine. -/
inductive Request
  | orderEntry (request : OrderEntryRequestPayload)
  | orderModification (request : OrderUpdateRequestPayload)
  | orderCancellation (request : OrderUpdateRequestPayload)

/-- The engine call of `handleReadyPayload`. -/
def Request.call (env : CallEnv) (sessionId : UInt64) : Request → Op
  | .orderEntry request => .newOrder env request sessionId (sharedFromThis sessionId)
  | .orderModification request => .modifyOrder env request sessionId (sharedFromThis sessionId)
  | .orderCancellation request => .cancelOrder env request sessionId (sharedFromThis sessionId)

/-- The packets that go to the engine. -/
inductive Packet
  | order (message : TbtOrderMessage)
  | trade (message : TbtTradeMessage)

/-- The engine call of `marketDataLoop`. -/
def Packet.call (env : CallEnv) : Packet → Op
  | .order message => .tbtOrder env message
  | .trade message => .tbtTrade env message

/-- An event that the engine has generated: the session that is to write it, and its place among all
events generated. -/
structure Delivery where
  sessionId : UInt64
  index : Nat
  event : EngineEvent
deriving DecidableEq, Repr

/-- A session thread dispatches through its own connection, a market-data thread through the
connection that the event points to. -/
def Thread.recipient : Thread → EngineEvent → UInt64
  | .session sessionId, _ => sessionId
  | .marketData _, event => lock event.session

/-- The events of one call, the first of them generated after `first` others. -/
def Thread.deliveries (t : Thread) (first : Nat) (events : List EngineEvent) : List Delivery :=
  (events.zipIdx first).map fun (event, index) => ⟨t.recipient event, index, event⟩

/-! ## State -/

/-- Where a thread stands. -/
inductive Control
  /-- It dispatches events, or reads when there are none left. -/
  | running (pending : List Delivery)
  /-- It has read what it is going to call the engine with. -/
  | entering (op : Op)
  /-- It has set `closed_` and is going to call `onSessionClosed`; then it goes on dispatching or,
  when it is the connection's own `run`, ends. -/
  | closing (sessionId : UInt64) (next : Option (List Delivery))
  | ended

def Control.pending : Control → List Delivery
  | .running pending => pending
  | .closing _ (some pending) => pending
  | _ => []

/-- The engine, the control of every thread and `closed_` of every connection. Two fields record what
has happened: the events generated, and how many there were when `onSessionClosed` first returned. -/
structure ServerState where
  engine : EngineState
  control : Thread → Control
  closed : UInt64 → Bool
  generated : List Delivery
  returnedAt : UInt64 → Option Nat

/-- Every thread is at its first read. A session that nobody has opened yet is one that reads
nothing. -/
def init (cfg : EngineConfig) : ServerState where
  engine := cfg.init
  control _ := .running []
  closed _ := false
  generated := []
  returnedAt _ := none

namespace ServerState

variable (s : ServerState)

def setControl (t : Thread) (c : Control) : ServerState :=
  { s with control := Function.update s.control t c }

def setClosed (sessionId : UInt64) : ServerState :=
  { s with closed := Function.update s.closed sessionId true }

def pending (t : Thread) : List Delivery := (s.control t).pending

end ServerState

/-! ## Steps -/

inductive Action
  /-- A client's request arrives. -/
  | request (sessionId : UInt64) (env : CallEnv) (request : Request)
  /-- A market-data packet arrives. -/
  | packet (stream : Nat) (env : CallEnv) (packet : Packet)
  /-- The thread calls the engine with what it has read. -/
  | enter (t : Thread)
  /-- The thread dispatches its next event; the write succeeds or throws. -/
  | dispatch (t : Thread) (written : Bool)
  /-- Reading from the client, or handling what it sent, throws. -/
  | readError (sessionId : UInt64)
  /-- The thread calls `onSessionClosed`. -/
  | close (t : Thread)

/-- A thread that is reading receives what it is to call the engine with. -/
def receive (s : ServerState) (t : Thread) (op : Op) : ServerState :=
  match s.control t with
  | .running [] => s.setControl t (.entering op)
  | _ => s

/-- The events that a call returns to the thread. -/
def called (cfg : EngineConfig) (s : ServerState) (t : Thread) (op : Op) : List Delivery :=
  t.deliveries s.generated.length (engine cfg s.engine op).1

def afterCall (cfg : EngineConfig) (s : ServerState) (t : Thread) (op : Op) : ServerState :=
  { s with
    engine := (engine cfg s.engine op).2
    control := Function.update s.control t (.running (called cfg s t op))
    generated := s.generated ++ called cfg s t op }

def afterClose (cfg : EngineConfig) (s : ServerState) (t : Thread) (sessionId : UInt64)
    (next : Option (List Delivery)) : ServerState :=
  { s with
    engine := (engine cfg s.engine (.sessionClosed sessionId)).2
    control := Function.update s.control t (next.elim .ended .running)
    returnedAt :=
      Function.update s.returnedAt sessionId
        (some ((s.returnedAt sessionId).getD s.generated.length)) }

/-- The server as a machine that answers a step with what it writes to the clients. A step that its
thread cannot take leaves the state as it is. -/
def server (cfg : EngineConfig) : Lib.Machine ServerState Action Delivery
  | s, .request sessionId env request =>
      ([], receive s (.session sessionId) (request.call env sessionId))
  | s, .packet stream env packet => ([], receive s (.marketData stream) (packet.call env))
  | s, .enter t =>
      match s.control t with
      | .entering op => ([], afterCall cfg s t op)
      | _ => ([], s)
  | s, .dispatch t written =>
      match s.control t with
      | .running (d :: ds) =>
          if s.closed d.sessionId then ([], s.setControl t (.running ds))
          else if written then ([d], s.setControl t (.running ds))
          else ([], (s.setClosed d.sessionId).setControl t (.closing d.sessionId (some ds)))
      | _ => ([], s)
  | s, .readError sessionId =>
      match s.control (.session sessionId) with
      | .running [] =>
          ([], (s.setClosed sessionId).setControl (.session sessionId) (.closing sessionId none))
      | _ => ([], s)
  | s, .close t =>
      match s.control t with
      | .closing sessionId next => ([], afterClose cfg s t sessionId next)
      | _ => ([], s)

def generatedBy (cfg : EngineConfig) (s : ServerState) : Action → List Delivery
  | .enter t =>
      match s.control t with
      | .entering op => called cfg s t op
      | _ => []
  | _ => []

/-! ## What a step can do -/

/-- The call is one the thread makes. -/
def Thread.Makes : Thread → Op → Prop
  | .session sessionId, op => ∃ env, ∃ request : Request, op = request.call env sessionId
  | .marketData _, op => ∃ env, ∃ packet : Packet, op = packet.call env

/-- What a step writes and where it leads, by what it does. -/
inductive Effect (cfg : EngineConfig) (s : ServerState) :
    Action → List Delivery → ServerState → Prop
  | idle {a} (hnone : generatedBy cfg s a = []) : Effect cfg s a [] s
  | receive {a t op} (hc : s.control t = .running []) (hop : t.Makes op) :
      Effect cfg s a [] (s.setControl t (.entering op))
  | enter {t op} (hc : s.control t = .entering op) :
      Effect cfg s (.enter t) [] (afterCall cfg s t op)
  | skip {a t d ds} (hc : s.control t = .running (d :: ds)) (hd : s.closed d.sessionId = true) :
      Effect cfg s a [] (s.setControl t (.running ds))
  | write {a t d ds} (hc : s.control t = .running (d :: ds)) (hd : s.closed d.sessionId = false) :
      Effect cfg s a [d] (s.setControl t (.running ds))
  | writeError {a t d ds} (hc : s.control t = .running (d :: ds))
      (hd : s.closed d.sessionId = false) :
      Effect cfg s a []
        ((s.setClosed d.sessionId).setControl t (.closing d.sessionId (some ds)))
  | readError {a sessionId} (hc : s.control (.session sessionId) = .running []) :
      Effect cfg s a []
        ((s.setClosed sessionId).setControl (.session sessionId) (.closing sessionId none))
  | close {a t sessionId next} (hc : s.control t = .closing sessionId next) :
      Effect cfg s a [] (afterClose cfg s t sessionId next)

section Effect

variable {cfg : EngineConfig} {s : ServerState}

theorem receive_effect {a : Action} {t : Thread} {op : Op} (hop : t.Makes op)
    (hnone : generatedBy cfg s a = []) : Effect cfg s a [] (receive s t op) := by
  unfold receive
  split
  · rename_i hc
    exact .receive hc hop
  · exact .idle hnone

theorem server_effect (a : Action) : Effect cfg s a (server cfg s a).1 (server cfg s a).2 := by
  cases a with
  | request sessionId env request => exact receive_effect ⟨env, request, rfl⟩ rfl
  | packet stream env packet => exact receive_effect ⟨env, packet, rfl⟩ rfl
  | enter t =>
      simp only [server]
      split
      · rename_i hc
        exact .enter hc
      · have hnone : generatedBy cfg s (.enter t) = [] := by simp only [generatedBy]
        exact .idle hnone
  | dispatch t written =>
      simp only [server]
      split
      · rename_i d ds hc
        split
        · rename_i hd
          exact .skip hc hd
        · rename_i hd
          have hopen : s.closed d.sessionId = false := by simpa using hd
          split
          · exact .write hc hopen
          · exact .writeError hc hopen
      · exact .idle rfl
  | readError sessionId =>
      simp only [server]
      split
      · rename_i hc
        exact .readError hc
      · exact .idle rfl
  | close t =>
      simp only [server]
      split
      · rename_i hc
        exact .close hc
      · exact .idle rfl

end Effect

end NseFoExchangeSim.Server
