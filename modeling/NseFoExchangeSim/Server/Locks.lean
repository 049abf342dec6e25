import NseFoExchangeSim.Lib.LockOrder
import NseFoExchangeSim.Server.Threads

/-!
# The threads and their mutexes

The threads of the server once more, now with `mutex_` of the engine and `write_mutex_` of each
connection. A call of the engine takes the mutex, reads the engine's state, writes the state that it
computes from it, and releases the mutex, but a request that is not valid is answered before the mutex is
taken; a dispatch looks at `closed_` before and after it has taken
`write_mutex_`, and a write that throws calls `onSessionClosed` while it holds it. A thread whose mutex is
taken waits.
-/

namespace NseFoExchangeSim.Server

open Protocol Engine

inductive Mutex
  | engine
  | write (sessionId : UInt64)
deriving DecidableEq, Repr

/-- The error with which `onNewOrder`, `onModifyOrder` and `onCancelOrder` answer a request that is not
valid, before they take the mutex. -/
def refusal : Op → Option EngineEvent
  | .newOrder env request sessionId session =>
      let snapshot := buildSnapshotFromEntryRequest request sessionId session
      if isValidNewOrder snapshot request then none
      else
        some (makeOrderEvent (stampOrder snapshot true (env.clock 0)) kTxnOrderErrorTrimmed
          kErrorUnsupportedOrder)
  | .modifyOrder env request sessionId session =>
      let snapshot := updateRequestSnapshot env request sessionId session
      if isValidModifyRequest snapshot request then none
      else
        some (makeOrderEvent (stampOrder snapshot false (env.clock 0))
          kTxnOrderModificationErrorTrimmed kErrorUnsupportedOrder)
  | .cancelOrder env request sessionId session =>
      let snapshot := updateRequestSnapshot env request sessionId session
      if isValidCancelRequest snapshot request then none
      else
        some (makeOrderEvent (stampOrder snapshot false (env.clock 0))
          kTxnOrderCancellationErrorTrimmed kErrorUnsupportedOrder)
  | _ => none

/-- Where a thread stands, with its local variables. -/
inductive LockControl
  /-- It dispatches events, or reads when there are none left. -/
  | running (pending : List Delivery)
  /-- It has called the engine, and is going to answer at once or to take the mutex. -/
  | entering (op : Op)
  /-- It holds the engine's mutex and has read the engine's state. -/
  | inCall (op : Op) (read : EngineState)
  | afterCall (pending : List Delivery)
  /-- It has found the connection open and is going to take its `write_mutex_`. -/
  | lockingWrite (d : Delivery) (pending : List Delivery)
  | checking (d : Delivery) (pending : List Delivery)
  /-- It writes; the write is going to succeed or to throw. -/
  | writing (d : Delivery) (pending : List Delivery) (written : Bool)
  | failed (d : Delivery) (pending : List Delivery)
  | unlockingWrite (sessionId : UInt64) (pending : List Delivery)
  /-- It has set `closed_` and is going to take the engine's mutex for `onSessionClosed`: within a
  dispatch, with what is left to dispatch, or at the end of `run`. -/
  | closing (sessionId : UInt64) (next : Option (List Delivery))
  | inClose (sessionId : UInt64) (next : Option (List Delivery)) (read : EngineState)
  | afterClose (sessionId : UInt64) (next : Option (List Delivery))
  | ended

namespace LockControl

/-- The mutexes the thread holds. -/
def holds : LockControl → List Mutex
  | .inCall _ _ | .afterCall _ => [.engine]
  | .checking d _ | .writing d _ _ | .failed d _ => [.write d.sessionId]
  | .unlockingWrite sessionId _ | .closing sessionId (some _) => [.write sessionId]
  | .inClose sessionId (some _) _ | .afterClose sessionId (some _) =>
      [.engine, .write sessionId]
  | .inClose _ none _ | .afterClose _ none => [.engine]
  | _ => []

/-- The mutex the thread is going to take. -/
def waitsFor : LockControl → Option Mutex
  | .entering op => if (refusal op).isSome then none else some .engine
  | .closing _ _ => some .engine
  | .lockingWrite d _ => some (.write d.sessionId)
  | _ => none

/-- The thread reads from its socket, or has ended. -/
def atRest : LockControl → Bool
  | .running [] | .ended => true
  | _ => false

end LockControl

structure LockState where
  engine : EngineState
  holder : Mutex → Option Thread
  control : Thread → LockControl
  closed : UInt64 → Bool
  generated : List Delivery
  returnedAt : UInt64 → Option Nat

def LockState.init (cfg : EngineConfig) : LockState where
  engine := cfg.init
  holder _ := none
  control _ := .running []
  closed _ := false
  generated := []
  returnedAt _ := none

namespace LockState

variable (s : LockState)

def setControl (t : Thread) (c : LockControl) : LockState :=
  { s with control := Function.update s.control t c }

def setClosed (sessionId : UInt64) : LockState :=
  { s with closed := Function.update s.closed sessionId true }

/-- The thread goes on as `c` when it gets the mutex. -/
def acquire (m : Mutex) (t : Thread) (c : LockControl) : LockState :=
  match s.holder m with
  | some _ => s
  | none => { s.setControl t c with holder := Function.update s.holder m (some t) }

def release (m : Mutex) (t : Thread) (c : LockControl) : LockState :=
  { s.setControl t c with holder := Function.update s.holder m none }

def locking : Lib.Locking Thread Mutex where
  holder := s.holder
  waitsFor t := (s.control t).waitsFor

end LockState

/-! ## Steps -/

inductive LockAction
  | request (sessionId : UInt64) (env : CallEnv) (request : Request)
  | packet (stream : Nat) (env : CallEnv) (packet : Packet)
  | readError (sessionId : UInt64)
  /-- The thread takes its next step; a write that starts in it is going to succeed or to throw. -/
  | proceed (t : Thread) (written : Bool)

/-- A thread that is reading receives what it is to call the engine with. -/
def receiveLocked (s : LockState) (t : Thread) (op : Op) : LockState :=
  match s.control t with
  | .running [] => s.setControl t (.entering op)
  | _ => s

section Steps

variable (cfg : EngineConfig) (s : LockState) (t : Thread)

/-- The request is answered with the error, and the engine's state is not read. -/
def refuse (e : EngineEvent) : LockState :=
  let events := t.deliveries s.generated.length [e]
  { s.setControl t (.running events) with generated := s.generated ++ events }

/-- What the call computes from the state that was read is written. -/
def commitCall (op : Op) (read : EngineState) : LockState :=
  let events := t.deliveries s.generated.length (engine cfg read op).1
  { s.setControl t (.afterCall events) with
    engine := (engine cfg read op).2
    generated := s.generated ++ events }

def commitClose (sessionId : UInt64) (next : Option (List Delivery)) (read : EngineState) :
    LockState :=
  { s.setControl t (.afterClose sessionId next) with
    engine := (engine cfg read (.sessionClosed sessionId)).2
    returnedAt :=
      Function.update s.returnedAt sessionId
        (some ((s.returnedAt sessionId).getD s.generated.length)) }

def proceed (written : Bool) : List Delivery × LockState :=
  match s.control t with
  | .running [] | .ended => ([], s)
  | .running (d :: ds) =>
      if s.closed d.sessionId then ([], s.setControl t (.running ds))
      else ([], s.setControl t (.lockingWrite d ds))
  | .entering op =>
      match refusal op with
      | some e => ([], refuse s t e)
      | none => ([], s.acquire .engine t (.inCall op s.engine))
  | .inCall op read => ([], commitCall cfg s t op read)
  | .afterCall pending => ([], s.release .engine t (.running pending))
  | .lockingWrite d ds => ([], s.acquire (.write d.sessionId) t (.checking d ds))
  | .checking d ds =>
      if s.closed d.sessionId then ([], s.setControl t (.unlockingWrite d.sessionId ds))
      else ([], s.setControl t (.writing d ds written))
  | .writing d ds true => ([d], s.setControl t (.unlockingWrite d.sessionId ds))
  | .writing d ds false => ([], s.setControl t (.failed d ds))
  | .failed d ds =>
      ([], (s.setClosed d.sessionId).setControl t (.closing d.sessionId (some ds)))
  | .unlockingWrite sessionId ds => ([], s.release (.write sessionId) t (.running ds))
  | .closing sessionId next => ([], s.acquire .engine t (.inClose sessionId next s.engine))
  | .inClose sessionId next read => ([], commitClose cfg s t sessionId next read)
  | .afterClose sessionId (some ds) => ([], s.release .engine t (.unlockingWrite sessionId ds))
  | .afterClose _ none => ([], s.release .engine t .ended)

end Steps

/-- The threads with their mutexes, as a machine that answers a step with what it has written to the
clients. -/
def lockedServer (cfg : EngineConfig) : Lib.Machine LockState LockAction Delivery
  | s, .request sessionId env request =>
      ([], receiveLocked s (.session sessionId) (request.call env sessionId))
  | s, .packet stream env packet => ([], receiveLocked s (.marketData stream) (packet.call env))
  | s, .readError sessionId =>
      match s.control (.session sessionId) with
      | .running [] =>
          ([], (s.setClosed sessionId).setControl (.session sessionId) (.closing sessionId none))
      | _ => ([], s)
  | s, .proceed t written => proceed cfg s t written

/-! ## The thread as it is seen from outside -/

/-- The step of the server that the thread stands before, when a call counts as made at the moment its
state is written or its request refused, and a dispatch at the moment `closed_` is looked at under the
mutex. -/
def LockControl.seen : LockControl → Control
  | .running pending | .afterCall pending | .unlockingWrite _ pending => .running pending
  | .entering op | .inCall op _ => .entering op
  | .lockingWrite d pending | .checking d pending => .running (d :: pending)
  | .writing _ pending true => .running pending
  | .writing d pending false | .failed d pending => .closing d.sessionId (some pending)
  | .closing sessionId next | .inClose sessionId next _ => .closing sessionId next
  | .afterClose _ next => next.elim .ended .running
  | .ended => .ended

/-- The thread's write is going to throw, or has thrown, and `closed_` is not set yet. -/
def LockControl.failing : LockControl → Bool
  | .writing _ _ false | .failed _ _ => true
  | _ => false

/-- What the thread is writing. -/
def LockControl.sending : LockControl → List Delivery
  | .writing d _ true => [d]
  | _ => []

namespace LockState

variable (s : LockState)

/-- What the thread that holds the connection's mutex is writing. -/
def inFlight (sessionId : UInt64) : List Delivery :=
  match s.holder (.write sessionId) with
  | some t => (s.control t).sending
  | none => []

def seenClosed (sessionId : UInt64) : Bool :=
  s.closed sessionId ||
    match s.holder (.write sessionId) with
    | some t => (s.control t).failing
    | none => false

/-- The server without its mutexes. -/
def seen : ServerState where
  engine := s.engine
  control t := (s.control t).seen
  closed := s.seenClosed
  generated := s.generated
  returnedAt := s.returnedAt

end LockState

end NseFoExchangeSim.Server
