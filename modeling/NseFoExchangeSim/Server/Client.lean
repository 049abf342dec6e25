import NseFoExchangeSim.Protocol.ClientSide
import NseFoExchangeSim.Server.Turns

/-!
# A session and its client

`SessionClient` of the tests at one end of a connection, the session at the other, and the bytes that
are on their way between them. The ends and the network take steps in any order; a `recv` that would
block is a step that does nothing. The connection stays up: every write succeeds. A turn of the session
is one step up to its first dispatch, and every dispatch is a step, so that other threads dispatch
between them. The direct response of a turn, which goes out without `write_mutex_`, is written in that
one step; what comes of a thread that writes at the same time is seen in `Writers`.
-/

namespace NseFoExchangeSim.Server

open Lib Protocol Engine

/-! ## The client -/

namespace Channel

/-- `enableCrypto` -/
def enableCrypto (key : Vector UInt8 32) (iv : Vector UInt8 16) (channel : Channel) : Channel where
  encryptionEnabled := true
  inboundCrypto := channel.inboundCrypto.initializeStream key iv
  outboundCrypto := channel.outboundCrypto.initializeStream key iv
  sequenceNumber := channel.sequenceNumber

/-- `receivePayload` of a type that has the given size. -/
def receiveSized (prims : Primitives) (size : Nat) (channel : Channel)
    (chunks : List (List UInt8)) : Except String (List UInt8 × Channel × List (List UInt8)) := do
  let (headerBytes, chunks) ← readFully ctclHeaderSize chunks
  let header := DirectExCtclHeader.ofBytes headerBytes
  let payloadSize := (byteswap header.length).toUInt64 - ctclHeaderSize.toUInt64
  if payloadSize ≠ size.toUInt64 then
    throw "unexpected payload size"
  let (body, chunks) ← readFully payloadSize.toNat chunks
  let (payload, channel) ← channel.decrypt prims body
  if header.md5Checksum ≠ prims.md5 payload then
    throw "payload MD5 mismatch"
  return (payload, channel, chunks)

end Channel

/-- How far a client is: it has sent nothing, it waits for the answer to its registration, its crypto is
enabled, or an exception has ended it. -/
inductive ClientStage
  | fresh
  | registering
  | secure
  | failed (error : String)
deriving DecidableEq, Repr

/-! ## The two ends and what is between them -/

/-- Of the bytes in each direction, some are on the way and some have arrived and wait to be read, in
the chunks in which they arrived. -/
structure World where
  client : Channel := {}
  stage : ClientStage := .fresh
  server : SessionState
  up : List UInt8 := []
  upArrived : List (List UInt8) := []
  down : List UInt8 := []
  downArrived : List (List UInt8) := []
  /-- What the session's thread has still to dispatch. -/
  owed : List EngineEvent := []

/-- A new client, connected to a new session. -/
def World.init (engine : EngineState) : World where
  server := .init engine

inductive WorldAction
  /-- The client sends a payload. -/
  | send (payload : List UInt8)
  /-- The client receives a payload of the given size. -/
  | receive (size : Nat)
  /-- The network hands over some bytes. -/
  | deliverUp (count : Nat)
  | deliverDown (count : Nat)
  /-- The session's thread dispatches an event, or the loop of `run` makes a turn up to the first
  dispatch. -/
  | serve (now : Nat → UInt32) (call : CallEnv)
  /-- Another thread dispatches an event through the session, or calls the engine. -/
  | dispatch (event : EngineEvent)
  | other (op : Op)

inductive WorldEvent
  /-- The client has sent or received a payload. -/
  | sent (payload : List UInt8)
  | received (payload : List UInt8)
  /-- An exception has ended the client, in the transfer of a payload of the given size. -/
  | failed (size : Nat) (error : String)
  /-- The session has done something. -/
  | server (event : SessionEvent)

/-! ## The client's steps -/

section Client

variable (ctx : SessionContext)

/-- The keys are those of the gateway's response. -/
def enableClient (client : Channel) : Channel :=
  let response := gatewayRouterResponse ctx.ticket
  client.enableCrypto response.cryptographicKey response.cryptographicIv

def failClient (size : Nat) (error : String) (w : World) : List WorldEvent × World :=
  ([.failed size error], { w with stage := .failed error })

def clientSend (payload : List UInt8) (w : World) : List WorldEvent × World :=
  match w.client.sendPayload ctx.prims payload with
  | .error error => failClient payload.length error w
  | .ok (frame, client) => ([.sent payload], { w with client, up := w.up ++ frame })

/-- A client registers before it sends anything else, and then waits for the answer. -/
def clientTurn (payload : List UInt8) (w : World) : List WorldEvent × World :=
  match w.stage with
  | .fresh => clientSend ctx payload { w with stage := .registering }
  | .secure => clientSend ctx payload w
  | _ => ([], w)

/-- The answer to the registration is checked, and enables the crypto. -/
def clientAccept (payload : List UInt8) (w : World) : List WorldEvent × World :=
  match w.stage with
  | .registering =>
      if txnCodeOf payload ≠ kTxnSecureBoxRegistrationResponse then
        failClient payload.length "unexpected secure box response txn" w
      else
        ([.received payload], { w with client := enableClient ctx w.client, stage := .secure })
  | _ => ([.received payload], w)

def clientReceive (size : Nat) (w : World) : List WorldEvent × World :=
  match w.stage with
  | .failed _ => ([], w)
  | _ =>
      match w.client.receiveSized ctx.prims size w.downArrived with
      | .error error =>
          if error = "socket read failed" then ([], w) else failClient size error w
      | .ok (payload, client, downArrived) =>
          clientAccept ctx payload { w with client, downArrived }

end Client

/-! ## The session's steps -/

/-- The messages that have gone out. -/
def SessionEvent.message? : SessionEvent → Option Message
  | .sent _ message _ => some message
  | _ => none

def sentMessages (done : List SessionEvent) : List Message := done.filterMap (·.message?)

section Server

variable (ctx : SessionContext)

/-- What a session has written in a step, from the channel that it had. -/
def writtenBytes (channel : Channel) (done : List SessionEvent) : List UInt8 :=
  match channel.sendPayloads ctx.prims ((sentMessages done).map Message.bytes) with
  | .error _ => []
  | .ok (wire, _) => wire

def sessionStep (action : SessionAction) (w : World) : List WorldEvent × World :=
  let step := session ctx w.server action
  (step.1.map .server,
    { w with
      server := step.2
      down := w.down ++ writtenBytes ctx w.server.connection.toChannel step.1 })

/-- The loop cannot go on before more has arrived. -/
def waiting (w : World) : Bool :=
  match w.server.connection.toChannel.receivePayload ctx.prims (w.server.input ++ w.upArrived) with
  | .error error => error == "socket read failed"
  | .ok _ => false

/-- A turn takes what has arrived. -/
def readStep (env : TurnEnv) (w : World) : List WorldEvent × World :=
  let step := readTurn ctx env { w.server with input := w.server.input ++ w.upArrived }
  (step.1.map .server,
    { w with
      server := step.2.1
      upArrived := []
      down := w.down ++ writtenBytes ctx w.server.connection.toChannel step.1
      owed := step.2.2 })

/-- The events of a call are dispatched before the next turn, which waits until enough has arrived. -/
def serve (env : TurnEnv) (w : World) : List WorldEvent × World :=
  match w.owed with
  | event :: owed => sessionStep ctx (.dispatch event true) { w with owed }
  | [] => if w.server.ended ∨ waiting ctx w then ([], w) else readStep ctx env w

end Server

/-! ## The world as a machine -/

/-- Some bytes that were on the way have arrived as one more chunk. -/
def arrive (arrived : List (List UInt8)) (bytes : List UInt8) : List (List UInt8) :=
  if bytes = [] then arrived else arrived ++ [bytes]

def world (ctx : SessionContext) : Machine World WorldAction WorldEvent
  | w, .send payload => clientTurn ctx payload w
  | w, .receive size => clientReceive ctx size w
  | w, .deliverUp count =>
      ([], { w with up := w.up.drop count, upArrived := arrive w.upArrived (w.up.take count) })
  | w, .deliverDown count =>
      ([], { w with
        down := w.down.drop count
        downArrived := arrive w.downArrived (w.down.take count) })
  | w, .serve now call =>
      serve ctx { now, call, written := fun _ => true } w
  | w, .dispatch event => sessionStep ctx (.dispatch event true) w
  | w, .other op => sessionStep ctx (.other op) w

/-- A client's payloads have the size of a payload, and events are dispatched to a session that has
entered orders, which it does in the ready phase. -/
def WellTimed (_ : List WorldEvent) (w : World) : WorldAction → Prop
  | .send payload => payload.length ≤ kMaxSessionPayload
  | .dispatch _ => w.server.connection.phase = .ready
  | _ => True

instance (h : List WorldEvent) (w : World) (a : WorldAction) : Decidable (WellTimed h w a) :=
  match a with
  | .send payload => inferInstanceAs (Decidable (payload.length ≤ kMaxSessionPayload))
  | .dispatch _ => inferInstanceAs (Decidable (w.server.connection.phase = .ready))
  | .receive _ | .deliverUp _ | .deliverDown _ | .serve _ _ | .other _ => isTrue trivial

/-! ## Histories -/

namespace WorldEvent

def sent? : WorldEvent → Option (List UInt8)
  | .sent payload => some payload
  | _ => none

def received? : WorldEvent → Option (List UInt8)
  | .received payload => some payload
  | _ => none

def server? : WorldEvent → Option SessionEvent
  | .server event => some event
  | _ => none

end WorldEvent

/-- What the client has sent, what it has received, and what the session has done. -/
def clientSent (h : List WorldEvent) : List (List UInt8) := h.filterMap (·.sent?)

def clientReceived (h : List WorldEvent) : List (List UInt8) := h.filterMap (·.received?)

def sessionDone (h : List WorldEvent) : List SessionEvent := h.filterMap (·.server?)

section Histories

variable {h h' : List WorldEvent} {payload : List UInt8} {size : Nat} {error : String}
  {done : List SessionEvent}

@[simp] theorem clientSent_append : clientSent (h ++ h') = clientSent h ++ clientSent h' :=
  List.filterMap_append

@[simp] theorem clientReceived_append :
    clientReceived (h ++ h') = clientReceived h ++ clientReceived h' :=
  List.filterMap_append

@[simp] theorem sessionDone_append : sessionDone (h ++ h') = sessionDone h ++ sessionDone h' :=
  List.filterMap_append

@[simp] theorem clientSent_sent : clientSent [.sent payload] = [payload] := rfl

@[simp] theorem clientReceived_sent : clientReceived [.sent payload] = [] := rfl

@[simp] theorem sessionDone_sent : sessionDone [.sent payload] = [] := rfl

@[simp] theorem clientSent_received : clientSent [.received payload] = [] := rfl

@[simp] theorem clientReceived_received : clientReceived [.received payload] = [payload] := rfl

@[simp] theorem sessionDone_received : sessionDone [.received payload] = [] := rfl

@[simp] theorem clientSent_failed : clientSent [.failed size error] = [] := rfl

@[simp] theorem clientReceived_failed : clientReceived [.failed size error] = [] := rfl

@[simp] theorem sessionDone_failed : sessionDone [.failed size error] = [] := rfl

@[simp] theorem clientSent_server : clientSent (done.map .server) = [] := by
  simp [clientSent, WorldEvent.sent?]

@[simp] theorem clientReceived_server : clientReceived (done.map .server) = [] := by
  simp [clientReceived, WorldEvent.received?]

@[simp] theorem sessionDone_server : sessionDone (done.map .server) = done := by
  simp [sessionDone, WorldEvent.server?]

end Histories

end NseFoExchangeSim.Server
