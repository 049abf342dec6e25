import NseFoExchangeSim.Protocol.Layout
import NseFoExchangeSim.Server.Frames
import NseFoExchangeSim.Server.Gateway
import NseFoExchangeSim.Server.Responses
import NseFoExchangeSim.Server.Threads

/-!
# One session

`SessionConnection` with the engine it calls. A turn of its loop reads a frame and handles the payload;
other threads call the engine, and dispatch events through the connection, between turns. Whether a
write succeeds is part of the surroundings.
-/

namespace NseFoExchangeSim.Server

open Lib Protocol Engine

/-! ## State -/

inductive Phase
  | awaitSecureBoxRegistration
  | awaitBoxSignOn
  | awaitLogin
  | ready
deriving DecidableEq, Repr

structure Connection extends Channel where
  phase : Phase := .awaitSecureBoxRegistration
  loggedInUserId : UInt32 := 0
  closed : Bool := false

/-- The connection, the engine, what has arrived and is not read, and whether `run` has ended. -/
structure SessionState where
  connection : Connection := {}
  engine : EngineState
  input : List (List UInt8) := []
  ended : Bool := false

/-- What a session is made with. -/
structure SessionContext where
  prims : Primitives
  cfg : EngineConfig
  ticket : SessionTicket
  sessionId : UInt64

/-! ## Messages -/

inductive Message
  | secureBoxRegistrationResponse (header : MessageHeader)
  | boxSignOnResponse (payload : BoxSignOnResponsePayload)
  | logonResponse (payload : SignOnOutPayload)
  | systemInfoResponse (payload : SystemInfoResponsePayload)
  | simpleHeaderResponse (header : MessageHeader)
  | event (response : Response)

def Response.bytes : Response → List UInt8
  | .trade payload => payload.bytes
  | .order payload => payload.bytes

def Message.bytes : Message → List UInt8
  | .secureBoxRegistrationResponse header => header.bytes
  | .boxSignOnResponse payload => payload.bytes
  | .logonResponse payload => payload.bytes
  | .systemInfoResponse payload => payload.bytes
  | .simpleHeaderResponse header => header.bytes
  | .event response => response.bytes

/-- What a session does that others can see: a payload it handles, a message it sends, a call of the
engine, and `onSessionClosed`. A payload and a message come with whether their frame was encrypted. -/
inductive SessionEvent
  | received (encrypted : Bool) (payload : List UInt8)
  | sent (encrypted : Bool) (message : Message) (written : Bool)
  | called (op : Op)
  | sessionClosed

/-- The surroundings of a turn: the times that are read, the surroundings of the engine call, and which
of the writes succeed. -/
structure TurnEnv where
  now : Nat → UInt32
  call : CallEnv
  written : Nat → Bool

/-- What was done, the state after it, and the exception that ended it. -/
abbrev Handled := List SessionEvent × SessionState × Option String

/-- What comes next, unless an exception was thrown. -/
def Handled.andThen (h : Handled) (next : SessionState → Handled) : Handled :=
  match h.2.2 with
  | some message => (h.1, h.2.1, some message)
  | none => (h.1 ++ (next h.2.1).1, (next h.2.1).2)

/-! ## Sending -/

section Sending

variable (ctx : SessionContext) (env : TurnEnv)

def sendMessage (message : Message) (written : Bool) (s : SessionState) : Handled :=
  match s.connection.toChannel.sendPayload ctx.prims message.bytes with
  | .error error => ([], s, some error)
  | .ok (_, channel) =>
      ([.sent s.connection.encryptionEnabled message written],
        { s with connection := { s.connection with toChannel := channel } },
        if written then none else some "socket write failed")

def setPhase (phase : Phase) (s : SessionState) : Handled :=
  ([], { s with connection := { s.connection with phase } }, none)

/-- Both streams start with the key of the ticket. -/
def enableEncryption (s : SessionState) : Handled :=
  let c := s.connection
  let start (stream : CtrCryptoStream) := stream.initializeStream ctx.ticket.cryptoKey ctx.ticket.cryptoIv
  ([], { s with
    connection := { c with
      inboundCrypto := start c.inboundCrypto
      outboundCrypto := start c.outboundCrypto
      encryptionEnabled := true } }, none)

def sendSecureBoxRegistrationResponse (traderId : UInt32) (s : SessionState) : Handled :=
  let response := initializeMessageHeader (env.now 0) kTxnSecureBoxRegistrationResponse traderId
    messageHeaderSize
  (sendMessage ctx (.secureBoxRegistrationResponse response) (env.written 0) s).andThen fun s =>
    (enableEncryption ctx s).andThen (setPhase .awaitBoxSignOn)

def sendBoxSignOnResponse (traderId : UInt32) (s : SessionState) : Handled :=
  let response : BoxSignOnResponsePayload :=
    { header := initializeMessageHeader (env.now 0) kTxnBoxSignOnRequestOut traderId
        boxSignOnResponseSize
      boxId := byteswap ctx.ticket.boxId }
  (sendMessage ctx (.boxSignOnResponse response) (env.written 0) s).andThen (setPhase .awaitLogin)

/-- `copyTrailingSpaces` of a name that is short enough. -/
def simulatorName : Vector UInt8 25 :=
  .ofFn fun i => ((("SIMULATOR".toList[i]?).getD ' ').toUInt8)

def sendLogonResponse (request : SignOnInPayload) (s : SessionState) : Handled :=
  let response : SignOnOutPayload :=
    { header := initializeMessageHeader (env.now 0) kTxnLogonResponse (byteswap request.traderId)
        signOnOutSize
      userId := request.userId
      password := request.password
      newPassword := request.newPassword
      traderName := request.traderName
      lastPasswordChangeDate := byteswap (env.now 1)
      brokerId := request.brokerId
      branchId := request.branchId
      versionNumber := request.versionNumber
      endTime := byteswap (env.now 2)
      sequenceNumber := hostToWireDouble 0
      wsClassName := request.wsClassName
      brokerStatus := ' '.toUInt8
      showIndex := 'T'.toUInt8
      clearingStatus := ' '.toUInt8
      brokerName := simulatorName }
  (sendMessage ctx (.logonResponse response) (env.written 0) s).andThen (setPhase .ready)

def sendSystemInfoResponse (traderId : UInt32) (s : SessionState) : Handled :=
  let header := initializeMessageHeader (env.now 0) kTxnSystemInfoResponse traderId
    systemInfoResponseSize
  let response : SystemInfoResponsePayload :=
    { header := { header with alphaChar := header.alphaChar.set 0 ctx.cfg.config.defaultStreamNo }
      boardLotQuantity := byteswap 1
      tickSize := byteswap 5
      disclosedQuantityPercentAllowed := byteswap 100 }
  sendMessage ctx (.systemInfoResponse response) (env.written 0) s

def sendSimpleHeaderResponse (txnCode : UInt16) (traderId : UInt32) (s : SessionState) : Handled :=
  let response := initializeMessageHeader (env.now 0) txnCode traderId messageHeaderSize
  sendMessage ctx (.simpleHeaderResponse response) (env.written 0) s

/-- `closed_` is set and the engine is told. -/
def closeSession (s : SessionState) : List SessionEvent × SessionState :=
  ([.sessionClosed],
    { s with
      connection := { s.connection with closed := true }
      engine := (engine ctx.cfg s.engine (.sessionClosed ctx.sessionId)).2 })

def dispatchEvent (event : EngineEvent) (written : Bool) (s : SessionState) :
    List SessionEvent × SessionState :=
  if s.connection.closed then ([], s)
  else
    match sendMessage ctx (.event (responseTo ctx.cfg.config event)) written s with
    | (sent, s, none) => (sent, s)
    | (sent, s, some _) => (sent ++ (closeSession ctx s).1, (closeSession ctx s).2)

/-- The events are dispatched in turn; the first of them is the `k`-th write of the turn. -/
def dispatchEvents : List EngineEvent → Nat → SessionState → List SessionEvent × SessionState
  | [], _, s => ([], s)
  | event :: events, k, s =>
      let first := dispatchEvent ctx event (env.written k) s
      let rest := dispatchEvents events (k + 1) first.2
      (first.1 ++ rest.1, rest.2)

end Sending

/-! ## Handling a payload -/

section Handling

variable (ctx : SessionContext) (env : TurnEnv)

def raise (message : String) (s : SessionState) : Handled := ([], s, some message)

def handleSecureBoxRegistration (txnCode : UInt16) (payload : List UInt8) (s : SessionState) :
    Handled :=
  if txnCode ≠ kTxnSecureBoxRegistrationRequest ∨
      payload.length ≠ secureBoxRegistrationRequestSize then
    raise "unexpected secure box registration payload" s
  else if byteswap (load16 payload 40) ≠ ctx.ticket.boxId then
    raise "unexpected secure box registration box id" s
  else sendSecureBoxRegistrationResponse ctx env (byteswap (load32 payload 8)) s

def BoxSignOnRequestPayload.ofBytes (bytes : List UInt8) : BoxSignOnRequestPayload where
  boxId := load16 bytes 40
  sessionKey := load64 bytes 52

def handleBoxSignOn (txnCode : UInt16) (payload : List UInt8) (s : SessionState) : Handled :=
  if txnCode ≠ kTxnBoxSignOnRequestIn ∨ payload.length ≠ boxSignOnRequestSize then
    raise "unexpected box sign on payload" s
  else if !boxSignOnValid ctx.ticket (.ofBytes payload) then
    raise "box sign on validation failed" s
  else sendBoxSignOnResponse ctx env (byteswap (load32 payload 8)) s

def handleLogin (txnCode : UInt16) (payload : List UInt8) (s : SessionState) : Handled :=
  if txnCode ≠ kTxnLogonRequest ∨ payload.length ≠ signOnInSize then
    raise "unexpected logon payload" s
  else
    let request := SignOnInPayload.ofBytes payload
    let s := { s with connection := { s.connection with loggedInUserId := byteswap request.userId } }
    sendLogonResponse ctx env request s

/-- The engine call of a request, and its events dispatched. -/
def callEngine (request : Request) (s : SessionState) : Handled :=
  let op := request.call env.call ctx.sessionId
  let answer := engine ctx.cfg s.engine op
  let dispatched := dispatchEvents ctx env answer.1 0 { s with engine := answer.2 }
  (.called op :: dispatched.1, dispatched.2, none)

def handleReadyPayload (txnCode : UInt16) (payload : List UInt8) (s : SessionState) : Handled :=
  if txnCode = kTxnSystemInfoRequest then
    if payload.length ≠ systemInfoRequestSize then raise "bad system info request size" s
    else sendSystemInfoResponse ctx env s.connection.loggedInUserId s
  else if txnCode = kTxnUpdateLocalDatabase then
    if payload.length ≠ updateLocalDatabaseRequestSize then raise "bad update local db size" s
    else
      sendSimpleHeaderResponse ctx env kTxnUpdateLocalDatabaseTrailer s.connection.loggedInUserId s
  else if txnCode = kTxnMessageDownloadRequest then
    if payload.length ≠ messageDownloadRequestSize then
      raise "bad message download request size" s
    else sendSimpleHeaderResponse ctx env kTxnMessageDownloadTrailer s.connection.loggedInUserId s
  else if txnCode = kTxnHeartbeat then ([], s, none)
  else if txnCode = kTxnOrderEntryTrimmed then
    if payload.length ≠ orderEntryRequestSize then raise "bad order request size" s
    else callEngine ctx env (.orderEntry (.ofBytes payload)) s
  else if txnCode = kTxnOrderModificationTrimmed then
    if payload.length ≠ orderUpdateRequestSize then
      raise "bad order modification request size" s
    else callEngine ctx env (.orderModification (.ofBytes payload)) s
  else if txnCode = kTxnOrderCancellationTrimmed then
    if payload.length ≠ orderUpdateRequestSize then
      raise "bad order cancellation request size" s
    else callEngine ctx env (.orderCancellation (.ofBytes payload)) s
  else raise "unsupported transaction code" s

/-- The transaction code at the beginning of a payload. -/
def txnCodeOf (payload : List UInt8) : UInt16 := byteswap (load16 payload 0)

def handlePayload (payload : List UInt8) (s : SessionState) : Handled :=
  if payload.length < 2 then raise "payload too small" s
  else
    match s.connection.phase with
    | .awaitSecureBoxRegistration =>
        handleSecureBoxRegistration ctx env (txnCodeOf payload) payload s
    | .awaitBoxSignOn => handleBoxSignOn ctx env (txnCodeOf payload) payload s
    | .awaitLogin => handleLogin ctx env (txnCodeOf payload) payload s
    | .ready => handleReadyPayload ctx env (txnCodeOf payload) payload s

end Handling

/-! ## The session as a machine -/

inductive SessionAction
  /-- Bytes have arrived, and the loop of `run` makes a turn. -/
  | turn (arrived : List (List UInt8)) (env : TurnEnv)
  /-- Another thread dispatches an event through the connection. -/
  | dispatch (event : EngineEvent) (written : Bool)
  /-- Another thread calls the engine. -/
  | other (op : Op)

/-- An exception ends `run`. -/
def endSession (ctx : SessionContext) (s : SessionState) : List SessionEvent × SessionState :=
  ((closeSession ctx s).1, { (closeSession ctx s).2 with ended := true })

def turn (ctx : SessionContext) (env : TurnEnv) (s : SessionState) :
    List SessionEvent × SessionState :=
  match s.connection.toChannel.receivePayload ctx.prims s.input with
  | .error _ => endSession ctx s
  | .ok (payload, channel, input) =>
      let encrypted := s.connection.encryptionEnabled
      let s := { s with connection := { s.connection with toChannel := channel }, input }
      match handlePayload ctx env payload s with
      | (done, s, none) => (.received encrypted payload :: done, s)
      | (done, s, some _) =>
          (.received encrypted payload :: (done ++ (endSession ctx s).1), (endSession ctx s).2)

def session (ctx : SessionContext) : Machine SessionState SessionAction SessionEvent
  | s, .turn arrived env =>
      if s.ended then ([], s) else turn ctx env { s with input := s.input ++ arrived }
  | s, .dispatch event written => dispatchEvent ctx event written s
  | s, .other op => ([], { s with engine := (engine ctx.cfg s.engine op).2 })

/-- A new connection to an engine in any state. -/
def SessionState.init (engine : EngineState) : SessionState where
  engine := engine

end NseFoExchangeSim.Server
