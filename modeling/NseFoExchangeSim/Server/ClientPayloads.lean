import NseFoExchangeSim.Server.Client
import NseFoExchangeSim.Server.Theorems.Handshake

/-!
# What a client sends and decodes

The payloads with which `bootstrapReadySession` of the tests opens a session, the payloads of order
requests, and the responses as a client decodes them by their size.
-/

namespace NseFoExchangeSim.Server

open Lib Protocol Engine

/-! ## Opening a session -/

/-- A sign-on with the given header and broker. -/
def BoxSignOnRequestPayload.bytes (header : MessageHeader) (brokerId : Vector UInt8 5)
    (p : BoxSignOnRequestPayload) : List UInt8 :=
  List.flatten
    [header.bytes, store16 p.boxId, brokerId.toList, zeros 5, store64 p.sessionKey]

theorem BoxSignOnRequestPayload.length_bytes (header : MessageHeader) (brokerId : Vector UInt8 5)
    (p : BoxSignOnRequestPayload) : (p.bytes header brokerId).length = boxSignOnRequestSize := by
  simp [BoxSignOnRequestPayload.bytes, MessageHeader.length_bytes, messageHeaderSize,
    boxSignOnRequestSize]

theorem BoxSignOnRequestPayload.ofBytes_bytes (header : MessageHeader) (brokerId : Vector UInt8 5)
    (p : BoxSignOnRequestPayload) : BoxSignOnRequestPayload.ofBytes (p.bytes header brokerId) = p := by
  simp (disch := simp [MessageHeader.length_bytes, messageHeaderSize])
    [BoxSignOnRequestPayload.ofBytes, BoxSignOnRequestPayload.bytes, MessageHeader.length_bytes,
      messageHeaderSize, load16_skip, load64_skip]

/-- The payloads of `bootstrapReadySession` in their order; `now` is the time of each. -/
def bootstrapReadySession (response : GatewayRouterResponse) (userId : UInt32) (branchId : UInt16)
    (now : Nat → UInt32) : List (List UInt8) :=
  [SecureBoxRegistrationRequestPayload.bytes
      { header := initializeMessageHeader (now 0) kTxnSecureBoxRegistrationRequest userId
          secureBoxRegistrationRequestSize
        boxId := response.boxId },
    response.signOn.bytes
      (initializeMessageHeader (now 1) kTxnBoxSignOnRequestIn userId boxSignOnRequestSize)
      (copyTrailingSpaces 5 "BRKR1"),
    SignOnInPayload.bytes
      (initializeMessageHeader (now 2) kTxnLogonRequest userId signOnInSize) 'T'.toUInt8
      { userId := byteswap userId
        password := copyTrailingSpaces 8 "PASS1234"
        newPassword := copyTrailingSpaces 8 "PASS1234"
        brokerId := copyTrailingSpaces 5 "BRKR1"
        branchId := byteswap branchId
        versionNumber := byteswap 1
        wsClassName := copyTrailingSpaces 14 "1234567" },
    SystemInfoRequestPayload.bytes
      { header := initializeMessageHeader (now 3) kTxnSystemInfoRequest userId
          systemInfoRequestSize },
    UpdateLocalDatabaseRequestPayload.bytes
      { header := initializeMessageHeader (now 4) kTxnUpdateLocalDatabase userId
          updateLocalDatabaseRequestSize
        requestForOpenOrders := 'N'.toUInt8 },
    (initializeMessageHeader (now 5) kTxnHeartbeat userId messageHeaderSize).bytes,
    MessageDownloadRequestPayload.bytes
      { header := initializeMessageHeader (now 6) kTxnMessageDownloadRequest userId
          messageDownloadRequestSize }]

/-! ## Order requests -/

/-- The payload of a request. -/
def Request.bytes : Request → List UInt8
  | .orderEntry request => request.bytes
  | .orderModification request => request.bytes
  | .orderCancellation request => request.bytes

/-- The transaction code that a request has, and the one of its kind. -/
def Request.txnCode : Request → UInt16
  | .orderEntry request => byteswap request.transactionCode
  | .orderModification request => byteswap request.transactionCode
  | .orderCancellation request => byteswap request.transactionCode

def Request.kind : Request → UInt16
  | .orderEntry _ => kTxnOrderEntryTrimmed
  | .orderModification _ => kTxnOrderModificationTrimmed
  | .orderCancellation _ => kTxnOrderCancellationTrimmed

def Request.Coded (request : Request) : Prop := request.txnCode = request.kind

instance (request : Request) : Decidable request.Coded :=
  inferInstanceAs (Decidable (request.txnCode = request.kind))

/-- The request that `handleReadyPayload` takes from a payload. -/
def requestOf (payload : List UInt8) : Option Request :=
  if txnCodeOf payload = kTxnOrderEntryTrimmed then some (.orderEntry (.ofBytes payload))
  else if txnCodeOf payload = kTxnOrderModificationTrimmed then
    some (.orderModification (.ofBytes payload))
  else if txnCodeOf payload = kTxnOrderCancellationTrimmed then
    some (.orderCancellation (.ofBytes payload))
  else none

/-! ## Responses -/

/-- A client receives a trade confirmation and an order confirmation by their sizes. -/
def Response.ofBytes? (payload : List UInt8) : Option Response :=
  if payload.length = tradeConfirmationSize then some (.trade (.ofBytes payload))
  else if payload.length = orderConfirmationSize then some (.order (.ofBytes payload))
  else none

def Message.response? : Message → Option Response
  | .event response => some response
  | _ => none

/-- The responses that a session has sent. -/
def sentResponses (done : List SessionEvent) : List Response :=
  (sentMessages done).filterMap (·.response?)

/-- The calls of the engine that a session has made. -/
def calledOps (done : List SessionEvent) : List Op := done.filterMap (·.op?)

/-! ## What is dispatched through the session -/

/-- The event that a step of the world dispatches, and whether the session's own thread does. -/
def stepDispatches (w : World) : WorldAction → List (Bool × EngineEvent)
  | .serve _ _ => w.owed.head?.toList.map (true, ·)
  | .dispatch event => if w.server.connection.closed then [] else [(false, event)]
  | _ => []

def dispatches (calls : List (World × WorldAction)) : List (Bool × EngineEvent) :=
  calls.flatMap fun (w, a) => stepDispatches w a

/-- What the session's own thread dispatches. -/
def ownDispatches (dispatched : List (Bool × EngineEvent)) : List EngineEvent :=
  (dispatched.filter (·.1)).map (·.2)

/-- The events of the engine calls that the session makes. -/
def stepEvents (ctx : SessionContext) (w : World) (a : WorldAction) : List EngineEvent :=
  (calledOps (sessionDone (world ctx w a).1)).flatMap fun op => (engine ctx.cfg w.server.engine op).1

def sessionEvents (ctx : SessionContext) (calls : List (World × WorldAction)) : List EngineEvent :=
  calls.flatMap fun (w, a) => stepEvents ctx w a

section Histories

variable {done done' : List SessionEvent}

@[simp] theorem sentMessages_append :
    sentMessages (done ++ done') = sentMessages done ++ sentMessages done' := List.filterMap_append

@[simp] theorem sentResponses_append :
    sentResponses (done ++ done') = sentResponses done ++ sentResponses done' := by
  rw [sentResponses, sentMessages_append, List.filterMap_append]
  rfl

@[simp] theorem calledOps_append : calledOps (done ++ done') = calledOps done ++ calledOps done' :=
  List.filterMap_append

section Calls

variable {calls calls' : List (World × WorldAction)} {w : World} {a : WorldAction}

theorem dispatches_snoc : dispatches (calls ++ [(w, a)]) = dispatches calls ++ stepDispatches w a := by
  simp [dispatches]

theorem sessionEvents_snoc {ctx : SessionContext} :
    sessionEvents ctx (calls ++ [(w, a)]) = sessionEvents ctx calls ++ stepEvents ctx w a := by
  simp [sessionEvents]

end Calls

@[simp] theorem ownDispatches_append {dispatched dispatched' : List (Bool × EngineEvent)} :
    ownDispatches (dispatched ++ dispatched') =
      ownDispatches dispatched ++ ownDispatches dispatched' := by
  simp [ownDispatches]

/-- An event of another thread. -/
theorem ownDispatches_other {w : World} {event : EngineEvent} :
    ownDispatches (stepDispatches w (.dispatch event)) = [] := by
  rw [stepDispatches]
  split
  · rfl
  · rfl

end Histories

end NseFoExchangeSim.Server
