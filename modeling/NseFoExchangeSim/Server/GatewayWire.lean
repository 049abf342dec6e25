import NseFoExchangeSim.Protocol.ClientSide
import NseFoExchangeSim.Server.Frames
import NseFoExchangeSim.Server.Gateway

/-!
# The gateway's exchange on the wire

`handleGatewayClient` from the bytes that `SSL_read` hands out to those that `SSL_write` takes, and
`runGatewayHandshake` of the tests, which asks and reads the answer. A piece is what one `SSL_read` hands
out; no piece or an empty one is an `SSL_read` that fails.
-/

namespace NseFoExchangeSim.Server

open Lib Protocol

def kTxnGatewayRouterRequest : UInt16 := 2400
def kTxnGatewayRouterResponse : UInt16 := 2401

def gatewayRouterRequestSize : Nat := 70
def gatewayRouterResponseSize : Nat := 146

/-! ## Text -/

/-- `copyCString` into an array of the given size. -/
def copyCString (size : Nat) (value : String) : Vector UInt8 size :=
  .ofFn fun i => (value.toUTF8.toList.take (size - 1)).getD i 0

/-! ## Messages -/

/-- The fields of a gateway request that are read, in network order. -/
structure GatewayRouterRequest where
  ctclHeader : DirectExCtclHeader
  transactionCode : UInt16
  traderId : UInt32
  brokerId : Vector UInt8 5
deriving DecidableEq

def GatewayRouterRequest.ofBytes (bytes : List UInt8) : GatewayRouterRequest where
  ctclHeader := .ofBytes bytes
  transactionCode := load16 bytes 22
  traderId := load32 bytes 30
  brokerId := loadArray 5 bytes 64

/-- The gateway's response with the fields that do not come from the ticket. -/
structure GatewayRouterReply extends GatewayRouterResponse where
  ctclHeader : DirectExCtclHeader
  header : MessageHeader
  brokerId : Vector UInt8 5
  ip : Vector UInt8 16
  port : UInt32

/-- What follows the first header. -/
def GatewayRouterReply.body (reply : GatewayRouterReply) : List UInt8 :=
  List.flatten
    [reply.header.bytes, store16 reply.boxId, reply.brokerId.toList, zeros 1, reply.ip.toList,
      store32 reply.port, store64 reply.sessionKey, reply.cryptographicKey.toList,
      reply.cryptographicIv.toList]

def GatewayRouterReply.bytes (reply : GatewayRouterReply) : List UInt8 :=
  reply.ctclHeader.bytes ++ reply.body

/-- The fields that a client uses, in the bytes that it has read after the first header. -/
def GatewayRouterResponse.ofBody (body : List UInt8) : GatewayRouterResponse where
  boxId := load16 body 40
  sessionKey := load64 body 68
  cryptographicKey := loadArray 32 body 76
  cryptographicIv := loadArray 16 body 108

/-! ## Reading -/

def sslReadFully (size : Nat) (pieces : List (List UInt8)) :
    Except String (List UInt8 × List (List UInt8)) :=
  match readFully size pieces with
  | .error _ => .error "SSL_read failed"
  | .ok result => .ok result

section Exchange

variable (prims : Primitives)

/-- The request of a client, up to the checks. -/
def receiveRequest (pieces : List (List UInt8)) : Except String GatewayRouterRequest := do
  let (headerBytes, pieces) ← sslReadFully ctclHeaderSize pieces
  let ctclHeader := DirectExCtclHeader.ofBytes headerBytes
  if byteswap ctclHeader.length ≠ gatewayRouterRequestSize.toUInt16 then
    throw "unexpected gateway request length"
  let (body, _) ← sslReadFully (gatewayRouterRequestSize - ctclHeaderSize) pieces
  if ctclHeader.md5Checksum ≠ prims.md5 body then
    throw "gateway request MD5 mismatch"
  let request := GatewayRouterRequest.ofBytes (headerBytes ++ body)
  if byteswap request.transactionCode ≠ kTxnGatewayRouterRequest then
    throw "unexpected gateway request txn code"
  return request

/-- The response as a client of the tests reads it. -/
def receiveReply (pieces : List (List UInt8)) : Except String GatewayRouterResponse := do
  let (headerBytes, pieces) ← sslReadFully ctclHeaderSize pieces
  let ctclHeader := DirectExCtclHeader.ofBytes headerBytes
  if byteswap ctclHeader.length ≠ gatewayRouterResponseSize.toUInt16 then
    throw "bad gateway response length"
  let (body, _) ← sslReadFully (gatewayRouterResponseSize - ctclHeaderSize) pieces
  return .ofBody body

/-! ## Writing -/

/-- A header before a body, with the digest of the body. -/
def gatewayHeader (size : Nat) (body : List UInt8) : DirectExCtclHeader where
  length := byteswap size.toUInt16
  sequenceNumber := byteswap 1
  md5Checksum := prims.md5 body

/-- The request of a client of the tests. -/
def runGatewayHandshake (now userId : UInt32) (requestBoxId : UInt16) : List UInt8 :=
  let body := List.flatten
    [(initializeMessageHeader now kTxnGatewayRouterRequest userId
        (gatewayRouterRequestSize - ctclHeaderSize)).bytes,
      store16 (byteswap requestBoxId), (copyTrailingSpaces 5 "BRKR1").toList, zeros 1]
  (gatewayHeader prims gatewayRouterRequestSize body).bytes ++ body

/-- The response to a request, as the session listens on a port. -/
def gatewayReply (config : Config) (sessionPort : UInt16) (now : UInt32)
    (request : GatewayRouterRequest) (ticket : SessionTicket) : GatewayRouterReply :=
  let response : GatewayRouterReply :=
    { gatewayRouterResponse ticket with
      ctclHeader := { length := 0, sequenceNumber := 0, md5Checksum := .replicate 16 0 }
      header := initializeMessageHeader now kTxnGatewayRouterResponse (byteswap request.traderId)
        (gatewayRouterResponseSize - ctclHeaderSize)
      brokerId := request.brokerId
      ip := copyCString 16 config.listenHost
      port := byteswap sessionPort.toUInt32 }
  { response with ctclHeader := gatewayHeader prims gatewayRouterResponseSize response.body }

end Exchange

/-! ## The two loops -/

/-- A client at the gateway: the address of the peer, the exception when there is no TLS connection, what
`SSL_read` hands out, the time, the bytes of `RAND_bytes` unless it fails, and whether `SSL_write` takes
the response. -/
structure GatewayExchange where
  peerIp : String
  tlsError : Option String
  pieces : List (List UInt8)
  now : UInt32
  random : Option (Vector UInt8 32 × Vector UInt8 16)
  written : Bool

inductive WireAction
  | gateway (client : Client) (exchange : GatewayExchange)
  | connect (client : Client) (peerIp : String)

inductive WireEvent
  /-- An exception before a session key is drawn. -/
  | failed (client : Client) (error : String)
  | randomFailed (client : Client)
  | answered (client : Client) (ticket : SessionTicket) (wire : Option (List UInt8))
  | session (event : AppEvent)
deriving DecidableEq

section Loops

variable (prims : Primitives) (config : Config) (sessionPort : UInt16)

/-- A request that has passed the checks. -/
def answerRequest (client : Client) (exchange : GatewayExchange) (request : GatewayRouterRequest)
    (s : AppState) : List WireEvent × AppState :=
  let sessionKey := s.nextSessionKey
  let s := { s with nextSessionKey := s.nextSessionKey + 1 }
  match exchange.random with
  | none => ([.randomFailed client], s)
  | some (cryptoKey, cryptoIv) =>
      let ticket : SessionTicket :=
        { peerIp := exchange.peerIp, boxId := config.boxId, sessionKey, cryptoKey, cryptoIv }
      let reply := gatewayReply prims config sessionPort exchange.now request ticket
      ([.answered client ticket (if exchange.written then some reply.bytes else none)],
        { s with tickets := s.tickets.add ticket })

/-- `handleGatewayClient` with the `catch` of `gatewayLoop`. -/
def serveGateway (client : Client) (exchange : GatewayExchange) (s : AppState) :
    List WireEvent × AppState :=
  match exchange.tlsError with
  | some error => ([.failed client error], s)
  | none =>
      match receiveRequest prims exchange.pieces with
      | .error error => ([.failed client error], s)
      | .ok request => answerRequest prims config sessionPort client exchange request s

/-- The gateway and the session listener, with what goes over the wire. -/
def wireApp : Machine AppState WireAction WireEvent
  | s, .gateway client exchange => serveGateway prims config sessionPort client exchange s
  | s, .connect client peerIp =>
      let result := acceptSession client peerIp s
      (result.1.map .session, result.2)

end Loops

/-! ## What the exchange stands for -/

/-- The bytes that `SSL_read` hands out before it fails. -/
def heard (pieces : List (List UInt8)) : List UInt8 :=
  (pieces.takeWhile fun piece => !piece.isEmpty).flatten

/-- The bytes begin with a gateway request that passes the checks. -/
structure IsGatewayRequest (prims : Primitives) (bytes : List UInt8) : Prop where
  arrived : gatewayRouterRequestSize ≤ bytes.length
  length : byteswap (GatewayRouterRequest.ofBytes bytes).ctclHeader.length =
    gatewayRouterRequestSize.toUInt16
  digest : (GatewayRouterRequest.ofBytes bytes).ctclHeader.md5Checksum =
    prims.md5 ((bytes.drop ctclHeaderSize).take (gatewayRouterRequestSize - ctclHeaderSize))
  code : byteswap (GatewayRouterRequest.ofBytes bytes).transactionCode = kTxnGatewayRouterRequest

theorem isGatewayRequest_iff {prims : Primitives} {bytes : List UInt8} :
    (gatewayRouterRequestSize ≤ bytes.length ∧
      byteswap (GatewayRouterRequest.ofBytes bytes).ctclHeader.length =
        gatewayRouterRequestSize.toUInt16 ∧
      (GatewayRouterRequest.ofBytes bytes).ctclHeader.md5Checksum =
        prims.md5 ((bytes.drop ctclHeaderSize).take (gatewayRouterRequestSize - ctclHeaderSize)) ∧
      byteswap (GatewayRouterRequest.ofBytes bytes).transactionCode = kTxnGatewayRouterRequest) ↔
    IsGatewayRequest prims bytes :=
  ⟨fun ⟨harrived, hlength, hdigest, hcode⟩ => ⟨harrived, hlength, hdigest, hcode⟩,
    fun h => ⟨h.arrived, h.length, h.digest, h.code⟩⟩

instance (prims : Primitives) (bytes : List UInt8) : Decidable (IsGatewayRequest prims bytes) :=
  decidable_of_iff _ isGatewayRequest_iff

/-- A client that has not sent a request is nobody. -/
def WireAction.app? (prims : Primitives) : WireAction → Option AppAction
  | .gateway client exchange =>
      if exchange.tlsError = none ∧ IsGatewayRequest prims (heard exchange.pieces) then
        some (.gateway client exchange.peerIp exchange.random exchange.written)
      else none
  | .connect client peerIp => some (.connect client peerIp)

/-- A client is told what it reads. -/
def WireEvent.app? : WireEvent → Option AppEvent
  | .failed _ _ => none
  | .randomFailed client => some (.randomFailed client)
  | .answered client ticket wire =>
      some (.issued client ticket (wire.bind fun bytes => (receiveReply [bytes]).toOption))
  | .session event => some event

end NseFoExchangeSim.Server
