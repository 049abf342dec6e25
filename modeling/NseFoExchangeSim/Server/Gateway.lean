import NseFoExchangeSim.Config
import NseFoExchangeSim.Lib.KeyedFifo
import NseFoExchangeSim.Lib.Trace
import NseFoExchangeSim.Protocol.ByteOrder

/-!
# From the gateway to a session

`handleGatewayClient` issues a ticket and sends it to the client; `sessionLoop` binds a connection to
the first waiting ticket of its peer's address; `handleBoxSignOn` compares what the client says with
the ticket of its connection.
-/

namespace NseFoExchangeSim.Server

open Protocol

/-! ## Tickets -/

structure SessionTicket where
  peerIp : String
  boxId : UInt16
  sessionKey : UInt64
  cryptoKey : Vector UInt8 32
  cryptoIv : Vector UInt8 16
deriving DecidableEq, Repr

abbrev PendingTicketStore := List SessionTicket

def PendingTicketStore.add (tickets : PendingTicketStore) (ticket : SessionTicket) :
    PendingTicketStore := tickets ++ [ticket]

def PendingTicketStore.claimForPeer (tickets : PendingTicketStore) (peerIp : String) :
    Option SessionTicket × PendingTicketStore :=
  match tickets.find? fun ticket => ticket.peerIp == peerIp with
  | none => (none, tickets)
  | some ticket => (some ticket, tickets.eraseP fun ticket => ticket.peerIp == peerIp)

/-! ## Messages -/

/-- The fields of the gateway's response that come from the ticket, in network order. -/
structure GatewayRouterResponse where
  boxId : UInt16
  sessionKey : UInt64
  cryptographicKey : Vector UInt8 32
  cryptographicIv : Vector UInt8 16
deriving DecidableEq, Repr

def gatewayRouterResponse (ticket : SessionTicket) : GatewayRouterResponse where
  boxId := byteswap ticket.boxId
  sessionKey := byteswap ticket.sessionKey
  cryptographicKey := ticket.cryptoKey
  cryptographicIv := ticket.cryptoIv

/-- The fields of a box sign-on that are checked, in network order. -/
structure BoxSignOnRequestPayload where
  boxId : UInt16
  sessionKey : UInt64
deriving DecidableEq, Repr

/-- The sign-on of a client that sends back what the gateway sent it. -/
def GatewayRouterResponse.signOn (response : GatewayRouterResponse) : BoxSignOnRequestPayload where
  boxId := response.boxId
  sessionKey := response.sessionKey

/-- The check of `handleBoxSignOn`. -/
def boxSignOnValid (ticket : SessionTicket) (request : BoxSignOnRequestPayload) : Bool :=
  !(byteswap request.boxId != ticket.boxId || byteswap request.sessionKey != ticket.sessionKey)

/-! ## The two loops -/

/-- Clients are told apart by numbers, which the server never sees. -/
abbrev Client := Nat

structure AppState where
  tickets : PendingTicketStore
  nextSessionKey : UInt64
  nextConnectionId : UInt64
deriving DecidableEq, Repr

def AppState.init : AppState where
  tickets := []
  nextSessionKey := 1
  nextConnectionId := 1

inductive AppAction
  /-- A gateway exchange that gets as far as the session key: the address of the peer, the bytes of
  `RAND_bytes` unless it fails, and whether the client gets the response. -/
  | gateway (client : Client) (peerIp : String)
      (random : Option (Vector UInt8 32 × Vector UInt8 16)) (delivered : Bool)
  /-- The session listener accepts a connection. -/
  | connect (client : Client) (peerIp : String)

inductive AppEvent
  | issued (client : Client) (ticket : SessionTicket) (response : Option GatewayRouterResponse)
  | randomFailed (client : Client)
  | bound (client : Client) (sessionId : UInt64) (ticket : SessionTicket)
  | refused (client : Client)
deriving DecidableEq, Repr

def handleGatewayClient (config : Config) (client : Client) (peerIp : String)
    (random : Option (Vector UInt8 32 × Vector UInt8 16)) (delivered : Bool) (s : AppState) :
    List AppEvent × AppState :=
  let sessionKey := s.nextSessionKey
  let s := { s with nextSessionKey := s.nextSessionKey + 1 }
  match random with
  | none => ([.randomFailed client], s)
  | some (cryptoKey, cryptoIv) =>
      let ticket : SessionTicket := { peerIp, boxId := config.boxId, sessionKey, cryptoKey, cryptoIv }
      ([.issued client ticket (if delivered then some (gatewayRouterResponse ticket) else none)],
        { s with tickets := s.tickets.add ticket })

/-- One turn of `sessionLoop`. -/
def acceptSession (client : Client) (peerIp : String) (s : AppState) : List AppEvent × AppState :=
  match s.tickets.claimForPeer peerIp with
  | (none, tickets) => ([.refused client], { s with tickets })
  | (some ticket, tickets) =>
      ([.bound client s.nextConnectionId ticket],
        { s with tickets, nextConnectionId := s.nextConnectionId + 1 })

/-- The gateway and the session listener as one machine. -/
def app (config : Config) : Lib.Machine AppState AppAction AppEvent
  | s, .gateway client peerIp random delivered =>
      handleGatewayClient config client peerIp random delivered s
  | s, .connect client peerIp => acceptSession client peerIp s

/-! ## Histories -/

def AppEvent.ticket? : AppEvent → Option SessionTicket
  | .issued _ ticket _ => some ticket
  | _ => none

def AppEvent.bound? : AppEvent → Option SessionTicket
  | .bound _ _ ticket => some ticket
  | _ => none

def AppEvent.drawsKey : AppEvent → Bool
  | .issued _ _ _ | .randomFailed _ => true
  | _ => false

def issuedTickets (h : List AppEvent) : List SessionTicket := h.filterMap (·.ticket?)

def boundTickets (h : List AppEvent) : List SessionTicket := h.filterMap (·.bound?)

def keysDrawn (h : List AppEvent) : Nat := h.countP (·.drawsKey)

end NseFoExchangeSim.Server
