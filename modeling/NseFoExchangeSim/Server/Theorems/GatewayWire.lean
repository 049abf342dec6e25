import Mathlib.Data.List.TakeWhile
import NseFoExchangeSim.Lib.Refinement
import NseFoExchangeSim.Server.GatewayWire
import NseFoExchangeSim.Server.Theorems.ClientOrders
import NseFoExchangeSim.Server.Theorems.Tickets

/-!
# The gateway on the wire

However the bytes come in pieces, the gateway answers exactly the clients that have sent a request, and a
client reads from the answer what its ticket says. So the gateway on the wire refines the gateway that
hands out tickets, and what a client reads opens the one session that is bound to its ticket.
-/

namespace NseFoExchangeSim.Server

open Lib Protocol

/-! ## Reading in pieces -/

section Pieces

variable {pieces : List (List UInt8)} {piece : List UInt8} {size : Nat}

theorem heard_cons (hpiece : piece ≠ []) : heard (piece :: pieces) = piece ++ heard pieces := by
  simp [heard, hpiece]

/-- What is read is the beginning of what is heard. -/
theorem sslReadFully_heard (hsize : size ≤ (heard pieces).length) :
    ∃ rest, sslReadFully size pieces = .ok ((heard pieces).take size, rest) ∧
      heard rest = (heard pieces).drop size := by
  induction pieces generalizing size with
  | nil =>
      obtain rfl : size = 0 := by simpa [heard] using hsize
      exact ⟨[], rfl, rfl⟩
  | cons piece pieces ih =>
      rw [sslReadFully, readFully]
      by_cases hzero : size = 0
      · subst hzero
        rw [if_pos rfl]
        exact ⟨piece :: pieces, rfl, rfl⟩
      rw [if_neg hzero]
      have hpiece : piece ≠ [] := by
        rintro rfl
        simp [heard] at hsize
        exact hzero hsize
      rw [if_neg (by simpa using hpiece)]
      rw [heard_cons hpiece] at hsize ⊢
      rw [List.length_append] at hsize
      by_cases hlong : size < piece.length
      · rw [if_pos hlong, List.take_append_of_le_length (by omega),
          List.drop_append_of_le_length (by omega)]
        refine ⟨piece.drop size :: pieces, rfl, heard_cons ?_⟩
        intro hnone
        have := List.drop_eq_nil_iff.mp hnone
        omega
      · rw [if_neg hlong]
        obtain ⟨rest, hread, hrest⟩ := @ih (size - piece.length) (by omega)
        rw [sslReadFully] at hread
        cases hmore : readFully (size - piece.length) pieces with
        | error error =>
            rw [hmore] at hread
            cases hread
        | ok result =>
            rw [hmore] at hread
            cases hread
            refine ⟨rest, ?_, ?_⟩
            · rw [List.take_append, List.take_of_length_le (Nat.le_of_not_lt hlong)]
              rfl
            · rw [hrest, List.drop_append, List.drop_of_length_le (Nat.le_of_not_lt hlong),
                List.nil_append]

theorem sslReadFully_short (hsize : (heard pieces).length < size) :
    sslReadFully size pieces = .error "SSL_read failed" := by
  have herror : ∃ error, readFully size pieces = .error error := by
    induction pieces generalizing size with
    | nil =>
        have hzero : size ≠ 0 := by
          simp [heard] at hsize
          omega
        exact ⟨_, by rw [readFully, if_neg hzero]⟩
    | cons piece pieces ih =>
        rw [readFully, if_neg (by omega)]
        by_cases hpiece : piece = []
        · rw [if_pos (by simpa using hpiece)]
          exact ⟨_, rfl⟩
        rw [heard_cons hpiece, List.length_append] at hsize
        obtain ⟨error, herror⟩ := @ih (size - piece.length) (by omega)
        rw [if_neg (by simpa using hpiece), if_neg (by omega), herror]
        exact ⟨error, rfl⟩
  obtain ⟨error, herror⟩ := herror
  rw [sslReadFully, herror]

end Pieces

/-! ## The request -/

section Request

variable {prims : Primitives} {pieces : List (List UInt8)} {bytes : List UInt8} {count : Nat}

theorem DirectExCtclHeader.ofBytes_take (hcount : ctclHeaderSize ≤ count) :
    DirectExCtclHeader.ofBytes (bytes.take count) = DirectExCtclHeader.ofBytes bytes := by
  rw [ctclHeaderSize] at hcount
  have hdigest : loadArray 16 (bytes.take count) 6 = loadArray 16 bytes 6 := loadArray_take hcount
  rw [DirectExCtclHeader.ofBytes, DirectExCtclHeader.ofBytes, loadLittleEndian_take (by omega),
    loadLittleEndian_take (by omega)]
  exact congrArg _ hdigest

theorem GatewayRouterRequest.ofBytes_take (hcount : gatewayRouterRequestSize ≤ count) :
    GatewayRouterRequest.ofBytes (bytes.take count) = GatewayRouterRequest.ofBytes bytes := by
  rw [gatewayRouterRequestSize] at hcount
  rw [GatewayRouterRequest.ofBytes, GatewayRouterRequest.ofBytes,
    DirectExCtclHeader.ofBytes_take (by rw [ctclHeaderSize]; omega), load16_take (by omega),
    load32_take (by omega), loadArray_take (by omega)]

/-- The header and the rest, as they are read. -/
theorem take_request :
    GatewayRouterRequest.ofBytes (bytes.take ctclHeaderSize ++
      (bytes.drop ctclHeaderSize).take (gatewayRouterRequestSize - ctclHeaderSize)) =
        GatewayRouterRequest.ofBytes bytes := by
  have hparts : bytes.take ctclHeaderSize ++
      (bytes.drop ctclHeaderSize).take (gatewayRouterRequestSize - ctclHeaderSize) =
        bytes.take gatewayRouterRequestSize := by
    rw [← List.take_add]
    rfl
  rw [hparts, GatewayRouterRequest.ofBytes_take (Nat.le_refl _)]

/-- A request is received in whatever pieces it comes. -/
theorem receiveRequest_of (h : IsGatewayRequest prims (heard pieces)) :
    receiveRequest prims pieces = .ok (.ofBytes (heard pieces)) := by
  have harrived := h.arrived
  rw [gatewayRouterRequestSize] at harrived
  obtain ⟨afterHeader, hheader, hafter⟩ :=
    @sslReadFully_heard pieces ctclHeaderSize (by rw [ctclHeaderSize]; omega)
  obtain ⟨rest, hbody, -⟩ := @sslReadFully_heard afterHeader
    (gatewayRouterRequestSize - ctclHeaderSize)
    (by rw [hafter, List.length_drop, gatewayRouterRequestSize]; omega)
  rw [hafter] at hbody
  have hlength := h.length
  have hdigest := h.digest
  have hcode := h.code
  simp only [GatewayRouterRequest.ofBytes] at hlength hdigest
  rw [receiveRequest, hheader]
  simp only [bind, Except.bind, DirectExCtclHeader.ofBytes_take (Nat.le_refl _), hlength, hbody,
    take_request, hdigest, hcode, ne_eq, not_true, if_false]
  rfl

/-- Nothing else is received. -/
theorem receiveRequest_ok {request : GatewayRouterRequest}
    (h : receiveRequest prims pieces = .ok request) : IsGatewayRequest prims (heard pieces) := by
  rw [receiveRequest] at h
  by_cases hheader : ctclHeaderSize ≤ (heard pieces).length
  swap
  · rw [sslReadFully_short (Nat.lt_of_not_le hheader)] at h
    cases h
  obtain ⟨afterHeader, hread, hafter⟩ := sslReadFully_heard hheader
  rw [hread] at h
  simp only [bind, Except.bind, DirectExCtclHeader.ofBytes_take (Nat.le_refl _)] at h
  split at h
  · cases h
  rename_i hlength
  by_cases hbody : gatewayRouterRequestSize - ctclHeaderSize ≤ (heard afterHeader).length
  swap
  · rw [sslReadFully_short (Nat.lt_of_not_le hbody)] at h
    cases h
  obtain ⟨rest, hread, -⟩ := sslReadFully_heard hbody
  rw [hread, hafter] at h
  simp only [take_request] at h
  split at h
  · cases h
  rename_i hdigest
  split at h
  · cases h
  rename_i hcode
  refine ⟨?_, not_not.mp hlength, not_not.mp hdigest, not_not.mp hcode⟩
  rw [hafter, List.length_drop] at hbody
  rw [gatewayRouterRequestSize, ctclHeaderSize] at *
  omega

theorem receiveRequest_error (h : ¬ IsGatewayRequest prims (heard pieces)) :
    ∃ error, receiveRequest prims pieces = .error error := by
  cases hreceive : receiveRequest prims pieces with
  | error error => exact ⟨error, rfl⟩
  | ok request => exact absurd (receiveRequest_ok hreceive) h

end Request

/-! ## The answer -/

section Reply

variable {prims : Primitives} {pieces : List (List UInt8)} {more : List UInt8}

theorem GatewayRouterReply.length_body (reply : GatewayRouterReply) :
    reply.body.length = gatewayRouterResponseSize - ctclHeaderSize := by
  simp [GatewayRouterReply.body, MessageHeader.length_bytes, messageHeaderSize,
    gatewayRouterResponseSize, ctclHeaderSize]

theorem GatewayRouterReply.ofBody_body (reply : GatewayRouterReply) :
    GatewayRouterResponse.ofBody reply.body = reply.toGatewayRouterResponse := by
  simp (disch := simp [MessageHeader.length_bytes, messageHeaderSize]) [GatewayRouterResponse.ofBody,
    GatewayRouterReply.body, MessageHeader.length_bytes, messageHeaderSize, load16_skip, load64_skip,
    loadArray_skip]

/-- A message that begins with its header is read, in whatever pieces it comes. -/
theorem sslReadFully_message {header : DirectExCtclHeader} {body : List UInt8} {size : Nat}
    (hheard : heard pieces = header.bytes ++ body ++ more) (hsize : body.length = size) :
    ∃ afterHeader rest, sslReadFully ctclHeaderSize pieces = .ok (header.bytes, afterHeader) ∧
      sslReadFully size afterHeader = .ok (body, rest) := by
  rw [List.append_assoc] at hheard
  obtain ⟨afterHeader, hheader, hafter⟩ := @sslReadFully_heard pieces ctclHeaderSize
    (by rw [hheard, List.length_append, length_headerBytes]; omega)
  rw [hheard, List.take_left' (length_headerBytes header)] at hheader
  rw [hheard, List.drop_left' (length_headerBytes header)] at hafter
  obtain ⟨rest, hbody, -⟩ := @sslReadFully_heard afterHeader size
    (by rw [hafter, List.length_append]; omega)
  rw [hafter, List.take_left' hsize] at hbody
  exact ⟨afterHeader, rest, hheader, hbody⟩

/-- A client reads what its ticket says, in whatever pieces the response comes. -/
theorem receiveReply_heard {config : Config} {sessionPort : UInt16} {now : UInt32}
    {request : GatewayRouterRequest} {ticket : SessionTicket}
    (hheard : heard pieces = (gatewayReply prims config sessionPort now request ticket).bytes ++ more) :
    receiveReply pieces = .ok (gatewayRouterResponse ticket) := by
  obtain ⟨afterHeader, rest, hheader, hbody⟩ :=
    sslReadFully_message hheard (GatewayRouterReply.length_body _)
  rw [receiveReply, hheader]
  simp only [bind, Except.bind, ofBytes_bytes, hbody, GatewayRouterReply.ofBody_body]
  rw [if_neg (by rw [not_not]; exact byteswap_byteswap _)]
  rfl

theorem receiveReply_one {config : Config} {sessionPort : UInt16} {now : UInt32}
    {request : GatewayRouterRequest} {ticket : SessionTicket} :
    receiveReply [(gatewayReply prims config sessionPort now request ticket).bytes] =
      .ok (gatewayRouterResponse ticket) := by
  have hsome : (gatewayReply prims config sessionPort now request ticket).bytes ≠ [] := by
    intro hnone
    have hlength := congrArg List.length hnone
    rw [GatewayRouterReply.bytes, List.length_append, length_headerBytes] at hlength
    simp [ctclHeaderSize] at hlength
  exact receiveReply_heard (heard_cons hsome)

end Reply

/-! ## The gateway refines the gateway that hands out tickets -/

section Refinement

variable (prims : Primitives) (config : Config) (sessionPort : UInt16)

theorem WireEvent.app?_answered (client : Client) (now : UInt32) (request : GatewayRouterRequest)
    (ticket : SessionTicket) :
    (WireEvent.answered client ticket
      (some (gatewayReply prims config sessionPort now request ticket).bytes)).app? =
        some (.issued client ticket (some (gatewayRouterResponse ticket))) := by
  rw [WireEvent.app?, Option.bind_some, receiveReply_one]
  rfl

theorem answerRequest_app (client : Client) (exchange : GatewayExchange)
    (request : GatewayRouterRequest) (s : AppState) :
    ((answerRequest prims config sessionPort client exchange request s).1.filterMap (·.app?),
        (answerRequest prims config sessionPort client exchange request s).2) =
      handleGatewayClient config client exchange.peerIp exchange.random exchange.written s := by
  simp only [answerRequest, handleGatewayClient]
  cases exchange.random with
  | none => rfl
  | some bytes =>
      obtain ⟨cryptoKey, cryptoIv⟩ := bytes
      cases exchange.written with
      | false => rfl
      | true =>
          simp only [if_true]
          rw [List.filterMap_cons_some (WireEvent.app?_answered prims config sessionPort client _ _ _)]
          rfl

/-- Seen from the tickets, the gateway on the wire is the gateway. -/
theorem wireApp_refines_step :
    Refines (wireApp prims config sessionPort) (app config) id (·.app? prims) (·.app?) where
  step s a b hb := by
    cases a with
    | gateway client exchange =>
        rw [WireAction.app?] at hb
        split at hb
        · rename_i hrequest
          obtain ⟨htls, hrequest⟩ := hrequest
          cases hb
          rw [wireApp, serveGateway, htls]
          simp only [receiveRequest_of hrequest]
          exact Prod.ext_iff.mp (answerRequest_app prims config sessionPort client exchange _ s)
        · cases hb
    | connect client peerIp =>
        cases hb
        refine ⟨?_, rfl⟩
        rw [wireApp, List.filterMap_map]
        exact List.filterMap_some
  silent s a hnone := by
    cases a with
    | gateway client exchange =>
        rw [WireAction.app?] at hnone
        split at hnone
        · cases hnone
        · rename_i hrequest
          rw [wireApp, serveGateway]
          cases htls : exchange.tlsError with
          | some error => exact ⟨rfl, rfl⟩
          | none =>
              obtain ⟨error, herror⟩ := @receiveRequest_error prims exchange.pieces
                fun h => hrequest ⟨htls, h⟩
              rw [herror]
              exact ⟨rfl, rfl⟩
    | connect client peerIp => cases hnone

end Refinement

/-! ## A client of the tests -/

section Handshake

variable {prims : Primitives} {now userId : UInt32} {requestBoxId : UInt16} {more : List UInt8}

/-- What a client of the tests sends is a request. -/
theorem isGatewayRequest_handshake :
    IsGatewayRequest prims (runGatewayHandshake prims now userId requestBoxId ++ more) := by
  rw [runGatewayHandshake]
  generalize hbody : List.flatten
    [(initializeMessageHeader now kTxnGatewayRouterRequest userId
        (gatewayRouterRequestSize - ctclHeaderSize)).bytes,
      store16 (byteswap requestBoxId), (copyTrailingSpaces 5 "BRKR1").toList, zeros 1] = body
  have hsize : body.length = gatewayRouterRequestSize - ctclHeaderSize := by
    rw [← hbody]
    simp [MessageHeader.length_bytes, messageHeaderSize, gatewayRouterRequestSize, ctclHeaderSize]
  have hlength := length_headerBytes (gatewayHeader prims gatewayRouterRequestSize body)
  simp only [List.append_assoc]
  have hheader : (GatewayRouterRequest.ofBytes
      ((gatewayHeader prims gatewayRouterRequestSize body).bytes ++ (body ++ more))).ctclHeader =
        gatewayHeader prims gatewayRouterRequestSize body := by
    rw [GatewayRouterRequest.ofBytes, ← DirectExCtclHeader.ofBytes_take (Nat.le_refl ctclHeaderSize),
      List.take_left' hlength, ofBytes_bytes]
  refine ⟨?_, ?_, ?_, ?_⟩
  · rw [List.length_append, List.length_append, hlength, hsize, gatewayRouterRequestSize, ctclHeaderSize]
    omega
  · rw [hheader]
    exact byteswap_byteswap _
  · rw [hheader, List.drop_left' hlength, List.take_left' hsize]
    rfl
  · rw [GatewayRouterRequest.ofBytes, load16_skip (by rw [hlength, ctclHeaderSize]), hlength,
      ctclHeaderSize, Nat.sub_self, ← hbody, List.flatten_cons, List.append_assoc,
      MessageHeader.load16_bytes]
    exact byteswap_byteswap _

end Handshake

/-- However the bytes come in pieces and whatever the clients send: seen from the tickets, the gateway and
the session listener do what the gateway that hands out tickets does for the clients that have sent a
request; and a client that asks as the tests do has sent one. -/
theorem wire_refines_tickets (prims : Primitives) (config : Config) (sessionPort : UInt16)
    (s : AppState) (as : List WireAction) :
    (exec (wireApp prims config sessionPort) s as).1.filterMap (·.app?) =
      (exec (app config) s (as.filterMap (·.app? prims))).1 ∧
    (exec (wireApp prims config sessionPort) s as).2 =
      (exec (app config) s (as.filterMap (·.app? prims))).2 ∧
    ∀ client (exchange : GatewayExchange) now userId requestBoxId more,
      exchange.tlsError = none →
      heard exchange.pieces = runGatewayHandshake prims now userId requestBoxId ++ more →
        (WireAction.gateway client exchange).app? prims =
          some (.gateway client exchange.peerIp exchange.random exchange.written) := by
  obtain ⟨hevents, hstate⟩ := (wireApp_refines_step prims config sessionPort).exec s as
  refine ⟨hevents, hstate, fun client exchange now userId requestBoxId more htls hheard => ?_⟩
  have hrequest : IsGatewayRequest prims (heard exchange.pieces) := by
    rw [hheard]
    exact isGatewayRequest_handshake
  rw [WireAction.app?, if_pos ⟨htls, hrequest⟩]

/-! ## Whom a session lets in -/

section Admission

variable {prims : Primitives} {config : Config} {sessionPort : UInt16} {as : List WireAction}
  {client : Client} {ticket t : SessionTicket} {wire : List UInt8} {pieces : List (List UInt8)}

/-- A sign-on says the session key of the ticket that it was made from. -/
theorem sessionKey_of_ready {userId : UInt32} {branchId : UInt16} {now : Nat → UInt32}
    (h : phaseAfter t (bootstrapReadySession (gatewayRouterResponse ticket) userId branchId now) =
      some .ready) : t.sessionKey = ticket.sessionKey := by
  obtain ⟨registration, signOn, logon, rest, hpayloads, -, hsignOn, -⟩ := handshakeDone_of_ready h
  have hown := @isBoxSignOn_bootstrap ticket userId (now 1) (copyTrailingSpaces 5 "BRKR1")
  obtain ⟨rfl, -⟩ := List.cons.inj (List.cons.inj hpayloads).2
  exact hsignOn.2.2.2.symm.trans hown.2.2.2

/-- What a client is answered is the response to some request. -/
theorem answered_wire {h : List WireEvent} {s : AppState}
    (hrun : Run (wireApp prims config sessionPort) anyCall .init h s)
    (hmem : .answered client ticket (some wire) ∈ h) :
    ∃ now request, wire = (gatewayReply prims config sessionPort now request ticket).bytes := by
  revert hmem
  apply Run.invariant (P := fun h (_ : AppState) => .answered client ticket (some wire) ∈ h →
    ∃ now request, wire = (gatewayReply prims config sessionPort now request ticket).bytes) _ _ hrun
  · exact fun hmem => absurd hmem List.not_mem_nil
  intro h s a _ hearlier _ hmem
  rcases List.mem_append.mp hmem with hmem | hmem
  · exact hearlier hmem
  cases a with
  | connect other peerIp =>
      obtain ⟨event, -, hevent⟩ := List.mem_map.mp hmem
      cases hevent
  | gateway other exchange =>
      rw [wireApp, serveGateway] at hmem
      cases htls : exchange.tlsError with
      | some error => simp [htls] at hmem
      | none =>
          cases hreceive : receiveRequest prims exchange.pieces with
          | error error => simp [htls, hreceive] at hmem
          | ok request =>
              simp only [htls, hreceive, answerRequest] at hmem
              cases hrandom : exchange.random with
              | none => simp [hrandom] at hmem
              | some bytes =>
                  obtain ⟨cryptoKey, cryptoIv⟩ := bytes
                  simp only [hrandom, List.mem_singleton, WireEvent.answered.injEq] at hmem
                  obtain ⟨-, rfl, hwire⟩ := hmem
                  cases hwritten : exchange.written with
                  | false => simp [hwritten] at hwire
                  | true =>
                      simp only [hwritten, if_true, Option.some.injEq] at hwire
                      exact ⟨exchange.now, request, hwire⟩

/-- In every run: a client that was answered reads its ticket's response, in whatever pieces it comes;
what it then sends as the tests do opens a session that is bound to its own ticket, and no other. -/
theorem session_admits_own_ticket
    (hanswered : .answered client ticket (some wire) ∈
      (exec (wireApp prims config sessionPort) .init as).1)
    (hkeys : keysDrawn ((exec (wireApp prims config sessionPort) .init as).1.filterMap (·.app?)) ≤ 2 ^ 64)
    (hread : wire <+: heard pieces) :
    ∃ response, receiveReply pieces = .ok response ∧
      ∀ t ∈ boundTickets ((exec (wireApp prims config sessionPort) .init as).1.filterMap (·.app?)),
        ∀ userId branchId now,
          phaseAfter t (bootstrapReadySession response userId branchId now) = some .ready ↔
            t = ticket := by
  obtain ⟨more, hheard⟩ := hread
  obtain ⟨time, request, rfl⟩ :=
    answered_wire (run_exec (wireApp prims config sessionPort) .init as) hanswered
  refine ⟨gatewayRouterResponse ticket, receiveReply_heard hheard.symm, ?_⟩
  intro t hbound userId branchId now
  refine ⟨fun hready => ?_, ?_⟩
  · have hkey := sessionKey_of_ready hready
    have hissued : .issued client ticket (some (gatewayRouterResponse ticket)) ∈
        (exec (wireApp prims config sessionPort) .init as).1.filterMap (·.app?) :=
      List.mem_filterMap.mpr
        ⟨_, hanswered, WireEvent.app?_answered prims config sessionPort client time request ticket⟩
    rw [(wireApp_refines_step prims config sessionPort).exec .init as |>.1] at hbound hkeys hissued
    have ht := ticketed (run_exec (app config) (id .init)
      (as.filterMap (WireAction.app? prims)))
    have htissued := ht.fifo.claimed_added hbound
    have hticket : ticket ∈ issuedTickets (exec (app config) (id .init)
        (as.filterMap (WireAction.app? prims))).1 := List.mem_filterMap.mpr ⟨_, hissued, rfl⟩
    exact List.inj_on_of_nodup_map (ht.distinct hkeys) htissued hticket hkey
  · rintro rfl
    exact phaseAfter_bootstrap t userId branchId now

end Admission

/-! ## Two clients that ask in pieces -/

def handshakeBytes : List UInt8 := runGatewayHandshake openPrimitives 0 991122 4

def pieceExchange (byte : UInt8) : GatewayExchange where
  peerIp := "10.0.0.7"
  tlsError := none
  pieces := [handshakeBytes.take 30, handshakeBytes.drop 30]
  now := 0
  random := some (.replicate 32 byte, .replicate 16 byte)
  written := true

def pieceRun : List WireAction :=
  [.gateway 1 (pieceExchange 7), .gateway 2 (pieceExchange 8), .connect 2 "10.0.0.7"]

def firstReply : List UInt8 :=
  (gatewayReply openPrimitives {} 9000 0 (.ofBytes handshakeBytes) (ticketOf 1 7)).bytes

theorem session_admits_own_ticket_first : ∃ response,
    receiveReply [firstReply.take 100, firstReply.drop 100] = .ok response ∧
      phaseAfter (ticketOf 1 7) (bootstrapReadySession response 991122 4 fun _ => 0) =
        some .ready := by
  have hanswered : .answered 1 (ticketOf 1 7) (some firstReply) ∈
      (exec (wireApp openPrimitives {} 9000) .init pieceRun).1 := by decide +kernel
  obtain ⟨response, hread, hopens⟩ :=
    @session_admits_own_ticket _ _ _ _ _ _ _ [firstReply.take 100, firstReply.drop 100] hanswered
      (by decide +kernel) (by decide +kernel)
  exact ⟨response, hread, (hopens (ticketOf 1 7) (by decide +kernel) 991122 4 fun _ => 0).mpr rfl⟩

end NseFoExchangeSim.Server
