import NseFoExchangeSim.Server.Theorems.Transfer

/-!
# From the client to the engine and back

A client that opens its session as the tests do and then sends order requests: the handshake completes,
the engine is called with exactly these requests in their order, and the responses that the client
decodes are those that the session dispatched, in their order.
-/

namespace NseFoExchangeSim.Server

open Lib Protocol Engine

/-! ## Requests are read back -/

section Requests

variable {request : Request} {payload : List UInt8}

theorem Request.txnCodeOf_bytes (hcoded : request.Coded) : txnCodeOf request.bytes = request.kind := by
  rw [← hcoded, txnCodeOf]
  cases request with
  | orderEntry request => rw [bytes, OrderEntryRequestPayload.load16_bytes, txnCode]
  | orderModification request => rw [bytes, OrderUpdateRequestPayload.load16_bytes, txnCode]
  | orderCancellation request => rw [bytes, OrderUpdateRequestPayload.load16_bytes, txnCode]

theorem requestOf_bytes (hcoded : request.Coded) : requestOf request.bytes = some request := by
  rw [requestOf, Request.txnCodeOf_bytes hcoded]
  cases request with
  | orderEntry request =>
      rw [Request.kind, if_pos rfl, Request.bytes, OrderEntryRequestPayload.ofBytes_bytes]
  | orderModification request =>
      rw [Request.kind, if_neg (by decide), if_pos rfl, Request.bytes,
        OrderUpdateRequestPayload.ofBytes_bytes]
  | orderCancellation request =>
      rw [Request.kind, if_neg (by decide), if_neg (by decide), if_pos rfl, Request.bytes,
        OrderUpdateRequestPayload.ofBytes_bytes]

theorem isReadyPayload_bytes (hcoded : request.Coded) : IsReadyPayload request.bytes := by
  have hcode := Request.txnCodeOf_bytes hcoded
  have hmem : (txnCodeOf request.bytes, request.bytes.length) ∈ readySizes := by
    rw [hcode]
    cases request with
    | orderEntry request =>
        rw [Request.kind, Request.bytes, OrderEntryRequestPayload.length_bytes]
        decide
    | orderModification request =>
        rw [Request.kind, Request.bytes, OrderUpdateRequestPayload.length_bytes]
        decide
    | orderCancellation request =>
        rw [Request.kind, Request.bytes, OrderUpdateRequestPayload.length_bytes]
        decide
  exact (isReadyPayload_iff hmem).mpr rfl

end Requests

/-! ## The handshake is the expected one -/

section Bootstrap

variable (ticket : SessionTicket) (userId : UInt32) (branchId : UInt16) (now : Nat → UInt32)

theorem txnCodeOf_initialized {time : UInt32} {code : UInt16} {traderId : UInt32} {size : Nat}
    {after : List UInt8} :
    txnCodeOf ((initializeMessageHeader time code traderId size).bytes ++ after) = code := by
  rw [txnCodeOf_header]
  exact byteswap_byteswap code

/-- A payload of the table that begins with a header. -/
theorem isReadyPayload_header {time : UInt32} {code : UInt16} {traderId : UInt32} {size : Nat}
    {after payload : List UInt8}
    (hpayload : payload = (initializeMessageHeader time code traderId size).bytes ++ after)
    (hmem : (code, payload.length) ∈ readySizes) : IsReadyPayload payload := by
  have hcode : txnCodeOf payload = code := by
    rw [hpayload]
    exact txnCodeOf_initialized
  rw [← hcode] at hmem
  exact (isReadyPayload_iff hmem).mpr rfl

theorem isRegistration_bootstrap {time : UInt32} :
    IsRegistration ticket (SecureBoxRegistrationRequestPayload.bytes
      { header := initializeMessageHeader time kTxnSecureBoxRegistrationRequest userId
          secureBoxRegistrationRequestSize
        boxId := (gatewayRouterResponse ticket).boxId }) := by
  refine ⟨txnCodeOf_initialized, SecureBoxRegistrationRequestPayload.length_bytes _, ?_⟩
  rw [SecureBoxRegistrationRequestPayload.bytes, load16_skip (by simp [MessageHeader.length_bytes,
    messageHeaderSize]), MessageHeader.length_bytes, messageHeaderSize, Nat.sub_self,
    load16_store_last]
  exact byteswap_byteswap _

theorem isBoxSignOn_bootstrap {time : UInt32} {brokerId : Vector UInt8 5} :
    IsBoxSignOn ticket ((gatewayRouterResponse ticket).signOn.bytes
      (initializeMessageHeader time kTxnBoxSignOnRequestIn userId boxSignOnRequestSize)
      brokerId) := by
  refine ⟨txnCodeOf_initialized, BoxSignOnRequestPayload.length_bytes _ _ _,
    boxSignOnValid_iff.mp ?_⟩
  rw [BoxSignOnRequestPayload.ofBytes_bytes]
  simp [boxSignOnValid, GatewayRouterResponse.signOn, gatewayRouterResponse]

theorem isLogon_bootstrap {time : UInt32} {showIndex : UInt8} {p : SignOnInPayload} :
    IsLogon (p.bytes (initializeMessageHeader time kTxnLogonRequest userId signOnInSize)
      showIndex) :=
  ⟨txnCodeOf_initialized, SignOnInPayload.length_bytes _ _ _⟩

/-- The payloads of the ready phase lead nowhere else. -/
theorem phases_ready {payloads : List (List UInt8)} (h : ∀ payload ∈ payloads, IsReadyPayload payload) :
    payloads.foldlM (expected ticket) .ready = some .ready := by
  induction payloads with
  | nil => rfl
  | cons payload payloads ih =>
      obtain ⟨hfirst, hmore⟩ := List.forall_mem_cons.mp h
      rw [List.foldlM_cons, expected, if_pos hfirst]
      exact ih hmore

theorem phaseAfter_bootstrap :
    phaseAfter ticket (bootstrapReadySession (gatewayRouterResponse ticket) userId branchId now) =
      some .ready := by
  rw [phaseAfter, bootstrapReadySession, List.foldlM_cons, expected,
    if_pos (isRegistration_bootstrap ticket userId)]
  change List.foldlM (expected ticket) .awaitBoxSignOn _ = _
  rw [List.foldlM_cons, expected, if_pos (isBoxSignOn_bootstrap ticket userId)]
  change List.foldlM (expected ticket) .awaitLogin _ = _
  rw [List.foldlM_cons, expected, if_pos (isLogon_bootstrap userId)]
  refine phases_ready ticket ?_
  simp only [List.forall_mem_cons]
  refine ⟨?_, ?_, ?_, ?_, List.forall_mem_nil _⟩
  · exact isReadyPayload_header rfl (by rw [SystemInfoRequestPayload.length_bytes]; decide)
  · exact isReadyPayload_header rfl (by rw [UpdateLocalDatabaseRequestPayload.length_bytes]; decide)
  · refine ⟨by rw [MessageHeader.length_bytes]; decide, .inl ?_⟩
    rw [← List.append_nil (MessageHeader.bytes _)]
    exact txnCodeOf_initialized
  · exact isReadyPayload_header rfl (by rw [MessageDownloadRequestPayload.length_bytes]; decide)

end Bootstrap

/-! ## The calls of a session -/

/-- The calls are those of the requests, each in surroundings of its own. -/
def CallsOf (sessionId : UInt64) (ops : List Op) (requests : List Request) : Prop :=
  List.Forall₂ (fun op (request : Request) => ∃ env, op = request.call env sessionId) ops requests

section Calls

variable {ctx : SessionContext} {env : TurnEnv} {s t : SessionState} {payload : List UInt8}
  {done : List SessionEvent}

/-- What a payload of the ready phase has the engine called with. -/
def opsOf (ctx : SessionContext) (env : TurnEnv) (payload : List UInt8) : List Op :=
  ((requestOf payload).map (·.call env.call ctx.sessionId)).toList

theorem sendMessage_ops (message : Message) (written : Bool) :
    calledOps (sendMessage ctx message written s).1 = [] := by
  rw [sendMessage]
  split
  · rfl
  · rfl

theorem callEngine_ops (request : Request) :
    calledOps (callEngine ctx env request s).1 = [request.call env.call ctx.sessionId] := by
  rw [callEngine]
  obtain ⟨-, hdone⟩ := @dispatchEvents_cases ctx env
    (engine ctx.cfg s.engine (request.call env.call ctx.sessionId)).1 0
    { s with engine := (engine ctx.cfg s.engine (request.call env.call ctx.sessionId)).2 }
  exact congrArg (request.call env.call ctx.sessionId :: ·) hdone.plain.ops

theorem requestOf_none (hentry : txnCodeOf payload ≠ kTxnOrderEntryTrimmed)
    (hmodification : txnCodeOf payload ≠ kTxnOrderModificationTrimmed)
    (hcancellation : txnCodeOf payload ≠ kTxnOrderCancellationTrimmed) :
    requestOf payload = none := by
  rw [requestOf, if_neg hentry, if_neg hmodification, if_neg hcancellation]

/-- A payload with a code that is no order's. -/
theorem requestOf_code {code : UInt16} (hcode : txnCodeOf payload = code)
    (hother : code ∉ [kTxnOrderEntryTrimmed, kTxnOrderModificationTrimmed,
      kTxnOrderCancellationTrimmed]) : requestOf payload = none := by
  simp only [List.mem_cons, List.not_mem_nil, or_false, not_or] at hother
  rw [← hcode] at hother
  exact requestOf_none hother.1 hother.2.1 hother.2.2

/-- A size is checked before anything is done. -/
theorem sized_ops {size : Nat} {error : String} {handled : Handled} {ops : List Op}
    (hnone : (if payload.length ≠ size then raise error s else handled).2.2 = none)
    (hhandled : calledOps handled.1 = ops) :
    calledOps (if payload.length ≠ size then raise error s else handled).1 = ops := by
  split at hnone
  · cases hnone
  · rename_i hsize
    rw [if_neg hsize]
    exact hhandled

theorem ready_ops
    (hnone : (handleReadyPayload ctx env (txnCodeOf payload) payload s).2.2 = none) :
    calledOps (handleReadyPayload ctx env (txnCodeOf payload) payload s).1 =
      opsOf ctx env payload := by
  rw [handleReadyPayload] at hnone ⊢
  by_cases hsystem : txnCodeOf payload = kTxnSystemInfoRequest
  · rw [opsOf, requestOf_code hsystem (by decide)]
    rw [if_pos hsystem] at hnone ⊢
    exact sized_ops hnone (sendMessage_ops _ _)
  rw [if_neg hsystem] at hnone ⊢
  by_cases hupdate : txnCodeOf payload = kTxnUpdateLocalDatabase
  · rw [opsOf, requestOf_code hupdate (by decide)]
    rw [if_pos hupdate] at hnone ⊢
    exact sized_ops hnone (sendMessage_ops _ _)
  rw [if_neg hupdate] at hnone ⊢
  by_cases hdownload : txnCodeOf payload = kTxnMessageDownloadRequest
  · rw [opsOf, requestOf_code hdownload (by decide)]
    rw [if_pos hdownload] at hnone ⊢
    exact sized_ops hnone (sendMessage_ops _ _)
  rw [if_neg hdownload] at hnone ⊢
  by_cases hheartbeat : txnCodeOf payload = kTxnHeartbeat
  · rw [opsOf, requestOf_code hheartbeat (by decide), if_pos hheartbeat]
    rfl
  rw [if_neg hheartbeat] at hnone ⊢
  by_cases hentry : txnCodeOf payload = kTxnOrderEntryTrimmed
  · rw [opsOf, requestOf, if_pos hentry]
    rw [if_pos hentry] at hnone ⊢
    exact sized_ops hnone (callEngine_ops _)
  rw [if_neg hentry] at hnone ⊢
  by_cases hmodification : txnCodeOf payload = kTxnOrderModificationTrimmed
  · rw [opsOf, requestOf, if_neg hentry, if_pos hmodification]
    rw [if_pos hmodification] at hnone ⊢
    exact sized_ops hnone (callEngine_ops _)
  rw [if_neg hmodification] at hnone ⊢
  by_cases hcancellation : txnCodeOf payload = kTxnOrderCancellationTrimmed
  · rw [opsOf, requestOf, if_neg hentry, if_neg hmodification, if_pos hcancellation]
    rw [if_pos hcancellation] at hnone ⊢
    exact sized_ops hnone (callEngine_ops _)
  · rw [if_neg hcancellation] at hnone
    cases hnone

/-- Before the ready phase the engine is not called. -/
theorem Outcome.no_ops (h : Outcome ctx s payload (done, t, none))
    (hphase : s.connection.phase ≠ .ready) : calledOps done = [] := by
  cases h with
  | registration hmessage hphase hencryption hended => rfl
  | answer hmessage hphase hencryption hended => rfl
  | heartbeat hphase hsame => rfl
  | call hready hexpected hsame hdone => exact absurd hready hphase

/-- The payloads of the handshake are no order requests. -/
theorem requestOf_handshake {ticket : SessionTicket} {phase phase' : Phase}
    (hphase : phase ≠ .ready) (h : expected ticket phase payload = some phase') :
    requestOf payload = none := by
  cases phase with
  | awaitSecureBoxRegistration => exact requestOf_code (expected_eq_some h).1.1 (by decide)
  | awaitBoxSignOn => exact requestOf_code (expected_eq_some h).1.1 (by decide)
  | awaitLogin => exact requestOf_code (expected_eq_some h).1.1 (by decide)
  | ready => exact absurd rfl hphase

theorem handlePayload_ops (h : handlePayload ctx env payload s = (done, t, none)) :
    receivedPayloads done = [] ∧ calledOps done = opsOf ctx env payload ∧ t.ended = s.ended := by
  have houtcome := @handlePayload_outcome ctx env s payload
  rw [h] at houtcome
  obtain ⟨hquiet, hexpected⟩ := houtcome.accepted
  refine ⟨hquiet, ?_, ?_⟩
  · by_cases hready : s.connection.phase = .ready
    · rw [handlePayload] at h
      split at h
      · cases h
      simp only [hready] at h
      have hops := @ready_ops ctx env s payload (by rw [h])
      rw [h] at hops
      exact hops
    · rw [houtcome.no_ops hready, opsOf, requestOf_handshake hready hexpected]
      rfl
  · cases houtcome with
    | registration hmessage hphase hencryption hended => exact hended
    | answer hmessage hphase hencryption hended => exact hended
    | heartbeat hphase hsame => exact hsame.ended
    | call hready hexpected hsame hdone => exact hsame.ended

theorem Dispatched.no_ops {encrypted : Bool} (hdone : Dispatched encrypted done) :
    receivedPayloads done = [] ∧ calledOps done = [] := ⟨hdone.plain.payloads, hdone.plain.ops⟩

theorem callsOf_opsOf (ctx : SessionContext) (env : TurnEnv) (payload : List UInt8) :
    CallsOf ctx.sessionId (opsOf ctx env payload) (requestOf payload).toList := by
  rw [opsOf]
  cases requestOf payload with
  | none => exact .nil
  | some request => exact .cons ⟨env.call, rfl⟩ .nil

theorem requests_received {encrypted : Bool} (hquiet : receivedPayloads done = []) :
    (receivedPayloads (.received encrypted payload :: done)).filterMap requestOf =
      (requestOf payload).toList := by
  have hone : receivedPayloads (.received encrypted payload :: done) = [payload] :=
    congrArg (payload :: ·) hquiet
  rw [hone]
  cases hrequest : requestOf payload with
  | none => simp [hrequest]
  | some request => simp [hrequest]

/-- A turn that does not end the session. -/
theorem turn_calls (hstill : (turn ctx env s).2.ended = false) :
    CallsOf ctx.sessionId (calledOps (turn ctx env s).1)
      ((receivedPayloads (turn ctx env s).1).filterMap requestOf) := by
  rw [turn] at hstill ⊢
  cases hreceive : s.connection.toChannel.receivePayload ctx.prims s.input with
  | error message =>
      rw [hreceive] at hstill
      cases hstill
  | ok result =>
      obtain ⟨payload, channel, input⟩ := result
      simp only [hreceive] at hstill ⊢
      generalize hhandled : handlePayload ctx env payload
        { s with connection := { s.connection with toChannel := channel }, input := input } =
          handled at hstill ⊢
      obtain ⟨done, t, error⟩ := handled
      cases error with
      | some message => cases hstill
      | none =>
          obtain ⟨hquiet, hops, -⟩ := handlePayload_ops hhandled
          have hcalls := callsOf_opsOf ctx env payload
          rw [← hops, ← requests_received hquiet] at hcalls
          exact hcalls

/-- A turn up to its first dispatch: the dispatches call nothing. -/
theorem readTurn_calls (hstill : (readTurn ctx env s).2.1.ended = false) :
    CallsOf ctx.sessionId (calledOps (readTurn ctx env s).1)
      ((receivedPayloads (readTurn ctx env s).1).filterMap requestOf) := by
  obtain ⟨hsame, hdone⟩ := @dispatchEvents_cases ctx env (readTurn ctx env s).2.2 0
    (readTurn ctx env s).2.1
  have hcalls := @turn_calls ctx env s (by
    rw [turn_eq]
    exact hsame.ended.trans hstill)
  rw [turn_eq, calledOps_append, receivedPayloads_append, hdone.no_ops.1, hdone.no_ops.2,
    List.append_nil, List.append_nil] at hcalls
  exact hcalls

theorem dispatch_calls (event : EngineEvent) (written : Bool) :
    CallsOf ctx.sessionId (calledOps (dispatchEvent ctx event written s).1)
      ((receivedPayloads (dispatchEvent ctx event written s).1).filterMap requestOf) := by
  obtain ⟨-, hdone⟩ := @dispatchEvent_cases ctx event written s
  rw [hdone.no_ops.1, hdone.no_ops.2]
  exact .nil

/-- A step of the world with a session that goes on. -/
theorem world_calls {w : World} (a : WorldAction) (hstill : (world ctx w a).2.server.ended = false) :
    CallsOf ctx.sessionId (calledOps (sessionDone (world ctx w a).1))
      ((receivedPayloads (sessionDone (world ctx w a).1)).filterMap requestOf) := by
  cases a with
  | send payload =>
      rw [world, clientTurn_spares.1]
      exact .nil
  | receive size =>
      rw [world, clientReceive_spares.1]
      exact .nil
  | deliverUp count => exact .nil
  | deliverDown count => exact .nil
  | serve now call =>
      rw [world, serve] at hstill ⊢
      split
      · rw [sessionStep, sessionDone_server]
        exact dispatch_calls _ _
      split
      · exact .nil
      · rename_i hidle hgoes
        rw [hidle] at hstill
        simp only [if_neg hgoes] at hstill
        rw [readStep, sessionDone_server]
        exact readTurn_calls hstill
  | dispatch event =>
      rw [world, sessionStep, sessionDone_server]
      exact dispatch_calls _ _
  | other op =>
      rw [world, sessionStep, sessionDone_server]
      exact .nil

/-- The calls of a session that goes on are those of the order requests it has received. -/
theorem calls_are_requests {engine₀ : EngineState} {h : List WorldEvent} {w : World}
    (hrun : Run (world ctx) WellTimed (.init engine₀) h w) (hrunning : w.server.ended = false) :
    CallsOf ctx.sessionId (calledOps (sessionDone h))
      ((receivedPayloads (sessionDone h)).filterMap requestOf) := by
  revert hrunning
  apply Run.invariant (P := fun h (w : World) => w.server.ended = false →
    CallsOf ctx.sessionId (calledOps (sessionDone h))
      ((receivedPayloads (sessionDone h)).filterMap requestOf)) _ _ hrun
  · exact fun _ => .nil
  · intro h w a _ hcalls _ hstill
    have hrunning : w.server.ended = false := (world_session ctx w a).running hstill
    rw [sessionDone_append, calledOps_append, receivedPayloads_append, List.filterMap_append]
    exact List.rel_append (hcalls hrunning) (world_calls a hstill)

end Calls

/-! ## From the client to the engine -/

section Orders

variable {ctx : SessionContext} {engine₀ : EngineState} {h : List WorldEvent} {w : World}
  {userId : UInt32} {branchId : UInt16} {now : Nat → UInt32} {requests : List Request}

/-- What a client of the tests sends that makes some order requests. -/
def orderSession (ticket : SessionTicket) (userId : UInt32) (branchId : UInt16) (now : Nat → UInt32)
    (requests : List Request) : List (List UInt8) :=
  bootstrapReadySession (gatewayRouterResponse ticket) userId branchId now ++
    requests.map Request.bytes

theorem phaseAfter_orderSession (hcoded : ∀ request ∈ requests, request.Coded) :
    phaseAfter ctx.ticket (orderSession ctx.ticket userId branchId now requests) = some .ready := by
  rw [orderSession, phaseAfter_append, phaseAfter_bootstrap]
  refine phases_ready ctx.ticket fun payload hpayload => ?_
  obtain ⟨request, hrequest, rfl⟩ := List.mem_map.mp hpayload
  exact isReadyPayload_bytes (hcoded request hrequest)

/-- No payload of a sequence that leads to a phase violates its phase. -/
theorem phaseAfter_begins {ticket : SessionTicket} {payloads all : List (List UInt8)} {phase : Phase}
    (hall : phaseAfter ticket all = some phase) (hbegins : payloads <+: all) :
    phaseAfter ticket payloads ≠ none := by
  obtain ⟨more, rfl⟩ := hbegins
  rw [phaseAfter_append] at hall
  intro hnone
  rw [hnone] at hall
  cases hall

theorem requests_orderSession (ticket : SessionTicket)
    (hcoded : ∀ request ∈ requests, request.Coded) :
    (orderSession ticket userId branchId now requests).filterMap requestOf = requests := by
  have hbootstrap : (bootstrapReadySession (gatewayRouterResponse ticket) userId branchId
      now).filterMap requestOf = [] := by
    rw [List.filterMap_eq_nil_iff]
    simp only [bootstrapReadySession, List.forall_mem_cons]
    refine ⟨?_, ?_, ?_, ?_, ?_, ?_, ?_, List.forall_mem_nil _⟩
    · exact requestOf_code txnCodeOf_initialized (by decide)
    · exact requestOf_code txnCodeOf_initialized (by decide)
    · exact requestOf_code txnCodeOf_initialized (by decide)
    · exact requestOf_code txnCodeOf_initialized (by decide)
    · exact requestOf_code txnCodeOf_initialized (by decide)
    · rw [← List.append_nil (MessageHeader.bytes _)]
      exact requestOf_code txnCodeOf_initialized (by decide)
    · exact requestOf_code txnCodeOf_initialized (by decide)
  rw [orderSession, List.filterMap_append, hbootstrap, List.nil_append, List.filterMap_map]
  clear hbootstrap
  induction requests with
  | nil => rfl
  | cons request requests ih =>
      obtain ⟨hfirst, hmore⟩ := List.forall_mem_cons.mp hcoded
      have hread : (requestOf ∘ Request.bytes) request = some request := requestOf_bytes hfirst
      rw [List.filterMap_cons_some hread, ih hmore]

/-- Whatever the order of the steps: the session of a client that opens it as the tests do and then
makes order requests goes on, and calls the engine with these requests as the client made them, in
their order; when nothing is left on the way it has made them all and is ready for more. -/
theorem requests_reach_engine (hcoded : ∀ request ∈ requests, request.Coded)
    (hrun : Run (world ctx) WellTimed (.init engine₀) h w)
    (hsent : clientSent h <+: orderSession ctx.ticket userId branchId now requests) :
    w.server.ended = false ∧
    ∃ made, made <+: requests ∧ CallsOf ctx.sessionId (calledOps (sessionDone h)) made ∧
      (w.up = [] → waiting ctx w = true →
        clientSent h = orderSession ctx.ticket userId branchId now requests →
          made = requests ∧ w.server.connection.phase = .ready) := by
  have hs := safe hrun
  have hphases := @phaseAfter_orderSession ctx userId branchId now requests hcoded
  obtain ⟨items, hitems, -⟩ := hs.up
  have hreceived : receivedPayloads (sessionDone h) <+:
      orderSession ctx.ticket userId branchId now requests :=
    List.IsPrefix.trans ⟨items, hitems.symm⟩ hsent
  have hrunning : w.server.ended = false := by
    cases hended : w.server.ended with
    | false => rfl
    | true =>
        obtain ⟨earlier, payload, hearlier, hviolates⟩ := hs.ended hended
        rw [Violates, ← phaseAfter_concat, ← hearlier] at hviolates
        exact absurd hviolates (phaseAfter_begins hphases hreceived)
  refine ⟨hrunning, (receivedPayloads (sessionDone h)).filterMap requestOf, ?_,
    calls_are_requests hrun hrunning, fun hup hwaits hall => ?_⟩
  · have hmade := hreceived.filterMap requestOf
    rw [requests_orderSession ctx.ticket hcoded] at hmade
    exact hmade
  · have heverything := (hs.session_waits hrunning hup hwaits).trans hall
    refine ⟨by rw [heverything, requests_orderSession ctx.ticket hcoded], ?_⟩
    have hphase := (world_follows hrun).phase hrunning
    rw [heverything, hphases] at hphase
    exact (Option.some.inj hphase).symm

/-- A cipher and a digest that change nothing. -/
def openPrimitives : Primitives where
  md5 _ := .replicate 16 0
  aesEncrypt _ _ := .replicate 16 0

def traderContext : SessionContext := { intruderContext with prims := openPrimitives }

def traderOrder : Request := .orderEntry (orderRequest 654321 1 25 1000 kOrderFlagsDay)

/-- A payload arrives, is served and its event is dispatched, if there is one, and the answer of the
given size is received. -/
def roundTrip (payload : List UInt8) (size : Nat) : List WorldAction :=
  [.send payload, .deliverUp 400, .serve (fun _ => 0) calm, .serve (fun _ => 0) calm,
    .deliverDown 400, .receive size]

def traderRun : List WorldAction :=
  (List.zipWith roundTrip (orderSession traderContext.ticket 991122 4 (fun _ => 0) [traderOrder])
    [40, 52, 278, 106, 40, 40, 40, 240]).flatten

def traderResult : List WorldEvent × World :=
  exec (world traderContext) (.init traderContext.cfg.init) traderRun

set_option maxRecDepth 8000 in
/-- The order of a trader has reached the engine. -/
theorem requests_reach_engine_trader :
    CallsOf traderContext.sessionId (calledOps (sessionDone traderResult.1)) [traderOrder] := by
  have hmeets : Meets (world traderContext) WellTimed [] (.init traderContext.cfg.init) traderRun := by
    decide +kernel
  obtain ⟨-, made, -, hcalls, hall⟩ :=
    @requests_reach_engine traderContext _ _ _ 991122 4 (fun _ => 0) [traderOrder] (by decide)
      (run_exec_of_meets hmeets) ⟨[], by decide +kernel⟩
  obtain ⟨rfl, -⟩ := hall (by decide +kernel) (by decide +kernel) (by decide +kernel)
  exact hcalls

end Orders

/-! ## From the engine to the client -/

section Responses

variable {ctx : SessionContext} {engine₀ : EngineState} {h : List WorldEvent} {w : World}

/-- A response is decoded as it was, and no other message is taken for one. -/
theorem Message.response_bytes (message : Message) :
    Response.ofBytes? message.bytes = message.response? := by
  cases message with
  | secureBoxRegistrationResponse header =>
      rw [Response.ofBytes?, bytes, MessageHeader.length_bytes]
      rfl
  | boxSignOnResponse payload =>
      rw [Response.ofBytes?, bytes, BoxSignOnResponsePayload.length_bytes]
      rfl
  | logonResponse payload =>
      rw [Response.ofBytes?, bytes, SignOnOutPayload.length_bytes]
      rfl
  | systemInfoResponse payload =>
      rw [Response.ofBytes?, bytes, SystemInfoResponsePayload.length_bytes]
      rfl
  | simpleHeaderResponse header =>
      rw [Response.ofBytes?, bytes, MessageHeader.length_bytes]
      rfl
  | event response =>
      cases response with
      | trade payload =>
          rw [Response.ofBytes?, bytes, Response.bytes, TradeConfirmationPayload.length_bytes,
            if_pos rfl, TradeConfirmationPayload.ofBytes_bytes]
          rfl
      | order payload =>
          rw [Response.ofBytes?, bytes, Response.bytes, OrderConfirmationPayload.length_bytes,
            if_neg (by decide), if_pos rfl, OrderConfirmationPayload.ofBytes_bytes]
          rfl

theorem responses_bytes (messages : List Message) :
    (messages.map Message.bytes).filterMap Response.ofBytes? = messages.filterMap (·.response?) := by
  rw [List.filterMap_map]
  congr 1
  funext message
  exact message.response_bytes

/-- The responses that a step of the world sends are those to what it dispatches. -/
theorem Safe.step_responses (hs : Safe ctx h w) (a : WorldAction) :
    sentResponses (sessionDone (world ctx w a).1) =
      (stepDispatches w a).map fun dispatched => responseTo ctx.cfg.config dispatched.2 := by
  cases a with
  | send payload =>
      rw [world, clientTurn_spares.1]
      rfl
  | receive size =>
      rw [world, clientReceive_spares.1]
      rfl
  | deliverUp count => rfl
  | deliverDown count => rfl
  | serve now call =>
      rw [world, stepDispatches]
      have hserves := @Safe.serves _ _ _ hs { now, call, written := fun _ => true } fun _ => rfl
      generalize serve ctx { now, call, written := fun _ => true } w = step at hserves ⊢
      cases hserves with
      | @dispatches event owed howed =>
          have hopen : w.server.connection.closed = false :=
            hs.server.open_.trans (hs.server.owed (by simp [howed])).2
          rw [howed, sessionStep, sessionDone_server]
          exact (dispatchEvent_able hopen hs.server.able event).2
      | waits hidle =>
          rw [hidle]
          rfl
      | violates hidle hrunning hitems hsizes hchunks hexpected =>
          rw [hidle]
          rfl
      | answers hidle hrunning hitems hsizes henabled hchunks hlink hquiet hphase hanswers =>
          rw [hidle, sessionDone_server]
          exact hanswers.responses
  | dispatch event =>
      rw [world, sessionStep, sessionDone_server, session, stepDispatches]
      cases hclosed : w.server.connection.closed with
      | true =>
          rw [dispatchEvent, if_pos hclosed]
          rfl
      | false => exact (dispatchEvent_able hclosed hs.server.able event).2
  | other op => rfl

/-- What the session's thread dispatches in a step and has left to dispatch is what it had left, and the
events of its call. -/
theorem Safe.step_owed (hs : Safe ctx h w) (a : WorldAction) :
    ownDispatches (stepDispatches w a) ++ (world ctx w a).2.owed = w.owed ++ stepEvents ctx w a := by
  cases a with
  | send payload =>
      rw [stepEvents, world, clientTurn_spares.1, clientTurn_spares.2.2]
      exact (List.append_nil _).symm
  | receive size =>
      rw [stepEvents, world, clientReceive_spares.1, clientReceive_spares.2.2]
      exact (List.append_nil _).symm
  | deliverUp count => exact (List.append_nil _).symm
  | deliverDown count => exact (List.append_nil _).symm
  | serve now call =>
      rw [stepEvents, world, stepDispatches]
      have hserves := @Safe.serves _ _ _ hs { now, call, written := fun _ => true } fun _ => rfl
      generalize serve ctx { now, call, written := fun _ => true } w = step at hserves ⊢
      cases hserves with
      | @dispatches event owed howed =>
          obtain ⟨-, hdone⟩ := @dispatchEvent_cases ctx event true w.server
          rw [howed, sessionStep, sessionDone_server, session, hdone.no_ops.2]
          exact (List.append_nil _).symm
      | waits hidle =>
          rw [hidle]
          rfl
      | violates hidle hrunning hitems hsizes hchunks hexpected =>
          rw [hidle]
          rfl
      | answers hidle hrunning hitems hsizes henabled hchunks hlink hquiet hphase hanswers =>
          rw [hidle, sessionDone_server]
          exact hanswers.calls
  | dispatch event =>
      obtain ⟨-, hdone⟩ := @dispatchEvent_cases ctx event true w.server
      rw [stepEvents, world, sessionStep, sessionDone_server, session, hdone.no_ops.2,
        ownDispatches_other]
      exact (List.append_nil _).symm
  | other op => exact (List.append_nil _).symm

/-- The responses that have been sent are those to what has been dispatched, and the session's thread has
dispatched the events of its calls, but for those that are left. -/
structure Responded (ctx : SessionContext) (h : List WorldEvent) (calls : List (World × WorldAction))
    (w : World) : Prop where
  responses : sentResponses (sessionDone h) =
    (dispatches calls).map fun dispatched => responseTo ctx.cfg.config dispatched.2
  owed : ownDispatches (dispatches calls) ++ w.owed = sessionEvents ctx calls

theorem Responded.step {calls : List (World × WorldAction)} (hr : Responded ctx h calls w)
    (hs : Safe ctx h w) (a : WorldAction) :
    Responded ctx (h ++ (world ctx w a).1) (calls ++ [(w, a)]) (world ctx w a).2 where
  responses := by
    rw [sessionDone_append, sentResponses_append, dispatches_snoc, List.map_append, hr.responses,
      hs.step_responses a]
  owed := by
    rw [dispatches_snoc, sessionEvents_snoc, ownDispatches_append, List.append_assoc,
      hs.step_owed a, ← List.append_assoc, hr.owed]

theorem responded {as : List WorldAction}
    (hmeets : Meets (world ctx) WellTimed [] (.init engine₀) as) :
    Responded ctx (exec (world ctx) (.init engine₀) as).1 (encounters (world ctx) (.init engine₀) as)
      (exec (world ctx) (.init engine₀) as).2 :=
  encounters_invariant ⟨rfl, rfl⟩ (fun _ _ _ a hrun hr _ => hr.step (safe hrun) a) hmeets

/-- Whatever the order of the steps, and whatever other threads dispatch between those of the session's
own thread: what the client decodes are the responses to the events that have been dispatched through
its session, in their order, except for the last of them; when nothing is left on the way it has decoded
them all; and the session's own thread has dispatched the events of the session's engine calls, in their
order, except for those that it has still to dispatch. -/
theorem responses_reach_client {as : List WorldAction}
    (hmeets : Meets (world ctx) WellTimed [] (.init engine₀) as) :
    let calls := encounters (world ctx) (.init engine₀) as
    let result := exec (world ctx) (.init engine₀) as
    let responses := (dispatches calls).map fun dispatched => responseTo ctx.cfg.config dispatched.2
    (clientReceived result.1).filterMap Response.ofBytes? <+: responses ∧
    (∀ size, result.2.down = [] →
      result.2.client.receiveSized ctx.prims size result.2.downArrived = .error "socket read failed" →
        (clientReceived result.1).filterMap Response.ofBytes? = responses) ∧
    ownDispatches (dispatches calls) ++ result.2.owed = sessionEvents ctx calls := by
  intro calls result responses
  have hs : Safe ctx result.1 result.2 := safe (run_exec_of_meets hmeets)
  have hresponded : Responded ctx result.1 calls result.2 := responded hmeets
  obtain ⟨items, hitems, -⟩ := hs.down
  have hall : ((sentMessages (sessionDone result.1)).map Message.bytes).filterMap Response.ofBytes? =
      responses := (responses_bytes _).trans hresponded.responses
  refine ⟨?_, fun size hdown hwaits => ?_, hresponded.owed⟩
  · rw [← hall]
    exact List.IsPrefix.filterMap Response.ofBytes? ⟨items, hitems.symm⟩
  · rw [hs.client_waits hdown hwaits]
    exact hall

set_option maxRecDepth 8000 in
/-- The trader has received the responses to the events of its order. -/
theorem responses_reach_client_trader :
    (clientReceived traderResult.1).filterMap Response.ofBytes? =
      (sessionEvents traderContext (encounters (world traderContext)
        (.init traderContext.cfg.init) traderRun)).map (responseTo traderContext.cfg.config) := by
  have hmeets : Meets (world traderContext) WellTimed [] (.init traderContext.cfg.init) traderRun := by
    decide +kernel
  obtain ⟨-, hall, howed⟩ := responses_reach_client hmeets
  have hdone : (exec (world traderContext) (.init traderContext.cfg.init) traderRun).2.owed = [] := by
    decide +kernel
  have hown : ownDispatches (dispatches (encounters (world traderContext)
      (.init traderContext.cfg.init) traderRun)) = (dispatches (encounters (world traderContext)
        (.init traderContext.cfg.init) traderRun)).map (·.2) := by decide +kernel
  rw [hdone, List.append_nil, hown] at howed
  rw [← howed, List.map_map]
  exact hall 40 (by decide +kernel) rfl

end Responses

end NseFoExchangeSim.Server
