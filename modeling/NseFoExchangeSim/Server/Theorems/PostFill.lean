import NseFoExchangeSim.Engine.Theorems.Rejections
import NseFoExchangeSim.Server.Theorems.Handshake

/-!
# Modifications after the fill

What a client is told of an order comes from an event of the engine, and the engine has no error for an
order that is filled already: it does not know the order any more. The other code of a modification is
not in the session's table.
-/

namespace NseFoExchangeSim.Server

open Lib Protocol Engine

/-! ## The errors of the engine -/

section Errors

variable {cfg : EngineConfig} {st : EngineState} {env : CallEnv} {sessionId : UInt64}
  {session : SessionRef} {e : EngineEvent}

/-- The error codes of the events, among them 0 for success. -/
def eventCodes : List UInt16 :=
  [0, kErrorUnsupportedOrder, kErrorUnknownOrder, kErrorUnsupportedToken]

theorem code_of_success (h : e.errorCode = 0) : e.errorCode ∈ eventCodes := by
  simp [h, eventCodes]

theorem code_of_rejection {order : OrderSnapshot} {txnCode errorCode : UInt16}
    (he : e ∈ [makeOrderEvent order txnCode errorCode]) (hcode : errorCode ∈ eventCodes) :
    e.errorCode ∈ eventCodes := by
  rw [List.mem_singleton.mp he]
  exact hcode

theorem onNewOrder_codes (request : OrderEntryRequestPayload)
    (he : e ∈ (onNewOrder cfg env request sessionId session st).1) : e.errorCode ∈ eventCodes := by
  simp only [onNewOrder] at he
  split at he
  · exact code_of_rejection he (by decide)
  split at he
  · exact code_of_rejection he (by decide)
  split at he
  · rcases List.mem_cons.mp he with rfl | he
    · exact code_of_success rfl
    · rw [List.mem_singleton.mp he]
      exact code_of_success rfl
  split at he
  · exact code_of_success (enterIoc_succeeds e he)
  · exact code_of_success (enterDay_succeeds e he)

theorem onModifyOrder_codes (request : OrderUpdateRequestPayload)
    (he : e ∈ (onModifyOrder cfg env request sessionId session st).1) :
    e.errorCode ∈ eventCodes := by
  simp only [onModifyOrder] at he
  split at he
  · exact code_of_rejection he (by decide)
  split at he
  · exact code_of_rejection he (by decide)
  split at he
  · exact code_of_rejection he (by decide)
  split at he
  · exact code_of_rejection he (by decide)
  split at he
  · rw [List.mem_singleton.mp he]
    exact code_of_success rfl
  · rcases List.mem_cons.mp he with rfl | he
    · exact code_of_success rfl
    · exact code_of_success (fillOpenOrderLocked_succeeds e he)

theorem onCancelOrder_codes (request : OrderUpdateRequestPayload)
    (he : e ∈ (onCancelOrder env request sessionId session st).1) : e.errorCode ∈ eventCodes := by
  simp only [onCancelOrder] at he
  split at he
  · exact code_of_rejection he (by decide)
  split at he
  · exact code_of_rejection he (by decide)
  split at he
  · exact code_of_rejection he (by decide)
  · rw [List.mem_singleton.mp he]
    exact code_of_success rfl

theorem fillRequests_succeeds {i : Nat} {fillable : List FillRequest}
    (he : e ∈ (fillRequests env i fillable st).1) : e.errorCode = 0 := by
  induction fillable generalizing i st with
  | nil => cases he
  | cons fill fillable ih =>
      rcases List.mem_append.mp he with he | he
      · exact fillOpenOrderLocked_succeeds e he
      · exact ih he

theorem maybeFillRestingOrdersLocked_succeeds {token : UInt32}
    (he : e ∈ (maybeFillRestingOrdersLocked env token st).1) : e.errorCode = 0 := by
  simp only [maybeFillRestingOrdersLocked] at he
  split at he
  · cases he
  split at he
  · cases he
  · exact fillRequests_succeeds he

theorem engine_codes {op : Op} (he : e ∈ (engine cfg st op).1) : e.errorCode ∈ eventCodes := by
  cases op with
  | newOrder env request sessionId session => exact onNewOrder_codes request he
  | modifyOrder env request sessionId session => exact onModifyOrder_codes request he
  | cancelOrder env request sessionId session => exact onCancelOrder_codes request he
  | tbtOrder env message =>
      simp only [engine, onTbtOrderMessage] at he
      split at he
      · cases he
      split at he
      · cases he
      · exact code_of_success (maybeFillRestingOrdersLocked_succeeds he)
  | tbtTrade env message =>
      simp only [engine, onTbtTradeMessage] at he
      split at he
      · cases he
      · exact code_of_success (maybeFillRestingOrdersLocked_succeeds he)
  | sessionClosed sessionId => cases he

end Errors

/-! ## What a session sends of orders -/

namespace SessionEvent

def response? : SessionEvent → Option Response
  | .sent _ (.event response) _ => some response
  | _ => none

end SessionEvent

/-- An event of some answer of the engine. -/
def GivenBy (cfg : EngineConfig) (event : EngineEvent) : Prop :=
  ∃ st op, event ∈ (engine cfg st op).1

/-- The responses to orders are made from events of the engine. -/
def Reports (cfg : EngineConfig) (es : List SessionEvent) : Prop :=
  ∀ e ∈ es, ∀ response, e.response? = some response →
    ∃ event, GivenBy cfg event ∧ response = responseTo cfg.config event

section Reports

variable {cfg : EngineConfig} {ctx : SessionContext} {env : TurnEnv} {s : SessionState}
  {es es' : List SessionEvent}

theorem reports_nil : Reports cfg [] := by
  intro e he
  cases he

theorem Reports.append (h : Reports cfg es) (h' : Reports cfg es') : Reports cfg (es ++ es') := by
  intro e he
  rcases List.mem_append.mp he with he | he
  · exact h e he
  · exact h' e he

/-- An event that is no response to an order. -/
theorem reports_other {e : SessionEvent} (he : e.response? = none) : Reports cfg [e] := by
  intro e' he' response hresponse
  rw [List.mem_singleton.mp he', he] at hresponse
  cases hresponse

theorem Reports.cons {e : SessionEvent} (he : e.response? = none) (h : Reports cfg es) :
    Reports cfg (e :: es) :=
  (reports_other he).append h

theorem Reports.andThen {handled : Handled} {next : SessionState → Handled}
    (h : Reports cfg handled.1) (hnext : ∀ s, Reports cfg (next s).1) :
    Reports cfg (handled.andThen next).1 := by
  rw [Handled.andThen]
  split
  · exact h
  · exact h.append (hnext handled.2.1)

/-- A message that is no event of the engine. -/
theorem reports_message {message : Message} (written : Bool)
    (hmessage : ∀ encrypted, (SessionEvent.sent encrypted message written).response? = none) :
    Reports cfg (sendMessage ctx message written s).1 := by
  rw [sendMessage]
  split
  · exact reports_nil
  · exact reports_other (hmessage _)

theorem dispatchEvent_reports {event : EngineEvent} (written : Bool)
    (hevent : GivenBy ctx.cfg event) :
    Reports ctx.cfg (dispatchEvent ctx event written s).1 := by
  have hsent : Reports ctx.cfg
      (sendMessage ctx (.event (responseTo ctx.cfg.config event)) written s).1 := by
    rw [sendMessage]
    split
    · exact reports_nil
    · intro e he response hresponse
      rw [List.mem_singleton.mp he] at hresponse
      cases hresponse
      exact ⟨event, hevent, rfl⟩
  rw [dispatchEvent]
  split
  · exact reports_nil
  · split
    · rename_i heq
      rw [heq] at hsent
      exact hsent
    · rename_i heq
      rw [heq] at hsent
      exact hsent.append (reports_other rfl)

theorem dispatchEvents_reports {events : List EngineEvent} (k : Nat)
    (hevents : ∀ event ∈ events, GivenBy ctx.cfg event) :
    Reports ctx.cfg (dispatchEvents ctx env events k s).1 := by
  induction events generalizing k s with
  | nil => exact reports_nil
  | cons event events ih =>
      obtain ⟨hevent, hlater⟩ := List.forall_mem_cons.mp hevents
      exact (dispatchEvent_reports _ hevent).append (ih (k + 1) hlater)

theorem callEngine_reports (request : Request) :
    Reports ctx.cfg (callEngine ctx env request s).1 := by
  rw [callEngine]
  apply Reports.cons rfl
  apply dispatchEvents_reports
  intro event hevent
  exact ⟨_, _, hevent⟩

/-! ### Payloads -/

theorem handleSecureBoxRegistration_reports (txnCode : UInt16) (payload : List UInt8) :
    Reports cfg (handleSecureBoxRegistration ctx env txnCode payload s).1 := by
  rw [handleSecureBoxRegistration]
  split
  · exact reports_nil
  split
  · exact reports_nil
  · apply Reports.andThen
    · exact reports_message _ fun _ => rfl
    · intro s'
      exact Reports.andThen reports_nil fun _ => reports_nil

theorem handleBoxSignOn_reports (txnCode : UInt16) (payload : List UInt8) :
    Reports cfg (handleBoxSignOn ctx env txnCode payload s).1 := by
  rw [handleBoxSignOn]
  split
  · exact reports_nil
  split
  · exact reports_nil
  · exact Reports.andThen (reports_message _ fun _ => rfl) fun _ => reports_nil

theorem handleLogin_reports (txnCode : UInt16) (payload : List UInt8) :
    Reports cfg (handleLogin ctx env txnCode payload s).1 := by
  rw [handleLogin]
  split
  · exact reports_nil
  · exact Reports.andThen (reports_message _ fun _ => rfl) fun _ => reports_nil

theorem handleReadyPayload_reports (txnCode : UInt16) (payload : List UInt8) :
    Reports ctx.cfg (handleReadyPayload ctx env txnCode payload s).1 := by
  rw [handleReadyPayload]
  split
  · split
    · exact reports_nil
    · exact reports_message _ fun _ => rfl
  split
  · split
    · exact reports_nil
    · exact reports_message _ fun _ => rfl
  split
  · split
    · exact reports_nil
    · exact reports_message _ fun _ => rfl
  split
  · exact reports_nil
  split
  · split
    · exact reports_nil
    · exact callEngine_reports _
  split
  · split
    · exact reports_nil
    · exact callEngine_reports _
  split
  · split
    · exact reports_nil
    · exact callEngine_reports _
  · exact reports_nil

theorem handlePayload_reports (payload : List UInt8) :
    Reports ctx.cfg (handlePayload ctx env payload s).1 := by
  rw [handlePayload]
  split
  · exact reports_nil
  · cases s.connection.phase with
    | awaitSecureBoxRegistration => exact handleSecureBoxRegistration_reports _ payload
    | awaitBoxSignOn => exact handleBoxSignOn_reports _ payload
    | awaitLogin => exact handleLogin_reports _ payload
    | ready => exact handleReadyPayload_reports _ payload

theorem turn_reports : Reports ctx.cfg (turn ctx env s).1 := by
  rw [turn]
  split
  · exact reports_other rfl
  · rename_i payload channel input hreceived
    have hdone := @handlePayload_reports ctx env
      { s with connection := { s.connection with toChannel := channel }, input := input } payload
    simp only
    split
    · rename_i heq
      rw [heq] at hdone
      exact Reports.cons rfl hdone
    · rename_i heq
      rw [heq] at hdone
      exact Reports.cons rfl (hdone.append (reports_other rfl))

/-- Other threads dispatch what the engine gives. -/
def DispatchesAnswers (cfg : EngineConfig) (_ : List SessionEvent) (_ : SessionState) :
    SessionAction → Prop
  | .dispatch event _ => GivenBy cfg event
  | _ => True

theorem session_reports {a : SessionAction} (ha : DispatchesAnswers ctx.cfg es s a) :
    Reports ctx.cfg (session ctx s a).1 := by
  cases a with
  | turn arrived env =>
      rw [session]
      split
      · exact reports_nil
      · exact turn_reports
  | dispatch event written => exact dispatchEvent_reports written ha
  | other op => exact reports_nil

theorem run_reports {engine₀ : EngineState}
    (hrun : Run (session ctx) (DispatchesAnswers ctx.cfg) (.init engine₀) es s) :
    Reports ctx.cfg es := by
  apply Run.invariant (P := fun h _ => Reports ctx.cfg h) reports_nil _ hrun
  intro h s a _ hreports ha
  exact hreports.append (session_reports ha)

end Reports

/-! ## Orders that are filled -/

/-- The client is told that the order is filled: the price, what was filled and what remains are those of
the filled order, and the reference is later than that of the confirmation. -/
def AnsweredFromFill (filled : OrderSnapshot) (confirmed : UInt64) (es : List SessionEvent) : Prop :=
  ∃ encrypted payload, .sent encrypted (.event (.order payload)) true ∈ es ∧
    byteswap payload.transactionCode = kTxnOrderModificationErrorTrimmed ∧
    byteswap payload.errorCode = kErrorOrderAlreadyFilled ∧
    byteswap payload.price = filled.price ∧
    byteswap payload.volumeFilledToday = filled.volume ∧
    byteswap payload.totalVolumeRemaining = 0 ∧
    confirmed < byteswap payload.lastActivityReference

/-- No history tells a client that its order is filled. -/
theorem Reports.not_answered {cfg : EngineConfig} {es : List SessionEvent} (h : Reports cfg es)
    (filled : OrderSnapshot) (confirmed : UInt64) : ¬ AnsweredFromFill filled confirmed es := by
  rintro ⟨encrypted, payload, hmem, -, hcode, -⟩
  obtain ⟨event, ⟨st, op, hevent⟩, hresponse⟩ := h _ hmem _ rfl
  have hcodes := engine_codes hevent
  rw [responseTo] at hresponse
  split at hresponse
  · cases hresponse
  · cases hresponse
    simp only [sendOrderResponse, byteswap_byteswap] at hcode
    rw [hcode] at hcodes
    exact absurd hcodes (by decide)

/-- In no run is a modification answered from the filled order that it names, whichever order that is;
and one of price and volume ends the session. -/
theorem filled_order_never_reported {ctx : SessionContext} {engine₀ : EngineState}
    {h : List SessionEvent} {s : SessionState}
    (hrun : Run (session ctx) (DispatchesAnswers ctx.cfg) (.init engine₀) h s)
    (before : List SessionEvent) (encrypted : Bool) (payload : List UInt8)
    (after : List SessionEvent) (heq : h = before ++ .received encrypted payload :: after) :
    (txnCodeOf payload = kTxnOrderModificationTrimmed →
      ∀ filled confirmed, ¬ AnsweredFromFill filled confirmed after) ∧
    (txnCodeOf payload = kTxnPriceVolModification →
      s.ended = true ∧ ∀ filled confirmed, ¬ AnsweredFromFill filled confirmed after) := by
  have hafter : Reports ctx.cfg after := by
    intro e he
    apply run_reports hrun
    rw [heq]
    simp [he]
  refine ⟨fun _ => hafter.not_answered, fun hcode => ⟨?_, hafter.not_answered⟩⟩
  have hviolates : Violates ctx.ticket (receivedPayloads before) payload := by
    rw [Violates, Option.bind_eq_none_iff]
    intro phase _
    cases hexpected : expected ctx.ticket phase payload with
    | none => rfl
    | some phase' =>
        have hknown := (expected_known hexpected).2
        rw [hcode] at hknown
        exact absurd hknown (by decide)
  exact ((follows (hrun.mono fun _ _ _ _ => trivial)).violation before encrypted payload after heq
    hviolates).1

/-! ## An order that trades at once -/

/-- A session without market data, over a digest and a cipher that are easy to compute. -/
def fillContext : SessionContext where
  prims :=
    { md5 _ := .replicate 16 0
      aesEncrypt _ block := block }
  cfg := { config := { exchangeOrderNumberStart := 200000, fillNumberStart := 50 } }
  ticket := intruderContext.ticket
  sessionId := 1

/-- A box sign-on and a logon. -/
def handshakePayloads : List (List UInt8) :=
  [store16 (byteswap kTxnBoxSignOnRequestIn) ++ zeros 38 ++ [0, 1] ++ zeros 17 ++ [1],
    store16 (byteswap kTxnLogonRequest) ++ zeros 276]

/-- A day order to buy 25 at 1234.50. -/
def buyPayload : List UInt8 :=
  List.flatten
    [store16 (byteswap kTxnOrderEntryTrimmed), zeros 6, store32 (byteswap 654321), zeros 36,
      store16 (byteswap 1), store16 (byteswap 1), store32 (byteswap 25), store32 (byteswap 25),
      store32 (byteswap 123450), zeros 4, [kOrderFlagsDay, 0], zeros 11, ['O'.toUInt8], zeros 76]

/-- Its modification to 1234.55, under its number as a double. -/
def repricePayload : List UInt8 :=
  List.flatten
    [store16 (byteswap kTxnOrderModificationTrimmed), zeros 6, store32 (byteswap 654321), zeros 26,
      store64 (byteswap 0x41086A0000000000), zeros 10, store16 (byteswap 1), store16 (byteswap 1),
      store32 (byteswap 25), zeros 4, store32 (byteswap 25), store32 (byteswap 25), zeros 4,
      store32 (byteswap 123455), zeros 12, [kOrderFlagsDay, 0x10], zeros 11, ['O'.toUInt8],
      zeros 76]

/-- A price and volume modification of the same order. -/
def priceVolumePayload : List UInt8 :=
  List.flatten
    [store16 (byteswap kTxnPriceVolModification), zeros 46, store64 (byteswap 0x41086A0000000000),
      store16 (byteswap 1), store32 (byteswap 123460), store32 (byteswap 25), zeros 40]

/-- The frames of the client, which turns the encryption on after its registration. -/
def clientWire : List UInt8 :=
  match ({} : Channel).sendPayload fillContext.prims intruderRegistration with
  | .error _ => []
  | .ok (first, channel) =>
      let encrypted : Channel :=
        { channel with
          encryptionEnabled := true
          outboundCrypto := channel.outboundCrypto.initializeStream fillContext.ticket.cryptoKey
            fillContext.ticket.cryptoIv }
      match encrypted.sendPayloads fillContext.prims
          (handshakePayloads ++ [buyPayload, repricePayload, priceVolumePayload]) with
      | .error _ => []
      | .ok (rest, _) => first ++ rest

/-- Everything has arrived before the first turn. -/
def fillRun : List SessionAction :=
  [.turn [clientWire] quietTurn, .turn [] quietTurn, .turn [] quietTurn, .turn [] quietTurn,
    .turn [] quietTurn, .turn [] quietTurn]

def filledHistory : List SessionEvent × SessionState :=
  exec (session fillContext) (.init fillContext.cfg.init) fillRun

theorem filledHistory_run :
    Run (session fillContext) (DispatchesAnswers fillContext.cfg) (.init fillContext.cfg.init)
      filledHistory.1 filledHistory.2 :=
  run_exec_of_meets ⟨trivial, trivial, trivial, trivial, trivial, trivial, trivial⟩

/-- A payload that was received splits the history. -/
theorem received_split {h : List SessionEvent} {payload : List UInt8}
    (hmem : payload ∈ receivedPayloads h) :
    ∃ (before : List SessionEvent) (encrypted : Bool) (after : List SessionEvent),
      h = before ++ .received encrypted payload :: after := by
  obtain ⟨e, he, hpayload⟩ := List.mem_filterMap.mp hmem
  obtain ⟨before, after, heq⟩ := List.append_of_mem he
  cases e with
  | received encrypted payload' =>
      cases hpayload
      exact ⟨before, encrypted, after, heq⟩
  | sent => cases hpayload
  | called => cases hpayload
  | sessionClosed => cases hpayload

theorem filled_order_never_reported_reprice : ∃ before encrypted after,
    filledHistory.1 = before ++ .received encrypted repricePayload :: after ∧
      ∀ filled confirmed, ¬ AnsweredFromFill filled confirmed after := by
  have hmem : repricePayload ∈ receivedPayloads filledHistory.1 := by decide +kernel
  obtain ⟨before, encrypted, after, heq⟩ := received_split hmem
  have hanswer :=
    filled_order_never_reported filledHistory_run before encrypted repricePayload after heq
  exact ⟨before, encrypted, after, heq, hanswer.1 (by decide +kernel)⟩

/-- The transaction code and the error code of a response, and the quantity it is about. -/
def Response.brief : Response → UInt16 × UInt16 × UInt32
  | .trade payload => (byteswap payload.transactionCode, 0, byteswap payload.fillQuantity)
  | .order payload =>
      (byteswap payload.transactionCode, byteswap payload.errorCode, byteswap payload.volume)

/-- The order trades whole, its modification is answered as that of an unknown order, and the price and
volume modification ends the session. -/
theorem filled_order_is_unknown :
    (∀ filled confirmed, ¬ AnsweredFromFill filled confirmed filledHistory.1) ∧
      filledHistory.1.filterMap (fun e => e.response?.map (·.brief)) =
        [(kTxnOrderConfirmationTrimmed, 0, 25), (kTxnTradeConfirmationTrimmed, 0, 25),
          (kTxnOrderModificationErrorTrimmed, kErrorUnknownOrder, 25)] ∧
      (receivedPayloads filledHistory.1).drop 3 = [buyPayload, repricePayload, priceVolumePayload] ∧
        filledHistory.2.ended = true := by
  refine ⟨(run_reports filledHistory_run).not_answered, ?_⟩
  decide +kernel

end NseFoExchangeSim.Server
