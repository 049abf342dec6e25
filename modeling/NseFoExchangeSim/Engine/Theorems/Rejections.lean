import NseFoExchangeSim.Engine.Lemmas.Sessions
import NseFoExchangeSim.Engine.Requests

/-!
# Rejections are atomic

A client's request is turned down with one error event and leaves the engine as it was, or it is
carried out: then its confirmation comes first and no event of the answer is an error.
-/

namespace NseFoExchangeSim.Engine

open Lib Protocol

variable {cfg : EngineConfig} {st : EngineState} {env : CallEnv} {op : Op} {s : UInt64}
  {session : SessionRef}

/-! ## Requests of clients -/

namespace Op

/-- The session a request comes from; a feed message and a session close come from none. -/
def client : Op → Option (UInt64 × SessionRef)
  | .newOrder _ _ sessionId session => some (sessionId, session)
  | .modifyOrder _ _ sessionId session => some (sessionId, session)
  | .cancelOrder _ _ sessionId session => some (sessionId, session)
  | _ => none

/-- The transaction code that confirms a request. -/
def confirmedBy : Op → UInt16
  | .newOrder .. => kTxnOrderConfirmationTrimmed
  | .modifyOrder .. => kTxnOrderModificationConfirmationTrimmed
  | .cancelOrder .. => kTxnOrderCancellationConfirmationTrimmed
  | _ => 0

/-- The event that turns a request down. -/
def refusal (errorCode : UInt16) : Op → Option EngineEvent
  | .newOrder env request sessionId session =>
      some (makeOrderEvent
        (stampOrder (buildSnapshotFromEntryRequest request sessionId session) true (env.clock 0))
        kTxnOrderErrorTrimmed errorCode)
  | .modifyOrder env request sessionId session =>
      some (makeOrderEvent
        (stampOrder (updateRequestSnapshot env request sessionId session) false (env.clock 0))
        kTxnOrderModificationErrorTrimmed errorCode)
  | .cancelOrder env request sessionId session =>
      some (makeOrderEvent
        (stampOrder (updateRequestSnapshot env request sessionId session) false (env.clock 0))
        kTxnOrderCancellationErrorTrimmed errorCode)
  | _ => none

end Op

/-- The request is turned down: one error event, and the state as it was. -/
def Refused (st : EngineState) (op : Op) (r : List EngineEvent × EngineState) : Prop :=
  ∃ errorCode e, errorCode ≠ 0 ∧ op.refusal errorCode = some e ∧ r = ([e], st)

/-- The request is carried out: its confirmation, and then events none of which is an error. -/
def CarriedOut (op : Op) (r : List EngineEvent × EngineState) : Prop :=
  ∃ e rest, r.1 = e :: rest ∧ e.txnCode = op.confirmedBy ∧ ∀ e' ∈ e :: rest, e'.errorCode = 0

theorem Op.refusal_errorCode {errorCode : UInt16} {e : EngineEvent}
    (h : op.refusal errorCode = some e) : e.errorCode = errorCode := by
  cases op with
  | newOrder _ _ _ _ => cases h; rfl
  | modifyOrder _ _ _ _ => cases h; rfl
  | cancelOrder _ _ _ _ => cases h; rfl
  | tbtOrder _ _ => cases h
  | tbtTrade _ _ => cases h
  | sessionClosed _ => cases h

/-! ## The answers -/

theorem fillOpenOrderLocked_succeeds {now : ClockReading} {n : UInt64} {price available : UInt32} :
    ∀ e ∈ (fillOpenOrderLocked env now n price available st).1, e.errorCode = 0 := by
  have hout := fillOpenOrderLocked_outcome env now n price available st
  generalize fillOpenOrderLocked env now n price available st = r at hout
  cases hout with
  | nothing => simp
  | expired hlive hn => simp
  | traded hlive hn hpos hle havailable => simp [makeTradeEvent]

theorem enterIoc_succeeds {snapshot : OrderSnapshot} :
    ∀ e ∈ (enterIoc cfg env snapshot st).1, e.errorCode = 0 := by
  have hout := enterIoc_outcome cfg env st snapshot
  generalize enterIoc cfg env snapshot st = r at hout
  cases hout with
  | unfilled now => simp [confirmationEvent, cancellationEvent, makeOrderEvent]
  | filled now htop hpos hle havailable hrest =>
      simp [confirmationEvent, makeOrderEvent, makeTradeEvent]
  | partFilled now now' htop hpos hle havailable hrest =>
      simp [confirmationEvent, cancellationEvent, makeOrderEvent, makeTradeEvent]

theorem enterDay_succeeds {snapshot : OrderSnapshot} :
    ∀ e ∈ (enterDay cfg env snapshot st).1, e.errorCode = 0 := by
  simp only [enterDay]
  split
  · simp [makeOrderEvent]
  · intro e he
    rcases List.mem_cons.mp he with rfl | he
    · rfl
    · exact fillOpenOrderLocked_succeeds e he

theorem carriedOut_of_confirms {r : List EngineEvent × EngineState} {snapshot : OrderSnapshot}
    (hcode : (confirmationEvent snapshot).txnCode = op.confirmedBy)
    (hfirst : ∃ rest, r.1 = confirmationEvent snapshot :: rest)
    (hall : ∀ e ∈ r.1, e.errorCode = 0) : CarriedOut op r := by
  obtain ⟨rest, hrest⟩ := hfirst
  rw [hrest] at hall
  exact ⟨_, rest, hrest, hcode, hall⟩

theorem onNewOrder_answer (request : OrderEntryRequestPayload) :
    Refused st (.newOrder env request s session) (onNewOrder cfg env request s session st) ∨
      CarriedOut (.newOrder env request s session) (onNewOrder cfg env request s session st) := by
  simp only [onNewOrder]
  split
  · exact .inl ⟨_, _, kErrorUnsupportedOrder_ne_zero, rfl, rfl⟩
  · split
    · exact .inl ⟨_, _, kErrorUnsupportedToken_ne_zero, rfl, rfl⟩
    · refine .inr ?_
      split
      · refine carriedOut_of_confirms rfl ⟨_, rfl⟩ ?_
        simp [enterImmediate, makeOrderEvent, makeTradeEvent]
      · split
        · exact carriedOut_of_confirms rfl (enterIoc_confirms env _) enterIoc_succeeds
        · exact carriedOut_of_confirms rfl (enterDay_confirms env _) enterDay_succeeds

theorem onModifyOrder_answer (request : OrderUpdateRequestPayload) :
    Refused st (.modifyOrder env request s session) (onModifyOrder cfg env request s session st) ∨
      CarriedOut (.modifyOrder env request s session)
        (onModifyOrder cfg env request s session st) := by
  simp only [onModifyOrder]
  split
  · exact .inl ⟨_, _, kErrorUnsupportedOrder_ne_zero, rfl, rfl⟩
  · split
    · exact .inl ⟨_, _, kErrorUnknownOrder_ne_zero, rfl, rfl⟩
    · split
      · exact .inl ⟨_, _, kErrorUnknownOrder_ne_zero, rfl, rfl⟩
      · split
        · exact .inl ⟨_, _, kErrorUnsupportedOrder_ne_zero, rfl, rfl⟩
        · refine .inr ?_
          split
          · exact ⟨_, _, rfl, rfl, by simp [makeOrderEvent]⟩
          · refine ⟨_, _, rfl, rfl, fun e he => ?_⟩
            rcases List.mem_cons.mp he with rfl | he
            · rfl
            · exact fillOpenOrderLocked_succeeds e he

theorem onCancelOrder_answer (request : OrderUpdateRequestPayload) :
    Refused st (.cancelOrder env request s session) (onCancelOrder env request s session st) ∨
      CarriedOut (.cancelOrder env request s session) (onCancelOrder env request s session st) := by
  simp only [onCancelOrder]
  split
  · exact .inl ⟨_, _, kErrorUnsupportedOrder_ne_zero, rfl, rfl⟩
  · split
    · exact .inl ⟨_, _, kErrorUnknownOrder_ne_zero, rfl, rfl⟩
    · split
      · exact .inl ⟨_, _, kErrorUnknownOrder_ne_zero, rfl, rfl⟩
      · exact .inr ⟨_, _, rfl, rfl, by simp [makeOrderEvent]⟩

theorem engine_answer (hop : op.client = some (s, session)) :
    Refused st op (engine cfg st op) ∨ CarriedOut op (engine cfg st op) := by
  cases op with
  | newOrder env request s' session' => exact onNewOrder_answer request
  | modifyOrder env request s' session' => exact onModifyOrder_answer request
  | cancelOrder env request s' session' => exact onCancelOrder_answer request
  | tbtOrder _ _ => cases hop
  | tbtTrade _ _ => cases hop
  | sessionClosed _ => cases hop

/-- An error event is the only event of its answer and leaves the state as it was, all counters and
indexes included; an answer without one starts with the confirmation of the request. -/
theorem rejections_atomic (cfg : EngineConfig) (st : EngineState)
    (hop : op.client = some (s, session)) :
    (∀ e ∈ (engine cfg st op).1, e.errorCode ≠ 0 → engine cfg st op = ([e], st)) ∧
      ((∀ e ∈ (engine cfg st op).1, e.errorCode = 0) →
        ∃ e rest, (engine cfg st op).1 = e :: rest ∧ e.txnCode = op.confirmedBy ∧
          e.errorCode = 0) := by
  have hanswer : Refused st op (engine cfg st op) ∨ CarriedOut op (engine cfg st op) :=
    engine_answer hop
  rcases hanswer with
    ⟨errorCode, e, hne, hrefusal, heq⟩ | ⟨e, rest, hes, hcode, hall⟩
  · rw [heq]
    refine ⟨fun e' he' _ => by rw [List.mem_singleton.mp he'], fun hzero => ?_⟩
    have hfail := hzero e List.mem_cons_self
    rw [Op.refusal_errorCode hrefusal] at hfail
    exact absurd hfail hne
  · rw [hes]
    exact ⟨fun e' he' hne => absurd (hall e' he') hne,
      fun _ => ⟨e, rest, rfl, hcode, hall e List.mem_cons_self⟩⟩

/-- The modification of an order that is not there. -/
def strayModify : Op :=
  .modifyOrder calm (modifyRequest 0x41086A0000000000 654321 1 40 15 10 990) 1 1

theorem rejections_atomic_stray :
    ∃ e, engine bookMatching bookMatching.init strayModify = ([e], bookMatching.init) := by
  obtain ⟨e, he⟩ := Option.isSome_iff_exists.mp
    (show (strayModify.refusal kErrorUnknownOrder).isSome = true from rfl)
  have hanswer : (engine bookMatching bookMatching.init strayModify).1 =
      (strayModify.refusal kErrorUnknownOrder).toList := by decide +kernel
  rw [he] at hanswer
  have hmem : e ∈ (engine bookMatching bookMatching.init strayModify).1 := by simp [hanswer]
  have hne : e.errorCode ≠ 0 := by
    rw [Op.refusal_errorCode he]
    exact kErrorUnknownOrder_ne_zero
  have hclient : strayModify.client = some (1, 1) := rfl
  exact ⟨e, (rejections_atomic bookMatching bookMatching.init hclient).1 e hmem hne⟩

end NseFoExchangeSim.Engine
