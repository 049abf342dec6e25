import NseFoExchangeSim.Lib.FirstEntry
import NseFoExchangeSim.Simulator.Tracked

/-!
# Filled orders of the earlier session

Every accepted order is filled at once, and its session answers every modification of it from the filled
order until a cancellation finds it; only then can a modification be confirmed. The ledger says where
each order of a session stands; it is read off what the session has done so far.
-/

namespace NseFoExchangeSim.Simulator

open Lib Protocol Engine

/-! ## The ledger -/

inductive Standing
  /-- The order is filled as it was accepted. -/
  | filled (order : OrderSnapshot)
  /-- A cancellation has found the order, or it is the order numbered 0, which is never marked. -/
  | released

/-- The orders of a session, by number. -/
abbrev Ledger := UInt64 → Option Standing

def Ledger.enter (l : Ledger) (number : UInt64) (standing : Standing) : Ledger :=
  Function.update l number (some standing)

def standingOf (order : OrderSnapshot) : Standing :=
  if order.exchangeOrderNumber = 0 then .released else .filled order

def Ledger.next (l : Ledger) : ReadyEvent → Ledger
  | .accepted order _ _ => l.enter order.exchangeOrderNumber (standingOf order)
  | .cancelled _ (some number) _ => l.enter number .released
  | _ => l

/-- The ledger of a session after all that the sessions have done. -/
def ledgerOf (session : Nat) (h : List (Nat × ReadyEvent)) : Ledger :=
  h.foldl (fun l e => if e.1 = session then l.next e.2 else l) fun _ => none

/-! ## What a session owes -/

/-- The state without the fields that a touch changes. -/
def TrackedOrderState.undated (order : TrackedOrderState) : TrackedOrderState :=
  { order with
    eventNanos := 0, eventSeconds := 0, lastModified := 0, entryDateTime := 0
    lastActivityReference := 0 }

/-- The state is that of the accepted order, filled, but for the times and the activity reference. -/
def ReportsFill (order : OrderSnapshot) (state : TrackedOrderState) : Prop :=
  state.undated = (filled (trackedOfSnapshot order)).undated

/-- A filled order under this filler comes with this number or a greater one. -/
def Ledger.FirstByFiller (l : Ledger) (filler : UInt32) (number : UInt64) : Prop :=
  ∀ n order, l n = some (.filled order) → order.clientOrderId = filler → number ≤ n

/-- How a request finds its order: by the number if the session has it, and else by the filler. -/
def Ledger.Finds (l : Ledger) (name : OrderName) : Option UInt64 → Prop
  | some n =>
      (n = name.number ∧ n ≠ 0) ∨
        ((name.number = 0 ∨ l name.number = none) ∧ name.filler ≠ 0 ∧
          (∀ order, l n = some (.filled order) → order.clientOrderId = name.filler) ∧
          l.FirstByFiller name.filler n)
  | none =>
      (name.number = 0 ∨ l name.number = none) ∧
        (name.filler ≠ 0 → ∀ n order, l n = some (.filled order) →
          order.clientOrderId ≠ name.filler)

/-- The codes of a response. -/
def HasCodes (response : OrderConfirmationPayload) (txnCode errorCode : UInt16) : Prop :=
  response.transactionCode = byteswap txnCode ∧ response.errorCode = byteswap errorCode

section Owed

variable (config : Config)

/-- The answer to a modification that found the order where it stands. -/
def AnswersModification (response : OrderConfirmationPayload) : Option Standing → Prop
  | some (.filled order) =>
      ∃ state, ReportsFill order state ∧
        response = sendTrackedOrderResponse config state kTxnOrderModificationErrorTrimmed
          kErrorOrderAlreadyFilled 0
  | some .released =>
      HasCodes response kTxnOrderModificationConfirmationTrimmed 0 ∨
        HasCodes response kTxnOrderModificationErrorTrimmed kErrorOrderAlreadyFilled
  | none => False

/-- What a session does agrees with its ledger. -/
def AnsweredFrom (l : Ledger) : ReadyEvent → Prop
  | .modified name (some n) response =>
      l.Finds name (some n) ∧ AnswersModification config response (l n)
  | .modified name none response =>
      l.Finds name none ∧ HasCodes response kTxnOrderModificationErrorTrimmed kErrorUnknownOrder
  | .cancelled name (some n) response =>
      l.Finds name (some n) ∧ l n ≠ none ∧
        HasCodes response kTxnOrderCancellationConfirmationTrimmed 0
  | .cancelled name none response =>
      l.Finds name none ∧ HasCodes response kTxnOrderCancellationErrorTrimmed kErrorUnknownOrder
  | .accepted order confirmation trade =>
      confirmation = sendOrderResponse config order kTxnOrderConfirmationTrimmed 0 ∧
        trade = sendTradeResponse config order ∧ 0 < order.volume
  | .refused response => HasCodes response kTxnOrderErrorTrimmed kErrorUnsupportedOrder
  | .direct _ | .ended _ => True

end Owed

/-! ## Tracked orders and their ledger -/

/-- The session tracks exactly the orders of the ledger, the filled ones as filled. -/
structure Holds (l : Ledger) (orders : TrackedOrders) : Prop where
  tracked : ∀ n, l n = none ↔ orders[n]? = none
  filled : ∀ n order, l n = some (.filled order) →
    0 < order.volume ∧ ∃ state, orders[n]? = some state ∧ ReportsFill order state

section Touch

variable {order : OrderSnapshot} {state : TrackedOrderState} (now : ClockReading) (reference : UInt64)

theorem undated_touch : (touchTrackedOrder now reference state).undated = state.undated := rfl

theorem ReportsFill.touch (h : ReportsFill order state) :
    ReportsFill order (touchTrackedOrder now reference state) :=
  (undated_touch now reference).trans h

theorem ReportsFill.filler (h : ReportsFill order state) : state.filler = order.clientOrderId :=
  congrArg TrackedOrderState.filler h

theorem ReportsFill.remaining (h : ReportsFill order state) : state.totalVolumeRemaining = 0 :=
  congrArg TrackedOrderState.totalVolumeRemaining h

theorem ReportsFill.emitted (h : ReportsFill order state) (hpos : 0 < order.volume) :
    hasEmittedFill state = true := by
  have htotal : state.totalVolume = order.volume := congrArg TrackedOrderState.totalVolume h
  have htoday : state.volumeFilledToday = order.volume :=
    congrArg TrackedOrderState.volumeFilledToday h
  simp [hasEmittedFill, h.remaining, htotal, htoday, hpos]

end Touch

section Holds

variable {l : Ledger} {orders : TrackedOrders} {n : UInt64} {state new : TrackedOrderState}

/-- A new state under a number whose order the session tracks. -/
theorem Holds.replace (h : Holds l orders) (hn : orders[n]? = some state)
    (hnew : ∀ order, l n = some (.filled order) → ReportsFill order state → ReportsFill order new) :
    Holds l (orders.insert n new) := by
  constructor
  · intro m
    rw [Std.ExtTreeMap.getElem?_insert]
    split
    · rename_i heq
      cases Std.LawfulEqOrd.eq_of_compare heq
      simp [h.tracked, hn]
    · exact h.tracked m
  · intro m order hm
    obtain ⟨hpos, old, hold, hreports⟩ := h.filled m order hm
    refine ⟨hpos, ?_⟩
    rw [Std.ExtTreeMap.getElem?_insert]
    split
    · rename_i heq
      cases Std.LawfulEqOrd.eq_of_compare heq
      rw [hn] at hold
      cases hold
      exact ⟨new, rfl, hnew order hm hreports⟩
    · exact ⟨old, hold, hreports⟩

/-- The order under a number stands anew. -/
theorem Holds.enter (h : Holds l orders) (standing : Standing)
    (hnew : ∀ order, standing = .filled order → 0 < order.volume ∧ ReportsFill order new) :
    Holds (l.enter n standing) (orders.insert n new) := by
  constructor
  · intro m
    rw [Std.ExtTreeMap.getElem?_insert, Ledger.enter]
    by_cases hm : m = n
    · simp [hm]
    · rw [Function.update_of_ne hm, if_neg (by simpa using Ne.symm hm)]
      exact h.tracked m
  · intro m order hstands
    rw [Ledger.enter] at hstands
    rw [Std.ExtTreeMap.getElem?_insert]
    by_cases hm : m = n
    · rw [hm, Function.update_self, Option.some.injEq] at hstands
      obtain ⟨hpos, hreports⟩ := hnew order hstands
      exact ⟨hpos, new, by simp [hm], hreports⟩
    · rw [Function.update_of_ne hm] at hstands
      rw [if_neg (by simpa using Ne.symm hm)]
      exact h.filled m order hstands

theorem Holds.of_find (h : Holds l orders) (hn : orders[n]? = some state) {order : OrderSnapshot}
    (hl : l n = some (.filled order)) : 0 < order.volume ∧ ReportsFill order state := by
  obtain ⟨hpos, old, hold, hreports⟩ := h.filled n order hl
  rw [hn] at hold
  cases hold
  exact ⟨hpos, hreports⟩

/-! ## The search -/

variable {name : OrderName}

theorem Holds.findByFiller_some (h : Holds l orders)
    (hf : findByFiller orders name.filler = some (n, state)) :
    orders[n]? = some state ∧ name.filler ≠ 0 ∧
      (∀ order, l n = some (.filled order) → order.clientOrderId = name.filler) ∧
      l.FirstByFiller name.filler n := by
  rw [findByFiller] at hf
  split at hf
  · cases hf
  · rename_i hfiller
    obtain ⟨hget, hsame, hleast⟩ := find?_toList_eq_some hf
    rw [beq_iff_eq] at hsame
    refine ⟨hget, hfiller, fun order hl => ?_, fun m order hm hclient => ?_⟩
    · rw [← (h.of_find hget hl).2.filler, hsame]
    · obtain ⟨_, old, hold, hreports⟩ := h.filled m order hm
      by_contra hlt
      have hother := hleast m old hold (Std.compare_eq_lt.mpr (UInt64.not_le.mp hlt))
      rw [hreports.filler, hclient] at hother
      simp at hother

theorem Holds.findByFiller_none (h : Holds l orders) (hf : findByFiller orders name.filler = none) :
    name.filler ≠ 0 → ∀ m order, l m = some (.filled order) → order.clientOrderId ≠ name.filler := by
  intro hfiller m order hm hclient
  rw [findByFiller, if_neg hfiller] at hf
  obtain ⟨_, old, hold, hreports⟩ := h.filled m order hm
  have hother := find?_toList_eq_none hf hold
  rw [hreports.filler, hclient] at hother
  simp at hother

/-- The search finds what the ledger says, and a state the session tracks. -/
theorem Holds.finds (h : Holds l orders) :
    match findTrackedOrder orders name.number name.filler with
    | some (n, state) => orders[n]? = some state ∧ l.Finds name (some n)
    | none => l.Finds name none := by
  by_cases hzero : name.number = 0
  · cases hf : findByFiller orders name.filler with
    | none =>
        simp only [findTrackedOrder, hzero, ne_eq, not_true_eq_false, if_false, hf]
        exact ⟨.inl hzero, h.findByFiller_none hf⟩
    | some entry =>
        simp only [findTrackedOrder, hzero, ne_eq, not_true_eq_false, if_false, hf]
        obtain ⟨hget, hfiller, hsame, hleast⟩ := h.findByFiller_some hf
        exact ⟨hget, .inr ⟨.inl hzero, hfiller, hsame, hleast⟩⟩
  · cases hget : orders[name.number]? with
    | some state =>
        simp only [findTrackedOrder, ne_eq, hzero, not_false_eq_true, if_true, hget]
        exact ⟨trivial, .inl ⟨rfl, hzero⟩⟩
    | none =>
        have hnone : l name.number = none := (h.tracked _).mpr hget
        cases hf : findByFiller orders name.filler with
        | none =>
            simp only [findTrackedOrder, ne_eq, hzero, not_false_eq_true, if_true, hget, hf]
            exact ⟨.inr hnone, h.findByFiller_none hf⟩
        | some entry =>
            simp only [findTrackedOrder, ne_eq, hzero, not_false_eq_true, if_true, hget, hf]
            obtain ⟨hfound, hfiller, hsame, hleast⟩ := h.findByFiller_some hf
            exact ⟨hfound, .inr ⟨.inr hnone, hfiller, hsame, hleast⟩⟩

theorem Holds.finds_some (h : Holds l orders)
    (hf : findTrackedOrder orders name.number name.filler = some (n, state)) :
    orders[n]? = some state ∧ l.Finds name (some n) := by
  have hfinds := @Holds.finds _ _ name h
  rw [hf] at hfinds
  exact hfinds

theorem Holds.finds_none (h : Holds l orders)
    (hf : findTrackedOrder orders name.number name.filler = none) : l.Finds name none := by
  have hfinds := @Holds.finds _ _ name h
  rw [hf] at hfinds
  exact hfinds

theorem Holds.standing (h : Holds l orders) (hn : orders[n]? = some state) : l n ≠ none := by
  intro hnone
  rw [(h.tracked n).mp hnone] at hn
  cases hn

end Holds

/-! ## One payload -/

section Payload

variable {config : Config} {l : Ledger} {env : ReadyEnv} {payload : List UInt8} {engine : FillEngine}
  {session : SessionConnection} {orders : TrackedOrders}

/-- What a payload leaves behind: everything done agrees with the ledger, which the session's orders
then hold. -/
def Kept (config : Config) (l : Ledger) : ReadyResult → Prop
  | .error _ => True
  | .ok (events, _, session) =>
      InContext (fun before e => AnsweredFrom config (before.foldl Ledger.next l) e) events ∧
        Holds (events.foldl Ledger.next l) session.trackedOrders

theorem kept_nothing (h : Holds l session.trackedOrders) :
    Kept config l (.ok ([], engine, session)) := ⟨inContext_nil, h⟩

theorem kept_one {e : ReadyEvent} (he : AnsweredFrom config l e)
    (h : Holds (l.next e) session.trackedOrders) : Kept config l (.ok ([e], engine, session)) :=
  ⟨InContext.cons he inContext_nil, h⟩

theorem kept_direct (h : Holds l session.trackedOrders) (message : Server.Message) :
    Kept config l (.ok ([.direct message], engine, session)) := kept_one trivial h

/-- Both forms of a modification. -/
theorem modifyTracked_keeps {name : OrderName} {reference : UInt64} {fallback : TrackedOrderState}
    {apply : TrackedOrderState → TrackedOrderState} (h : Holds l session.trackedOrders) :
    Kept config l
      (.ok ([(modifyTracked config env session name reference fallback apply).1], engine,
        session.track (modifyTracked config env session name reference fallback apply).2)) := by
  cases hf : findTrackedOrder session.trackedOrders name.number name.filler with
  | none =>
      simp only [modifyTracked, hf]
      exact kept_one ⟨h.finds_none hf, rfl, rfl⟩ h
  | some entry =>
      obtain ⟨n, state⟩ := entry
      obtain ⟨hget, hfinds⟩ := h.finds_some hf
      by_cases hemitted : hasEmittedFill state = true
      · simp only [modifyTracked, hf, hemitted, if_true]
        refine kept_one ⟨hfinds, ?_⟩ (h.replace hget fun _ _ => .touch _ _)
        cases hl : l n with
        | none => exact absurd hl (h.standing hget)
        | some standing =>
            cases standing with
            | released => exact .inr ⟨rfl, rfl⟩
            | filled order =>
                have hreports := (h.of_find hget hl).2.touch env.now reference
                exact ⟨_, hreports, by rw [sendFilledModificationError, hreports.remaining]⟩
      · simp only [modifyTracked, hf, hemitted]
        have hreleased : ∀ order, l n ≠ some (.filled order) := by
          intro order hl
          obtain ⟨hpos, hreports⟩ := h.of_find hget hl
          exact hemitted (hreports.emitted hpos)
        refine kept_one ⟨hfinds, ?_⟩ (h.replace hget fun order hl => absurd hl (hreleased order))
        cases hl : l n with
        | none => exact absurd hl (h.standing hget)
        | some standing =>
            cases standing with
            | released => exact .inl ⟨rfl, rfl⟩
            | filled order => exact absurd hl (hreleased order)

theorem handlePriceVolumeModificationRequest_keeps (h : Holds l session.trackedOrders) :
    Kept config l (handlePriceVolumeModificationRequest config env payload engine session) := by
  rw [handlePriceVolumeModificationRequest]
  split
  · trivial
  · exact modifyTracked_keeps h

theorem handleTrimmedModificationRequest_keeps (h : Holds l session.trackedOrders) :
    Kept config l (handleTrimmedModificationRequest config env payload engine session) := by
  rw [handleTrimmedModificationRequest]
  split
  · trivial
  · exact modifyTracked_keeps h

theorem handleTrimmedCancellationRequest_keeps (h : Holds l session.trackedOrders) :
    Kept config l (handleTrimmedCancellationRequest config env payload engine session) := by
  rw [handleTrimmedCancellationRequest]
  split
  · trivial
  · dsimp only
    split
    · rename_i hf
      exact kept_one ⟨h.finds_none hf, rfl, rfl⟩ h
    · rename_i n state hf
      obtain ⟨hget, hfinds⟩ := @Holds.finds_some _ _ _ _ ⟨_, _⟩ h hf
      exact kept_one ⟨hfinds, h.standing hget, rfl, rfl⟩
        (h.enter .released fun order heq => by cases heq)

/-- An accepted order is tracked as filled, unless its number is 0. -/
theorem Holds.accept (h : Holds l orders) {order : OrderSnapshot} (hpos : 0 < order.volume) :
    Holds (l.enter order.exchangeOrderNumber (standingOf order))
      (markOrderFilled order.exchangeOrderNumber (rememberAcceptedOrder order orders)) := by
  have hget : (rememberAcceptedOrder order orders)[order.exchangeOrderNumber]? =
      some (trackedOfSnapshot order) := by simp [rememberAcceptedOrder]
  by_cases hzero : order.exchangeOrderNumber = 0
  · have hfind : findTrackedOrder (rememberAcceptedOrder order orders) order.exchangeOrderNumber 0 =
        none := by simp [findTrackedOrder, findByFiller, hzero]
    rw [markOrderFilled, hfind, standingOf, if_pos hzero]
    exact h.enter .released fun _ heq => by cases heq
  · have hfind : findTrackedOrder (rememberAcceptedOrder order orders) order.exchangeOrderNumber 0 =
        some (order.exchangeOrderNumber, trackedOfSnapshot order) := by
      simp [findTrackedOrder, hzero, hget]
    rw [markOrderFilled, hfind, standingOf, if_neg hzero]
    have hagain : ∀ state : TrackedOrderState,
        (rememberAcceptedOrder order orders).insert order.exchangeOrderNumber state =
          orders.insert order.exchangeOrderNumber state := by
      intro state
      apply Std.ExtTreeMap.ext_getElem?
      intro m
      simp only [rememberAcceptedOrder, Std.ExtTreeMap.getElem?_insert]
      split <;> rfl
    dsimp only
    rw [hagain]
    exact h.enter _ fun _ heq => by
      cases heq
      exact ⟨hpos, rfl⟩

theorem handleOrderEntry_keeps (h : Holds l session.trackedOrders) :
    Kept config l (handleOrderEntry config env payload engine session) := by
  rw [handleOrderEntry]
  split
  · trivial
  · by_cases hreq : FillEngine.unsupported (.ofBytes payload) = true
    · simp only [FillEngine.acceptLimitOrder, hreq, if_true]
      exact kept_one ⟨rfl, rfl⟩ h
    · simp only [FillEngine.acceptLimitOrder, hreq]
      have hpos : 0 < byteswap (OrderEntryRequestPayload.ofBytes payload).volume := by
        rw [UInt32.pos_iff_ne_zero]
        intro hzero
        simp [FillEngine.unsupported, hzero] at hreq
      exact kept_one ⟨rfl, rfl, hpos⟩ (h.accept hpos)

theorem handlePayload_keeps (h : Holds l session.trackedOrders) :
    Kept config l (handlePayload config env payload engine session) := by
  rw [handlePayload]
  split
  · trivial
  · rw [handleReadyPayload]
    split_ifs
    · trivial
    · exact kept_direct h _
    · trivial
    · exact kept_direct h _
    · trivial
    · exact kept_direct h _
    · exact kept_nothing h
    · exact handlePriceVolumeModificationRequest_keeps h
    · exact handleTrimmedModificationRequest_keeps h
    · exact handleTrimmedCancellationRequest_keeps h
    · exact handleOrderEntry_keeps h
    · trivial

end Payload

/-! ## Runs -/

section Runs

variable {config : Config} {h : List (Nat × ReadyEvent)} {s : ReadySessions}

/-- Every session's orders hold its ledger. -/
def Agrees (h : List (Nat × ReadyEvent)) (s : ReadySessions) : Prop :=
  ∀ i, Holds (ledgerOf i h) (s.session i).trackedOrders

theorem ledgerOf_append_same (i : Nat) (h : List (Nat × ReadyEvent)) (events : List ReadyEvent) :
    ledgerOf i (h ++ events.map (i, ·)) = events.foldl Ledger.next (ledgerOf i h) := by
  simp [ledgerOf, List.foldl_append, List.foldl_map]

theorem ledgerOf_append_other {i j : Nat} (hne : j ≠ i) (h : List (Nat × ReadyEvent))
    (events : List ReadyEvent) : ledgerOf i (h ++ events.map (j, ·)) = ledgerOf i h := by
  rw [ledgerOf, List.foldl_append, List.foldl_map]
  induction events with
  | nil => rfl
  | cons e events ih => simpa [hne] using ih

/-- A run in which every answer agrees with the ledger of its session. -/
def Answers (config : Config) (h : List (Nat × ReadyEvent)) : Prop :=
  InContext (fun before e => AnsweredFrom config (ledgerOf e.1 before) e.2) h

theorem answers_turn (hh : Answers config h) {i : Nat} {events : List ReadyEvent}
    (hevents : InContext
      (fun before e => AnsweredFrom config (before.foldl Ledger.next (ledgerOf i h)) e) events) :
    Answers config (h ++ events.map (i, ·)) := by
  apply hh.append
  intro before e after heq
  obtain ⟨first, rest, hsplit, hbefore, hrest⟩ := List.map_eq_append_iff.mp heq
  obtain ⟨e', after', rfl, rfl, -⟩ := List.map_eq_cons_iff.mp hrest
  rw [← hbefore, ledgerOf_append_same]
  exact hevents first e' after' hsplit

theorem agrees_turn (hagrees : Agrees h s) {i : Nat} {events : List ReadyEvent}
    {engine : FillEngine} {session : SessionConnection}
    (hsession : Holds (events.foldl Ledger.next (ledgerOf i h)) session.trackedOrders) :
    Agrees (h ++ events.map (i, ·)) { engine, session := Function.update s.session i session } := by
  intro j
  dsimp only
  by_cases hj : j = i
  · rw [hj, ledgerOf_append_same, Function.update_self]
    exact hsession
  · rw [ledgerOf_append_other (Ne.symm hj), Function.update_of_ne hj]
    exact hagrees j

/-- A turn of any session keeps the agreement, and what it does agrees with the ledgers. -/
theorem readySessions_step (arrival : Arrival) (hagrees : Agrees h s) (hh : Answers config h) :
    Agrees (h ++ (readySessions config s arrival).1) (readySessions config s arrival).2 ∧
      Answers config (h ++ (readySessions config s arrival).1) := by
  simp only [readySessions]
  split
  · rw [List.append_nil]
    exact ⟨hagrees, hh⟩
  · have hkept := @handlePayload_keeps config _ arrival.env arrival.payload s.engine _
      (hagrees arrival.session)
    split
    · rename_i what _
      have hended : Kept config (ledgerOf arrival.session h)
          (.ok ([.ended what], s.engine, { s.session arrival.session with ended := true })) :=
        kept_one trivial (hagrees arrival.session)
      exact ⟨agrees_turn hagrees hended.2, answers_turn hh hended.1⟩
    · rename_i events engine session hdone
      rw [hdone] at hkept
      exact ⟨agrees_turn hagrees hkept.2, answers_turn hh hkept.1⟩

theorem holds_nothing : Holds (fun _ => none) ∅ := by
  constructor
  · intro n
    simp
  · intro n order hl
    cases hl

theorem run_answers (r : Run (readySessions config) anyCall (ReadySessions.init config) h s) :
    Agrees h s ∧ Answers config h := by
  refine Run.invariant (P := fun h s => Agrees h s ∧ Answers config h) ?_ ?_ r
  · exact ⟨fun _ => holds_nothing, inContext_nil⟩
  · intro h s arrival _ hp _
    exact readySessions_step arrival hp.1 hp.2

end Runs

/-- In every order in which any sessions receive any payloads, every answer agrees with the ledger of its
session at that point: a modification of an order that was accepted and that no cancellation has found
since is answered from the filled order, in either form of the request. -/
theorem modifications_answered_from_fill (config : Config) (arrivals : List Arrival) :
    Answers config (exec (readySessions config) (ReadySessions.init config) arrivals).1 :=
  (run_answers (run_exec _ _ arrivals)).2

end NseFoExchangeSim.Simulator
