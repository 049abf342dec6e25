import NseFoExchangeSim.Engine.Lemmas.State

/-!
# What a client's request comes to

A request is turned down with one error and leaves the state alone, or it is carried out in one of a
few ways. Each outcome goes with the label of its call; the later modules read the three operations of a
client through these lemmas only.
-/

namespace NseFoExchangeSim.Engine

open Protocol

variable (cfg : EngineConfig) (env : CallEnv) (st : EngineState) (sessionId : UInt64)
  (session : SessionRef)

/-- The outcomes of `onNewOrder`, with the label of the call. -/
inductive EntryOutcome : Label → List EngineEvent × EngineState → Prop
  | rejected {e} (he : e.errorCode ≠ 0) : EntryOutcome .other ([e], st)
  | immediate {snapshot} (ha : Accepted cfg st snapshot) (hmd : cfg.marketDataEnabled = false) :
      EntryOutcome (.accept snapshot)
        (enterImmediate env snapshot (acceptedState cfg snapshot.token st))
  | ioc {snapshot} (ha : Accepted cfg st snapshot) (hmd : cfg.marketDataEnabled = true)
      (hioc : snapshot.ioc = true) :
      EntryOutcome (.accept snapshot)
        (enterIoc cfg env snapshot (acceptedState cfg snapshot.token st))
  | day {snapshot} (ha : Accepted cfg st snapshot) (hmd : cfg.marketDataEnabled = true)
      (hday : snapshot.ioc = false) :
      EntryOutcome (.accept snapshot)
        (enterDay cfg env snapshot (acceptedState cfg snapshot.token st))

/-- The outcomes of `enterIoc`. -/
inductive IocOutcome (snapshot : OrderSnapshot) : List EngineEvent × EngineState → Prop
  | unfilled (now) :
      IocOutcome snapshot
        ([confirmationEvent snapshot, cancellationEvent (nextCancel st snapshot now)],
          drawReference st)
  | filled {top quantity} (now) (htop : matchTopLocked cfg st snapshot = some top)
      (hpos : 0 < quantity) (hle : quantity ≤ snapshot.totalVolumeRemaining)
      (havailable : quantity ≤ top.quantity)
      (hrest : (nextFill st snapshot quantity now).totalVolumeRemaining = 0) :
      IocOutcome snapshot
        ([confirmationEvent snapshot,
            makeTradeEvent (nextFill st snapshot quantity now) top.price quantity],
          drawFillNumbers st)
  | partFilled {top quantity} (now now') (htop : matchTopLocked cfg st snapshot = some top)
      (hpos : 0 < quantity) (hle : quantity ≤ snapshot.totalVolumeRemaining)
      (havailable : quantity ≤ top.quantity)
      (hrest : 0 < (nextFill st snapshot quantity now).totalVolumeRemaining) :
      IocOutcome snapshot
        ([confirmationEvent snapshot,
            makeTradeEvent (nextFill st snapshot quantity now) top.price quantity,
            cancellationEvent
              (nextCancel (drawFillNumbers st) (nextFill st snapshot quantity now) now')],
          drawReference (drawFillNumbers st))

/-- The live order after a modification that a call carries out. -/
def modifiedBy (live request : OrderSnapshot) : OrderSnapshot :=
  modifySnapshot live request st.nextLastActivityReference (env.clock 0)

/-- The state in which it is looked at for a match. -/
def modifiedState (live request : OrderSnapshot) : EngineState :=
  { drawReference st with openOrders := st.openOrders.put (modifiedBy env st live request) }

/-- The outcomes of `onModifyOrder`, with the label of the call. -/
inductive ModifyOutcome : Label → List EngineEvent × EngineState → Prop
  | rejected {e} (he : e.errorCode ≠ 0) : ModifyOutcome .other ([e], st)
  | unmatched {request live} (hm : Modifies st request live)
      (htop : matchTopLocked cfg st (modifiedBy env st live request) = none) :
      ModifyOutcome (.modify request)
        ([modificationEvent (modifiedBy env st live request)], modifiedState env st live request)
  | matched {request live top} (hm : Modifies st request live)
      (htop : matchTopLocked cfg st (modifiedBy env st live request) = some top) :
      ModifyOutcome (.modify request)
        ([modificationEvent (modifiedBy env st live request)] ++
          (fillOpenOrderLocked env (env.clock 1) live.exchangeOrderNumber top.price top.quantity
            (modifiedState env st live request)).1,
          (fillOpenOrderLocked env (env.clock 1) live.exchangeOrderNumber top.price top.quantity
            (modifiedState env st live request)).2)

/-- The outcomes of `onCancelOrder`. -/
inductive CancelOutcome : List EngineEvent × EngineState → Prop
  | rejected {e} (he : e.errorCode ≠ 0) : CancelOutcome ([e], st)
  | cancelled {live} (hlive : st.openOrders.find? live.exchangeOrderNumber = some live)
      (hsession : live.sessionId = sessionId) :
      CancelOutcome
        ([cancellationEvent (nextCancel st live (env.clock 0))],
          eraseOpenOrderLocked (.copy (nextCancel st live (env.clock 0))) (drawReference st))

theorem kErrorUnsupportedOrder_ne_zero : kErrorUnsupportedOrder ≠ 0 := by decide

theorem kErrorUnknownOrder_ne_zero : kErrorUnknownOrder ≠ 0 := by decide

theorem kErrorUnsupportedToken_ne_zero : kErrorUnsupportedToken ≠ 0 := by decide

/-! ## Labels -/

section Labels

variable {cfg st} {op : Op}

/-- Only an entry request is labelled with an accepted order. -/
theorem label_eq_accept {snapshot : OrderSnapshot} (hl : label cfg st op = .accept snapshot) :
    ∃ env request sessionId session, op = .newOrder env request sessionId session ∧
      snapshot = acceptedSnapshot env (buildSnapshotFromEntryRequest request sessionId session) st := by
  cases op with
  | newOrder env request sessionId session =>
      simp only [label] at hl
      split at hl
      · cases hl
        exact ⟨env, request, sessionId, session, rfl, rfl⟩
      · cases hl
  | modifyOrder env request sessionId session =>
      simp only [label] at hl
      split at hl <;> cases hl
  | cancelOrder _ _ _ _ => cases hl
  | tbtOrder _ _ => cases hl
  | tbtTrade _ _ => cases hl
  | sessionClosed _ => cases hl

/-- Only a modification request is labelled with a modification. -/
theorem label_eq_modify {requestSnapshot : OrderSnapshot}
    (hl : label cfg st op = .modify requestSnapshot) :
    ∃ env request sessionId session, op = .modifyOrder env request sessionId session ∧
      requestSnapshot = updateRequestSnapshot env request sessionId session := by
  cases op with
  | newOrder env request sessionId session =>
      simp only [label] at hl
      split at hl <;> cases hl
  | modifyOrder env request sessionId session =>
      simp only [label] at hl
      split at hl
      · cases hl
        exact ⟨env, request, sessionId, session, rfl, rfl⟩
      · cases hl
  | cancelOrder _ _ _ _ => cases hl
  | tbtOrder _ _ => cases hl
  | tbtTrade _ _ => cases hl
  | sessionClosed _ => cases hl

end Labels

/-! ## Order entry -/

theorem onNewOrder_outcome (request : OrderEntryRequestPayload) :
    EntryOutcome cfg env st (label cfg st (.newOrder env request sessionId session))
      (onNewOrder cfg env request sessionId session st) := by
  simp only [label, onNewOrder]
  cases hvalid : isValidNewOrder (buildSnapshotFromEntryRequest request sessionId session) request with
  | false => exact .rejected kErrorUnsupportedOrder_ne_zero
  | true =>
      cases htrack : canTrackTokenLocked cfg st
          (buildSnapshotFromEntryRequest request sessionId session).token with
      | false =>
          have hmd : cfg.marketDataEnabled = true := by
            cases hmd : cfg.marketDataEnabled with
            | true => rfl
            | false => simp [canTrackTokenLocked, hmd] at htrack
          simp only [hmd]
          exact .rejected kErrorUnsupportedToken_ne_zero
      | true =>
          have ha : Accepted cfg st (acceptedSnapshot env
              (buildSnapshotFromEntryRequest request sessionId session) st) :=
            ⟨env, request, sessionId, session, rfl, hvalid, htrack⟩
          cases hmd : cfg.marketDataEnabled with
          | false => exact .immediate ha hmd
          | true =>
              cases hioc : (acceptedSnapshot env
                  (buildSnapshotFromEntryRequest request sessionId session) st).ioc with
              | true => exact .ioc ha hmd hioc
              | false => exact .day ha hmd hioc

theorem enterIoc_outcome (snapshot : OrderSnapshot) :
    IocOutcome cfg st snapshot (enterIoc cfg env snapshot st) := by
  unfold enterIoc
  cases htop : matchTopLocked cfg st snapshot with
  | none => exact .unfilled (env.clock 1)
  | some top =>
      have hle := umin_le_left snapshot.totalVolumeRemaining top.quantity
      have havailable := umin_le_right snapshot.totalVolumeRemaining top.quantity
      simp only []
      split
      · rename_i hpos
        split
        · rename_i hrest
          exact .partFilled (env.clock 1) (env.clock 2) htop hpos hle havailable hrest
        · rename_i hrest
          have hzero : (nextFill st snapshot (min snapshot.totalVolumeRemaining top.quantity)
              (env.clock 1)).totalVolumeRemaining = 0 := by
            by_contra hne
            exact hrest (UInt32.pos_iff_ne_zero.mpr hne)
          exact .filled (env.clock 1) htop hpos hle havailable hzero
      · exact .unfilled (env.clock 1)

/-! ## Modification -/

theorem modifies_iff {request : OrderSnapshot}
    (hvalid : ∃ wire, isValidModifyRequest request wire) {live : OrderSnapshot}
    (hlive : st.openOrders.find? request.exchangeOrderNumber = some live) :
    Modifies st request live ↔ modifiable st request = true := by
  simp only [Modifies, modifiable, hvalid, hlive, true_and, Bool.and_eq_true, beq_iff_eq,
    Bool.not_eq_true', and_assoc]

theorem onModifyOrder_outcome (request : OrderUpdateRequestPayload) :
    ModifyOutcome cfg env st (label cfg st (.modifyOrder env request sessionId session))
      (onModifyOrder cfg env request sessionId session st) := by
  simp only [label, onModifyOrder]
  cases hvalid : isValidModifyRequest (updateRequestSnapshot env request sessionId session)
      request with
  | false => exact .rejected kErrorUnsupportedOrder_ne_zero
  | true =>
      cases hlive : st.openOrders.find?
          (updateRequestSnapshot env request sessionId session).exchangeOrderNumber with
      | none =>
          simp only [modifiable, hlive]
          exact .rejected kErrorUnknownOrder_ne_zero
      | some live =>
          have hiff := modifies_iff st ⟨request, hvalid⟩ hlive
          cases hm : modifiable st (updateRequestSnapshot env request sessionId session) with
          | true =>
              obtain ⟨_, _, hsession, htoken, hside, hbook, hioc⟩ := hiff.mpr hm
              have hses : live.sessionId = sessionId := hsession
              simp only [Bool.not_true, Bool.and_true, hses, htoken, hside, hbook, hioc, ne_eq,
                not_true_eq_false, if_false, if_true, or_self, Bool.false_eq_true]
              split
              · rename_i htop
                exact .unmatched (hiff.mpr hm) htop
              · rename_i top htop
                exact .matched (hiff.mpr hm) htop
          | false =>
              simp only [Bool.not_true, Bool.and_false, Bool.false_eq_true, if_false]
              split
              · exact .rejected kErrorUnknownOrder_ne_zero
              · rename_i hsession
                split
                · exact .rejected kErrorUnsupportedOrder_ne_zero
                · rename_i hsame
                  simp only [not_or, ne_eq, not_not, Bool.not_eq_true] at hsession hsame
                  rw [hiff.mp ⟨⟨request, hvalid⟩, hlive, hsession, hsame.1, hsame.2.1, hsame.2.2.1,
                    hsame.2.2.2⟩] at hm
                  cases hm

/-! ## Cancellation -/

theorem onCancelOrder_outcome (request : OrderUpdateRequestPayload) :
    CancelOutcome env st sessionId (onCancelOrder env request sessionId session st) := by
  simp only [onCancelOrder]
  split
  · exact .rejected kErrorUnsupportedOrder_ne_zero
  · cases hlive : st.openOrders.find?
        (updateRequestSnapshot env request sessionId session).exchangeOrderNumber with
    | none => exact .rejected kErrorUnknownOrder_ne_zero
    | some live =>
        simp only []
        split
        · exact .rejected kErrorUnknownOrder_ne_zero
        · rename_i hsession
          exact .cancelled (by rw [OrderStore.find?_number hlive]; exact hlive)
            (by simpa using hsession)

end NseFoExchangeSim.Engine
