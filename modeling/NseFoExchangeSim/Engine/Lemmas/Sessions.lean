import NseFoExchangeSim.Engine.Lemmas.PerOrder

/-!
# Orders of a session

A session without open orders gets one, and a successful event, only by an order that the engine
accepts for it; and a session close leaves the session without. Nothing here needs the order numbers to
be new: the index by session always lists an open order under its session.
-/

namespace NseFoExchangeSim.Engine

open Lib

variable {cfg : EngineConfig} {h es : List EngineEvent} {st st' : EngineState} {l : Label}
  {n s : UInt64} {o o' : Option OrderSnapshot}

/-! ## What the client of an order is -/

/-- The session of an order and the object it is reached through. -/
def OrderSnapshot.client (o : OrderSnapshot) : UInt64 × SessionRef := (o.sessionId, o.session)

theorem Fills.client_eq {live filled : OrderSnapshot} {price quantity : UInt32}
    (hf : Fills cfg live filled price quantity) : filled.client = live.client := by
  obtain ⟨r, f, now, rfl⟩ := hf.snapshot
  rfl

theorem Cancels.client_eq {live cancelled : OrderSnapshot} (hx : Cancels live cancelled) :
    cancelled.client = live.client := by
  obtain ⟨r, now, rfl⟩ := hx
  rfl

section Clients

variable {P : UInt64 × SessionRef → Prop}

/-- The act accepts orders of such clients only. -/
abbrev AcceptsFor (P : UInt64 × SessionRef → Prop) (l : Label) : Prop :=
  ∀ snapshot, l = .accept snapshot → P snapshot.client

/-- All open orders are of such clients. -/
def OpenFor (P : UInt64 × SessionRef → Prop) (st : EngineState) : Prop :=
  ∀ k o, st.openOrders.find? k = some o → P o.client

/-- An order stays with its client, whatever is done to it. -/
theorem kept_client : Kept cfg fun o => P o.client where
  fill hf hs := by rw [hf.client_eq]; exact hs
  cancel hx hs := by rw [hx.client_eq]; exact hs

theorem AcceptsFor.brings (hl : AcceptsFor P l) : Brings (fun o => P o.client) l :=
  ⟨hl, fun _ _ _ _ _ hs => hs⟩

/-- A call that accepts orders of such clients only leaves and concerns orders of such clients only. -/
theorem engine_clients (op : Op) (hl : AcceptsFor P (label cfg st op)) (ho : OpenFor P st) :
    OpenFor P (engine cfg st op).2 ∧
      ∀ e ∈ (engine cfg st op).1, e.successful = true → P e.order.client :=
  engine_keepsAll kept_client op (AcceptsFor.brings hl) ho

end Clients

/-! ## A session without open orders -/

/-- No open order belongs to the session. -/
def Without (s : UInt64) (st : EngineState) : Prop :=
  ∀ k o, st.openOrders.find? k = some o → o.sessionId ≠ s

/-- The act accepts no order of the session. -/
abbrev NoneFor (s : UInt64) (l : Label) : Prop :=
  ∀ snapshot, l = .accept snapshot → snapshot.sessionId ≠ s

/-- A session without open orders stays so, and gets no successful event, unless the call accepts an
order for it. -/
theorem engine_without (op : Op) (hl : NoneFor s (label cfg st op)) (hw : Without s st) :
    Without s (engine cfg st op).2 ∧
      ∀ e ∈ (engine cfg st op).1, e.successful = true → e.order.sessionId ≠ s :=
  engine_clients (P := fun c => c.1 ≠ s) op hl hw

/-! ## The session close -/

/-- Every open order is listed under its session. -/
abbrev SessionsListed (st : EngineState) : Prop :=
  st.openOrderIdsBySession.Covers st.openOrders.find? (·.sessionId)

theorem SessionsListed.erase {arg : SnapshotArg} {live : OrderSnapshot} (hi : SessionsListed st)
    (hread : arg.read st.openOrders = some live) : SessionsListed (eraseOpenOrderLocked arg st) := by
  rw [eraseOpenOrderLocked_of_read hread]
  exact hi.unlink (OrderStore.find?_erase_self _ _) fun k hk => OrderStore.find?_erase_of_ne _ hk

theorem SessionsListed.put {live order : OrderSnapshot} (hi : SessionsListed st)
    (hlive : st.openOrders.find? order.exchangeOrderNumber = some live)
    (hs : order.sessionId = live.sessionId) :
    st.openOrderIdsBySession.Covers (st.openOrders.put order).find? (·.sessionId) :=
  MultiIndex.Covers.replace hi hlive (OrderStore.find?_put_self _ _) hs
    fun _ hk => OrderStore.find?_put_of_ne _ hk

theorem SessionsListed.act (hi : SessionsListed st) (ha : Act cfg l st es st') :
    SessionsListed st' := by
  cases l with
  | accept snapshot =>
      have hentered : SessionsListed (acceptedState cfg snapshot.token st) := by
        simpa [SessionsListed] using hi
      cases ha.entry.2 with
      | passes _ _ hpasses hrest => exact hentered
      | rests hmd hday =>
          exact MultiIndex.Covers.link hentered (OrderStore.find?_put_self _ snapshot)
            fun k hk => OrderStore.find?_put_of_ne _ hk
  | modify request =>
      cases ha with
      | @modify _ _ live modified now hm hl =>
          subst hl
          have hlive : st.openOrders.find?
              (modifySnapshot live request st.nextLastActivityReference now).exchangeOrderNumber =
                some live := hm.live
          exact hi.put hlive rfl
  | market =>
      cases ha with
      | market books hkeep => exact hi
  | other =>
      cases ha with
      | reject he => exact hi
      | @fill _ live filled price quantity token now hlive hpos hle htoken htop hf =>
          subst hf
          have hopen : st.openOrders.find? (nextFill st live quantity now).exchangeOrderNumber =
              some live := hlive
          unfold afterFill
          split
          · have hdrawn : SessionsListed (drawFillNumbers st) := hi
            exact hdrawn.erase hopen
          · exact hi.put hopen rfl
      | cancel now hlive =>
          have hdrawn : SessionsListed (drawReference st) := hi
          exact hdrawn.erase rfl
      | drop arg hlive harg => exact hi.erase harg

theorem Reachable.sessionsListed (r : Reachable cfg h st) : SessionsListed st := by
  refine anyRun_induct (P := fun _ st => SessionsListed st) ?_ (fun _ _ _ _ _ hi ha => hi.act ha) r
  intro k o ho
  rw [EngineConfig.init, OrderStore.find?_empty] at ho
  cases ho

theorem onSessionClosed_without (hi : SessionsListed st) (s : UInt64) :
    Without s (onSessionClosed s st) := by
  rintro k o ho rfl
  unfold onSessionClosed at ho
  cases hids : st.openOrderIdsBySession.buckets[o.sessionId]? with
  | none =>
      simp only [hids] at ho
      have hk := hi k o ho
      simp [MultiIndex.ids, hids] at hk
  | some ids =>
      simp only [hids] at ho
      obtain ⟨hframe, hnone⟩ := eraseOrderIds_spec ids.toList st
      by_cases hin : k ∈ ids.toList
      · rw [hnone k hin] at ho
        cases ho
      · rw [hframe.find k hin] at ho
        have hk := hi k o ho
        refine hin (Std.ExtTreeSet.mem_toList.mpr ?_)
        simpa [MultiIndex.ids, hids] using hk

/-! ## Accepting -/

theorem enterIoc_confirms (env : CallEnv) (snapshot : OrderSnapshot) :
    ∃ rest, (enterIoc cfg env snapshot st).1 = confirmationEvent snapshot :: rest := by
  have hout := enterIoc_outcome cfg env st snapshot
  generalize enterIoc cfg env snapshot st = r at hout
  cases hout with
  | unfilled now => exact ⟨_, rfl⟩
  | filled now htop hpos hle havailable hrest => exact ⟨_, rfl⟩
  | partFilled now now' htop hpos hle havailable hrest => exact ⟨_, rfl⟩

theorem enterDay_confirms (env : CallEnv) (snapshot : OrderSnapshot) :
    ∃ rest, (enterDay cfg env snapshot st).1 = confirmationEvent snapshot :: rest := by
  simp only [enterDay]
  split <;> exact ⟨_, rfl⟩

theorem engine_confirms {op : Op} {snapshot : OrderSnapshot}
    (hl : label cfg st op = .accept snapshot) :
    ∃ rest, (engine cfg st op).1 = confirmationEvent snapshot :: rest := by
  obtain ⟨env, request, sessionId, session, rfl, -⟩ := label_eq_accept hl
  have hout := onNewOrder_outcome cfg env st sessionId session request
  rw [hl] at hout
  rw [engine]
  generalize onNewOrder cfg env request sessionId session st = r at hout
  cases hout with
  | immediate ha hmd => exact ⟨_, rfl⟩
  | ioc ha hmd hioc => exact enterIoc_confirms env snapshot
  | day ha hmd hday => exact enterDay_confirms env snapshot

end NseFoExchangeSim.Engine
