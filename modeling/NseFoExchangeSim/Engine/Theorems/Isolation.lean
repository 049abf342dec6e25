import NseFoExchangeSim.Engine.Theorems.Rejections

/-!
# Client sessions are isolated

A request of a session may name any order number and any token. It reaches one order, which is the
session's own, and at most makes an empty book.
-/

namespace NseFoExchangeSim.Engine

open Lib Protocol

variable {cfg : EngineConfig} {h : List EngineEvent} {st st' st'' : EngineState} {env : CallEnv}
  {op : Op} {s : UInt64} {session : SessionRef} {ns : List UInt64} {n : UInt64}

/-! ## Frames of calls -/

/-- The two states differ at most in the order of the number, the books and the counters. -/
def Touches (n : UInt64) (st st' : EngineState) : Prop := Frame [n] { st with books := st'.books } st'

theorem Touches.fill {n : UInt64} {now : ClockReading} {price available : UInt32}
    (ht : Touches n st st') :
    Touches n st (fillOpenOrderLocked env now n price available st').2 := by
  have hf : Frame [n] st' (fillOpenOrderLocked env now n price available st').2 :=
    fillOpenOrderLocked_frame
  unfold Touches
  rw [hf.books]
  exact ht.trans hf

theorem touches_acceptedState (cfg : EngineConfig) (st : EngineState) (n : UInt64)
    (token : UInt32) : Touches n st (acceptedState cfg token st) := by
  unfold Touches
  refine ⟨rfl, fun k _ => ?_, fun k t _ => ?_, fun k s _ => ?_⟩
  · rw [acceptedState_openOrders]
  · rw [acceptedState_openOrderIdsByToken]
  · rw [acceptedState_openOrderIdsBySession]

theorem Touches.store {snapshot : OrderSnapshot} (ht : Touches snapshot.exchangeOrderNumber st st') :
    Touches snapshot.exchangeOrderNumber st (storeOpenOrderLocked snapshot st') := by
  have hput : Frame [snapshot.exchangeOrderNumber] st' (storeOpenOrderLocked snapshot st') := by
    refine ⟨rfl, fun k hk => ?_, fun k t hk => ?_, fun k s hk => ?_⟩
    · exact OrderStore.find?_put_of_ne _ (by simpa using hk)
    · have hne : k ≠ snapshot.exchangeOrderNumber := by simpa using hk
      simp [storeOpenOrderLocked, MultiIndex.mem_ids_link, hne]
    · have hne : k ≠ snapshot.exchangeOrderNumber := by simpa using hk
      simp [storeOpenOrderLocked, MultiIndex.mem_ids_link, hne]
  exact ht.trans hput

theorem Touches.counters (ht : Touches n st st') (hbooks : st''.books = st'.books)
    (hopen : st''.openOrders = st'.openOrders)
    (htoken : st''.openOrderIdsByToken = st'.openOrderIdsByToken)
    (hsession : st''.openOrderIdsBySession = st'.openOrderIdsBySession) : Touches n st st'' := by
  unfold Touches
  rw [hbooks]
  refine ⟨hbooks.trans ht.books, fun k hk => ?_, fun k t hk => ?_, fun k s hk => ?_⟩
  · rw [hopen]
    exact ht.find k hk
  · rw [htoken]
    exact ht.token k t hk
  · rw [hsession]
    exact ht.session k s hk

/-! ## What a request reaches -/

/-- Every event is for an order of such a client, and is sent to it. -/
def AllAddressed (P : UInt64 × SessionRef → Prop) (es : List EngineEvent) : Prop :=
  ∀ e ∈ es, P (e.order.sessionId, e.session)

section Addressed

variable {P : UInt64 × SessionRef → Prop}

theorem AllAddressed.nil : AllAddressed P [] := nofun

theorem AllAddressed.cons {e : EngineEvent} {es : List EngineEvent}
    (he : P (e.order.sessionId, e.session)) (hes : AllAddressed P es) : AllAddressed P (e :: es) :=
  List.forall_mem_cons.mpr ⟨he, hes⟩

theorem fillOpenOrderLocked_addressed {now : ClockReading} {price available : UInt32}
    {live : OrderSnapshot} (hlive : st.openOrders.find? n = some live) (hc : P live.client) :
    AllAddressed P (fillOpenOrderLocked env now n price available st).1 := by
  have hout := fillOpenOrderLocked_outcome env now n price available st
  generalize fillOpenOrderLocked env now n price available st = r at hout
  cases hout with
  | nothing => exact .nil
  | expired hlive' hn => exact .nil
  | traded hlive' hn hpos hle havailable =>
      rw [hn, hlive] at hlive'
      cases hlive'
      exact .cons hc .nil

theorem enterIoc_addressed {snapshot : OrderSnapshot} (hc : P snapshot.client) :
    AllAddressed P (enterIoc cfg env snapshot st).1 := by
  have hout := enterIoc_outcome cfg env st snapshot
  generalize enterIoc cfg env snapshot st = r at hout
  cases hout with
  | unfilled now => exact .cons hc (.cons hc .nil)
  | filled now htop hpos hle havailable hrest => exact .cons hc (.cons hc .nil)
  | partFilled now now' htop hpos hle havailable hrest =>
      exact .cons hc (.cons hc (.cons hc .nil))

end Addressed

/-- The client that makes a request, or the client of an order that its session has open. -/
def Owner (s : UInt64) (session : SessionRef) (st : EngineState) (c : UInt64 × SessionRef) : Prop :=
  c.1 = s ∧ (c.2 = session ∨ ∃ k live, st.openOrders.find? k = some live ∧ live.client = c)

theorem owner_self : Owner s session st (s, session) := ⟨rfl, .inl rfl⟩

theorem owner_of_open {live : OrderSnapshot}
    (hlive : st.openOrders.find? live.exchangeOrderNumber = some live) (hs : live.sessionId = s) :
    Owner s session st live.client := ⟨hs, .inr ⟨_, live, hlive, rfl⟩⟩

theorem enterIoc_touches (cfg : EngineConfig) (env : CallEnv) (snapshot : OrderSnapshot)
    (ht : Touches n st st') :
    Touches n st (enterIoc cfg env snapshot st').2 ∧
      (enterIoc cfg env snapshot st').2.books = st'.books := by
  have hout := enterIoc_outcome cfg env st' snapshot
  generalize enterIoc cfg env snapshot st' = r at hout
  cases hout with
  | unfilled now => exact ⟨ht.counters rfl rfl rfl rfl, rfl⟩
  | filled now htop hpos hle havailable hrest => exact ⟨ht.counters rfl rfl rfl rfl, rfl⟩
  | partFilled now now' htop hpos hle havailable hrest => exact ⟨ht.counters rfl rfl rfl rfl, rfl⟩

/-- What a request of a session does: it touches one order, which is the session's own or new, it is
answered to the session, and it makes at most an empty book. -/
structure Reaches (s : UInt64) (session : SessionRef) (st : EngineState)
    (r : List EngineEvent × EngineState) : Prop where
  touches : ∃ n, Touches n st r.2 ∧ ∀ live, st.openOrders.find? n = some live → live.sessionId = s
  addressed : AllAddressed (Owner s session st) r.1
  books : AddsEmptyBook st r.2

theorem reaches_fill {es : List EngineEvent} {now : ClockReading} {price available : UInt32}
    {live : OrderSnapshot} (ht : Touches n st st')
    (hn : ∀ live, st.openOrders.find? n = some live → live.sessionId = s)
    (hbooks : AddsEmptyBook st st') (hlive : st'.openOrders.find? n = some live)
    (hc : Owner s session st live.client) (hes : AllAddressed (Owner s session st) es) :
    Reaches s session st
      (es ++ (fillOpenOrderLocked env now n price available st').1,
        (fillOpenOrderLocked env now n price available st').2) := by
  have hf : Frame [n] st' (fillOpenOrderLocked env now n price available st').2 :=
    fillOpenOrderLocked_frame
  refine ⟨⟨n, ht.fill, hn⟩, fun e he => ?_, ?_⟩
  · rcases List.mem_append.mp he with he | he
    · exact hes e he
    · exact fillOpenOrderLocked_addressed hlive hc e he
  · unfold AddsEmptyBook
    rw [hf.books]
    exact hbooks

theorem Refused.reaches (hop : op.client = some (s, session))
    (hfree : st.openOrders.find? n = none) {r : List EngineEvent × EngineState}
    (hr : Refused st op r) : Reaches s session st r := by
  obtain ⟨errorCode, e, -, hrefusal, rfl⟩ := hr
  refine ⟨⟨n, .refl [n] st, fun live hlive => by rw [hfree] at hlive; cases hlive⟩,
    .cons ?_ .nil, .inl rfl⟩
  cases op with
  | newOrder _ _ _ _ => cases hop; cases hrefusal; exact owner_self
  | modifyOrder _ _ _ _ => cases hop; cases hrefusal; exact owner_self
  | cancelOrder _ _ _ _ => cases hop; cases hrefusal; exact owner_self
  | tbtOrder _ _ => cases hop
  | tbtTrade _ _ => cases hop
  | sessionClosed _ => cases hop

/-! ## The three requests -/

theorem label_accept_client {snapshot : OrderSnapshot} (hl : label cfg st op = .accept snapshot) :
    op.client = some snapshot.client := by
  obtain ⟨env, request, sessionId, session, rfl, rfl⟩ := label_eq_accept hl
  rfl

theorem label_modify_client {request : OrderSnapshot} (hl : label cfg st op = .modify request) :
    op.client = some request.client := by
  obtain ⟨env, wire, sessionId, session, rfl, rfl⟩ := label_eq_modify hl
  rfl

theorem enterDay_reaches {snapshot : OrderSnapshot} (hc : Owner s session st snapshot.client)
    (hfree : st.openOrders.find? snapshot.exchangeOrderNumber = none) :
    Reaches s session st (enterDay cfg env snapshot (acceptedState cfg snapshot.token st)) := by
  have hstored : Touches snapshot.exchangeOrderNumber st
      (storeOpenOrderLocked snapshot (acceptedState cfg snapshot.token st)) :=
    (touches_acceptedState _ _ _ _).store
  have hconf : AllAddressed (Owner s session st) [confirmationEvent snapshot] := .cons hc .nil
  have hnone : ∀ live, st.openOrders.find? snapshot.exchangeOrderNumber = some live →
      live.sessionId = s := fun live hlive => by rw [hfree] at hlive; cases hlive
  have hbooks : AddsEmptyBook st (acceptedState cfg snapshot.token st) :=
    acceptedState_addsEmptyBook snapshot.token
  unfold enterDay
  simp only []
  cases htop : matchTopLocked cfg (storeOpenOrderLocked snapshot
      (acceptedState cfg snapshot.token st)) snapshot with
  | none => exact ⟨⟨_, hstored, hnone⟩, hconf, hbooks⟩
  | some top =>
      exact reaches_fill hstored hnone hbooks (OrderStore.find?_put_self _ snapshot) hc hconf

theorem enters_reaches {snapshot : OrderSnapshot} {r : List EngineEvent × EngineState}
    (hfree : st.openOrders.find? snapshot.exchangeOrderNumber = none)
    (htouches : Touches snapshot.exchangeOrderNumber st r.2)
    (hbooks : r.2.books = (acceptedState cfg snapshot.token st).books)
    (haddr : AllAddressed (Owner s session st) r.1) : Reaches s session st r := by
  refine ⟨⟨_, htouches, fun live hlive => by rw [hfree] at hlive; cases hlive⟩, haddr, ?_⟩
  unfold AddsEmptyBook
  rw [hbooks]
  exact acceptedState_addsEmptyBook snapshot.token

/-- A request that is carried out is not turned down with an error. -/
theorem CarriedOut.succeeds {r : List EngineEvent × EngineState} (h : CarriedOut op r) {e : EngineEvent}
    (he : e ∈ r.1) : e.errorCode = 0 := by
  obtain ⟨first, rest, hr, -, hall⟩ := h
  rw [hr] at he
  exact hall e he

theorem onNewOrder_reaches {request : OrderEntryRequestPayload}
    (hcarried : CarriedOut (.newOrder env request s session) (onNewOrder cfg env request s session st))
    (hfree : st.openOrders.find? st.nextExchangeOrderNumber = none) :
    Reaches s session st (onNewOrder cfg env request s session st) := by
  have hout := onNewOrder_outcome cfg env st s session request
  generalize hl : label cfg st (.newOrder env request s session) = l at hout
  generalize onNewOrder cfg env request s session st = r at hout hcarried
  have hown : ∀ {snapshot}, l = .accept snapshot → Owner s session st snapshot.client := by
    intro snapshot hlabel
    have hc : some (s, session) = some snapshot.client := label_accept_client (hl.trans hlabel)
    rw [← Option.some.inj hc]
    exact owner_self
  cases hout with
  | rejected he => exact absurd (hcarried.succeeds List.mem_cons_self) he
  | @immediate snapshot ha hmd =>
      have hc : Owner s session st snapshot.client := hown rfl
      rw [← ha.number] at hfree
      exact enters_reaches hfree ((touches_acceptedState _ _ _ _).counters rfl rfl rfl rfl) rfl
        (.cons hc (.cons hc .nil))
  | @ioc snapshot ha hmd hioc =>
      rw [← ha.number] at hfree
      obtain ⟨htouches, hbooks⟩ := enterIoc_touches cfg env snapshot
        (touches_acceptedState cfg st snapshot.exchangeOrderNumber snapshot.token)
      exact enters_reaches hfree htouches hbooks (enterIoc_addressed (hown rfl))
  | @day snapshot ha hmd hday =>
      rw [← ha.number] at hfree
      exact enterDay_reaches (hown rfl) hfree

theorem touches_modifiedState (live request : OrderSnapshot) :
    Touches live.exchangeOrderNumber st (modifiedState env st live request) := by
  refine ⟨rfl, fun k hk => ?_, fun _ _ _ => .rfl, fun _ _ _ => .rfl⟩
  have hne : k ≠ live.exchangeOrderNumber := by simpa using hk
  exact OrderStore.find?_put_of_ne _ hne

theorem only_of_open {live : OrderSnapshot}
    (hlive : st.openOrders.find? live.exchangeOrderNumber = some live) (hs : live.sessionId = s) :
    ∀ live', st.openOrders.find? live.exchangeOrderNumber = some live' → live'.sessionId = s := by
  intro live' hlive'
  rw [hlive] at hlive'
  cases hlive'
  exact hs

theorem onModifyOrder_reaches {request : OrderUpdateRequestPayload}
    (hcarried : CarriedOut (.modifyOrder env request s session)
      (onModifyOrder cfg env request s session st)) :
    Reaches s session st (onModifyOrder cfg env request s session st) := by
  have hout := onModifyOrder_outcome cfg env st s session request
  generalize hl : label cfg st (.modifyOrder env request s session) = l at hout
  generalize onModifyOrder cfg env request s session st = r at hout hcarried
  have hown : ∀ {request live}, l = .modify request → Modifies st request live →
      live.sessionId = s := by
    intro request live hlabel hm
    have hc : some (s, session) = some request.client := label_modify_client (hl.trans hlabel)
    exact hm.2.2.1.trans (Prod.mk.inj (Option.some.inj hc)).1.symm
  cases hout with
  | rejected he => exact absurd (hcarried.succeeds List.mem_cons_self) he
  | @unmatched request live hm htop =>
      have hs := hown rfl hm
      have hc : Owner s session st live.client := owner_of_open hm.live hs
      exact ⟨⟨_, touches_modifiedState live request, only_of_open hm.live hs⟩, .cons hc .nil,
        .inl rfl⟩
  | @matched request live top hm htop =>
      have hs := hown rfl hm
      have hc : Owner s session st live.client := owner_of_open hm.live hs
      exact reaches_fill (touches_modifiedState live request) (only_of_open hm.live hs) (.inl rfl)
        (OrderStore.find?_put_self _ (modifiedBy env st live request)) hc (.cons hc .nil)

theorem onCancelOrder_reaches {request : OrderUpdateRequestPayload}
    (hcarried : CarriedOut (.cancelOrder env request s session)
      (onCancelOrder env request s session st)) :
    Reaches s session st (onCancelOrder env request s session st) := by
  have hout := onCancelOrder_outcome env st s session request
  generalize onCancelOrder env request s session st = r at hout hcarried
  cases hout with
  | rejected he => exact absurd (hcarried.succeeds List.mem_cons_self) he
  | @cancelled live hlive hs =>
      have hread : (SnapshotArg.copy (nextCancel st live (env.clock 0))).read
          (drawReference st).openOrders = some (nextCancel st live (env.clock 0)) := rfl
      have hf := eraseOpenOrderLocked_frame hread
      have hc : Owner s session st live.client := owner_of_open hlive hs
      exact ⟨⟨live.exchangeOrderNumber, ⟨rfl, hf.find, hf.token, hf.session⟩, only_of_open hlive hs⟩,
        .cons hc .nil, .inl hf.books⟩

theorem engine_reaches (cfg : EngineConfig) (hop : op.client = some (s, session))
    (hfree : st.openOrders.find? st.nextExchangeOrderNumber = none) :
    Reaches s session st (engine cfg st op) := by
  have hanswer : Refused st op (engine cfg st op) ∨ CarriedOut op (engine cfg st op) :=
    engine_answer hop
  rcases hanswer with hrefused | hcarried
  · exact hrefused.reaches hop hfree
  · cases op with
    | newOrder _ _ _ _ => cases hop; exact onNewOrder_reaches hcarried hfree
    | modifyOrder _ _ _ _ => cases hop; exact onModifyOrder_reaches hcarried
    | cancelOrder _ _ _ _ => cases hop; exact onCancelOrder_reaches hcarried
    | tbtOrder _ _ => cases hop
    | tbtTrade _ _ => cases hop
    | sessionClosed _ => cases hop

/-! ## Isolation -/

/-- Every session calls through its own object. -/
abbrev CallsAs (ref : UInt64 → SessionRef) (_ : List EngineEvent) (_ : EngineState) (op : Op) : Prop :=
  ∀ s session, op.client = some (s, session) → session = ref s

theorem RunWith.refs {ref : UInt64 → SessionRef} (r : RunWith cfg (CallsAs ref) h st) :
    OpenFor (fun c => c.2 = ref c.1) st := by
  refine r.invariant (P := fun _ st => OpenFor (fun c => c.2 = ref c.1) st) ?_ ?_
  · intro k o ho
    rw [EngineConfig.init, OrderStore.find?_empty] at ho
    cases ho
  · intro h st op _ ho hcalls
    refine (engine_clients op ?_ ho).1
    intro snapshot hl
    exact hcalls _ _ (label_accept_client hl)

/-- A request of a session leaves every open order of another session as it was, and indexed; its
events are for the session's orders and, as every session calls through its own object, sent to it;
and the books stay, save for an empty one that may be added. -/
theorem client_sessions_isolated (r : Reachable cfg h st)
    (hlt : acceptedCount h < 2 ^ 64 - cfg.config.exchangeOrderNumberStart.toNat)
    (hop : op.client = some (s, session)) :
    (∀ k o, st.openOrders.find? k = some o → o.sessionId ≠ s →
        (engine cfg st op).2.openOrders.find? k = some o ∧
          k ∈ (engine cfg st op).2.openOrderIdsByToken.ids o.token ∧
          k ∈ (engine cfg st op).2.openOrderIdsBySession.ids o.sessionId) ∧
      (∀ e ∈ (engine cfg st op).1, e.order.sessionId = s ∧
        ∀ ref, RunWith cfg (CallsAs ref) h st → session = ref s → e.session = ref s) ∧
      ((engine cfg st op).2.books = st.books ∨
        ∃ t, st.books[t]? = none ∧ (engine cfg st op).2.books = st.books.insert t {}) := by
  have hi := r.indexed (by omega)
  obtain ⟨⟨n, htouches, hown⟩, haddr, hbooks⟩ :=
    engine_reaches cfg hop (r.counted.fresh rfl (by omega))
  refine ⟨fun k o ho hother => ?_, fun e he => ?_, hbooks⟩
  · have hk : k ∉ [n] := by
      intro hmem
      rw [List.mem_singleton.mp hmem] at ho
      exact hother (hown o ho)
    refine ⟨(htouches.find k hk).trans ho, ?_, ?_⟩
    · exact (htouches.token k o.token hk).mpr ((hi.byToken _ _).mpr ⟨o, ho, rfl⟩)
    · exact (htouches.session k o.sessionId hk).mpr ((hi.bySession _ _).mpr ⟨o, ho, rfl⟩)
  · obtain ⟨hs, hsession⟩ := haddr e he
    refine ⟨hs, fun ref rref hself => ?_⟩
    rcases hsession with hsession | ⟨k, live, hlive, hc⟩
    · exact hsession.trans hself
    · have href := rref.refs k live hlive
      rw [hc] at href
      exact href.trans (congrArg ref hs)

/-- The modification of another session's order. -/
def foreignModify : Op :=
  .modifyOrder calm (modifyRequest 0x41086A0000000000 654321 1 40 15 10 990) 2 2

theorem client_sessions_isolated_foreign :
    ((exec (engine bookMatching) bookMatching.init (restingRun ++ [foreignModify])).1.map
      fun e => (e.order.sessionId, e.errorCode)) = [(1, 0), (2, kErrorUnknownOrder)] ∧
      ∃ o, (engine bookMatching (exec (engine bookMatching) bookMatching.init restingRun).2
        foreignModify).2.openOrders.find? 200000 = some o := by
  refine ⟨by decide +kernel, ?_⟩
  obtain ⟨o, ho⟩ := Option.isSome_iff_exists.mp
    (show ((exec (engine bookMatching) bookMatching.init restingRun).2.openOrders.find?
      200000).isSome = true by decide +kernel)
  have hclient : foreignModify.client = some (2, 2) := rfl
  have hsession : o.sessionId ≠ 2 := by
    have hone : ((exec (engine bookMatching) bookMatching.init restingRun).2.openOrders.find?
      200000).map (·.sessionId) = some 1 := by decide +kernel
    rw [ho] at hone
    have hid : o.sessionId = 1 := Option.some.inj hone
    rw [hid]
    decide
  exact ⟨o, ((client_sessions_isolated (run_exec (engine bookMatching) bookMatching.init restingRun)
    (by decide +kernel) hclient).1 200000 o ho hsession).1⟩

end NseFoExchangeSim.Engine
