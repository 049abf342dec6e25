import NseFoExchangeSim.Engine.Lemmas.Calls
import NseFoExchangeSim.Engine.Lemmas.Fill

/-!
# Every operation is made of acts

`engine_steps`: a call of the engine is a sequence of acts, and the one that enters, modifies or
applies a feed message, if there is one, is the first. A property that every act keeps therefore holds
in every run.
-/

namespace NseFoExchangeSim.Engine

open Lib Protocol

variable {cfg : EngineConfig} {ok : List EngineEvent → EngineState → Label → Prop}
  {h : List EngineEvent} {st st' : EngineState} {es : List EngineEvent}

/-! ## Fills -/

theorem AtTop.congr {token : UInt32} {o : OrderSnapshot} {price quantity : UInt32}
    (ha : AtTop st token o price quantity) (hbooks : st'.books = st.books) :
    AtTop st' token o price quantity := by
  unfold AtTop
  rw [hbooks]
  exact ha

theorem AtTop.mono {token : UInt32} {o : OrderSnapshot} {price quantity quantity' : UInt32}
    (ha : AtTop st token o price quantity) (hle : quantity' ≤ quantity) :
    AtTop st token o price quantity' := by
  obtain ⟨book, side, topQty, hbook, hbest, hadm, hq⟩ := ha
  exact ⟨book, side, topQty, hbook, hbest, hadm, UInt32.le_trans hle hq⟩

/-- What a fill of order `n` may assume about the order, if it is open at all. -/
def Fillable (cfg : EngineConfig) (st : EngineState) (token : UInt32) (n : UInt64)
    (price available : UInt32) : Prop :=
  ∀ live, st.openOrders.find? n = some live →
    (live.token = token ∨ n ∈ st.openOrderIdsByToken.ids token) ∧
      (cfg.marketDataEnabled = true → AtTop st token live price available)

theorem Fillable.frame {token : UInt32} {n : UInt64} {price available : UInt32} {ns : List UInt64}
    (hf : Fillable cfg st token n price available) (hframe : Frame ns st st') (hn : n ∉ ns) :
    Fillable cfg st' token n price available := by
  intro live hlive
  rw [hframe.find n hn] at hlive
  obtain ⟨htoken, htop⟩ := hf live hlive
  refine ⟨htoken.imp id (hframe.token n token hn).mpr, fun hmd => ?_⟩
  exact (htop hmd).congr hframe.books

theorem step_other (hother : ∀ h st, ok h st .other) (ha : Act cfg .other st es st') :
    Steps (ActWith cfg ok) (h, st) (h ++ es, st') :=
  .one ⟨.other, ha, hother h st⟩

theorem fillOpenOrderLocked_steps (hother : ∀ h st, ok h st .other) {env : CallEnv}
    {now : ClockReading} (token : UInt32) {n : UInt64} {price available : UInt32}
    (hf : Fillable cfg st token n price available) :
    Steps (ActWith cfg ok) (h, st)
      (h ++ (fillOpenOrderLocked env now n price available st).1,
        (fillOpenOrderLocked env now n price available st).2) := by
  have hout := fillOpenOrderLocked_outcome env now n price available st
  generalize fillOpenOrderLocked env now n price available st = r at hout
  cases hout with
  | nothing => exact .refl' h st
  | expired hlive hn => exact step_other hother (.drop (.entry _) hlive hlive)
  | @traded live quantity hlive hn hpos hle havailable =>
      obtain ⟨htoken, htop⟩ := hf live (by rw [← hn, hlive])
      exact step_other hother (.fill token now hlive hpos hle (by rwa [hn])
        (fun hmd => (htop hmd).mono havailable) rfl)

theorem fillRequests_steps (hother : ∀ h st, ok h st .other) {env : CallEnv} (token : UInt32)
    (i : Nat) (rs : List FillRequest) (hdistinct : (rs.map (·.orderId)).Nodup)
    (hf : ∀ r ∈ rs, Fillable cfg st token r.orderId r.fillPrice r.fillQuantity) :
    Steps (ActWith cfg ok) (h, st)
      (h ++ (fillRequests env i rs st).1, (fillRequests env i rs st).2) := by
  induction rs generalizing i st h with
  | nil => exact .refl' h st
  | cons r rs ih =>
      rw [List.map_cons, List.nodup_cons] at hdistinct
      refine (fillOpenOrderLocked_steps hother token (hf r List.mem_cons_self)).append
        (ih (i + 1) hdistinct.2 fun r' hr' => ?_)
      apply (hf r' (List.mem_cons_of_mem _ hr')).frame fillOpenOrderLocked_frame
      intro hc
      rw [List.mem_singleton] at hc
      exact hdistinct.1 (hc ▸ List.mem_map_of_mem hr')

/-! ## The resting orders -/

theorem eraseStaleOrders_steps (hother : ∀ h st, ok h st .other) (os : List OrderSnapshot)
    (hdistinct : (os.map (·.exchangeOrderNumber)).Nodup)
    (hopen : ∀ o ∈ os, st.openOrders.find? o.exchangeOrderNumber = some o) :
    Steps (ActWith cfg ok) (h, st) (h ++ [], eraseStaleOrders os st) := by
  induction os generalizing st h with
  | nil => exact .refl' h st
  | cons o os ih =>
      rw [List.map_cons, List.nodup_cons] at hdistinct
      have hread : (SnapshotArg.copy o).read st.openOrders = some o := rfl
      have hdrop : Act cfg .other st [] (eraseOpenOrderLocked (.copy o) st) :=
        .drop (.copy o) (hopen o List.mem_cons_self) hread
      refine (step_other hother hdrop).append (ih hdistinct.2 fun o' ho' => ?_)
      rw [(eraseOpenOrderLocked_frame hread).find _ ?_]
      · exact hopen o' (List.mem_cons_of_mem _ ho')
      · intro hc
        rw [List.mem_singleton] at hc
        exact hdistinct.1 (hc ▸ List.mem_map_of_mem ho')

theorem requests_nodup (env : CallEnv) (book : ExternalBook) (st : EngineState) (token : UInt32) :
    (((allocation env book (restingOrders st token)).map (requestOf book)).map
      (·.orderId)).Nodup := by
  have hsub : (((allocation env book (restingOrders st token)).map Prod.fst).map
      (·.exchangeOrderNumber)).Nodup :=
    ((allocation_sublist env book _).map _).nodup (restingOrders_nodup st token)
  rw [List.map_map] at hsub ⊢
  exact hsub

theorem served_not_stale {env : CallEnv} {book : ExternalBook} {token : UInt32}
    {r : OrderSnapshot × Nat} (hr : r ∈ allocation env book (restingOrders st token)) :
    r.1.exchangeOrderNumber ∉
      ((restingOrders st token).filter (stale env)).map (·.exchangeOrderNumber) := by
  obtain ⟨side, hd, hmem, _⟩ := mem_allocation hr
  intro hc
  obtain ⟨o, ho, hn⟩ := List.mem_map.mp hc
  obtain ⟨ho, hst⟩ := List.mem_filter.mp ho
  have h1 := (mem_restingOrders.mp ho).2
  have h2 := (mem_restingOrders.mp hmem).2
  rw [hn, h2] at h1
  cases h1
  rw [(drawsOn_eq_some.mp hd).1] at hst
  cases hst

theorem allocation_fillable {env : CallEnv} {book : ExternalBook} {token : UInt32}
    {r : OrderSnapshot × Nat} (hbook : st.books[token]? = some book)
    (hr : r ∈ allocation env book (restingOrders st token)) :
    Fillable cfg st token r.1.exchangeOrderNumber (requestOf book r).fillPrice
      (requestOf book r).fillQuantity := by
  obtain ⟨side, hd, hmem, hpos, _, hq⟩ := mem_allocation hr
  obtain ⟨hids, hopen⟩ := mem_restingOrders.mp hmem
  intro live hlive
  rw [hopen] at hlive
  cases hlive
  refine ⟨.inr hids, fun _ => ⟨book, side, topQuantity book side, hbook, ?_, ?_, ?_⟩⟩
  · rw [requestOf, fillPriceOf_eq hd]
    exact best_of_topQuantity (by omega)
  · rw [requestOf, fillPriceOf_eq hd]
    exact (drawsOn_eq_some.mp hd).2
  · have hlt : r.2 < 2 ^ 32 := Nat.lt_of_le_of_lt hq (topQuantity book side).toNat_lt
    rw [requestOf, UInt32.le_iff_toNat_le, UInt32.toNat_ofNat_of_lt' hlt]
    exact hq

theorem maybeFillRestingOrdersLocked_steps (hother : ∀ h st, ok h st .other) (env : CallEnv)
    (token : UInt32) :
    Steps (ActWith cfg ok) (h, st)
      (h ++ (maybeFillRestingOrdersLocked env token st).1,
        (maybeFillRestingOrdersLocked env token st).2) := by
  cases hbook : st.books[token]? with
  | none =>
      have hnone : maybeFillRestingOrdersLocked env token st = ([], st) := by
        unfold maybeFillRestingOrdersLocked
        cases st.openOrderIdsByToken.buckets[token]? with
        | none => rfl
        | some ids => simp only [hbook]
      rw [hnone]
      exact .refl' h st
  | some book =>
      rw [maybeFillRestingOrdersLocked_eq hbook]
      have hstale := ((List.filter_sublist (p := stale env)).map
        (·.exchangeOrderNumber)).nodup (restingOrders_nodup st token)
      have hsweep : Steps (ActWith cfg ok) (h, st) (h ++ [], _) :=
        eraseStaleOrders_steps hother _ hstale fun o ho =>
          (mem_restingOrders.mp (List.mem_filter.mp ho).1).2
      refine hsweep.append (fillRequests_steps hother token 0 _
        (requests_nodup env book st token) ?_)
      intro req hreq
      obtain ⟨r, hr, rfl⟩ := List.mem_map.mp hreq
      exact (allocation_fillable hbook hr).frame (eraseStaleOrders_spec _ st).1
        (served_not_stale hr)

/-! ## Client operations -/

theorem matchTopLocked_atTop {o : OrderSnapshot} {top : TopOfBookMatch}
    (hmd : cfg.marketDataEnabled = true) (h : matchTopLocked cfg st o = some top) :
    AtTop st o.token o top.price top.quantity := by
  unfold matchTopLocked at h
  simp only [hmd, Bool.not_true, Bool.false_eq_true, if_false] at h
  cases hbook : st.books[o.token]? with
  | none => simp only [hbook] at h; cases h
  | some book =>
      simp only [hbook] at h
      split at h
      · rename_i h1
        cases hbest : book.bestAsk with
        | none => simp only [hbest] at h; cases h
        | some best =>
            simp only [hbest] at h
            split at h
            · rename_i hc
              cases h
              exact ⟨book, .ask, _, hbook, hbest, ⟨by simpa using h1, hc.2⟩, UInt32.le_refl _⟩
            · cases h
      · split at h
        · rename_i h2
          cases hbest : book.bestBid with
          | none => simp only [hbest] at h; cases h
          | some best =>
              simp only [hbest] at h
              split at h
              · rename_i hc
                cases h
                exact ⟨book, .bid, _, hbook, hbest, ⟨by simpa using h2, hc.2⟩, UInt32.le_refl _⟩
              · cases h
        · cases h

section NewOrder

variable {env : CallEnv} {snapshot : OrderSnapshot} (ha : Accepted cfg st snapshot)
  (hok : ok h st (.accept snapshot))
include ha hok

theorem enterImmediate_steps (hmd : cfg.marketDataEnabled = false) :
    Steps (ActWith cfg ok) (h, st)
      (h ++ (enterImmediate env snapshot (acceptedState cfg snapshot.token st)).1,
        (enterImmediate env snapshot (acceptedState cfg snapshot.token st)).2) :=
  .one ⟨_, .enterImmediate (env.clock 1) ha hmd rfl rfl, hok⟩

theorem enterIoc_steps (hmd : cfg.marketDataEnabled = true) (hioc : snapshot.ioc = true) :
    Steps (ActWith cfg ok) (h, st)
      (h ++ (enterIoc cfg env snapshot (acceptedState cfg snapshot.token st)).1,
        (enterIoc cfg env snapshot (acceptedState cfg snapshot.token st)).2) := by
  have hout := enterIoc_outcome cfg env (acceptedState cfg snapshot.token st) snapshot
  generalize enterIoc cfg env snapshot (acceptedState cfg snapshot.token st) = r at hout
  cases hout with
  | unfilled now => exact .one ⟨_, .enterIocUnfilled now ha hmd hioc rfl, hok⟩
  | filled now htop hpos hle havailable hrest =>
      have hat := (matchTopLocked_atTop hmd htop).mono havailable
      exact .one ⟨_, .enterIocFilled now ha hmd hioc rfl hat hpos hle rfl hrest, hok⟩
  | partFilled now now' htop hpos hle havailable hrest =>
      have hat := (matchTopLocked_atTop hmd htop).mono havailable
      exact .one ⟨_, .enterIocPartial now now' ha hmd hioc rfl hat hpos hle rfl hrest, hok⟩

theorem enterDay_steps (hother : ∀ h st, ok h st .other) (hmd : cfg.marketDataEnabled = true)
    (hday : snapshot.ioc = false) :
    Steps (ActWith cfg ok) (h, st)
      (h ++ (enterDay cfg env snapshot (acceptedState cfg snapshot.token st)).1,
        (enterDay cfg env snapshot (acceptedState cfg snapshot.token st)).2) := by
  have henter : Steps (ActWith cfg ok) (h, st) (h ++ [confirmationEvent snapshot],
      storeOpenOrderLocked snapshot (acceptedState cfg snapshot.token st)) :=
    .one ⟨_, .enterDay ha hmd hday rfl, hok⟩
  unfold enterDay
  simp only []
  cases htop : matchTopLocked cfg (storeOpenOrderLocked snapshot
      (acceptedState cfg snapshot.token st)) snapshot with
  | none => exact henter
  | some top =>
      refine henter.append (fillOpenOrderLocked_steps hother snapshot.token ?_)
      intro live hlive
      rw [storeOpenOrderLocked, OrderStore.find?_put_self] at hlive
      cases hlive
      exact ⟨.inl rfl, fun _ => matchTopLocked_atTop hmd htop⟩

end NewOrder

theorem onNewOrder_steps (hother : ∀ h st, ok h st .other) (env : CallEnv)
    (request : OrderEntryRequestPayload) (sessionId : UInt64) (session : SessionRef)
    (hok : ok h st (label cfg st (.newOrder env request sessionId session))) :
    Steps (ActWith cfg ok) (h, st)
      (h ++ (onNewOrder cfg env request sessionId session st).1,
        (onNewOrder cfg env request sessionId session st).2) := by
  have hout := onNewOrder_outcome cfg env st sessionId session request
  generalize label cfg st (.newOrder env request sessionId session) = l at hok hout
  generalize onNewOrder cfg env request sessionId session st = r at hout
  cases hout with
  | rejected he => exact step_other hother (.reject he)
  | immediate ha hmd => exact enterImmediate_steps ha hok hmd
  | ioc ha hmd hioc => exact enterIoc_steps ha hok hmd hioc
  | day ha hmd hday => exact enterDay_steps ha hok hother hmd hday

theorem onModifyOrder_steps (hother : ∀ h st, ok h st .other) (env : CallEnv)
    (request : OrderUpdateRequestPayload) (sessionId : UInt64) (session : SessionRef)
    (hok : ok h st (label cfg st (.modifyOrder env request sessionId session))) :
    Steps (ActWith cfg ok) (h, st)
      (h ++ (onModifyOrder cfg env request sessionId session st).1,
        (onModifyOrder cfg env request sessionId session st).2) := by
  have hout := onModifyOrder_outcome cfg env st sessionId session request
  generalize label cfg st (.modifyOrder env request sessionId session) = l at hok hout
  generalize onModifyOrder cfg env request sessionId session st = r at hout
  cases hout with
  | rejected he => exact step_other hother (.reject he)
  | unmatched hm htop => exact .one ⟨_, .modify (env.clock 0) hm rfl, hok⟩
  | @matched request live top hm htop =>
      have hmodify : Steps (ActWith cfg ok) (h, st)
          (h ++ [modificationEvent (modifiedBy env st live request)],
            modifiedState env st live request) := .one ⟨_, .modify (env.clock 0) hm rfl, hok⟩
      refine hmodify.append (fillOpenOrderLocked_steps hother live.token ?_)
      intro live' hlive'
      rw [modifiedState, modifiedBy, ← modifySnapshot_number, OrderStore.find?_put_self] at hlive'
      cases hlive'
      exact ⟨.inl rfl, fun hmd => matchTopLocked_atTop hmd htop⟩

theorem onCancelOrder_steps (hother : ∀ h st, ok h st .other) (env : CallEnv)
    (request : OrderUpdateRequestPayload) (sessionId : UInt64) (session : SessionRef) :
    Steps (ActWith cfg ok) (h, st)
      (h ++ (onCancelOrder env request sessionId session st).1,
        (onCancelOrder env request sessionId session st).2) := by
  have hout := onCancelOrder_outcome env st sessionId session request
  generalize onCancelOrder env request sessionId session st = r at hout
  cases hout with
  | rejected he => exact step_other hother (.reject he)
  | cancelled hlive hsession => exact step_other hother (.cancel (env.clock 0) hlive)

/-! ## Market data and session close -/

theorem market_act {token : UInt32} {book : ExternalBook} (book' : ExternalBook)
    (hbook : ensureBookLocked cfg st token = some (book, st')) :
    Act cfg .market st [] { st' with books := st'.books.insert token book' } := by
  rw [(ensureBookLocked_spec cfg hbook).1]
  refine .market _ fun t ht => ?_
  rw [Std.ExtTreeMap.mem_insert]
  exact .inr (ensureBookLocked_keeps cfg hbook ht)

theorem onTbtOrderMessage_steps (hother : ∀ h st, ok h st .other) (env : CallEnv)
    (message : TbtOrderMessage) (hok : ok h st .market) :
    Steps (ActWith cfg ok) (h, st)
      (h ++ (onTbtOrderMessage cfg env message st).1, (onTbtOrderMessage cfg env message st).2) := by
  unfold onTbtOrderMessage
  cases hbook : ensureBookLocked cfg st message.token with
  | none => exact .refl' h st
  | some r =>
      obtain ⟨book, st'⟩ := r
      simp only []
      cases applyTbtOrderMessage message book with
      | none =>
          rw [(ensureBookLocked_spec cfg hbook).1]
          exact .one ⟨_, .market _ fun t => ensureBookLocked_keeps cfg hbook, hok⟩
      | some book' =>
          have hupdate : Steps (ActWith cfg ok) (h, st) (h ++ [], _) :=
            .one ⟨_, market_act book' hbook, hok⟩
          exact hupdate.append (maybeFillRestingOrdersLocked_steps hother env _)

theorem onTbtTradeMessage_steps (hother : ∀ h st, ok h st .other) (env : CallEnv)
    (message : TbtTradeMessage) (hok : ok h st .market) :
    Steps (ActWith cfg ok) (h, st)
      (h ++ (onTbtTradeMessage cfg env message st).1, (onTbtTradeMessage cfg env message st).2) := by
  unfold onTbtTradeMessage
  cases hbook : ensureBookLocked cfg st message.token with
  | none => exact .refl' h st
  | some r =>
      obtain ⟨book, st'⟩ := r
      have hupdate : Steps (ActWith cfg ok) (h, st) (h ++ [], _) :=
        .one ⟨_, market_act (book.onTrade message.buyOrderId message.sellOrderId
          message.tradePrice message.tradeQuantity) hbook, hok⟩
      exact hupdate.append (maybeFillRestingOrdersLocked_steps hother env _)

theorem eraseOrderIds_steps (hother : ∀ h st, ok h st .other) (ids : List UInt64) :
    Steps (ActWith cfg ok) (h, st) (h ++ [], eraseOrderIds ids st) := by
  induction ids generalizing st h with
  | nil => exact .refl' h st
  | cons id ids ih =>
      rw [eraseOrderIds, List.foldl_cons]
      cases hlive : st.openOrders.find? id with
      | none => exact ih
      | some live =>
          have hself : st.openOrders.find? live.exchangeOrderNumber = some live := by
            rw [OrderStore.find?_number hlive]; exact hlive
          exact (step_other hother (.drop (.entry id) hself hlive)).append ih

/-! ## Calls -/

/-- A call is a sequence of acts; the condition on the acts has to hold of the first of them, in the
state of the call. -/
theorem engine_steps (hother : ∀ h st, ok h st .other) (op : Op)
    (hok : ok h st (label cfg st op)) :
    Steps (ActWith cfg ok) (h, st) (h ++ (engine cfg st op).1, (engine cfg st op).2) := by
  cases op with
  | newOrder env request sessionId session =>
      exact onNewOrder_steps hother env request sessionId session hok
  | modifyOrder env request sessionId session =>
      exact onModifyOrder_steps hother env request sessionId session hok
  | cancelOrder env request sessionId session =>
      exact onCancelOrder_steps hother env request sessionId session
  | tbtOrder env message => exact onTbtOrderMessage_steps hother env message hok
  | tbtTrade env message => exact onTbtTradeMessage_steps hother env message hok
  | sessionClosed sessionId =>
      rw [engine, onSessionClosed]
      cases st.openOrderIdsBySession.buckets[sessionId]? with
      | none => exact .refl' h st
      | some ids => exact eraseOrderIds_steps hother ids.toList

end NseFoExchangeSim.Engine
