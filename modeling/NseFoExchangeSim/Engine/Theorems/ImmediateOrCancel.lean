import NseFoExchangeSim.Engine.Theorems.Isolation

/-!
# Immediate-or-cancel orders leave nothing behind

An immediate-or-cancel order trades once against the top of its book and the rest of it is cancelled in
the same answer: the two quantities add up to its volume, and no order, index or level changes.
-/

namespace NseFoExchangeSim.Engine

open Protocol

variable {cfg : EngineConfig} {st : EngineState} {env : CallEnv} {snapshot : OrderSnapshot}

/-! ## The answer -/

/-- The quantity a match offers; nothing is on offer without one. -/
def offeredQuantity (top : Option TopOfBookMatch) : UInt32 := (top.map (·.quantity)).getD 0

/-- The quantity that trades at once. -/
def immediateQuantity (snapshot : OrderSnapshot) (top : Option TopOfBookMatch) : UInt32 :=
  min snapshot.volume (offeredQuantity top)

/-- One event of a kind when the condition holds, and none otherwise. -/
def OneIff (p : Prop) (kind : EngineEvent → Prop) (es : List EngineEvent) : Prop :=
  (p ∧ ∃ e, es = [e] ∧ kind e) ∨ (¬p ∧ es = [])

/-- The trade of an order's immediate quantity at the matched price. -/
structure TradesAtOnce (snapshot : OrderSnapshot) (top : Option TopOfBookMatch) (e : EngineEvent) :
    Prop where
  trade : e.isTrade = true
  session : e.session = snapshot.session
  number : e.order.exchangeOrderNumber = snapshot.exchangeOrderNumber
  price : top.map (·.price) = some e.fillPrice
  limit : ∃ side, Admits snapshot side e.fillPrice
  quantity : e.fillQuantity = immediateQuantity snapshot top
  remaining : e.order.totalVolumeRemaining = snapshot.volume - immediateQuantity snapshot top
  filledToday : e.order.volumeFilledToday = immediateQuantity snapshot top

/-- The cancellation of what is left after the immediate quantity. -/
structure CancelsRest (snapshot : OrderSnapshot) (top : Option TopOfBookMatch) (e : EngineEvent) :
    Prop where
  cancellation : e.isCancellation = true
  session : e.session = snapshot.session
  number : e.order.exchangeOrderNumber = snapshot.exchangeOrderNumber
  filledToday : e.order.volumeFilledToday = immediateQuantity snapshot top
  remaining : e.order.totalVolumeRemaining = 0
  disclosed : e.order.disclosedVolumeRemaining = 0

/-- The events that answer an immediate-or-cancel order. -/
structure IocEvents (snapshot : OrderSnapshot) (top : Option TopOfBookMatch)
    (es : List EngineEvent) : Prop where
  events : ∃ trades cancels, es = confirmationEvent snapshot :: (trades ++ cancels) ∧
    OneIff (0 < immediateQuantity snapshot top) (TradesAtOnce snapshot top) trades ∧
    OneIff (immediateQuantity snapshot top < snapshot.volume) (CancelsRest snapshot top) cancels
  conserved : filledIn es + (snapshot.volume - immediateQuantity snapshot top).toNat =
    snapshot.volume.toNat

/-- The book of a token; a token without one has the empty book. -/
def bookOf (st : EngineState) (token : UInt32) : ExternalBook := st.books[token]?.getD {}

/-- The resting orders, their indexes and the levels of every book are as before. -/
structure KeepsResting (st st' : EngineState) : Prop where
  openOrders : st'.openOrders = st.openOrders
  byToken : st'.openOrderIdsByToken = st.openOrderIdsByToken
  bySession : st'.openOrderIdsBySession = st.openOrderIdsBySession
  books : ∀ token, bookOf st' token = bookOf st token
  tracked : ∀ token, token ∈ st.books → token ∈ st'.books

/-! ## The events of the branch -/

section Branch

variable {top : Option TopOfBookMatch}

theorem immediateQuantity_le : immediateQuantity snapshot top ≤ snapshot.volume :=
  umin_le_left _ _

theorem immediateQuantity_none : immediateQuantity snapshot none = 0 := by
  have hle : immediateQuantity snapshot none ≤ 0 := umin_le_right _ _
  exact UInt32.le_zero_iff.mp hle

theorem filledIn_confirmation (es : List EngineEvent) :
    filledIn (confirmationEvent snapshot :: es) = filledIn es := by
  simp [filledIn]

/-- The fill of an order nothing of which has traded. -/
theorem tradesAtOnce_fill {found : TopOfBookMatch} (hmd : cfg.marketDataEnabled = true)
    (hfound : matchTopLocked cfg st snapshot = some found) (r : EngineState) (now : ClockReading)
    (hremaining : snapshot.totalVolumeRemaining = snapshot.volume)
    (hfilled : snapshot.volumeFilledToday = 0) :
    TradesAtOnce snapshot (some found)
      (makeTradeEvent (nextFill r snapshot (immediateQuantity snapshot (some found)) now)
        found.price (immediateQuantity snapshot (some found))) where
  trade := rfl
  session := rfl
  number := rfl
  price := rfl
  limit := by
    obtain ⟨_, side, _, _, _, hadmits, _⟩ := matchTopLocked_atTop hmd hfound
    exact ⟨side, hadmits⟩
  quantity := rfl
  remaining := by
    have hle : immediateQuantity snapshot (some found) ≤ snapshot.totalVolumeRemaining := by
      rw [hremaining]; exact immediateQuantity_le
    rw [makeTradeEvent_order, nextFill_remaining hle, hremaining]
  filledToday := by
    have hle : immediateQuantity snapshot (some found) ≤ snapshot.totalVolumeRemaining := by
      rw [hremaining]; exact immediateQuantity_le
    rw [makeTradeEvent_order, nextFill_filled hle, hfilled, UInt32.zero_add]

/-- The cancellation of an order of which the immediate quantity has traded. -/
theorem cancelsRest_cancel {order : OrderSnapshot} (r : EngineState) (now : ClockReading)
    (hsession : order.session = snapshot.session)
    (hnumber : order.exchangeOrderNumber = snapshot.exchangeOrderNumber)
    (hfilled : order.volumeFilledToday = immediateQuantity snapshot top) :
    CancelsRest snapshot top (cancellationEvent (nextCancel r order now)) where
  cancellation := rfl
  session := hsession
  number := hnumber
  filledToday := hfilled
  remaining := rfl
  disclosed := rfl

/-- An answer without a trade: nothing was on offer. -/
theorem iocEvents_unfilled (r : EngineState) (now : ClockReading)
    (hzero : immediateQuantity snapshot top = 0) (hvolume : 0 < snapshot.volume)
    (hfilled : snapshot.volumeFilledToday = 0) :
    IocEvents snapshot top
      [confirmationEvent snapshot, cancellationEvent (nextCancel r snapshot now)] where
  events := by
    refine ⟨[], [cancellationEvent (nextCancel r snapshot now)], rfl, .inr ⟨?_, rfl⟩,
      .inl ⟨?_, _, rfl, cancelsRest_cancel r now rfl rfl ?_⟩⟩
    · rw [hzero]; exact UInt32.lt_irrefl 0
    · rw [hzero]; exact hvolume
    · rw [hzero, hfilled]
  conserved := by
    rw [filledIn_confirmation, hzero, UInt32.sub_zero]
    simp [filledIn]

/-- An answer with a trade: what it leaves, if anything, is cancelled. -/
theorem iocEvents_traded {trade : EngineEvent} {cancels : List EngineEvent}
    (hpos : 0 < immediateQuantity snapshot top) (htrade : TradesAtOnce snapshot top trade)
    (hcancels : OneIff (immediateQuantity snapshot top < snapshot.volume) (CancelsRest snapshot top)
      cancels) :
    IocEvents snapshot top (confirmationEvent snapshot :: trade :: cancels) where
  events := ⟨[trade], cancels, rfl, .inl ⟨hpos, trade, rfl, htrade⟩, hcancels⟩
  conserved := by
    have hle : immediateQuantity snapshot top ≤ snapshot.volume := immediateQuantity_le
    have hnone : cancels.filter (·.isTrade) = [] := by
      rcases hcancels with ⟨_, e, rfl, hcancel⟩ | ⟨_, rfl⟩
      · rw [List.filter_eq_nil_iff]
        intro e' he'
        rw [List.mem_singleton.mp he',
          EngineEvent.isTrade_eq_false_of_isCancellation hcancel.cancellation]
        exact Bool.false_ne_true
      · rfl
    have hfilled : filledIn (trade :: cancels) = (immediateQuantity snapshot top).toNat := by
      simp [filledIn, htrade.trade, hnone, htrade.quantity]
    rw [filledIn_confirmation, hfilled, UInt32.toNat_sub_of_le _ _ hle]
    have := UInt32.le_iff_toNat_le.mp hle
    omega

/-- The branch answers with the trade of what is on offer and the cancellation of the rest. -/
theorem enterIoc_events (hmd : cfg.marketDataEnabled = true)
    (hremaining : snapshot.totalVolumeRemaining = snapshot.volume)
    (hfilled : snapshot.volumeFilledToday = 0) (hvolume : 0 < snapshot.volume) :
    IocEvents snapshot (matchTopLocked cfg st snapshot) (enterIoc cfg env snapshot st).1 := by
  unfold enterIoc
  cases hfound : matchTopLocked cfg st snapshot with
  | none => exact iocEvents_unfilled st (env.clock 1) immediateQuantity_none hvolume hfilled
  | some found =>
      have hquantity : min snapshot.totalVolumeRemaining found.quantity =
          immediateQuantity snapshot (some found) := by rw [hremaining]; rfl
      have htrade := tradesAtOnce_fill hmd hfound st (env.clock 1) hremaining hfilled
      have hleft := htrade.remaining
      have hrest : 0 < (nextFill st snapshot (immediateQuantity snapshot (some found))
          (env.clock 1)).totalVolumeRemaining ↔
            immediateQuantity snapshot (some found) < snapshot.volume := by
        rw [makeTradeEvent_order] at hleft
        rw [hleft, UInt32.lt_iff_toNat_lt, UInt32.lt_iff_toNat_lt,
          UInt32.toNat_sub_of_le _ _ immediateQuantity_le, UInt32.toNat_zero]
        omega
      simp only [hquantity]
      split
      · rename_i hpos
        split
        · rename_i hopen
          -- The cancellation carries the filled snapshot, not the one of the confirmation.
          exact iocEvents_traded hpos htrade
            (.inl ⟨hrest.mp hopen, _, rfl, cancelsRest_cancel _ _ rfl rfl htrade.filledToday⟩)
        · rename_i hdone
          exact iocEvents_traded hpos htrade (.inr ⟨mt hrest.mpr hdone, rfl⟩)
      · rename_i hpos
        have hzero : immediateQuantity snapshot (some found) = 0 := by
          by_contra hne
          exact hpos (UInt32.pos_iff_ne_zero.mpr hne)
        exact iocEvents_unfilled st (env.clock 1) hzero hvolume hfilled

end Branch

/-! ## The state after it -/

theorem KeepsResting.trans {st' st'' : EngineState} (h : KeepsResting st st')
    (h' : KeepsResting st' st'') : KeepsResting st st'' where
  openOrders := h'.openOrders.trans h.openOrders
  byToken := h'.byToken.trans h.byToken
  bySession := h'.bySession.trans h.bySession
  books token := (h'.books token).trans (h.books token)
  tracked token ht := h'.tracked token (h.tracked token ht)

/-- The branch draws references and a fill number, nothing else. -/
theorem enterIoc_keeps : KeepsResting st (enterIoc cfg env snapshot st).2 := by
  have houtcome := enterIoc_outcome cfg env st snapshot
  generalize enterIoc cfg env snapshot st = answer at houtcome ⊢
  cases houtcome with
  | unfilled now => exact ⟨rfl, rfl, rfl, fun _ => rfl, fun _ => id⟩
  | filled now htop hpos hle havailable hrest => exact ⟨rfl, rfl, rfl, fun _ => rfl, fun _ => id⟩
  | partFilled now now' htop hpos hle havailable hrest =>
      exact ⟨rfl, rfl, rfl, fun _ => rfl, fun _ => id⟩

/-- Acceptance may make the book of its token, with no level in it. -/
theorem acceptedState_keepsResting (token : UInt32) (st : EngineState) :
    KeepsResting st (acceptedState cfg token st) where
  openOrders := acceptedState_openOrders cfg st token
  byToken := acceptedState_openOrderIdsByToken cfg st token
  bySession := acceptedState_openOrderIdsBySession cfg st token
  books t := by
    rcases acceptedState_addsEmptyBook token with hsame | ⟨made, hnone, hmade⟩
    · rw [bookOf, hsame, bookOf]
    · rw [bookOf, hmade, bookOf, Std.ExtTreeMap.getElem?_insert]
      split
      · rename_i heq
        rw [← Std.LawfulEqOrd.compare_eq_iff_eq.mp heq, hnone]
        rfl
      · rfl
  tracked t ht := acceptedState_keeps cfg st token ht

/-! ## Conservation -/

/-- In any state, a valid immediate-or-cancel request for a token the engine can track trades what the
top of the book offers, has the rest cancelled, and leaves the resting orders as they were. -/
theorem ioc_conserved (hmd : cfg.marketDataEnabled = true) {request : OrderEntryRequestPayload}
    {sessionId : UInt64} {session : SessionRef}
    (hvalid : isValidNewOrder (buildSnapshotFromEntryRequest request sessionId session) request)
    (hioc : request.orderFlags1 = kOrderFlagsIoc)
    (htrack : canTrackTokenLocked cfg st (byteswap request.tokenNo)) :
    let accepted :=
      acceptedSnapshot env (buildSnapshotFromEntryRequest request sessionId session) st
    let entered := acceptedState cfg (byteswap request.tokenNo) st
    let answer := onNewOrder cfg env request sessionId session st
    IocEvents accepted (matchTopLocked cfg entered accepted) answer.1 ∧
      KeepsResting st answer.2 := by
  intro accepted entered answer
  have ha : Accepted cfg st accepted := ⟨env, request, sessionId, session, rfl, hvalid, htrack⟩
  have hflag : accepted.ioc = true := by
    show (request.orderFlags1 == kOrderFlagsIoc) = true
    rw [hioc]; rfl
  have hanswer : answer = enterIoc cfg env accepted entered := by
    show onNewOrder cfg env request sessionId session st = _
    have htoken : canTrackTokenLocked cfg st
        (buildSnapshotFromEntryRequest request sessionId session).token = true := htrack
    simp only [onNewOrder, hvalid, hmd, htoken, Bool.not_true, Bool.and_false, Bool.false_eq_true,
      if_false]
    exact if_pos hflag
  rw [hanswer]
  exact ⟨enterIoc_events hmd ha.remaining ha.filled ha.volume_pos,
    (acceptedState_keepsResting _ st).trans enterIoc_keeps⟩

/-- Against an offer of 10, an order for 25 trades 10 and has 15 cancelled. -/
theorem ioc_conserved_part :
    let st := (Lib.exec (engine bookMatching) bookMatching.init [offer]).2
    let request := orderRequest 654321 1 25 1000 kOrderFlagsIoc
    let accepted := acceptedSnapshot calm (buildSnapshotFromEntryRequest request 1 1) st
    let top := matchTopLocked bookMatching (acceptedState bookMatching 654321 st) accepted
    let answer := onNewOrder bookMatching calm request 1 1 st
    immediateQuantity accepted top = 10 ∧ answer.1.length = 3 ∧ IocEvents accepted top answer.1 ∧
      KeepsResting st answer.2 :=
  ⟨by decide +kernel, by decide +kernel,
    ioc_conserved rfl (by decide +kernel) rfl (by decide +kernel)⟩

end NseFoExchangeSim.Engine
