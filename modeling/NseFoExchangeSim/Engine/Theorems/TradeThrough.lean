import NseFoExchangeSim.Engine.Lemmas.PerOrder
import NseFoExchangeSim.Engine.Lemmas.Wrap

/-!
# No trade-through

Every trade is at the top of the book, for no more than stands there and no more than remains of the
order, and at a price the order's limit admits, whichever path the trade comes from.
-/

namespace NseFoExchangeSim.Engine

open Lib Protocol

variable {cfg : EngineConfig} {h es new : List EngineEvent} {st st' : EngineState} {l : Label}
  {n : UInt64} {o o' : Option OrderSnapshot}

/-! ## What a history says about an order -/

/-- The order as the last of its events left it. -/
def lastIn (es : List EngineEvent) : Option OrderSnapshot := es.getLast?.map (·.order)

/-- The order as it was last confirmed, on entry or by a modification. -/
def limitIn (es : List EngineEvent) : Option OrderSnapshot :=
  lastIn (es.filter fun e => e.isConfirmation || e.isModification)

def lastOrder (n : UInt64) (h : List EngineEvent) : Option OrderSnapshot := lastIn (eventsOf n h)

def limitOrder (n : UInt64) (h : List EngineEvent) : Option OrderSnapshot := limitIn (eventsOf n h)

section Snoc

variable {e : EngineEvent}

@[simp] theorem lastIn_snoc : lastIn (es ++ [e]) = some e.order := by simp [lastIn]

theorem limitIn_confirmed (hc : (e.isConfirmation || e.isModification) = true) :
    limitIn (es ++ [e]) = some e.order := by
  simp [limitIn, lastIn, List.filter_append, hc]

theorem limitIn_unconfirmed (hc : (e.isConfirmation || e.isModification) = false) :
    limitIn (es ++ [e]) = limitIn es := by
  simp [limitIn, List.filter_append, hc]

end Snoc

/-! ## Fair trades -/

/-- The last event, if it is a trade, fills no more than remained of its order, at a price the order's
latest limit admits. -/
def FairTrade (es : List EngineEvent) : Prop :=
  ∀ k e, es = k ++ [e] → e.isTrade = true → 0 < e.fillQuantity ∧
    (∃ o, lastIn k = some o ∧ e.fillQuantity ≤ o.totalVolumeRemaining) ∧
    ∃ o side, limitIn k = some o ∧ Admits o side e.fillPrice

theorem fairTrade_quiet {e : EngineEvent} (ht : e.isTrade = false) : FairTrade (es ++ [e]) := by
  intro k e' hk ht'
  obtain ⟨_, htail⟩ := List.append_inj' hk rfl
  cases htail
  rw [ht] at ht'
  cases ht'

theorem Admits.congr {order other : OrderSnapshot} {side : BookSide} {price : UInt32}
    (ha : Admits order side price) (hp : other.price = order.price)
    (hs : other.side = order.side) : Admits other side price := by
  cases side with
  | ask => exact ⟨hs.trans ha.1, by rw [hp]; exact ha.2⟩
  | bid => exact ⟨hs.trans ha.1, by rw [hp]; exact ha.2⟩

section Trade

variable {live filled c snapshot : OrderSnapshot} {price quantity : UInt32}

/-- A fill is a fair trade when the history has the order as it is, under the limit it has. -/
theorem fairTrade_fill (hmd : cfg.marketDataEnabled = true) (hf : Fills cfg live filled price quantity)
    (hlast : lastIn es = some live) (hlimit : limitIn es = some c) (hp : c.price = live.price)
    (hs : c.side = live.side) : FairTrade (es ++ [makeTradeEvent filled price quantity]) := by
  intro k e hk _
  obtain ⟨hk, htail⟩ := List.append_inj' hk rfl
  subst hk
  cases htail
  obtain ⟨side, hadm⟩ := hf.admits hmd
  exact ⟨hf.pos, ⟨live, hlast, hf.le⟩, c, side, hlimit, hadm.congr hp hs⟩

theorem fair_entered (hmd : cfg.marketDataEnabled = true) (hfair : Everywhere FairTrade es)
    (hf : Fills cfg snapshot filled price quantity) :
    Everywhere FairTrade
      (es ++ [confirmationEvent snapshot, makeTradeEvent filled price quantity]) := by
  have hconf : Everywhere FairTrade (es ++ [confirmationEvent snapshot]) :=
    hfair.snoc (fairTrade_quiet rfl)
  have htrade := hconf.snoc
    (fairTrade_fill hmd hf lastIn_snoc (limitIn_confirmed rfl) rfl rfl)
  rwa [List.append_assoc] at htrade

end Trade

/-- The invariant behind the bounds: every trade so far was fair, and an open order is as its last
event left it, with the limit it was last confirmed with. -/
structure Fair (es : List EngineEvent) (o : Option OrderSnapshot) : Prop where
  trades : Everywhere FairTrade es
  last : ∀ live, o = some live → lastIn es = some live
  limit : ∀ live, o = some live →
    ∃ c, limitIn es = some c ∧ c.price = live.price ∧ c.side = live.side

/-- An order that ends, or never rests, leaves only its trades to be fair. -/
theorem fair_closed (hfair : Everywhere FairTrade es) : Fair es none := by
  refine ⟨hfair, fun live hlive => ?_, fun live hlive => ?_⟩
  · cases hlive
  · cases hlive

theorem Fair.act (hmd : cfg.marketDataEnabled = true) (hs : Fair es o)
    (hfresh : ∀ snapshot, l = .accept snapshot → snapshot.exchangeOrderNumber = n → o = none)
    (ha : OrderAct cfg n l o new o') : Fair (es ++ new) o' := by
  cases ha with
  | idle =>
      rw [List.append_nil]
      exact hs
  | immediate hdark he hf =>
      rw [hmd] at hdark
      cases hdark
  | @rests _ snapshot _ he hday =>
      refine ⟨hs.trades.snoc (fairTrade_quiet rfl), fun live hlive => ?_, fun live hlive => ?_⟩
      · cases hlive
        exact lastIn_snoc
      · cases hlive
        exact ⟨snapshot, limitIn_confirmed rfl, rfl, rfl⟩
  | @unfilled _ snapshot cancelled _ he hioc hx =>
      obtain rfl := hfresh _ rfl he.number
      have hconf : Everywhere FairTrade (es ++ [confirmationEvent snapshot]) :=
        hs.trades.snoc (fairTrade_quiet rfl)
      have hcancel := hconf.snoc (fairTrade_quiet (e := cancellationEvent cancelled) rfl)
      rw [List.append_assoc] at hcancel
      exact fair_closed hcancel
  | filled _ he hioc hf hrest =>
      obtain rfl := hfresh _ rfl he.number
      exact fair_closed (fair_entered hmd hs.trades hf)
  | @partFilled _ snapshot filled price quantity cancelled _ he hioc hf hrest hx =>
      obtain rfl := hfresh _ rfl he.number
      have hcancel := (fair_entered hmd hs.trades hf).snoc
        (fairTrade_quiet (e := cancellationEvent cancelled) rfl)
      rw [List.append_assoc] at hcancel
      exact fair_closed hcancel
  | @modify request live r now hlive hrequest hv =>
      refine ⟨hs.trades.snoc (fairTrade_quiet rfl), fun live' hlive' => ?_, fun live' hlive' => ?_⟩
      · cases hlive'
        exact lastIn_snoc
      · cases hlive'
        exact ⟨_, limitIn_confirmed rfl, rfl, rfl⟩
  | @trade live filled price quantity hlive hf =>
      obtain ⟨c, hlimit, hp, hside⟩ := hs.limit live rfl
      have htrades := hs.trades.snoc (fairTrade_fill hmd hf (hs.last live rfl) hlimit hp hside)
      split
      · exact fair_closed htrades
      · refine ⟨htrades, fun live' hlive' => ?_, fun live' hlive' => ?_⟩
        · cases hlive'
          exact lastIn_snoc
        · cases hlive'
          rw [limitIn_unconfirmed rfl]
          exact ⟨c, hlimit, hp.trans hf.price_eq.symm, hside.trans hf.side_eq.symm⟩
  | cancel hlive hx => exact fair_closed (hs.trades.snoc (fairTrade_quiet rfl))
  | drop hlive =>
      rw [List.append_nil]
      exact fair_closed hs.trades

theorem Reachable.fair (hmd : cfg.marketDataEnabled = true) (r : Reachable cfg h st)
    (hle : acceptedCount h ≤ 2 ^ 64) (n : UInt64) : Fair (eventsOf n h) (st.openOrders.find? n) := by
  have hboth : Counted cfg h st ∧
      (acceptedCount h ≤ 2 ^ 64 → Fair (eventsOf n h) (st.openOrders.find? n)) := by
    refine anyRun_induct (P := fun h st => Counted cfg h st ∧ (acceptedCount h ≤ 2 ^ 64 →
      Fair (eventsOf n h) (st.openOrders.find? n))) ⟨.init cfg, fun _ => ?_⟩ ?_ r
    · rw [EngineConfig.init, OrderStore.find?_empty, eventsOf_nil]
      refine fair_closed (everywhere_nil fun k e hk => ?_)
      simp at hk
    · rintro h st l es st' ⟨hc, hs⟩ ha
      refine ⟨hc.act ha, fun hle => ?_⟩
      rw [acceptedCount_append] at hle
      rw [eventsOf_append]
      refine (hs (by omega)).act hmd (fun snapshot hl hn => ?_) (ha.order n)
      subst hl
      obtain ⟨hone, hnext⟩ := ha.accepts
      exact hc.fresh (hn.symm.trans hnext) (by omega)
  exact hboth.2 hle

/-! ## The top of the book -/

/-- The trade is at the top of its token's book. -/
def TradesAtTop (st : EngineState) (e : EngineEvent) : Prop :=
  e.isTrade = true → AtTop st e.order.token e.order e.fillPrice e.fillQuantity

theorem AtTop.filled {token : UInt32} {order other : OrderSnapshot} {price quantity : UInt32}
    (ha : AtTop st token order price quantity) (ht : other.token = token)
    (hp : other.price = order.price) (hs : other.side = order.side) :
    AtTop st other.token other price quantity := by
  obtain ⟨book, side, topQty, hbook, hbest, hadm, hq⟩ := ha
  exact ⟨book, side, topQty, by rw [ht]; exact hbook, hbest, hadm.congr hp hs, hq⟩

theorem Act.tradesAtTop (hmd : cfg.marketDataEnabled = true) (hi : Indexed st)
    (ha : Act cfg l st es st') : ∀ e ∈ es, TradesAtTop st' e := by
  intro e he ht
  cases ha with
  | reject hcode =>
      rw [List.mem_singleton.mp he, (failed_kind hcode).2.2.2.2] at ht
      cases ht
  | market books hkeep => cases he
  | enterImmediate now hac hdark hs hf =>
      rw [hmd] at hdark
      cases hdark
  | enterDay hac _ hday hs =>
      rw [List.mem_singleton.mp he] at ht
      cases ht
  | enterIocUnfilled now hac _ hioc hs =>
      simp only [List.mem_cons, List.not_mem_nil, or_false] at he
      rcases he with rfl | rfl
      · cases ht
      · cases ht
  | enterIocFilled now hac _ hioc hs htop hpos hle hf hrest =>
      simp only [List.mem_cons, List.not_mem_nil, or_false] at he
      rcases he with rfl | rfl
      · cases ht
      · subst hf
        exact (htop.congr rfl).filled rfl rfl rfl
  | enterIocPartial now now' hac _ hioc hs htop hpos hle hf hrest =>
      simp only [List.mem_cons, List.not_mem_nil, or_false] at he
      rcases he with rfl | rfl | rfl
      · cases ht
      · subst hf
        exact (htop.congr rfl).filled rfl rfl rfl
      · cases ht
  | modify now hm hl =>
      rw [List.mem_singleton.mp he] at ht
      cases ht
  | @fill _ live filled price quantity token now hlive hpos hle htoken htop hf =>
      subst hf
      rw [List.mem_singleton.mp he]
      have heq : live.token = token := by
        rcases htoken with heq | hid
        · exact heq
        · obtain ⟨o, ho, heq⟩ := (hi.byToken token _).mp hid
          rw [hlive] at ho
          cases ho
          exact heq
      exact ((htop hmd).congr (afterFill_books ..)).filled heq rfl rfl
  | cancel now hlive =>
      rw [List.mem_singleton.mp he] at ht
      cases ht
  | drop arg hlive harg => cases he

theorem Act.books_other (ha : Act cfg .other st es st') : st'.books = st.books := by
  cases ha with
  | reject he => rfl
  | fill token now hlive hpos hle htoken htop hf => exact afterFill_books ..
  | cancel now hlive => exact eraseOpenOrderLocked_books ..
  | drop arg hlive harg => exact eraseOpenOrderLocked_books ..

/-- The trades of a call are at the top of the books it leaves, which are those the trades were made
on. -/
theorem engine_tradesAtTop (hmd : cfg.marketDataEnabled = true) (r : Reachable cfg h st) (op : Op)
    (hle : acceptedCount (h ++ (engine cfg st op).1) ≤ 2 ^ 64) :
    ∀ e ∈ (engine cfg st op).1, TradesAtTop (engine cfg st op).2 e := by
  -- Only the first act finds the history as it was before the call.
  have hsteps : Steps (ActWith cfg fun k _ l => l = .other ∨ k = h) (h, st)
      (h ++ (engine cfg st op).1, (engine cfg st op).2) :=
    engine_steps (fun _ _ => .inl rfl) op (.inr rfl)
  have hinv := hsteps.invariant (c := (h, st)) (P := fun k s => Counted cfg k s ∧
    (acceptedCount k ≤ 2 ^ 64 → Indexed s ∧ ∃ es, k = h ++ es ∧ ∀ e ∈ es, TradesAtTop s e)) ?_ ?_
  · obtain ⟨_, es, hes, htop⟩ := hinv.2 hle
    rwa [List.append_cancel_left hes]
  · rintro k s new s' ⟨hc, hrest⟩ ⟨l, ha, hl⟩
    refine ⟨hc.act ha, fun hle => ?_⟩
    have hle' : acceptedCount k ≤ 2 ^ 64 := by rw [acceptedCount_append] at hle; omega
    obtain ⟨hi, es, hes, htop⟩ := hrest hle'
    have hnew := ha.tradesAtTop hmd hi
    refine ⟨hi.act hc hle ha, es ++ new, by rw [hes, List.append_assoc], fun e he => ?_⟩
    rcases List.mem_append.mp he with he | he
    · rcases hl with rfl | hk
      · exact fun ht => (htop e he ht).congr ha.books_other
      · rw [hk, List.self_eq_append_right] at hes
        rw [hes] at he
        cases he
    · exact hnew e he
  · refine ⟨r.counted, fun hle => ⟨r.indexed hle, [], by simp, ?_⟩⟩
    intro e he
    cases he

/-! ## No trade-through -/

/-- A trade, made after the history `h` in a call that leaves the state `st`, is at the top of the book
of its order's token, for no more than stands there, no more than remained of the order, and at no
worse than the limit the order was last confirmed with. -/
structure TopTrade (st : EngineState) (h : List EngineEvent) (e : EngineEvent) : Prop where
  pos : 0 < e.fillQuantity
  atTop : AtTop st e.order.token e.order e.fillPrice e.fillQuantity
  within : ∃ o, lastOrder e.order.exchangeOrderNumber h = some o ∧
    e.fillQuantity ≤ o.totalVolumeRemaining
  limit : ∃ o side, limitOrder e.order.exchangeOrderNumber h = some o ∧ Admits o side e.fillPrice

/-- No trade goes through the top of its book, through its order, or through the order's limit, before
the order numbers come round. -/
theorem no_trade_through (hmd : cfg.marketDataEnabled = true) (r : Reachable cfg h st) (op : Op)
    (hle : acceptedCount (h ++ (engine cfg st op).1) ≤ 2 ^ 64) (k : List EngineEvent)
    (e : EngineEvent) (hk : k ++ [e] <+: (engine cfg st op).1) (ht : e.isTrade = true) :
    TopTrade (engine cfg st op).2 (h ++ k) e := by
  have hmem : e ∈ (engine cfg st op).1 := hk.subset (by simp)
  have hfair := (Reachable.fair hmd (r.snoc op trivial) hle e.order.exchangeOrderNumber).trades
  have hsuccess : e.successful = true := by
    rw [EngineEvent.isTrade, Bool.and_eq_true] at ht
    exact ht.1
  have hsplit : eventsOf e.order.exchangeOrderNumber (h ++ (k ++ [e])) =
      eventsOf e.order.exchangeOrderNumber (h ++ k) ++ [e] := by
    rw [← List.append_assoc, eventsOf_append, eventsOf_cons, if_pos ⟨hsuccess, rfl⟩, eventsOf_nil]
  have hpre : eventsOf e.order.exchangeOrderNumber (h ++ (k ++ [e])) <+:
      eventsOf e.order.exchangeOrderNumber (h ++ (engine cfg st op).1) :=
    ((List.prefix_append_right_inj h).mpr hk).filter _
  obtain ⟨hpos, hlast, hlimit⟩ := hfair _ hpre _ e hsplit ht
  exact ⟨hpos, engine_tradesAtTop hmd r op hle e hmem ht, hlast, hlimit⟩

theorem no_trade_through_offered :
    ∃ e, (engine bookMatching
        (exec (engine bookMatching) bookMatching.init restingRun).2 offer).1 = [e] ∧
      TopTrade (engine bookMatching
        (exec (engine bookMatching) bookMatching.init restingRun).2 offer).2
        (exec (engine bookMatching) bookMatching.init restingRun).1 e := by
  have hone : (engine bookMatching
      (exec (engine bookMatching) bookMatching.init restingRun).2 offer).1.length = 1 := by
    decide +kernel
  have htrades : ∀ e ∈ (engine bookMatching
      (exec (engine bookMatching) bookMatching.init restingRun).2 offer).1, e.isTrade = true := by
    decide +kernel
  obtain ⟨e, he⟩ := List.length_eq_one_iff.mp hone
  have htop := no_trade_through rfl (run_exec (engine bookMatching) bookMatching.init restingRun)
    offer (by decide +kernel) [] e (by rw [he]; simp) (htrades e (by rw [he]; simp))
  rw [List.append_nil] at htop
  exact ⟨e, he, htop⟩

/-- When the numbers have come round, an order for one token can trade at the top of the book of
another. -/
theorem trade_through_after_round :
    ¬∀ h st, Reachable bookMatching h st → ∀ (op : Op) (k : List EngineEvent) (e : EngineEvent),
      k ++ [e] <+: (engine bookMatching st op).1 → e.isTrade = true →
        TopTrade (engine bookMatching st op).2 (h ++ k) e := by
  intro hall
  obtain ⟨h, r⟩ := reusedState_reachable
  have hone : (engine bookMatching reusedState offer).1.length = 1 := by decide +kernel
  obtain ⟨e, he⟩ := List.length_eq_one_iff.mp hone
  have hevents : ∀ e ∈ (engine bookMatching reusedState offer).1,
      e.isTrade = true ∧ e.order.token = 765432 := by decide +kernel
  obtain ⟨ht, htoken⟩ := hevents e (by rw [he]; simp)
  obtain ⟨book, side, topQty, hbook, hbest, _⟩ := (hall h _ r offer [] e (by rw [he]; simp) ht).atTop
  have hempty : (((engine bookMatching reusedState offer).2.books[(765432 : UInt32)]?).all fun book =>
      book.bestBid.isNone && book.bestAsk.isNone) = true := by decide +kernel
  rw [htoken] at hbook
  rw [hbook] at hempty
  simp only [Option.all_some, Bool.and_eq_true, Option.isNone_iff_eq_none] at hempty
  cases side with
  | bid =>
      rw [ExternalBook.best, hempty.1] at hbest
      cases hbest
  | ask =>
      rw [ExternalBook.best, hempty.2] at hbest
      cases hbest

end NseFoExchangeSim.Engine
