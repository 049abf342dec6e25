import NseFoExchangeSim.Engine.Lemmas.PerOrder
import NseFoExchangeSim.Engine.Requests

/-!
# The reported fill counter

Every successful event carries `volumeFilledToday`. It is the quantity traded under the order's number
so far as long as the client's modifications restate it.
-/

namespace NseFoExchangeSim.Engine

open Lib

variable {cfg : EngineConfig} {h es : List EngineEvent} {st : EngineState} {l : Label} {n : UInt64}
  {o o' : Option OrderSnapshot}

/-- The last event of an order reports what its trades add up to. -/
def Reports (es : List EngineEvent) : Prop :=
  ∀ e, es.getLast? = some e → e.order.volumeFilledToday.toNat = filledIn es

/-- A modification restates what has been traded, and asks for a quantity that does not take the
counter past 32 bits. A new order gets a number nothing has traded under, and an IOC order one that no
open order has. -/
def KeepsCount (cfg : EngineConfig) (h : List EngineEvent) (st : EngineState) : Label → Prop
  | .accept snapshot =>
      traded snapshot.exchangeOrderNumber h = 0 ∧
        (cfg.marketDataEnabled = true → snapshot.ioc = true →
          st.openOrders.find? snapshot.exchangeOrderNumber = none)
  | .modify request =>
      request.volumeFilledToday.toNat = traded request.exchangeOrderNumber h ∧
        traded request.exchangeOrderNumber h +
          (if request.totalVolumeRemaining = 0 then request.volume.toNat
            else min request.totalVolumeRemaining.toNat request.volume.toNat) < 2 ^ 32
  | _ => True

instance (cfg : EngineConfig) (h : List EngineEvent) (st : EngineState) :
    ∀ l, Decidable (KeepsCount cfg h st l)
  | .accept snapshot =>
      inferInstanceAs (Decidable (traded snapshot.exchangeOrderNumber h = 0 ∧
        (cfg.marketDataEnabled = true → snapshot.ioc = true →
          st.openOrders.find? snapshot.exchangeOrderNumber = none)))
  | .modify request =>
      inferInstanceAs (Decidable (request.volumeFilledToday.toNat = _ ∧ _ < _))
  | .market => isTrue trivial
  | .other => isTrue trivial

section Reporting

variable {filled snapshot cancelled : OrderSnapshot} {price quantity : UInt32} {e : EngineEvent}

theorem reports_snoc (he : e.order.volumeFilledToday.toNat = filledIn (es ++ [e])) :
    Reports (es ++ [e]) := by
  intro e' hlast
  rw [List.getLast?_append, List.getLast?_singleton, Option.some_or] at hlast
  cases hlast
  exact he

/-- An event that is no trade reports rightly when its order holds what was traded before. -/
theorem reports_quiet (ht : e.isTrade = false)
    (he : e.order.volumeFilledToday.toNat = filledIn es) : Reports (es ++ [e]) := by
  apply reports_snoc
  rw [filledIn_snoc, ht, he]
  simp

/-- A trade reports rightly when its order counts the quantity on top of what was traded before. -/
theorem reports_trade (hf : filled.volumeFilledToday.toNat = filledIn es + quantity.toNat) :
    Reports (es ++ [makeTradeEvent filled price quantity]) := by
  apply reports_snoc
  rw [filledIn_snoc, makeTradeEvent_order, hf]
  simp

theorem reports_confirmed (hr : Everywhere Reports es) (h0 : filledIn es = 0)
    (he : Entered n snapshot) :
    Everywhere Reports (es ++ [confirmationEvent snapshot]) ∧
      filledIn (es ++ [confirmationEvent snapshot]) = 0 := by
  refine ⟨hr.snoc (reports_quiet rfl ?_), ?_⟩
  · rw [confirmationEvent_order, he.filled, h0]
    rfl
  · rw [filledIn_snoc, h0]
    simp

theorem reports_entered (hr : Everywhere Reports es) (h0 : filledIn es = 0)
    (he : Entered n snapshot) (hf : Fills cfg snapshot filled price quantity) :
    Everywhere Reports
        (es ++ [confirmationEvent snapshot, makeTradeEvent filled price quantity]) ∧
      filled.volumeFilledToday.toNat =
        filledIn (es ++ [confirmationEvent snapshot, makeTradeEvent filled price quantity]) := by
  obtain ⟨hconf, hzero⟩ := reports_confirmed hr h0 he
  have hq : filled.volumeFilledToday.toNat =
      filledIn (es ++ [confirmationEvent snapshot]) + quantity.toNat := by
    rw [hf.filled_eq, he.filled, UInt32.zero_add, hzero, Nat.zero_add]
  have htrade : Everywhere Reports
      (es ++ [confirmationEvent snapshot] ++ [makeTradeEvent filled price quantity]) :=
    hconf.snoc (reports_trade hq)
  have hsum : filledIn (es ++ [confirmationEvent snapshot] ++ [makeTradeEvent filled price quantity]) =
      filledIn (es ++ [confirmationEvent snapshot]) + quantity.toNat := by
    rw [filledIn_snoc]
    simp
  rw [← hsum, List.append_assoc] at hq
  rw [List.append_assoc] at htrade
  exact ⟨htrade, hq⟩

end Reporting

/-- The invariant behind the counter: every event of the order reported rightly, and an open order
holds what has been traded of it and has room for what remains. -/
structure Counts (es : List EngineEvent) (o : Option OrderSnapshot) : Prop where
  reports : Everywhere Reports es
  holds : ∀ live, o = some live →
    live.volumeFilledToday.toNat = filledIn es ∧ filledIn es + remaining live < 2 ^ 32

theorem Counts.act (hs : Counts (eventsOf n h) o) (hc : Counted cfg h st)
    (ho : st.openOrders.find? n = o) (hok : KeepsCount cfg h st l) (ha : OrderAct cfg n l o es o') :
    Counts (eventsOf n h ++ es) o' := by
  cases ha with
  | idle =>
      rw [List.append_nil]
      exact hs
  | @immediate _ snapshot filled price hmd he hf =>
      have h0 : filledIn (eventsOf n h) = 0 := by rw [← hok.1, he.number, traded]
      refine ⟨(reports_entered hs.reports h0 he hf).1, fun live hlive => ?_⟩
      rw [hc.dark hmd] at ho
      rw [← ho] at hlive
      cases hlive
  | @rests _ snapshot hmd he hday =>
      have h0 : filledIn (eventsOf n h) = 0 := by rw [← hok.1, he.number, traded]
      obtain ⟨hconf, hzero⟩ := reports_confirmed hs.reports h0 he
      refine ⟨hconf, fun live hlive => ?_⟩
      cases hlive
      rw [hzero, he.filled, Nat.zero_add]
      exact ⟨rfl, snapshot.totalVolumeRemaining.toNat_lt⟩
  | @unfilled _ snapshot cancelled hmd he hioc hx =>
      have h0 : filledIn (eventsOf n h) = 0 := by rw [← hok.1, he.number, traded]
      obtain ⟨hconf, hzero⟩ := reports_confirmed hs.reports h0 he
      have hcancel := hconf.snoc (e := cancellationEvent cancelled) (reports_quiet rfl (by
        rw [cancellationEvent_order, hx.filled_eq, he.filled, hzero]
        rfl))
      rw [List.append_assoc] at hcancel
      refine ⟨hcancel, fun live hlive => ?_⟩
      have hnone := hok.2 hmd hioc
      rw [he.number, ho, hlive] at hnone
      cases hnone
  | filled hmd he hioc hf hrest =>
      have h0 : filledIn (eventsOf n h) = 0 := by rw [← hok.1, he.number, traded]
      refine ⟨(reports_entered hs.reports h0 he hf).1, fun live hlive => ?_⟩
      have hnone := hok.2 hmd hioc
      rw [he.number, ho, hlive] at hnone
      cases hnone
  | @partFilled _ snapshot filled price quantity cancelled hmd he hioc hf hrest hx =>
      have h0 : filledIn (eventsOf n h) = 0 := by rw [← hok.1, he.number, traded]
      obtain ⟨htrade, hfilled⟩ := reports_entered hs.reports h0 he hf
      have hcancel := htrade.snoc (e := cancellationEvent cancelled) (reports_quiet rfl (by
        rw [cancellationEvent_order, hx.filled_eq]
        exact hfilled))
      rw [List.append_assoc] at hcancel
      refine ⟨hcancel, fun live hlive => ?_⟩
      have hnone := hok.2 hmd hioc
      rw [he.number, ho, hlive] at hnone
      cases hnone
  | @modify request live r now hlive hrequest hv =>
      obtain ⟨hfilled, hroom⟩ := hok
      rw [← toNat_modifiedRemaining hv] at hroom
      rw [hrequest, traded] at hfilled hroom
      refine ⟨hs.reports.snoc (reports_quiet rfl hfilled), fun live' hlive' => ?_⟩
      cases hlive'
      rw [filledIn_snoc]
      simpa [Engine.remaining] using ⟨hfilled, hroom⟩
  | @trade live filled price quantity hlive hf =>
      obtain ⟨hvft, hroom⟩ := hs.holds live rfl
      have hle := hf.le_toNat
      have hfilled : filled.volumeFilledToday.toNat =
          filledIn (eventsOf n h) + quantity.toNat := by
        rw [hf.filled_eq, UInt32.toNat_add, hvft]
        exact Nat.mod_eq_of_lt (by omega)
      refine ⟨hs.reports.snoc (reports_trade hfilled), fun live' hlive' => ?_⟩
      split at hlive'
      · cases hlive'
      · cases hlive'
        rw [filledIn_snoc, hf.remaining_eq, hfilled]
        simp only [makeTradeEvent_kind, if_true, makeTradeEvent_fillQuantity, true_and]
        omega
  | @cancel live cancelled hlive hx =>
      obtain ⟨hvft, _⟩ := hs.holds live rfl
      refine ⟨hs.reports.snoc (reports_quiet rfl ?_), fun live' hlive' => by cases hlive'⟩
      rw [cancellationEvent_order, hx.filled_eq]
      exact hvft
  | drop hlive =>
      rw [List.append_nil]
      exact ⟨hs.reports, fun live' hlive' => by cases hlive'⟩

/-- Every successful event reports what has been traded of its order, in a run whose modifications
restate it. -/
theorem reported_counter_is_ledger (r : RunWith cfg (CallsMeet cfg (KeepsCount cfg)) h st)
    (k : List EngineEvent) (e : EngineEvent) (hk : k ++ [e] <+: h) (hs : e.successful = true) :
    e.order.volumeFilledToday.toNat = traded e.order.exchangeOrderNumber (k ++ [e]) := by
  have hboth : ∀ n, Counted cfg h st ∧ Counts (eventsOf n h) (st.openOrders.find? n) := by
    intro n
    refine run_induct (P := fun h st => Counted cfg h st ∧
      Counts (eventsOf n h) (st.openOrders.find? n)) (fun _ _ => trivial) ⟨.init cfg, ?_⟩ ?_ r
    · refine ⟨everywhere_nil (fun e he => by cases he), fun live hlive => ?_⟩
      rw [EngineConfig.init, OrderStore.find?_empty] at hlive
      cases hlive
    · rintro h st l es st' ⟨hc, hs⟩ hok ha
      rw [eventsOf_append]
      exact ⟨hc.act ha, hs.act hc rfl hok (ha.order n)⟩
  obtain ⟨_, hcounts⟩ := hboth e.order.exchangeOrderNumber
  apply hcounts.reports _ (hk.filter _) e
  rw [List.filter_append, List.filter_singleton]
  simp [EngineEvent.concerns, hs]

/-- A day order of which 10 trade, then a modification that restates the 10. -/
def restatedCounterRun : List Op :=
  [.newOrder calm (orderRequest 654321 1 25 1000 Protocol.kOrderFlagsDay) 1 1,
    .tbtOrder calm (tbtOrder 'N' 1 654321 'S' 999 10),
    .modifyOrder calm (modifyRequest 0x41086A0000000000 654321 1 40 15 10 990) 1 1]

theorem reported_counter_restated :
    ∃ k e, (exec (engine bookMatching) bookMatching.init restatedCounterRun).1 = k ++ [e] ∧
      e.order.volumeFilledToday.toNat = traded e.order.exchangeOrderNumber (k ++ [e]) := by
  have hm : Meets (engine bookMatching) (CallsMeet bookMatching (KeepsCount bookMatching)) []
      bookMatching.init restatedCounterRun := by decide +kernel
  have hsuccess : ∀ e ∈ (exec (engine bookMatching) bookMatching.init restatedCounterRun).1,
      e.successful = true := by decide +kernel
  have hsome : (exec (engine bookMatching) bookMatching.init restatedCounterRun).1 ≠ [] := by
    decide +kernel
  obtain ⟨k, e, he⟩ := (List.eq_nil_or_concat' _).resolve_left hsome
  refine ⟨k, e, he, reported_counter_is_ledger (run_exec_of_meets hm) k e ?_ (hsuccess e ?_)⟩
  · rw [he]
  · rw [he]
    simp

/-- The same order, but the modification says that nothing was filled. -/
def forgottenCounterRun : List Op :=
  [.newOrder calm (orderRequest 654321 1 25 1000 Protocol.kOrderFlagsDay) 1 1,
    .tbtOrder calm (tbtOrder 'N' 1 654321 'S' 999 10),
    .modifyOrder calm (modifyRequest 0x41086A0000000000 654321 1 25 15 0 990) 1 1]

/-- The modification confirmation reports 0 where 10 were traded. -/
theorem reported_counter_forgotten :
    ¬∀ h st, Reachable bookMatching h st → ∀ k e, k ++ [e] <+: h → e.successful = true →
      e.order.volumeFilledToday.toNat = traded e.order.exchangeOrderNumber (k ++ [e]) := by
  intro hall
  have hevery := hall _ _ (run_exec (engine bookMatching) bookMatching.init forgottenCounterRun)
  have hsplit : ∃ k e, k ++ [e] = (exec (engine bookMatching) bookMatching.init
      forgottenCounterRun).1 ∧ e.successful = true ∧
      e.order.volumeFilledToday.toNat ≠ traded e.order.exchangeOrderNumber (k ++ [e]) := by
    refine ⟨_, _, List.dropLast_append_getLast (by decide +kernel), ?_, ?_⟩
    · decide +kernel
    · decide +kernel
  obtain ⟨k, e, hk, hs, hne⟩ := hsplit
  exact hne (hevery k e (by rw [hk]) hs)

end NseFoExchangeSim.Engine
