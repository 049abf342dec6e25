import NseFoExchangeSim.Engine.Lemmas.Sessions
import NseFoExchangeSim.Engine.Requests

/-!
# The life cycle of an order

The successful events of an order number follow one of a few patterns, and the engine has nothing more
to say about an order that is no longer open.
-/

namespace NseFoExchangeSim.Engine

open Lib

variable {cfg : EngineConfig} {h es new : List EngineEvent} {st st' : EngineState} {l : Label}
  {n : UInt64} {o o' : Option OrderSnapshot}

/-! ## Patterns -/

namespace EngineEvent

/-- A trade that leaves something of the order. -/
def isPartialTrade (e : EngineEvent) : Bool := e.isTrade && decide (0 < e.order.totalVolumeRemaining)

/-- A trade that leaves nothing of the order. -/
def isFullTrade (e : EngineEvent) : Bool := e.isTrade && e.order.totalVolumeRemaining == 0

def isTerminal (e : EngineEvent) : Bool := e.isFullTrade || e.isCancellation

end EngineEvent

/-- The events of an order that may still be open: its confirmation, then partial trades and
modifications in any order. -/
inductive Living (cfg : EngineConfig) : List EngineEvent → Prop
  | day {c : EngineEvent} {mid : List EngineEvent} (hmd : cfg.marketDataEnabled = true)
      (hc : c.isConfirmation = true) (hday : c.order.ioc = false)
      (hmid : ∀ e ∈ mid, e.isPartialTrade = true ∨ e.isModification = true) : Living cfg (c :: mid)

/-- The events of an accepted order. -/
inductive LifeCycle (cfg : EngineConfig) : List EngineEvent → Prop
  | living {es : List EngineEvent} (hl : Living cfg es) : LifeCycle cfg es
  | ended {es : List EngineEvent} {last : EngineEvent} (hl : Living cfg es)
      (hlast : last.isTerminal = true) : LifeCycle cfg (es ++ [last])
  | iocFilled {c t : EngineEvent} (hmd : cfg.marketDataEnabled = true) (hc : c.isConfirmation = true)
      (hioc : c.order.ioc = true) (ht : t.isFullTrade = true) : LifeCycle cfg [c, t]
  | iocPartial {c t x : EngineEvent} (hmd : cfg.marketDataEnabled = true)
      (hc : c.isConfirmation = true) (hioc : c.order.ioc = true) (ht : t.isPartialTrade = true)
      (hx : x.isCancellation = true) : LifeCycle cfg [c, t, x]
  | iocUnfilled {c x : EngineEvent} (hmd : cfg.marketDataEnabled = true)
      (hc : c.isConfirmation = true) (hioc : c.order.ioc = true) (hx : x.isCancellation = true) :
      LifeCycle cfg [c, x]
  | immediate {c t : EngineEvent} (hmd : cfg.marketDataEnabled = false)
      (hc : c.isConfirmation = true) (ht : t.isFullTrade = true) : LifeCycle cfg [c, t]

theorem Living.snoc {e : EngineEvent} (hl : Living cfg es)
    (he : e.isPartialTrade = true ∨ e.isModification = true) : Living cfg (es ++ [e]) := by
  cases hl with
  | @day c mid hmd hc hday hmid =>
      refine .day hmd hc hday fun e' he' => ?_
      rcases List.mem_append.mp he' with he' | he'
      · exact hmid e' he'
      · rw [List.mem_singleton.mp he']
        exact he

theorem LifeCycle.confirmed (hl : LifeCycle cfg es) : ∃ c ∈ es, c.isConfirmation = true := by
  cases hl with
  | living hl => cases hl with | day _ hc _ _ => exact ⟨_, List.mem_cons_self, hc⟩
  | ended hl _ => cases hl with | day _ hc _ _ => exact ⟨_, List.mem_cons_self, hc⟩
  | iocFilled _ hc _ _ => exact ⟨_, List.mem_cons_self, hc⟩
  | iocPartial _ hc _ _ _ => exact ⟨_, List.mem_cons_self, hc⟩
  | iocUnfilled _ hc _ _ => exact ⟨_, List.mem_cons_self, hc⟩
  | immediate _ hc _ => exact ⟨_, List.mem_cons_self, hc⟩

theorem not_terminal_of_confirmation {e : EngineEvent} (hc : e.isConfirmation = true) :
    e.isTerminal = false := by
  rw [EngineEvent.isConfirmation, Bool.and_eq_true, beq_iff_eq] at hc
  simp [EngineEvent.isTerminal, EngineEvent.isFullTrade, EngineEvent.isTrade,
    EngineEvent.isCancellation, hc.2, Protocol.kTxnOrderConfirmationTrimmed,
    Protocol.kTxnTradeConfirmationTrimmed, Protocol.kTxnOrderCancellationConfirmationTrimmed]

theorem not_terminal_of_modification {e : EngineEvent} (hm : e.isModification = true) :
    e.isTerminal = false := by
  rw [EngineEvent.isModification, Bool.and_eq_true, beq_iff_eq] at hm
  simp [EngineEvent.isTerminal, EngineEvent.isFullTrade, EngineEvent.isTrade,
    EngineEvent.isCancellation, hm.2, Protocol.kTxnOrderModificationConfirmationTrimmed,
    Protocol.kTxnTradeConfirmationTrimmed, Protocol.kTxnOrderCancellationConfirmationTrimmed]

theorem not_terminal_of_partialTrade {e : EngineEvent} (ht : e.isPartialTrade = true) :
    e.isTerminal = false := by
  rw [EngineEvent.isPartialTrade, Bool.and_eq_true, decide_eq_true_eq] at ht
  obtain ⟨ht, hpos⟩ := ht
  rw [EngineEvent.isTrade, Bool.and_eq_true, beq_iff_eq] at ht
  have hne : e.order.totalVolumeRemaining ≠ 0 := (UInt32.ne_of_lt hpos).symm
  simp [EngineEvent.isTerminal, EngineEvent.isFullTrade, EngineEvent.isCancellation, hne, ht.2,
    Protocol.kTxnTradeConfirmationTrimmed, Protocol.kTxnOrderCancellationConfirmationTrimmed]

theorem Living.not_terminal (hl : Living cfg es) : ∀ e ∈ es, e.isTerminal = false := by
  cases hl with
  | @day c mid hmd hc hday hmid =>
      intro e he
      rcases List.mem_cons.mp he with rfl | he
      · exact not_terminal_of_confirmation hc
      · rcases hmid e he with ht | hm
        · exact not_terminal_of_partialTrade ht
        · exact not_terminal_of_modification hm

/-! ## Every order follows a pattern -/

/-- An order that has events follows a pattern, and an open order is a living one. -/
structure Cycles (cfg : EngineConfig) (es : List EngineEvent) (o : Option OrderSnapshot) : Prop where
  pattern : es = [] ∨ LifeCycle cfg es
  living : ∀ live, o = some live → Living cfg es

theorem partialTrade {filled : OrderSnapshot} {price quantity : UInt32}
    (hpos : 0 < filled.totalVolumeRemaining) :
    (makeTradeEvent filled price quantity).isPartialTrade = true := by
  simp [EngineEvent.isPartialTrade, hpos]

theorem fullTrade {filled : OrderSnapshot} {price quantity : UInt32}
    (hrest : filled.totalVolumeRemaining = 0) :
    (makeTradeEvent filled price quantity).isFullTrade = true := by
  simp [EngineEvent.isFullTrade, hrest]

theorem Cycles.used (hs : Cycles cfg (eventsOf n h) o) (hc : Counted cfg h st)
    (hne : eventsOf n h ≠ []) : Used cfg h n := by
  rcases hs.pattern with hnil | hl
  · exact absurd hnil hne
  · obtain ⟨c, hmem, hconf⟩ := hl.confirmed
    obtain ⟨hmem, _, hn⟩ := (mem_eventsOf n h c).mp hmem
    have hused := hc.confirmed c hmem hconf
    rwa [hn] at hused

/-- The number of an order that is accepted has no events and no open order, before the counter comes
round. -/
theorem Cycles.fresh {snapshot : OrderSnapshot} (hs : Cycles cfg (eventsOf n h) o)
    (hc : Counted cfg h st) (ho : st.openOrders.find? n = o)
    (hle : acceptedCount (h ++ es) ≤ 2 ^ 64) (ha : Act cfg (.accept snapshot) st es st')
    (hn : snapshot.exchangeOrderNumber = n) : eventsOf n h = [] ∧ o = none := by
  obtain ⟨hone, hnext⟩ := ha.accepts
  rw [acceptedCount_append] at hle
  have hunused : ¬Used cfg h n := by
    intro hu
    have hne := hu.ne_next (by omega)
    rw [← hc.next, ← hnext, hn] at hne
    exact hne rfl
  refine ⟨?_, ?_⟩
  · by_contra hne
    exact hunused (hs.used hc hne)
  · cases o with
    | none => rfl
    | some live => exact absurd (hc.stored n live ho) hunused

theorem Cycles.act (hs : Cycles cfg es o)
    (hfresh : ∀ snapshot, l = .accept snapshot → snapshot.exchangeOrderNumber = n →
      es = [] ∧ o = none)
    (ha : OrderAct cfg n l o new o') : Cycles cfg (es ++ new) o' := by
  cases ha with
  | idle =>
      rw [List.append_nil]
      exact hs
  | immediate hmd he hf =>
      obtain ⟨rfl, rfl⟩ := hfresh _ rfl he.number
      refine ⟨.inr (.immediate hmd rfl (fullTrade ?_)), fun live hlive => by cases hlive⟩
      have hrest := hf.remaining_eq
      rw [remaining, remaining, he.remaining, Nat.sub_self] at hrest
      exact UInt32.toNat_inj.mp hrest
  | rests hmd he hday =>
      obtain ⟨rfl, rfl⟩ := hfresh _ rfl he.number
      have hliving : Living cfg [confirmationEvent _] := .day hmd rfl hday (by simp)
      exact ⟨.inr (.living hliving), fun _ _ => hliving⟩
  | unfilled hmd he hioc hx =>
      obtain ⟨rfl, rfl⟩ := hfresh _ rfl he.number
      exact ⟨.inr (.iocUnfilled hmd rfl hioc rfl), fun live hlive => by cases hlive⟩
  | filled hmd he hioc hf hrest =>
      obtain ⟨rfl, rfl⟩ := hfresh _ rfl he.number
      exact ⟨.inr (.iocFilled hmd rfl hioc (fullTrade hrest)), fun live hlive => by cases hlive⟩
  | partFilled hmd he hioc hf hrest hx =>
      obtain ⟨rfl, rfl⟩ := hfresh _ rfl he.number
      exact ⟨.inr (.iocPartial hmd rfl hioc (partialTrade hrest) rfl),
        fun live hlive => by cases hlive⟩
  | @modify request live r now hlive hrequest hv =>
      have hnext := (hs.living live rfl).snoc
        (e := modificationEvent (modifySnapshot live request r now)) (.inr rfl)
      exact ⟨.inr (.living hnext), fun _ _ => hnext⟩
  | @trade live filled price quantity hlive hf =>
      have hliving := hs.living live rfl
      rcases eq_or_ne filled.totalVolumeRemaining 0 with hrest | hrest
      · rw [if_pos hrest]
        refine ⟨.inr (.ended hliving ?_), fun live' hlive' => by cases hlive'⟩
        rw [EngineEvent.isTerminal, fullTrade hrest, Bool.true_or]
      · rw [if_neg hrest]
        have hpartial : (makeTradeEvent filled price quantity).isPartialTrade = true :=
          partialTrade (UInt32.pos_iff_ne_zero.mpr hrest)
        have hnext := hliving.snoc (.inl hpartial)
        exact ⟨.inr (.living hnext), fun _ _ => hnext⟩
  | cancel hlive hx =>
      refine ⟨.inr (.ended (hs.living _ rfl) ?_), fun live' hlive' => by cases hlive'⟩
      simp [EngineEvent.isTerminal]
  | drop hlive =>
      rw [List.append_nil]
      exact ⟨hs.pattern, fun live' hlive' => by cases hlive'⟩

theorem Reachable.cycles (r : Reachable cfg h st) (hle : acceptedCount h ≤ 2 ^ 64) (n : UInt64) :
    Cycles cfg (eventsOf n h) (st.openOrders.find? n) := by
  have hboth : Counted cfg h st ∧ (acceptedCount h ≤ 2 ^ 64 →
      Cycles cfg (eventsOf n h) (st.openOrders.find? n)) := by
    refine anyRun_induct (P := fun h st => Counted cfg h st ∧ (acceptedCount h ≤ 2 ^ 64 →
      Cycles cfg (eventsOf n h) (st.openOrders.find? n))) ⟨.init cfg, fun _ => ⟨.inl rfl, ?_⟩⟩ ?_ r
    · intro live hlive
      rw [EngineConfig.init, OrderStore.find?_empty] at hlive
      cases hlive
    · rintro h st l es st' ⟨hc, hs⟩ ha
      refine ⟨hc.act ha, fun hle => ?_⟩
      have hs' := hs (by rw [acceptedCount_append] at hle; omega)
      rw [eventsOf_append]
      refine hs'.act (fun snapshot hl hn => ?_) (ha.order n)
      subst hl
      exact hs'.fresh hc rfl hle ha hn
  exact hboth.2 hle

/-! ## Nothing after the end -/

/-- A request to modify or to cancel the order of the number. -/
def Op.names (n : UInt64) : Op → Prop
  | .modifyOrder env request sessionId session | .cancelOrder env request sessionId session =>
      (updateRequestSnapshot env request sessionId session).exchangeOrderNumber = n
  | _ => False

/-- A request that names an order that is not open is turned down with one error. -/
theorem names_rejected {op : Op} (hn : op.names n) (hclosed : st.openOrders.find? n = none) :
    ∃ e, (engine cfg st op).1 = [e] ∧ e.errorCode ≠ 0 := by
  have hunsupported : Protocol.kErrorUnsupportedOrder ≠ 0 := by decide
  have hunknown : Protocol.kErrorUnknownOrder ≠ 0 := by decide
  cases op with
  | modifyOrder env request sessionId session =>
      have hn' : (updateRequestSnapshot env request sessionId session).exchangeOrderNumber = n := hn
      simp only [engine, onModifyOrder, hn', hclosed]
      split
      · exact ⟨_, rfl, hunsupported⟩
      · exact ⟨_, rfl, hunknown⟩
  | cancelOrder env request sessionId session =>
      have hn' : (updateRequestSnapshot env request sessionId session).exchangeOrderNumber = n := hn
      simp only [engine, onCancelOrder, hn', hclosed]
      split
      · exact ⟨_, rfl, hunsupported⟩
      · exact ⟨_, rfl, hunknown⟩
  | newOrder _ _ _ _ => exact hn.elim
  | tbtOrder _ _ => exact hn.elim
  | tbtTrade _ _ => exact hn.elim
  | sessionClosed _ => exact hn.elim

/-- Under a number that has no open order and that no order gets, an act leaves none and says
nothing. -/
theorem OrderAct.closed (ha : OrderAct cfg n l none new o')
    (hne : ∀ snapshot, l = .accept snapshot → snapshot.exchangeOrderNumber ≠ n) :
    new = [] ∧ o' = none := by
  cases ha with
  | idle => exact ⟨rfl, rfl⟩
  | immediate hmd he hf => exact absurd he.number (hne _ rfl)
  | rests hmd he hday => exact absurd he.number (hne _ rfl)
  | unfilled hmd he hioc hx => exact absurd he.number (hne _ rfl)
  | filled hmd he hioc hf hrest => exact absurd he.number (hne _ rfl)
  | partFilled hmd he hioc hf hrest hx => exact absurd he.number (hne _ rfl)

/-- An order that was accepted and is not open stays so, and has no further events. -/
theorem closed_stays {h' : List EngineEvent} (hc : Counted cfg h st) (hu : Used cfg h n)
    (hclosed : st.openOrders.find? n = none) (r : Run (engine cfg) anyCall st h' st')
    (hle : acceptedCount (h ++ h') ≤ 2 ^ 64) :
    eventsOf n h' = [] ∧ st'.openOrders.find? n = none := by
  have hboth : Counted cfg (h ++ h') st' ∧ (acceptedCount (h ++ h') ≤ 2 ^ 64 →
      eventsOf n h' = [] ∧ st'.openOrders.find? n = none) := by
    refine anyRun_induct (P := fun h' st' => Counted cfg (h ++ h') st' ∧
      (acceptedCount (h ++ h') ≤ 2 ^ 64 → eventsOf n h' = [] ∧ st'.openOrders.find? n = none))
      ⟨by rwa [List.append_nil], fun _ => ⟨rfl, hclosed⟩⟩ ?_ r
    rintro k s l es s' ⟨hcount, hquiet⟩ ha
    refine ⟨by rw [← List.append_assoc]; exact hcount.act ha, fun hle => ?_⟩
    rw [← List.append_assoc, acceptedCount_append] at hle
    obtain ⟨hnil, hnone⟩ := hquiet (by omega)
    have hproj := ha.order n
    rw [hnone] at hproj
    obtain ⟨hes, hnone'⟩ := hproj.closed fun snapshot hl => by
      subst hl
      obtain ⟨hone, hnext⟩ := ha.accepts
      have hu' : Used cfg (h ++ k) n := hu.mono
      have hne := hu'.ne_next (by omega)
      rw [hnext, hcount.next]
      exact hne.symm
    exact ⟨by rw [eventsOf_append, hnil, hes, List.nil_append], hnone'⟩
  exact hboth.2 hle

/-- The events of every accepted order follow its life cycle; once it has ended, or was dropped, no call
produces another successful event for it, and every request that names it is turned down with one
error. -/
theorem order_life_cycle (r : Reachable cfg h st)
    (hlt : acceptedCount h < 2 ^ 64 - cfg.config.exchangeOrderNumberStart.toNat)
    (haccepted : ∃ e ∈ h, e.isConfirmation = true ∧ e.order.exchangeOrderNumber = n) :
    LifeCycle cfg (eventsOf n h) ∧
      ((∃ e ∈ eventsOf n h, e.isTerminal = true) → st.openOrders.find? n = none) ∧
      (∀ s o, (engine cfg st (.sessionClosed s)).2.openOrders.find? n = some o → o.sessionId ≠ s) ∧
      (st.openOrders.find? n = none → ∀ h' st', Run (engine cfg) anyCall st h' st' →
        acceptedCount (h ++ h') < 2 ^ 64 - cfg.config.exchangeOrderNumberStart.toNat →
          eventsOf n h' = [] ∧
            ∀ op : Op, op.names n → ∃ e, (engine cfg st' op).1 = [e] ∧ e.errorCode ≠ 0) := by
  have hs := r.cycles (by omega) n
  obtain ⟨c, hmem, hconf, hn⟩ := haccepted
  refine ⟨?_, ?_, ?_, ?_⟩
  · rcases hs.pattern with hnil | hl
    · have hc : c ∈ eventsOf n h := by
        rw [mem_eventsOf]
        rw [EngineEvent.isConfirmation, Bool.and_eq_true] at hconf
        exact ⟨hmem, hconf.1, hn⟩
      rw [hnil] at hc
      cases hc
    · exact hl
  · rintro ⟨e, he, hterm⟩
    cases ho : st.openOrders.find? n with
    | none => rfl
    | some o =>
        rw [(hs.living o ho).not_terminal e he] at hterm
        cases hterm
  · intro s o ho
    exact onSessionClosed_without r.sessionsListed s n o ho
  · intro hclosed h' st' r' hlt'
    have hu := r.counted.confirmed c hmem hconf
    rw [hn] at hu
    obtain ⟨hnil, hclosed'⟩ := closed_stays r.counted hu hclosed r' (by omega)
    exact ⟨hnil, fun op hop => names_rejected hop hclosed'⟩

/-- A day order that trades in part and is cancelled, and what comes after. -/
def cancelledRun : List Op :=
  [.newOrder calm (orderRequest 654321 1 25 1000 Protocol.kOrderFlagsDay) 1 1,
    .tbtOrder calm (tbtOrder 'N' 1 654321 'S' 999 10),
    .cancelOrder calm (cancelRequest 0x41086A0000000000 654321 1) 1 1]

def afterCancelRun : List Op :=
  [.tbtOrder calm (tbtOrder 'N' 2 654321 'S' 990 10),
    .cancelOrder calm (cancelRequest 0x41086A0000000000 654321 1) 1 1]

theorem order_life_cycle_cancelled :
    eventsOf 200000 (exec (engine bookMatching)
      (exec (engine bookMatching) bookMatching.init cancelledRun).2 afterCancelRun).1 = [] :=
  ((order_life_cycle (run_exec (engine bookMatching) bookMatching.init cancelledRun)
    (by decide +kernel) (by decide +kernel)).2.2.2 (by decide +kernel) _ _
      (run_exec (engine bookMatching) _ afterCancelRun) (by decide +kernel)).1

end NseFoExchangeSim.Engine
