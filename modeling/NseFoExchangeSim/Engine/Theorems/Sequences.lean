import NseFoExchangeSim.Lib.Counter
import NseFoExchangeSim.Engine.Lemmas.Invariants
import NseFoExchangeSim.Engine.Lemmas.Wrap

/-!
# Numbers without gaps

The engine numbers accepted orders, trades and successful events, each from a counter of its own. What
a call draws it also puts into an event, in the order in which it draws.
-/

namespace NseFoExchangeSim.Engine

open Lib Protocol

variable {cfg : EngineConfig} {h es es' : List EngineEvent} {st st' st'' : EngineState} {l : Label}

/-! ## The numbers in a history -/

/-- The numbers of the accepted orders. -/
def orderNumbers (h : List EngineEvent) : List UInt64 :=
  (h.filter (·.isConfirmation)).map (·.order.exchangeOrderNumber)

/-- The fill numbers of the trades. -/
def fillNumbers (h : List EngineEvent) : List UInt32 :=
  (h.filter (·.isTrade)).map (·.order.fillNumber)

/-- The activity references of the successful events. -/
def activityReferences (h : List EngineEvent) : List UInt64 :=
  (h.filter (·.successful)).map (·.order.lastActivityReference)

section Numbers

variable (h es) (e : EngineEvent)

@[simp] theorem orderNumbers_append : orderNumbers (h ++ es) = orderNumbers h ++ orderNumbers es := by
  simp [orderNumbers]

@[simp] theorem fillNumbers_append : fillNumbers (h ++ es) = fillNumbers h ++ fillNumbers es := by
  simp [fillNumbers]

@[simp] theorem activityReferences_append :
    activityReferences (h ++ es) = activityReferences h ++ activityReferences es := by
  simp [activityReferences]

@[simp] theorem orderNumbers_cons :
    orderNumbers (e :: es) =
      (if e.isConfirmation then [e.order.exchangeOrderNumber] else []) ++ orderNumbers es := by
  rw [orderNumbers, List.filter_cons]
  split <;> rfl

@[simp] theorem fillNumbers_cons :
    fillNumbers (e :: es) = (if e.isTrade then [e.order.fillNumber] else []) ++ fillNumbers es := by
  rw [fillNumbers, List.filter_cons]
  split <;> rfl

@[simp] theorem activityReferences_cons :
    activityReferences (e :: es) =
      (if e.successful then [e.order.lastActivityReference] else []) ++ activityReferences es := by
  rw [activityReferences, List.filter_cons]
  split <;> rfl

theorem orderNumbers_length : (orderNumbers h).length = acceptedCount h := by
  rw [orderNumbers, List.length_map, acceptedCount, List.countP_eq_length_filter]

theorem fillNumbers_length : (fillNumbers h).length = h.countP (·.isTrade) := by
  rw [fillNumbers, List.length_map, List.countP_eq_length_filter]

theorem activityReferences_length : (activityReferences h).length = h.countP (·.successful) := by
  rw [activityReferences, List.length_map, List.countP_eq_length_filter]

end Numbers

@[simp] theorem orderNumbers_nil : orderNumbers [] = [] := rfl

@[simp] theorem fillNumbers_nil : fillNumbers [] = [] := rfl

@[simp] theorem activityReferences_nil : activityReferences [] = [] := rfl

/-! ## What an act draws -/

/-- The numbers in the events are the ones drawn between the two states. -/
structure Numbered (st : EngineState) (es : List EngineEvent) (st' : EngineState) : Prop where
  orders : Draws st.nextExchangeOrderNumber (orderNumbers es) st'.nextExchangeOrderNumber
  fills : Draws st.nextFillNumber (fillNumbers es) st'.nextFillNumber
  references :
    Draws st.nextLastActivityReference (activityReferences es) st'.nextLastActivityReference

theorem Numbered.nil : Numbered st [] st := ⟨.nil, .nil, .nil⟩

theorem Numbered.append (hn : Numbered st es st') (hn' : Numbered st' es' st'') :
    Numbered st (es ++ es') st'' := by
  refine ⟨?_, ?_, ?_⟩
  · rw [orderNumbers_append]
    exact hn.orders.append hn'.orders
  · rw [fillNumbers_append]
    exact hn.fills.append hn'.fills
  · rw [activityReferences_append]
    exact hn.references.append hn'.references

/-- Only the three counters matter in the state after. -/
theorem Numbered.congr (hn : Numbered st es st')
    (hnumber : st''.nextExchangeOrderNumber = st'.nextExchangeOrderNumber)
    (hfill : st''.nextFillNumber = st'.nextFillNumber)
    (href : st''.nextLastActivityReference = st'.nextLastActivityReference) :
    Numbered st es st'' := by
  refine ⟨?_, ?_, ?_⟩
  · rw [hnumber]
    exact hn.orders
  · rw [hfill]
    exact hn.fills
  · rw [href]
    exact hn.references

theorem numbered_failed {e : EngineEvent} (he : e.errorCode ≠ 0) : Numbered st [e] st := by
  obtain ⟨hsucc, hconf, -, -, htrade⟩ := failed_kind he
  refine ⟨?_, ?_, ?_⟩
  · simp [hconf, Draws.nil]
  · simp [htrade, Draws.nil]
  · simp [hsucc, Draws.nil]

theorem numbered_confirmation {snapshot : OrderSnapshot} (ha : Accepted cfg st snapshot)
    (token : UInt32) : Numbered st [confirmationEvent snapshot] (acceptedState cfg token st) := by
  rw [acceptedState_spec]
  refine ⟨?_, ?_, ?_⟩
  · simp [ha.number, Draws.one]
  · simp [Draws.nil]
  · simp [ha.reference, Draws.one]

theorem numbered_modification (live request : OrderSnapshot) (now : ClockReading) :
    Numbered st [modificationEvent (modifySnapshot live request st.nextLastActivityReference now)]
      (drawReference st) := ⟨.nil, .nil, .one _⟩

theorem numbered_cancellation (o : OrderSnapshot) (now : ClockReading) :
    Numbered st [cancellationEvent (nextCancel st o now)] (drawReference st) := ⟨.nil, .nil, .one _⟩

theorem numbered_trade (o : OrderSnapshot) (q price quantity : UInt32) (now : ClockReading) :
    Numbered st [makeTradeEvent (nextFill st o q now) price quantity] (drawFillNumbers st) :=
  ⟨.nil, .one _, .one _⟩

theorem Numbered.erase (hn : Numbered st es st') (arg : SnapshotArg) :
    Numbered st es (eraseOpenOrderLocked arg st') := by
  unfold eraseOpenOrderLocked
  split
  · exact hn
  · exact hn.congr rfl rfl rfl

theorem Act.numbered (ha : Act cfg l st es st') : Numbered st es st' := by
  cases ha with
  | reject he => exact numbered_failed he
  | market books hkeep => exact Numbered.nil.congr rfl rfl rfl
  | enterImmediate now ha hmd hs hf =>
      subst hs hf
      exact (numbered_confirmation ha _).append (numbered_trade _ _ _ _ _)
  | enterDay ha hmd hday hs =>
      subst hs
      exact (numbered_confirmation ha _).congr rfl rfl rfl
  | enterIocUnfilled now ha hmd hioc hs =>
      subst hs
      exact (numbered_confirmation ha _).append (numbered_cancellation _ _)
  | enterIocFilled now ha hmd hioc hs htop hpos hle hf hrest =>
      subst hs hf
      exact (numbered_confirmation ha _).append (numbered_trade _ _ _ _ _)
  | enterIocPartial now now' ha hmd hioc hs htop hpos hle hf hrest =>
      subst hs hf
      exact (numbered_confirmation ha _).append
        ((numbered_trade _ _ _ _ _).append (numbered_cancellation _ _))
  | modify now hm hl =>
      subst hl
      exact (numbered_modification _ _ _).congr rfl rfl rfl
  | fill token now hlive hpos hle htoken htop hf =>
      subst hf
      unfold afterFill
      split
      · exact (numbered_trade _ _ _ _ _).erase _
      · exact (numbered_trade _ _ _ _ _).congr rfl rfl rfl
  | cancel now hlive => exact (numbered_cancellation _ _).erase _
  | drop arg hlive harg => exact Numbered.nil.erase arg

theorem Reachable.numbered (r : Reachable cfg h st) : Numbered cfg.init h st := by
  refine anyRun_induct (P := fun h st => Numbered cfg.init h st) .nil ?_ r
  exact fun h st l es st' hn ha => hn.append ha.numbered

/-! ## Sequences -/

theorem toNat_succ_64 (c : UInt64) : (c + 1).toNat = (c.toNat + 1) % 2 ^ 64 := UInt64.toNat_add c 1

theorem toNat_succ_32 (c : UInt32) : (c + 1).toNat = (c.toNat + 1) % 2 ^ 32 := UInt32.toNat_add c 1

theorem eventsOf_references_sublist (n : UInt64) (h : List EngineEvent) :
    List.Sublist ((eventsOf n h).map (·.order.lastActivityReference)) (activityReferences h) := by
  have hfilter : eventsOf n h =
      (h.filter (·.successful)).filter (·.order.exchangeOrderNumber == n) := by
    rw [List.filter_filter, eventsOf]
    exact List.filter_congr fun e _ => Bool.and_comm ..
  rw [hfilter]
  exact List.filter_sublist.map _

/-- Accepted orders, trades and successful events are numbered without gaps in the order in which they
are generated, modulo the width of their counters, and nothing else draws a number. So no number is
given out twice, and the references of an order's events increase, until a counter has come round. -/
theorem numbers_without_gaps (r : Reachable cfg h st) :
    ((orderNumbers h).map (·.toNat) =
        (List.range (acceptedCount h)).map fun k =>
          (cfg.config.exchangeOrderNumberStart.toNat + k) % 2 ^ 64) ∧
      ((fillNumbers h).map (·.toNat) =
        (List.range (h.countP (·.isTrade))).map fun k =>
          (cfg.config.fillNumberStart.toNat + k) % 2 ^ 32) ∧
      ((activityReferences h).map (·.toNat) =
        (List.range (h.countP (·.successful))).map fun k => (1 + k) % 2 ^ 64) ∧
      (st.nextExchangeOrderNumber.toNat =
          (cfg.config.exchangeOrderNumberStart.toNat + acceptedCount h) % 2 ^ 64 ∧
        st.nextFillNumber.toNat =
          (cfg.config.fillNumberStart.toNat + h.countP (·.isTrade)) % 2 ^ 32 ∧
        st.nextLastActivityReference.toNat = (1 + h.countP (·.successful)) % 2 ^ 64) ∧
      (acceptedCount h ≤ 2 ^ 64 → (orderNumbers h).Nodup) ∧
      (h.countP (·.successful) ≤ 2 ^ 64 → (activityReferences h).Nodup) ∧
      (h.countP (·.successful) < 2 ^ 64 →
        ∀ n, ((eventsOf n h).map (·.order.lastActivityReference)).Pairwise (· < ·)) := by
  obtain ⟨horders, hfills, hrefs⟩ := r.numbered
  obtain ⟨horderList, horderNext⟩ := horders.map_toNat UInt64.toNat_lt toNat_succ_64
  obtain ⟨hfillList, hfillNext⟩ := hfills.map_toNat UInt32.toNat_lt toNat_succ_32
  obtain ⟨hrefList, hrefNext⟩ := hrefs.map_toNat UInt64.toNat_lt toNat_succ_64
  rw [orderNumbers_length] at horderList horderNext
  rw [fillNumbers_length] at hfillList hfillNext
  rw [activityReferences_length] at hrefList hrefNext
  refine ⟨horderList, hfillList, hrefList, ⟨horderNext, hfillNext, hrefNext⟩, fun hle => ?_,
    fun hle => ?_, fun hlt n => ?_⟩
  · exact horders.nodup UInt64.toNat_lt toNat_succ_64 (by rwa [orderNumbers_length])
  · exact hrefs.nodup UInt64.toNat_lt toNat_succ_64 (by rwa [activityReferences_length])
  · have hroom : cfg.init.nextLastActivityReference.toNat + (activityReferences h).length ≤ 2 ^ 64 := by
      have hone : cfg.init.nextLastActivityReference.toNat = 1 := rfl
      rw [hone, activityReferences_length]
      omega
    have hall := hrefs.increasing UInt64.toNat_lt toNat_succ_64 hroom
    rw [List.pairwise_map] at hall
    exact (hall.imp fun hab => UInt64.lt_iff_toNat_lt.mpr hab).sublist (eventsOf_references_sublist n h)

/-- An order that is accepted and then traded twice. -/
theorem numbers_without_gaps_traded :
    (activityReferences (exec (engine bookMatching) bookMatching.init
        (restingRun ++ [offer, offer])).1).map (·.toNat) = [1, 2, 3] ∧
      (fillNumbers (exec (engine bookMatching) bookMatching.init
        (restingRun ++ [offer, offer])).1).map (·.toNat) = [50, 51] := by
  obtain ⟨-, hfills, hrefs, -⟩ := numbers_without_gaps
    (run_exec (engine bookMatching) bookMatching.init (restingRun ++ [offer, offer]))
  have hsucc : (exec (engine bookMatching) bookMatching.init
      (restingRun ++ [offer, offer])).1.countP (·.successful) = 3 := by decide +kernel
  have htrades : (exec (engine bookMatching) bookMatching.init
      (restingRun ++ [offer, offer])).1.countP (·.isTrade) = 2 := by decide +kernel
  rw [htrades] at hfills
  rw [hsucc] at hrefs
  exact ⟨hrefs, hfills⟩

/-- The book-matching test's configuration, with the last order number to start from. -/
def lastNumber : EngineConfig :=
  { bookMatching with
    config := { bookMatching.config with exchangeOrderNumberStart := 0xFFFFFFFFFFFFFFFF } }

/-- The counters come round: the order after the one with the last number gets the number 0, and in the
run of the reused number that number is given out twice, a successful event has the reference 0, and
the references under that number do not increase. -/
theorem numbers_come_round :
    (orderNumbers (exec (engine lastNumber) lastNumber.init (restingRun ++ restingRun)).1).map
        (·.toNat) = [2 ^ 64 - 1, 0] ∧
      ∃ h, Reachable bookMatching h reusedState ∧ ¬(orderNumbers h).Nodup ∧
        0 ∈ activityReferences h ∧
        ¬((eventsOf 200000 h).map (·.order.lastActivityReference)).Pairwise (· < ·) := by
  obtain ⟨h, hrun⟩ := reusedState_run
  refine ⟨by decide +kernel, _, hrun, ?_⟩
  generalize hfirst : (exec (engine bookMatching) bookMatching.init
    [.newOrder calm (orderRequest 654321 1 10 1000 kOrderFlagsDay) 1 1]).1 = first
  generalize hlast : (engine bookMatching roundState
    (.newOrder calm (orderRequest 765432 1 10 1000 kOrderFlagsDay) 1 1)).1 = last
  have hnumber : orderNumbers first = [200000] := by rw [← hfirst]; decide +kernel
  have hnumber' : orderNumbers last = [200000] := by rw [← hlast]; decide +kernel
  have href' : activityReferences last = [0] := by rw [← hlast]; decide +kernel
  have hevents : (eventsOf 200000 first).map (·.order.lastActivityReference) = [1] := by
    rw [← hfirst]
    decide +kernel
  have hevents' : (eventsOf 200000 last).map (·.order.lastActivityReference) = [0] := by
    rw [← hlast]
    decide +kernel
  refine ⟨?_, ?_, ?_⟩
  · simp [hnumber, hnumber', List.nodup_append]
  · simp [href']
  · simp [hevents, hevents', List.pairwise_append]

end NseFoExchangeSim.Engine
