import NseFoExchangeSim.Engine.Lemmas.Decompose

/-!
# Orders up to the numbers of their events

A fill writes the fill number and the activity reference it draws into its order. Two states that
differ in nothing else of some orders give the same trades of these orders, up to those numbers.
-/

namespace NseFoExchangeSim.Engine

open Protocol

variable {env : CallEnv} {st st' s s' : EngineState} {n : UInt64}

/-! ## Forgetting the numbers -/

/-- The order without the fill number and the activity reference of its last event. -/
def OrderSnapshot.unnumbered (o : OrderSnapshot) : OrderSnapshot :=
  { o with lastActivityReference := 0, fillNumber := 0 }

def EngineEvent.unnumbered (e : EngineEvent) : EngineEvent := { e with order := e.order.unnumbered }

def OrderSnapshot.renumbered (o : OrderSnapshot) (reference : UInt64) (number : UInt32) :
    OrderSnapshot :=
  { o with lastActivityReference := reference, fillNumber := number }

/-- Orders that are the same but for the numbers differ in the numbers only. -/
theorem eq_of_unnumbered {o o' : OrderSnapshot} (h : o.unnumbered = o'.unnumbered) :
    o' = o.renumbered o'.lastActivityReference o'.fillNumber := by
  have hback : o' = o'.unnumbered.renumbered o'.lastActivityReference o'.fillNumber := rfl
  rw [hback, ← h]
  rfl

theorem find?_of_unnumbered {o : OrderSnapshot} (hlive : st.openOrders.find? n = some o)
    (h : (st.openOrders.find? n).map (·.unnumbered) = (st'.openOrders.find? n).map (·.unnumbered)) :
    ∃ reference number, st'.openOrders.find? n = some (o.renumbered reference number) := by
  rw [hlive, Option.map_some] at h
  obtain ⟨o', ho', heq⟩ := Option.map_eq_some_iff.mp h.symm
  rw [ho', eq_of_unnumbered heq.symm]
  exact ⟨_, _, rfl⟩

theorem leftOf_unnumbered {o o' : OrderSnapshot} (h : o.unnumbered = o'.unnumbered) :
    (leftOf o).map (·.unnumbered) = (leftOf o').map (·.unnumbered) := by
  have hrest : o.unnumbered.totalVolumeRemaining = o'.unnumbered.totalVolumeRemaining := by rw [h]
  have hrest : o.totalVolumeRemaining = o'.totalVolumeRemaining := hrest
  unfold leftOf
  rw [hrest]
  split
  · rfl
  · exact congrArg some h

theorem afterFill_left {live : OrderSnapshot}
    (hlive : st.openOrders.find? live.exchangeOrderNumber = some live) (quantity : UInt32)
    (now : ClockReading) :
    (afterFill (nextFill st live quantity now) st).openOrders.find? live.exchangeOrderNumber =
      leftOf (nextFill st live quantity now) := by
  have hfilled : st.openOrders.find? (nextFill st live quantity now).exchangeOrderNumber =
      some live := hlive
  rw [afterFill_find? hfilled, nextFill_number, if_pos rfl]
  rfl

/-! ## Alike orders -/

/-- The orders of the numbers are open in both states or in neither, and the same but for the numbers
of their events. -/
def Alike (ns : List UInt64) (st st' : EngineState) : Prop :=
  ∀ k ∈ ns, (st.openOrders.find? k).map (·.unnumbered) = (st'.openOrders.find? k).map (·.unnumbered)

variable {ns : List UInt64}

/-- What changes one order, and leaves it alike, leaves all alike. -/
theorem Alike.after (ha : Alike ns st st') (hf : Frame [n] st s) (hf' : Frame [n] st' s')
    (hn : (s.openOrders.find? n).map (·.unnumbered) = (s'.openOrders.find? n).map (·.unnumbered)) :
    Alike ns s s' := by
  intro k hk
  by_cases hkn : k = n
  · rw [hkn]
    exact hn
  · rw [hf.find k (by simpa using hkn), hf'.find k (by simpa using hkn)]
    exact ha k hk

theorem fillOpenOrderLocked_alike (env : CallEnv) (ha : Alike ns st st') (hn : n ∈ ns)
    (now : ClockReading) (price available : UInt32) :
    (fillOpenOrderLocked env now n price available st).1.map (·.unnumbered) =
        (fillOpenOrderLocked env now n price available st').1.map (·.unnumbered) ∧
      Alike ns (fillOpenOrderLocked env now n price available st).2
        (fillOpenOrderLocked env now n price available st').2 := by
  have hsame := ha n hn
  have hf : Frame [n] st (fillOpenOrderLocked env now n price available st).2 :=
    fillOpenOrderLocked_frame
  have hf' : Frame [n] st' (fillOpenOrderLocked env now n price available st').2 :=
    fillOpenOrderLocked_frame
  cases hlive : st.openOrders.find? n with
  | none =>
      rw [hlive, Option.map_none] at hsame
      have hlive' := Option.map_eq_none_iff.mp hsame.symm
      rw [fillOpenOrderLocked_missing hlive, fillOpenOrderLocked_missing hlive']
      exact ⟨rfl, ha⟩
  | some live =>
      obtain ⟨reference, number, hlive'⟩ := find?_of_unnumbered hlive hsame
      obtain rfl : live.exchangeOrderNumber = n := OrderStore.find?_number hlive
      cases he : env.expired (.fill live.exchangeOrderNumber) live.session with
      | true =>
          have hread : (SnapshotArg.entry live.exchangeOrderNumber).read st.openOrders = some live :=
            hlive
          have hread' : (SnapshotArg.entry live.exchangeOrderNumber).read st'.openOrders =
              some (live.renumbered reference number) := hlive'
          rw [fillOpenOrderLocked_expired hlive he] at hf ⊢
          rw [fillOpenOrderLocked_expired hlive' he] at hf' ⊢
          refine ⟨rfl, ha.after hf hf' ?_⟩
          rw [eraseOpenOrderLocked_find? hread, eraseOpenOrderLocked_find? hread', if_pos rfl]
          exact (congrArg _ (if_pos rfl)).symm
      | false =>
          by_cases hq : min available live.totalVolumeRemaining = 0
          · rw [fillOpenOrderLocked_nothing hlive he hq, fillOpenOrderLocked_nothing hlive' he hq]
            exact ⟨rfl, ha⟩
          · rw [fillOpenOrderLocked_filled hlive he hq] at hf ⊢
            rw [fillOpenOrderLocked_filled hlive' he hq] at hf' ⊢
            refine ⟨rfl, ha.after hf hf' ?_⟩
            have hopen : st'.openOrders.find? (live.renumbered reference number).exchangeOrderNumber =
                some (live.renumbered reference number) := hlive'
            have hleft := afterFill_left hlive (min available live.totalVolumeRemaining) now
            have hleft' := afterFill_left hopen (min available live.totalVolumeRemaining) now
            refine (congrArg _ hleft).trans (Eq.trans ?_ (congrArg _ hleft').symm)
            exact leftOf_unnumbered rfl

theorem fillRequests_alike (ha : Alike ns st st') (i : Nat) (rs : List FillRequest)
    (hrs : ∀ r ∈ rs, r.orderId ∈ ns) :
    (fillRequests env i rs st).1.map (·.unnumbered) =
        (fillRequests env i rs st').1.map (·.unnumbered) ∧
      Alike ns (fillRequests env i rs st).2 (fillRequests env i rs st').2 := by
  induction rs generalizing i st st' with
  | nil => exact ⟨rfl, ha⟩
  | cons r rs ih =>
      rw [List.forall_mem_cons] at hrs
      obtain ⟨hfirst, hafter⟩ :=
        fillOpenOrderLocked_alike env ha hrs.1 (env.clock i) r.fillPrice r.fillQuantity
      obtain ⟨hrest, hlast⟩ := ih hafter (i + 1) hrs.2
      simp only [fillRequests, List.map_append]
      exact ⟨by rw [hfirst, hrest], hlast⟩

/-- Sweeping the same numbers out of both states leaves them alike. -/
theorem eraseStaleOrders_alike {os os' : List OrderSnapshot} (ha : Alike ns st st')
    (hsame : os.map (·.exchangeOrderNumber) = os'.map (·.exchangeOrderNumber)) :
    Alike ns (eraseStaleOrders os st) (eraseStaleOrders os' st') := by
  obtain ⟨hf, hnone⟩ := eraseStaleOrders_spec os st
  obtain ⟨hf', hnone'⟩ := eraseStaleOrders_spec os' st'
  intro k hk
  by_cases hmem : k ∈ os.map (·.exchangeOrderNumber)
  · obtain ⟨o, ho, hn⟩ := List.mem_map.mp hmem
    obtain ⟨o', ho', hn'⟩ := List.mem_map.mp (hsame ▸ hmem)
    have h1 := hnone o ho
    have h2 := hnone' o' ho'
    rw [hn] at h1
    rw [hn'] at h2
    rw [h1, h2]
  · rw [hf.find k hmem, hf'.find k (hsame ▸ hmem)]
    exact ha k hk

/-! ## The resting orders of a token -/

section Routine

variable {os os' : List OrderSnapshot} {book : ExternalBook} {token : UInt32}

theorem stale_numbers (hsame : os.map (·.unnumbered) = os'.map (·.unnumbered)) :
    (os.filter (stale env)).map (·.exchangeOrderNumber) =
      (os'.filter (stale env)).map (·.exchangeOrderNumber) := by
  have hview : ∀ os : List OrderSnapshot, (os.filter (stale env)).map (·.exchangeOrderNumber) =
      ((os.map (·.unnumbered)).filter (stale env)).map (·.exchangeOrderNumber) := by
    intro os
    rw [List.filter_map, List.map_map]
    rfl
  rw [hview, hsame, ← hview]

/-- The scan makes the same requests of orders that differ in the numbers only. -/
theorem requests_same (hsame : os.map (·.unnumbered) = os'.map (·.unnumbered)) :
    (allocation env book os).map (requestOf book) =
      (allocation env book os').map (requestOf book) := by
  have hview : ∀ os : List OrderSnapshot, (allocation env book os).map (requestOf book) =
      (allocation env book (os.map (·.unnumbered))).map (requestOf book) := by
    intro os
    have hserve : allocation env book (os.map (·.unnumbered)) =
        (allocation env book os).map fun r => (r.1.unnumbered, r.2) :=
      Lib.serve_map (f := OrderSnapshot.unnumbered) _ (fun _ => rfl) (fun _ => rfl) os
    rw [hserve, List.map_map]
    rfl
  rw [hview, hsame, ← hview]

/-- Every request of the scan is for one of the orders it was given. -/
theorem requests_of (os : List OrderSnapshot) :
    ∀ r ∈ (allocation env book os).map (requestOf book),
      r.orderId ∈ os.map (·.exchangeOrderNumber) := by
  intro r hr
  obtain ⟨served, hserved, rfl⟩ := List.mem_map.mp hr
  obtain ⟨side, -, hmem, -⟩ := mem_allocation hserved
  exact List.mem_map_of_mem hmem

/-- The same book and the same resting orders, but for their numbers, give the same trades. -/
theorem maybeFillRestingOrdersLocked_alike (env : CallEnv) (hbook : st.books[token]? = some book)
    (hbook' : st'.books[token]? = some book)
    (hsame : (restingOrders st token).map (·.unnumbered) =
      (restingOrders st' token).map (·.unnumbered))
    (ha : Alike ((restingOrders st token).map (·.exchangeOrderNumber)) st st') :
    (maybeFillRestingOrdersLocked env token st).1.map (·.unnumbered) =
        (maybeFillRestingOrdersLocked env token st').1.map (·.unnumbered) ∧
      Alike ((restingOrders st token).map (·.exchangeOrderNumber))
        (maybeFillRestingOrdersLocked env token st).2
        (maybeFillRestingOrdersLocked env token st').2 := by
  rw [maybeFillRestingOrdersLocked_eq hbook, maybeFillRestingOrdersLocked_eq hbook',
    requests_same hsame.symm]
  exact fillRequests_alike (eraseStaleOrders_alike ha (stale_numbers hsame)) 0 _ (requests_of _)

/-- The routine touches the orders resting on its token only. -/
theorem maybeFillRestingOrdersLocked_resting (hbook : st.books[token]? = some book) :
    Frame ((restingOrders st token).map (·.exchangeOrderNumber)) st
      (maybeFillRestingOrdersLocked env token st).2 := by
  rw [maybeFillRestingOrdersLocked_eq hbook]
  have hsweep := (eraseStaleOrders_spec ((restingOrders st token).filter (stale env)) st).1
  refine (hsweep.mono fun k hk => ?_).trans ((fillRequests_frame env 0 _ _).mono fun k hk => ?_)
  · obtain ⟨o, ho, rfl⟩ := List.mem_map.mp hk
    exact List.mem_map_of_mem (List.mem_filter.mp ho).1
  · obtain ⟨r, hr, rfl⟩ := List.mem_map.mp hk
    exact requests_of _ r hr

end Routine

end NseFoExchangeSim.Engine
