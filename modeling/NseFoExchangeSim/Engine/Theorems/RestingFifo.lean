import NseFoExchangeSim.Engine.Lemmas.Feed
import NseFoExchangeSim.Engine.Lemmas.Invariants
import NseFoExchangeSim.Engine.Lemmas.Wrap

/-!
# The resting orders are served first come, first served

A feed message hands the quantity at each top of the updated book out to the orders resting on its
token, greedily and in the order of their numbers, and does nothing else to them.
-/

namespace NseFoExchangeSim.Engine

open Lib Protocol

variable {cfg : EngineConfig} {h es : List EngineEvent} {st st' : EngineState} {env : CallEnv}
  {token : UInt32} {book : ExternalBook} {side : BookSide}

/-! ## What a feed message should do -/

/-- The open orders for a token, in ascending order of their numbers. -/
def openOn (st : EngineState) (token : UInt32) : List OrderSnapshot :=
  (st.openOrders.rows.toList.map Prod.snd).filter (·.token == token)

/-- The trades with the orders that trade against a side. -/
def tradesOn (side : BookSide) (es : List EngineEvent) : List EngineEvent :=
  es.filter (·.order.side == side.taker)

/-- The trades `es` are the greedy allocation of the two tops of the book over the orders resting on
the token, oldest first, and they lead from `st` to `st'`. -/
structure GreedyFifo (env : CallEnv) (token : UInt32) (book : ExternalBook) (st : EngineState)
    (es : List EngineEvent) (st' : EngineState) : Prop where
  trades : ∀ e ∈ es, e.isTrade = true ∧ ∃ side : BookSide, e.order.side = side.taker
  allocated : ∀ side, (tradesOn side es).map
      (fun e => (e.order.exchangeOrderNumber, e.fillQuantity.toNat)) =
    (greedy remaining (topQuantity book side).toNat (eligible env book side (openOn st token))).map
      fun r => (r.1.exchangeOrderNumber, r.2)
  total : ∀ side, ((tradesOn side es).map (·.fillQuantity.toNat)).sum =
    min (topQuantity book side).toNat
      ((eligible env book side (openOn st token)).map remaining).sum
  price : ∀ side, ∀ e ∈ tradesOn side es, e.fillPrice = topPrice book side
  ascending : es.Pairwise fun e e' => e.order.exchangeOrderNumber < e'.order.exchangeOrderNumber
  served : ∀ e ∈ es, ∃ o, st.openOrders.find? e.order.exchangeOrderNumber = some o ∧
    remaining e.order = remaining o - e.fillQuantity.toNat ∧
    st'.openOrders.find? e.order.exchangeOrderNumber = leftOf e.order
  swept : ∀ o ∈ openOn st token, stale env o = true →
    st'.openOrders.find? o.exchangeOrderNumber = none
  untouched : ∀ k, (∀ e ∈ es, e.order.exchangeOrderNumber ≠ k) →
    (∀ o ∈ openOn st token, stale env o = true → o.exchangeOrderNumber ≠ k) →
    st'.openOrders.find? k = st.openOrders.find? k
  books : ∀ t, st'.books[t]? = if t = token then some book else st.books[t]?

/-! ## The resting orders are the open ones -/

theorem mem_openOn {o : OrderSnapshot} :
    o ∈ openOn st token ↔
      st.openOrders.find? o.exchangeOrderNumber = some o ∧ o.token = token := by
  rw [openOn, List.mem_filter, List.mem_map, beq_iff_eq]
  refine and_congr_left fun _ => ?_
  constructor
  · rintro ⟨⟨k, o'⟩, hmem, rfl⟩
    have hfind : st.openOrders.find? k = some o' :=
      Std.ExtTreeMap.mem_toList_iff_getElem?_eq_some.mp hmem
    rw [OrderStore.find?_number hfind]
    exact hfind
  · intro hfind
    exact ⟨_, Std.ExtTreeMap.mem_toList_iff_getElem?_eq_some.mpr hfind, rfl⟩

theorem openOn_sorted (st : EngineState) (token : UInt32) :
    (openOn st token).Pairwise fun a b => a.exchangeOrderNumber < b.exchangeOrderNumber := by
  apply List.Pairwise.filter _
  rw [List.pairwise_map]
  apply (Std.ExtTreeMap.ordered_keys_toList (t := st.openOrders.rows)).imp_of_mem
  intro a b ha hb hlt
  have hfa : st.openOrders.find? a.1 = some a.2 :=
    Std.ExtTreeMap.mem_toList_iff_getElem?_eq_some.mp ha
  have hfb : st.openOrders.find? b.1 = some b.2 :=
    Std.ExtTreeMap.mem_toList_iff_getElem?_eq_some.mp hb
  rw [OrderStore.find?_number hfa, OrderStore.find?_number hfb]
  exact Std.compare_eq_lt.mp hlt

theorem restingOrders_eq_openOn (hi : Indexed st) (token : UInt32) :
    restingOrders st token = openOn st token := by
  have hlt : ∀ {os : List OrderSnapshot},
      os.Pairwise (fun a b => a.exchangeOrderNumber < b.exchangeOrderNumber) → os.Nodup := by
    intro os hp
    apply hp.imp
    rintro a b hab rfl
    exact UInt64.lt_irrefl _ hab
  have hmem : ∀ o, o ∈ restingOrders st token ↔ o ∈ openOn st token := by
    intro o
    rw [mem_restingOrders, mem_openOn, hi.byToken token o.exchangeOrderNumber]
    constructor
    · rintro ⟨⟨o', ho', ht⟩, ho⟩
      rw [ho] at ho'
      cases ho'
      exact ⟨ho, ht⟩
    · rintro ⟨ho, ht⟩
      exact ⟨⟨o, ho, ht⟩, ho⟩
  have h1 := restingOrders_sorted st token
  have h2 := openOn_sorted st token
  refine ((List.perm_ext_iff_of_nodup (hlt h1) (hlt h2)).mpr hmem).eq_of_pairwise ?_ h1 h2
  intro a b _ _ hab hba
  exact absurd hab (UInt64.lt_asymm hba)

/-! ## What the routine does -/

/-- The trade `e` is what the allocation `r` comes to, and leads to `st'`. -/
structure TradeOf (book : ExternalBook) (st' : EngineState) (r : OrderSnapshot × Nat)
    (e : EngineEvent) : Prop where
  trade : e.isTrade = true
  number : r.1.exchangeOrderNumber = e.order.exchangeOrderNumber
  side : r.1.side = e.order.side
  price : e.fillPrice = fillPriceOf book r.1
  quantity : r.2 = e.fillQuantity.toNat
  left : remaining e.order = remaining r.1 - r.2
  after : st'.openOrders.find? r.1.exchangeOrderNumber = leftOf e.order

section Routine

variable (hbook : st.books[token]? = some book)
  (hfixed : ∀ n s, env.expired (.fill n) s = env.expired (.scan n) s)
include hbook hfixed

/-- Every allocation of the scan becomes a trade of its order. -/
theorem maybeFillRestingOrdersLocked_trades :
    List.Forall₂ (TradeOf book (maybeFillRestingOrdersLocked env token st).2)
      (allocation env book (restingOrders st token))
      (maybeFillRestingOrdersLocked env token st).1 := by
  rw [maybeFillRestingOrdersLocked_eq hbook]
  have hopen : ∀ r ∈ allocation env book (restingOrders st token),
      (eraseStaleOrders ((restingOrders st token).filter (stale env)) st).openOrders.find?
        r.1.exchangeOrderNumber = some r.1 ∧ (UInt32.ofNat r.2).toNat = r.2 ∧
        r.2 ≤ remaining r.1 := by
    intro r hr
    obtain ⟨side, _, hmem, _, hle, _⟩ := mem_allocation hr
    refine ⟨?_, toNat_ofNat_allocated hr, hle⟩
    rw [(eraseStaleOrders_spec _ st).1.find _ (served_not_stale hr)]
    exact (mem_restingOrders.mp hmem).2
  have hready : ∀ q ∈ (allocation env book (restingOrders st token)).map (requestOf book),
      Ready env (eraseStaleOrders ((restingOrders st token).filter (stale env)) st) q := by
    intro q hq
    obtain ⟨r, hr, rfl⟩ := List.mem_map.mp hq
    obtain ⟨side, hd, _, hpos, _⟩ := mem_allocation hr
    obtain ⟨ho, hqty, hle⟩ := hopen r hr
    refine ⟨r.1, ho, ?_, ?_, ?_⟩
    · exact (hfixed _ _).trans (drawsOn_eq_some.mp hd).1
    · rw [requestOf, UInt32.lt_iff_toNat_lt, hqty]
      exact hpos
    · rw [requestOf, UInt32.le_iff_toNat_le, hqty]
      exact hle
  have hserved := fillRequests_served 0 _ _ (requests_nodup env book st token) hready
  rw [List.forall₂_map_left_iff] at hserved
  refine ((List.forall₂_and_left _ _).mpr ⟨hopen, hserved⟩).imp ?_
  rintro r e ⟨⟨ho, hqty, hle⟩, hs⟩
  obtain ⟨o, reference, number, now, ho', rfl⟩ := hs.trade
  rw [requestOf, ho] at ho'
  cases ho'
  refine ⟨rfl, rfl, rfl, rfl, hqty.symm, ?_, hs.after⟩
  have hleft : remaining (nextFill st r.1 (UInt32.ofNat r.2) now) =
      remaining r.1 - (UInt32.ofNat r.2).toNat :=
    remaining_nextFill (by rw [UInt32.le_iff_toNat_le, hqty]; exact hle)
  rw [hqty] at hleft
  exact hleft

theorem maybeFillRestingOrdersLocked_allocated (hi : Indexed st) (side : BookSide) :
    (tradesOn side (maybeFillRestingOrdersLocked env token st).1).map
        (fun e => (e.order.exchangeOrderNumber, e.fillQuantity.toNat)) =
      (greedy remaining (topQuantity book side).toNat
        (eligible env book side (openOn st token))).map
          fun r => (r.1.exchangeOrderNumber, r.2) := by
  have hside : List.Forall₂ (TradeOf book (maybeFillRestingOrdersLocked env token st).2)
      ((allocation env book (restingOrders st token)).filter (·.1.side == side.taker))
      (tradesOn side (maybeFillRestingOrdersLocked env token st).1) :=
    List.rel_filter (fun r e hr => by simp only [hr.side])
      (maybeFillRestingOrdersLocked_trades hbook hfixed)
  rw [← restingOrders_eq_openOn hi token, ← allocation_side]
  exact (map_eq_of_forall₂ hside fun r e hr => by rw [hr.number, hr.quantity]).symm

theorem maybeFillRestingOrdersLocked_price {e : EngineEvent}
    (he : e ∈ tradesOn side (maybeFillRestingOrdersLocked env token st).1) :
    e.fillPrice = topPrice book side := by
  obtain ⟨he, hside⟩ := List.mem_filter.mp he
  obtain ⟨r, hr, htrade⟩ :=
    exists_of_forall₂ (maybeFillRestingOrdersLocked_trades hbook hfixed) he
  obtain ⟨side', hd, _⟩ := mem_allocation hr
  have htaker : side'.taker = side.taker := by
    rw [← (drawsOn_eq_some.mp hd).2.taker, htrade.side]
    simpa using hside
  rw [htrade.price, fillPriceOf_eq hd, taker_inj htaker]

theorem maybeFillRestingOrdersLocked_numbers :
    (allocation env book (restingOrders st token)).map (·.1.exchangeOrderNumber) =
      (maybeFillRestingOrdersLocked env token st).1.map (·.order.exchangeOrderNumber) :=
  map_eq_of_forall₂ (maybeFillRestingOrdersLocked_trades hbook hfixed) fun _ _ hr => hr.number

theorem maybeFillRestingOrdersLocked_ascending :
    (maybeFillRestingOrdersLocked env token st).1.Pairwise fun e e' =>
      e.order.exchangeOrderNumber < e'.order.exchangeOrderNumber := by
  have hsorted := (restingOrders_sorted st token).sublist
    (allocation_sublist env book (restingOrders st token))
  rw [List.pairwise_map] at hsorted
  have hpair : ((allocation env book (restingOrders st token)).map
      (·.1.exchangeOrderNumber)).Pairwise (· < ·) := List.pairwise_map.mpr hsorted
  rw [maybeFillRestingOrdersLocked_numbers hbook hfixed] at hpair
  exact List.pairwise_map.mp hpair

/-- After the sweep only the orders that trade change. -/
theorem maybeFillRestingOrdersLocked_frame :
    Frame ((maybeFillRestingOrdersLocked env token st).1.map (·.order.exchangeOrderNumber))
      (eraseStaleOrders ((restingOrders st token).filter (stale env)) st)
      (maybeFillRestingOrdersLocked env token st).2 := by
  have hfills := fillRequests_frame env 0
    ((allocation env book (restingOrders st token)).map (requestOf book))
    (eraseStaleOrders ((restingOrders st token).filter (stale env)) st)
  rw [← maybeFillRestingOrdersLocked_eq hbook, List.map_map] at hfills
  rw [← maybeFillRestingOrdersLocked_numbers hbook hfixed]
  exact hfills

/-- An order found stale is gone, and no trade brings it back. -/
theorem maybeFillRestingOrdersLocked_swept {o : OrderSnapshot} (ho : o ∈ restingOrders st token)
    (hst : stale env o = true) :
    (maybeFillRestingOrdersLocked env token st).2.openOrders.find? o.exchangeOrderNumber = none := by
  have hmem := List.mem_filter.mpr ⟨ho, hst⟩
  refine ((maybeFillRestingOrdersLocked_frame hbook hfixed).find _ ?_).trans
    ((eraseStaleOrders_spec _ st).2 o hmem)
  rw [← maybeFillRestingOrdersLocked_numbers hbook hfixed]
  intro hc
  obtain ⟨r, hr, hn⟩ := List.mem_map.mp hc
  apply served_not_stale hr
  rw [hn]
  exact List.mem_map_of_mem hmem

/-- The routine is the greedy allocation over the open orders of the token. -/
theorem maybeFillRestingOrdersLocked_greedy (hi : Indexed st) :
    GreedyFifo env token book st (maybeFillRestingOrdersLocked env token st).1
      (maybeFillRestingOrdersLocked env token st).2 := by
  have hall := maybeFillRestingOrdersLocked_trades hbook hfixed
  have hallocated := maybeFillRestingOrdersLocked_allocated hbook hfixed hi
  have hrest := restingOrders_eq_openOn hi token
  have hsweep := (eraseStaleOrders_spec ((restingOrders st token).filter (stale env)) st).1
  have hfills := maybeFillRestingOrdersLocked_frame hbook hfixed
  refine
    { trades := fun e he => ?_
      allocated := hallocated
      total := fun side => ?_
      price := fun side e he => maybeFillRestingOrdersLocked_price hbook hfixed he
      ascending := maybeFillRestingOrdersLocked_ascending hbook hfixed
      served := fun e he => ?_
      swept := fun o ho hst =>
        maybeFillRestingOrdersLocked_swept hbook hfixed (by rw [hrest]; exact ho) hst
      untouched := fun k hk hks => ?_
      books := fun t => ?_ }
  · obtain ⟨r, hr, htrade⟩ := exists_of_forall₂ hall he
    obtain ⟨side, hd, _⟩ := mem_allocation hr
    exact ⟨htrade.trade, side, htrade.side.symm.trans (drawsOn_eq_some.mp hd).2.taker⟩
  · have hsnd := congrArg (fun l => (l.map Prod.snd).sum) (hallocated side)
    simp only [List.map_map] at hsnd
    rw [← greedy_sum]
    exact hsnd
  · obtain ⟨r, hr, htrade⟩ := exists_of_forall₂ hall he
    obtain ⟨side, _, hmem, _⟩ := mem_allocation hr
    rw [← htrade.number]
    refine ⟨r.1, (mem_restingOrders.mp hmem).2, ?_, htrade.after⟩
    rw [htrade.left, htrade.quantity]
  · refine (hfills.find k ?_).trans (hsweep.find k ?_)
    · intro hc
      obtain ⟨e, he, hn⟩ := List.mem_map.mp hc
      exact hk e he hn
    · intro hc
      obtain ⟨o, ho, hn⟩ := List.mem_map.mp hc
      obtain ⟨ho, hst⟩ := List.mem_filter.mp ho
      rw [hrest] at ho
      exact hks o ho hst hn
  · rw [hfills.books, hsweep.books]
    split
    · rename_i ht
      rw [ht]
      exact hbook
    · rfl

end Routine

theorem GreedyFifo.of_update {st₀ : EngineState} (hg : GreedyFifo env token book st es st')
    (hstore : st.openOrders = st₀.openOrders)
    (hbooks : ∀ t, t ≠ token → st.books[t]? = st₀.books[t]?) :
    GreedyFifo env token book st₀ es st' := by
  have hopen : openOn st token = openOn st₀ token := by rw [openOn, hstore, openOn]
  obtain ⟨h1, h2, h3, h4, h5, h6, h7, h8, h9⟩ := hg
  rw [hopen] at h7 h8
  rw [hstore] at h6 h8
  refine ⟨h1, fun side => ?_, fun side => ?_, h4, h5, h6, h7, h8, fun t => ?_⟩
  · rw [← hopen]
    exact h2 side
  · rw [← hopen]
    exact h3 side
  · rw [h9]
    split
    · rfl
    · rename_i ht
      exact hbooks t ht

/-! ## Feed messages -/

theorem openOn_untracked (hc : Counted cfg h st) (hens : ensureBookLocked cfg st token = none) :
    openOn st token = [] := by
  rw [List.eq_nil_iff_forall_not_mem]
  intro o ho
  obtain ⟨ho, ht⟩ := mem_openOn.mp ho
  obtain ⟨hmd, _, hbook, hallowed⟩ := hc.resting _ o ho
  rw [ht] at hbook hallowed
  have hcontains : st.books.contains token = true := hbook
  simp only [ensureBookLocked, canTrackTokenLocked, hmd, hallowed, hcontains, Bool.not_true,
    Bool.false_eq_true, if_false, Bool.true_or] at hens
  split at hens
  · cases hens
  · cases hens

/-- A feed message hands the two tops of the book it leaves out to the orders resting on its token,
first come, first served, before the order numbers come round; for a token that is not tracked there
is nothing to do. -/
theorem resting_allocation_fifo (r : Reachable cfg h st) (hle : acceptedCount h ≤ 2 ^ 64) (op : Op)
    {updated : Option ExternalBook} (hfeed : feedBook cfg st op = some (env, token, updated))
    (hfixed : ∀ n s, env.expired (.fill n) s = env.expired (.scan n) s) :
    (∀ book, updated = some book →
      GreedyFifo env token book st (engine cfg st op).1 (engine cfg st op).2) ∧
      (updated = none → engine cfg st op = ([], st) ∧ openOn st token = []) := by
  refine ⟨fun book hb => ?_, fun hb => ?_⟩
  · rw [hb] at hfeed
    obtain ⟨st', hupdate, heq⟩ := engine_feed hfeed
    have hi : Indexed st' := by
      rw [hupdate.only]
      exact (r.indexed hle).congr rfl rfl rfl
    have hstore : st'.openOrders = st.openOrders := by rw [hupdate.only]
    rw [heq]
    exact (maybeFillRestingOrdersLocked_greedy hupdate.book hfixed hi).of_update hstore
      hupdate.others
  · rw [hb] at hfeed
    obtain ⟨heq, hens⟩ := engine_feed_untracked hfeed
    exact ⟨heq, openOn_untracked r.counted hens⟩

/-- An offer of 30 at 999. -/
def sharedOffer : Op := .tbtOrder calm (tbtOrder 'N' 1 654321 'S' 999 30)

/-- Of two orders for 25 the first gets all it asks for, and the second what is left. -/
theorem resting_allocation_offered :
    let st := (exec (engine bookMatching) bookMatching.init (restingRun ++ restingRun)).2
    (∃ book, GreedyFifo calm 654321 book st (engine bookMatching st sharedOffer).1
      (engine bookMatching st sharedOffer).2) ∧
    (engine bookMatching st sharedOffer).1.map (·.fillQuantity) = [25, 5] := by
  intro st
  have hsome : ((ensureBookLocked bookMatching st 654321).bind fun r =>
      applyTbtOrderMessage (tbtOrder 'N' 1 654321 'S' 999 30) r.1).isSome = true := by
    decide +kernel
  obtain ⟨book, hbook⟩ := Option.isSome_iff_exists.mp hsome
  have hrun := run_exec (engine bookMatching) bookMatching.init (restingRun ++ restingRun)
  refine ⟨⟨book, ?_⟩, by decide +kernel⟩
  exact (resting_allocation_fifo hrun (by decide +kernel) sharedOffer rfl fun _ _ => rfl).1 book hbook

/-- When the numbers have come round, a feed message on one token trades the order of another. -/
theorem allocation_after_round :
    ¬∀ h st, Reachable bookMatching h st → ∀ (op : Op) env token updated,
      feedBook bookMatching st op = some (env, token, updated) →
      (∀ n s, env.expired (.fill n) s = env.expired (.scan n) s) →
      (∀ book, updated = some book →
        GreedyFifo env token book st (engine bookMatching st op).1 (engine bookMatching st op).2) ∧
        (updated = none → engine bookMatching st op = ([], st) ∧ openOn st token = []) := by
  intro hall
  obtain ⟨h, r⟩ := reusedState_reachable
  have hsome : ((ensureBookLocked bookMatching reusedState 654321).bind fun made =>
      applyTbtOrderMessage (tbtOrder 'N' 1 654321 'S' 999 10) made.1).isSome = true := by
    decide +kernel
  obtain ⟨book, hbook⟩ := Option.isSome_iff_exists.mp hsome
  have hgreedy := (hall h _ r offer calm 654321 _ rfl fun _ _ => rfl).1 book hbook
  have hnone : openOn reusedState 654321 = [] := by decide +kernel
  have htrades : tradesOn .ask (engine bookMatching reusedState offer).1 ≠ [] := by decide +kernel
  have hallocated := hgreedy.allocated .ask
  rw [hnone, eligible, List.filter_nil, greedy, List.map_nil, List.map_eq_nil_iff] at hallocated
  exact htrades hallocated

end NseFoExchangeSim.Engine
