import NseFoExchangeSim.Lib.Allocation
import NseFoExchangeSim.Engine.Lemmas.State

/-!
# The scan of the resting orders

`maybeFillRestingOrdersLocked` walks the orders filed under a token once, with one running quantity a
side. The scan collects the greedy allocation of the two tops over these orders, and sets aside the
orders whose session is gone.
-/

namespace NseFoExchangeSim.Engine

open Std

/-! ## What the scan computes -/

/-- The open orders filed under a token, in ascending order of their numbers. -/
def restingOrders (st : EngineState) (token : UInt32) : List OrderSnapshot :=
  (st.openOrderIdsByToken.ids token).toList.filterMap st.openOrders.find?

/-- The session of the order is gone when the scan asks. -/
def stale (env : CallEnv) (o : OrderSnapshot) : Bool :=
  env.expired (.scan o.exchangeOrderNumber) o.session

/-- Price and quantity at the top of a side, zero when the side is empty. -/
def topPrice (book : ExternalBook) (side : BookSide) : UInt32 := ((book.best side).getD (0, 0)).1

def topQuantity (book : ExternalBook) (side : BookSide) : UInt32 := ((book.best side).getD (0, 0)).2

/-- The side an order draws on in the scan. -/
def drawsOn (env : CallEnv) (book : ExternalBook) (o : OrderSnapshot) : Option BookSide :=
  if stale env o then none
  else if Admits o .ask (topPrice book .ask) then some .ask
  else if Admits o .bid (topPrice book .bid) then some .bid
  else none

/-- The greedy allocation of the two tops over a list of orders. -/
def allocation (env : CallEnv) (book : ExternalBook) (orders : List OrderSnapshot) :
    List (OrderSnapshot × Nat) :=
  Lib.serve (drawsOn env book) remaining (fun side => (topQuantity book side).toNat) orders

/-- The price an order is filled at, on the side it trades against. -/
def fillPriceOf (book : ExternalBook) (o : OrderSnapshot) : UInt32 :=
  if o.side = 1 then topPrice book .ask else topPrice book .bid

/-- The request the scan makes of an allocation. -/
def requestOf (book : ExternalBook) (r : OrderSnapshot × Nat) : FillRequest :=
  ⟨r.1.exchangeOrderNumber, fillPriceOf book r.1, UInt32.ofNat r.2⟩

theorem drawsOn_eq_some {env : CallEnv} {book : ExternalBook} {o : OrderSnapshot} {side : BookSide} :
    drawsOn env book o = some side ↔ stale env o = false ∧ Admits o side (topPrice book side) := by
  unfold drawsOn
  cases hs : stale env o with
  | true => simp
  | false =>
      cases side with
      | ask =>
          by_cases ha : Admits o .ask (topPrice book .ask)
          · simp [ha]
          · simp [ha]
      | bid =>
          by_cases ha : Admits o .ask (topPrice book .ask)
          · have hb : ¬Admits o .bid (topPrice book .bid) := by
              intro hb
              have h12 : (1 : UInt16) = 2 := ha.1.symm.trans hb.1
              exact absurd h12 (by decide)
            simp [ha, hb]
          · simp [ha]

theorem fillPriceOf_eq {env : CallEnv} {book : ExternalBook} {o : OrderSnapshot} {side : BookSide}
    (h : drawsOn env book o = some side) : fillPriceOf book o = topPrice book side := by
  obtain ⟨_, ha⟩ := drawsOn_eq_some.mp h
  cases side with
  | ask => simp [fillPriceOf, ha.1]
  | bid => simp [fillPriceOf, ha.1]

/-! ## The loop -/

def ScanState.quantity (acc : ScanState) : BookSide → UInt32
  | .bid => acc.bestBidQty
  | .ask => acc.bestAskQty

def ScanState.left (acc : ScanState) (side : BookSide) : Nat := (acc.quantity side).toNat

def turn (env : CallEnv) (store : OrderStore) (book : ExternalBook) : ScanState → UInt64 → ScanState :=
  scanOrder env store (book.bestBid.isSome && decide ((book.bestBid.getD (0, 0)).2 > 0))
    (book.bestAsk.isSome && decide ((book.bestAsk.getD (0, 0)).2 > 0))
    (book.bestBid.getD (0, 0)).1 (book.bestAsk.getD (0, 0)).1

section Turn

variable {env : CallEnv} {store : OrderStore} {book : ExternalBook} {acc : ScanState} {id : UInt64}
  {o : OrderSnapshot}

theorem turn_missing (h : store.find? id = none) : turn env store book acc id = acc := by
  simp only [turn, scanOrder, h]

theorem turn_stale (h : store.find? id = some o) (hs : stale env o = true) :
    turn env store book acc id = { acc with staleOrders := acc.staleOrders ++ [o] } := by
  have hn := OrderStore.find?_number h
  simp only [stale, hn] at hs
  simp only [turn, scanOrder, h, hs, if_true]

theorem have_of_left {side : BookSide} (hle : acc.left side ≤ (topQuantity book side).toNat)
    (hpos : 0 < acc.left side) :
    (book.best side).isSome = true ∧ 0 < ((book.best side).getD (0, 0)).2 := by
  have hq : 0 < (topQuantity book side).toNat := by omega
  refine ⟨?_, UInt32.lt_iff_toNat_lt.mpr hq⟩
  cases hb : book.best side with
  | none => simp [topQuantity, hb] at hq
  | some top => rfl

theorem taken_pos (acc : ScanState) (side : BookSide) (o : OrderSnapshot) :
    (0 < min o.totalVolumeRemaining (acc.quantity side)) ↔ min (remaining o) (acc.left side) ≠ 0 := by
  rw [UInt32.lt_iff_toNat_lt, toNat_min]
  exact Nat.pos_iff_ne_zero

/-- An order that draws on no side, or on a side with nothing left for it, changes nothing. -/
theorem turn_idle (h : store.find? id = some o) (hs : stale env o = false)
    (hnone : ∀ side, drawsOn env book o = some side → min (remaining o) (acc.left side) = 0) :
    turn env store book acc id = acc := by
  have hn := OrderStore.find?_number h
  have hexp : env.expired (.scan id) o.session = false := by rw [← hn]; exact hs
  have hside : ∀ side, Admits o side (topPrice book side) →
      ¬0 < min o.totalVolumeRemaining (acc.quantity side) := fun side ha => by
    rw [taken_pos]
    exact fun hc => hc (hnone side (drawsOn_eq_some.mpr ⟨hs, ha⟩))
  simp only [turn, scanOrder, h, hexp, Bool.false_eq_true, if_false]
  split
  · rename_i h1
    split
    · rename_i hc
      simp only [Bool.and_eq_true, decide_eq_true_eq] at hc
      exact if_neg (hside .ask ⟨by simpa using h1, hc.1.2⟩)
    · rfl
  · split
    · rename_i h2
      split
      · rename_i hc
        simp only [Bool.and_eq_true, decide_eq_true_eq] at hc
        exact if_neg (hside .bid ⟨by simpa using h2, hc.1.2⟩)
      · rfl
    · rfl

theorem turn_served {side : BookSide} (h : store.find? id = some o)
    (hd : drawsOn env book o = some side) (hle : acc.left side ≤ (topQuantity book side).toNat)
    (hpos : min (remaining o) (acc.left side) ≠ 0) :
    (turn env store book acc id).fillable =
        acc.fillable ++ [requestOf book (o, min (remaining o) (acc.left side))] ∧
      (turn env store book acc id).staleOrders = acc.staleOrders ∧
      (turn env store book acc id).left =
        Function.update acc.left side (acc.left side - min (remaining o) (acc.left side)) := by
  have hn := OrderStore.find?_number h
  obtain ⟨hs, ha⟩ := drawsOn_eq_some.mp hd
  have hexp : env.expired (.scan id) o.session = false := by rw [← hn]; exact hs
  have hprice := fillPriceOf_eq hd
  have htake := (taken_pos acc side o).mpr hpos
  have hleft : 0 < acc.quantity side := UInt32.lt_iff_toNat_lt.mpr (by
    have hmin : min (remaining o) (acc.left side) ≤ acc.left side := Nat.min_le_right _ _
    exact Nat.lt_of_lt_of_le (Nat.pos_of_ne_zero hpos) hmin)
  obtain ⟨hsome, hqty⟩ := have_of_left hle hleft
  have hreq : UInt32.ofNat (min (remaining o) (acc.left side)) =
      min o.totalVolumeRemaining (acc.quantity side) := by
    rw [remaining, ScanState.left, ← toNat_min, UInt32.ofNat_toNat]
  have hsub : (acc.quantity side - min o.totalVolumeRemaining (acc.quantity side)).toNat =
      acc.left side - min (remaining o) (acc.left side) := by
    rw [UInt32.toNat_sub_of_le, toNat_min]
    · rfl
    · rw [UInt32.le_iff_toNat_le, toNat_min]; exact Nat.min_le_right _ _
  rw [requestOf, hreq, hprice, hn, ← hsub]
  simp only [turn, scanOrder, h, hexp, Bool.false_eq_true, if_false]
  cases side with
  | ask =>
      obtain ⟨h1, hlim⟩ := ha
      simp only [ScanState.quantity, ExternalBook.best] at *
      have hc : (book.bestAsk.isSome && decide ((book.bestAsk.getD (0, 0)).2 > 0) &&
          decide ((book.bestAsk.getD (0, 0)).1 ≤ o.price) && decide (acc.bestAskQty > 0)) = true := by
        simp only [Bool.and_eq_true, decide_eq_true_eq]
        exact ⟨⟨⟨hsome, hqty⟩, hlim⟩, hleft⟩
      rw [if_pos (by simp [h1]), if_pos hc, if_pos htake]
      refine ⟨rfl, rfl, ?_⟩
      funext side
      cases side <;> rfl
  | bid =>
      obtain ⟨h2, hlim⟩ := ha
      simp only [ScanState.quantity, ExternalBook.best] at *
      have hc : (book.bestBid.isSome && decide ((book.bestBid.getD (0, 0)).2 > 0) &&
          decide ((book.bestBid.getD (0, 0)).1 ≥ o.price) && decide (acc.bestBidQty > 0)) = true := by
        simp only [Bool.and_eq_true, decide_eq_true_eq]
        exact ⟨⟨⟨hsome, hqty⟩, hlim⟩, hleft⟩
      rw [if_neg (by simp [h2]), if_pos (by simp [h2]), if_pos hc, if_pos htake]
      refine ⟨rfl, rfl, ?_⟩
      funext side
      cases side <;> rfl

/-- The whole scan, from any point of it on. -/
theorem scan_foldl (ids : List UInt64) (acc : ScanState)
    (hle : ∀ side, acc.left side ≤ (topQuantity book side).toNat) :
    (ids.foldl (turn env store book) acc).fillable =
        acc.fillable ++
          (Lib.serve (drawsOn env book) remaining acc.left (ids.filterMap store.find?)).map
            (requestOf book) ∧
      (ids.foldl (turn env store book) acc).staleOrders =
        acc.staleOrders ++ (ids.filterMap store.find?).filter (stale env) := by
  induction ids generalizing acc with
  | nil => simp [Lib.serve]
  | cons id ids ih =>
      rw [List.foldl_cons]
      cases hf : store.find? id with
      | none =>
          rw [turn_missing hf, List.filterMap_cons_none hf]
          exact ih acc hle
      | some o =>
          rw [List.filterMap_cons_some hf, Lib.serve]
          cases hs : stale env o with
          | true =>
              have hnone : drawsOn env book o = none := by simp [drawsOn, hs]
              rw [turn_stale hf hs, hnone]
              obtain ⟨h1, h2⟩ := ih { acc with staleOrders := acc.staleOrders ++ [o] } hle
              refine ⟨h1, ?_⟩
              rw [h2, List.filter_cons_of_pos hs, List.append_assoc, List.singleton_append]
          | false =>
              rw [List.filter_cons_of_neg (by simp [hs])]
              cases hd : drawsOn env book o with
              | none =>
                  rw [turn_idle hf hs (by simp [hd])]
                  exact ih acc hle
              | some side =>
                  by_cases h0 : min (remaining o) (acc.left side) = 0
                  · rw [turn_idle hf hs (by rintro side' hd'; rw [hd] at hd'; cases hd'; exact h0)]
                    simp only [h0, if_true]
                    exact ih acc hle
                  · obtain ⟨hfill, hst, hleft⟩ := turn_served hf hd (hle side) h0
                    have hle' : ∀ s, (turn env store book acc id).left s ≤
                        (topQuantity book s).toNat := by
                      intro s
                      rw [hleft, Function.update_apply]
                      split
                      · rename_i hss
                        subst hss
                        exact Nat.le_trans (Nat.sub_le _ _) (hle _)
                      · exact hle s
                    obtain ⟨h1, h2⟩ := ih _ hle'
                    simp only [h0, if_false, List.map_cons]
                    rw [h1, h2, hfill, hst, hleft, List.append_assoc, List.singleton_append]
                    exact ⟨rfl, rfl⟩

end Turn

/-! ## The routine -/

theorem scanRestingOrders_spec (env : CallEnv) (st : EngineState) (ids : ExtTreeSet UInt64)
    (book : ExternalBook) :
    (scanRestingOrders env st ids book).fillable =
        (allocation env book (ids.toList.filterMap st.openOrders.find?)).map (requestOf book) ∧
      (scanRestingOrders env st ids book).staleOrders =
        (ids.toList.filterMap st.openOrders.find?).filter (stale env) := by
  have hle : ∀ side, (ScanState.mk (book.bestBid.getD (0, 0)).2 (book.bestAsk.getD (0, 0)).2 [] []).left
      side ≤ (topQuantity book side).toNat := by
    intro side
    cases side <;> exact Nat.le_refl _
  obtain ⟨h1, h2⟩ := @scan_foldl env st.openOrders book ids.toList _ hle
  have hleft : (ScanState.mk (book.bestBid.getD (0, 0)).2 (book.bestAsk.getD (0, 0)).2 [] []).left =
      fun side => (topQuantity book side).toNat := by
    funext side
    cases side <;> rfl
  rw [hleft] at h1
  exact ⟨h1, h2⟩

/-- The resting orders fill from the greedy allocation, after the stale ones are swept. -/
theorem maybeFillRestingOrdersLocked_eq {env : CallEnv} {st : EngineState} {token : UInt32}
    {book : ExternalBook} (hbook : st.books[token]? = some book) :
    maybeFillRestingOrdersLocked env token st =
      fillRequests env 0 ((allocation env book (restingOrders st token)).map (requestOf book))
        (eraseStaleOrders ((restingOrders st token).filter (stale env)) st) := by
  unfold maybeFillRestingOrdersLocked restingOrders Lib.MultiIndex.ids
  cases hids : st.openOrderIdsByToken.buckets[token]? with
  | none =>
      have hempty : (∅ : ExtTreeSet UInt64).toList = [] := by
        rw [← List.isEmpty_iff, ExtTreeSet.isEmpty_toList, ExtTreeSet.isEmpty_empty]
      rw [Option.getD_none, hempty]
      rfl
  | some ids =>
      obtain ⟨h1, h2⟩ := scanRestingOrders_spec env st ids book
      simp only [hbook, h1, h2, Option.getD_some]

theorem restingOrders_sorted (st : EngineState) (token : UInt32) :
    (restingOrders st token).Pairwise fun a b => a.exchangeOrderNumber < b.exchangeOrderNumber := by
  unfold restingOrders
  rw [List.pairwise_filterMap]
  apply (ExtTreeSet.ordered_toList (t := st.openOrderIdsByToken.ids token)).imp
  intro a b hab o ho o' ho'
  rw [OrderStore.find?_number ho, OrderStore.find?_number ho']
  exact Std.compare_eq_lt.mp hab

theorem mem_restingOrders {st : EngineState} {token : UInt32} {o : OrderSnapshot} :
    o ∈ restingOrders st token ↔
      o.exchangeOrderNumber ∈ st.openOrderIdsByToken.ids token ∧
        st.openOrders.find? o.exchangeOrderNumber = some o := by
  unfold restingOrders
  rw [List.mem_filterMap]
  constructor
  · rintro ⟨k, hk, hf⟩
    rw [OrderStore.find?_number hf]
    exact ⟨ExtTreeSet.mem_toList.mp hk, hf⟩
  · rintro ⟨hk, hf⟩
    exact ⟨_, ExtTreeSet.mem_toList.mpr hk, hf⟩

theorem restingOrders_nodup (st : EngineState) (token : UInt32) :
    ((restingOrders st token).map (·.exchangeOrderNumber)).Nodup := by
  rw [List.Nodup, List.pairwise_map]
  exact (restingOrders_sorted st token).imp fun hlt => UInt64.ne_of_lt hlt

theorem mem_allocation {env : CallEnv} {book : ExternalBook} {orders : List OrderSnapshot}
    {r : OrderSnapshot × Nat} (h : r ∈ allocation env book orders) :
    ∃ side, drawsOn env book r.1 = some side ∧ r.1 ∈ orders ∧ 0 < r.2 ∧ r.2 ≤ remaining r.1 ∧
      r.2 ≤ (topQuantity book side).toNat :=
  Lib.mem_serve h

theorem allocation_sublist (env : CallEnv) (book : ExternalBook) (orders : List OrderSnapshot) :
    ((allocation env book orders).map Prod.fst).Sublist orders :=
  Lib.serve_sublist _ orders

/-! ## One side -/

/-- The orders that may draw on a side: their session is there, and their limit admits the price. -/
def eligible (env : CallEnv) (book : ExternalBook) (side : BookSide) (orders : List OrderSnapshot) :
    List OrderSnapshot :=
  orders.filter fun o => !stale env o && decide (Admits o side (topPrice book side))

/-- The code of the orders that trade against a side. -/
def BookSide.taker : BookSide → UInt16
  | .ask => 1
  | .bid => 2

section Side

variable {env : CallEnv} {book : ExternalBook} {side : BookSide}

theorem Admits.taker {o : OrderSnapshot} {price : UInt32} (ha : Admits o side price) :
    o.side = side.taker := by
  cases side with
  | ask => exact ha.1
  | bid => exact ha.1

theorem taker_inj {side' : BookSide} (h : side.taker = side'.taker) : side = side' := by
  cases side with
  | ask =>
      cases side' with
      | ask => rfl
      | bid => cases h
  | bid =>
      cases side' with
      | ask => cases h
      | bid => rfl

theorem toNat_ofNat_allocated {orders : List OrderSnapshot} {r : OrderSnapshot × Nat}
    (hr : r ∈ allocation env book orders) : (UInt32.ofNat r.2).toNat = r.2 := by
  obtain ⟨side, _, _, _, hle, _⟩ := mem_allocation hr
  exact UInt32.toNat_ofNat_of_lt' (Nat.lt_of_le_of_lt hle r.1.totalVolumeRemaining.toNat_lt)

/-- Seen from one side, the scan gives out the quantity at its top greedily to the orders that may
draw on it. -/
theorem allocation_side (side : BookSide) (orders : List OrderSnapshot) :
    (allocation env book orders).filter (·.1.side == side.taker) =
      Lib.greedy remaining (topQuantity book side).toNat (eligible env book side orders) := by
  have hfilter : (allocation env book orders).filter (·.1.side == side.taker) =
      (allocation env book orders).filter fun r => drawsOn env book r.1 = some side := by
    refine List.filter_congr fun r hr => ?_
    obtain ⟨side', hd, _⟩ := mem_allocation hr
    have hside : r.1.side = side'.taker := (drawsOn_eq_some.mp hd).2.taker
    rw [hd, hside]
    by_cases heq : side' = side
    · simp [heq]
    · have hne : side'.taker ≠ side.taker := fun hc => heq (taker_inj hc)
      simp [heq, hne]
  have heligible : eligible env book side orders =
      orders.filter fun o => drawsOn env book o = some side := by
    refine List.filter_congr fun o _ => ?_
    rw [Bool.eq_iff_iff]
    simp [drawsOn_eq_some]
  rw [hfilter, heligible]
  exact Lib.serve_pool _ orders side

/-- What holds of everything the scan gives out, said side by side. -/
theorem forall_allocation (env : CallEnv) (book : ExternalBook) (orders : List OrderSnapshot)
    (C : OrderSnapshot → Nat → Prop) :
    (∀ r ∈ allocation env book orders, C r.1 r.2) ↔
      ∀ side, ∀ r ∈ Lib.greedy remaining (topQuantity book side).toNat
        (eligible env book side orders), C r.1 r.2 := by
  constructor
  · intro hall side r hr
    rw [← allocation_side] at hr
    exact hall r (List.mem_filter.mp hr).1
  · intro hall r hr
    obtain ⟨side, hd, _⟩ := mem_allocation hr
    apply hall side r
    rw [← allocation_side]
    refine List.mem_filter.mpr ⟨hr, ?_⟩
    simpa using (drawsOn_eq_some.mp hd).2.taker

end Side

theorem best_of_topQuantity {book : ExternalBook} {side : BookSide}
    (h : 0 < (topQuantity book side).toNat) :
    book.best side = some (topPrice book side, topQuantity book side) := by
  cases hb : book.best side with
  | none => simp [topQuantity, hb] at h
  | some top => simp [topPrice, topQuantity, hb]

end NseFoExchangeSim.Engine
