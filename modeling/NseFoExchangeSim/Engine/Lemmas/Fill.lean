import Mathlib.Data.List.Forall2
import NseFoExchangeSim.Engine.Lemmas.Scan

/-!
# Fills and removals, one order at a time

A fill or a removal touches one order. `Frame` says that everything about the other orders stays, and
so what was collected about them before is still true when their turn comes.
-/

namespace NseFoExchangeSim.Engine

open Std

/-! ## Frames -/

/-- The two states differ at most in the orders of the numbers in the list and in the counters. -/
structure Frame (ns : List UInt64) (st st' : EngineState) : Prop where
  books : st'.books = st.books
  find : ∀ k, k ∉ ns → st'.openOrders.find? k = st.openOrders.find? k
  token : ∀ k t, k ∉ ns → (k ∈ st'.openOrderIdsByToken.ids t ↔ k ∈ st.openOrderIdsByToken.ids t)
  session : ∀ k s, k ∉ ns →
    (k ∈ st'.openOrderIdsBySession.ids s ↔ k ∈ st.openOrderIdsBySession.ids s)

namespace Frame

variable {n : UInt64} {ns ms : List UInt64} {st st' st'' : EngineState}

theorem refl (ns : List UInt64) (st : EngineState) : Frame ns st st :=
  ⟨rfl, fun _ _ => rfl, fun _ _ _ => .rfl, fun _ _ _ => .rfl⟩

theorem trans (h : Frame ns st st') (h' : Frame ns st' st'') : Frame ns st st'' :=
  ⟨h'.books.trans h.books, fun k hk => (h'.find k hk).trans (h.find k hk),
    fun k t hk => (h'.token k t hk).trans (h.token k t hk),
    fun k s hk => (h'.session k s hk).trans (h.session k s hk)⟩

theorem mono (h : Frame ns st st') (hsub : ∀ k ∈ ns, k ∈ ms) : Frame ms st st' :=
  ⟨h.books, fun k hk => h.find k fun hc => hk (hsub k hc),
    fun k t hk => h.token k t fun hc => hk (hsub k hc),
    fun k s hk => h.session k s fun hc => hk (hsub k hc)⟩

theorem cons (h : Frame [n] st st') (h' : Frame ns st' st'') : Frame (n :: ns) st st'' := by
  have hsplit : ∀ k, k ∉ n :: ns → k ∉ [n] ∧ k ∉ ns := by
    intro k hk
    simpa [not_or] using hk
  refine ⟨h'.books.trans h.books, fun k hk => ?_, fun k t hk => ?_, fun k s hk => ?_⟩
  · obtain ⟨h1, h2⟩ := hsplit k hk
    exact (h'.find k h2).trans (h.find k h1)
  · obtain ⟨h1, h2⟩ := hsplit k hk
    exact (h'.token k t h2).trans (h.token k t h1)
  · obtain ⟨h1, h2⟩ := hsplit k hk
    exact (h'.session k s h2).trans (h.session k s h1)

end Frame

section Removal

variable {arg : SnapshotArg} {st : EngineState} {o : OrderSnapshot}

theorem eraseOpenOrderLocked_frame (h : arg.read st.openOrders = some o) :
    Frame [o.exchangeOrderNumber] st (eraseOpenOrderLocked arg st) := by
  rw [eraseOpenOrderLocked_of_read h]
  refine ⟨rfl, fun k hk => ?_, fun k t hk => ?_, fun k s hk => ?_⟩
  · exact OrderStore.find?_erase_of_ne _ (by simpa using hk)
  · have hne : k ≠ o.exchangeOrderNumber := by simpa using hk
    simp [Lib.MultiIndex.mem_ids_unlink, hne]
  · have hne : k ≠ o.exchangeOrderNumber := by simpa using hk
    simp [Lib.MultiIndex.mem_ids_unlink, hne]

theorem eraseOpenOrderLocked_find? (h : arg.read st.openOrders = some o) (k : UInt64) :
    (eraseOpenOrderLocked arg st).openOrders.find? k =
      if k = o.exchangeOrderNumber then none else st.openOrders.find? k := by
  rw [eraseOpenOrderLocked_of_read h]
  exact OrderStore.find?_erase _ _ _

end Removal

theorem afterFill_frame {st : EngineState} {live filled : OrderSnapshot}
    (hlive : st.openOrders.find? filled.exchangeOrderNumber = some live) :
    Frame [filled.exchangeOrderNumber] st (afterFill filled st) := by
  have hn := OrderStore.find?_number hlive
  refine ⟨by simp, fun k hk => ?_, fun k t hk => ?_, fun k s hk => ?_⟩
  · have hne : k ≠ filled.exchangeOrderNumber := by simpa using hk
    simp [afterFill_find? hlive, hne]
  · unfold afterFill
    split
    · have hread : (SnapshotArg.entry filled.exchangeOrderNumber).read (drawFillNumbers st).openOrders
          = some live := hlive
      exact (eraseOpenOrderLocked_frame hread).token k t (by rw [hn]; exact hk)
    · exact .rfl
  · unfold afterFill
    split
    · have hread : (SnapshotArg.entry filled.exchangeOrderNumber).read (drawFillNumbers st).openOrders
          = some live := hlive
      exact (eraseOpenOrderLocked_frame hread).session k s (by rw [hn]; exact hk)
    · exact .rfl

/-! ## One fill -/

section FillOne

variable {env : CallEnv} {now : ClockReading} {n : UInt64} {price available : UInt32}
  {st : EngineState} {live : OrderSnapshot}

theorem fillOpenOrderLocked_missing (h : st.openOrders.find? n = none) :
    fillOpenOrderLocked env now n price available st = ([], st) := by
  simp only [fillOpenOrderLocked, h]

theorem fillOpenOrderLocked_expired (h : st.openOrders.find? n = some live)
    (he : env.expired (.fill n) live.session = true) :
    fillOpenOrderLocked env now n price available st = ([], eraseOpenOrderLocked (.entry n) st) := by
  simp only [fillOpenOrderLocked, h, he, if_true]

theorem fillOpenOrderLocked_nothing (h : st.openOrders.find? n = some live)
    (he : env.expired (.fill n) live.session = false)
    (hq : min available live.totalVolumeRemaining = 0) :
    fillOpenOrderLocked env now n price available st = ([], st) := by
  simp only [fillOpenOrderLocked, h, he, hq, if_true, Bool.false_eq_true, if_false]

theorem fillOpenOrderLocked_filled (h : st.openOrders.find? n = some live)
    (he : env.expired (.fill n) live.session = false)
    (hq : min available live.totalVolumeRemaining ≠ 0) :
    fillOpenOrderLocked env now n price available st =
      ([makeTradeEvent (nextFill st live (min available live.totalVolumeRemaining) now) price
          (min available live.totalVolumeRemaining)],
        afterFill (nextFill st live (min available live.totalVolumeRemaining) now) st) := by
  have hn := OrderStore.find?_number h
  simp only [fillOpenOrderLocked, h, he, hq, Bool.false_eq_true, if_false, afterFill, nextFill,
    fillSnapshot_number, hn]

variable (env now n price available st)

/-- The outcomes of one fill: nothing, the removal of an order whose session is gone, or a trade. -/
inductive FillOutcome : List EngineEvent × EngineState → Prop
  | nothing : FillOutcome ([], st)
  | expired {live : OrderSnapshot}
      (hlive : st.openOrders.find? live.exchangeOrderNumber = some live)
      (hn : live.exchangeOrderNumber = n) :
      FillOutcome ([], eraseOpenOrderLocked (.entry live.exchangeOrderNumber) st)
  | traded {live : OrderSnapshot} {quantity : UInt32}
      (hlive : st.openOrders.find? live.exchangeOrderNumber = some live)
      (hn : live.exchangeOrderNumber = n) (hpos : 0 < quantity)
      (hle : quantity ≤ live.totalVolumeRemaining) (havailable : quantity ≤ available) :
      FillOutcome
        ([makeTradeEvent (nextFill st live quantity now) price quantity],
          afterFill (nextFill st live quantity now) st)

theorem fillOpenOrderLocked_outcome :
    FillOutcome now n price available st (fillOpenOrderLocked env now n price available st) := by
  cases hlive : st.openOrders.find? n with
  | none =>
      rw [fillOpenOrderLocked_missing hlive]
      exact .nothing
  | some live =>
      obtain rfl : live.exchangeOrderNumber = n := OrderStore.find?_number hlive
      cases he : env.expired (.fill live.exchangeOrderNumber) live.session with
      | true =>
          rw [fillOpenOrderLocked_expired hlive he]
          exact .expired hlive rfl
      | false =>
          by_cases hq : min available live.totalVolumeRemaining = 0
          · rw [fillOpenOrderLocked_nothing hlive he hq]
            exact .nothing
          · rw [fillOpenOrderLocked_filled hlive he hq]
            exact .traded hlive rfl (UInt32.pos_iff_ne_zero.mpr hq) (umin_le_right _ _)
              (umin_le_left _ _)

variable {env now n price available st}

theorem fillOpenOrderLocked_frame :
    Frame [n] st (fillOpenOrderLocked env now n price available st).2 := by
  have hout := fillOpenOrderLocked_outcome env now n price available st
  generalize fillOpenOrderLocked env now n price available st = r at hout
  cases hout with
  | nothing => exact .refl [n] st
  | @expired live hlive hn =>
      have hread : (SnapshotArg.entry live.exchangeOrderNumber).read st.openOrders = some live := hlive
      rw [← hn]
      exact eraseOpenOrderLocked_frame hread
  | @traded live quantity hlive hn hpos hle havailable =>
      have hfilled : st.openOrders.find? (nextFill st live quantity now).exchangeOrderNumber =
          some live := by rw [nextFill_number, hlive]
      have hframe := afterFill_frame hfilled
      rwa [nextFill_number, hn] at hframe

end FillOne

/-! ## Sweeps and loops -/

/-- The sweep of the stale orders leaves none of them and touches no other order. -/
theorem eraseStaleOrders_spec (os : List OrderSnapshot) (st : EngineState) :
    Frame (os.map (·.exchangeOrderNumber)) st (eraseStaleOrders os st) ∧
      ∀ o ∈ os, (eraseStaleOrders os st).openOrders.find? o.exchangeOrderNumber = none := by
  induction os generalizing st with
  | nil => exact ⟨.refl _ st, by simp⟩
  | cons o os ih =>
      have hread : (SnapshotArg.copy o).read st.openOrders = some o := rfl
      obtain ⟨hframe, hnone⟩ := ih (eraseOpenOrderLocked (.copy o) st)
      refine ⟨(eraseOpenOrderLocked_frame hread).cons hframe, ?_⟩
      intro o' ho'
      by_cases hin : o'.exchangeOrderNumber ∈ os.map (·.exchangeOrderNumber)
      · obtain ⟨o'', ho'', he⟩ := List.mem_map.mp hin
        rw [← he]
        exact hnone o'' ho''
      · rcases List.mem_cons.mp ho' with rfl | ho'
        · apply (hframe.find _ hin).trans
          rw [eraseOpenOrderLocked_find? hread, if_pos rfl]
        · exact absurd (List.mem_map_of_mem ho') hin

theorem eraseOrderIds_spec (ids : List UInt64) (st : EngineState) :
    Frame ids st (eraseOrderIds ids st) ∧
      ∀ k ∈ ids, (eraseOrderIds ids st).openOrders.find? k = none := by
  induction ids generalizing st with
  | nil => exact ⟨.refl _ st, by simp⟩
  | cons id ids ih =>
      rw [eraseOrderIds, List.foldl_cons]
      cases hlive : st.openOrders.find? id with
      | none =>
          obtain ⟨hframe, hnone⟩ := ih st
          refine ⟨(Frame.refl [id] st).cons hframe, fun k hk => ?_⟩
          by_cases hin : k ∈ ids
          · exact hnone k hin
          · rcases List.mem_cons.mp hk with rfl | hk
            · exact (hframe.find _ hin).trans hlive
            · exact absurd hk hin
      | some live =>
          have hn := OrderStore.find?_number hlive
          have hread : (SnapshotArg.entry id).read st.openOrders = some live := hlive
          have hone := eraseOpenOrderLocked_frame hread
          rw [hn] at hone
          obtain ⟨hframe, hnone⟩ := ih (eraseOpenOrderLocked (.entry id) st)
          refine ⟨hone.cons hframe, fun k hk => ?_⟩
          by_cases hin : k ∈ ids
          · exact hnone k hin
          · rcases List.mem_cons.mp hk with rfl | hk
            · apply (hframe.find _ hin).trans
              rw [eraseOpenOrderLocked_find? hread, if_pos hn.symm]
            · exact absurd hk hin

theorem fillRequests_frame (env : CallEnv) (i : Nat) (rs : List FillRequest) (st : EngineState) :
    Frame (rs.map (·.orderId)) st (fillRequests env i rs st).2 := by
  induction rs generalizing i st with
  | nil => exact .refl _ st
  | cons r rs ih => exact fillOpenOrderLocked_frame.cons (ih (i + 1) _)

/-- What the fill of an order left of it, under its number. -/
def leftOf (filled : OrderSnapshot) : Option OrderSnapshot :=
  if filled.totalVolumeRemaining = 0 then none else some filled

/-- The request is filled as it stands, by the trade `e`. -/
structure Served (st st' : EngineState) (r : FillRequest) (e : EngineEvent) : Prop where
  trade : ∃ o reference number now, st.openOrders.find? r.orderId = some o ∧
    e = makeTradeEvent (fillSnapshot o reference number r.fillQuantity now) r.fillPrice
      r.fillQuantity
  after : st'.openOrders.find? r.orderId = leftOf e.order

/-- The order of the request is open, its session is there, and it has what the request asks for. -/
def Ready (env : CallEnv) (st : EngineState) (r : FillRequest) : Prop :=
  ∃ o, st.openOrders.find? r.orderId = some o ∧ env.expired (.fill r.orderId) o.session = false ∧
    0 < r.fillQuantity ∧ r.fillQuantity ≤ o.totalVolumeRemaining

theorem fillOpenOrderLocked_served {env : CallEnv} (now : ClockReading) {r : FillRequest}
    {st : EngineState} (hr : Ready env st r) :
    ∃ e st', fillOpenOrderLocked env now r.orderId r.fillPrice r.fillQuantity st = ([e], st') ∧
      Served st st' r e := by
  obtain ⟨o, ho, he, hpos, hle⟩ := hr
  have hmin : min r.fillQuantity o.totalVolumeRemaining = r.fillQuantity := if_pos hle
  have hne : min r.fillQuantity o.totalVolumeRemaining ≠ 0 := by
    rw [hmin]
    exact UInt32.pos_iff_ne_zero.mp hpos
  have hn := OrderStore.find?_number ho
  have hlive : st.openOrders.find?
      (nextFill st o r.fillQuantity now).exchangeOrderNumber = some o := by
    rw [nextFill_number, hn]
    exact ho
  refine ⟨_, _, fillOpenOrderLocked_filled ho he hne, ⟨o, st.nextLastActivityReference,
    st.nextFillNumber, now, ho, ?_⟩, ?_⟩
  · rw [hmin]
    rfl
  · rw [hmin, afterFill_find? hlive, nextFill_number, if_pos hn.symm]
    rfl

/-- Requests for different orders that are all ready are all served, each by its own trade. -/
theorem fillRequests_served {env : CallEnv} (i : Nat) (rs : List FillRequest) (st : EngineState)
    (hdistinct : (rs.map (·.orderId)).Nodup) (hready : ∀ r ∈ rs, Ready env st r) :
    List.Forall₂ (Served st (fillRequests env i rs st).2) rs (fillRequests env i rs st).1 := by
  induction rs generalizing i st with
  | nil => exact .nil
  | cons r rs ih =>
      rw [List.map_cons, List.nodup_cons] at hdistinct
      obtain ⟨e, st', heq, hserved⟩ :=
        fillOpenOrderLocked_served (env.clock i) (hready r List.mem_cons_self)
      have hframe : Frame [r.orderId] st st' := by
        have hone : Frame [r.orderId] st (fillOpenOrderLocked env (env.clock i) r.orderId
          r.fillPrice r.fillQuantity st).2 := fillOpenOrderLocked_frame
        rwa [heq] at hone
      have hother : ∀ r' ∈ rs, st'.openOrders.find? r'.orderId = st.openOrders.find? r'.orderId := by
        intro r' hr'
        refine hframe.find _ fun hc => ?_
        rw [List.mem_singleton] at hc
        exact hdistinct.1 (hc ▸ List.mem_map_of_mem hr')
      have hrest := ih (i + 1) st' hdistinct.2 fun r' hr' => by
        obtain ⟨o, ho, hready⟩ := hready r' (List.mem_cons_of_mem _ hr')
        exact ⟨o, (hother r' hr').trans ho, hready⟩
      have hlast : (fillRequests env (i + 1) rs st').2.openOrders.find? r.orderId =
          st'.openOrders.find? r.orderId := (fillRequests_frame env (i + 1) rs st').find _ hdistinct.1
      rw [fillRequests, heq]
      refine .cons ⟨hserved.trade, hlast.trans hserved.after⟩ ?_
      have hboth := (List.forall₂_and_left _ _).mpr ⟨hother, hrest⟩
      apply hboth.imp
      rintro r' e' ⟨hsame, hs⟩
      obtain ⟨o, reference, number, now, ho, he⟩ := hs.trade
      exact ⟨⟨o, reference, number, now, hsame.symm.trans ho, he⟩, hs.after⟩

end NseFoExchangeSim.Engine
