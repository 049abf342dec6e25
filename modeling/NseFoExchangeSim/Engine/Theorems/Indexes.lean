import NseFoExchangeSim.Engine.Lemmas.Invariants
import NseFoExchangeSim.Engine.Requests

/-!
# The three order maps agree

In every reachable state the two indexes list exactly the open orders, keep no empty set, and every
open order has a number that was given out before.
-/

namespace NseFoExchangeSim.Engine

open Lib Std

variable {cfg : EngineConfig} {h : List EngineEvent} {st : EngineState}

theorem Used.lt_next {k : UInt64} (hu : Used cfg h k)
    (hlt : acceptedCount h < 2 ^ 64 - cfg.config.exchangeOrderNumberStart.toNat) :
    k < orderNumber cfg (acceptedCount h) := by
  obtain ⟨i, hi, rfl⟩ := hu
  have hvalue : ∀ j, j ≤ acceptedCount h →
      (orderNumber cfg j).toNat = cfg.config.exchangeOrderNumberStart.toNat + j := by
    intro j hj
    have hj' : j < 2 ^ 64 := by omega
    rw [orderNumber, UInt64.toNat_add, UInt64.toNat_ofNat_of_lt' hj']
    exact Nat.mod_eq_of_lt (by omega)
  rw [UInt64.lt_iff_toNat_lt, hvalue i (Nat.le_of_lt hi), hvalue _ (Nat.le_refl _)]
  omega

/-- The indexes by token and by session agree with the open orders in every reachable state. -/
theorem open_order_maps_agree (r : Reachable cfg h st)
    (hlt : acceptedCount h < 2 ^ 64 - cfg.config.exchangeOrderNumberStart.toNat) :
    (∀ k o, st.openOrders.find? k = some o → o.exchangeOrderNumber = k) ∧
      (∀ t k, k ∈ st.openOrderIdsByToken.ids t ↔
        ∃ o, st.openOrders.find? k = some o ∧ o.token = t) ∧
      (∀ s k, k ∈ st.openOrderIdsBySession.ids s ↔
        ∃ o, st.openOrders.find? k = some o ∧ o.sessionId = s) ∧
      (∀ (t : UInt32) (ids : ExtTreeSet UInt64),
        st.openOrderIdsByToken.buckets[t]? = some ids → ids ≠ ∅) ∧
      (∀ (s : UInt64) (ids : ExtTreeSet UInt64),
        st.openOrderIdsBySession.buckets[s]? = some ids → ids ≠ ∅) ∧
      (∀ k o, st.openOrders.find? k = some o → k < st.nextExchangeOrderNumber) := by
  have hc := r.counted
  have hi := r.indexed (by omega)
  refine ⟨fun k o => OrderStore.find?_number, hi.byToken, hi.bySession,
    st.openOrderIdsByToken.occupied, st.openOrderIdsBySession.occupied, fun k o ho => ?_⟩
  rw [hc.next]
  exact (hc.stored k o ho).lt_next hlt

/-- A day order entered, filled in part by a feed message, and modified. -/
def restedRun : List Op :=
  [.newOrder calm (orderRequest 654321 1 25 1000 Protocol.kOrderFlagsDay) 1 1,
    .tbtOrder calm (tbtOrder 'N' 1 654321 'S' 999 10),
    .modifyOrder calm (modifyRequest 0x41086A0000000000 654321 1 40 15 10 990) 1 1]

theorem open_order_maps_agree_rested :
    200000 ∈
        (exec (engine bookMatching) bookMatching.init restedRun).2.openOrderIdsByToken.ids 654321 ↔
      ∃ o, (exec (engine bookMatching) bookMatching.init restedRun).2.openOrders.find? 200000 =
        some o ∧ o.token = 654321 :=
  (open_order_maps_agree (run_exec (engine bookMatching) bookMatching.init restedRun)
    (by decide +kernel)).2.1 654321 200000

end NseFoExchangeSim.Engine
