import NseFoExchangeSim.Engine.Lemmas.Sessions
import NseFoExchangeSim.Engine.Lemmas.Wrap

/-!
# A session close removes exactly the session's orders

The loop of `onSessionClosed` walks a copy of the session's identifiers while every removal changes the
three maps. As long as no order number is given out twice it takes out the session's orders, their
entries in both indexes and nothing else, and a second close finds nothing to do.
-/

namespace NseFoExchangeSim.Engine

open Lib Protocol

variable {cfg : EngineConfig} {h : List EngineEvent} {st : EngineState}

/-- What a session close comes to. -/
structure ClosesSession (s : UInt64) (st st' : EngineState) : Prop where
  gone : Without s st'
  orders : ∀ k o, o.sessionId ≠ s → (st'.openOrders.find? k = some o ↔ st.openOrders.find? k = some o)
  unlisted : st'.openOrderIdsBySession.buckets[s]? = none
  sessions : ∀ s', s' ≠ s →
    st'.openOrderIdsBySession.buckets[s']? = st.openOrderIdsBySession.buckets[s']?
  untokened : ∀ k o, st.openOrders.find? k = some o → o.sessionId = s →
    ∀ t, k ∉ st'.openOrderIdsByToken.ids t
  tokens : ∀ k, (∀ o, st.openOrders.find? k = some o → o.sessionId ≠ s) →
    ∀ t, k ∈ st'.openOrderIdsByToken.ids t ↔ k ∈ st.openOrderIdsByToken.ids t
  books : st'.books = st.books
  nextExchangeOrderNumber : st'.nextExchangeOrderNumber = st.nextExchangeOrderNumber
  nextFillNumber : st'.nextFillNumber = st.nextFillNumber
  nextLastActivityReference : st'.nextLastActivityReference = st.nextLastActivityReference

/-! ## The loop -/

theorem Indexed.eraseOrderIds (hi : Indexed st) (ids : List UInt64) :
    Indexed (eraseOrderIds ids st) := by
  induction ids generalizing st with
  | nil => exact hi
  | cons id ids ih =>
      rw [Engine.eraseOrderIds, List.foldl_cons]
      cases hlive : st.openOrders.find? id with
      | none => exact ih hi
      | some live =>
          have hread : (SnapshotArg.entry id).read st.openOrders = some live := hlive
          have hself : st.openOrders.find? live.exchangeOrderNumber = some live := by
            rw [OrderStore.find?_number hlive]; exact hlive
          exact ih (hi.erase hread hself rfl rfl)

/-- The loop draws no number and leaves the books alone. -/
theorem eraseOrderIds_counters (ids : List UInt64) (st : EngineState) :
    (eraseOrderIds ids st).books = st.books ∧
      (eraseOrderIds ids st).nextExchangeOrderNumber = st.nextExchangeOrderNumber ∧
      (eraseOrderIds ids st).nextFillNumber = st.nextFillNumber ∧
      (eraseOrderIds ids st).nextLastActivityReference = st.nextLastActivityReference := by
  induction ids generalizing st with
  | nil => exact ⟨rfl, rfl, rfl, rfl⟩
  | cons id ids ih =>
      rw [eraseOrderIds, List.foldl_cons]
      cases hlive : st.openOrders.find? id with
      | none => exact ih st
      | some live =>
          have hread : (SnapshotArg.entry id).read st.openOrders = some live := hlive
          have hone := eraseOpenOrderLocked_of_read hread
          obtain ⟨hbooks, hnumber, hfill, hreference⟩ := ih (eraseOpenOrderLocked (.entry id) st)
          rw [hone] at hbooks hnumber hfill hreference
          simp only [hone]
          exact ⟨hbooks, hnumber, hfill, hreference⟩

/-! ## The call -/

/-- The identifiers the call removes: those filed under the session. -/
theorem onSessionClosed_eq (s : UInt64) (st : EngineState) :
    onSessionClosed s st = eraseOrderIds (st.openOrderIdsBySession.ids s).toList st := by
  unfold onSessionClosed
  cases hids : st.openOrderIdsBySession.buckets[s]? with
  | none => simp [MultiIndex.ids, hids, eraseOrderIds, Std.ExtTreeSet.toList_eq_nil_iff.mpr]
  | some ids => simp [MultiIndex.ids, hids]

theorem onSessionClosed_again {s : UInt64} (hnone : st.openOrderIdsBySession.buckets[s]? = none) :
    onSessionClosed s st = st := by
  simp only [onSessionClosed, hnone]

/-- The orders left are those of the other sessions. -/
theorem onSessionClosed_find? (hi : Indexed st) (s k : UInt64) :
    (onSessionClosed s st).openOrders.find? k =
      (st.openOrders.find? k).filter (·.sessionId != s) := by
  rw [onSessionClosed_eq]
  obtain ⟨hframe, hnone⟩ := eraseOrderIds_spec (st.openOrderIdsBySession.ids s).toList st
  by_cases hin : k ∈ (st.openOrderIdsBySession.ids s).toList
  · obtain ⟨o, ho, hs⟩ := (hi.bySession s k).mp (Std.ExtTreeSet.mem_toList.mp hin)
    rw [hnone k hin, ho, Option.filter_some, if_neg (by simpa using hs)]
  · rw [hframe.find k hin]
    cases ho : st.openOrders.find? k with
    | none => rfl
    | some o =>
        have hs : o.sessionId ≠ s := fun hs =>
          hin (Std.ExtTreeSet.mem_toList.mpr ((hi.bySession s k).mpr ⟨o, ho, hs⟩))
        rw [Option.filter_some, if_pos (by simpa using hs)]

theorem onSessionClosed_order_iff (hi : Indexed st) {s k : UInt64} {o : OrderSnapshot} :
    (onSessionClosed s st).openOrders.find? k = some o ↔
      st.openOrders.find? k = some o ∧ o.sessionId ≠ s := by
  rw [onSessionClosed_find? hi, Option.filter_eq_some_iff, bne_iff_ne]

theorem Indexed.onSessionClosed (hi : Indexed st) (s : UInt64) :
    Indexed (onSessionClosed s st) := by
  rw [onSessionClosed_eq]
  exact hi.eraseOrderIds _

/-- With indexes that list exactly the open orders, a close removes exactly the session's. -/
theorem Indexed.closesSession (hi : Indexed st) (s : UInt64) :
    ClosesSession s st (Engine.onSessionClosed s st) := by
  have hi' : Indexed (Engine.onSessionClosed s st) := hi.onSessionClosed s
  have hcounters := eraseOrderIds_counters (st.openOrderIdsBySession.ids s).toList st
  rw [← onSessionClosed_eq] at hcounters
  obtain ⟨hbooks, hnumber, hfill, hreference⟩ := hcounters
  refine
    { gone := fun k o ho => ((onSessionClosed_order_iff hi).mp ho).2
      orders := fun k o hs => by rw [onSessionClosed_order_iff hi, and_iff_left hs]
      unlisted := MultiIndex.bucket_eq_none fun k => ?_
      sessions := fun s' hs' => MultiIndex.bucket_congr fun k => ?_
      untokened := fun k o ho hs t => ?_
      tokens := fun k hk t => ?_
      books := hbooks
      nextExchangeOrderNumber := hnumber
      nextFillNumber := hfill
      nextLastActivityReference := hreference }
  · rw [hi'.bySession s k]
    rintro ⟨o, ho, hs⟩
    exact ((onSessionClosed_order_iff hi).mp ho).2 hs
  · rw [hi'.bySession s' k, hi.bySession s' k]
    refine exists_congr fun o => ?_
    rw [onSessionClosed_order_iff hi, and_assoc]
    exact and_congr_right fun _ => ⟨And.right, fun hs => ⟨fun hc => hs' (hs ▸ hc), hs⟩⟩
  · rw [hi'.byToken t k]
    rintro ⟨o', ho', _⟩
    obtain ⟨hfound, hs'⟩ := (onSessionClosed_order_iff hi).mp ho'
    rw [ho] at hfound
    cases hfound
    exact hs' hs
  · rw [hi'.byToken t k, hi.byToken t k]
    refine exists_congr fun o => ?_
    rw [onSessionClosed_order_iff hi]
    exact and_congr_left fun _ => ⟨And.left, fun ho => ⟨ho, hk o ho⟩⟩

/-! ## Closing a session -/

/-- Before the order numbers come round, closing a session removes its orders and their index entries
and nothing else, and closing it again changes nothing. -/
theorem session_close_exact (r : Reachable cfg h st) (hle : acceptedCount h ≤ 2 ^ 64) (s : UInt64) :
    ClosesSession s st (onSessionClosed s st) ∧
      onSessionClosed s (onSessionClosed s st) = onSessionClosed s st := by
  have hcloses := (r.indexed hle).closesSession s
  exact ⟨hcloses, onSessionClosed_again hcloses.unlisted⟩

/-- Two sessions with an order each. -/
def twoSessions : List Op :=
  [.newOrder calm (orderRequest 654321 1 25 1000 kOrderFlagsDay) 1 1,
    .newOrder calm (orderRequest 654321 1 10 990 kOrderFlagsDay) 2 2]

theorem session_close_exact_first :
    ClosesSession 1 (exec (engine bookMatching) bookMatching.init twoSessions).2
      (onSessionClosed 1 (exec (engine bookMatching) bookMatching.init twoSessions).2) :=
  (session_close_exact (run_exec (engine bookMatching) bookMatching.init twoSessions)
    (by decide +kernel) 1).1

/-- When the numbers have come round, closing a session can remove the order of another. -/
theorem session_close_after_round :
    ¬∀ h st, Reachable bookMatching h st → ∀ s,
      ClosesSession s st (onSessionClosed s st) ∧
        onSessionClosed s (onSessionClosed s st) = onSessionClosed s st := by
  intro hall
  obtain ⟨h, hrun⟩ := roundState_run
  have hreused := hrun.snoc
    (.newOrder calm (orderRequest 765432 1 10 1000 kOrderFlagsDay) 2 2) trivial
  obtain ⟨hcloses, _⟩ := hall _ _ hreused 1
  have hforeign : ((engine bookMatching roundState (.newOrder calm
      (orderRequest 765432 1 10 1000 kOrderFlagsDay) 2 2)).2.openOrders.find? 200000).map
        (·.sessionId) = some 2 := by decide +kernel
  have hgone : ((onSessionClosed 1 (engine bookMatching roundState (.newOrder calm
      (orderRequest 765432 1 10 1000 kOrderFlagsDay) 2 2)).2).openOrders.find? 200000) = none := by
    decide +kernel
  obtain ⟨o, ho, hs⟩ := Option.map_eq_some_iff.mp hforeign
  have hkept := (hcloses.orders 200000 o (by rw [hs]; decide)).mpr ho
  rw [hgone] at hkept
  cases hkept

end NseFoExchangeSim.Engine
