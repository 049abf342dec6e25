import NseFoExchangeSim.Engine.Lemmas.State
import NseFoExchangeSim.Engine.Requests

/-!
# When the order number counter comes round

An IOC order that finds an empty book is confirmed and cancelled, and all it leaves are the numbers it
drew. After `2 ^ 64` acceptances the number of a resting order is given out again, and the order that
gets it is filed under its own token while the old entry still stands under the other.
-/

namespace NseFoExchangeSim.Engine

open Lib Protocol

variable {cfg : EngineConfig} {st : EngineState} {token : UInt32} {book : ExternalBook}
  {quantity price : UInt32} {env : CallEnv} {sessionId : UInt64} {session : SessionRef}

/-- The counters after `m` orders that were confirmed and cancelled. -/
def advance (m : Nat) (st : EngineState) : EngineState :=
  { st with
    nextExchangeOrderNumber := st.nextExchangeOrderNumber + UInt64.ofNat m
    nextLastActivityReference := st.nextLastActivityReference + UInt64.ofNat (2 * m) }

theorem advance_zero (st : EngineState) : advance 0 st = st := by simp [advance]

theorem advance_succ (m : Nat) (st : EngineState) : advance (m + 1) st = advance m (advance 1 st) := by
  simp only [advance, UInt64.add_assoc, ← UInt64.ofNat_add]
  congr 3
  · omega
  · omega

theorem acceptedState_tracked (hbook : st.books[token]? = some book) :
    acceptedState cfg token st =
      { st with
        nextExchangeOrderNumber := st.nextExchangeOrderNumber + 1
        nextLastActivityReference := st.nextLastActivityReference + 1 } := by
  have hkeep : (((ensureBookLocked cfg st token).map Prod.snd).getD st) = st := by
    unfold ensureBookLocked
    split
    · rfl
    · split
      · rfl
      · rw [hbook]
        rfl
  rw [acceptedState, hkeep]

section Unfilled

variable (hmd : cfg.marketDataEnabled = true) (htoken : cfg.allowedTokens.contains token = true)
  (hask : book.bestAsk = none) (hq : 0 < quantity) (hp : 0 < price)
include hmd htoken hask hq hp

/-- An IOC buy order that finds no offers leaves the numbers it drew. -/
theorem engine_unfilledIoc (hbook : st.books[token]? = some book) :
    (engine cfg st (.newOrder env (orderRequest token 1 quantity price kOrderFlagsIoc) sessionId
      session)).2 = advance 1 st := by
  have hvalid : isValidNewOrder (buildSnapshotFromEntryRequest
      (orderRequest token 1 quantity price kOrderFlagsIoc) sessionId session)
      (orderRequest token 1 quantity price kOrderFlagsIoc) = true :=
    (orderRequest_valid ..).mpr ⟨.inr rfl, hq, hp, .inl rfl⟩
  have hread : (buildSnapshotFromEntryRequest
      (orderRequest token 1 quantity price kOrderFlagsIoc) sessionId session).token = token := by
    rw [orderRequest_read]
  have hside : (buildSnapshotFromEntryRequest
      (orderRequest token 1 quantity price kOrderFlagsIoc) sessionId session).side = 1 := by
    rw [orderRequest_read]
  have htrack : canTrackTokenLocked cfg st token = true := by
    have hcontains : st.books.contains token = true := by
      rw [Std.ExtTreeMap.contains_eq_isSome_getElem?, hbook]
      rfl
    simp only [canTrackTokenLocked, hmd, htoken, hcontains, Bool.true_or, Bool.not_true,
      Bool.false_eq_true, if_false]
  have hnone : matchTopLocked cfg (acceptedState cfg token st) (acceptedSnapshot env
      (buildSnapshotFromEntryRequest (orderRequest token 1 quantity price kOrderFlagsIoc) sessionId
        session) st) = none := by
    have hbook' := acceptedState_book cfg st token hbook
    simp only [matchTopLocked, hmd, acceptedSnapshot, stampOrder, hread, hside, hbook', hask,
      Bool.not_true, Bool.false_eq_true, if_false, beq_self_eq_true, if_true]
  rw [acceptedState_tracked hbook] at hnone
  have hioc : (acceptedSnapshot env (buildSnapshotFromEntryRequest
      (orderRequest token 1 quantity price kOrderFlagsIoc) sessionId session) st).ioc = true := rfl
  simp only [engine, onNewOrder, hvalid, hmd, hread, htrack, hioc, enterIoc, hnone, Bool.not_true,
    Bool.and_false, Bool.false_eq_true, if_false, if_true, cancelUnfilledOrderLocked,
    acceptedState_tracked hbook, advance]
  rw [UInt64.add_assoc]
  rfl

theorem exec_unfilledIoc (m : Nat) (hbook : st.books[token]? = some book) :
    (exec (engine cfg) st (List.replicate m (.newOrder env
      (orderRequest token 1 quantity price kOrderFlagsIoc) sessionId session))).2 = advance m st := by
  induction m generalizing st with
  | zero => exact (advance_zero st).symm
  | succ m ih =>
      rw [List.replicate_succ, exec, engine_unfilledIoc hmd htoken hask hq hp hbook,
        advance_succ m st]
      exact ih hbook

end Unfilled

/-! ## A number given out twice -/

/-- The state after one day order rests. -/
def restedState : EngineState :=
  (engine bookMatching bookMatching.init
    (.newOrder calm (orderRequest 654321 1 10 1000 kOrderFlagsDay) 1 1)).2

/-- The state in which the number of the resting order is the next one again. -/
def roundState : EngineState := advance (2 ^ 64 - 1) restedState

/-- The state after a day order for another token has got that number. -/
def reusedState : EngineState :=
  (engine bookMatching roundState
    (.newOrder calm (orderRequest 765432 1 10 1000 kOrderFlagsDay) 1 1)).2

/-- The run to the state before it begins with the order that rests. -/
theorem roundState_run :
    ∃ h, Reachable bookMatching
      ((exec (engine bookMatching) bookMatching.init
          [.newOrder calm (orderRequest 654321 1 10 1000 kOrderFlagsDay) 1 1]).1 ++ h) roundState := by
  have hbook : (restedState.books[(654321 : UInt32)]?.map (·.bestAsk)) = some none := by
    decide +kernel
  obtain ⟨book, hbook, hask⟩ := Option.map_eq_some_iff.mp hbook
  have hround : (exec (engine bookMatching) restedState (List.replicate (2 ^ 64 - 1)
      (.newOrder calm (orderRequest 654321 1 1 1 kOrderFlagsIoc) 1 1))).2 = roundState :=
    exec_unfilledIoc rfl (by decide +kernel) hask (by decide) (by decide) _ hbook
  have hrun := ((run_exec (engine bookMatching) bookMatching.init
    [.newOrder calm (orderRequest 654321 1 10 1000 kOrderFlagsDay) 1 1]).append
      (run_exec (engine bookMatching) restedState (List.replicate (2 ^ 64 - 1)
        (.newOrder calm (orderRequest 654321 1 1 1 kOrderFlagsIoc) 1 1))))
  rw [hround] at hrun
  exact ⟨_, hrun⟩

/-- The run to that state ends with the order that gets the number. -/
theorem reusedState_run :
    ∃ h, Reachable bookMatching
      ((exec (engine bookMatching) bookMatching.init
          [.newOrder calm (orderRequest 654321 1 10 1000 kOrderFlagsDay) 1 1]).1 ++ h ++
        (engine bookMatching roundState
          (.newOrder calm (orderRequest 765432 1 10 1000 kOrderFlagsDay) 1 1)).1) reusedState := by
  obtain ⟨h, hrun⟩ := roundState_run
  exact ⟨h, hrun.snoc (.newOrder calm (orderRequest 765432 1 10 1000 kOrderFlagsDay) 1 1) trivial⟩

theorem reusedState_reachable : ∃ h, Reachable bookMatching h reusedState := by
  obtain ⟨h, hrun⟩ := reusedState_run
  exact ⟨_, hrun⟩

end NseFoExchangeSim.Engine
