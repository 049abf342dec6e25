import NseFoExchangeSim.Lib.Refinement
import NseFoExchangeSim.Engine.Lemmas.Bare
import NseFoExchangeSim.Engine.Requests

/-!
# Fields that decide nothing

What the engine decides depends neither on the clock nor on the fields that it only hands back, and what
a session writes into these fields is seen by that session alone.
-/

namespace NseFoExchangeSim.Engine

open Lib Protocol

variable {keep : UInt64 → Bool} {cfg : EngineConfig}

/-- What an event says beyond the order's passive fields: its receiver, its kind, the order, and how
much was traded and is left at which price. -/
structure Decision where
  session : SessionRef
  txnCode : UInt16
  errorCode : UInt16
  exchangeOrderNumber : UInt64
  lastActivityReference : UInt64
  fillNumber : UInt32
  fillQuantity : UInt32
  fillPrice : UInt32
  price : UInt32
  totalVolumeRemaining : UInt32
  volumeFilledToday : UInt32
deriving DecidableEq, Repr

def EngineEvent.decision (e : EngineEvent) : Decision where
  session := e.session
  txnCode := e.txnCode
  errorCode := e.errorCode
  exchangeOrderNumber := e.order.exchangeOrderNumber
  lastActivityReference := e.order.lastActivityReference
  fillNumber := e.order.fillNumber
  fillQuantity := e.fillQuantity
  fillPrice := e.fillPrice
  price := e.order.price
  totalVolumeRemaining := e.order.totalVolumeRemaining
  volumeFilledToday := e.order.volumeFilledToday

/-- The event without the readings of the clock. -/
def EngineEvent.timeless (e : EngineEvent) : EngineEvent := e.bare fun _ => true

/-- The events that are for one of the sessions. -/
def seenBy (keep : UInt64 → Bool) (es : List EngineEvent) : List EngineEvent :=
  es.filter fun e => keep e.order.sessionId

/-- The engine without the passive fields is the engine. -/
theorem engine_refines_bare :
    Refines (engine cfg) (engine cfg) (EngineState.bare keep) (fun op => some (op.bare keep))
      (fun e => some (e.bare keep)) where
  step st op op' hop := by
    cases hop
    rw [engine_bare, List.filterMap_eq_map']
    exact ⟨rfl, rfl⟩
  silent st op hop := by cases hop

theorem exec_bare (st : EngineState) (ops : List Op) :
    (exec (engine cfg) st ops).1.map (·.bare keep) =
        (exec (engine cfg) (st.bare keep) (ops.map (·.bare keep))).1 ∧
      (exec (engine cfg) st ops).2.bare keep =
        (exec (engine cfg) (st.bare keep) (ops.map (·.bare keep))).2 := by
  have h := (@engine_refines_bare keep cfg).exec st ops
  rw [List.filterMap_eq_map', List.filterMap_eq_map'] at h
  exact h

/-- To a session that is kept, an event without the passive fields is the event but for its time. -/
theorem bare_of_keep {e : EngineEvent} (hkeep : keep e.order.sessionId = true) :
    e.bare keep = e.timeless := by
  simp [EngineEvent.timeless, EngineEvent.bare, OrderSnapshot.bare, hkeep]

theorem seenBy_timeless (es : List EngineEvent) :
    (seenBy keep es).map (·.timeless) =
      (es.map (·.bare keep)).filter fun e => keep e.order.sessionId := by
  induction es with
  | nil => rfl
  | cons e es ih =>
      rw [seenBy] at ih ⊢
      rw [List.map_cons, List.filter_cons, List.filter_cons]
      have hsession : (e.bare keep).order.sessionId = e.order.sessionId := rfl
      rw [hsession]
      cases hkeep : keep e.order.sessionId with
      | true =>
          simp only [if_true, List.map_cons]
          rw [ih, bare_of_keep hkeep]
      | false => exact ih

/-- Two runs whose calls differ only in the readings of the clock and in the passive fields of the
requests of some sessions: the engine decides the same, in the same order, the books are the same, and
the other sessions are told the same to the last field but for the time. -/
theorem passive_fields_decide_nothing {st st' : EngineState} (hst : st.bare keep = st'.bare keep)
    {ops ops' : List Op} (hops : ops.map (·.bare keep) = ops'.map (·.bare keep)) :
    (exec (engine cfg) st ops).1.map (·.decision) = (exec (engine cfg) st' ops').1.map (·.decision) ∧
    (seenBy keep (exec (engine cfg) st ops).1).map (·.timeless) =
      (seenBy keep (exec (engine cfg) st' ops').1).map (·.timeless) ∧
    (exec (engine cfg) st ops).2.books = (exec (engine cfg) st' ops').2.books ∧
    (exec (engine cfg) st ops).2.bare keep = (exec (engine cfg) st' ops').2.bare keep := by
  obtain ⟨hevents, hstate⟩ := @exec_bare keep cfg st ops
  obtain ⟨hevents', hstate'⟩ := @exec_bare keep cfg st' ops'
  rw [← hst, ← hops] at hevents' hstate'
  have hsame := hevents.trans hevents'.symm
  have hsameState := hstate.trans hstate'.symm
  have hbooks := congrArg EngineState.books hsameState
  rw [EngineState.bare_books, EngineState.bare_books] at hbooks
  refine ⟨?_, ?_, hbooks, hsameState⟩
  · have hdecisions := congrArg (List.map EngineEvent.decision) hsame
    rw [List.map_map, List.map_map] at hdecisions
    exact hdecisions
  · rw [seenBy_timeless, seenBy_timeless, hsame]

/-- The resting order of the tests at another time, with another algorithm and account. -/
def disguisedRun : List Op :=
  [.newOrder { calm with clock := fun _ => ⟨7, 7⟩ }
    { orderRequest 654321 1 25 1000 kOrderFlagsDay with
      algoId := 5
      accountNumber := .replicate 10 65 } 1 1]

theorem passive_fields_decide_nothing_disguised :
    (exec (engine bookMatching) bookMatching.init (restingRun ++ [offer])).1.map (·.decision) =
      (exec (engine bookMatching) bookMatching.init (disguisedRun ++ [offer])).1.map (·.decision) :=
  (@passive_fields_decide_nothing (fun sessionId => sessionId != 1) bookMatching _ _ rfl _ _ rfl).1

end NseFoExchangeSim.Engine
