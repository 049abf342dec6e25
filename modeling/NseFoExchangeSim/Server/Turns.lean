import NseFoExchangeSim.Server.Lemmas.Session

/-!
# The steps of a turn

A turn that calls the engine dispatches the events of the call one after the other, and holds no mutex
between the call and the dispatches or between two of them, so that another thread may dispatch events
through the connection in between. Here the turn is cut where its first dispatch begins.
-/

namespace NseFoExchangeSim.Server

open Lib Protocol Engine

/-- What handling a payload has done before the first dispatch, and the events that are to be
dispatched: those of the engine call. -/
def beforeDispatch (ctx : SessionContext) (s : SessionState) (handled : Handled) :
    Handled × List EngineEvent :=
  match handled.1 with
  | .called op :: _ =>
      let answer := engine ctx.cfg s.engine op
      (([.called op], { s with engine := answer.2 }, none), answer.1)
  | _ => (handled, [])

/-- A turn up to its first dispatch, and the events that are to be dispatched. -/
def readTurn (ctx : SessionContext) (env : TurnEnv) (s : SessionState) :
    List SessionEvent × SessionState × List EngineEvent :=
  match s.connection.toChannel.receivePayload ctx.prims s.input with
  | .error _ => ((endSession ctx s).1, (endSession ctx s).2, [])
  | .ok (payload, channel, input) =>
      let encrypted := s.connection.encryptionEnabled
      let s := { s with connection := { s.connection with toChannel := channel }, input }
      match beforeDispatch ctx s (handlePayload ctx env payload s) with
      | ((done, s, none), owed) => (.received encrypted payload :: done, s, owed)
      | ((done, s, some _), owed) =>
          (.received encrypted payload :: (done ++ (endSession ctx s).1), (endSession ctx s).2, owed)

section Turns

variable {ctx : SessionContext} {env : TurnEnv} {s : SessionState} {payload : List UInt8}

/-- Handling calls the engine first, or does not call it. -/
inductive CallsFirst (ctx : SessionContext) (env : TurnEnv) (s : SessionState) : Handled → Prop
  | call (request : Request) : CallsFirst ctx env s (callEngine ctx env request s)
  | direct {handled} (hdirect : ∀ op rest, handled.1 ≠ .called op :: rest) :
      CallsFirst ctx env s handled

theorem callsFirst_raise (message : String) : CallsFirst ctx env s (raise message s) :=
  .direct (by simp [raise])

theorem callsFirst_sendMessage (message : Message) (written : Bool) :
    CallsFirst ctx env s (sendMessage ctx message written s) := by
  rcases sendMessage_cases ctx message written s with ⟨s', -, hsent⟩ | ⟨error, hsent⟩
  · rw [hsent]
    exact .direct (by simp)
  · rw [hsent]
    exact .direct (by simp)

theorem callsFirst_sized {size : Nat} {message : String} {handled : Handled}
    (h : CallsFirst ctx env s handled) :
    CallsFirst ctx env s (if payload.length ≠ size then raise message s else handled) := by
  split
  · exact callsFirst_raise message
  · exact h

theorem callsFirst_ready (txnCode : UInt16) :
    CallsFirst ctx env s (handleReadyPayload ctx env txnCode payload s) := by
  rw [handleReadyPayload]
  split
  · exact callsFirst_sized (callsFirst_sendMessage _ _)
  split
  · exact callsFirst_sized (callsFirst_sendMessage _ _)
  split
  · exact callsFirst_sized (callsFirst_sendMessage _ _)
  split
  · exact .direct (by simp)
  split
  · exact callsFirst_sized (.call _)
  split
  · exact callsFirst_sized (.call _)
  split
  · exact callsFirst_sized (.call _)
  · exact callsFirst_raise _

theorem callsFirst_handlePayload : CallsFirst ctx env s (handlePayload ctx env payload s) := by
  by_cases hready : s.connection.phase = .ready
  · rw [handlePayload]
    split
    · exact callsFirst_raise _
    · simp only [hready]
      exact callsFirst_ready _
  · refine .direct fun op rest hcall => ?_
    have houtcome := @handlePayload_outcome ctx env s payload
    generalize handlePayload ctx env payload s = handled at hcall houtcome
    cases houtcome with
    | call hphase _ _ _ => exact hready hphase
    | failure _ _ hsent =>
        rcases hsent with rfl | ⟨message, rfl⟩
        · cases hcall
        · cases hcall
    | _ => cases hcall

theorem beforeDispatch_direct {handled : Handled} (hdirect : ∀ op rest, handled.1 ≠ .called op :: rest) :
    beforeDispatch ctx s handled = (handled, []) := by
  obtain ⟨done, t, error⟩ := handled
  cases done with
  | nil => rfl
  | cons e done =>
      cases e with
      | called op => exact absurd rfl (hdirect op done)
      | _ => rfl

/-- A turn is the cut turn, and the dispatches that follow when nothing comes in between. -/
theorem turn_eq :
    turn ctx env s =
      ((readTurn ctx env s).1 ++
          (dispatchEvents ctx env (readTurn ctx env s).2.2 0 (readTurn ctx env s).2.1).1,
        (dispatchEvents ctx env (readTurn ctx env s).2.2 0 (readTurn ctx env s).2.1).2) := by
  rw [turn, readTurn]
  cases s.connection.toChannel.receivePayload ctx.prims s.input with
  | error message => simp [dispatchEvents]
  | ok result =>
      obtain ⟨payload, channel, input⟩ := result
      simp only
      have hfirst := @callsFirst_handlePayload ctx env
        { s with connection := { s.connection with toChannel := channel }, input := input } payload
      generalize handlePayload ctx env payload
        { s with connection := { s.connection with toChannel := channel }, input := input } =
          handled at hfirst
      cases hfirst with
      | call request => rfl
      | direct hdirect =>
          rw [beforeDispatch_direct hdirect]
          obtain ⟨done, t, error⟩ := handled
          cases error with
          | none => simp [dispatchEvents]
          | some message => simp [dispatchEvents]

/-- Before the first dispatch the payload has come to the same. -/
theorem Outcome.beforeDispatch {handled : Handled} (h : Outcome ctx s payload handled) :
    Outcome ctx s payload (Server.beforeDispatch ctx s handled).1 := by
  cases h with
  | call hready hphase hsame hdone =>
      exact .call hready hphase ⟨rfl, rfl, rfl⟩ fun e he => absurd he List.not_mem_nil
  | violation hphase hsame => exact .violation hphase hsame
  | failure hphase hsame hsent =>
      rcases hsent with rfl | ⟨message, rfl⟩
      · exact .failure hphase hsame (.inl rfl)
      · exact .failure hphase hsame (.inr ⟨message, rfl⟩)
  | registration hmessage hphase hencryption hended =>
      exact .registration hmessage hphase hencryption hended
  | answer hmessage hphase hencryption hended => exact .answer hmessage hphase hencryption hended
  | heartbeat hphase hsame => exact .heartbeat hphase hsame

theorem readTurn_effect (env : TurnEnv) (arrived : List (List UInt8)) (hrunning : s.ended = false) :
    SessionEffect ctx s (readTurn ctx env { s with input := s.input ++ arrived }).1
      (readTurn ctx env { s with input := s.input ++ arrived }).2.1 := by
  rw [readTurn]
  cases hreceive : s.connection.toChannel.receivePayload ctx.prims (s.input ++ arrived) with
  | error message => exact .unread hrunning rfl rfl
  | ok result =>
      obtain ⟨payload, channel, input⟩ := result
      have hsame : s.Same
          { s with connection := { s.connection with toChannel := channel }, input := input } :=
        ⟨rfl, receivePayload_enabled hreceive, rfl⟩
      have houtcome := (@handlePayload_outcome ctx env
        { s with connection := { s.connection with toChannel := channel }, input := input }
        payload).beforeDispatch
      simp only
      generalize Server.beforeDispatch ctx
        { s with connection := { s.connection with toChannel := channel }, input := input }
        (handlePayload ctx env payload
          { s with connection := { s.connection with toChannel := channel }, input := input }) =
          before at houtcome ⊢
      obtain ⟨⟨done, t, error⟩, owed⟩ := before
      cases error with
      | none => exact .handled hrunning (houtcome.ofSame hsame)
      | some message => exact .thrown hrunning (houtcome.ofSame hsame) rfl rfl

end Turns

end NseFoExchangeSim.Server
