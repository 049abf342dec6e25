import NseFoExchangeSim.Lib.Trace
import NseFoExchangeSim.Server.Frames

/-!
# The writers of a connection

`sendPayload` as the threads of one connection run it, one step at a time: the session's own thread and
the market-data threads. An event is sent while the thread holds `write_mutex_`; the direct responses of
the session's thread are sent without it. The writes succeed.
-/

namespace NseFoExchangeSim.Server

open Lib Protocol

inductive Writer
  | session
  | marketData (stream : Nat)
deriving DecidableEq, Repr

/-- How far a thread is in `sendPayload`, with its local variables, and whether it holds the mutex. -/
inductive WriterControl
  | idle
  | sending (locked : Bool) (payload : List UInt8)
  | encrypted (locked : Bool) (payload body : List UInt8)
  | numbered (locked : Bool) (payload : List UInt8) (header : DirectExCtclHeader) (body : List UInt8)
  | headerWritten (locked : Bool) (payload : List UInt8) (header : DirectExCtclHeader)
      (body : List UInt8)

namespace WriterControl

def locked : WriterControl → Bool
  | .idle => false
  | .sending locked _ => locked
  | .encrypted locked _ _ => locked
  | .numbered locked _ _ _ => locked
  | .headerWritten locked _ _ _ => locked

/-- The thread has used the outbound stream for a frame that is not on the wire yet. -/
def inside : WriterControl → Bool
  | .idle => false
  | .sending _ _ => false
  | _ => true

/-- The payload that the thread has still to encrypt. -/
def waiting : WriterControl → List (List UInt8)
  | .sending _ payload => [payload]
  | _ => []

end WriterControl

/-- The members of the connection that `sendPayload` uses, the thread that holds `write_mutex_`, and where
the threads are. -/
structure WriterState where
  channel : Channel
  holder : Option Writer
  control : Writer → WriterControl

def WriterState.init (channel : Channel) : WriterState where
  channel := channel
  holder := none
  control _ := .idle

def WriterState.setControl (s : WriterState) (w : Writer) (c : WriterControl) : WriterState :=
  { s with control := Function.update s.control w c }

/-- `sendPayload` returns or throws, and an event's mutex is released. -/
def WriterState.leave (s : WriterState) (w : Writer) : WriterState :=
  { s.setControl w .idle with holder := if (s.control w).locked then none else s.holder }

section WriterState

variable {s : WriterState} {w w' : Writer} {c : WriterControl}

@[simp] theorem WriterState.setControl_self : (s.setControl w c).control w = c := Function.update_self ..

theorem WriterState.setControl_of_ne (h : w' ≠ w) : (s.setControl w c).control w' = s.control w' :=
  Function.update_of_ne h ..

@[simp] theorem WriterState.leave_self : (s.leave w).control w = .idle := Function.update_self ..

theorem WriterState.leave_of_ne (h : w' ≠ w) : (s.leave w).control w' = s.control w' :=
  Function.update_of_ne h ..

end WriterState

inductive WriterAction
  /-- The session's thread calls `sendPayload` for a direct response. -/
  | respond (payload : List UInt8)
  /-- A thread takes `write_mutex_` in `dispatchEvent` and calls `sendPayload`. -/
  | lock (w : Writer) (payload : List UInt8)
  | encrypt (w : Writer)
  | number (w : Writer)
  | writeHeader (w : Writer)
  | writeBody (w : Writer)

/-- The threads as a machine that answers a step with the bytes it writes. A step that its thread cannot
take leaves the state as it is. -/
def writers (prims : Primitives) : Machine WriterState WriterAction UInt8
  | s, .respond payload =>
      match s.control .session with
      | .idle => ([], s.setControl .session (.sending false payload))
      | _ => ([], s)
  | s, .lock w payload =>
      match s.control w, s.holder with
      | .idle, none => ([], { s.setControl w (.sending true payload) with holder := some w })
      | _, _ => ([], s)
  | s, .encrypt w =>
      match s.control w with
      | .sending locked payload =>
          match s.channel.encrypt prims payload with
          | .error _ => ([], s.leave w)
          | .ok (body, channel) =>
              ([], { s.setControl w (.encrypted locked payload body) with channel })
      | _ => ([], s)
  | s, .number w =>
      match s.control w with
      | .encrypted locked payload body =>
          let (number, channel) := s.channel.nextNumber
          let header := Channel.frameHeader body.length number (prims.md5 payload)
          ([], { s.setControl w (.numbered locked payload header body) with channel })
      | _ => ([], s)
  | s, .writeHeader w =>
      match s.control w with
      | .numbered locked payload header body =>
          (header.bytes, s.setControl w (.headerWritten locked payload header body))
      | _ => ([], s)
  | s, .writeBody w =>
      match s.control w with
      | .headerWritten _ _ _ body => (body, s.leave w)
      | _ => ([], s)

/-- A thread starts a frame only while no other is within one, unless both hold the mutex. -/
def NoOverlap (_ : List UInt8) (s : WriterState) : WriterAction → Prop
  | .encrypt w => ∀ w', w' ≠ w → (s.control w').inside = true →
      (s.control w).locked = true ∧ (s.control w').locked = true
  | _ => True

/-! ## Payloads -/

/-- The payload with which a step calls `sendPayload`, and the thread. -/
def handedBy (s : WriterState) : WriterAction → List (Writer × List UInt8)
  | .respond payload =>
      match s.control .session with
      | .idle => [(.session, payload)]
      | _ => []
  | .lock w payload =>
      match s.control w, s.holder with
      | .idle, none => [(w, payload)]
      | _, _ => []
  | _ => []

/-- The payload whose frame a step begins, and the thread. -/
def begunBy (prims : Primitives) (s : WriterState) : WriterAction → List (Writer × List UInt8)
  | .encrypt w =>
      match s.control w with
      | .sending _ payload =>
          match s.channel.encrypt prims payload with
          | .error _ => []
          | .ok _ => [(w, payload)]
      | _ => []
  | _ => []

/-- What has been handed to `sendPayload`, and what it has begun to write, in the order of the steps. -/
def handed (calls : List (WriterState × WriterAction)) : List (Writer × List UInt8) :=
  calls.flatMap fun (s, a) => handedBy s a

def begun (prims : Primitives) (calls : List (WriterState × WriterAction)) :
    List (Writer × List UInt8) :=
  calls.flatMap fun (s, a) => begunBy prims s a

/-- The payloads of one thread. -/
def payloadsOf (w : Writer) (payloads : List (Writer × List UInt8)) : List (List UInt8) :=
  (payloads.filter (·.1 = w)).map (·.2)

section Payloads

variable {w : Writer} {payloads payloads' : List (Writer × List UInt8)}
  {calls : List (WriterState × WriterAction)} {s : WriterState} {a : WriterAction}

@[simp] theorem payloadsOf_append :
    payloadsOf w (payloads ++ payloads') = payloadsOf w payloads ++ payloadsOf w payloads' := by
  simp [payloadsOf]

@[simp] theorem handed_snoc : handed (calls ++ [(s, a)]) = handed calls ++ handedBy s a := by
  simp [handed]

@[simp] theorem begun_snoc {prims : Primitives} :
    begun prims (calls ++ [(s, a)]) = begun prims calls ++ begunBy prims s a := by
  simp [begun]

end Payloads

end NseFoExchangeSim.Server
