import NseFoExchangeSim.Lib.Text
import NseFoExchangeSim.Replay.Capture

/-!
# The replay

`MulticastReplayApp` of `replay.cpp`. Its loops end when the capture files do; a `fuel` argument bounds
the turns they make here, and no result means that they still run. A pass gives what it has sent and
how it ended. The network is there: a socket can be made and set up, and `sendto` takes every datagram
whole.
-/

namespace NseFoExchangeSim.Replay

structure ReplayDestination where
  host : String
  port : UInt16 := 0
deriving DecidableEq, Repr

inductive ReplayPacingMode
  | none
  | captured
deriving DecidableEq, Repr

/-- The resolved options that the replay reads; `inputFiles` has the path of every file and its
bytes. -/
structure ResolvedReplayOptions where
  inputFiles : List (String × List UInt8)
  defaultDestination : Option ReplayDestination := none
  streamDestinations : List (UInt16 × ReplayDestination) := []
  outgoingInterfaceIp : String := ""
  pacing : ReplayPacingMode := .none
  maxRecords : UInt64 := 0
  loop : Bool := false

structure ReplayCursor where
  record : CaptureRecord
  readerIndex : Nat := 0
deriving DecidableEq, Repr

/-- `ReplayCursorCompare`: the left cursor comes after the right one. -/
def comesAfter (lhs rhs : ReplayCursor) : Bool :=
  if lhs.record.captureTimeNs ≠ rhs.record.captureTimeNs then
    lhs.record.captureTimeNs > rhs.record.captureTimeNs
  else if lhs.record.streamId ≠ rhs.record.streamId then
    lhs.record.streamId > rhs.record.streamId
  else if lhs.record.sequenceNo ≠ rhs.record.sequenceNo then
    lhs.record.sequenceNo > rhs.record.sequenceNo
  else lhs.readerIndex > rhs.readerIndex

/-- A `std::priority_queue`, as the list of its elements in the order in which they are popped. -/
abbrev ReplayQueue := List ReplayCursor

def ReplayQueue.push (cursor : ReplayCursor) : ReplayQueue → ReplayQueue
  | [] => [cursor]
  | top :: queue =>
      if comesAfter cursor top then top :: ReplayQueue.push cursor queue
      else cursor :: top :: queue

/-! ## Sending -/

/-- A datagram that was sent: its bytes, where it went, the cursor it is from, and under captured pacing
the time to wait since the first record of the pass. -/
structure Sent where
  cursor : ReplayCursor
  destination : ReplayDestination
  datagram : List UInt8
  deltaNs : Option UInt64 := none
deriving DecidableEq, Repr

/-- The check of `buildRoutedDestination`. -/
def buildRoutedDestination (destination : ReplayDestination) : Except String Unit :=
  if !Lib.inetPton destination.host.toList then
    .error ("Replay destination host must be an IPv4 address: " ++ destination.host)
  else .ok ()

/-- What the constructor of `UdpReplaySender` checks. -/
def buildSender (resolved : ResolvedReplayOptions) : Except String Unit := do
  if resolved.outgoingInterfaceIp ≠ "" ∧ !Lib.inetPton resolved.outgoingInterfaceIp.toList then
    throw ("Invalid outgoing interface IP: " ++ resolved.outgoingInterfaceIp)
  resolved.defaultDestination.toList.forM buildRoutedDestination
  resolved.streamDestinations.forM fun entry => buildRoutedDestination entry.2

def route (resolved : ResolvedReplayOptions) (streamId : UInt16) : Option ReplayDestination :=
  match resolved.streamDestinations.lookup streamId with
  | some destination => some destination
  | none => resolved.defaultDestination

/-- The bytes `sendto` is given. -/
def datagramOf (record : CaptureRecord) : List UInt8 :=
  (record.raw.drop kCapturePayloadOffset).take record.packetSize.toNat

def send (resolved : ResolvedReplayOptions) (cursor : ReplayCursor) (deltaNs : Option UInt64) :
    Except String Sent :=
  match route resolved cursor.record.streamId with
  | none =>
      .error ("No UDP destination configured for capture stream_id " ++
        toString cursor.record.streamId)
  | some destination =>
      .ok { cursor, destination, datagram := datagramOf cursor.record, deltaNs }

/-! ## One pass -/

structure PassState where
  readers : List CaptureRecordReader
  queue : ReplayQueue := []
  firstCaptureTimeNs : Option UInt64 := none
  sent : UInt64 := 0

/-- A cursor to the next record of a file is queued, if there is one. -/
def refill (st : PassState) (index : Nat) : Except String PassState :=
  match st.readers[index]? with
  | none => .ok st
  | some reader => do
      match ← reader.readNext with
      | none => return st
      | some (record, reader) =>
          return { st with
            readers := st.readers.set index reader
            queue := ReplayQueue.push { record, readerIndex := index } st.queue }

/-- The queue is filled with the first record of every file. -/
def openReaders (resolved : ResolvedReplayOptions) : Except String PassState :=
  (List.range resolved.inputFiles.length).foldlM refill
    { readers := resolved.inputFiles.map fun file => { path := file.1, input := file.2 } }

/-- The time a captured pace waits for, and the capture time that it counts from. -/
def pace (resolved : ResolvedReplayOptions) (st : PassState) (cursor : ReplayCursor) :
    Option UInt64 × Option UInt64 :=
  match resolved.pacing with
  | .none => (none, st.firstCaptureTimeNs)
  | .captured =>
      match st.firstCaptureTimeNs with
      | none => (none, some cursor.record.captureTimeNs)
      | some first => (some (cursor.record.captureTimeNs - first), some first)

/-- What was sent, and how it ended: not yet, with an exception, or with a result. -/
abbrev Replayed (α : Type) := List Sent × Option (Except String α)

/-- The loop of `replayOnePass`. -/
def replayLoop (resolved : ResolvedReplayOptions) (alreadySent : UInt64) :
    Nat → PassState → Replayed UInt64
  | 0, _ => ([], none)
  | fuel + 1, st =>
      match st.queue with
      | [] => ([], some (.ok st.sent))
      | cursor :: queue =>
          if resolved.maxRecords ≠ 0 ∧ alreadySent + st.sent ≥ resolved.maxRecords then
            ([], some (.ok st.sent))
          else
            let (deltaNs, firstCaptureTimeNs) := pace resolved st cursor
            match send resolved cursor deltaNs with
            | .error message => ([], some (.error message))
            | .ok datagram =>
                let st := { st with queue, firstCaptureTimeNs, sent := st.sent + 1 }
                match refill st cursor.readerIndex with
                | .error message => ([datagram], some (.error message))
                | .ok st =>
                    let rest := replayLoop resolved alreadySent fuel st
                    (datagram :: rest.1, rest.2)

def replayOnePass (resolved : ResolvedReplayOptions) (alreadySent : UInt64) (fuel : Nat) :
    Replayed UInt64 :=
  match buildSender resolved with
  | .error message => ([], some (.error message))
  | .ok () =>
      match openReaders resolved with
      | .error message => ([], some (.error message))
      | .ok st => replayLoop resolved alreadySent fuel st

/-! ## The run -/

/-- The passes of `run`, of which at most `passes` are made. -/
def runLoop (resolved : ResolvedReplayOptions) (fuel : Nat) : Nat → UInt64 → Replayed UInt64
  | 0, _ => ([], none)
  | passes + 1, totalSent =>
      match replayOnePass resolved totalSent fuel with
      | (sent, none) => (sent, none)
      | (sent, some (.error message)) => (sent, some (.error message))
      | (sent, some (.ok count)) =>
          let totalSent := totalSent + count
          if resolved.maxRecords ≠ 0 ∧ totalSent ≥ resolved.maxRecords then
            (sent, some (.ok totalSent))
          else if resolved.loop then
            let rest := runLoop resolved fuel passes totalSent
            (sent ++ rest.1, rest.2)
          else (sent, some (.ok totalSent))

def run (resolved : ResolvedReplayOptions) (fuel : Nat) : Replayed UInt64 :=
  runLoop resolved fuel fuel 0

end NseFoExchangeSim.Replay
