import NseFoExchangeSim.Engine.Theorems.FeedBooks
import NseFoExchangeSim.Replay.Lemmas.Pass
import NseFoExchangeSim.Replay.Theorems.ReadBack

/-!
# From the capture files to the books

A replay and a simulator together: what one pass sends is what a market-data thread receives, and the
packets it passes on are messages for the books. However the files are merged, and whatever else the
simulator is doing, the book of a token comes out as its own file says.
-/

namespace NseFoExchangeSim.Replay

open Lib Protocol Engine Server

/-! ## The messages of a run for a token -/

/-- What a message has the book of its token do. -/
def packetBookMessage : Packet → Option BookMessage
  | .order message => bookMessage message
  | .trade message =>
      some (.trade message.buyOrderId message.sellOrderId message.tradePrice message.tradeQuantity)

/-- The packet that a call comes from. -/
def callPacket : Op → Option Packet
  | .tbtOrder _ message => some (.order message)
  | .tbtTrade _ message => some (.trade message)
  | _ => none

/-- The packets for a token. -/
def packetsFor (token : UInt32) (packets : List Packet) : List Packet :=
  packets.filter fun packet => packetToken packet == token

theorem feedFor_eq (token : UInt32) (ops : List Op) :
    feedFor token ops = (packetsFor token (ops.filterMap callPacket)).filterMap packetBookMessage := by
  rw [feedFor, FirstCome.messagesFor, packetsFor, List.filter_filterMap, List.filter_filterMap,
    List.filterMap_filterMap, List.filterMap_filterMap]
  congr 1
  funext op
  cases op with
  | newOrder env request sessionId session =>
      simp only [Op.touch, callPacket]
      split
      · by_cases htoken : (buildSnapshotFromEntryRequest request sessionId session).token = token <;>
          simp [htoken]
      · rfl
  | tbtOrder env message =>
      by_cases htoken : message.token = token <;>
        simp [Op.touch, callPacket, packetToken, packetBookMessage, Option.filter, htoken]
  | tbtTrade env message =>
      by_cases htoken : message.token = token <;>
        simp [Op.touch, callPacket, packetToken, packetBookMessage, Option.filter, htoken]
  | modifyOrder _ _ _ _ => rfl
  | cancelOrder _ _ _ _ => rfl
  | sessionClosed _ => rfl

/-! ## What one destination receives -/

/-- The datagrams of a pass that went to a destination. -/
def datagramsTo (destination : ReplayDestination) (sent : List Sent) : List (List UInt8) :=
  (sent.filter fun s => s.destination == destination).map (·.datagram)

def receivedBytes : Received → Option (List UInt8)
  | .failed => none
  | .datagram bytes => some bytes

/-- The thread of a socket passes on the packets of the datagrams it receives, errors or none. -/
theorem marketDataLoop_packets (received : List Received) :
    (exec marketDataLoop emptyBuffer received).1 =
      (received.filterMap receivedBytes).filterMap packetOf := by
  rw [exec_marketDataLoop length_emptyBuffer, List.filterMap_filterMap]
  congr 1
  funext r
  cases r <;> rfl

/-- The messages for a token in some records. -/
def messagesIn (token : UInt32) (records : List CaptureRecord) : List BookMessage :=
  (packetsFor token (records.filterMap messageOf)).filterMap packetBookMessage

section Pass

variable {resolved : ResolvedReplayOptions} {lanes : List (List CaptureRecord)} {token : UInt32}
  {i : Nat} {lane : List CaptureRecord} {destination : ReplayDestination} {sent : List Sent}

/-- Only the file has records of the token. -/
def OnlyIn (token : UInt32) (i : Nat) (lanes : List (List CaptureRecord)) : Prop :=
  ∀ (j : Nat) (lane : List CaptureRecord), lanes[j]? = some lane →
    (∃ record ∈ lane, record.token = token) → j = i

theorem packetsFor_filterMap (packets : List CaptureRecord) :
    packetsFor token (packets.filterMap messageOf) =
      packets.filterMap fun record =>
        (messageOf record).filter fun packet => packetToken packet == token := by
  rw [packetsFor, List.filter_filterMap]

/-- The packets for the token in the datagrams of a whole pass are those of its file, in order. -/
theorem packetsFor_datagrams (hmerges : Merges sortKey lanes (sent.map Sent.source))
    (hlength : sent.length = laneTotal lanes)
    (hcomplete : ∀ lane ∈ lanes, ∀ record ∈ lane, record.Complete)
    (hfaithful : ∀ s ∈ sent, s.Faithful resolved) (hlane : lanes[i]? = some lane)
    (hown : OnlyIn token i lanes)
    (hroute : ∀ record ∈ lane, record.token = token →
      route resolved record.streamId = some destination) :
    packetsFor token ((datagramsTo destination sent).filterMap packetOf) =
      packetsFor token (lane.filterMap messageOf) := by
  have hall : lane = onLane i (sent.map Sent.source) := by
    rw [hmerges.onLane_eq (by rw [List.length_map, hlength]), hlane]
    rfl
  rw [packetsFor_filterMap, hall, packetsFor, datagramsTo, onLane, List.filter_filterMap,
    List.filterMap_map, List.filterMap_map, List.filter_map, List.filterMap_map, List.filterMap_filter,
    List.filterMap_filter]
  refine List.filterMap_congr fun s hs => ?_
  obtain ⟨lane', hlane', hrecord⟩ := hmerges.mem_lane (List.mem_map_of_mem hs)
  have hs' := hcomplete lane' (List.mem_of_getElem? hlane') _ hrecord
  simp only [Function.comp_apply, Sent.source] at hlane' hrecord hs' ⊢
  rw [(hfaithful s hs).datagram, hs'.packet]
  cases hmessage : messageOf s.cursor.record with
  | none => simp
  | some packet =>
      by_cases htoken : packetToken packet = token
      · have hmine : s.cursor.record.token = token := by rw [← hs'.token hmessage, htoken]
        have hi := hown _ lane' hlane' ⟨_, hrecord, hmine⟩
        rw [hi, hlane] at hlane'
        cases hlane'
        have hdest := hroute _ hrecord hmine
        rw [(hfaithful s hs).destination, Option.some.injEq] at hdest
        simp [hdest, hi]
      · simp [Option.filter, htoken]

end Pass

theorem Accepts.complete {resolved : ResolvedReplayOptions} {lanes : List (List CaptureRecord)}
    (haccepts : Accepts resolved lanes) : ∀ lane ∈ lanes, ∀ record ∈ lane, record.Complete := by
  intro lane hmem record hrecord
  obtain ⟨i, hlt, rfl⟩ := List.mem_iff_getElem.mp hmem
  have hlt' : i < resolved.inputFiles.length := by
    rw [haccepts.length_eq]
    exact hlt
  exact ((List.forall₂_iff_get.mp haccepts).2 i hlt' hlt).complete record hrecord

/-! ## From the file to the book -/

/-- A pass without a limit over accepted, routed files, of which one alone has the records of a token,
all of them for one destination. When the simulator's thread for that destination receives what was
sent there, and the simulator is given the token's packets by no other thread, then whatever its clients
do and however the calls fall, the token's book, if it has one, is what the messages of the file make of
an empty book. -/
theorem replay_rebuilds_books {resolved : ResolvedReplayOptions} {lanes : List (List CaptureRecord)}
    {token : UInt32} {i : Nat} {lane : List CaptureRecord} {destination : ReplayDestination}
    {cfg : EngineConfig} (haccepts : Accepts resolved lanes) (hrouted : Routed resolved lanes)
    (hwhole : resolved.maxRecords = 0) (hlane : lanes[i]? = some lane) (hown : OnlyIn token i lanes)
    (hroute : ∀ record ∈ lane, record.token = token →
      route resolved record.streamId = some destination)
    (hmd : cfg.marketDataEnabled = true) :
    ∃ sent : List Sent,
      (∀ fuel, laneTotal lanes < fuel → replayOnePass resolved 0 fuel =
        (sent, some (.ok (UInt64.ofNat sent.length)))) ∧
      ∀ received, received.filterMap receivedBytes = datagramsTo destination sent →
        ∀ ops, packetsFor token (ops.filterMap callPacket) =
            packetsFor token (exec marketDataLoop emptyBuffer received).1 →
          (exec (engine cfg) cfg.init ops).2.books[token]? =
            if token ∈ trackedTokens cfg ops then
              some ((messagesIn token lane).foldl ExternalBook.on {})
            else none := by
  obtain ⟨sent, hpass, hmerges, hlength, hfaithful⟩ :=
    @replayOnePass_merges _ _ 0 haccepts hrouted (.inl hwhole)
  have htotal : sent.length = laneTotal lanes := by rw [hlength, quota, if_pos hwhole]
  refine ⟨sent, hpass, fun received hreceived ops hops => ?_⟩
  rw [marketDataLoop_packets, hreceived, packetsFor_datagrams hmerges htotal haccepts.complete
    hfaithful hlane hown hroute] at hops
  rw [book_of_run hmd, feedFor_eq, hops, messagesIn]

/-! A replay of two files into the simulator of the book-matching test, whose client has an order. -/

/-- An offer of 10 at 999 for one token, of which 4 are taken, and one for another token. -/
def offered : List CapturedPacket :=
  [{ captureSeconds := 100, packet := .order ⟨'N'.toUInt8, 101, 654321, 'S'.toUInt8, 999, 10⟩ },
    { captureSeconds := 102, seqNo := 2, packet := .trade ⟨201, 101, 654321, 999, 4⟩ }]

def offeredElsewhere : List CapturedPacket :=
  [{ captureSeconds := 101, packet := .order ⟨'N'.toUInt8, 301, 765432, 'S'.toUInt8, 790, 20⟩ }]

def replayedFiles : ResolvedReplayOptions where
  inputFiles :=
    [("654321_fo.dat", captureFile offered), ("765432_fo.dat", captureFile offeredElsewhere)]
  defaultDestination := some { host := "127.0.0.1", port := 32001 }

def replayedRecords : List (List CaptureRecord) :=
  [offered.map CapturedPacket.record, offeredElsewhere.map CapturedPacket.record]

theorem replayedFiles_accepts : Accepts replayedFiles replayedRecords := by
  have hsound : (∀ c ∈ offered, c.Sound) ∧ ∀ c ∈ offeredElsewhere, c.Sound := by
    constructor
    · intro c hc
      simp only [offered, List.mem_cons, List.not_mem_nil, or_false] at hc
      rcases hc with rfl | rfl
      · exact ⟨by decide, by decide⟩
      · exact ⟨by decide, by decide⟩
    · intro c hc
      rw [offeredElsewhere, List.mem_singleton] at hc
      subst hc
      exact ⟨by decide, by decide⟩
  exact .cons (holds_captureFile hsound.1 0) (.cons (holds_captureFile hsound.2 0) .nil)

theorem replayedFiles_own : OnlyIn 654321 0 replayedRecords := by
  intro j lane hlane hrecord
  match j with
  | 0 => rfl
  | 1 =>
      cases hlane
      exact absurd hrecord (by decide +kernel)
  | _ + 2 => cases hlane

/-- With the client's order resting before the replay, the offer is in the book with the 6 that the feed
left of it, though the order has taken some of it too. -/
theorem replay_rebuilds_books_two :
    ∃ ops, (exec (engine bookMatching) bookMatching.init (restingRun ++ ops)).2.books[(654321 : UInt32)]? =
      some ((({} : ExternalBook).onNew 101 false 999 10).onTrade 201 101 999 4) := by
  obtain ⟨sent, -, hbooks⟩ := @replay_rebuilds_books replayedFiles replayedRecords 654321 0 _
    { host := "127.0.0.1", port := 32001 } bookMatching replayedFiles_accepts
    ⟨by rfl, fun _ _ _ _ => rfl⟩ rfl rfl replayedFiles_own (fun _ _ _ => rfl) rfl
  let received := (datagramsTo { host := "127.0.0.1", port := 32001 } sent).map Received.datagram
  let packets := (exec marketDataLoop emptyBuffer received).1
  have hreceived : received.filterMap receivedBytes = _ := List.filterMap_map.trans List.filterMap_some
  have hcalls : (restingRun ++ packets.map (Packet.call calm)).filterMap callPacket = packets := by
    rw [List.filterMap_append, List.filterMap_map]
    refine (List.nil_append _).trans ((List.filterMap_congr fun packet _ => ?_).trans
      List.filterMap_some)
    cases packet <;> rfl
  have htracked : 654321 ∈ trackedTokens bookMatching (restingRun ++ packets.map (Packet.call calm)) := by
    rw [trackedTokens, List.filterMap_append, List.map_append]
    exact (FirstCome.admitted_prefix _ _).subset (by decide +kernel)
  have hbook := hbooks received hreceived _ (congrArg (packetsFor 654321) hcalls)
  rw [if_pos htracked] at hbook
  exact ⟨_, hbook⟩

end NseFoExchangeSim.Replay
