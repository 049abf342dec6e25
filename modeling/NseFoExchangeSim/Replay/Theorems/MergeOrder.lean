import NseFoExchangeSim.Replay.Lemmas.Pass

/-!
# The order of a pass

A pass sends the beginning of an interleaving of its files. It takes the least of the heads of the files
each time, whether or not the files are sorted.
-/

namespace NseFoExchangeSim.Replay

open Lib

section Order

variable {resolved : ResolvedReplayOptions} {lanes : List (List CaptureRecord)} {alreadySent : UInt64}

theorem datagramOf_length {record : CaptureRecord} (h : record.WellFormed) :
    (datagramOf record).length = record.packetSize.toNat := by
  have hsize := h.packetSize
  rw [datagramOf, List.length_take, List.length_drop, h.raw]
  simp only [kCaptureMaxPayloadSize, kCapturePrefixSize, kCapturePayloadOffset] at hsize ⊢
  omega

/-- Every record that was sent is one of an accepted file. -/
theorem sent_wellFormed (haccepts : Accepts resolved lanes) {sent : List Sent}
    (hmerges : Merges sortKey lanes (sent.map Sent.source)) :
    ∀ s ∈ sent, s.cursor.record.WellFormed := by
  intro s hs
  obtain ⟨lane, hlane, hrecord⟩ := hmerges.mem_lane (List.mem_map_of_mem hs)
  exact haccepts.wellFormed lane (List.mem_of_getElem? hlane) _ hrecord

/-- A pass sends its quota of an interleaving of the files, each time the least of their heads. -/
theorem pass_merges_files (haccepts : Accepts resolved lanes) (hrouted : Routed resolved lanes)
    (hleft : resolved.maxRecords = 0 ∨ alreadySent < resolved.maxRecords) :
    ∃ sent : List Sent,
      (∀ fuel, laneTotal lanes < fuel → replayOnePass resolved alreadySent fuel =
        (sent, some (.ok (UInt64.ofNat sent.length)))) ∧
      sent.length = (if resolved.maxRecords = 0 then laneTotal lanes
        else min (laneTotal lanes) (resolved.maxRecords.toNat - alreadySent.toNat)) ∧
      (∃ whole, sent.map Sent.source <+: whole ∧ ∀ i, onLane i whole = lanes[i]?.getD []) ∧
      (∀ before s after, sent = before ++ s :: after →
        (∃ rest, laneAfter lanes (before.map Sent.source) s.cursor.readerIndex =
          s.cursor.record :: rest) ∧
        ∀ i record rest, laneAfter lanes (before.map Sent.source) i = record :: rest →
          sortKey s.cursor.readerIndex s.cursor.record ≤ sortKey i record) ∧
      ∀ s ∈ sent,
        s.datagram = (s.cursor.record.raw.drop 16).take s.cursor.record.packetSize.toNat ∧
          s.datagram.length = s.cursor.record.packetSize.toNat ∧
            route resolved s.cursor.record.streamId = some s.destination := by
  obtain ⟨sent, hpass, hmerges, hlength, hfaithful⟩ := replayOnePass_merges haccepts hrouted
    (hleft.imp id fun hlt => Nat.le_of_lt (UInt64.lt_iff_toNat_lt.mp hlt))
  have hwellFormed := sent_wellFormed haccepts hmerges
  refine ⟨sent, hpass, hlength, ?_, fun before s after hsent => ?_, fun s hs => ?_⟩
  · obtain ⟨more, hmore, htotal⟩ := hmerges.extend hmerges.length_le (Nat.le_refl _)
    exact ⟨_, List.prefix_append _ more, hmore.onLane_eq htotal⟩
  · subst hsent
    rw [List.map_append, List.map_cons] at hmerges
    exact hmerges.least
  · have hdatagram := (hfaithful s hs).datagram
    refine ⟨hdatagram, ?_, (hfaithful s hs).destination⟩
    rw [hdatagram]
    exact datagramOf_length (hwellFormed s hs)

end Order

/-- Two files, of which the first has its records out of order, and a limit of two records. -/
def twoFiles : ResolvedReplayOptions where
  inputFiles :=
    [("a.bin", orderFile [{ seconds := 5 }, { seconds := 3, nanos := 7, sequenceNo := 2 }]),
      ("b.bin", orderFile [{ seconds := 4, nanos := 999999999, streamId := 2 }])]
  defaultDestination := some { host := "239.1.1.1", port := 12345 }
  maxRecords := 2

def twoFileRecords : List (List CaptureRecord) :=
  [[{ seconds := 5 }, { seconds := 3, nanos := 7, sequenceNo := 2 }].map OrderStamp.record,
    [{ seconds := 4, nanos := 999999999, streamId := 2 }].map OrderStamp.record]

theorem twoFiles_accepts : Accepts twoFiles twoFileRecords := by
  apply List.Forall₂.cons
  · exact holds_orderFile (by decide)
  · exact .cons (holds_orderFile (by decide)) .nil

theorem twoFiles_routed : Routed twoFiles twoFileRecords := ⟨by rfl, fun _ _ _ _ => rfl⟩

/-- The head of the second file goes first, and the earlier record behind the head of the first file
waits for that one. -/
theorem pass_merges_files_two : ∃ sent : List Sent,
    (∀ fuel, 3 < fuel → replayOnePass twoFiles 0 fuel = (sent, some (.ok (UInt64.ofNat sent.length)))) ∧
      sent.length = 2 := by
  obtain ⟨sent, hpass, hlength, -⟩ :=
    @pass_merges_files _ _ 0 twoFiles_accepts twoFiles_routed (.inr (by decide))
  exact ⟨sent, hpass, hlength⟩

end NseFoExchangeSim.Replay
