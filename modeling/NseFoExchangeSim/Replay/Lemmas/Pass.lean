import Mathlib.Data.Prod.Lex
import NseFoExchangeSim.Lib.Merge
import NseFoExchangeSim.Replay.App

/-!
# What a pass does

The queue of a pass holds the heads of what is still unsent of the files, the least of them first, and
every reader stands behind the head of its file. So a pass is a merge of the files.
-/

namespace NseFoExchangeSim.Replay

open Lib

/-! ## The order of the queue -/

/-- The four keys of `ReplayCursorCompare`, the first one deciding first. -/
def sortKey (readerIndex : Nat) (record : CaptureRecord) : Nat ×ₗ Nat ×ₗ Nat ×ₗ Nat :=
  toLex (record.captureTimeNs.toNat,
    toLex (record.streamId.toNat, toLex (record.sequenceNo.toNat, readerIndex)))

def ReplayCursor.key (cursor : ReplayCursor) : Nat ×ₗ Nat ×ₗ Nat ×ₗ Nat :=
  sortKey cursor.readerIndex cursor.record

theorem sortKey_inj (i j : Nat) (r s : CaptureRecord) (h : sortKey i r = sortKey j s) : i = j := by
  simp only [sortKey, toLex_inj, Prod.mk.injEq] at h
  exact h.2.2.2

theorem comesAfter_iff (lhs rhs : ReplayCursor) :
    comesAfter lhs rhs = true ↔ rhs.key < lhs.key := by
  simp only [comesAfter, ReplayCursor.key, sortKey, Prod.Lex.toLex_lt_toLex]
  by_cases htime : lhs.record.captureTimeNs = rhs.record.captureTimeNs
  · by_cases hstream : lhs.record.streamId = rhs.record.streamId
    · by_cases hseq : lhs.record.sequenceNo = rhs.record.sequenceNo
      · simp [htime, hstream, hseq]
      · have hne : ¬rhs.record.sequenceNo.toNat = lhs.record.sequenceNo.toNat :=
          fun h => hseq (UInt32.toNat_inj.mp h).symm
        simp [htime, hstream, hseq, hne, UInt32.lt_iff_toNat_lt]
    · have hne : ¬rhs.record.streamId.toNat = lhs.record.streamId.toNat :=
        fun h => hstream (UInt16.toNat_inj.mp h).symm
      simp [htime, hstream, hne, UInt16.lt_iff_toNat_lt]
  · have hne : ¬rhs.record.captureTimeNs.toNat = lhs.record.captureTimeNs.toNat :=
      fun h => htime (UInt64.toNat_inj.mp h).symm
    simp [htime, hne, UInt64.lt_iff_toNat_lt]

namespace ReplayQueue

variable {cursor c : ReplayCursor} {queue : ReplayQueue}

theorem push_perm : (push cursor queue).Perm (cursor :: queue) := by
  induction queue with
  | nil => exact .refl _
  | cons top queue ih =>
      rw [push]
      split
      · exact (ih.cons top).trans (.swap cursor top queue)
      · exact .refl _

theorem mem_push : c ∈ push cursor queue ↔ c = cursor ∨ c ∈ queue := by
  rw [push_perm.mem_iff, List.mem_cons]

theorem push_sorted (h : queue.Pairwise fun c d => c.key ≤ d.key) :
    (push cursor queue).Pairwise fun c d => c.key ≤ d.key := by
  induction queue with
  | nil => simp [push]
  | cons top queue ih =>
      obtain ⟨htop, hqueue⟩ := List.pairwise_cons.mp h
      rw [push]
      split
      · rename_i hafter
        refine .cons (fun d hd => ?_) (ih hqueue)
        rcases mem_push.mp hd with rfl | hd
        · exact le_of_lt ((comesAfter_iff _ _).mp hafter)
        · exact htop d hd
      · rename_i hbefore
        have hle : cursor.key ≤ top.key := not_lt.mp fun h => hbefore ((comesAfter_iff _ _).mpr h)
        refine .cons (fun d hd => ?_) h
        rcases List.mem_cons.mp hd with rfl | hd
        · exact hle
        · exact le_trans hle (htop d hd)

end ReplayQueue

/-! ## The state of a pass -/

/-- The files still hold these records, and the heads of those that are loaded are queued. -/
structure Tracks (loaded : Nat → Bool) (st : PassState) (lanes : List (List CaptureRecord)) : Prop where
  readers : ∀ i lane, lanes[i]? = some lane →
    ∃ reader, st.readers[i]? = some reader ∧ Holds reader (if loaded i then lane.tail else lane)
  queued : ∀ c, c ∈ st.queue ↔
    loaded c.readerIndex = true ∧ ∃ rest, lanes[c.readerIndex]? = some (c.record :: rest)
  sorted : st.queue.Pairwise fun c d => c.key ≤ d.key
  distinct : (st.queue.map (·.readerIndex)).Nodup

section Tracks

variable {loaded : Nat → Bool} {st : PassState} {lanes : List (List CaptureRecord)} {i : Nat}
  {lane : List CaptureRecord}

theorem refill_done {reader : CaptureRecordReader} (hreader : st.readers[i]? = some reader)
    (hend : reader.readNext = .ok none) : refill st i = .ok st := by
  simp [refill, hreader, hend, bind, Except.bind, pure, Except.pure]

theorem refill_more {reader reader' : CaptureRecordReader} {record : CaptureRecord}
    (hreader : st.readers[i]? = some reader)
    (hread : reader.readNext = .ok (some (record, reader'))) :
    refill st i = .ok
      { st with
        readers := st.readers.set i reader'
        queue := ReplayQueue.push { record, readerIndex := i } st.queue } := by
  simp [refill, hreader, hread, bind, Except.bind, pure, Except.pure]

/-- The reader of a file that is not loaded is asked for its next record. -/
theorem Tracks.refill (h : Tracks loaded st lanes) (hlane : lanes[i]? = some lane)
    (hnot : loaded i = false) :
    ∃ st', refill st i = .ok st' ∧ Tracks (fun j => loaded j || j == i) st' lanes ∧
      st'.sent = st.sent := by
  obtain ⟨reader, hreader, hholds⟩ := h.readers i lane hlane
  rw [hnot] at hholds
  simp only [Bool.false_eq_true, if_false] at hholds
  have hlt : i < st.readers.length := (List.getElem?_eq_some_iff.mp hreader).1
  cases hholds with
  | done hend =>
      refine ⟨st, refill_done hreader hend, ⟨fun j lane' hj => ?_, fun c => ?_, h.sorted,
        h.distinct⟩, rfl⟩
      · obtain ⟨reader', hreader', hholds'⟩ := h.readers j lane' hj
        refine ⟨reader', hreader', ?_⟩
        by_cases hji : j = i
        · subst hji
          rw [hlane] at hj
          cases hj
          simpa [hnot] using hholds'
        · simpa [hji] using hholds'
      · rw [h.queued]
        by_cases hci : c.readerIndex = i
        · simp [hci, hlane]
        · simp [hci]
  | @more _ record reader' records hread hrest =>
      refine ⟨_, refill_more hreader hread, ⟨fun j lane' hj => ?_, fun c => ?_,
        ReplayQueue.push_sorted h.sorted, ?_⟩, rfl⟩
      · by_cases hji : j = i
        · subst hji
          rw [hlane] at hj
          cases hj
          exact ⟨reader', by simp [hlt], by simpa using hrest⟩
        · obtain ⟨reader'', hreader'', hholds''⟩ := h.readers j lane' hj
          refine ⟨reader'', ?_, by simpa [hji] using hholds''⟩
          rw [List.getElem?_set_ne (Ne.symm hji)]
          exact hreader''
      · rw [ReplayQueue.mem_push, h.queued]
        by_cases hci : c.readerIndex = i
        · have heq : c = { record := record, readerIndex := i } ↔ c.record = record := by
            rw [← hci]
            constructor
            · intro hc
              rw [hc]
            · intro hc
              rw [← hc]
          simp [hci, hlane, hnot, heq, eq_comm]
        · have hne : ¬c = { record := record, readerIndex := i } := by
            intro hc
            rw [hc] at hci
            exact hci rfl
          simp [hci, hne]
      · rw [(ReplayQueue.push_perm.map _).nodup_iff, List.map_cons, List.nodup_cons]
        refine ⟨fun hmem => ?_, h.distinct⟩
        obtain ⟨c, hc, hci⟩ := List.mem_map.mp hmem
        have hloaded := ((h.queued c).mp hc).1
        rw [hci, hnot] at hloaded
        cases hloaded

/-- All files are loaded. -/
abbrev allLoaded (_ : Nat) : Bool := true

theorem Tracks.nothing_left (h : Tracks allLoaded st lanes) (hqueue : st.queue = []) :
    laneTotal lanes = 0 := by
  rw [laneTotal_eq_zero]
  intro lane hlane
  obtain ⟨i, hi⟩ := List.mem_iff_getElem?.mp hlane
  cases lane with
  | nil => rfl
  | cons record rest =>
      have hmem : ({ record, readerIndex := i } : ReplayCursor) ∈ st.queue :=
        (h.queued _).mpr ⟨rfl, rest, hi⟩
      rw [hqueue] at hmem
      cases hmem

/-- The top of the queue is the least head; once it is popped, its file is not loaded. -/
theorem Tracks.pop {cursor : ReplayCursor} {queue : ReplayQueue} (h : Tracks allLoaded st lanes)
    (hqueue : st.queue = cursor :: queue) (first : Option UInt64) (sent : UInt64) :
    ∃ rest, lanes[cursor.readerIndex]? = some (cursor.record :: rest) ∧
      (∀ j record tail, lanes[j]? = some (record :: tail) →
        sortKey cursor.readerIndex cursor.record ≤ sortKey j record) ∧
      Tracks (fun j => j != cursor.readerIndex)
        { st with queue := queue, firstCaptureTimeNs := first, sent := sent }
        (lanes.set cursor.readerIndex rest) := by
  have hsorted := h.sorted
  have hdistinct := h.distinct
  rw [hqueue] at hsorted hdistinct
  obtain ⟨-, rest, hlane⟩ := (h.queued cursor).mp (by rw [hqueue]; exact List.mem_cons_self)
  have hlt : cursor.readerIndex < lanes.length := (List.getElem?_eq_some_iff.mp hlane).1
  refine ⟨rest, hlane, fun j record tail hj => ?_, ⟨fun j lane hj => ?_, fun c => ?_, ?_, ?_⟩⟩
  · have hmem : ({ record, readerIndex := j } : ReplayCursor) ∈ st.queue :=
      (h.queued _).mpr ⟨rfl, tail, hj⟩
    rw [hqueue] at hmem
    rcases List.mem_cons.mp hmem with heq | hmem
    · rw [← heq]
    · exact List.rel_of_pairwise_cons hsorted hmem
  · by_cases hji : j = cursor.readerIndex
    · subst hji
      rw [List.getElem?_set_self hlt, Option.some.injEq] at hj
      subst hj
      simpa using h.readers _ _ hlane
    · rw [List.getElem?_set_ne (Ne.symm hji)] at hj
      simpa [hji] using h.readers j lane hj
  · have hc := h.queued c
    rw [hqueue, List.mem_cons] at hc
    rw [List.map_cons, List.nodup_cons] at hdistinct
    by_cases hci : c.readerIndex = cursor.readerIndex
    · have hnot : c ∉ queue := fun hmem => hdistinct.1 (hci ▸ List.mem_map_of_mem hmem)
      simp [hci, hnot]
    · have hne : c ≠ cursor := fun heq => hci (by rw [heq])
      simp only [hne, false_or] at hc
      rw [List.getElem?_set_ne (Ne.symm hci)]
      simp only [bne_iff_ne, ne_eq, hci, not_false_eq_true]
      exact hc
  · exact (List.pairwise_cons.mp hsorted).2
  · rw [List.map_cons, List.nodup_cons] at hdistinct
    exact hdistinct.2

/-- One turn of a pass: the least head is popped, and the reader of its file is asked for the next
record. -/
theorem Tracks.turn {cursor : ReplayCursor} {queue : ReplayQueue} (h : Tracks allLoaded st lanes)
    (hqueue : st.queue = cursor :: queue) (first : Option UInt64) (sent : UInt64) :
    ∃ rest st', lanes[cursor.readerIndex]? = some (cursor.record :: rest) ∧
      (∀ j record tail, lanes[j]? = some (record :: tail) →
        sortKey cursor.readerIndex cursor.record ≤ sortKey j record) ∧
      Replay.refill { st with queue := queue, firstCaptureTimeNs := first, sent := sent }
        cursor.readerIndex = .ok st' ∧
      Tracks allLoaded st' (lanes.set cursor.readerIndex rest) ∧ st'.sent = sent := by
  obtain ⟨rest, hlane, hleast, hpopped⟩ := h.pop hqueue first sent
  have hset : (lanes.set cursor.readerIndex rest)[cursor.readerIndex]? = some rest := by
    rw [List.getElem?_set_self (List.getElem?_eq_some_iff.mp hlane).1]
  obtain ⟨st', hrefill, hnext, hsent⟩ := hpopped.refill hset (by simp)
  have hall : (fun j => j != cursor.readerIndex || j == cursor.readerIndex) = allLoaded := by
    funext j
    cases hj : j == cursor.readerIndex <;> simp [allLoaded, bne, hj]
  rw [hall] at hnext
  exact ⟨rest, st', hlane, hleast, hrefill, hnext, hsent⟩

end Tracks

/-! ## The files at the start of a pass -/

/-- The reader accepts every file, and these are the records. -/
abbrev Accepts (resolved : ResolvedReplayOptions) (lanes : List (List CaptureRecord)) : Prop :=
  List.Forall₂ (fun file lane => Holds { path := file.1, input := file.2 } lane) resolved.inputFiles
    lanes

/-- Every record has somewhere to go. -/
def Routes (resolved : ResolvedReplayOptions) (lanes : List (List CaptureRecord)) : Prop :=
  ∀ lane ∈ lanes, ∀ record ∈ lane, (route resolved record.streamId).isSome = true

/-- Every record has somewhere to go, and the destinations and the outgoing interface are IPv4
addresses. -/
structure Routed (resolved : ResolvedReplayOptions) (lanes : List (List CaptureRecord)) : Prop where
  sender : buildSender resolved = .ok ()
  routes : Routes resolved lanes

section Start

variable {resolved : ResolvedReplayOptions} {lanes : List (List CaptureRecord)}

theorem openReaders_upTo (haccepts : Accepts resolved lanes) {k : Nat}
    (hk : k ≤ resolved.inputFiles.length) :
    ∃ st, (List.range k).foldlM refill
        { readers := resolved.inputFiles.map fun file => { path := file.1, input := file.2 } } =
          .ok st ∧
      Tracks (fun i => decide (i < k)) st lanes ∧ st.sent = 0 := by
  have hlength := haccepts.length_eq
  induction k with
  | zero =>
      refine ⟨_, rfl, ⟨fun i lane hi => ?_, fun c => by simp, by simp, by simp⟩, rfl⟩
      have hlt : i < lanes.length := (List.getElem?_eq_some_iff.mp hi).1
      have hlt' : i < resolved.inputFiles.length := by omega
      have hfile := (List.forall₂_iff_get.mp haccepts).2 i hlt' hlt
      refine ⟨{ path := resolved.inputFiles[i].1, input := resolved.inputFiles[i].2 },
        by simp [hlt'], ?_⟩
      rw [List.getElem?_eq_getElem hlt, Option.some.injEq] at hi
      simpa [← hi] using hfile
  | succ k ih =>
      obtain ⟨st, hst, htracks, hsent⟩ := ih (by omega)
      have hlane : lanes[k]? = some lanes[k] := List.getElem?_eq_getElem (by omega)
      obtain ⟨st', hst', htracks', hsent'⟩ := htracks.refill hlane (by simp)
      refine ⟨st', ?_, ?_, hsent'.trans hsent⟩
      · rw [List.range_succ, List.foldlM_append, hst]
        simp [bind, Except.bind, hst', pure, Except.pure]
      · have hloaded : (fun i => decide (i < k + 1)) = fun i => decide (i < k) || i == k := by
          funext i
          rw [Bool.eq_iff_iff]
          simp only [decide_eq_true_eq, Bool.or_eq_true, beq_iff_eq]
          omega
        rw [hloaded]
        exact htracks'

theorem openReaders_tracks (haccepts : Accepts resolved lanes) :
    ∃ st, openReaders resolved = .ok st ∧ Tracks allLoaded st lanes ∧ st.sent = 0 := by
  obtain ⟨st, hst, htracks, hsent⟩ := openReaders_upTo haccepts (Nat.le_refl _)
  refine ⟨st, hst, ⟨fun i lane hi => ?_, fun c => ?_, htracks.sorted, htracks.distinct⟩, hsent⟩
  · have hlt : i < resolved.inputFiles.length := by
      rw [haccepts.length_eq]
      exact (List.getElem?_eq_some_iff.mp hi).1
    simpa [hlt] using htracks.readers i lane hi
  · rw [htracks.queued]
    constructor
    · rintro ⟨-, rest, hrest⟩
      exact ⟨rfl, rest, hrest⟩
    · rintro ⟨-, rest, hrest⟩
      have hlt : c.readerIndex < resolved.inputFiles.length := by
        rw [haccepts.length_eq]
        exact (List.getElem?_eq_some_iff.mp hrest).1
      exact ⟨by simp [hlt], rest, hrest⟩

end Start

/-! ## The loop -/

/-- The record that was sent, and the file it is from. -/
def Sent.source (s : Sent) : Nat × CaptureRecord := (s.cursor.readerIndex, s.cursor.record)

/-- The record went where it is routed, as it stands in the capture. -/
structure Sent.Faithful (resolved : ResolvedReplayOptions) (s : Sent) : Prop where
  datagram : s.datagram = datagramOf s.cursor.record
  destination : route resolved s.cursor.record.streamId = some s.destination

/-- How many of the records that are left a pass may still send. -/
def quota (resolved : ResolvedReplayOptions) (alreadySent total : Nat) : Nat :=
  if resolved.maxRecords = 0 then total else min total (resolved.maxRecords.toNat - alreadySent)

section Loop

variable {resolved : ResolvedReplayOptions} {lanes : List (List CaptureRecord)} {st : PassState}
  {alreadySent : UInt64} {fuel : Nat}

theorem Routes.set {i : Nat} {record : CaptureRecord} {rest : List CaptureRecord}
    (h : Routes resolved lanes) (hlane : lanes[i]? = some (record :: rest)) :
    Routes resolved (lanes.set i rest) := by
  intro lane hmem record' hrecord
  rcases List.mem_or_eq_of_mem_set hmem with hmem | rfl
  · exact h lane hmem record' hrecord
  · exact h _ (List.mem_of_getElem? hlane) record' (List.mem_cons_of_mem record hrecord)

/-- Whether the limit is reached, while what was sent is within it. -/
theorem limit_iff {sent : UInt64} (hwithin : resolved.maxRecords = 0 ∨
      alreadySent.toNat + sent.toNat ≤ resolved.maxRecords.toNat) :
    (resolved.maxRecords ≠ 0 ∧ alreadySent + sent ≥ resolved.maxRecords) ↔
      (resolved.maxRecords ≠ 0 ∧
        alreadySent.toNat + sent.toNat = resolved.maxRecords.toNat) := by
  apply and_congr_right
  intro hmax
  have hle := hwithin.resolve_left hmax
  have hlt := resolved.maxRecords.toNat_lt
  rw [ge_iff_le, UInt64.le_iff_toNat_le, UInt64.toNat_add, Nat.mod_eq_of_lt (by omega)]
  omega

/-- With turns enough the loop sends its quota, as a merge of what is left of the files. -/
theorem replayLoop_merges (htracks : Tracks allLoaded st lanes) (hrouted : Routes resolved lanes)
    (hwithin : resolved.maxRecords = 0 ∨
      alreadySent.toNat + st.sent.toNat ≤ resolved.maxRecords.toNat)
    (hfuel : laneTotal lanes < fuel) :
    ∃ sent, replayLoop resolved alreadySent fuel st =
        (sent, some (.ok (st.sent + UInt64.ofNat sent.length))) ∧
      Merges sortKey lanes (sent.map Sent.source) ∧
      sent.length = quota resolved (alreadySent.toNat + st.sent.toNat) (laneTotal lanes) ∧
      ∀ s ∈ sent, s.Faithful resolved := by
  induction fuel generalizing st lanes with
  | zero => omega
  | succ fuel ih =>
      rw [replayLoop]
      cases hqueue : st.queue with
      | nil =>
          have hnone := htracks.nothing_left hqueue
          exact ⟨[], by simp, .stop lanes, by simp [quota, hnone], by simp⟩
      | cons cursor queue =>
          simp only [limit_iff hwithin]
          by_cases hlimit : resolved.maxRecords ≠ 0 ∧
              alreadySent.toNat + st.sent.toNat = resolved.maxRecords.toNat
          · exact ⟨[], by simp [hlimit], .stop lanes, by simp [quota, hlimit], by simp⟩
          · rw [if_neg hlimit]
            obtain ⟨rest, st', hlane, hleast, hrefill, hnext, hsent⟩ :=
              htracks.turn hqueue (pace resolved st cursor).2 (st.sent + 1)
            have hroute := hrouted _ (List.mem_of_getElem? hlane) cursor.record List.mem_cons_self
            obtain ⟨destination, hdestination⟩ := Option.isSome_iff_exists.mp hroute
            have htotal := laneTotal_set hlane
            -- one more record is within the limit
            have hcount : resolved.maxRecords = 0 ∨ (alreadySent.toNat + st.sent.toNat <
                resolved.maxRecords.toNat ∧ (st.sent + 1).toNat = st.sent.toNat + 1) := by
              by_cases hmax : resolved.maxRecords = 0
              · exact .inl hmax
              · have hle := hwithin.resolve_left hmax
                have hne := not_and.mp hlimit hmax
                have hlt := resolved.maxRecords.toNat_lt
                refine .inr ⟨by omega, ?_⟩
                rw [UInt64.toNat_add, UInt64.toNat_one, Nat.mod_eq_of_lt (by omega)]
            obtain ⟨sent, hloop, hmerges, hlength, hfaithful⟩ := ih hnext (hrouted.set hlane)
              (hcount.imp id fun h => by rw [hsent]; omega) (by omega)
            refine ⟨{ cursor, destination, datagram := datagramOf cursor.record,
                      deltaNs := (pace resolved st cursor).1 } :: sent, ?_, .take hlane hleast hmerges,
              ?_, ?_⟩
            · simp only [send, hdestination, hrefill, hloop, hsent, List.length_cons]
              simp [add_assoc, add_comm]
            · rw [List.length_cons, hlength, hsent, htotal]
              simp only [quota]
              rcases hcount with hmax | ⟨hlt, hone⟩
              · simp [hmax]
              · split
                · rfl
                · simp only [hone]
                  omega
            · intro s hs
              rcases List.mem_cons.mp hs with rfl | hs
              · exact ⟨rfl, hdestination⟩
              · exact hfaithful s hs

/-- More turns than needed change nothing. -/
theorem replayLoop_mono {fuel' : Nat} (hle : fuel ≤ fuel')
    (hdone : (replayLoop resolved alreadySent fuel st).2.isSome = true) :
    replayLoop resolved alreadySent fuel' st = replayLoop resolved alreadySent fuel st := by
  induction fuel generalizing fuel' st with
  | zero => cases hdone
  | succ fuel ih =>
      obtain ⟨fuel', rfl⟩ : ∃ k, fuel' = k + 1 := ⟨fuel' - 1, by omega⟩
      rw [replayLoop] at hdone ⊢
      rw [replayLoop]
      cases hqueue : st.queue with
      | nil => rfl
      | cons cursor queue =>
          simp only [hqueue] at hdone ⊢
          split
          · rfl
          · rename_i hlimit
            rw [if_neg hlimit] at hdone
            cases hsend : send resolved cursor (pace resolved st cursor).1 with
            | error message => rfl
            | ok datagram =>
                simp only [hsend] at hdone ⊢
                split
                · rfl
                · rename_i st' hrefill
                  simp only [hrefill] at hdone
                  rw [ih (by omega) hdone]

/-- One turn of the loop sends nothing more, or the record on top of the queue and what the loop sends
from there. -/
theorem replayLoop_turn (resolved : ResolvedReplayOptions) (alreadySent : UInt64) (fuel : Nat)
    (st : PassState) :
    (replayLoop resolved alreadySent (fuel + 1) st).1 = [] ∨
      ∃ cursor queue s rest, st.queue = cursor :: queue ∧ s.cursor = cursor ∧
        s.deltaNs = (pace resolved st cursor).1 ∧
        (replayLoop resolved alreadySent (fuel + 1) st).1 = s :: rest ∧
        (rest = [] ∨ ∃ st', refill
            { st with
              queue := queue
              firstCaptureTimeNs := (pace resolved st cursor).2
              sent := st.sent + 1 } cursor.readerIndex = .ok st' ∧
          rest = (replayLoop resolved alreadySent fuel st').1) := by
  rw [replayLoop]
  cases hqueue : st.queue with
  | nil => exact .inl rfl
  | cons cursor queue =>
      simp only []
      split
      · exact .inl rfl
      · cases hsend : send resolved cursor (pace resolved st cursor).1 with
        | error message => exact .inl rfl
        | ok s =>
            have hsame : s.cursor = cursor ∧ s.deltaNs = (pace resolved st cursor).1 := by
              unfold send at hsend
              split at hsend
              · cases hsend
              · cases hsend
                exact ⟨rfl, rfl⟩
            refine .inr ⟨cursor, queue, s, ?_⟩
            simp only []
            split
            · exact ⟨[], trivial, hsame.1, hsame.2, rfl, .inl rfl⟩
            · rename_i st' hrefill
              exact ⟨_, trivial, hsame.1, hsame.2, rfl, .inr ⟨st', hrefill, rfl⟩⟩

/-- What the loop has sent is a merge of the files, wherever it stopped. -/
theorem replayLoop_sent (htracks : Tracks allLoaded st lanes) :
    Merges sortKey lanes ((replayLoop resolved alreadySent fuel st).1.map Sent.source) := by
  induction fuel generalizing st lanes with
  | zero => exact .stop lanes
  | succ fuel ih =>
      rcases replayLoop_turn resolved alreadySent fuel st with hnone | ⟨cursor, queue, s, rest, hqueue, rfl, hdelta, hturn, hrest⟩
      · rw [hnone]
        exact .stop lanes
      · obtain ⟨tail, st', hlane, hleast, hrefill, hnext, -⟩ :=
          htracks.turn hqueue (pace resolved st s.cursor).2 (st.sent + 1)
        rw [hturn]
        refine .take hlane hleast ?_
        rcases hrest with rfl | ⟨st'', hrefill', rfl⟩
        · exact .stop _
        · rw [hrefill] at hrefill'
          cases hrefill'
          exact ih hnext

/-- With turns enough the loop ends, with or without an exception. -/
theorem replayLoop_ends (htracks : Tracks allLoaded st lanes) (hfuel : laneTotal lanes < fuel) :
    (replayLoop resolved alreadySent fuel st).2.isSome = true := by
  induction fuel generalizing st lanes with
  | zero => omega
  | succ fuel ih =>
      rw [replayLoop]
      cases hqueue : st.queue with
      | nil => rfl
      | cons cursor queue =>
          simp only
          split
          · rfl
          · obtain ⟨rest, st', hlane, -, hrefill, hnext, -⟩ :=
              htracks.turn hqueue (pace resolved st cursor).2 (st.sent + 1)
            have htotal := laneTotal_set hlane
            cases hsend : send resolved cursor (pace resolved st cursor).1 with
            | error message => rfl
            | ok datagram =>
                simp only [hrefill]
                exact ih hnext (by omega)

/-- A pass over accepted files sends its quota, as a merge of them. -/
theorem replayOnePass_merges (haccepts : Accepts resolved lanes) (hrouted : Routed resolved lanes)
    (hwithin : resolved.maxRecords = 0 ∨ alreadySent.toNat ≤ resolved.maxRecords.toNat) :
    ∃ sent, (∀ fuel, laneTotal lanes < fuel → replayOnePass resolved alreadySent fuel =
        (sent, some (.ok (UInt64.ofNat sent.length)))) ∧
      Merges sortKey lanes (sent.map Sent.source) ∧
      sent.length = quota resolved alreadySent.toNat (laneTotal lanes) ∧
      ∀ s ∈ sent, s.Faithful resolved := by
  obtain ⟨st, hopen, htracks, hzero⟩ := openReaders_tracks haccepts
  obtain ⟨sent, hloop, hmerges, hlength, hfaithful⟩ := replayLoop_merges htracks hrouted.routes
    (by simpa [hzero] using hwithin) (Nat.lt_succ_self _)
  refine ⟨sent, fun fuel hfuel => ?_, hmerges, by simpa [hzero] using hlength, hfaithful⟩
  rw [replayOnePass, hrouted.sender, hopen]
  simp only
  rw [replayLoop_mono hfuel (by rw [hloop]; rfl), hloop, hzero, zero_add]

/-- A pass over accepted files ends, and what it has sent is a merge of them, however it ended. -/
theorem replayOnePass_ends (resolved : ResolvedReplayOptions) (haccepts : Accepts resolved lanes)
    (alreadySent : UInt64) :
    ∃ sent ended, (∀ fuel, laneTotal lanes < fuel →
        replayOnePass resolved alreadySent fuel = (sent, some ended)) ∧
      Merges sortKey lanes (sent.map Sent.source) := by
  obtain ⟨st, hopen, htracks, -⟩ := openReaders_tracks haccepts
  cases hsender : buildSender resolved with
  | error message =>
      refine ⟨[], .error message, fun fuel _ => ?_, .stop lanes⟩
      rw [replayOnePass, hsender]
  | ok _ =>
      have hends := @replayLoop_ends resolved lanes st alreadySent _ htracks (Nat.lt_succ_self _)
      obtain ⟨ended, hended⟩ := Option.isSome_iff_exists.mp hends
      refine ⟨(replayLoop resolved alreadySent (laneTotal lanes).succ st).1, ended,
        fun fuel hfuel => ?_, replayLoop_sent htracks⟩
      rw [replayOnePass, hsender, hopen]
      simp only
      rw [replayLoop_mono hfuel hends, ← hended]

theorem Accepts.wellFormed (haccepts : Accepts resolved lanes) :
    ∀ lane ∈ lanes, ∀ record ∈ lane, record.WellFormed := by
  intro lane hmem record hrecord
  obtain ⟨i, hlt, rfl⟩ := List.mem_iff_getElem.mp hmem
  have hlt' : i < resolved.inputFiles.length := by
    rw [haccepts.length_eq]
    exact hlt
  exact ((List.forall₂_iff_get.mp haccepts).2 i hlt' hlt).wellFormed record hrecord

end Loop

/-! ## Files sent somewhere -/

/-- The files with somewhere to send every record, under captured pacing. -/
def sentSomewhere (files : List (String × List UInt8)) : ResolvedReplayOptions where
  inputFiles := files
  defaultDestination := some { host := "239.1.1.1", port := 12345 }
  pacing := .captured

theorem routed_sentSomewhere (files : List (String × List UInt8)) (lanes : List (List CaptureRecord)) :
    Routed (sentSomewhere files) lanes :=
  ⟨by rfl, fun _ _ _ _ => rfl⟩

end NseFoExchangeSim.Replay
