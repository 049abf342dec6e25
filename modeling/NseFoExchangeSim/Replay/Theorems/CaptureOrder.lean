import Mathlib.Data.List.Pairwise
import NseFoExchangeSim.Replay.Lemmas.Pass

/-!
# Capture times

The first sort key of a record is its capture time in nanoseconds, in 64 bits, and `readNext` does not
bound the seconds. Files that are in the order of their capture times are sent in that order exactly
when the sort keys of different files tell their times apart.
-/

namespace NseFoExchangeSim.Replay

open Lib

def CaptureRecord.captureTime (record : CaptureRecord) : Nat ×ₗ Nat :=
  toLex (record.captureSeconds.toNat, record.captureNanos.toNat)

/-- Of records of different files, the earlier one has the lesser sort key, when each counts with the
greatest sort key of its file up to its own place. -/
def KeysFollowTime (lanes : List (List CaptureRecord)) : Prop :=
  ∀ i j lane lane', i ≠ j → lanes[i]? = some lane → lanes[j]? = some lane' →
    ∀ x ∈ marks (sortKey i) none lane, ∀ y ∈ marks (sortKey j) none lane',
      x.1.captureTime < y.1.captureTime → x.2 < y.2

/-- Every record has a capture time in nanoseconds that 64 bits hold. -/
def TimesFit (lanes : List (List CaptureRecord)) : Prop :=
  ∀ lane ∈ lanes, ∀ record ∈ lane,
    record.captureSeconds.toNat * 1000000000 + record.captureNanos.toNat < 2 ^ 64

section CaptureOrder

variable {lanes : List (List CaptureRecord)}

theorem captureTimeNs_toNat {record : CaptureRecord} (h : record.WellFormed)
    (hfit : record.captureSeconds.toNat * 1000000000 + record.captureNanos.toNat < 2 ^ 64) :
    record.captureTimeNs.toNat =
      record.captureSeconds.toNat * 1000000000 + record.captureNanos.toNat := by
  rw [h.time, UInt64.toNat_add, UInt64.toNat_mul]
  simp only [UInt64.reduceToNat]
  omega

theorem captureTime_lt {r s : CaptureRecord} (hr : r.WellFormed) (hs : s.WellFormed)
    (hlt : r.captureTime < s.captureTime) :
    r.captureSeconds.toNat * 1000000000 + r.captureNanos.toNat <
      s.captureSeconds.toNat * 1000000000 + s.captureNanos.toNat := by
  have hrn := hr.nanos
  have hsn := hs.nanos
  simp only [CaptureRecord.captureTime, Prod.Lex.toLex_lt_toLex] at hlt
  omega

/-- While the times fit, the sort keys tell the capture times apart. -/
theorem TimesFit.keysFollowTime (hfit : TimesFit lanes)
    (hwellFormed : ∀ lane ∈ lanes, ∀ record ∈ lane, record.WellFormed)
    (hsorted : ∀ lane ∈ lanes, lane.Pairwise (·.captureTime ≤ ·.captureTime)) :
    KeysFollowTime lanes := by
  intro i j lane lane' hne hlane hlane' x hx y hy hlt
  have hmem := List.mem_of_getElem? hlane
  have hmem' := List.mem_of_getElem? hlane'
  obtain ⟨before, after, hsplit, r, hr, hmark⟩ := exists_of_mem_marks hx
  -- the mark of `x` is the key of `r`, which is no later than `x`
  have hrlane : r ∈ lane := by
    rw [hsplit, List.append_cons]
    exact List.mem_append_left after hr
  have hylane : y.1 ∈ lane' := by
    have hmap : (marks (sortKey j) none lane').map Prod.fst = lane' := marks_fst
    rw [← hmap]
    exact List.mem_map_of_mem hy
  have hrx : r.captureTime ≤ x.1.captureTime := by
    rcases List.mem_append.mp hr with hr | hr
    · have hpairs := hsorted lane hmem
      rw [hsplit] at hpairs
      exact (List.pairwise_append.mp hpairs).2.2 r hr x.1 List.mem_cons_self
    · rw [List.mem_singleton.mp hr]
  have hry := captureTime_lt (hwellFormed lane hmem r hrlane) (hwellFormed lane' hmem' y.1 hylane)
    (lt_of_le_of_lt hrx hlt)
  have hkeys : sortKey i r < sortKey j y.1 := by
    rw [sortKey, sortKey, Prod.Lex.toLex_lt_toLex]
    left
    simp only [captureTimeNs_toNat (hwellFormed lane hmem r hrlane) (hfit lane hmem r hrlane),
      captureTimeNs_toNat (hwellFormed lane' hmem' y.1 hylane) (hfit lane' hmem' y.1 hylane)]
    exact hry
  rw [hmark]
  exact lt_of_lt_of_le hkeys (key_le_of_mem_marks hy)

/-- A merge of sorted files is sorted when the keys follow the times. -/
theorem KeysFollowTime.sorted {out : List (Nat × CaptureRecord)} (h : KeysFollowTime lanes)
    (hsorted : ∀ lane ∈ lanes, lane.Pairwise (·.captureTime ≤ ·.captureTime))
    (hmerges : Merges sortKey lanes out) :
    (out.map Prod.snd).Pairwise (·.captureTime ≤ ·.captureTime) := by
  obtain ⟨marked, hmarked, hmerges', hmarks, -⟩ := hmerges.exists_marked sortKey_inj
  have hlane := hmerges.pairwise_lane hsorted
  rw [← hmarked, List.pairwise_map] at hlane
  rw [← hmarked, List.map_map, List.pairwise_map]
  refine List.Pairwise.imp_of_mem (fun {c d} hc hd hboth => ?_) (hlane.and hmarks)
  by_cases hsame : c.1 = d.1
  · exact hboth.1 hsame
  · rw [← not_lt]
    intro hlt
    obtain ⟨xs, hxs, hc⟩ := hmerges'.mem_lane hc
    obtain ⟨ys, hys, hd⟩ := hmerges'.mem_lane hd
    rw [List.getElem?_mapIdx, Option.map_eq_some_iff] at hxs hys
    obtain ⟨lane, hlane, rfl⟩ := hxs
    obtain ⟨lane', hlane', rfl⟩ := hys
    have hback := h d.1 c.1 lane' lane (Ne.symm hsame) hlane' hlane d.2 hd c.2 hc hlt
    exact lt_asymm (hboth.2 hsame) hback

/-- Of two marked records of different files the earlier one has the lesser mark. -/
def KeyFollowsTime (c d : Nat × CaptureRecord × (Nat ×ₗ Nat ×ₗ Nat ×ₗ Nat)) : Prop :=
  c.1 ≠ d.1 → (c.2.1.captureTime < d.2.1.captureTime → c.2.2 < d.2.2) ∧
    (d.2.1.captureTime < c.2.1.captureTime → d.2.2 < c.2.2)

instance : Std.Symm KeyFollowsTime where
  symm _ _ h hne := (h (Ne.symm hne)).symm

/-- The keys follow the times when the merge of all records is sorted. -/
theorem keysFollowTime_of_sorted {out : List (Nat × CaptureRecord)}
    (hmerges : Merges sortKey lanes out) (hlength : out.length = laneTotal lanes)
    (hout : (out.map Prod.snd).Pairwise (·.captureTime ≤ ·.captureTime)) : KeysFollowTime lanes := by
  obtain ⟨marked, hmarked, -, hmarks, hwhole⟩ := hmerges.exists_marked sortKey_inj
  rw [← hmarked, List.map_map, List.pairwise_map] at hout
  intro i j lane lane' hne hlane hlane' x hx y hy hlt
  have hmem : (i, x) ∈ marked := by
    rw [← mem_onLane, hwhole hlength, hlane]
    exact hx
  have hmem' : (j, y) ∈ marked := by
    rw [← mem_onLane, hwhole hlength, hlane']
    exact hy
  have hall : marked.Pairwise KeyFollowsTime := (hmarks.and hout).imp fun h hne =>
    ⟨fun _ => h.1 hne, fun hback => absurd hback (not_lt.mpr h.2)⟩
  exact (hall.forall hmem hmem' (fun heq => hne (congrArg Prod.fst heq)) hne).1 hlt

end CaptureOrder

/-- What any pass over sorted files sends, wherever it goes and however the pass ends, is in the order of
capture exactly when the keys follow the times. -/
theorem pass_follows_time_iff {files : List (String × List UInt8)} {lanes : List (List CaptureRecord)}
    (haccepts : List.Forall₂ (fun file lane => Holds { path := file.1, input := file.2 } lane) files
      lanes)
    (hsorted : ∀ lane ∈ lanes, lane.Pairwise (·.captureTime ≤ ·.captureTime)) :
    (∀ resolved : ResolvedReplayOptions, resolved.inputFiles = files → ∀ alreadySent : UInt64,
      ∃ (sent : List Sent) (ended : Except String UInt64),
        (∀ fuel, laneTotal lanes < fuel →
          replayOnePass resolved alreadySent fuel = (sent, some ended)) ∧
        (sent.map (·.cursor.record)).Pairwise (·.captureTime ≤ ·.captureTime)) ↔
      KeysFollowTime lanes := by
  have hrecords : ∀ sent : List Sent,
      (sent.map Sent.source).map Prod.snd = sent.map (·.cursor.record) := by
    intro sent
    rw [List.map_map]
    rfl
  constructor
  · intro h
    obtain ⟨sent, ended, hsent, htimes⟩ := h (sentSomewhere files) rfl 0
    obtain ⟨sent', hsent', hmerges, hlength, -⟩ := @replayOnePass_merges (sentSomewhere files) lanes 0
      haccepts (routed_sentSomewhere files lanes) (.inl rfl)
    have hsame := congrArg Prod.fst
      ((hsent _ (Nat.lt_succ_self _)).symm.trans (hsent' _ (Nat.lt_succ_self _)))
    simp only at hsame
    subst hsame
    refine keysFollowTime_of_sorted hmerges ?_ ?_
    · rw [List.length_map, hlength]
      rfl
    · rw [hrecords]
      exact htimes
  · rintro h resolved rfl alreadySent
    obtain ⟨sent, ended, hsent, hmerges⟩ := replayOnePass_ends resolved haccepts alreadySent
    have htimes := h.sorted hsorted hmerges
    rw [hrecords] at htimes
    exact ⟨sent, ended, hsent, htimes⟩

/-- Two files in the order of their capture times. -/
def timelyFiles : ResolvedReplayOptions where
  inputFiles :=
    [("a.bin", orderFile [{ seconds := 1 }, { seconds := 3 }]),
      ("b.bin", orderFile [{ seconds := 2, nanos := 999999999 }])]
  defaultDestination := some { host := "239.1.1.1", port := 12345 }

def timelyFilesRecords : List (List CaptureRecord) :=
  [[{ seconds := 1 }, { seconds := 3 }].map OrderStamp.record,
    [{ seconds := 2, nanos := 999999999 }].map OrderStamp.record]

theorem timelyFiles_accepts : Accepts timelyFiles timelyFilesRecords := by
  apply List.Forall₂.cons
  · exact holds_orderFile (by decide)
  · exact .cons (holds_orderFile (by decide)) .nil

theorem timelyFiles_fit : TimesFit timelyFilesRecords := by
  rw [TimesFit]
  decide

theorem pass_follows_time_timely : ∃ (sent : List Sent) (ended : Except String UInt64),
    (∀ fuel, 3 < fuel → replayOnePass timelyFiles 0 fuel = (sent, some ended)) ∧
      (sent.map (·.cursor.record)).Pairwise (·.captureTime ≤ ·.captureTime) := by
  have hsorted : ∀ lane ∈ timelyFilesRecords, lane.Pairwise (·.captureTime ≤ ·.captureTime) := by
    decide
  have hkeys := timelyFiles_fit.keysFollowTime timelyFiles_accepts.wellFormed hsorted
  exact (pass_follows_time_iff timelyFiles_accepts hsorted).mpr hkeys timelyFiles rfl 0

/-! ## Seconds that wrap -/

/-- A capture of the year 2554, whose time in nanoseconds wraps to less than a third of a second, and a
capture of the first second of 1970. -/
def wrappedSeconds : ResolvedReplayOptions where
  inputFiles :=
    [("late.bin", orderFile [{ seconds := 18446744074 }]), ("early.bin", orderFile [{ seconds := 1 }])]
  defaultDestination := some { host := "239.1.1.1", port := 12345 }

def wrappedSecondsRecords : List (List CaptureRecord) :=
  [[{ seconds := 18446744074 }].map OrderStamp.record, [{ seconds := 1 }].map OrderStamp.record]

theorem wrapped_seconds_go_first :
    ∃ (resolved : ResolvedReplayOptions) (lanes : List (List CaptureRecord)),
      Accepts resolved lanes ∧ Routed resolved lanes ∧
      (∀ lane ∈ lanes, lane.Pairwise (·.captureTime ≤ ·.captureTime)) ∧
      ∃ sent count, replayOnePass resolved 0 3 = (sent, some (.ok count)) ∧
      ¬ (sent.map (·.cursor.record)).Pairwise (·.captureTime ≤ ·.captureTime) := by
  refine ⟨wrappedSeconds, wrappedSecondsRecords, ?_, ⟨by rfl, fun _ _ _ _ => rfl⟩, by decide, ?_⟩
  · apply List.Forall₂.cons
    · exact holds_orderFile (by decide)
    · exact .cons (holds_orderFile (by decide)) .nil
  · refine ⟨_, _, rfl, ?_⟩
    decide

end NseFoExchangeSim.Replay
