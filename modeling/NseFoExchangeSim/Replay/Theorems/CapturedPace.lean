import NseFoExchangeSim.Replay.Lemmas.Pass

/-!
# Captured pacing

Under captured pacing every record but the first waits for the difference between its capture time and
that of the first record sent, in 64 bits. The first record is only the least of the file heads, and the
reader does not ask for an order within a file; so the differences are the true ones exactly when no
record is before the least head, nor `2 ^ 64` nanoseconds after it.
-/

namespace NseFoExchangeSim.Replay

open Lib

/-- The capture time in nanoseconds, of any size. -/
def CaptureRecord.captureNs (record : CaptureRecord) : Nat :=
  record.captureSeconds.toNat * 1000000000 + record.captureNanos.toNat

/-- Every record sent after the first waits for the true difference of the capture times. -/
def PacesTruly (sent : List Sent) : Prop :=
  ∀ first rest, sent = first :: rest → ∀ s ∈ rest, ∃ delta, s.deltaNs = some delta ∧
    (delta.toNat : Int) = s.cursor.record.captureNs - first.cursor.record.captureNs

/-- No record is before the least of the heads, nor too far after it. -/
def FromLeastHead (lanes : List (List CaptureRecord)) : Prop :=
  ∀ i first tail, lanes[i]? = some (first :: tail) →
    (∀ j head rest, lanes[j]? = some (head :: rest) → sortKey i first ≤ sortKey j head) →
      ∀ lane ∈ lanes, ∀ record ∈ lane,
        first.captureNs ≤ record.captureNs ∧ record.captureNs < first.captureNs + 2 ^ 64

/-! ## The difference in 64 bits -/

theorem captureTimeNs_eq {record : CaptureRecord} (h : record.WellFormed) :
    record.captureTimeNs.toNat = record.captureNs % 2 ^ 64 := by
  rw [h.time, UInt64.toNat_add, UInt64.toNat_mul, CaptureRecord.captureNs]
  simp only [UInt64.reduceToNat]
  omega

theorem delta_true_iff {record first : CaptureRecord} (h : record.WellFormed)
    (hfirst : first.WellFormed) :
    ((record.captureTimeNs - first.captureTimeNs).toNat : Int) =
        record.captureNs - first.captureNs ↔
      first.captureNs ≤ record.captureNs ∧ record.captureNs < first.captureNs + 2 ^ 64 := by
  rw [UInt64.toNat_sub, captureTimeNs_eq h, captureTimeNs_eq hfirst]
  omega

/-! ## What a pass sends -/

section Pass

variable {resolved : ResolvedReplayOptions} {lanes : List (List CaptureRecord)} {st st' : PassState}
  {alreadySent : UInt64} {fuel : Nat}

theorem refill_first {index : Nat} (h : refill st index = .ok st') :
    st'.firstCaptureTimeNs = st.firstCaptureTimeNs := by
  unfold refill at h
  cases hreader : st.readers[index]? with
  | none =>
      simp only [hreader] at h
      cases h
      rfl
  | some reader =>
      simp only [hreader] at h
      obtain ⟨read, hread, hrest⟩ := bind_eq_ok h
      cases read with
      | none =>
          cases hrest
          rfl
      | some r =>
          cases hrest
          rfl

/-- After the first record every record is paced by it. -/
theorem replayLoop_paced (hpacing : resolved.pacing = .captured) {first : UInt64}
    (hfirst : st.firstCaptureTimeNs = some first) :
    ∀ s ∈ (replayLoop resolved alreadySent fuel st).1,
      s.deltaNs = some (s.cursor.record.captureTimeNs - first) := by
  induction fuel generalizing st with
  | zero => simp [replayLoop]
  | succ fuel ih =>
      intro s hs
      rcases replayLoop_turn resolved alreadySent fuel st with hnone | ⟨cursor, queue, s', rest, hqueue, hcursor, hdelta, hsent, hrest⟩
      · rw [hnone] at hs
        cases hs
      · have hpace : pace resolved st cursor =
            (some (cursor.record.captureTimeNs - first), some first) := by
          simp [pace, hpacing, hfirst]
        rw [hpace] at hdelta hrest
        rw [hsent] at hs
        rcases List.mem_cons.mp hs with rfl | hs
        · rw [hdelta, hcursor]
        · rcases hrest with rfl | ⟨st', hrefill, rfl⟩
          · cases hs
          · exact ih (refill_first hrefill) s hs

/-- The first record is sent at once, and the others are paced by it. -/
theorem replayLoop_starts (hpacing : resolved.pacing = .captured)
    (hfirst : st.firstCaptureTimeNs = none) {first : Sent} {rest : List Sent}
    (hsent : (replayLoop resolved alreadySent fuel st).1 = first :: rest) :
    ∀ s ∈ rest, s.deltaNs = some (s.cursor.record.captureTimeNs - first.cursor.record.captureTimeNs) := by
  cases fuel with
  | zero =>
      rw [replayLoop] at hsent
      cases hsent
  | succ fuel =>
      rcases replayLoop_turn resolved alreadySent fuel st with hnone | ⟨cursor, queue, s', rest', hqueue, hcursor, hdelta, hturn, hrest⟩
      · rw [hnone] at hsent
        cases hsent
      · rw [hsent] at hturn
        cases hturn
        have hpace : pace resolved st cursor = (none, some cursor.record.captureTimeNs) := by
          simp [pace, hpacing, hfirst]
        rw [hpace] at hrest
        rw [hcursor]
        rcases hrest with rfl | ⟨st', hrefill, rfl⟩
        · simp
        · exact replayLoop_paced hpacing (refill_first hrefill)

theorem openReaders_first (h : openReaders resolved = .ok st) : st.firstCaptureTimeNs = none := by
  have hkeep : ∀ (indexes : List Nat) {st st' : PassState}, indexes.foldlM refill st = .ok st' →
      st'.firstCaptureTimeNs = st.firstCaptureTimeNs := by
    intro indexes
    induction indexes with
    | nil =>
        intro st st' h
        cases h
        rfl
    | cons index indexes ih =>
        intro st st' h
        rw [List.foldlM_cons] at h
        obtain ⟨st₁, hone, hrest⟩ := bind_eq_ok h
        exact (ih hrest).trans (refill_first hone)
  exact hkeep _ h

/-- What a pass over accepted files has sent is a merge of them, paced by its first record. -/
theorem replayOnePass_paced (haccepts : Accepts resolved lanes)
    (hpacing : resolved.pacing = .captured) :
    Merges sortKey lanes ((replayOnePass resolved alreadySent fuel).1.map Sent.source) ∧
      ∀ first rest, (replayOnePass resolved alreadySent fuel).1 = first :: rest → ∀ s ∈ rest,
        s.deltaNs = some (s.cursor.record.captureTimeNs - first.cursor.record.captureTimeNs) := by
  obtain ⟨st, hopen, htracks, hfirst⟩ := openReaders_tracks haccepts
  rw [replayOnePass]
  cases hsender : buildSender resolved with
  | error message => exact ⟨.stop lanes, by simp⟩
  | ok _ =>
      rw [hopen]
      exact ⟨replayLoop_sent htracks, fun first rest hsent =>
        replayLoop_starts hpacing (openReaders_first hopen) hsent⟩

end Pass

/-! ## True pacing -/

/-- Under captured pacing, wherever the records go and wherever the pass stops, every record sent after
the first waits for the true difference, exactly when no record of the files is before the least of the
heads or `2 ^ 64` nanoseconds after it. -/
theorem captured_pace_true_iff {files : List (String × List UInt8)}
    {lanes : List (List CaptureRecord)}
    (haccepts : List.Forall₂ (fun file lane => Holds { path := file.1, input := file.2 } lane) files
      lanes) :
    (∀ resolved : ResolvedReplayOptions, resolved.inputFiles = files →
      resolved.pacing = .captured → ∀ (alreadySent : UInt64) (fuel : Nat),
        PacesTruly (replayOnePass resolved alreadySent fuel).1) ↔ FromLeastHead lanes := by
  have hwellFormed : ∀ lane ∈ lanes, ∀ record ∈ lane, record.WellFormed :=
    @Accepts.wellFormed (sentSomewhere files) lanes haccepts
  constructor
  · intro hall i first tail hlane hleast lane hmem record hrecord
    have hrouted := routed_sentSomewhere files lanes
    have hpass := @replayOnePass_merges (sentSomewhere files) lanes 0 haccepts hrouted (.inl rfl)
    obtain ⟨sent, hsent, hmerges, hlength, -⟩ := hpass
    have hpaced := (@replayOnePass_paced (sentSomewhere files) lanes 0 (laneTotal lanes + 1) haccepts
      rfl).2
    have htrue := hall (sentSomewhere files) rfl rfl 0 (laneTotal lanes + 1)
    rw [hsent _ (Nat.lt_succ_self _)] at hpaced htrue
    have hwhole : (sent.map Sent.source).length = laneTotal lanes := by
      rw [List.length_map, hlength]
      rfl
    obtain ⟨j, hj⟩ := List.mem_iff_getElem?.mp hmem
    have hout : (j, record) ∈ sent.map Sent.source := by
      rw [← mem_onLane, hmerges.onLane_eq hwhole, hj]
      exact hrecord
    obtain ⟨s, hs, hsource⟩ := List.mem_map.mp hout
    have hsrecord : s.cursor.record = record := congrArg Prod.snd hsource
    cases sent with
    | nil => cases hs
    | cons start rest =>
        obtain ⟨⟨tail', hstart⟩, hleast'⟩ := hmerges.head
        -- the first record sent is the least head
        have hkeys := le_antisymm (hleast _ _ _ hstart) (hleast' _ _ _ hlane)
        have hindex := sortKey_inj _ _ _ _ hkeys
        rw [hindex, hstart] at hlane
        cases hlane
        rcases List.mem_cons.mp hs with rfl | hs
        · rw [hsrecord]
          exact ⟨Nat.le_refl _, by omega⟩
        · obtain ⟨delta, hdelta, htime⟩ := htrue start rest rfl s hs
          rw [hpaced start rest rfl s hs] at hdelta
          cases hdelta
          rw [hsrecord] at htime
          exact (delta_true_iff (hwellFormed lane hmem record hrecord)
            (hwellFormed _ (List.mem_of_getElem? hstart) _ List.mem_cons_self)).mp htime
  · rintro hfrom resolved rfl hpacing alreadySent fuel start rest hsent s hs
    obtain ⟨hmerges, hpaced⟩ := @replayOnePass_paced resolved lanes alreadySent fuel haccepts hpacing
    rw [hsent] at hmerges
    obtain ⟨⟨tail, hstart⟩, hleast⟩ := hmerges.head
    have hmem : s.source ∈ (start :: rest).map Sent.source :=
      List.mem_map_of_mem (List.mem_cons_of_mem start hs)
    obtain ⟨lane, hlane, hrecord⟩ := hmerges.mem_lane hmem
    have hlane' := List.mem_of_getElem? hlane
    refine ⟨_, hpaced start rest hsent s hs, ?_⟩
    exact (delta_true_iff (hwellFormed lane hlane' _ hrecord)
      (hwellFormed _ (List.mem_of_getElem? hstart) _ List.mem_cons_self)).mpr
        (hfrom _ _ tail hstart hleast lane hlane' _ hrecord)

/-- A capture in the order of its times. -/
def orderedStamps : List OrderStamp := [{ seconds := 1 }, { seconds := 3 }]

theorem captured_pace_true_iff_ordered :
    PacesTruly (replayOnePass (sentSomewhere [("a.bin", orderFile orderedStamps)]) 0 3).1 := by
  refine (@captured_pace_true_iff _ [orderedStamps.map OrderStamp.record]
    (.cons (holds_orderFile (by decide)) .nil)).mpr ?_ _ rfl rfl 0 3
  intro i first tail hlane _ lane hmem record hrecord
  obtain rfl := List.mem_singleton.mp hmem
  cases i with
  | zero =>
      cases hlane
      revert record
      decide
  | succ i => cases hlane

/-- A capture whose second record is a second earlier than its first. -/
def backwardStamps : List OrderStamp := [{ seconds := 2 }, { seconds := 1 }]

/-- The second record gets the difference modulo `2 ^ 64` for its `delta_ns`. -/
theorem backward_record_waits :
    ¬∀ (resolved : ResolvedReplayOptions) (lanes : List (List CaptureRecord)),
      Accepts resolved lanes → resolved.pacing = .captured → ∀ (alreadySent : UInt64) (fuel : Nat),
        PacesTruly (replayOnePass resolved alreadySent fuel).1 := by
  intro hall
  have htrue := hall (sentSomewhere [("a.bin", orderFile backwardStamps)])
    [backwardStamps.map OrderStamp.record] (.cons (holds_orderFile (by decide)) .nil) rfl 0 3
  have hsent : (replayOnePass (sentSomewhere [("a.bin", orderFile backwardStamps)]) 0 3).1.map
      (fun s => (s.deltaNs, s.cursor.record.captureNs)) =
        [(none, 2000000000), (some 18446744072709551616, 1000000000)] := by decide +kernel
  generalize (replayOnePass (sentSomewhere [("a.bin", orderFile backwardStamps)]) 0 3).1 = sent
    at htrue hsent
  obtain ⟨first, rest, rfl, hfirst, hrest⟩ := List.map_eq_cons_iff.mp hsent
  obtain ⟨second, rest, rfl, hsecond, -⟩ := List.map_eq_cons_iff.mp hrest
  obtain ⟨delta, hdelta, htime⟩ := htrue first _ rfl second List.mem_cons_self
  simp only [Prod.mk.injEq] at hfirst hsecond
  rw [hsecond.1] at hdelta
  cases hdelta
  rw [hsecond.2, hfirst.2] at htime
  cases htime

end NseFoExchangeSim.Replay
