import NseFoExchangeSim.Replay.Lemmas.Pass

/-!
# Bounded runs

A run with a limit sends its quota and ends, in passes that repeat one merge of the files. A run that is
to repeat files without a record makes no progress and does not end.
-/

namespace NseFoExchangeSim.Replay

open Lib

/-- What was sent is full passes over one merge of the files, and a last pass that may be cut short. -/
def InPasses (lanes : List (List CaptureRecord)) (again : Nat) (sent : List Sent) : Prop :=
  ∃ whole last, Merges sortKey lanes whole ∧ whole.length = laneTotal lanes ∧ last <+: whole ∧
    sent.map Sent.source = (List.replicate again whole).flatten ++ last

section Runs

variable {resolved : ResolvedReplayOptions} {lanes : List (List CaptureRecord)}

/-- A pass sends the beginning of the merge of all records. -/
theorem pass_of_whole (haccepts : Accepts resolved lanes) (hrouted : Routed resolved lanes)
    (hmax : resolved.maxRecords ≠ 0) {whole : List (Nat × CaptureRecord)}
    (hwhole : Merges sortKey lanes whole) (hlength : whole.length = laneTotal lanes)
    {already : UInt64} (hleft : already < resolved.maxRecords) :
    ∃ sent : List Sent,
      (∀ fuel, laneTotal lanes < fuel → replayOnePass resolved already fuel =
        (sent, some (.ok (UInt64.ofNat sent.length)))) ∧
      sent.map Sent.source <+: whole ∧
      sent.length = min (laneTotal lanes) (resolved.maxRecords.toNat - already.toNat) := by
  obtain ⟨sent, hpass, hmerges, hcount, -⟩ := replayOnePass_merges haccepts hrouted
    (.inr (Nat.le_of_lt (UInt64.lt_iff_toNat_lt.mp hleft)))
  rw [quota, if_neg hmax] at hcount
  refine ⟨sent, hpass, hmerges.prefix_of_length_le sortKey_inj hwhole ?_, hcount⟩
  rw [hlength]
  exact hmerges.length_le

theorem totalSent_toNat {already : UInt64} {count : Nat}
    (hle : already.toNat + count ≤ resolved.maxRecords.toNat) :
    (already + UInt64.ofNat count).toNat = already.toNat + count := by
  have hlt := resolved.maxRecords.toNat_lt
  rw [UInt64.toNat_add, UInt64.toNat_ofNat', Nat.add_mod_mod, Nat.mod_eq_of_lt (by omega)]

/-- Whether the limit is reached after a pass. -/
theorem reached_iff {already : UInt64} {count : Nat} (hmax : resolved.maxRecords ≠ 0)
    (hle : already.toNat + count ≤ resolved.maxRecords.toNat) :
    (resolved.maxRecords ≠ 0 ∧ already + UInt64.ofNat count ≥ resolved.maxRecords) ↔
      already.toNat + count = resolved.maxRecords.toNat := by
  rw [ge_iff_le, UInt64.le_iff_toNat_le, totalSent_toNat hle]
  constructor
  · rintro ⟨-, hge⟩
    omega
  · intro heq
    exact ⟨hmax, by omega⟩

/-- Without repetition the only pass is the run. -/
theorem runLoop_once (haccepts : Accepts resolved lanes) (hrouted : Routed resolved lanes)
    (hmax : resolved.maxRecords ≠ 0) (hloop : resolved.loop = false)
    {whole : List (Nat × CaptureRecord)} (hwhole : Merges sortKey lanes whole)
    (hlength : whole.length = laneTotal lanes) :
    ∃ sent : List Sent,
      (∀ fuel passes, laneTotal lanes < fuel → runLoop resolved fuel (passes + 1) 0 =
        (sent, some (.ok (UInt64.ofNat sent.length)))) ∧
      sent.map Sent.source <+: whole ∧
      sent.length = min resolved.maxRecords.toNat (laneTotal lanes) := by
  have hpos : 0 < resolved.maxRecords := by
    rw [UInt64.lt_iff_toNat_lt]
    exact Nat.pos_of_ne_zero fun h => hmax (UInt64.toNat_inj.mp h)
  obtain ⟨sent, hpass, hprefix, hcount⟩ :=
    pass_of_whole haccepts hrouted hmax hwhole hlength hpos
  refine ⟨sent, fun fuel passes hfuel => ?_, hprefix, ?_⟩
  · simp [runLoop, hpass fuel hfuel, hloop]
  · simp only [hcount, UInt64.toNat_zero, Nat.sub_zero]
    exact Nat.min_comm _ _

/-- With repetition the passes go on until the quota is sent. -/
theorem runLoop_repeats (haccepts : Accepts resolved lanes) (hrouted : Routed resolved lanes)
    (hmax : resolved.maxRecords ≠ 0) (hloop : resolved.loop = true) (htotal : 0 < laneTotal lanes)
    {whole : List (Nat × CaptureRecord)} (hwhole : Merges sortKey lanes whole)
    (hlength : whole.length = laneTotal lanes) {already : UInt64} {left : Nat}
    (hleft : already.toNat + left = resolved.maxRecords.toNat) (hpos : 0 < left) :
    ∃ (sent : List Sent) (again : Nat) (last : List (Nat × CaptureRecord)),
      (∀ fuel passes, laneTotal lanes < fuel → left ≤ passes →
        runLoop resolved fuel passes already =
          (sent, some (.ok (already + UInt64.ofNat sent.length)))) ∧
      last <+: whole ∧ sent.map Sent.source = (List.replicate again whole).flatten ++ last ∧
      sent.length = left := by
  induction left using Nat.strongRecOn generalizing already with
  | ind left ih =>
      have hlt : already < resolved.maxRecords := by
        rw [UInt64.lt_iff_toNat_lt]
        omega
      obtain ⟨sent, hpass, hprefix, hcount⟩ :=
        pass_of_whole haccepts hrouted hmax hwhole hlength hlt
      have hquota : resolved.maxRecords.toNat - already.toNat = left := by omega
      rw [hquota] at hcount
      have hreached := @reached_iff resolved already sent.length hmax (by omega)
      by_cases hend : left ≤ laneTotal lanes
      · -- the quota ends within this pass, or with it
        have hsent : sent.length = left := by omega
        refine ⟨sent, 0, sent.map Sent.source, fun fuel passes hfuel hpasses => ?_, hprefix, rfl, hsent⟩
        obtain ⟨passes, rfl⟩ : ∃ k, passes = k + 1 := ⟨passes - 1, by omega⟩
        rw [runLoop, hpass fuel hfuel]
        simp only
        rw [if_pos (hreached.mpr (by omega))]
      · have hsent : sent.length = laneTotal lanes := by omega
        have hfull : sent.map Sent.source = whole :=
          hprefix.eq_of_length (by rw [List.length_map, hsent, hlength])
        have hnext : (already + UInt64.ofNat sent.length).toNat + (left - laneTotal lanes) =
            resolved.maxRecords.toNat := by
          rw [@totalSent_toNat resolved _ _ (by omega)]
          omega
        obtain ⟨rest, again, last, hrest, hlast, hsource, hcountRest⟩ :=
          ih (left - laneTotal lanes) (by omega) hnext (by omega)
        refine ⟨sent ++ rest, again + 1, last, fun fuel passes hfuel hpasses => ?_, hlast, ?_, ?_⟩
        · obtain ⟨passes, rfl⟩ : ∃ k, passes = k + 1 := ⟨passes - 1, by omega⟩
          rw [runLoop, hpass fuel hfuel]
          simp only
          rw [if_neg (fun h => by have := hreached.mp h; omega), if_pos hloop,
            hrest fuel passes hfuel (by omega), List.length_append, UInt64.ofNat_add, add_assoc]
        · rw [List.map_append, hfull, hsource, List.replicate_succ, List.flatten_cons,
            List.append_assoc]
        · rw [List.length_append, hsent, hcountRest]
          omega

/-- To repeat nothing does not end. -/
theorem runLoop_stuck (haccepts : Accepts resolved lanes) (hrouted : Routed resolved lanes)
    (hmax : resolved.maxRecords ≠ 0) (hloop : resolved.loop = true) (htotal : laneTotal lanes = 0)
    {fuel passes : Nat} (hfuel : 0 < fuel) : runLoop resolved fuel passes 0 = ([], none) := by
  induction passes with
  | zero => rfl
  | succ passes ih =>
      obtain ⟨sent, hpass, -, hcount, -⟩ :=
        @replayOnePass_merges _ _ 0 haccepts hrouted (.inr (Nat.zero_le _))
      have hnone : sent = [] := by
        rw [quota, if_neg hmax, htotal, Nat.zero_min] at hcount
        exact List.length_eq_zero_iff.mp hcount
      subst hnone
      have hnot : ¬ (resolved.maxRecords ≠ 0 ∧ (0 : UInt64) + UInt64.ofNat 0 ≥ resolved.maxRecords) := by
        rw [reached_iff hmax (Nat.zero_le _)]
        exact fun h => hmax (UInt64.toNat_inj.mp h.symm)
      rw [runLoop, hpass fuel (by omega)]
      simp only [List.length_nil]
      rw [if_neg hnot, if_pos hloop]
      simp [ih]

/-- A bounded run ends with its quota unless it is to repeat files without a record. -/
theorem bounded_run_ends_iff (haccepts : Accepts resolved lanes) (hrouted : Routed resolved lanes)
    (hmax : resolved.maxRecords ≠ 0) :
    (∃ (enough : Nat) (sent : List Sent) (again : Nat),
      (∀ fuel, enough ≤ fuel → run resolved fuel = (sent, some (.ok (UInt64.ofNat sent.length)))) ∧
      (if resolved.loop then sent.length = resolved.maxRecords.toNat
        else sent.length = min resolved.maxRecords.toNat (laneTotal lanes) ∧ again = 0) ∧
      InPasses lanes again sent) ↔
    (resolved.loop = false ∨ 0 < laneTotal lanes) := by
  obtain ⟨whole, hwhole, hlength⟩ :=
    (Merges.stop lanes : Merges sortKey lanes []).extend (Nat.zero_le _) (Nat.le_refl (laneTotal lanes))
  rw [List.nil_append] at hwhole hlength
  have hpos : 0 < resolved.maxRecords.toNat :=
    Nat.pos_of_ne_zero fun h => hmax (UInt64.toNat_inj.mp h)
  cases hloop : resolved.loop with
  | false =>
      obtain ⟨sent, hrun, hprefix, hcount⟩ :=
        runLoop_once haccepts hrouted hmax hloop hwhole hlength
      refine iff_of_true ⟨laneTotal lanes + 1, sent, 0, fun fuel hfuel => ?_, ?_, ?_⟩ (.inl rfl)
      · obtain ⟨passes, rfl⟩ : ∃ k, fuel = k + 1 := ⟨fuel - 1, by omega⟩
        exact hrun _ passes (by omega)
      · simpa using hcount
      · exact ⟨whole, _, hwhole, hlength, hprefix, rfl⟩
  | true =>
      by_cases htotal : 0 < laneTotal lanes
      · have hnothing : (0 : UInt64).toNat + resolved.maxRecords.toNat =
            resolved.maxRecords.toNat := Nat.zero_add _
        obtain ⟨sent, again, last, hrun, hlast, hsource, hcount⟩ :=
          runLoop_repeats haccepts hrouted hmax hloop htotal hwhole hlength hnothing hpos
        refine iff_of_true ⟨laneTotal lanes + resolved.maxRecords.toNat + 1, sent, again,
          fun fuel hfuel => ?_, ?_, ?_⟩ (.inr htotal)
        · rw [run, hrun fuel fuel (by omega) (by omega), zero_add]
        · simpa using hcount
        · exact ⟨whole, last, hwhole, hlength, hlast, hsource⟩
      · refine iff_of_false ?_ (by simpa using htotal)
        rintro ⟨enough, sent, again, hrun, -⟩
        have hstuck : run resolved (enough + 1) = ([], none) :=
          runLoop_stuck haccepts hrouted hmax hloop (Nat.eq_zero_of_not_pos htotal) (Nat.succ_pos _)
        rw [hrun _ (Nat.le_succ _)] at hstuck
        cases hstuck

end Runs

/-! ## Files with and without records -/

/-- An empty file and one of two records, which are to be repeated until five records are sent. -/
def repeatedFiles : ResolvedReplayOptions where
  inputFiles := [("a.bin", []), ("b.bin", orderFile [{ seconds := 1 }, { seconds := 2 }])]
  defaultDestination := some { host := "239.1.1.1", port := 12345 }
  maxRecords := 5
  loop := true

def repeatedRecords : List (List CaptureRecord) :=
  [[], [{ seconds := 1 }, { seconds := 2 }].map OrderStamp.record]

theorem repeatedFiles_accepts : Accepts repeatedFiles repeatedRecords := by
  apply List.Forall₂.cons
  · exact .done rfl
  · exact .cons (holds_orderFile (by decide)) .nil

theorem bounded_run_ends_repeated : ∃ (enough : Nat) (sent : List Sent),
    (∀ fuel, enough ≤ fuel → run repeatedFiles fuel =
      (sent, some (.ok (UInt64.ofNat sent.length)))) ∧ sent.length = 5 := by
  obtain ⟨enough, sent, again, hrun, hcount, -⟩ :=
    (bounded_run_ends_iff repeatedFiles_accepts ⟨by rfl, fun _ _ _ _ => rfl⟩ (by decide)).mpr
      (.inr (by decide))
  exact ⟨enough, sent, hrun, hcount⟩

/-- An empty file, which is to be repeated until one record is sent. -/
def repeatedNothing : ResolvedReplayOptions where
  inputFiles := [("a.bin", [])]
  defaultDestination := some { host := "239.1.1.1", port := 12345 }
  maxRecords := 1
  loop := true

theorem empty_file_repeats_forever :
    ∃ (resolved : ResolvedReplayOptions) (lanes : List (List CaptureRecord)),
      Accepts resolved lanes ∧ Routed resolved lanes ∧ resolved.maxRecords ≠ 0 ∧
        ∀ fuel, (run resolved fuel).2 = none := by
  have haccepts : Accepts repeatedNothing [[]] := .cons (.done rfl) .nil
  have hrouted : Routed repeatedNothing [[]] := ⟨by rfl, fun _ _ _ _ => rfl⟩
  refine ⟨repeatedNothing, [[]], haccepts, hrouted, by decide, fun fuel => ?_⟩
  cases fuel with
  | zero => rfl
  | succ fuel =>
      rw [run, runLoop_stuck haccepts hrouted (by decide) rfl rfl (Nat.succ_pos fuel)]

end NseFoExchangeSim.Replay
