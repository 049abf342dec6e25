import Mathlib.Logic.Function.Basic

/-!
# Values generated at once and delivered one by one

Threads generate lists of values, one list at a time, and each thread writes its own values out later,
one by one and in any interleaving with the others. No value gets lost or doubled on the way
(`Conserved`). The values of one kind come out in the order of generation as long as at most one
thread holds undelivered values of the kind (`InTurn`).
-/

namespace Lib

universe u v

variable {T : Type u} {V : Type v}

/-! ## Every value is somewhere -/

/-- Every value generated has been written, is held by one thread, once, or has been lost. -/
structure Conserved (lost : V → Prop) (generated written : List V) (pending : T → List V) : Prop where
  held : ∀ t v, v ∈ pending t → v ∈ generated
  once : ∀ t, (pending t).Nodup
  apart : ∀ t u v, v ∈ pending t → v ∈ pending u → t = u
  wrote : ∀ v ∈ written, v ∈ generated
  unwritten : ∀ t v, v ∈ pending t → v ∉ written
  kept : ∀ v ∈ generated, lost v ∨ v ∈ written ∨ ∃ t, v ∈ pending t

namespace Conserved

variable {lost lost' : V → Prop} {generated written vs ws : List V} {pending pending' : T → List V}
  {t : T} {v : V}

theorem nil (h : ∀ t, pending t = []) : Conserved lost [] [] pending := by
  constructor <;> simp [h]

theorem congr (hc : Conserved lost generated written pending) (hlost : ∀ v, lost v → lost' v)
    (h : ∀ u, pending' u = pending u) : Conserved lost' generated written pending' := by
  rw [funext h]
  exact { hc with kept := fun v hv => (hc.kept v hv).imp (hlost v) id }

/-- A thread that held nothing generates new values. -/
theorem generate (hc : Conserved lost generated written pending) (ht : pending t = [])
    (ht' : pending' t = vs) (hother : ∀ u, u ≠ t → pending' u = pending u) (hvs : vs.Nodup)
    (hnew : ∀ v ∈ vs, v ∉ generated) : Conserved lost (generated ++ vs) written pending' := by
  have hcases : ∀ u v, v ∈ pending' u → (u = t ∧ v ∈ vs) ∨ (u ≠ t ∧ v ∈ pending u) := by
    intro u v hv
    by_cases hu : u = t
    · subst hu
      rw [ht'] at hv
      exact .inl ⟨rfl, hv⟩
    · rw [hother u hu] at hv
      exact .inr ⟨hu, hv⟩
  refine ⟨?_, ?_, ?_, ?_, ?_, ?_⟩
  · intro u v hv
    rcases hcases u v hv with ⟨_, hv⟩ | ⟨_, hv⟩
    · exact List.mem_append_right _ hv
    · exact List.mem_append_left _ (hc.held u v hv)
  · intro u
    by_cases hu : u = t
    · rw [hu, ht']
      exact hvs
    · rw [hother u hu]
      exact hc.once u
  · intro u u' v hv hv'
    rcases hcases u v hv with ⟨rfl, hvt⟩ | ⟨_, hvu⟩ <;>
      rcases hcases u' v hv' with ⟨hu', hvt'⟩ | ⟨_, hvu'⟩
    · exact hu'.symm
    · exact absurd (hc.held u' v hvu') (hnew v hvt)
    · exact absurd (hc.held u v hvu) (hnew v hvt')
    · exact hc.apart u u' v hvu hvu'
  · intro v hv
    exact List.mem_append_left _ (hc.wrote v hv)
  · intro u v hv hw
    rcases hcases u v hv with ⟨_, hv⟩ | ⟨_, hv⟩
    · exact hnew v hv (hc.wrote v hw)
    · exact hc.unwritten u v hv hw
  · intro v hv
    rcases List.mem_append.mp hv with hv | hv
    · rcases hc.kept v hv with hl | hw | ⟨u, hu⟩
      · exact .inl hl
      · exact .inr (.inl hw)
      · have hut : u ≠ t := by
          rintro rfl
          rw [ht] at hu
          cases hu
        exact .inr (.inr ⟨u, by rw [hother u hut]; exact hu⟩)
    · exact .inr (.inr ⟨t, by rw [ht']; exact hv⟩)

/-- A thread lets go of the first value it holds, which is written or lost. -/
theorem take (hc : Conserved lost generated written pending) (ht : pending t = v :: vs)
    (ht' : pending' t = vs) (hother : ∀ u, u ≠ t → pending' u = pending u)
    (hlost : ∀ v, lost v → lost' v) (hv : ws = [v] ∨ (ws = [] ∧ lost' v)) :
    Conserved lost' generated (written ++ ws) pending' := by
  have hhead : v ∈ pending t := by simp [ht]
  have hnodup := hc.once t
  rw [ht, List.nodup_cons] at hnodup
  have hsub : ∀ u w, w ∈ pending' u → w ∈ pending u ∧ w ≠ v := by
    intro u w hw
    by_cases hu : u = t
    · subst hu
      rw [ht'] at hw
      exact ⟨by simp [ht, hw], fun he => hnodup.1 (he ▸ hw)⟩
    · rw [hother u hu] at hw
      exact ⟨hw, fun he => hu (hc.apart u t v (he ▸ hw) hhead)⟩
  have hws : ∀ w ∈ ws, w = v := by
    intro w hw
    rcases hv with rfl | ⟨rfl, _⟩
    · exact List.mem_singleton.mp hw
    · cases hw
  refine ⟨?_, ?_, ?_, ?_, ?_, ?_⟩
  · intro u w hw
    exact hc.held u w (hsub u w hw).1
  · intro u
    by_cases hu : u = t
    · rw [hu, ht']
      exact hnodup.2
    · rw [hother u hu]
      exact hc.once u
  · intro u u' w hw hw'
    exact hc.apart u u' w (hsub u w hw).1 (hsub u' w hw').1
  · intro w hw
    rcases List.mem_append.mp hw with hw | hw
    · exact hc.wrote w hw
    · rw [hws w hw]
      exact hc.held t v hhead
  · intro u w hw hwritten
    obtain ⟨hwu, hne⟩ := hsub u w hw
    rcases List.mem_append.mp hwritten with hold | hnew
    · exact hc.unwritten u w hwu hold
    · exact hne (hws w hnew)
  · intro w hw
    rcases hc.kept w hw with hl | hwritten | ⟨u, hu⟩
    · exact .inl (hlost w hl)
    · exact .inr (.inl (List.mem_append_left _ hwritten))
    · by_cases hwv : w = v
      · subst hwv
        rcases hv with rfl | ⟨_, hl⟩
        · exact .inr (.inl (by simp))
        · exact .inl hl
      · refine .inr (.inr ⟨u, ?_⟩)
        by_cases hut : u = t
        · subst hut
          rw [ht, List.mem_cons] at hu
          rw [ht']
          exact hu.resolve_left hwv
        · rw [hother u hut]
          exact hu

end Conserved

/-! ## In the order of generation -/

/-- Only `t` holds undelivered values of the kind: those written, and then those `t` holds, are those
generated. -/
structure SoleHolder (kind : V → Bool) (generated written : List V) (pending : T → List V) (t : T) :
    Prop where
  whole : written.filter kind ++ (pending t).filter kind = generated.filter kind
  others : ∀ u, u ≠ t → (pending u).filter kind = []

/-- At most one thread holds undelivered values of the kind. -/
def InTurn (kind : V → Bool) (generated written : List V) (pending : T → List V) : Prop :=
  ∃ t, SoleHolder kind generated written pending t

namespace InTurn

variable {kind : V → Bool} {generated written vs : List V} {pending pending' : T → List V} {t : T}
  {v : V}

theorem nil (t : T) (h : ∀ t, pending t = []) : InTurn kind [] [] pending :=
  ⟨t, by simp [h], fun u _ => by simp [h]⟩

theorem isPrefix (hi : InTurn kind generated written pending) :
    written.filter kind <+: generated.filter kind := by
  obtain ⟨t, ht⟩ := hi
  exact ⟨_, ht.whole⟩

/-- A thread that held nothing generates values, of a kind that no other thread holds. -/
theorem generate (hi : InTurn kind generated written pending) (ht : pending t = [])
    (ht' : pending' t = vs) (hother : ∀ u, u ≠ t → pending' u = pending u)
    (hfree : vs.filter kind ≠ [] → ∀ u, u ≠ t → (pending u).filter kind = []) :
    InTurn kind (generated ++ vs) written pending' := by
  obtain ⟨w, hw⟩ := hi
  by_cases hvs : vs.filter kind = []
  · -- nothing of the kind is generated: whoever held the kind still does
    have hsame : ∀ u, (pending' u).filter kind = (pending u).filter kind := by
      intro u
      by_cases hu : u = t
      · rw [hu, ht', ht, hvs, List.filter_nil]
      · rw [hother u hu]
    refine ⟨w, ?_, fun u hu => ?_⟩
    · rw [hsame, hw.whole, List.filter_append, hvs, List.append_nil]
    · rw [hsame, hw.others u hu]
  · have hnone : (pending w).filter kind = [] := by
      by_cases hwt : w = t
      · rw [hwt, ht, List.filter_nil]
      · exact hfree hvs w hwt
    have hwhole := hw.whole
    rw [hnone, List.append_nil] at hwhole
    refine ⟨t, ?_, fun u hu => ?_⟩
    · rw [ht', List.filter_append, hwhole]
    · rw [hother u hu]
      exact hfree hvs u hu

/-- A thread writes the first value it holds. -/
theorem write (hi : InTurn kind generated written pending) (ht : pending t = v :: vs)
    (ht' : pending' t = vs) (hother : ∀ u, u ≠ t → pending' u = pending u) :
    InTurn kind generated (written ++ [v]) pending' := by
  obtain ⟨w, hw⟩ := hi
  by_cases hwt : w = t
  · subst hwt
    refine ⟨w, ?_, fun u hu => ?_⟩
    · have hwhole := hw.whole
      rw [ht, ← List.singleton_append, List.filter_append, ← List.append_assoc] at hwhole
      rw [ht', List.filter_append]
      exact hwhole
    · rw [hother u hu]
      exact hw.others u hu
  · -- the value is not of the kind, which `w` alone holds
    have hnone := hw.others t (Ne.symm hwt)
    rw [ht, ← List.singleton_append, List.filter_append, List.append_eq_nil_iff] at hnone
    refine ⟨w, ?_, fun u hu => ?_⟩
    · rw [hother w hwt, List.filter_append, hnone.1, List.append_nil, hw.whole]
    · by_cases hut : u = t
      · rw [hut, ht', hnone.2]
      · rw [hother u hut]
        exact hw.others u hu

/-- A thread drops the first value it holds, which is of another kind. -/
theorem skip (hi : InTurn kind generated written pending) (ht : pending t = v :: vs)
    (ht' : pending' t = vs) (hother : ∀ u, u ≠ t → pending' u = pending u) (hv : kind v = false) :
    InTurn kind generated written pending' := by
  have hwrite := hi.write ht ht' hother
  obtain ⟨w, hw⟩ := hwrite
  refine ⟨w, ?_, hw.others⟩
  have hwhole := hw.whole
  have hnil : [v].filter kind = [] := by simp [hv]
  rw [List.filter_append, hnil, List.append_nil] at hwhole
  exact hwhole

theorem congr (hi : InTurn kind generated written pending) (h : ∀ u, pending' u = pending u) :
    InTurn kind generated written pending' := by
  rw [funext h]
  exact hi

end InTurn

/-! ## Out of order -/

section OutOfOrder

variable {kind : V → Bool} {generated written earlier later : List V} {rank : V → Nat} {v w : V}

/-- Values generated with increasing ranks, and one of the kind written after one of a higher rank:
the writes are not in the order of generation. -/
theorem not_sublist_of_overtaken (hranks : generated.Pairwise (rank · < rank ·))
    (hv : v ∈ later) (hw : w ∈ earlier) (hkv : kind v = true) (hkw : kind w = true)
    (hlt : rank w < rank v) :
    ¬((written ++ later ++ earlier).filter kind).Sublist (generated.filter kind) := by
  intro hsub
  have hpair := (hranks.sublist List.filter_sublist).sublist hsub
  rw [List.filter_append, List.pairwise_append] at hpair
  have hvw : rank v < rank w := by
    apply hpair.2.2
    · rw [List.filter_append]
      exact List.mem_append_right _ (List.mem_filter.mpr ⟨hv, hkv⟩)
    · exact List.mem_filter.mpr ⟨hw, hkw⟩
  omega

end OutOfOrder

end Lib
