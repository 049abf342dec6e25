import NseFoExchangeSim.Engine.Lemmas.Sessions
import NseFoExchangeSim.Engine.Requests

/-!
# The disclosed remainder and the remainder

The two remainders of an order come from fields of the client's that nothing compares. A fill takes the
same quantity from both and a cancellation leaves neither, so the disclosed one stays within the other
exactly when every accepted entry and modification asks for no more.
-/

namespace NseFoExchangeSim.Engine

open Lib Protocol

variable {cfg : EngineConfig} {h : List EngineEvent} {st : EngineState}

/-- No more of the order is disclosed than remains of it. -/
def OrderSnapshot.DisclosesWithin (o : OrderSnapshot) : Prop :=
  o.disclosedVolumeRemaining ≤ o.totalVolumeRemaining

/-! ## What keeps it -/

theorem Fills.disclosesWithin {o filled : OrderSnapshot} {price quantity : UInt32}
    (hf : Fills cfg o filled price quantity) (ho : o.DisclosesWithin) : filled.DisclosesWithin := by
  obtain ⟨r, f, now, rfl⟩ := hf.snapshot
  have hmin : min quantity o.totalVolumeRemaining = quantity := if_pos hf.le
  have hdisclosed : (fillSnapshot o r f quantity now).disclosedVolumeRemaining =
      if min quantity o.totalVolumeRemaining ≥ o.disclosedVolumeRemaining then 0
      else o.disclosedVolumeRemaining - min quantity o.totalVolumeRemaining := rfl
  rw [OrderSnapshot.DisclosesWithin, UInt32.le_iff_toNat_le] at ho
  rw [OrderSnapshot.DisclosesWithin, hdisclosed, fillSnapshot_remaining, hmin,
    UInt32.le_iff_toNat_le, UInt32.toNat_sub_of_le _ _ hf.le]
  split
  · exact Nat.zero_le _
  · rename_i hlt
    rw [UInt32.toNat_sub_of_le _ _ (UInt32.le_of_lt (UInt32.not_le.mp hlt))]
    omega

theorem Cancels.disclosesWithin {o cancelled : OrderSnapshot} (hx : Cancels o cancelled) :
    cancelled.DisclosesWithin := by
  obtain ⟨r, now, rfl⟩ := hx
  exact UInt32.le_refl 0

theorem kept_disclosesWithin : Kept cfg OrderSnapshot.DisclosesWithin where
  fill hf ho := hf.disclosesWithin ho
  cancel hx _ := hx.disclosesWithin

/-! ## What a request asks for -/

/-- The quantity that a modification asks to be disclosed, and the quantity it asks to be open: a
remainder of 0 stands for the whole, and none goes beyond the whole. -/
def askedQuantity (remainder whole : UInt32) : Nat :=
  if remainder = 0 then whole.toNat else min remainder.toNat whole.toNat

/-- The request asks for no more to be disclosed than to be open. -/
def AsksWithin : Label → Prop
  | .accept snapshot => snapshot.disclosedVolume ≤ snapshot.volume
  | .modify request =>
      askedQuantity request.disclosedVolumeRemaining request.disclosedVolume ≤
        askedQuantity request.totalVolumeRemaining request.volume
  | _ => True

instance : DecidablePred AsksWithin
  | .accept snapshot => inferInstanceAs (Decidable (snapshot.disclosedVolume ≤ snapshot.volume))
  | .modify request => inferInstanceAs (Decidable
      (askedQuantity request.disclosedVolumeRemaining request.disclosedVolume ≤
        askedQuantity request.totalVolumeRemaining request.volume))
  | .market => isTrue trivial
  | .other => isTrue trivial

/-- Both remainders of a modified order are what its request asks for. -/
theorem toNat_clamped (remainder whole : UInt32) :
    (if remainder == 0 && decide (whole > 0) then whole else min remainder whole).toNat =
      askedQuantity remainder whole := by
  rw [askedQuantity]
  by_cases hzero : remainder = 0
  · rw [if_pos hzero]
    by_cases hpos : 0 < whole
    · rw [if_pos (by simp [hzero, hpos])]
    · have hnone : whole = 0 := by
        by_contra hne
        exact hpos (UInt32.pos_iff_ne_zero.mpr hne)
      rw [if_neg (by simp [hpos]), hzero, hnone, toNat_min]
      rfl
  · rw [if_neg (by simp [hzero]), if_neg hzero, toNat_min]

theorem modifySnapshot_disclosesWithin_iff (live request : OrderSnapshot) (r : UInt64)
    (now : ClockReading) :
    (modifySnapshot live request r now).DisclosesWithin ↔ AsksWithin (.modify request) := by
  have hdisclosed := toNat_clamped request.disclosedVolumeRemaining request.disclosedVolume
  have htotal := toNat_clamped request.totalVolumeRemaining request.volume
  rw [AsksWithin, ← hdisclosed, ← htotal, ← UInt32.le_iff_toNat_le]
  rfl

/-! ## Calls -/

theorem engine_modifies {op : Op} {request : OrderSnapshot} (hl : label cfg st op = .modify request) :
    ∃ live r now rest,
      (engine cfg st op).1 = modificationEvent (modifySnapshot live request r now) :: rest := by
  obtain ⟨env, wire, sessionId, session, rfl, -⟩ := label_eq_modify hl
  have hout := onModifyOrder_outcome cfg env st sessionId session wire
  rw [hl] at hout
  rw [engine]
  generalize onModifyOrder cfg env wire sessionId session st = r at hout
  cases hout with
  | unmatched hm htop => exact ⟨_, _, _, _, rfl⟩
  | matched hm htop => exact ⟨_, _, _, _, rfl⟩

theorem AsksWithin.brings {op : Op} (hl : AsksWithin (label cfg st op)) :
    Brings OrderSnapshot.DisclosesWithin (label cfg st op) where
  accept snapshot heq := by
    rw [heq] at hl
    obtain ⟨env, request, sessionId, session, rfl, rfl⟩ := label_eq_accept heq
    exact hl
  modify request live r now heq _ := by
    rw [heq] at hl
    exact (modifySnapshot_disclosesWithin_iff live request r now).mpr hl

/-- A call that shows only orders that disclose no more than remains asks for no more. -/
theorem asksWithin_of_shown {op : Op}
    (hshown : ShownAll OrderSnapshot.DisclosesWithin (engine cfg st op).1) :
    AsksWithin (label cfg st op) := by
  cases hl : label cfg st op with
  | accept snapshot =>
      obtain ⟨rest, hes⟩ := engine_confirms hl
      obtain ⟨env, request, sessionId, session, -, rfl⟩ := label_eq_accept hl
      exact hshown _ (by rw [hes]; exact List.mem_cons_self) rfl
  | modify request =>
      obtain ⟨live, r, now, rest, hes⟩ := engine_modifies hl
      exact (modifySnapshot_disclosesWithin_iff live request r now).mp
        (hshown _ (by rw [hes]; exact List.mem_cons_self) rfl)
  | market => trivial
  | other => trivial

/-! ## Runs -/

/-- No open order and no successful event discloses more than remains, and a completed trade discloses
nothing. -/
structure DisclosedWithin (h : List EngineEvent) (st : EngineState) : Prop where
  openOrders : ∀ k o, st.openOrders.find? k = some o →
    o.disclosedVolumeRemaining ≤ o.totalVolumeRemaining
  events : ∀ e ∈ h, e.successful = true →
    e.order.disclosedVolumeRemaining ≤ e.order.totalVolumeRemaining
  completed : ∀ e ∈ h, e.isTrade = true → e.order.totalVolumeRemaining = 0 →
    e.order.disclosedVolumeRemaining = 0

theorem disclosedWithin_iff :
    DisclosedWithin h st ↔
      OpenAll OrderSnapshot.DisclosesWithin st ∧ ShownAll OrderSnapshot.DisclosesWithin h := by
  refine ⟨fun hd => ⟨hd.openOrders, hd.events⟩, fun ⟨hopen, hshown⟩ => ⟨hopen, hshown, ?_⟩⟩
  intro e he ht hzero
  have hsuccess : e.successful = true := by
    rw [EngineEvent.isTrade, Bool.and_eq_true] at ht
    exact ht.1
  have hle : e.order.disclosedVolumeRemaining ≤ e.order.totalVolumeRemaining := hshown e he hsuccess
  rw [hzero] at hle
  exact UInt32.le_zero_iff.mp hle

theorem RunWith.disclosedWithin (r : RunWith cfg (CallsMeet cfg fun _ _ l => AsksWithin l) h st) :
    DisclosedWithin h st := by
  refine r.invariant (P := DisclosedWithin) ?_ ?_
  · rw [disclosedWithin_iff]
    refine ⟨fun k o ho => ?_, fun e he => by cases he⟩
    rw [EngineConfig.init, OrderStore.find?_empty] at ho
    cases ho
  · intro h st op _ hd hok
    rw [disclosedWithin_iff] at hd ⊢
    obtain ⟨hopen, hshown⟩ := engine_keepsAll kept_disclosesWithin op (AsksWithin.brings hok) hd.1
    exact ⟨hopen, hd.2.append hshown⟩

/-- In every run, after every call, no order discloses more than remains of it, exactly when every
accepted entry and modification asks for no more to be disclosed than to be open. -/
theorem disclosed_within_remaining_iff (cfg : EngineConfig) (ops : List Op) :
    Meets (engine cfg) (CallsMeet cfg fun _ _ l => AsksWithin l) [] cfg.init ops ↔
      ∀ done, done <+: ops →
        DisclosedWithin (exec (engine cfg) cfg.init done).1 (exec (engine cfg) cfg.init done).2 := by
  refine meets_iff_everywhere (P := DisclosedWithin) (fun h st r => RunWith.disclosedWithin r) ?_ ops
  intro h st op _ hd
  refine asksWithin_of_shown fun e he => hd.events e ?_
  exact List.mem_append_right h he

/-- A day order for 10 that discloses 15, and an offer of 10. -/
def overDisclosed : List Op :=
  [.newOrder calm
      { orderRequest 654321 1 10 1000 kOrderFlagsDay with disclosedVolume := byteswap 15 } 1 1,
    offer]

/-- The trade that completes the order still discloses 5. -/
theorem completed_trade_discloses :
    ¬∀ h st, Reachable bookMatching h st → DisclosedWithin h st := by
  intro hall
  have hwithin := hall _ _ (run_exec (engine bookMatching) bookMatching.init overDisclosed)
  have htrade : ∃ e ∈ (exec (engine bookMatching) bookMatching.init overDisclosed).1,
      e.isTrade = true ∧ e.order.totalVolumeRemaining = 0 ∧ e.order.disclosedVolumeRemaining = 5 := by
    decide +kernel
  obtain ⟨e, he, ht, hzero, hfive⟩ := htrade
  have hnone := hwithin.completed e he ht hzero
  rw [hfive] at hnone
  cases hnone

end NseFoExchangeSim.Engine
