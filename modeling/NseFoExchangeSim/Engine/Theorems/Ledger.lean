import NseFoExchangeSim.Engine.Lemmas.PerOrder
import NseFoExchangeSim.Engine.Requests

/-!
# No overfill

The ledger of an order is what a history says has been traded of it since it was accepted, and the
volume it was last confirmed with. The first stays within the second as long as the client's
modifications ask for no quantity that has already been traded.
-/

namespace NseFoExchangeSim.Engine

open Lib

variable {cfg : EngineConfig} {h es : List EngineEvent} {st : EngineState} {l : Label} {n : UInt64}
  {o o' : Option OrderSnapshot}

/-! ## The ledger of an order -/

/-- The quantity traded since the order was accepted, and the volume it was last confirmed with. -/
structure Ledger where
  filled : Nat := 0
  volume : Nat := 0
deriving DecidableEq, Repr

/-- One event of the order posted to its ledger. -/
def Ledger.post (ledger : Ledger) (e : EngineEvent) : Ledger :=
  if e.isConfirmation then { filled := 0, volume := e.order.volume.toNat }
  else if e.isModification then { ledger with volume := e.order.volume.toNat }
  else if e.isTrade then { ledger with filled := ledger.filled + e.fillQuantity.toNat }
  else ledger

def account (es : List EngineEvent) : Ledger := es.foldl Ledger.post {}

def ledger (n : UInt64) (h : List EngineEvent) : Ledger := account (eventsOf n h)

section Account

variable (snapshot : OrderSnapshot) (price quantity : UInt32)

theorem account_snoc (es : List EngineEvent) (e : EngineEvent) :
    account (es ++ [e]) = (account es).post e := List.foldl_append

@[simp] theorem account_confirmation (es : List EngineEvent) :
    account (es ++ [confirmationEvent snapshot]) =
      { filled := 0, volume := snapshot.volume.toNat } := by
  simp [account_snoc, Ledger.post]

@[simp] theorem account_modification (es : List EngineEvent) :
    account (es ++ [modificationEvent snapshot]) =
      { account es with volume := snapshot.volume.toNat } := by
  simp [account_snoc, Ledger.post]

@[simp] theorem account_trade (es : List EngineEvent) :
    account (es ++ [makeTradeEvent snapshot price quantity]) =
      { account es with filled := (account es).filled + quantity.toNat } := by
  simp [account_snoc, Ledger.post]

@[simp] theorem account_cancellation (es : List EngineEvent) :
    account (es ++ [cancellationEvent snapshot]) = account es := by
  simp [account_snoc, Ledger.post]

end Account

/-! ## No overfill -/

/-- The order has not traded more than it was last confirmed for. -/
def Within (es : List EngineEvent) : Prop := (account es).filled ≤ (account es).volume

/-- The invariant of one order: the bound holds at every point of its events, and what remains of the
order fits into what is left of its volume. -/
structure Solvent (es : List EngineEvent) (o : Option OrderSnapshot) : Prop where
  within : Everywhere Within es
  covers : ∀ live, o = some live → (account es).filled + remaining live ≤ (account es).volume

/-- A modification of an order some of which has traded asks for a positive remaining quantity that
fits, together with what has traded, into its volume. An IOC order is not given the number of an order
that is still open. -/
def KeepsVolume (cfg : EngineConfig) (h : List EngineEvent) (st : EngineState) : Label → Prop
  | .accept snapshot =>
      cfg.marketDataEnabled = true → snapshot.ioc = true →
        st.openOrders.find? snapshot.exchangeOrderNumber = none
  | .modify request =>
      (ledger request.exchangeOrderNumber h).filled = 0 ∨
        (0 < request.totalVolumeRemaining ∧
          (ledger request.exchangeOrderNumber h).filled + request.totalVolumeRemaining.toNat ≤
            request.volume.toNat)
  | _ => True

instance (cfg : EngineConfig) (h : List EngineEvent) (st : EngineState) :
    ∀ l, Decidable (KeepsVolume cfg h st l)
  | .accept snapshot =>
      inferInstanceAs (Decidable (cfg.marketDataEnabled = true → snapshot.ioc = true →
        st.openOrders.find? snapshot.exchangeOrderNumber = none))
  | .modify request =>
      inferInstanceAs (Decidable ((ledger request.exchangeOrderNumber h).filled = 0 ∨ _ ∧ _))
  | .market => isTrue trivial
  | .other => isTrue trivial

theorem modifiedRemaining_fits {request : OrderSnapshot} (hv : 0 < request.volume) (f : Nat) :
    f + (modifiedRemaining request).toNat ≤ request.volume.toNat ↔
      f = 0 ∨ (0 < request.totalVolumeRemaining ∧
        f + request.totalVolumeRemaining.toNat ≤ request.volume.toNat) := by
  have hv' : 0 < request.volume.toNat := UInt32.lt_iff_toNat_lt.mp hv
  have hzero : (0 : UInt32).toNat = 0 := rfl
  rw [UInt32.lt_iff_toNat_lt, toNat_modifiedRemaining hv]
  split
  · rename_i h0
    rw [h0]
    omega
  · rename_i h0
    have hpos : request.totalVolumeRemaining.toNat ≠ 0 := fun hc => h0 (UInt32.toNat_inj.mp hc)
    omega

theorem within_entered {snapshot filled : OrderSnapshot} {price quantity : UInt32}
    (hw : Everywhere Within es) (he : Entered n snapshot)
    (hf : Fills cfg snapshot filled price quantity) :
    Everywhere Within (es ++ [confirmationEvent snapshot, makeTradeEvent filled price quantity]) := by
  have hle := hf.le_toNat
  rw [Engine.remaining, he.remaining] at hle
  have hconf : Everywhere Within (es ++ [confirmationEvent snapshot]) :=
    hw.snoc (by simp [Within])
  have hpost : Within (es ++ [confirmationEvent snapshot] ++ [makeTradeEvent filled price quantity]) := by
    rw [Within, account_trade, account_confirmation]
    simpa using hle
  have htrade := hconf.snoc hpost
  rwa [List.append_assoc] at htrade

theorem Solvent.act (hs : Solvent (eventsOf n h) o) (hc : Counted cfg h st)
    (ho : st.openOrders.find? n = o) (hok : KeepsVolume cfg h st l) (ha : OrderAct cfg n l o es o') :
    Solvent (eventsOf n h ++ es) o' := by
  cases ha with
  | idle =>
      rw [List.append_nil]
      exact hs
  | immediate hmd he hf =>
      refine ⟨within_entered hs.within he hf, fun live hlive => ?_⟩
      rw [hc.dark hmd] at ho
      rw [← ho] at hlive
      cases hlive
  | rests hmd he hday =>
      refine ⟨hs.within.snoc (by simp [Within]), fun live hlive => ?_⟩
      cases hlive
      simp [Engine.remaining, he.remaining]
  | @unfilled _ snapshot cancelled hmd he hioc hx =>
      have hconf : Everywhere Within (eventsOf n h ++ [confirmationEvent snapshot]) :=
        hs.within.snoc (by simp [Within])
      have hcancel := hconf.snoc (e := cancellationEvent cancelled)
        (by rw [Within, account_cancellation]; exact hconf.here)
      rw [List.append_assoc] at hcancel
      refine ⟨hcancel, fun live hlive => ?_⟩
      have hnone := hok hmd hioc
      rw [he.number, ho, hlive] at hnone
      cases hnone
  | filled hmd he hioc hf hrest =>
      refine ⟨within_entered hs.within he hf, fun live hlive => ?_⟩
      have hnone := hok hmd hioc
      rw [he.number, ho, hlive] at hnone
      cases hnone
  | @partFilled _ snapshot filled price quantity cancelled hmd he hioc hf hrest hx =>
      have htrade := within_entered hs.within he hf
      have hcancel := htrade.snoc (e := cancellationEvent cancelled)
        (by rw [Within, account_cancellation]; exact htrade.here)
      rw [List.append_assoc] at hcancel
      refine ⟨hcancel, fun live hlive => ?_⟩
      have hnone := hok hmd hioc
      rw [he.number, ho, hlive] at hnone
      cases hnone
  | @modify request live r now hlive hrequest hv =>
      have hfits := (modifiedRemaining_fits hv _).mpr hok
      rw [hrequest, ledger] at hfits
      refine ⟨hs.within.snoc ?_, fun live' hlive' => ?_⟩
      · simp only [Within, account_modification, modifySnapshot_volume]
        omega
      · cases hlive'
        simp only [account_modification, modifySnapshot_volume, Engine.remaining,
          modifySnapshot_remaining]
        exact hfits
  | @trade live filled price quantity hlive hf =>
      have hcov := hs.covers live rfl
      have hle := hf.le_toNat
      refine ⟨hs.within.snoc ?_, fun live' hlive' => ?_⟩
      · simp only [Within, account_trade]
        omega
      · split at hlive'
        · cases hlive'
        · cases hlive'
          simp only [account_trade, hf.remaining_eq]
          omega
  | cancel hlive hx =>
      refine ⟨hs.within.snoc ?_, fun live' hlive' => by cases hlive'⟩
      rw [Within, account_cancellation]
      exact hs.within.here
  | drop hlive =>
      rw [List.append_nil]
      exact ⟨hs.within, fun live' hlive' => by cases hlive'⟩

/-- No order trades more than its latest confirmation allows, in a run whose modifications restate what
has been filled. -/
theorem no_overfill (r : RunWith cfg (CallsMeet cfg (KeepsVolume cfg)) h st) (n : UInt64) :
    (∀ h', h' <+: h → (ledger n h').filled ≤ (ledger n h').volume) ∧
      ∀ o, st.openOrders.find? n = some o →
        (ledger n h).filled + o.totalVolumeRemaining.toNat ≤ (ledger n h).volume := by
  have hboth : Counted cfg h st ∧ Solvent (eventsOf n h) (st.openOrders.find? n) := by
    refine run_induct (P := fun h st => Counted cfg h st ∧
      Solvent (eventsOf n h) (st.openOrders.find? n)) (fun _ _ => trivial) ⟨.init cfg, ?_⟩ ?_ r
    · refine ⟨everywhere_nil (Nat.le_refl _), fun live hlive => ?_⟩
      rw [EngineConfig.init, OrderStore.find?_empty] at hlive
      cases hlive
    · rintro h st l es st' ⟨hc, hs⟩ hok ha
      rw [eventsOf_append]
      exact ⟨hc.act ha, hs.act hc rfl hok (ha.order n)⟩
  obtain ⟨_, hs⟩ := hboth
  refine ⟨fun h' hp => hs.within _ ?_, fun o ho => hs.covers o ho⟩
  exact hp.filter _

/-- A day order for 25, of which 10 trade; then a modification to 40 that restates the 10 and asks for
the 30 left. -/
def restatedRun : List Op :=
  [.newOrder calm (orderRequest 654321 1 25 1000 Protocol.kOrderFlagsDay) 1 1,
    .tbtOrder calm (tbtOrder 'N' 1 654321 'S' 999 10),
    .tbtOrder calm (tbtOrder 'X' 1 654321 'S' 999 10),
    .modifyOrder calm (modifyRequest 0x41086A0000000000 654321 1 40 30 10 1000) 1 1,
    .tbtOrder calm (tbtOrder 'N' 2 654321 'S' 999 50)]

theorem no_overfill_restated :
    (ledger 200000 (exec (engine bookMatching) bookMatching.init restatedRun).1).filled ≤
      (ledger 200000 (exec (engine bookMatching) bookMatching.init restatedRun).1).volume := by
  have hm : Meets (engine bookMatching) (CallsMeet bookMatching (KeepsVolume bookMatching)) []
      bookMatching.init restatedRun := by decide +kernel
  exact (no_overfill (run_exec_of_meets hm) 200000).1 _ (List.prefix_refl _)

/-- The same day order, but the modification asks for all 25 again. -/
def refilledRun : List Op :=
  [.newOrder calm (orderRequest 654321 1 25 1000 Protocol.kOrderFlagsDay) 1 1,
    .tbtOrder calm (tbtOrder 'N' 1 654321 'S' 999 10),
    .tbtOrder calm (tbtOrder 'X' 1 654321 'S' 999 10),
    .modifyOrder calm (modifyRequest 0x41086A0000000000 654321 1 25 25 10 1000) 1 1,
    .tbtOrder calm (tbtOrder 'N' 2 654321 'S' 999 50)]

/-- 35 trade of an order for 25. -/
theorem overfill_after_modify :
    ¬∀ h st, Reachable bookMatching h st → ∀ n h', h' <+: h →
      (ledger n h').filled ≤ (ledger n h').volume := by
  intro hall
  have hbound := hall _ _ (run_exec (engine bookMatching) bookMatching.init refilledRun) 200000 _
    (List.prefix_refl _)
  exact absurd hbound (by decide +kernel)

end NseFoExchangeSim.Engine
