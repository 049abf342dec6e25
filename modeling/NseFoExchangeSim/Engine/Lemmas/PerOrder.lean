import NseFoExchangeSim.Engine.Lemmas.Invariants

/-!
# The engine seen from one order number

Under one number the engine is a small automaton: the order open under it, if any, and the successful
events it emits. `Act.order` projects every act on it, so that a property of the events of one order is
proved on the automaton, without a word about the other orders.
-/

namespace NseFoExchangeSim.Engine

open Lib

variable {cfg : EngineConfig} {h es : List EngineEvent} {st st' : EngineState} {l : Label} {n : UInt64}

/-! ## The automaton -/

/-- A snapshot as it is accepted under a number: nothing of it has been filled. -/
structure Entered (n : UInt64) (snapshot : OrderSnapshot) : Prop where
  number : snapshot.exchangeOrderNumber = n
  remaining : snapshot.totalVolumeRemaining = snapshot.volume
  filled : snapshot.volumeFilledToday = 0
  volume_pos : 0 < snapshot.volume

/-- A positive part of the order is filled, and no more than remains of it. -/
structure Fills (cfg : EngineConfig) (o filled : OrderSnapshot) (price quantity : UInt32) : Prop where
  pos : 0 < quantity
  le : quantity ≤ o.totalVolumeRemaining
  snapshot : ∃ r f now, filled = fillSnapshot o r f quantity now
  admits : cfg.marketDataEnabled = true → ∃ side, Admits o side price

/-- The order is cancelled as it stands. -/
def Cancels (o cancelled : OrderSnapshot) : Prop := ∃ r now, cancelled = cancelSnapshot o r now

/-- What an act does under one number: the order open before, the events for it, the order open
after. -/
inductive OrderAct (cfg : EngineConfig) (n : UInt64) :
    Label → Option OrderSnapshot → List EngineEvent → Option OrderSnapshot → Prop
  | idle {l o} : OrderAct cfg n l o [] o
  | immediate {o snapshot filled price} (hmd : cfg.marketDataEnabled = false)
      (he : Entered n snapshot) (hf : Fills cfg snapshot filled price snapshot.volume) :
      OrderAct cfg n (.accept snapshot) o
        [confirmationEvent snapshot, makeTradeEvent filled price snapshot.volume] o
  | rests {o snapshot} (hmd : cfg.marketDataEnabled = true) (he : Entered n snapshot)
      (hday : snapshot.ioc = false) :
      OrderAct cfg n (.accept snapshot) o [confirmationEvent snapshot] (some snapshot)
  | unfilled {o snapshot cancelled} (hmd : cfg.marketDataEnabled = true) (he : Entered n snapshot)
      (hioc : snapshot.ioc = true) (hx : Cancels snapshot cancelled) :
      OrderAct cfg n (.accept snapshot) o [confirmationEvent snapshot, cancellationEvent cancelled] o
  | filled {o snapshot filled price quantity} (hmd : cfg.marketDataEnabled = true)
      (he : Entered n snapshot) (hioc : snapshot.ioc = true)
      (hf : Fills cfg snapshot filled price quantity) (hrest : filled.totalVolumeRemaining = 0) :
      OrderAct cfg n (.accept snapshot) o
        [confirmationEvent snapshot, makeTradeEvent filled price quantity] o
  | partFilled {o snapshot filled price quantity cancelled} (hmd : cfg.marketDataEnabled = true)
      (he : Entered n snapshot) (hioc : snapshot.ioc = true)
      (hf : Fills cfg snapshot filled price quantity) (hrest : 0 < filled.totalVolumeRemaining)
      (hx : Cancels filled cancelled) :
      OrderAct cfg n (.accept snapshot) o
        [confirmationEvent snapshot, makeTradeEvent filled price quantity,
          cancellationEvent cancelled] o
  | modify {request live r now} (hlive : live.exchangeOrderNumber = n)
      (hrequest : request.exchangeOrderNumber = n) (hv : 0 < request.volume) :
      OrderAct cfg n (.modify request) (some live)
        [modificationEvent (modifySnapshot live request r now)]
        (some (modifySnapshot live request r now))
  | trade {live filled price quantity} (hlive : live.exchangeOrderNumber = n)
      (hf : Fills cfg live filled price quantity) :
      OrderAct cfg n .other (some live) [makeTradeEvent filled price quantity]
        (if filled.totalVolumeRemaining = 0 then none else some filled)
  | cancel {live cancelled} (hlive : live.exchangeOrderNumber = n) (hx : Cancels live cancelled) :
      OrderAct cfg n .other (some live) [cancellationEvent cancelled] none
  | drop {live} (hlive : live.exchangeOrderNumber = n) : OrderAct cfg n .other (some live) [] none

namespace Fills

variable {o filled : OrderSnapshot} {price quantity : UInt32}

theorem number (hf : Fills cfg o filled price quantity) :
    filled.exchangeOrderNumber = o.exchangeOrderNumber := by
  obtain ⟨r, f, now, rfl⟩ := hf.snapshot
  rfl

theorem price_eq (hf : Fills cfg o filled price quantity) : filled.price = o.price := by
  obtain ⟨r, f, now, rfl⟩ := hf.snapshot
  rfl

theorem side_eq (hf : Fills cfg o filled price quantity) : filled.side = o.side := by
  obtain ⟨r, f, now, rfl⟩ := hf.snapshot
  rfl

theorem le_toNat (hf : Fills cfg o filled price quantity) : quantity.toNat ≤ remaining o :=
  UInt32.le_iff_toNat_le.mp hf.le

theorem remaining_eq (hf : Fills cfg o filled price quantity) :
    remaining filled = remaining o - quantity.toNat := by
  obtain ⟨r, f, now, rfl⟩ := hf.snapshot
  have hmin : min quantity o.totalVolumeRemaining = quantity := if_pos hf.le
  rw [remaining, fillSnapshot_remaining, hmin, UInt32.toNat_sub_of_le _ _ hf.le, remaining]

theorem filled_eq (hf : Fills cfg o filled price quantity) :
    filled.volumeFilledToday = o.volumeFilledToday + quantity := by
  obtain ⟨r, f, now, rfl⟩ := hf.snapshot
  have hmin : min quantity o.totalVolumeRemaining = quantity := if_pos hf.le
  rw [fillSnapshot_filled, hmin]

end Fills

namespace Cancels

variable {o cancelled : OrderSnapshot}

theorem number (hx : Cancels o cancelled) :
    cancelled.exchangeOrderNumber = o.exchangeOrderNumber := by
  obtain ⟨r, now, rfl⟩ := hx
  rfl

theorem filled_eq (hx : Cancels o cancelled) :
    cancelled.volumeFilledToday = o.volumeFilledToday := by
  obtain ⟨r, now, rfl⟩ := hx
  rfl

end Cancels

/-! ## The projection -/

theorem Accepted.entered {snapshot : OrderSnapshot} (ha : Accepted cfg st snapshot) :
    Entered snapshot.exchangeOrderNumber snapshot :=
  ⟨rfl, ha.remaining, ha.filled, ha.volume_pos⟩

theorem eventsOf_all (hall : ∀ e ∈ es, e.successful = true ∧ e.order.exchangeOrderNumber = n) :
    eventsOf n es = es := by
  rw [eventsOf, List.filter_eq_self]
  intro e he
  simp [EngineEvent.concerns, hall e he]

theorem eventsOf_none (hne : ∀ e ∈ es, e.order.exchangeOrderNumber ≠ n) : eventsOf n es = [] := by
  rw [eventsOf, List.filter_eq_nil_iff]
  intro e he
  simp [EngineEvent.concerns, hne e he]

theorem AtTop.admits {token : UInt32} {o : OrderSnapshot} {price quantity : UInt32}
    (ha : AtTop st token o price quantity) : ∃ side, Admits o side price := by
  obtain ⟨book, side, topQty, _, _, hadm, _⟩ := ha
  exact ⟨side, hadm⟩

theorem order_idle (hes : ∀ e ∈ es, e.order.exchangeOrderNumber ≠ n)
    (hsame : st'.openOrders.find? n = st.openOrders.find? n) :
    OrderAct cfg n l (st.openOrders.find? n) (eventsOf n es) (st'.openOrders.find? n) := by
  rw [eventsOf_none hes, hsame]
  exact .idle

theorem order_unrested {snapshot : OrderSnapshot}
    (hsame : st'.openOrders = st.openOrders)
    (hes : ∀ e ∈ es, e.successful = true ∧
      e.order.exchangeOrderNumber = snapshot.exchangeOrderNumber)
    (hact : ∀ o, OrderAct cfg snapshot.exchangeOrderNumber (.accept snapshot) o es o) :
    OrderAct cfg n (.accept snapshot) (st.openOrders.find? n) (eventsOf n es)
      (st'.openOrders.find? n) := by
  rw [hsame]
  by_cases hn : snapshot.exchangeOrderNumber = n
  · subst hn
    rw [eventsOf_all hes]
    exact hact _
  · rw [eventsOf_none fun e he => by rw [(hes e he).2]; exact hn]
    exact .idle

/-- Every act, seen from one order number. -/
theorem Act.order (n : UInt64) (ha : Act cfg l st es st') :
    OrderAct cfg n l (st.openOrders.find? n) (eventsOf n es) (st'.openOrders.find? n) := by
  cases ha with
  | @reject _ e he =>
      rw [eventsOf_cons, if_neg (by simp [failed_kind he]), eventsOf_nil]
      exact .idle
  | market books hkeep => exact .idle
  | @enterImmediate _ snapshot entered filled now hac hmd hentered hf =>
      subst hentered hf
      have hq : (nextFill (acceptedState cfg snapshot.token st) snapshot
          snapshot.totalVolumeRemaining now).volumeFilledToday = snapshot.volume := by
        rw [nextFill_filled (UInt32.le_refl _), hac.filled, hac.remaining, UInt32.zero_add]
      rw [hq]
      refine order_unrested (by simp [drawFillNumbers]) (by simp) fun o => ?_
      refine .immediate hmd hac.entered ⟨hac.volume_pos, ?_, ?_, ?_⟩
      · rw [hac.remaining]
        exact UInt32.le_refl _
      · rw [hac.remaining]
        exact ⟨_, _, _, rfl⟩
      · rw [hmd]
        intro hc
        cases hc
  | @enterDay _ snapshot entered hac hmd hday hentered =>
      subst hentered
      by_cases hn : snapshot.exchangeOrderNumber = n
      · subst hn
        rw [eventsOf_all (by simp), storeOpenOrderLocked, OrderStore.find?_put_self]
        exact .rests hmd hac.entered hday
      · apply order_idle (by simpa using hn)
        rw [storeOpenOrderLocked, acceptedState_openOrders,
          OrderStore.find?_put_of_ne _ (Ne.symm hn)]
  | @enterIocUnfilled _ snapshot entered now hac hmd hioc hentered =>
      subst hentered
      exact order_unrested (by simp [drawReference]) (by simp) fun o =>
        .unfilled hmd hac.entered hioc ⟨_, _, rfl⟩
  | @enterIocFilled _ snapshot entered filled price quantity now hac hmd hioc hentered htop hpos hle hf
      hrest =>
      subst hentered hf
      exact order_unrested (by simp [drawFillNumbers]) (by simp) fun o =>
        .filled hmd hac.entered hioc ⟨hpos, hle, ⟨_, _, _, rfl⟩, fun _ => htop.admits⟩ hrest
  | @enterIocPartial _ snapshot entered filled price quantity now now' hac hmd hioc hentered htop hpos
      hle hf hrest =>
      subst hentered hf
      exact order_unrested (by simp [drawFillNumbers, drawReference]) (by simp) fun o =>
        .partFilled hmd hac.entered hioc ⟨hpos, hle, ⟨_, _, _, rfl⟩, fun _ => htop.admits⟩ hrest
          ⟨_, _, rfl⟩
  | @modify _ request live modified now hm hl =>
      subst hl
      have hput : ∀ k, (st.openOrders.put (modifySnapshot live request st.nextLastActivityReference
          now)).find? k = if k = live.exchangeOrderNumber then
            some (modifySnapshot live request st.nextLastActivityReference now)
          else st.openOrders.find? k := OrderStore.find?_put _ _
      by_cases hn : live.exchangeOrderNumber = n
      · subst hn
        rw [eventsOf_all (by simp), hm.live]
        simp only [hput, if_true]
        exact .modify rfl hm.number.symm hm.volume_pos
      · apply order_idle (by simpa using hn)
        simp only [hput, if_neg (Ne.symm hn)]
  | @fill _ live filled price quantity token now hlive hpos hle htoken htop hf =>
      subst hf
      have hfind : ∀ k, (afterFill (nextFill st live quantity now) st).openOrders.find? k =
          if k = live.exchangeOrderNumber then
            if (nextFill st live quantity now).totalVolumeRemaining = 0 then none
            else some (nextFill st live quantity now)
          else st.openOrders.find? k := afterFill_find? hlive
      by_cases hn : live.exchangeOrderNumber = n
      · subst hn
        rw [eventsOf_all (by simp), hfind, if_pos rfl, hlive]
        exact .trade rfl ⟨hpos, hle, ⟨_, _, _, rfl⟩, fun hmd => (htop hmd).admits⟩
      · apply order_idle (by simpa using hn)
        rw [hfind, if_neg (Ne.symm hn)]
  | @cancel _ live now hlive =>
      by_cases hn : live.exchangeOrderNumber = n
      · subst hn
        rw [eventsOf_all (by simp), hlive, eraseOpenOrderLocked_find? rfl, nextCancel_number,
          if_pos rfl]
        exact .cancel rfl ⟨_, _, rfl⟩
      · apply order_idle (by simpa using hn)
        rw [eraseOpenOrderLocked_find? rfl, nextCancel_number, if_neg (Ne.symm hn)]
        rfl
  | @drop _ live arg hlive harg =>
      by_cases hn : live.exchangeOrderNumber = n
      · subst hn
        rw [hlive, eraseOpenOrderLocked_find? harg, if_pos rfl]
        exact .drop rfl
      · apply order_idle (by simp)
        rw [eraseOpenOrderLocked_find? harg, if_neg (Ne.symm hn)]

/-! ## Properties that an order keeps -/

/-- A fill and a cancellation keep the property of an order. -/
structure Kept (cfg : EngineConfig) (P : OrderSnapshot → Prop) : Prop where
  fill : ∀ {o filled price quantity}, Fills cfg o filled price quantity → P o → P filled
  cancel : ∀ {o cancelled}, Cancels o cancelled → P o → P cancelled

/-- The act accepts orders with the property only, and modifies orders so that they keep it. -/
structure Brings (P : OrderSnapshot → Prop) (l : Label) : Prop where
  accept : ∀ snapshot, l = .accept snapshot → P snapshot
  modify : ∀ request live r now, l = .modify request → P live → P (modifySnapshot live request r now)

theorem Brings.other (P : OrderSnapshot → Prop) : Brings P .other where
  accept _ h := by cases h
  modify _ _ _ _ h := by cases h

/-- All open orders have the property. -/
def OpenAll (P : OrderSnapshot → Prop) (st : EngineState) : Prop :=
  ∀ k o, st.openOrders.find? k = some o → P o

/-- All successful events show an order with the property. -/
def ShownAll (P : OrderSnapshot → Prop) (h : List EngineEvent) : Prop :=
  ∀ e ∈ h, e.successful = true → P e.order

section Kept

variable {P : OrderSnapshot → Prop} {o o' : Option OrderSnapshot}

theorem OrderAct.keepsAll (hk : Kept cfg P) (ha : OrderAct cfg n l o es o') (hl : Brings P l)
    (ho : ∀ live, o = some live → P live) :
    (∀ live, o' = some live → P live) ∧ ∀ e ∈ es, P e.order := by
  cases ha with
  | idle => exact ⟨ho, by simp⟩
  | immediate hmd he hf =>
      have hs := hl.accept _ rfl
      exact ⟨ho, by simp [hs, hk.fill hf hs]⟩
  | rests hmd he hday =>
      have hs := hl.accept _ rfl
      exact ⟨fun live hlive => by cases hlive; exact hs, by simp [hs]⟩
  | unfilled hmd he hioc hx =>
      have hs := hl.accept _ rfl
      exact ⟨ho, by simp [hs, hk.cancel hx hs]⟩
  | filled hmd he hioc hf hrest =>
      have hs := hl.accept _ rfl
      exact ⟨ho, by simp [hs, hk.fill hf hs]⟩
  | partFilled hmd he hioc hf hrest hx =>
      have hs := hl.accept _ rfl
      have hfilled := hk.fill hf hs
      exact ⟨ho, by simp [hs, hfilled, hk.cancel hx hfilled]⟩
  | @modify request live r now hlive hrequest hv =>
      have hs := hl.modify request live r now rfl (ho live rfl)
      exact ⟨fun live hlive => by cases hlive; exact hs, by simp [hs]⟩
  | trade hlive hf =>
      have hs := hk.fill hf (ho _ rfl)
      refine ⟨fun live hlive => ?_, by simp [hs]⟩
      split at hlive
      · cases hlive
      · cases hlive
        exact hs
  | cancel hlive hx => exact ⟨by simp, by simp [hk.cancel hx (ho _ rfl)]⟩
  | drop hlive => exact ⟨by simp, by simp⟩

theorem Act.keepsAll (hk : Kept cfg P) (ha : Act cfg l st es st') (hl : Brings P l)
    (ho : OpenAll P st) : OpenAll P st' ∧ ShownAll P es := by
  refine ⟨fun k o hfind => ?_, fun e he hsucc => ?_⟩
  · exact ((ha.order k).keepsAll hk hl fun live hlive => ho k live hlive).1 o hfind
  · have hmem : e ∈ eventsOf e.order.exchangeOrderNumber es := (mem_eventsOf _ _ _).mpr ⟨he, hsucc, rfl⟩
    exact ((ha.order _).keepsAll hk hl fun live hlive => ho _ live hlive).2 e hmem

theorem ShownAll.append (hh : ShownAll P h) (hes : ShownAll P es) : ShownAll P (h ++ es) := by
  intro e he
  rcases List.mem_append.mp he with he | he
  · exact hh e he
  · exact hes e he

/-- A call that brings only orders with the property leaves and shows only such orders. -/
theorem engine_keepsAll (hk : Kept cfg P) (op : Op) (hl : Brings P (label cfg st op))
    (ho : OpenAll P st) :
    OpenAll P (engine cfg st op).2 ∧ ShownAll P (engine cfg st op).1 := by
  have hsteps : Steps (ActWith cfg fun _ _ l => Brings P l) ([], st)
      ([] ++ (engine cfg st op).1, (engine cfg st op).2) :=
    engine_steps (fun _ _ => .other P) op hl
  refine hsteps.invariant (P := fun h st => OpenAll P st ∧ ShownAll P h) ?_ ⟨ho, by simp [ShownAll]⟩
  rintro h st es st' ⟨ho, hall⟩ ⟨l, ha, hl⟩
  obtain ⟨ho', hes⟩ := ha.keepsAll hk hl ho
  exact ⟨ho', hall.append hes⟩

end Kept

end NseFoExchangeSim.Engine
