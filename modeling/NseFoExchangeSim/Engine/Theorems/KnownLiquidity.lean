import NseFoExchangeSim.Engine.Lemmas.Levels

/-!
# Known liquidity

In every run a level shows at most the quantities of the live orders at its price. A cancel or a trade
that names an unknown order takes its quantity off the level nevertheless, and the level then shows
less than is there. The condition under which all live quantity stays on the levels is exact.
-/

namespace NseFoExchangeSim.Engine

open Std

/-! ## Cells -/

namespace Cell

variable (c : Cell) (quantity : UInt32)

/-- The level shows at most what the live orders add up to. -/
def Backed : Prop := c.onLevel ≤ c.volume

/-- All of the live orders is on the level; a level that is not there shows nothing. -/
def Covered : Prop := c.volume ≤ c.onLevel

/-- A level, if there is one, is not dropped for its order count. -/
def Lasts (decrementOrderCount : Bool) : Prop :=
  ∀ l, c.level = some l → l.countAfter decrementOrderCount ≠ 0

/-- Taking all that a known order has off the level leaves the level for the other live orders. -/
def Uncut (decrementOrderCount : Bool) : Prop :=
  c.volume ≤ quantity.toNat ∨ c.Lasts decrementOrderCount

/-- The level total stays below `2 ^ 64`. -/
def Fits : Prop := c.volume + quantity.toNat < 2 ^ 64

/-- A quantity of an unknown order finds no live quantity, or takes nothing. -/
def Spares : Prop := c.volume = 0 ∨ (quantity = 0 ∧ c.Lasts false)

instance (decrementOrderCount : Bool) : Decidable (c.Lasts decrementOrderCount) :=
  inferInstanceAs (Decidable (∀ l ∈ c.level, l.countAfter decrementOrderCount ≠ 0))

instance (decrementOrderCount : Bool) : Decidable (c.Uncut quantity decrementOrderCount) :=
  inferInstanceAs (Decidable (_ ∨ _))

instance : Decidable (c.Fits quantity) := inferInstanceAs (Decidable (_ < _))

instance : Decidable (c.Spares quantity) := inferInstanceAs (Decidable (_ ∨ _))

variable {c quantity} {decrementOrderCount : Bool}

theorem onLevel_taken (volume count : Nat) :
    onLevel ⟨c.level.bind (·.taken quantity decrementOrderCount), volume, count⟩ =
      if c.Lasts decrementOrderCount then c.onLevel - quantity.toNat else 0 := by
  cases hlevel : c.level with
  | none => simp [onLevel, Lasts, hlevel]
  | some l =>
      have hlasts : c.Lasts decrementOrderCount ↔ l.countAfter decrementOrderCount ≠ 0 := by
        simp [Lasts, hlevel]
      have hle : l.quantity ≤ quantity.toUInt64 ↔ l.quantity.toNat ≤ quantity.toNat := by
        rw [UInt64.le_iff_toNat_le, UInt32.toNat_toUInt64]
      have hon : c.onLevel = l.quantity.toNat := by simp [onLevel, hlevel]
      simp only [Option.bind_some, PriceLevelState.taken, hlasts, hon]
      by_cases hq : l.quantity ≤ quantity.toUInt64
      · have hzero : l.quantity.toNat - quantity.toNat = 0 := Nat.sub_eq_zero_of_le (hle.mp hq)
        simp only [hq, if_true, hzero, ite_self]
        rfl
      · have hlt : quantity.toUInt64 ≤ l.quantity := by
          rw [UInt64.le_iff_toNat_le, UInt32.toNat_toUInt64]
          have hnat := mt hle.mpr hq
          omega
        by_cases hcount : l.countAfter decrementOrderCount = 0
        · simp [hq, hcount, onLevel]
        · simp only [hq, hcount, if_false, ne_eq, not_false_eq_true, if_true, onLevel,
            Option.elim_some]
          rw [UInt64.toNat_sub_of_le _ _ hlt, UInt32.toNat_toUInt64]

theorem onLevel_enter : (c.enter quantity).onLevel = (c.onLevel + quantity.toNat) % 2 ^ 64 := by
  cases hlevel : c.level with
  | none => simp [onLevel, Cell.enter, grown, hlevel]
  | some l => simp [onLevel, Cell.enter, grown, hlevel]

/-! ### What each change keeps -/

theorem Backed.enter (h : c.Backed) : (c.enter quantity).Backed := by
  rw [Backed, onLevel_enter]
  have hmod := Nat.mod_le (c.onLevel + quantity.toNat) (2 ^ 64)
  rw [Backed] at h
  simp only [Cell.enter]
  omega

theorem Backed.taken (h : c.Backed) {volume : Nat} (hv : c.volume - quantity.toNat ≤ volume)
    (count : Nat) :
    Backed ⟨c.level.bind (·.taken quantity decrementOrderCount), volume, count⟩ := by
  rw [Backed, onLevel_taken]
  rw [Backed] at h
  split
  · simp only
    omega
  · exact Nat.zero_le _

theorem covered_enter_iff (hb : c.Backed) :
    (c.enter quantity).Covered ↔ c.Covered ∧ c.Fits quantity := by
  have hv : (c.enter quantity).volume = c.volume + quantity.toNat := rfl
  rw [Covered, onLevel_enter, hv, Covered, Fits]
  rw [Backed] at hb
  refine ⟨fun h => ?_, fun ⟨hc, hfits⟩ => ?_⟩
  · have hmod := Nat.mod_le (c.onLevel + quantity.toNat) (2 ^ 64)
    have hlt := Nat.mod_lt (c.onLevel + quantity.toNat) (Nat.two_pow_pos 64)
    omega
  · rw [Nat.mod_eq_of_lt (by omega)]
    omega

theorem covered_taken_iff (hb : c.Backed) (hc : c.Covered) (count : Nat) :
    Covered ⟨c.level.bind (·.taken quantity decrementOrderCount), c.volume - quantity.toNat, count⟩ ↔
      c.Uncut quantity decrementOrderCount := by
  rw [Covered, onLevel_taken, Uncut]
  rw [Backed] at hb
  rw [Covered] at hc
  by_cases hl : c.Lasts decrementOrderCount
  · simp only [hl, if_true, or_true, iff_true]
    omega
  · simp only [hl, if_false, or_false]
    omega

/-- An unknown order leaves the cell covered exactly when it finds nothing or takes nothing. -/
theorem covered_anonymous_iff (hb : c.Backed) :
    (c.anonymous quantity).Covered ↔ c.Covered ∧ c.Spares quantity := by
  have hzero : quantity = 0 ↔ quantity.toNat = 0 := UInt32.toNat_inj.symm
  rw [Cell.anonymous, Covered, onLevel_taken, Covered, Spares, hzero]
  rw [Backed] at hb
  by_cases hl : c.Lasts false
  · simp only [hl, if_true, and_true]
    omega
  · simp only [hl, if_false, and_false, or_false]
    omega

end Cell

/-! ## Books -/

namespace ExternalBook

variable (book : ExternalBook)

/-- The quantity of every level is at least the sum of the quantities of the live orders there. -/
def Covered : Prop := ∀ isBuy price, (book.cell isBuy price).Covered

def Backed : Prop := ∀ isBuy price, (book.cell isBuy price).Backed

/-- A message about an unknown order does not take from known liquidity. -/
abbrev Spares (isBuy : Bool) (price quantity : UInt32) : Prop :=
  (book.cell isBuy price).Spares quantity

/-- An order that enters, in place of the order that is live under its id, keeps the levels. -/
def EnterKeeps (orderId : UInt64) (isBuy : Bool) (price quantity : UInt32) : Prop :=
  match book.orders[orderId]? with
  | none => (book.cell isBuy price).Fits quantity
  | some order =>
      (book.cell order.isBuy order.price).Uncut order.quantity true ∧
        ((book.dropKnown orderId order).cell isBuy price).Fits quantity

def LegKeeps (orderId : UInt64) (isBuy : Bool) (price quantity : UInt32) : Prop :=
  match book.orders[orderId]? with
  | none => book.Spares isBuy price quantity
  | some order =>
      if takesAll order quantity then
        (book.cell order.isBuy order.price).Uncut order.quantity true
      else (book.cell order.isBuy order.price).Uncut quantity false

/-- A message keeps all live quantity on the levels. -/
def Keeps : BookMessage → Prop
  | .new orderId isBuy price quantity => book.EnterKeeps orderId isBuy price quantity
  | .modify orderId isBuy price quantity => book.EnterKeeps orderId isBuy price quantity
  | .cancel orderId isBuy price quantity => book.LegKeeps orderId isBuy price quantity
  | .trade buyOrderId sellOrderId price quantity =>
      book.LegKeeps buyOrderId true price quantity ∧
        (book.leg buyOrderId true price quantity).LegKeeps sellOrderId false price quantity

instance (orderId : UInt64) (isBuy : Bool) (price quantity : UInt32) :
    Decidable (book.EnterKeeps orderId isBuy price quantity) := by
  unfold EnterKeeps; split <;> infer_instance

instance (orderId : UInt64) (isBuy : Bool) (price quantity : UInt32) :
    Decidable (book.LegKeeps orderId isBuy price quantity) := by
  unfold LegKeeps; split <;> infer_instance

instance : DecidablePred book.Keeps
  | .new orderId isBuy price quantity =>
      inferInstanceAs (Decidable (book.EnterKeeps orderId isBuy price quantity))
  | .modify orderId isBuy price quantity =>
      inferInstanceAs (Decidable (book.EnterKeeps orderId isBuy price quantity))
  | .cancel orderId isBuy price quantity =>
      inferInstanceAs (Decidable (book.LegKeeps orderId isBuy price quantity))
  | .trade buyOrderId sellOrderId price quantity =>
      inferInstanceAs (Decidable (book.LegKeeps buyOrderId true price quantity ∧
        (book.leg buyOrderId true price quantity).LegKeeps sellOrderId false price quantity))

variable {book} {orderId : UInt64} {order : MarketOrderState}

/-! ### Levels never show more than is live -/

/-- A property of cells holds everywhere after a change of one cell. -/
theorem forall_cell {book' : ExternalBook} {P : Cell → Prop} {isBuy : Bool} {price : UInt32} {c : Cell}
    (hcell : ∀ isBuy' price', book'.cell isBuy' price' =
      if isBuy' = isBuy ∧ price' = price then c else book.cell isBuy' price')
    (hP : ∀ isBuy' price', P (book.cell isBuy' price')) (hc : P c) (isBuy' : Bool)
    (price' : UInt32) : P (book'.cell isBuy' price') := by
  rw [hcell]
  split
  · exact hc
  · exact hP isBuy' price'

theorem Backed.insertNew (hb : book.Backed) (hnew : book.orders[orderId]? = none) (isBuy : Bool)
    (price quantity : UInt32) : (book.insertNew orderId isBuy price quantity).Backed :=
  forall_cell (insertNew_cell hnew isBuy price quantity) hb (hb isBuy price).enter

theorem Backed.dropKnown (hb : book.Backed) (hold : book.orders[orderId]? = some order) :
    (book.dropKnown orderId order).Backed :=
  forall_cell (dropKnown_cell hold) hb ((hb order.isBuy order.price).taken (Nat.le_refl _) _)

theorem Backed.leg (hb : book.Backed) (isBuy : Bool) (price quantity : UInt32) :
    (book.leg orderId isBuy price quantity).Backed := by
  cases hold : book.orders[orderId]? with
  | none =>
      rw [leg_unknown hold]
      exact forall_cell (anonymous_cell isBuy price quantity) hb
        ((hb isBuy price).taken (Nat.sub_le _ _) _)
  | some order =>
      by_cases hall : takesAll order quantity
      · rw [leg_all hold hall]
        exact hb.dropKnown hold
      · rw [leg_part hold hall]
        exact forall_cell (reduceKnown_cell hold (lt_of_not_takesAll hall).2) hb
          ((hb order.isBuy order.price).taken (Nat.le_refl _) _)

theorem Backed.onModify (hb : book.Backed) (isBuy : Bool) (price quantity : UInt32) :
    (book.onModify orderId isBuy price quantity).Backed := by
  cases hold : book.orders[orderId]? with
  | none =>
      simp only [ExternalBook.onModify, hold]
      exact hb.insertNew hold isBuy price quantity
  | some order =>
      rw [onModify_known hold]
      exact (hb.dropKnown hold).insertNew dropKnown_unknown isBuy price quantity

theorem Backed.on (hb : book.Backed) (m : BookMessage) : (book.on m).Backed := by
  cases m with
  | new orderId isBuy price quantity =>
      rw [ExternalBook.on, onNew_eq_onModify]
      exact hb.onModify isBuy price quantity
  | modify orderId isBuy price quantity => exact hb.onModify isBuy price quantity
  | cancel orderId isBuy price quantity => exact hb.leg isBuy price quantity
  | trade buyOrderId sellOrderId price quantity =>
      rw [ExternalBook.on, onTrade_eq_legs]
      exact (hb.leg true price quantity).leg false price quantity

/-! ### All live quantity on the levels -/

theorem Covered.insertNew (hc : book.Covered) (hb : book.Backed)
    (hnew : book.orders[orderId]? = none) {isBuy : Bool} {price quantity : UInt32}
    (hfits : (book.cell isBuy price).Fits quantity) :
    (book.insertNew orderId isBuy price quantity).Covered :=
  forall_cell (insertNew_cell hnew isBuy price quantity) hc
    ((Cell.covered_enter_iff (hb isBuy price)).mpr ⟨hc isBuy price, hfits⟩)

theorem Covered.dropKnown (hc : book.Covered) (hb : book.Backed)
    (hold : book.orders[orderId]? = some order)
    (hcut : (book.cell order.isBuy order.price).Uncut order.quantity true) :
    (book.dropKnown orderId order).Covered :=
  forall_cell (dropKnown_cell hold) hc
    ((Cell.covered_taken_iff (hb order.isBuy order.price) (hc order.isBuy order.price) _).mpr hcut)

/-- A message about an unknown order leaves all live quantity on the levels exactly when it was there
and the message finds none of it. -/
theorem covered_leg_unknown_iff (hb : book.Backed) (hnone : book.orders[orderId]? = none)
    (isBuy : Bool) (price quantity : UInt32) :
    (book.leg orderId isBuy price quantity).Covered ↔
      book.Covered ∧ book.Spares isBuy price quantity := by
  have hcell := book.anonymous_cell isBuy price quantity
  have hat : ((book.cell isBuy price).anonymous quantity).Covered ↔
      (book.cell isBuy price).Covered ∧ (book.cell isBuy price).Spares quantity :=
    Cell.covered_anonymous_iff (hb isBuy price)
  rw [leg_unknown hnone]
  refine ⟨fun h => ?_, fun ⟨hc, hs⟩ => ?_⟩
  · have hhere := h isBuy price
    rw [hcell, if_pos ⟨rfl, rfl⟩] at hhere
    refine ⟨fun isBuy' price' => ?_, (hat.mp hhere).2⟩
    by_cases hsame : isBuy' = isBuy ∧ price' = price
    · obtain ⟨rfl, rfl⟩ := hsame
      exact (hat.mp hhere).1
    · have hthere := h isBuy' price'
      rwa [hcell, if_neg hsame] at hthere
  · exact forall_cell hcell hc (hat.mpr ⟨hc isBuy price, hs⟩)

theorem Covered.leg (hc : book.Covered) (hb : book.Backed) {isBuy : Bool} {price quantity : UInt32}
    (hk : book.LegKeeps orderId isBuy price quantity) :
    (book.leg orderId isBuy price quantity).Covered := by
  cases hold : book.orders[orderId]? with
  | none =>
      simp only [LegKeeps, hold] at hk
      exact (covered_leg_unknown_iff hb hold isBuy price quantity).mpr ⟨hc, hk⟩
  | some order =>
      simp only [LegKeeps, hold] at hk
      by_cases hall : takesAll order quantity
      · rw [leg_all hold hall]
        rw [if_pos hall] at hk
        exact hc.dropKnown hb hold hk
      · rw [leg_part hold hall]
        rw [if_neg hall] at hk
        exact forall_cell (reduceKnown_cell hold (lt_of_not_takesAll hall).2) hc
          ((Cell.covered_taken_iff (hb order.isBuy order.price) (hc order.isBuy order.price) _).mpr hk)

theorem Covered.onModify (hc : book.Covered) (hb : book.Backed) {isBuy : Bool}
    {price quantity : UInt32} (hk : book.EnterKeeps orderId isBuy price quantity) :
    (book.onModify orderId isBuy price quantity).Covered := by
  cases hold : book.orders[orderId]? with
  | none =>
      simp only [EnterKeeps, hold] at hk
      simp only [ExternalBook.onModify, hold]
      exact hc.insertNew hb hold hk
  | some order =>
      simp only [EnterKeeps, hold] at hk
      rw [onModify_known hold]
      exact (hc.dropKnown hb hold hk.1).insertNew (hb.dropKnown hold) dropKnown_unknown hk.2

theorem Covered.on (hc : book.Covered) (hb : book.Backed) {m : BookMessage} (hk : book.Keeps m) :
    (book.on m).Covered := by
  cases m with
  | new orderId isBuy price quantity =>
      rw [ExternalBook.on, onNew_eq_onModify]
      exact hc.onModify hb hk
  | modify orderId isBuy price quantity => exact hc.onModify hb hk
  | cancel orderId isBuy price quantity => exact hc.leg hb hk
  | trade buyOrderId sellOrderId price quantity =>
      rw [ExternalBook.on, onTrade_eq_legs]
      exact (hc.leg hb hk.1).leg (hb.leg true price quantity) hk.2

end ExternalBook

/-! ## Runs -/

abbrev KeepsLevels (_ : List BookMessage) (book : ExternalBook) (m : BookMessage) : Prop :=
  book.Keeps m

section Runs

variable {h : List BookMessage} {book : ExternalBook}

theorem BookRun.backed {ok : List BookMessage → ExternalBook → BookMessage → Prop}
    (r : BookRun ok h book) : book.Backed := by
  refine r.invariant (P := fun _ book => book.Backed) ?_ fun _ _ m _ hb _ => hb.on m
  intro isBuy price
  rw [ExternalBook.empty_cell]
  exact Nat.le_refl 0

theorem BookRun.covered (r : BookRun KeepsLevels h book) : book.Covered := by
  refine r.invariant (P := fun _ book => book.Covered) ?_ fun _ _ m r hc hk => hc.on (BookRun.backed r) hk
  intro isBuy price
  rw [ExternalBook.empty_cell]
  exact Nat.le_refl 0

/-- In every run whose messages keep the levels, all live quantity is on them; and after any run a
cancel, or the leg of a trade, that names an unknown order leaves it there exactly when it was there and
none of it rests at the price of the message, or the message takes nothing. -/
theorem unknown_orders_spare_known_liquidity (r : BookRun Lib.anyCall h book) :
    (BookRun KeepsLevels h book → book.Covered) ∧
      (∀ orderId isBuy price quantity, book.orders[orderId]? = none →
        ((book.onCancel orderId isBuy price quantity).Covered ↔
          book.Covered ∧ book.Spares isBuy price quantity)) ∧
      ∀ buyOrderId sellOrderId price quantity,
        let bought := book.leg buyOrderId true price quantity
        (book.orders[buyOrderId]? = none →
            (bought.Covered ↔ book.Covered ∧ book.Spares true price quantity)) ∧
          (bought.orders[sellOrderId]? = none →
            ((book.onTrade buyOrderId sellOrderId price quantity).Covered ↔
              bought.Covered ∧ bought.Spares false price quantity)) := by
  have hb := BookRun.backed r
  refine ⟨BookRun.covered, ?_, ?_⟩
  · intro orderId isBuy price quantity hnone
    rw [ExternalBook.onCancel_eq_leg]
    exact ExternalBook.covered_leg_unknown_iff hb hnone isBuy price quantity
  · intro buyOrderId sellOrderId price quantity bought
    refine ⟨fun hnone => ?_, fun hnone => ?_⟩
    · exact ExternalBook.covered_leg_unknown_iff hb hnone true price quantity
    · rw [ExternalBook.onTrade_eq_legs]
      exact ExternalBook.covered_leg_unknown_iff (hb.leg true price quantity) hnone false price quantity

end Runs

/-- An offer, and the cancel of an order that was never seen at another price. -/
theorem unknown_orders_spare_known_liquidity_elsewhere :
    ((Lib.exec bookFeed {} [.new 1 false 999 10]).2.onCancel 2 false 998 5).Covered := by
  have hkeeps : Lib.Meets bookFeed KeepsLevels [] {} [.new 1 false 999 10] := by decide +kernel
  have hspare := unknown_orders_spare_known_liquidity
    (Lib.run_exec bookFeed {} [.new 1 false 999 10])
  exact (hspare.2.1 2 false 998 5 (by decide +kernel)).mpr
    ⟨hspare.1 (Lib.run_exec_of_meets hkeeps), by decide +kernel⟩

/-- The cancel of an order that was never seen takes a half of the offer at its price. -/
theorem unknown_cancel_takes_known_liquidity :
    ¬∀ ms orderId isBuy price quantity,
      (Lib.exec bookFeed {} ms).2.orders[orderId]? = none →
        let book := (Lib.exec bookFeed {} ms).2.onCancel orderId isBuy price quantity
        ∀ isBuy' price' l, book.level isBuy' price' = some l →
          volumeOf (LiveOrders.restingAt book.orders isBuy' price') ≤ l.quantity.toNat := by
  intro hclaim
  have hcancel := hclaim [.new 1 false 999 10] 2 false 999 5 (by decide +kernel) false 999
    { quantity := 5, orderCount := 1 } (by decide +kernel)
  revert hcancel
  decide +kernel

end NseFoExchangeSim.Engine
