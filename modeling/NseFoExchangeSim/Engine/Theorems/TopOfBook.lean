import Mathlib.Order.WellFounded
import NseFoExchangeSim.Engine.Theorems.BookRefinement
import NseFoExchangeSim.Engine.Theorems.KnownLiquidity

/-!
# The top of a book

`bestBid` and `bestAsk` report the first level of a side with its quantity narrowed to 32 bits. While all
live quantity is on the levels the report is true exactly when no empty level stands in front and the
narrowing loses nothing.
-/

namespace NseFoExchangeSim.Engine

open Std

/-! ## The first level -/

section BestLevel

variable {cmp : UInt32 → UInt32 → Ordering} [TransCmp cmp] [LawfulEqCmp cmp] {side : Levels cmp}

theorem bestLevel_eq_some {p q : UInt32} :
    bestLevel side = some (p, q) ↔
      ∃ l, side[p]? = some l ∧ l.quantity.toUInt32 = q ∧
        ∀ (p' : UInt32) l', side[p']? = some l' → cmp p' p ≠ .lt := by
  have hsorted := ExtTreeMap.ordered_keys_toList (t := side)
  have hmem : ∀ (p' : UInt32) l', side[p']? = some l' ↔ (p', l') ∈ side.toList :=
    fun p' l' => ExtTreeMap.mem_toList_iff_getElem?_eq_some.symm
  simp only [bestLevel, hmem, Option.map_eq_some_iff, Prod.mk.injEq]
  cases hlist : side.toList with
  | nil => simp
  | cons e rest =>
      rw [hlist, List.pairwise_cons] at hsorted
      obtain ⟨hfirst, -⟩ := hsorted
      refine ⟨?_, ?_⟩
      · rintro ⟨e', he', rfl, rfl⟩
        cases he'
        refine ⟨e.2, List.mem_cons_self, rfl, fun p' l' hp' hlt => ?_⟩
        rcases List.mem_cons.mp hp' with rfl | hrest
        · simp [ReflCmp.compare_self] at hlt
        · exact OrientedCmp.not_lt_of_lt (hfirst _ hrest) hlt
      · rintro ⟨l, hp, hq, hmin⟩
        rcases List.mem_cons.mp hp with rfl | hrest
        · exact ⟨_, rfl, rfl, hq⟩
        · exact absurd (hfirst _ hrest) (hmin e.1 e.2 List.mem_cons_self)

end BestLevel

namespace BookSide

def isBuy : BookSide → Bool
  | .bid => true
  | .ask => false

/-- A price is better than another one on the side. -/
def Before : BookSide → UInt32 → UInt32 → Prop
  | .bid, p, p' => p' < p
  | .ask, p, p' => p < p'

instance (side : BookSide) (p p' : UInt32) : Decidable (side.Before p p') := by
  cases side <;> unfold Before <;> infer_instance

/-- The distance of a price from the best price there can be. -/
def rank : BookSide → UInt32 → Nat
  | .bid, p => 2 ^ 32 - p.toNat
  | .ask, p => p.toNat

variable {side : BookSide} {p p' : UInt32}

theorem before_iff_rank : side.Before p p' ↔ side.rank p < side.rank p' := by
  have hp := p.toNat_lt
  have hp' := p'.toNat_lt
  cases side with
  | bid =>
      rw [Before, UInt32.lt_iff_toNat_lt, rank, rank]
      omega
  | ask => rw [Before, UInt32.lt_iff_toNat_lt, rank, rank]

theorem rank_inj : side.rank p = side.rank p' ↔ p = p' := by
  have hp := p.toNat_lt
  have hp' := p'.toNat_lt
  cases side with
  | bid =>
      rw [rank, rank, ← UInt32.toNat_inj]
      omega
  | ask => rw [rank, rank, UInt32.toNat_inj]

end BookSide

namespace ExternalBook

variable {book : ExternalBook} {side : BookSide}

theorem best_eq_some {p q : UInt32} :
    book.best side = some (p, q) ↔
      ∃ l, book.level side.isBuy p = some l ∧ l.quantity.toUInt32 = q ∧
        ∀ p' l', book.level side.isBuy p' = some l' → ¬side.Before p' p := by
  cases side with
  | bid =>
      apply bestLevel_eq_some.trans
      simp only [greater, ne_eq, compare_eq_lt]
      rfl
  | ask =>
      apply bestLevel_eq_some.trans
      simp only [ne_eq, compare_eq_lt]
      rfl

end ExternalBook

/-! ## The true top -/

theorem volumeOf_pos_iff {os : List MarketOrderState} :
    0 < volumeOf os ↔ ∃ o ∈ os, 0 < o.quantity := by
  have hnat : ∀ o : MarketOrderState, 0 < o.quantity ↔ 0 < o.quantity.toNat :=
    fun o => UInt32.lt_iff_toNat_lt
  induction os with
  | nil => simp [volumeOf]
  | cons o os ih =>
      simp only [volumeOf_cons, List.exists_mem_cons_iff, ← ih, hnat o]
      omega

/-- A live order of the side that has a quantity. -/
def LiveOrders.Offers (orders : LiveOrders) (side : BookSide) (o : MarketOrderState) : Prop :=
  (∃ k : UInt64, orders[k]? = some o) ∧ o.isBuy = side.isBuy ∧ 0 < o.quantity

namespace ExternalBook

variable (book : ExternalBook) (side : BookSide)

/-- The total quantity of the live orders at a price of the side. -/
def total (p : UInt32) : Nat := volumeOf (LiveOrders.restingAt book.orders side.isBuy p)

/-- What the matching code asks of the top: there is one, and its quantity is not zero. -/
def Reports : Prop := ∃ p q, book.best side = some (p, q) ∧ 0 < q

structure TopIsTrue : Prop where
  reports : book.Reports side ↔ ∃ o, LiveOrders.Offers book.orders side o
  price : ∀ p q, book.best side = some (p, q) → 0 < q →
    (∃ o, LiveOrders.Offers book.orders side o ∧ o.price = p) ∧
      ∀ o, LiveOrders.Offers book.orders side o → ¬side.Before o.price p
  quantity : ∀ p q, book.best side = some (p, q) → 0 < q →
    q.toNat = min (book.total side p) (2 ^ 32 - 1)

/-- No level of quantity zero stands in front of all live quantity. -/
def ClearFront : Prop :=
  ∀ p l, book.level side.isBuy p = some l → l.quantity = 0 →
    ∀ o, LiveOrders.Offers book.orders side o →
      ∃ o', LiveOrders.Offers book.orders side o' ∧ ¬side.Before p o'.price

/-- The total at the best price of the live orders survives the narrowing, or its low bits are the
largest quantity. -/
def TotalFits : Prop :=
  ∀ o, LiveOrders.Offers book.orders side o →
    (∀ o', LiveOrders.Offers book.orders side o' → ¬side.Before o'.price o.price) →
    book.total side o.price < 2 ^ 32 ∨ book.total side o.price % 2 ^ 32 = 2 ^ 32 - 1

variable {book side}

theorem total_pos_iff {p : UInt32} :
    0 < book.total side p ↔ ∃ o, LiveOrders.Offers book.orders side o ∧ o.price = p := by
  rw [total, volumeOf_pos_iff]
  refine ⟨?_, ?_⟩
  · rintro ⟨o, ho, hpos⟩
    obtain ⟨hlive, hside, hprice⟩ := mem_restingAt.mp ho
    exact ⟨o, ⟨hlive, hside, hpos⟩, hprice⟩
  · rintro ⟨o, ⟨hlive, hside, hpos⟩, hprice⟩
    exact ⟨o, mem_restingAt.mpr ⟨hlive, hside, hprice⟩, hpos⟩

/-- Among the live orders with a quantity there is one at the best price. -/
theorem exists_best_offer (hoffer : ∃ o, LiveOrders.Offers book.orders side o) :
    ∃ o, LiveOrders.Offers book.orders side o ∧
      ∀ o', LiveOrders.Offers book.orders side o' → ¬side.Before o'.price o.price := by
  obtain ⟨o, ho, hmin⟩ := WellFounded.has_min
    (InvImage.wf (fun o : MarketOrderState => side.rank o.price) Nat.lt_wfRel.wf)
    {o | LiveOrders.Offers book.orders side o} hoffer
  exact ⟨o, ho, fun o' ho' hlt => hmin o' ho' (BookSide.before_iff_rank.mp hlt)⟩

theorem quantity_eq_total (hb : book.Backed) (hc : book.Covered) {p : UInt32} {l : PriceLevelState}
    (hl : book.level side.isBuy p = some l) : l.quantity.toNat = book.total side p := by
  have hon : (book.cell side.isBuy p).onLevel = l.quantity.toNat := by
    simp only [Cell.onLevel, cell, hl, Option.elim_some]
  rw [← hon]
  exact Nat.le_antisymm (hb side.isBuy p) (hc side.isBuy p)

theorem level_of_total_pos (hc : book.Covered) {p : UInt32} (hpos : 0 < book.total side p) :
    ∃ l, book.level side.isBuy p = some l := by
  have hle : book.total side p ≤ (book.cell side.isBuy p).onLevel := hc side.isBuy p
  cases hlevel : book.level side.isBuy p with
  | none => simp [Cell.onLevel, cell, hlevel] at hle; omega
  | some l => exact ⟨l, rfl⟩

/-- Behind a clear front the first level stands at the best price of the live orders. -/
theorem best_of_clear (hb : book.Backed) (hc : book.Covered) (hfront : book.ClearFront side)
    {o : MarketOrderState} (ho : LiveOrders.Offers book.orders side o)
    (hbest : ∀ o', LiveOrders.Offers book.orders side o' → ¬side.Before o'.price o.price) :
    ∃ l : PriceLevelState, book.best side = some (o.price, l.quantity.toUInt32) ∧
      l.quantity.toNat = book.total side o.price := by
  obtain ⟨l, hl⟩ := level_of_total_pos hc (total_pos_iff.mpr ⟨o, ho, rfl⟩)
  refine ⟨l, best_eq_some.mpr ⟨l, hl, rfl, fun p' l' hl' hbefore => ?_⟩,
    quantity_eq_total hb hc hl⟩
  have hq := quantity_eq_total hb hc hl'
  by_cases hzero : l'.quantity = 0
  · obtain ⟨o', ho', hnot⟩ := hfront p' l' hl' hzero o ho
    have hrank := hbest o' ho'
    rw [BookSide.before_iff_rank] at hbefore hnot hrank
    omega
  · have hpos : 0 < book.total side p' := by
      rw [← hq]
      exact Nat.pos_of_ne_zero fun h0 => hzero (UInt64.toNat_inj.mp h0)
    obtain ⟨o', ho', rfl⟩ := total_pos_iff.mp hpos
    exact hbest o' ho' hbefore

/-- The narrowing of a total to 32 bits. -/
theorem narrowed_eq_min_iff (total : Nat) :
    total % 2 ^ 32 = min total (2 ^ 32 - 1) ↔
      total < 2 ^ 32 ∨ total % 2 ^ 32 = 2 ^ 32 - 1 := by omega

theorem TopIsTrue.clearFront (ht : book.TopIsTrue side) : book.ClearFront side := by
  intro p l hl _ o ho
  obtain ⟨p₀, q₀, hbest, hpos⟩ := ht.reports.mpr ⟨o, ho⟩
  obtain ⟨⟨o₀, ho₀, rfl⟩, -⟩ := ht.price p₀ q₀ hbest hpos
  obtain ⟨-, -, -, hfirst⟩ := best_eq_some.mp hbest
  exact ⟨o₀, ho₀, hfirst p l hl⟩

theorem TopIsTrue.totalFits (hb : book.Backed) (hc : book.Covered) (ht : book.TopIsTrue side) :
    book.TotalFits side := by
  intro o ho hmin
  obtain ⟨p₀, q₀, hbest, hpos⟩ := ht.reports.mpr ⟨o, ho⟩
  obtain ⟨⟨o₀, ho₀, rfl⟩, hprice⟩ := ht.price p₀ q₀ hbest hpos
  have hsame : o₀.price = o.price := by
    have h₀ := hmin o₀ ho₀
    have h := hprice o ho
    rw [BookSide.before_iff_rank] at h₀ h
    exact BookSide.rank_inj.mp (Nat.le_antisymm (Nat.le_of_not_lt h) (Nat.le_of_not_lt h₀))
  have hquantity := ht.quantity o₀.price q₀ hbest hpos
  obtain ⟨l, hl, rfl, -⟩ := best_eq_some.mp hbest
  rw [UInt64.toNat_toUInt32, quantity_eq_total hb hc hl, narrowed_eq_min_iff, hsame] at hquantity
  exact hquantity

theorem topIsTrue_of_offers (hb : book.Backed) (hc : book.Covered) (hfront : book.ClearFront side)
    (hfits : book.TotalFits side) (hoffer : ∃ o, LiveOrders.Offers book.orders side o) :
    book.TopIsTrue side := by
  obtain ⟨o, ho, hmin⟩ := exists_best_offer hoffer
  obtain ⟨l, hbest, hl⟩ := best_of_clear hb hc hfront ho hmin
  have hquantity : l.quantity.toUInt32.toNat = min (book.total side o.price) (2 ^ 32 - 1) := by
    rw [UInt64.toNat_toUInt32, hl]
    exact (narrowed_eq_min_iff _).mpr (hfits o ho hmin)
  have hpos : 0 < l.quantity.toUInt32 := by
    rw [UInt32.lt_iff_toNat_lt, hquantity]
    exact Nat.lt_min.mpr ⟨total_pos_iff.mpr ⟨o, ho, rfl⟩, by decide⟩
  have heq : ∀ p q, book.best side = some (p, q) → p = o.price ∧ q = l.quantity.toUInt32 := by
    intro p q hpq
    rw [hbest] at hpq
    cases hpq
    exact ⟨rfl, rfl⟩
  refine ⟨⟨fun _ => hoffer, fun _ => ⟨_, _, hbest, hpos⟩⟩, fun p q hpq _ => ?_,
    fun p q hpq _ => ?_⟩
  · obtain ⟨rfl, -⟩ := heq p q hpq
    exact ⟨⟨o, ho, rfl⟩, hmin⟩
  · obtain ⟨rfl, rfl⟩ := heq p q hpq
    exact hquantity

theorem topIsTrue_of_no_offers (hb : book.Backed) (hc : book.Covered)
    (hoffer : ¬∃ o, LiveOrders.Offers book.orders side o) : book.TopIsTrue side := by
  have hnone : ∀ p q, book.best side = some (p, q) → ¬0 < q := by
    intro p q hpq hpos
    obtain ⟨l, hl, rfl, -⟩ := best_eq_some.mp hpq
    rw [UInt32.lt_iff_toNat_lt, UInt64.toNat_toUInt32, quantity_eq_total hb hc hl] at hpos
    have htotal : 0 < book.total side p := Nat.lt_of_lt_of_le hpos (Nat.mod_le _ _)
    obtain ⟨o, ho, -⟩ := total_pos_iff.mp htotal
    exact hoffer ⟨o, ho⟩
  refine ⟨⟨?_, fun h => absurd h hoffer⟩, fun p q hpq hpos => absurd hpos (hnone p q hpq),
    fun p q hpq hpos => absurd hpos (hnone p q hpq)⟩
  rintro ⟨p, q, hpq, hpos⟩
  exact absurd hpos (hnone p q hpq)

/-- A top of quantity zero in front of live quantity is not the true one. -/
theorem not_topIsTrue_of_empty {p : UInt32} {o : MarketOrderState}
    (hbest : book.best side = some (p, 0)) (ho : LiveOrders.Offers book.orders side o) :
    ¬book.TopIsTrue side := by
  intro ht
  obtain ⟨p', q, hbest', hpos⟩ := ht.reports.mpr ⟨o, ho⟩
  rw [hbest] at hbest'
  cases hbest'
  exact absurd hpos (by decide)

end ExternalBook

/-- In every run whose messages keep all live quantity on the levels, the top of a side is the true top
exactly when the front is clear and the total fits. -/
theorem top_of_book_true_iff {h : List BookMessage} {book : ExternalBook}
    (r : BookRun KeepsLevels h book) (side : BookSide) :
    book.TopIsTrue side ↔ book.ClearFront side ∧ book.TotalFits side := by
  have hb := BookRun.backed r
  have hc := BookRun.covered r
  refine ⟨fun ht => ⟨ht.clearFront, ht.totalFits hb hc⟩, fun ⟨hfront, hfits⟩ => ?_⟩
  by_cases hoffer : ∃ o, LiveOrders.Offers book.orders side o
  · exact ExternalBook.topIsTrue_of_offers hb hc hfront hfits hoffer
  · exact ExternalBook.topIsTrue_of_no_offers hb hc hoffer

theorem top_of_book_true_iff_offered :
    (Lib.exec bookFeed {} [.new 1 false 1000 10, .new 2 false 999 5]).2.TopIsTrue .ask ↔
      (Lib.exec bookFeed {} [.new 1 false 1000 10, .new 2 false 999 5]).2.ClearFront .ask ∧
        (Lib.exec bookFeed {} [.new 1 false 1000 10, .new 2 false 999 5]).2.TotalFits .ask := by
  have hkeeps : Lib.Meets bookFeed KeepsLevels [] {}
      [.new 1 false 1000 10, .new 2 false 999 5] := by decide +kernel
  exact top_of_book_true_iff (Lib.run_exec_of_meets hkeeps) .ask

/-- An offer of quantity zero hides the offer behind it, and two offers that come to `2 ^ 32` hide each
other. -/
theorem top_of_book_untrue :
    ¬(Lib.exec bookFeed {} [.new 1 false 999 0, .new 2 false 1000 10]).2.TopIsTrue .ask ∧
      ¬(Lib.exec bookFeed {} [.new 1 false 999 4294967295, .new 2 false 999 1]).2.TopIsTrue .ask := by
  refine ⟨?_, ?_⟩
  · exact ExternalBook.not_topIsTrue_of_empty (p := 999) (o := ⟨false, 1000, 10⟩)
      (by decide +kernel) ⟨⟨2, by decide +kernel⟩, rfl, by decide⟩
  · exact ExternalBook.not_topIsTrue_of_empty (p := 999) (o := ⟨false, 999, 1⟩)
      (by decide +kernel) ⟨⟨2, by decide +kernel⟩, rfl, by decide⟩

/-! ## Runs that name their orders -/

namespace Cell

variable {c : Cell} {quantity : UInt32}

theorem Exact.lasts (h : c.Exact) (hc : 1 ≤ c.count) : c.Lasts false := by
  intro l hl h0
  have horders := h.orderCount l hl
  rw [show l.orderCount = 0 from h0] at horders
  rw [← horders] at hc
  exact absurd hc (by decide)

theorem Exact.uncut (h : c.Exact) (hc : 1 ≤ c.count) (hs : (c.drop quantity).Sane) :
    c.Uncut quantity true := by
  have hhigh := hs.high
  simp only [Cell.drop] at hhigh
  by_cases hlast : c.count = 1
  · refine .inl ?_
    rw [hlast] at hhigh
    omega
  · refine .inr fun l hl h0 => ?_
    have horders := h.orderCount l hl
    have hpos : l.orderCount > 0 := by
      rw [gt_iff_lt, UInt32.lt_iff_toNat_lt, horders]
      exact hc
    simp only [PriceLevelState.countAfter, hpos, decide_true, Bool.and_self, if_true] at h0
    have hone : l.orderCount.toNat = 1 := by rw [sub_eq_zero.mp h0]; rfl
    omega

end Cell

namespace ExternalBook

variable {book : ExternalBook} {orderId : UInt64}

theorem Faithful.fits (hf : book.Faithful) (hnew : book.orders[orderId]? = none) {isBuy : Bool}
    {price quantity : UInt32} (hpos : 0 < quantity)
    (hsize : (book.insertNew orderId isBuy price quantity).orders.size < 2 ^ 32) :
    (book.cell isBuy price).Fits quantity := by
  have hpositive : LiveOrders.Positive (book.insertNew orderId isBuy price quantity).orders := by
    rw [insertNew_orders]
    exact hf.positive.insert hpos
  have hsane := cell_sane hpositive hsize isBuy price
  rw [insertNew_cell hnew, if_pos ⟨rfl, rfl⟩] at hsane
  exact hsane.volume_lt

theorem Faithful.uncut (hf : book.Faithful) {order : MarketOrderState}
    (hold : book.orders[orderId]? = some order) (hsize : book.orders.size < 2 ^ 32) :
    (book.cell order.isBuy order.price).Uncut order.quantity true := by
  have hfd := hf.dropKnown hold hsize
  have hsize' : (book.dropKnown orderId order).orders.size < 2 ^ 32 :=
    Nat.lt_of_le_of_lt ExtTreeMap.size_erase_le hsize
  have hsane := cell_sane hfd.positive hsize' order.isBuy order.price
  rw [dropKnown_cell hold, if_pos ⟨rfl, rfl⟩] at hsane
  exact (hf.exact order.isBuy order.price).uncut (known_cell hold).2 hsane

theorem Faithful.enterKeeps (hf : book.Faithful) {isBuy : Bool} {price quantity : UInt32}
    (hpos : 0 < quantity) (hsize : book.orders.size < 2 ^ 32)
    (hsize' : (book.onModify orderId isBuy price quantity).orders.size < 2 ^ 32) :
    book.EnterKeeps orderId isBuy price quantity := by
  cases hold : book.orders[orderId]? with
  | none =>
      simp only [EnterKeeps, ExternalBook.onModify, hold] at hsize' ⊢
      exact hf.fits hold hpos hsize'
  | some order =>
      rw [onModify_known hold] at hsize'
      simp only [EnterKeeps, hold]
      exact ⟨hf.uncut hold hsize, (hf.dropKnown hold hsize).fits dropKnown_unknown hpos hsize'⟩

theorem Faithful.legKeeps (hf : book.Faithful) (hmem : orderId ∈ book.orders)
    (hsize : book.orders.size < 2 ^ 32) (isBuy : Bool) (price quantity : UInt32) :
    book.LegKeeps orderId isBuy price quantity := by
  obtain ⟨order, hold⟩ := Option.isSome_iff_exists.mp (ExtTreeMap.mem_iff_isSome_getElem?.mp hmem)
  simp only [LegKeeps, hold]
  split
  · exact hf.uncut hold hsize
  · exact .inr ((hf.exact order.isBuy order.price).lasts (known_cell hold).2)

theorem Faithful.keeps (hf : book.Faithful) {m : BookMessage} (hn : LiveOrders.Names book.orders m)
    (hsize : book.orders.size < 2 ^ 32) (hsize' : (book.on m).orders.size < 2 ^ 32) :
    book.Keeps m := by
  cases m with
  | new orderId isBuy price quantity =>
      rw [ExternalBook.on, onNew_eq_onModify] at hsize'
      exact hf.enterKeeps hn hsize hsize'
  | modify orderId isBuy price quantity => exact hf.enterKeeps hn hsize hsize'
  | cancel orderId isBuy price quantity => exact hf.legKeeps hn hsize isBuy price quantity
  | trade buyOrderId sellOrderId price quantity =>
      obtain ⟨hne, hbuy, hsell⟩ := hn
      exact ⟨hf.legKeeps hbuy hsize true price quantity,
        (hf.leg hbuy hsize true price).legKeeps (mem_leg_orders hne hsell true price quantity)
          (leg_size_lt hsize) false price quantity⟩

theorem Faithful.clearFront (hf : book.Faithful) (side : BookSide) : book.ClearFront side := by
  intro p l hl hzero o _
  have he := hf.exact side.isBuy p
  have hvolume : book.total side p = 0 := by
    rw [← show l.quantity.toNat = book.total side p from he.quantity l hl, hzero]
    rfl
  have hcount : (LiveOrders.restingAt book.orders side.isBuy p).length ≠ 0 := by
    intro h0
    rw [show book.level side.isBuy p = none from he.occupied.mpr h0] at hl
    cases hl
  obtain ⟨o', ho'⟩ := List.exists_mem_of_length_pos (Nat.pos_of_ne_zero hcount)
  obtain ⟨⟨k, hk⟩, -⟩ := mem_restingAt.mp ho'
  have hpos := volumeOf_pos_iff.mpr ⟨o', ho', hf.positive k o' hk⟩
  rw [total] at hvolume
  omega

end ExternalBook

/-- A feed that names its orders keeps the levels and puts no empty level in front; all the true top
then needs is a total that fits. -/
theorem wellFed_keepsLevels {h : List BookMessage} {book : ExternalBook} (r : BookRun WellFed h book) :
    BookRun KeepsLevels h book ∧ ∀ side, book.ClearFront side := by
  refine ⟨?_, fun side => (BookRun.faithful r).1.clearFront side⟩
  refine r.invariant (P := fun h book => BookRun KeepsLevels h book) .nil ?_
  intro h book m r ih hw
  obtain ⟨hf, hsize⟩ := BookRun.faithful r
  obtain ⟨hn, hsize'⟩ := WellFed.names (BookRun.orders r) hw
  exact .snoc m ih (hf.keeps hn hsize hsize')

end NseFoExchangeSim.Engine
