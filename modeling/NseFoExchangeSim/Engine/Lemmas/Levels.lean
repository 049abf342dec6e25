import NseFoExchangeSim.Engine.BookRun

/-!
# A book seen from one side and price

At one price of a side a book is a small automaton: the level that stands there, if any, and the live
orders that rest there. A message enters an order, takes one off, takes a part of one off, or takes a
quantity off the level alone; every other side and price is left as it was.
-/

namespace NseFoExchangeSim.Engine

open Std

/-! ## Levels -/

/-- A level after an order of the quantity was added. -/
def grown (level : Option PriceLevelState) (quantity : UInt32) : PriceLevelState :=
  { quantity := (level.getD {}).quantity + quantity.toUInt64
    orderCount := (level.getD {}).orderCount + 1 }

def PriceLevelState.countAfter (level : PriceLevelState) (decrementOrderCount : Bool) : UInt32 :=
  if decrementOrderCount && decide (level.orderCount > 0) then level.orderCount - 1
  else level.orderCount

/-- A level after a quantity was taken off, or `none` when the level is dropped. -/
def PriceLevelState.taken (level : PriceLevelState) (quantity : UInt32) (decrementOrderCount : Bool) :
    Option PriceLevelState :=
  if level.quantity ≤ quantity.toUInt64 then none
  else
    let count := level.countAfter decrementOrderCount
    if count = 0 then none
    else some { quantity := level.quantity - quantity.toUInt64, orderCount := count }

section Levels

variable {cmp : UInt32 → UInt32 → Ordering} [TransCmp cmp] [LawfulEqCmp cmp]

theorem addLevel_getElem? (side : Levels cmp) (price quantity price' : UInt32) :
    (addLevel side price quantity)[price']? =
      if price' = price then some (grown side[price]? quantity) else side[price']? := by
  simp only [addLevel, ExtTreeMap.getElem?_insert, LawfulEqCmp.compare_eq_iff_eq, @eq_comm _ price',
    grown]

theorem removeLevel_getElem? (side : Levels cmp) (price quantity : UInt32)
    (decrementOrderCount : Bool) (price' : UInt32) :
    (removeLevel side price quantity decrementOrderCount)[price']? =
      if price' = price then side[price]?.bind (·.taken quantity decrementOrderCount)
      else side[price']? := by
  cases hlevel : side[price]? with
  | none =>
      simp only [removeLevel, hlevel, Option.bind_none]
      split
      · rename_i hp
        rw [hp, hlevel]
      · rfl
  | some level =>
      simp only [removeLevel, hlevel, Option.bind_some, PriceLevelState.taken]
      by_cases hle : level.quantity ≤ quantity.toUInt64
      · simp only [hle, if_true, ExtTreeMap.getElem?_erase, LawfulEqCmp.compare_eq_iff_eq,
          @eq_comm _ price]
      · have hrest : (level.quantity - quantity.toUInt64 == 0) = false := by
          refine beq_false_of_ne fun h0 => hle ?_
          rw [sub_eq_zero.mp h0]
          exact UInt64.le_refl _
        simp only [hle, if_false, hrest, Bool.false_or, beq_iff_eq]
        rw [← PriceLevelState.countAfter]
        split
        · simp only [ExtTreeMap.getElem?_erase, LawfulEqCmp.compare_eq_iff_eq, @eq_comm _ price]
        · simp only [ExtTreeMap.getElem?_insert, LawfulEqCmp.compare_eq_iff_eq, @eq_comm _ price]

end Levels

namespace ExternalBook

variable (book : ExternalBook) (isBuy isBuy' : Bool) (price quantity price' : UInt32)

theorem addSide_level :
    (book.addSide isBuy price quantity).level isBuy' price' =
      if isBuy' = isBuy ∧ price' = price then some (grown (book.level isBuy price) quantity)
      else book.level isBuy' price' := by
  cases isBuy <;> cases isBuy' <;> simp [addSide, level, addLevel_getElem?]

theorem removeSide_level (decrementOrderCount : Bool) :
    (book.removeSide isBuy price quantity decrementOrderCount).level isBuy' price' =
      if isBuy' = isBuy ∧ price' = price then
        (book.level isBuy price).bind (·.taken quantity decrementOrderCount)
      else book.level isBuy' price' := by
  cases isBuy <;> cases isBuy' <;> simp [removeSide, level, removeLevel_getElem?]

end ExternalBook

/-! ## The live orders at a price -/

section Resting

variable {orders : LiveOrders} {orderId : UInt64} {order : MarketOrderState} (isBuy : Bool)
  (price : UInt32)

/-- An order rests at one side and price. -/
def MarketOrderState.restsAt (order : MarketOrderState) (isBuy : Bool) (price : UInt32) : Bool :=
  order.isBuy == isBuy && order.price == price

theorem restsAt_iff {isBuy : Bool} {price : UInt32} :
    order.restsAt isBuy price = true ↔ isBuy = order.isBuy ∧ price = order.price := by
  rw [MarketOrderState.restsAt, Bool.and_eq_true, beq_iff_eq, beq_iff_eq, eq_comm,
    @eq_comm _ order.price]

theorem mem_restingAt {isBuy : Bool} {price : UInt32} :
    order ∈ orders.restingAt isBuy price ↔
      (∃ k : UInt64, orders[k]? = some order) ∧ order.isBuy = isBuy ∧ order.price = price := by
  rw [LiveOrders.restingAt, Lib.mem_valuesWith, Bool.and_eq_true, beq_iff_eq, beq_iff_eq]

theorem restingAt_insert (hnew : orders[orderId]? = none) (order : MarketOrderState) :
    (LiveOrders.restingAt (orders.insert orderId order) isBuy price).Perm
      (if order.restsAt isBuy price then order :: orders.restingAt isBuy price
      else orders.restingAt isBuy price) := Lib.valuesWith_insert hnew order

theorem restingAt_erase (hold : orders[orderId]? = some order) :
    (orders.restingAt isBuy price).Perm
      (if order.restsAt isBuy price then
        order :: LiveOrders.restingAt (orders.erase orderId) isBuy price
      else LiveOrders.restingAt (orders.erase orderId) isBuy price) := Lib.valuesWith_erase hold

theorem volumeOf_perm {os os' : List MarketOrderState} (h : os.Perm os') :
    volumeOf os = volumeOf os' := (h.map _).sum_nat

@[simp] theorem volumeOf_cons (os : List MarketOrderState) :
    volumeOf (order :: os) = order.quantity.toNat + volumeOf os := rfl

end Resting

/-! ## Cells -/

/-- What a book holds at one price of a side: the level, and the volume and the number of the live
orders. -/
@[ext] structure Cell where
  level : Option PriceLevelState
  volume : Nat
  count : Nat

namespace Cell

variable (c : Cell) (quantity : UInt32)

/-- The quantity of the level, zero when there is none. -/
def onLevel : Nat := c.level.elim 0 (·.quantity.toNat)

def enter : Cell := ⟨some (grown c.level quantity), c.volume + quantity.toNat, c.count + 1⟩

def drop : Cell :=
  ⟨c.level.bind (·.taken quantity true), c.volume - quantity.toNat, c.count - 1⟩

def reduce : Cell := ⟨c.level.bind (·.taken quantity false), c.volume - quantity.toNat, c.count⟩

def anonymous : Cell := { c with level := c.level.bind (·.taken quantity false) }

end Cell

namespace ExternalBook

def cell (book : ExternalBook) (isBuy : Bool) (price : UInt32) : Cell where
  level := book.level isBuy price
  volume := volumeOf (LiveOrders.restingAt book.orders isBuy price)
  count := (LiveOrders.restingAt book.orders isBuy price).length

/-- A known order is taken off the book. -/
def dropKnown (book : ExternalBook) (orderId : UInt64) (order : MarketOrderState) : ExternalBook :=
  { book.removeSide order.isBuy order.price order.quantity true with
    orders := book.orders.erase orderId }

/-- A part of a known order is taken off the book. -/
def reduceKnown (book : ExternalBook) (orderId : UInt64) (order : MarketOrderState)
    (quantity : UInt32) : ExternalBook :=
  { book.removeSide order.isBuy order.price quantity false with
    orders := book.orders.insert orderId { order with quantity := order.quantity - quantity } }

theorem empty_cell (isBuy : Bool) (price : UInt32) :
    ({} : ExternalBook).cell isBuy price = ⟨none, 0, 0⟩ := by
  cases isBuy <;> simp [cell, level, LiveOrders.restingAt, volumeOf]

section Cells

variable {book : ExternalBook} {orderId : UInt64} {order : MarketOrderState}

theorem insertNew_cell (hnew : book.orders[orderId]? = none) (isBuy : Bool) (price quantity : UInt32)
    (isBuy' : Bool) (price' : UInt32) :
    (book.insertNew orderId isBuy price quantity).cell isBuy' price' =
      if isBuy' = isBuy ∧ price' = price then (book.cell isBuy price).enter quantity
      else book.cell isBuy' price' := by
  have hlevel := book.addSide_level isBuy isBuy' price quantity price'
  have hperm := restingAt_insert isBuy' price' hnew { isBuy, price, quantity }
  have horders : (book.insertNew orderId isBuy price quantity).orders =
      book.orders.insert orderId { isBuy, price, quantity } := by simp [insertNew]
  split
  · rename_i hc
    rw [if_pos hc] at hlevel
    rw [if_pos (restsAt_iff.mpr hc)] at hperm
    obtain ⟨rfl, rfl⟩ := hc
    apply Cell.ext hlevel
    · simp only [cell, horders, volumeOf_perm hperm, volumeOf_cons, Cell.enter]
      omega
    · simp only [cell, horders, hperm.length_eq, List.length_cons, Cell.enter]
  · rename_i hc
    rw [if_neg hc] at hlevel
    rw [if_neg fun h => hc (restsAt_iff.mp h)] at hperm
    apply Cell.ext hlevel
    · simp only [cell, horders]
      exact volumeOf_perm hperm
    · simp only [cell, horders, hperm.length_eq]

theorem known_cell (hold : book.orders[orderId]? = some order) :
    order.quantity.toNat ≤ (book.cell order.isBuy order.price).volume ∧
      1 ≤ (book.cell order.isBuy order.price).count := by
  have hperm := restingAt_erase order.isBuy order.price hold
  rw [if_pos (restsAt_iff.mpr ⟨rfl, rfl⟩)] at hperm
  refine ⟨?_, ?_⟩
  · simp only [cell, volumeOf_perm hperm, volumeOf_cons]
    omega
  · simp only [cell, hperm.length_eq, List.length_cons]
    omega

theorem dropKnown_cell (hold : book.orders[orderId]? = some order) (isBuy' : Bool)
    (price' : UInt32) :
    (book.dropKnown orderId order).cell isBuy' price' =
      if isBuy' = order.isBuy ∧ price' = order.price then
        (book.cell order.isBuy order.price).drop order.quantity
      else book.cell isBuy' price' := by
  have hlevel := book.removeSide_level order.isBuy isBuy' order.price order.quantity price' true
  have hperm := restingAt_erase isBuy' price' hold
  split
  · rename_i hc
    rw [if_pos hc] at hlevel
    rw [if_pos (restsAt_iff.mpr hc)] at hperm
    obtain ⟨rfl, rfl⟩ := hc
    apply Cell.ext hlevel
    · simp only [cell, dropKnown, volumeOf_perm hperm, volumeOf_cons, Cell.drop]
      omega
    · simp only [cell, dropKnown, hperm.length_eq, List.length_cons, Cell.drop]
      omega
  · rename_i hc
    rw [if_neg hc] at hlevel
    rw [if_neg fun h => hc (restsAt_iff.mp h)] at hperm
    apply Cell.ext hlevel
    · simp only [cell, dropKnown]
      exact (volumeOf_perm hperm).symm
    · simp only [cell, dropKnown, hperm.length_eq]

theorem reduceKnown_cell (hold : book.orders[orderId]? = some order) {quantity : UInt32}
    (hlt : quantity < order.quantity) (isBuy' : Bool) (price' : UInt32) :
    (book.reduceKnown orderId order quantity).cell isBuy' price' =
      if isBuy' = order.isBuy ∧ price' = order.price then
        (book.cell order.isBuy order.price).reduce quantity
      else book.cell isBuy' price' := by
  have hlevel := book.removeSide_level order.isBuy isBuy' order.price quantity price' false
  have hold' := restingAt_erase isBuy' price' hold
  have hnew := restingAt_insert isBuy' price'
    (ExtTreeMap.getElem?_erase_self (t := book.orders) (k := orderId))
    { order with quantity := order.quantity - quantity }
  rw [Lib.insert_erase] at hnew
  have hrests : MarketOrderState.restsAt { order with quantity := order.quantity - quantity } isBuy'
      price' = order.restsAt isBuy' price' := rfl
  rw [hrests] at hnew
  have hle : quantity.toNat ≤ order.quantity.toNat := UInt32.le_iff_toNat_le.mp (UInt32.le_of_lt hlt)
  have hsub : (order.quantity - quantity).toNat = order.quantity.toNat - quantity.toNat :=
    UInt32.toNat_sub_of_le _ _ (UInt32.le_of_lt hlt)
  split
  · rename_i hc
    rw [if_pos hc] at hlevel
    rw [if_pos (restsAt_iff.mpr hc)] at hold' hnew
    obtain ⟨rfl, rfl⟩ := hc
    apply Cell.ext hlevel
    · simp only [cell, reduceKnown, volumeOf_perm hold', volumeOf_perm hnew, volumeOf_cons,
        Cell.reduce, hsub]
      omega
    · simp only [cell, reduceKnown, hold'.length_eq, hnew.length_eq, List.length_cons, Cell.reduce]
  · rename_i hc
    rw [if_neg hc] at hlevel
    rw [if_neg fun h => hc (restsAt_iff.mp h)] at hold' hnew
    apply Cell.ext hlevel
    · simp only [cell, reduceKnown]
      exact (volumeOf_perm hnew).trans (volumeOf_perm hold').symm
    · simp only [cell, reduceKnown, hold'.length_eq, hnew.length_eq]

theorem anonymous_cell (isBuy : Bool) (price quantity : UInt32) (isBuy' : Bool) (price' : UInt32) :
    (book.removeSide isBuy price quantity false).cell isBuy' price' =
      if isBuy' = isBuy ∧ price' = price then (book.cell isBuy price).anonymous quantity
      else book.cell isBuy' price' := by
  have hlevel := book.removeSide_level isBuy isBuy' price quantity price' false
  split
  · rename_i hc
    rw [if_pos hc] at hlevel
    obtain ⟨rfl, rfl⟩ := hc
    apply Cell.ext hlevel
    · simp only [cell, removeSide_orders, Cell.anonymous]
    · simp only [cell, removeSide_orders, Cell.anonymous]
  · rename_i hc
    rw [if_neg hc] at hlevel
    apply Cell.ext hlevel
    · simp only [cell, removeSide_orders]
    · simp only [cell, removeSide_orders]

end Cells

/-! ## What a message is made of -/

section Messages

variable (book : ExternalBook) (orderId : UInt64) (isBuy : Bool) (price quantity : UInt32)

/-- A quantity that takes all of an order. -/
def takesAll (order : MarketOrderState) (quantity : UInt32) : Prop :=
  quantity = 0 ∨ order.quantity ≤ quantity

instance (order : MarketOrderState) (quantity : UInt32) : Decidable (takesAll order quantity) :=
  inferInstanceAs (Decidable (_ ∨ _))

variable {book orderId isBuy price quantity} {order : MarketOrderState}

theorem leg_unknown (hnone : book.orders[orderId]? = none) :
    book.leg orderId isBuy price quantity = book.removeSide isBuy price quantity false := by
  simp only [leg, removeKnown, hnone, Option.getD_none]

theorem leg_all (hold : book.orders[orderId]? = some order) (hall : takesAll order quantity) :
    book.leg orderId isBuy price quantity = book.dropKnown orderId order := by
  have hqty : (quantity == 0 || decide (quantity ≥ order.quantity)) = true := by
    simpa [takesAll] using hall
  simp only [leg, removeKnown, hold, hqty, if_true, Option.getD_some, ge_iff_le, UInt32.le_refl,
    decide_true, removeSide_orders, dropKnown]

theorem leg_part (hold : book.orders[orderId]? = some order) (hpart : ¬takesAll order quantity) :
    book.leg orderId isBuy price quantity = book.reduceKnown orderId order quantity := by
  obtain ⟨hzero, hle⟩ : (quantity == 0) = false ∧ decide (quantity ≥ order.quantity) = false := by
    simpa [takesAll] using hpart
  simp only [leg, removeKnown, hold, hzero, hle, Bool.or_self, Bool.false_eq_true, if_false,
    Option.getD_some, removeSide_orders, reduceKnown]

theorem lt_of_not_takesAll (hpart : ¬takesAll order quantity) :
    0 < quantity ∧ quantity < order.quantity := by
  rw [takesAll, not_or, UInt32.not_le] at hpart
  exact ⟨UInt32.pos_iff_ne_zero.mpr hpart.1, hpart.2⟩

theorem onModify_known (hold : book.orders[orderId]? = some order) :
    book.onModify orderId isBuy price quantity =
      (book.dropKnown orderId order).insertNew orderId isBuy price quantity := by
  simp only [onModify, hold, removeSide_orders, dropKnown]

theorem onNew_eq_onModify :
    book.onNew orderId isBuy price quantity = book.onModify orderId isBuy price quantity := by
  cases hold : book.orders[orderId]? with
  | none => simp only [onNew, onModify, hold]
  | some order => simp only [onNew, hold]

theorem dropKnown_unknown : (book.dropKnown orderId order).orders[orderId]? = none :=
  ExtTreeMap.getElem?_erase_self

end Messages

end ExternalBook

end NseFoExchangeSim.Engine
