import NseFoExchangeSim.Engine.Theorems.BookRefinement
import NseFoExchangeSim.Engine.Theorems.KnownLiquidity

/-!
# Cancels of the feed

A cancel takes off a live order the quantity that the message names, and all of the order only when
that quantity is zero or no less than what the book still has of it. A book that missed trades of an
order therefore keeps a part of it after its cancel.
-/

namespace NseFoExchangeSim.Engine

open Std

namespace ExternalBook

variable {book : ExternalBook} {orderId : UInt64} {order : MarketOrderState} {isBuy : Bool}
  {price quantity : UInt32}

/-! ## The live orders -/

theorem onCancel_all (hlive : book.orders[orderId]? = some order) (hall : takesAll order quantity) :
    book.onCancel orderId isBuy price quantity = book.dropKnown orderId order := by
  rw [onCancel_eq_leg, leg_all hlive hall]

theorem onCancel_part (hlive : book.orders[orderId]? = some order)
    (hpart : ¬takesAll order quantity) :
    book.onCancel orderId isBuy price quantity = book.reduceKnown orderId order quantity := by
  rw [onCancel_eq_leg, leg_part hlive hpart]

/-- What a quantity takes off an order. -/
def takenOff (order : MarketOrderState) (quantity : UInt32) : UInt32 :=
  if takesAll order quantity then order.quantity else quantity

theorem onCancel_other {orderId' : UInt64} (hne : orderId' ≠ orderId) :
    (book.onCancel orderId isBuy price quantity).orders[orderId']? = book.orders[orderId']? := by
  rw [onCancel_eq_leg, leg_orders, LiveOrders.less_other hne.symm]

/-! ## The levels -/

theorem onCancel_level (hlive : book.orders[orderId]? = some order)
    (isBuy : Bool) (price quantity : UInt32) (isBuy' : Bool) (price' : UInt32) :
    (book.onCancel orderId isBuy price quantity).level isBuy' price' =
      if isBuy' = order.isBuy ∧ price' = order.price then
        (book.level order.isBuy order.price).bind
          (·.taken (takenOff order quantity) (decide (takesAll order quantity)))
      else book.level isBuy' price' := by
  by_cases hall : takesAll order quantity
  · rw [onCancel_all hlive hall]
    simp only [takenOff, hall, if_true, decide_true]
    exact book.removeSide_level order.isBuy isBuy' order.price order.quantity price' true
  · rw [onCancel_part hlive hall]
    simp only [takenOff, hall, if_false, decide_false]
    exact book.removeSide_level order.isBuy isBuy' order.price quantity price' false

/-- What is left of a level shows exactly the quantity less. -/
theorem taken_quantity {level rest : PriceLevelState} {decrementOrderCount : Bool}
    (htaken : level.taken quantity decrementOrderCount = some rest) :
    rest.quantity.toNat + quantity.toNat = level.quantity.toNat := by
  rw [PriceLevelState.taken] at htaken
  split at htaken
  · cases htaken
  · rename_i hle
    have hlt := UInt64.lt_iff_toNat_lt.mp (UInt64.not_le.mp hle)
    rw [UInt32.toNat_toUInt64] at hlt
    have hle' : quantity.toUInt64 ≤ level.quantity := UInt64.le_of_lt (UInt64.not_le.mp hle)
    simp only at htaken
    split at htaken
    · cases htaken
    · cases htaken
      simp only
      rw [UInt64.toNat_sub_of_le _ _ hle', UInt32.toNat_toUInt64]
      omega

theorem Backed.level_le (hb : book.Backed) {level : PriceLevelState}
    (hlevel : book.level isBuy price = some level) :
    level.quantity.toNat ≤ volumeOf (LiveOrders.restingAt book.orders isBuy price) := by
  have hcell := hb isBuy price
  simp only [Cell.Backed, cell, Cell.onLevel, hlevel, Option.elim_some] at hcell
  exact hcell

end ExternalBook

/-! ## Cancels in a run -/

/-- After any messages, the cancel of a live order takes all of it off the book when its quantity is
zero or no less than what is left of the order, and that quantity otherwise; the level of the order
loses as much, and goes when it shows no more than that or has no order left; no other order or level
changes, and no level shows more than is live there. -/
theorem feed_cancel_takes_named_quantity {h : List BookMessage} {book : ExternalBook}
    (r : BookRun Lib.anyCall h book) {orderId : UInt64} {order : MarketOrderState}
    (hlive : book.orders[orderId]? = some order) (isBuy : Bool) (price quantity : UInt32) :
    let after := book.onCancel orderId isBuy price quantity
    let whole := quantity = 0 ∨ order.quantity ≤ quantity
    let taken := if whole then order.quantity else quantity
    (whole → orderId ∉ after.orders) ∧
      (¬whole →
        after.orders[orderId]? = some { order with quantity := order.quantity - quantity }) ∧
      (∀ orderId' ≠ orderId, after.orders[orderId']? = book.orders[orderId']?) ∧
      (after.level order.isBuy order.price =
        (book.level order.isBuy order.price).bind (·.taken taken (decide whole))) ∧
      (∀ rest, after.level order.isBuy order.price = some rest →
        ∃ level, book.level order.isBuy order.price = some level ∧
          rest.quantity.toNat + taken.toNat = level.quantity.toNat) ∧
      (∀ isBuy' price', ¬(isBuy' = order.isBuy ∧ price' = order.price) →
        after.level isBuy' price' = book.level isBuy' price') ∧
      ∀ isBuy' price' level, after.level isBuy' price' = some level →
        level.quantity.toNat ≤ volumeOf (LiveOrders.restingAt after.orders isBuy' price') := by
  intro after whole taken
  have hlevel := book.onCancel_level hlive isBuy price quantity
  have hown : after.level order.isBuy order.price =
      (book.level order.isBuy order.price).bind (·.taken taken (decide whole)) :=
    (hlevel _ _).trans (if_pos ⟨rfl, rfl⟩)
  refine ⟨fun hall => ?_, fun hpart => ?_, fun orderId' hne => ?_, hown, fun rest hrest => ?_,
    fun isBuy' price' hne => ?_, fun isBuy' price' level hl => ?_⟩
  · simp only [after, ExternalBook.onCancel_all hlive hall, ExternalBook.dropKnown]
    simp [ExtTreeMap.mem_erase]
  · simp only [after, ExternalBook.onCancel_part hlive hpart, ExternalBook.reduceKnown]
    exact ExtTreeMap.getElem?_insert_self
  · exact ExternalBook.onCancel_other hne
  · rw [hown] at hrest
    obtain ⟨level, hbefore, htaken⟩ := Option.bind_eq_some_iff.mp hrest
    exact ⟨level, hbefore, ExternalBook.taken_quantity htaken⟩
  · exact (hlevel isBuy' price').trans (if_neg hne)
  · have hb : after.Backed := (BookRun.backed r).leg isBuy price quantity
    exact hb.level_le hl

/-- An offer of which four were traded and then the rest of it cancelled. -/
theorem feed_cancel_takes_named_quantity_rest :
    1 ∉ ((Lib.exec bookFeed {} [.new 1 false 999 10, .trade 9 1 999 4]).2.onCancel 1 false 999
      6).orders := by
  have hlive : (Lib.exec bookFeed {} [.new 1 false 999 10, .trade 9 1 999 4]).2.orders[(1 : UInt64)]? =
      some { isBuy := false, price := 999, quantity := 6 } := by decide +kernel
  exact (feed_cancel_takes_named_quantity (Lib.run_exec bookFeed {} _) hlive false 999 6).1 (by decide)

/-- The same offer when its trade was lost: four of it stay live and on the level. -/
theorem feed_cancel_leaves_lost_trade :
    ¬∀ ms orderId order, (Lib.exec bookFeed {} ms).2.orders[orderId]? = some order →
      ∀ isBuy price quantity,
        let after := (Lib.exec bookFeed {} ms).2.onCancel orderId isBuy price quantity
        after.orders[orderId]? = none ∧
          (after.cell order.isBuy order.price).onLevel + order.quantity.toNat ≤
            ((Lib.exec bookFeed {} ms).2.cell order.isBuy order.price).onLevel := by
  intro hclaim
  have hcancel := (hclaim [.new 1 false 999 10] 1 { isBuy := false, price := 999, quantity := 10 }
    (by decide +kernel) false 999 6).1
  revert hcancel
  decide +kernel

end NseFoExchangeSim.Engine
