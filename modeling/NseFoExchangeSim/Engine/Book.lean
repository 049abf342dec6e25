import Std.Data.ExtTreeMap
import NseFoExchangeSim.Protocol.Wire

/-!
# The external book

`ExternalBook` of `runtime.cpp`: the market-data orders by id, and for each side the price levels that
aggregate them. A side is a `std::map` in its own order, so its first entry is the best price; the
helpers `addLevel` and `removeLevel` are templates over that order.
-/

namespace NseFoExchangeSim.Engine

open Std

structure PriceLevelState where
  quantity : UInt64 := 0
  orderCount : UInt32 := 0
deriving DecidableEq, Repr

structure MarketOrderState where
  isBuy : Bool
  price : UInt32
  quantity : UInt32
deriving DecidableEq, Repr

/-- The order of `std::greater`. -/
def greater (a b : UInt32) : Ordering := compare b a

instance : TransCmp greater := inferInstanceAs (TransCmp fun a b : UInt32 => compare b a)

instance : LawfulEqCmp greater where
  compare_self := by simp [greater]
  eq_of_compare h := (LawfulEqOrd.compare_eq_iff_eq.mp h).symm

abbrev Levels (cmp : UInt32 → UInt32 → Ordering) := ExtTreeMap UInt32 PriceLevelState cmp

/-- The two sides of a book. -/
inductive BookSide
  | bid
  | ask
deriving DecidableEq, Repr

structure ExternalBook where
  bids : Levels greater := ∅
  asks : Levels compare := ∅
  orders : ExtTreeMap UInt64 MarketOrderState := ∅

/-! ## Levels -/

section Levels

variable {cmp : UInt32 → UInt32 → Ordering} [TransCmp cmp]

def addLevel (side : Levels cmp) (price quantity : UInt32) : Levels cmp :=
  let level := side[price]?.getD {}
  side.insert price
    { quantity := level.quantity + quantity.toUInt64, orderCount := level.orderCount + 1 }

def removeLevel (side : Levels cmp) (price quantity : UInt32) (decrementOrderCount : Bool) :
    Levels cmp :=
  match side[price]? with
  | none => side
  | some level =>
      if level.quantity ≤ quantity.toUInt64 then side.erase price
      else
        let rest := level.quantity - quantity.toUInt64
        let count :=
          if decrementOrderCount && decide (level.orderCount > 0) then level.orderCount - 1
          else level.orderCount
        if rest == 0 || count == 0 then side.erase price
        else side.insert price { quantity := rest, orderCount := count }

/-- The first entry of a side, its quantity narrowed to 32 bits. -/
def bestLevel (side : Levels cmp) : Option (UInt32 × UInt32) :=
  side.toList.head?.map fun entry => (entry.1, entry.2.quantity.toUInt32)

end Levels

namespace ExternalBook

def addSide (book : ExternalBook) (isBuy : Bool) (price quantity : UInt32) : ExternalBook :=
  if isBuy then { book with bids := addLevel book.bids price quantity }
  else { book with asks := addLevel book.asks price quantity }

def removeSide (book : ExternalBook) (isBuy : Bool) (price quantity : UInt32)
    (decrementOrderCount : Bool) : ExternalBook :=
  if isBuy then { book with bids := removeLevel book.bids price quantity decrementOrderCount }
  else { book with asks := removeLevel book.asks price quantity decrementOrderCount }

/-! ## Messages -/

/-- The part of `onNew` an unknown id reaches. -/
def insertNew (book : ExternalBook) (orderId : UInt64) (isBuy : Bool) (price quantity : UInt32) :
    ExternalBook :=
  let book := book.addSide isBuy price quantity
  { book with orders := book.orders.insert orderId { isBuy, price, quantity } }

/-- `onModify` drops the known order and calls `onNew`, which no longer finds the id. -/
def onModify (book : ExternalBook) (orderId : UInt64) (isBuy : Bool) (price quantity : UInt32) :
    ExternalBook :=
  match book.orders[orderId]? with
  | none => book.insertNew orderId isBuy price quantity
  | some existing =>
      let removed := book.removeSide existing.isBuy existing.price existing.quantity true
      { removed with orders := removed.orders.erase orderId }.insertNew orderId isBuy price quantity

def onNew (book : ExternalBook) (orderId : UInt64) (isBuy : Bool) (price quantity : UInt32) :
    ExternalBook :=
  match book.orders[orderId]? with
  | some _ => book.onModify orderId isBuy price quantity
  | none => book.insertNew orderId isBuy price quantity

/-- `none` when the id is unknown; otherwise the book after the removal. -/
def removeKnown (book : ExternalBook) (orderId : UInt64) (quantity : UInt32) :
    Option ExternalBook :=
  match book.orders[orderId]? with
  | none => none
  | some order =>
      let removeQty :=
        if quantity == 0 || decide (quantity ≥ order.quantity) then order.quantity else quantity
      let removeOrderCount := decide (removeQty ≥ order.quantity)
      let removed := book.removeSide order.isBuy order.price removeQty removeOrderCount
      some <|
        if removeOrderCount then { removed with orders := removed.orders.erase orderId }
        else
          { removed with
            orders := removed.orders.insert orderId
              { order with quantity := order.quantity - removeQty } }

def onCancel (book : ExternalBook) (orderId : UInt64) (isBuy : Bool) (price quantity : UInt32) :
    ExternalBook :=
  (book.removeKnown orderId quantity).getD (book.removeSide isBuy price quantity false)

def onTrade (book : ExternalBook) (buyOrderId sellOrderId : UInt64)
    (tradePrice tradeQuantity : UInt32) : ExternalBook :=
  let book :=
    (book.removeKnown buyOrderId tradeQuantity).getD
      (book.removeSide true tradePrice tradeQuantity false)
  (book.removeKnown sellOrderId tradeQuantity).getD
    (book.removeSide false tradePrice tradeQuantity false)

def bestBid (book : ExternalBook) : Option (UInt32 × UInt32) := bestLevel book.bids

def bestAsk (book : ExternalBook) : Option (UInt32 × UInt32) := bestLevel book.asks

def best (book : ExternalBook) : BookSide → Option (UInt32 × UInt32)
  | .bid => book.bestBid
  | .ask => book.bestAsk

/-! ## The mutual recursion of `onNew` and `onModify` -/

@[simp] theorem addSide_orders (book : ExternalBook) (isBuy : Bool) (price quantity : UInt32) :
    (book.addSide isBuy price quantity).orders = book.orders := by
  unfold addSide; split <;> rfl

@[simp] theorem removeSide_orders (book : ExternalBook) (isBuy : Bool) (price quantity : UInt32)
    (decrementOrderCount : Bool) :
    (book.removeSide isBuy price quantity decrementOrderCount).orders = book.orders := by
  unfold removeSide; split <;> rfl

/-- `onModify` is its removal followed by `onNew`, as the source writes it. -/
theorem onModify_eq_onNew (book : ExternalBook) (orderId : UInt64) (isBuy : Bool)
    (price quantity : UInt32) :
    book.onModify orderId isBuy price quantity =
      match book.orders[orderId]? with
      | none => book.onNew orderId isBuy price quantity
      | some existing =>
          let removed := book.removeSide existing.isBuy existing.price existing.quantity true
          { removed with orders := removed.orders.erase orderId }.onNew orderId isBuy price
            quantity := by
  cases he : book.orders[orderId]? with
  | none => simp [onModify, onNew, he]
  | some existing => simp [onModify, onNew, he]

end ExternalBook

end NseFoExchangeSim.Engine
