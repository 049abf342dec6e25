import NseFoExchangeSim.Engine.Book
import NseFoExchangeSim.Lib.Grouping
import NseFoExchangeSim.Lib.Trace

/-!
# Runs of a book

A book is fed messages one after the other; the history of a run is the list of the messages. Beside
the book stands the plain table of the live orders, without any levels, that the same messages make.
-/

namespace NseFoExchangeSim.Engine

open Std

/-! ## Messages -/

inductive BookMessage
  | new (orderId : UInt64) (isBuy : Bool) (price quantity : UInt32)
  | modify (orderId : UInt64) (isBuy : Bool) (price quantity : UInt32)
  | cancel (orderId : UInt64) (isBuy : Bool) (price quantity : UInt32)
  | trade (buyOrderId sellOrderId : UInt64) (price quantity : UInt32)
deriving DecidableEq, Repr

namespace ExternalBook

def on (book : ExternalBook) : BookMessage → ExternalBook
  | .new orderId isBuy price quantity => book.onNew orderId isBuy price quantity
  | .modify orderId isBuy price quantity => book.onModify orderId isBuy price quantity
  | .cancel orderId isBuy price quantity => book.onCancel orderId isBuy price quantity
  | .trade buyOrderId sellOrderId price quantity =>
      book.onTrade buyOrderId sellOrderId price quantity

/-- What a cancel does, and what a trade does for each of its two orders. -/
def leg (book : ExternalBook) (orderId : UInt64) (isBuy : Bool) (price quantity : UInt32) :
    ExternalBook :=
  (book.removeKnown orderId quantity).getD (book.removeSide isBuy price quantity false)

theorem onCancel_eq_leg (book : ExternalBook) (orderId : UInt64) (isBuy : Bool)
    (price quantity : UInt32) :
    book.onCancel orderId isBuy price quantity = book.leg orderId isBuy price quantity := rfl

theorem onTrade_eq_legs (book : ExternalBook) (buyOrderId sellOrderId : UInt64)
    (price quantity : UInt32) :
    book.onTrade buyOrderId sellOrderId price quantity =
      (book.leg buyOrderId true price quantity).leg sellOrderId false price quantity := rfl

/-- The level of a side at a price. -/
def level (book : ExternalBook) (isBuy : Bool) (price : UInt32) : Option PriceLevelState :=
  if isBuy then book.bids[price]? else book.asks[price]?

end ExternalBook

/-- A book that is fed messages. -/
def bookFeed : Lib.Machine ExternalBook BookMessage BookMessage
  | book, message => ([message], book.on message)

/-- The messages so far and the book they lead to, in a run whose messages meet `ok`. -/
abbrev BookRun (ok : List BookMessage → ExternalBook → BookMessage → Prop) :
    List BookMessage → ExternalBook → Prop :=
  Lib.Run bookFeed ok {}

/-! ## The live orders alone -/

abbrev LiveOrders := ExtTreeMap UInt64 MarketOrderState

namespace LiveOrders

/-- A quantity taken from an order, all that is left of it when the quantity is zero or too large. -/
def less (orders : LiveOrders) (orderId : UInt64) (quantity : UInt32) : LiveOrders :=
  match orders[orderId]? with
  | none => orders
  | some order =>
      if quantity = 0 ∨ order.quantity ≤ quantity then orders.erase orderId
      else orders.insert orderId { order with quantity := order.quantity - quantity }

def on (orders : LiveOrders) : BookMessage → LiveOrders
  | .new orderId isBuy price quantity => orders.insert orderId { isBuy, price, quantity }
  | .modify orderId isBuy price quantity => orders.insert orderId { isBuy, price, quantity }
  | .cancel orderId _ _ quantity => orders.less orderId quantity
  | .trade buyOrderId sellOrderId _ quantity =>
      (orders.less buyOrderId quantity).less sellOrderId quantity

/-- The orders that are live after some messages. -/
def after (messages : List BookMessage) : LiveOrders := messages.foldl on ∅

/-- The live orders at a price of a side. -/
def restingAt (orders : LiveOrders) (isBuy : Bool) (price : UInt32) : List MarketOrderState :=
  Lib.valuesWith orders fun order => order.isBuy == isBuy && order.price == price

end LiveOrders

/-- The quantities of some orders together. -/
def volumeOf (orders : List MarketOrderState) : Nat := (orders.map (·.quantity.toNat)).sum

end NseFoExchangeSim.Engine
