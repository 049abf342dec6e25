import NseFoExchangeSim.Engine.Lemmas.Levels

/-!
# The aggregated book and the order-by-order book

As long as cancels and trades name live orders and no order enters with quantity zero, the levels of
a book are exactly what the live orders add up to.
-/

namespace NseFoExchangeSim.Engine

open Std

/-! ## The live orders -/

namespace LiveOrders

variable (orders : LiveOrders)

/-- Orders enter with a quantity, cancels name a live order and trades two of them. -/
def Names : BookMessage → Prop
  | .new _ _ _ quantity => 0 < quantity
  | .modify _ _ _ quantity => 0 < quantity
  | .cancel orderId _ _ _ => orderId ∈ orders
  | .trade buyOrderId sellOrderId _ _ =>
      buyOrderId ≠ sellOrderId ∧ buyOrderId ∈ orders ∧ sellOrderId ∈ orders

instance : DecidablePred orders.Names := fun m => by
  cases m <;> unfold Names <;> infer_instance

/-- Every live order has a quantity. -/
def Positive : Prop := ∀ (k : UInt64) (o : MarketOrderState), orders[k]? = some o → 0 < o.quantity

theorem after_concat (h : List BookMessage) (m : BookMessage) :
    after (h ++ [m]) = (after h).on m := by
  rw [after, after, List.foldl_append, List.foldl_cons, List.foldl_nil]

variable {orders} {orderId orderId' : UInt64} {order : MarketOrderState} {quantity : UInt32}

theorem Positive.insert (h : orders.Positive) (hpos : 0 < order.quantity) :
    Positive (ExtTreeMap.insert orders orderId order) := by
  intro k o ho
  rw [ExtTreeMap.getElem?_insert] at ho
  split at ho
  · cases ho
    exact hpos
  · exact h k o ho

theorem Positive.erase (h : orders.Positive) : Positive (ExtTreeMap.erase orders orderId) := by
  intro k o ho
  rw [ExtTreeMap.getElem?_erase] at ho
  split at ho
  · cases ho
  · exact h k o ho

theorem less_size_le (orders : LiveOrders) (orderId : UInt64) (quantity : UInt32) :
    (orders.less orderId quantity).size ≤ orders.size := by
  cases hold : orders[orderId]? with
  | none => simp only [less, hold, Nat.le_refl]
  | some order =>
      have hmem : orderId ∈ orders := ExtTreeMap.mem_iff_isSome_getElem?.mpr (by simp [hold])
      simp only [less, hold]
      split
      · exact ExtTreeMap.size_erase_le
      · rw [ExtTreeMap.size_insert, if_pos (ExtTreeMap.contains_iff_mem.mpr hmem)]

theorem less_other (hne : orderId ≠ orderId') (orders : LiveOrders) (quantity : UInt32) :
    (orders.less orderId quantity)[orderId']? = orders[orderId']? := by
  simp only [less]
  split
  · rfl
  · split
    · rw [ExtTreeMap.getElem?_erase, if_neg (by simpa using hne)]
    · rw [ExtTreeMap.getElem?_insert, if_neg (by simpa using hne)]

end LiveOrders

/-! ## The orders of a book -/

namespace ExternalBook

variable (book : ExternalBook)

@[simp] theorem insertNew_orders (orderId : UInt64) (isBuy : Bool) (price quantity : UInt32) :
    (book.insertNew orderId isBuy price quantity).orders =
      book.orders.insert orderId { isBuy, price, quantity } := by
  simp only [insertNew, addSide_orders]

theorem leg_orders (orderId : UInt64) (isBuy : Bool) (price quantity : UInt32) :
    (book.leg orderId isBuy price quantity).orders = LiveOrders.less book.orders orderId quantity := by
  cases hold : book.orders[orderId]? with
  | none =>
      rw [leg_unknown hold, removeSide_orders]
      simp only [LiveOrders.less, hold]
  | some order =>
      by_cases hall : takesAll order quantity
      · rw [leg_all hold hall]
        rw [takesAll] at hall
        simp only [LiveOrders.less, hold, dropKnown, hall, if_true]
      · rw [leg_part hold hall]
        rw [takesAll] at hall
        simp only [LiveOrders.less, hold, reduceKnown, hall, if_false]

variable {book} in
theorem mem_leg_orders {orderId orderId' : UInt64} (hne : orderId ≠ orderId')
    (hmem : orderId' ∈ book.orders) (isBuy : Bool) (price quantity : UInt32) :
    orderId' ∈ (book.leg orderId isBuy price quantity).orders := by
  rw [ExtTreeMap.mem_iff_isSome_getElem?] at hmem ⊢
  rw [leg_orders, LiveOrders.less_other hne]
  exact hmem

variable {book} in
theorem leg_size_lt {n : Nat} (hsize : book.orders.size < n) {orderId : UInt64} {isBuy : Bool}
    {price quantity : UInt32} : (book.leg orderId isBuy price quantity).orders.size < n := by
  rw [leg_orders]
  exact Nat.lt_of_le_of_lt (LiveOrders.less_size_le _ _ _) hsize

theorem onModify_orders (orderId : UInt64) (isBuy : Bool) (price quantity : UInt32) :
    (book.onModify orderId isBuy price quantity).orders =
      book.orders.insert orderId { isBuy, price, quantity } := by
  cases hold : book.orders[orderId]? with
  | none => simp only [onModify, hold, insertNew_orders]
  | some order =>
      rw [onModify_known hold, insertNew_orders]
      exact Lib.insert_erase book.orders orderId _

/-- The orders of a book follow the plain table, whatever the message. -/
theorem on_orders (m : BookMessage) : (book.on m).orders = LiveOrders.on book.orders m := by
  cases m with
  | new orderId isBuy price quantity =>
      rw [on, onNew_eq_onModify]
      exact book.onModify_orders orderId isBuy price quantity
  | modify orderId isBuy price quantity => exact book.onModify_orders orderId isBuy price quantity
  | cancel orderId isBuy price quantity => exact book.leg_orders orderId isBuy price quantity
  | trade buyOrderId sellOrderId price quantity =>
      rw [on, onTrade_eq_legs, leg_orders, leg_orders]
      rfl

end ExternalBook

theorem BookRun.orders {ok : List BookMessage → ExternalBook → BookMessage → Prop}
    {h : List BookMessage} {book : ExternalBook} (r : BookRun ok h book) :
    book.orders = LiveOrders.after h := by
  refine r.invariant (P := fun h book => book.orders = LiveOrders.after h) rfl ?_
  intro h book m _ ih _
  rw [show (bookFeed book m).1 = [m] from rfl, LiveOrders.after_concat, ← ih]
  exact book.on_orders m

/-! ## Exact cells -/

/-- What holds of live orders with quantities, fewer than `2 ^ 32` of them. -/
structure Cell.Sane (c : Cell) : Prop where
  few : c.count < 2 ^ 32
  low : c.count ≤ c.volume
  high : c.volume ≤ c.count * (2 ^ 32 - 1)

/-- The level is there exactly when orders are, and counts what they add up to. -/
structure Cell.Exact (c : Cell) : Prop where
  occupied : c.level = none ↔ c.count = 0
  quantity : ∀ l, c.level = some l → l.quantity.toNat = c.volume
  orderCount : ∀ l, c.level = some l → l.orderCount.toNat = c.count

namespace Cell

variable {c : Cell} {quantity : UInt32}

theorem Sane.volume_lt (h : c.Sane) : c.volume < 2 ^ 64 := by
  have hfew := h.few
  have hhigh := h.high
  omega

theorem Exact.level_cases (h : c.Exact) :
    (c.level = none ∧ c.count = 0) ∨
      ∃ l, c.level = some l ∧ c.count ≠ 0 ∧ l.quantity.toNat = c.volume ∧
        l.orderCount.toNat = c.count := by
  cases hlevel : c.level with
  | none => exact .inl ⟨rfl, h.occupied.mp hlevel⟩
  | some l =>
      refine .inr ⟨l, rfl, fun h0 => ?_, h.quantity l hlevel, h.orderCount l hlevel⟩
      rw [h.occupied.mpr h0] at hlevel
      cases hlevel

theorem Exact.of_some {level : PriceLevelState} {volume count : Nat} (hcount : count ≠ 0)
    (hq : level.quantity.toNat = volume) (ho : level.orderCount.toNat = count) :
    Exact ⟨some level, volume, count⟩ where
  occupied := ⟨nofun, fun h0 => absurd h0 hcount⟩
  quantity l hl := by cases hl; exact hq
  orderCount l hl := by cases hl; exact ho

theorem Exact.of_none (volume : Nat) : Exact ⟨none, volume, 0⟩ where
  occupied := ⟨fun _ => rfl, fun _ => rfl⟩
  quantity := nofun
  orderCount := nofun

theorem Exact.enter (h : c.Exact) (hs : c.Sane) (hs' : (c.enter quantity).Sane) :
    (c.enter quantity).Exact := by
  have hvolume := hs'.volume_lt
  have hfew := hs'.few
  have hhigh := hs.high
  simp only [Cell.enter] at hvolume hfew
  refine .of_some (Nat.succ_ne_zero _) ?_ ?_
  · rcases h.level_cases with ⟨hlevel, h0⟩ | ⟨l, hlevel, -, hq, -⟩
    · have hv0 : c.volume = 0 := by
        rw [h0] at hhigh
        omega
      simp [grown, hlevel, hv0]
    · simp only [grown, hlevel, Option.getD_some, UInt64.toNat_add, UInt32.toNat_toUInt64, hq]
      exact Nat.mod_eq_of_lt hvolume
  · rcases h.level_cases with ⟨hlevel, h0⟩ | ⟨l, hlevel, -, -, ho⟩
    · simp [grown, hlevel, h0]
    · simp only [grown, hlevel, Option.getD_some, UInt32.toNat_add, ho]
      exact Nat.mod_eq_of_lt hfew

/-- The level stays as long as orders do, since each of them has a quantity. -/
theorem Exact.drop (h : c.Exact) (hq : quantity.toNat ≤ c.volume) (hc : 1 ≤ c.count)
    (hs' : (c.drop quantity).Sane) : (c.drop quantity).Exact := by
  have hlow := hs'.low
  have hhigh := hs'.high
  simp only [Cell.drop] at hlow hhigh
  rcases h.level_cases with ⟨-, h0⟩ | ⟨l, hlevel, -, hlq, hlo⟩
  · omega
  · simp only [Cell.drop, hlevel, Option.bind_some, PriceLevelState.taken]
    have hpos : 0 < l.orderCount := by
      rw [UInt32.lt_iff_toNat_lt, hlo]
      exact hc
    have hcount : (l.countAfter true).toNat = c.count - 1 := by
      have hone : (1 : UInt32) ≤ l.orderCount := by
        rw [UInt32.le_iff_toNat_le, hlo]
        exact hc
      simp only [PriceLevelState.countAfter, Bool.true_and, gt_iff_lt, hpos, decide_true, if_true]
      rw [UInt32.toNat_sub_of_le _ _ hone, hlo]
      rfl
    have hle : l.quantity ≤ quantity.toUInt64 ↔ c.volume ≤ quantity.toNat := by
      rw [UInt64.le_iff_toNat_le, hlq, UInt32.toNat_toUInt64]
    by_cases hlast : c.count = 1
    · have hv : c.volume - quantity.toNat = 0 := by
        rw [hlast] at hhigh
        omega
      rw [if_pos (hle.mpr (by omega)), hlast]
      exact .of_none _
    · have hlt : ¬c.volume ≤ quantity.toNat := by omega
      have hne : ¬l.countAfter true = 0 := by
        intro h0
        rw [h0] at hcount
        have hzero : (0 : UInt32).toNat = 0 := rfl
        omega
      rw [if_neg (mt hle.mp hlt), if_neg hne]
      refine .of_some (by omega) ?_ hcount
      have hle' : quantity.toUInt64 ≤ l.quantity := by
        rw [UInt64.le_iff_toNat_le, hlq, UInt32.toNat_toUInt64]
        exact hq
      rw [UInt64.toNat_sub_of_le _ _ hle', hlq, UInt32.toNat_toUInt64]

theorem Exact.reduce (h : c.Exact) (hq : quantity.toNat < c.volume) (hc : 1 ≤ c.count) :
    (c.reduce quantity).Exact := by
  rcases h.level_cases with ⟨-, h0⟩ | ⟨l, hlevel, -, hlq, hlo⟩
  · omega
  · have hlt : ¬l.quantity ≤ quantity.toUInt64 := by
      rw [UInt64.le_iff_toNat_le, hlq, UInt32.toNat_toUInt64]
      omega
    have hne : ¬l.countAfter false = 0 := by
      intro h0
      have hzero : l.orderCount.toNat = 0 := congrArg UInt32.toNat h0
      omega
    simp only [Cell.reduce, hlevel, Option.bind_some, PriceLevelState.taken]
    rw [if_neg hlt, if_neg hne]
    refine .of_some (by omega) ?_ hlo
    have hle : quantity.toUInt64 ≤ l.quantity := by
      rw [UInt64.le_iff_toNat_le, hlq, UInt32.toNat_toUInt64]
      omega
    rw [UInt64.toNat_sub_of_le _ _ hle, hlq, UInt32.toNat_toUInt64]

end Cell

/-! ## Faithful books -/

section Volumes

theorem length_le_volumeOf {os : List MarketOrderState} (hpos : ∀ o ∈ os, 0 < o.quantity) :
    os.length ≤ volumeOf os := by
  induction os with
  | nil => simp
  | cons o os ih =>
      have ho : 0 < o.quantity.toNat := UInt32.lt_iff_toNat_lt.mp (hpos o List.mem_cons_self)
      have hos := ih fun o' ho' => hpos o' (List.mem_cons_of_mem _ ho')
      rw [volumeOf_cons, List.length_cons]
      omega

theorem volumeOf_le (os : List MarketOrderState) : volumeOf os ≤ os.length * (2 ^ 32 - 1) := by
  induction os with
  | nil => simp [volumeOf]
  | cons o os ih =>
      have ho := o.quantity.toNat_lt
      rw [volumeOf_cons, List.length_cons]
      omega

theorem length_restingAt_le (orders : LiveOrders) (isBuy : Bool) (price : UInt32) :
    (orders.restingAt isBuy price).length ≤ orders.size := by
  have hsize : (orders.toList.map Prod.snd).length = orders.size := by
    rw [List.length_map, ExtTreeMap.length_toList]
  rw [LiveOrders.restingAt, Lib.valuesWith, ← hsize]
  exact List.length_filter_le _ _

end Volumes

/-- Every level is exact and every live order has a quantity. -/
structure ExternalBook.Faithful (book : ExternalBook) : Prop where
  positive : LiveOrders.Positive book.orders
  exact : ∀ isBuy price, (book.cell isBuy price).Exact

namespace ExternalBook

variable {book : ExternalBook} {orderId : UInt64} {order : MarketOrderState} {quantity : UInt32}

theorem cell_sane (hpos : LiveOrders.Positive book.orders) (hsize : book.orders.size < 2 ^ 32)
    (isBuy : Bool) (price : UInt32) : (book.cell isBuy price).Sane where
  few := Nat.lt_of_le_of_lt (length_restingAt_le book.orders isBuy price) hsize
  low := by
    refine length_le_volumeOf fun o ho => ?_
    obtain ⟨⟨k, hk⟩, -⟩ := mem_restingAt.mp ho
    exact hpos k o hk
  high := volumeOf_le _

theorem Faithful.insertNew (hf : book.Faithful) (hnew : book.orders[orderId]? = none)
    (hpos : 0 < quantity) (isBuy : Bool) (price : UInt32) (hsize : book.orders.size < 2 ^ 32)
    (hsize' : (book.insertNew orderId isBuy price quantity).orders.size < 2 ^ 32) :
    (book.insertNew orderId isBuy price quantity).Faithful := by
  have hpositive : LiveOrders.Positive (book.insertNew orderId isBuy price quantity).orders := by
    rw [insertNew_orders]
    exact hf.positive.insert hpos
  refine ⟨hpositive, fun isBuy' price' => ?_⟩
  have hsane := cell_sane hpositive hsize' isBuy' price'
  rw [insertNew_cell hnew] at hsane ⊢
  split
  · rename_i hc
    rw [if_pos hc] at hsane
    exact (hf.exact isBuy price).enter (cell_sane hf.positive hsize isBuy price) hsane
  · exact hf.exact isBuy' price'

theorem Faithful.dropKnown (hf : book.Faithful) (hold : book.orders[orderId]? = some order)
    (hsize : book.orders.size < 2 ^ 32) : (book.dropKnown orderId order).Faithful := by
  have hpositive : LiveOrders.Positive (book.dropKnown orderId order).orders := hf.positive.erase
  have hsize' : (book.dropKnown orderId order).orders.size < 2 ^ 32 :=
    Nat.lt_of_le_of_lt ExtTreeMap.size_erase_le hsize
  refine ⟨hpositive, fun isBuy' price' => ?_⟩
  have hsane := cell_sane hpositive hsize' isBuy' price'
  obtain ⟨hq, hc⟩ := known_cell hold
  rw [dropKnown_cell hold] at hsane ⊢
  split
  · rename_i hat
    rw [if_pos hat] at hsane
    exact (hf.exact order.isBuy order.price).drop hq hc hsane
  · exact hf.exact isBuy' price'

theorem Faithful.reduceKnown (hf : book.Faithful) (hold : book.orders[orderId]? = some order)
    (hlt : quantity < order.quantity) : (book.reduceKnown orderId order quantity).Faithful := by
  obtain ⟨hq, hc⟩ := known_cell hold
  have hlt' := UInt32.lt_iff_toNat_lt.mp hlt
  have hrest : 0 < order.quantity - quantity := by
    rw [UInt32.lt_iff_toNat_lt, UInt32.toNat_sub_of_le _ _ (UInt32.le_of_lt hlt)]
    exact Nat.sub_pos_of_lt hlt'
  refine ⟨hf.positive.insert hrest, fun isBuy' price' => ?_⟩
  rw [reduceKnown_cell hold hlt]
  split
  · exact (hf.exact order.isBuy order.price).reduce (by omega) hc
  · exact hf.exact isBuy' price'

theorem Faithful.leg (hf : book.Faithful) (hmem : orderId ∈ book.orders)
    (hsize : book.orders.size < 2 ^ 32) (isBuy : Bool) (price : UInt32) :
    (book.leg orderId isBuy price quantity).Faithful := by
  obtain ⟨order, hold⟩ := Option.isSome_iff_exists.mp (ExtTreeMap.mem_iff_isSome_getElem?.mp hmem)
  by_cases hall : takesAll order quantity
  · rw [leg_all hold hall]
    exact hf.dropKnown hold hsize
  · rw [leg_part hold hall]
    exact hf.reduceKnown hold (lt_of_not_takesAll hall).2

theorem Faithful.onModify (hf : book.Faithful) (hpos : 0 < quantity) (isBuy : Bool) (price : UInt32)
    (hsize : book.orders.size < 2 ^ 32)
    (hsize' : (book.onModify orderId isBuy price quantity).orders.size < 2 ^ 32) :
    (book.onModify orderId isBuy price quantity).Faithful := by
  cases hold : book.orders[orderId]? with
  | none =>
      simp only [ExternalBook.onModify, hold] at hsize' ⊢
      exact hf.insertNew hold hpos isBuy price hsize hsize'
  | some order =>
      rw [onModify_known hold] at hsize' ⊢
      have hdrop : (book.dropKnown orderId order).orders.size < 2 ^ 32 :=
        Nat.lt_of_le_of_lt ExtTreeMap.size_erase_le hsize
      exact (hf.dropKnown hold hsize).insertNew dropKnown_unknown hpos isBuy price hdrop hsize'

/-- One message that names its orders keeps the levels exact. -/
theorem Faithful.on (hf : book.Faithful) {m : BookMessage} (hn : LiveOrders.Names book.orders m)
    (hsize : book.orders.size < 2 ^ 32) (hsize' : (book.on m).orders.size < 2 ^ 32) :
    (book.on m).Faithful := by
  cases m with
  | new orderId isBuy price quantity =>
      rw [ExternalBook.on, onNew_eq_onModify] at hsize' ⊢
      exact hf.onModify hn isBuy price hsize hsize'
  | modify orderId isBuy price quantity => exact hf.onModify hn isBuy price hsize hsize'
  | cancel orderId isBuy price quantity => exact hf.leg hn hsize isBuy price
  | trade buyOrderId sellOrderId price quantity =>
      obtain ⟨hne, hbuy, hsell⟩ := hn
      rw [ExternalBook.on, onTrade_eq_legs]
      exact (hf.leg hbuy hsize true price).leg (mem_leg_orders hne hsell true price quantity)
        (leg_size_lt hsize) false price

end ExternalBook

/-! ## The refinement -/

/-- Every message names its orders, and fewer than `2 ^ 32` orders are live at any time. -/
abbrev WellFed (h : List BookMessage) (_ : ExternalBook) (m : BookMessage) : Prop :=
  LiveOrders.Names (LiveOrders.after h) m ∧ (LiveOrders.after (h ++ [m])).size < 2 ^ 32

theorem WellFed.names {h : List BookMessage} {book : ExternalBook} {m : BookMessage}
    (horders : book.orders = LiveOrders.after h) (hw : WellFed h book m) :
    LiveOrders.Names book.orders m ∧ (book.on m).orders.size < 2 ^ 32 := by
  rw [WellFed, LiveOrders.after_concat, ← horders, ← book.on_orders] at hw
  exact hw

theorem BookRun.faithful {h : List BookMessage} {book : ExternalBook} (r : BookRun WellFed h book) :
    book.Faithful ∧ book.orders.size < 2 ^ 32 := by
  refine r.invariant (P := fun _ book => book.Faithful ∧ book.orders.size < 2 ^ 32) ?_ ?_
  · refine ⟨⟨fun k o ho => ?_, fun isBuy price => ?_⟩, by decide⟩
    · simp at ho
    · rw [ExternalBook.empty_cell]
      exact .of_none 0
  · rintro h book m r ⟨hf, hsize⟩ hw
    obtain ⟨hn, hsize'⟩ := WellFed.names (BookRun.orders r) hw
    exact ⟨hf.on hn hsize hsize', hsize'⟩

/-- The book refines the plain table of its live orders: after every step it has the same orders, and
each level is there exactly when orders rest at its price and shows what they add up to. -/
theorem book_refines_orders {h : List BookMessage} {book : ExternalBook}
    (r : BookRun WellFed h book) :
    book.orders = LiveOrders.after h ∧
      ∀ isBuy price,
        ((book.level isBuy price).isSome ↔ (LiveOrders.after h).restingAt isBuy price ≠ []) ∧
          ∀ l, book.level isBuy price = some l →
            l.quantity.toNat = volumeOf ((LiveOrders.after h).restingAt isBuy price) ∧
              l.orderCount.toNat = ((LiveOrders.after h).restingAt isBuy price).length := by
  refine ⟨BookRun.orders r, fun isBuy price => ?_⟩
  have he := r.faithful.1.exact isBuy price
  rw [← BookRun.orders r]
  refine ⟨?_, fun l hl => ⟨he.quantity l hl, he.orderCount l hl⟩⟩
  have hocc : book.level isBuy price = none ↔
      (LiveOrders.restingAt book.orders isBuy price).length = 0 := he.occupied
  rw [Ne, ← List.length_eq_zero_iff, ← hocc, Option.isSome_iff_ne_none]

/-- A bid repriced before it trades against an offer, of which the rest is then cancelled. -/
def namedFeed : List BookMessage :=
  [.new 1 false 999 10, .new 2 true 998 7, .new 3 true 999 5, .modify 2 true 999 8,
    .trade 2 1 999 4, .cancel 1 false 0 0]

theorem book_refines_orders_named :
    4 + 5 = volumeOf ((LiveOrders.after namedFeed).restingAt true 999) ∧
      2 = ((LiveOrders.after namedFeed).restingAt true 999).length := by
  have hfed : Lib.Meets bookFeed WellFed [] {} namedFeed := by decide +kernel
  exact ((book_refines_orders (Lib.run_exec_of_meets hfed)).2 true 999).2
    { quantity := 9, orderCount := 2 } (by decide +kernel)

end NseFoExchangeSim.Engine
