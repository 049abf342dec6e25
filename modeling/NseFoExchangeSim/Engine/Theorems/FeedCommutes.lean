import NseFoExchangeSim.Lib.Interleaving
import NseFoExchangeSim.Engine.Lemmas.Unnumbered
import NseFoExchangeSim.Engine.Theorems.Sequences
import NseFoExchangeSim.Engine.Theorems.TokenFilter

/-!
# Feed messages on different tokens commute

A feed message works on the book and the open orders of its token. How the messages for different
tokens are interleaved shows in nothing but the numbers the trades draw.
-/

namespace NseFoExchangeSim.Engine

open Lib Protocol Std

variable {cfg : EngineConfig} {env : CallEnv} {h es es' : List EngineEvent}
  {st st' st'' : EngineState} {op : Op} {token : UInt32} {book : ExternalBook} {ns : List UInt64}

/-! ## Trades and nothing else -/

theorem isConfirmation_of_isTrade {e : EngineEvent} (h : e.isTrade = true) :
    e.isConfirmation = false := by
  simp only [EngineEvent.isTrade, Bool.and_eq_true, beq_iff_eq] at h
  rw [EngineEvent.isConfirmation, h.1, h.2]
  rfl

/-- From one state to the other some open orders of the numbers trade and some go, and the trades are
the events. -/
structure TradesOnly (ns : List UInt64) (st : EngineState) (es : List EngineEvent)
    (st' : EngineState) : Prop where
  opened : ∀ k o', st'.openOrders.find? k = some o' →
    ∃ o, st.openOrders.find? k = some o ∧ o'.token = o.token
  events : ∀ e ∈ es, e.isTrade = true ∧ e.order.exchangeOrderNumber ∈ ns ∧
    ∃ o, st.openOrders.find? e.order.exchangeOrderNumber = some o ∧ e.order.token = o.token

theorem TradesOnly.refl (ns : List UInt64) (st : EngineState) : TradesOnly ns st [] st :=
  ⟨fun _ o ho => ⟨o, ho, rfl⟩, by simp⟩

theorem TradesOnly.append (ht : TradesOnly ns st es st') (ht' : TradesOnly ns st' es' st'') :
    TradesOnly ns st (es ++ es') st'' := by
  refine ⟨fun k o'' ho'' => ?_, fun e he => ?_⟩
  · obtain ⟨o', ho', htoken'⟩ := ht'.opened k o'' ho''
    obtain ⟨o, ho, htoken⟩ := ht.opened k o' ho'
    exact ⟨o, ho, htoken'.trans htoken⟩
  · rcases List.mem_append.mp he with he | he
    · exact ht.events e he
    · obtain ⟨htrade, hn, o', ho', htoken'⟩ := ht'.events e he
      obtain ⟨o, ho, htoken⟩ := ht.opened _ o' ho'
      exact ⟨htrade, hn, o, ho, htoken'.trans htoken⟩

theorem eraseOpenOrderLocked_tradesOnly {arg : SnapshotArg} {o : OrderSnapshot}
    (hread : arg.read st.openOrders = some o) :
    TradesOnly ns st [] (eraseOpenOrderLocked arg st) := by
  refine ⟨fun k o' ho' => ?_, by simp⟩
  rw [eraseOpenOrderLocked_find? hread] at ho'
  split at ho'
  · cases ho'
  · exact ⟨o', ho', rfl⟩

theorem eraseStaleOrders_tradesOnly (os : List OrderSnapshot) :
    TradesOnly ns st [] (eraseStaleOrders os st) := by
  induction os generalizing st with
  | nil => exact .refl ns st
  | cons o os ih =>
      have hone : TradesOnly ns st [] (eraseOpenOrderLocked (.copy o) st) :=
        eraseOpenOrderLocked_tradesOnly rfl
      exact hone.append ih

theorem fillOpenOrderLocked_tradesOnly {n : UInt64} (hn : n ∈ ns) (now : ClockReading)
    (price available : UInt32) :
    TradesOnly ns st (fillOpenOrderLocked env now n price available st).1
      (fillOpenOrderLocked env now n price available st).2 := by
  have hout := fillOpenOrderLocked_outcome env now n price available st
  generalize fillOpenOrderLocked env now n price available st = r at hout
  cases hout with
  | nothing => exact .refl ns st
  | @expired live hlive _ =>
      have hread : (SnapshotArg.entry live.exchangeOrderNumber).read st.openOrders = some live := hlive
      exact eraseOpenOrderLocked_tradesOnly hread
  | @traded live quantity hlive hnumber hpos hle havailable =>
      refine ⟨fun k o' ho' => ?_, fun e he => ?_⟩
      · have hfilled : st.openOrders.find? (nextFill st live quantity now).exchangeOrderNumber =
            some live := hlive
        rw [afterFill_find? hfilled] at ho'
        split at ho'
        · rename_i hk
          split at ho'
          · cases ho'
          · cases ho'
            exact ⟨live, hk ▸ hfilled, rfl⟩
        · exact ⟨o', ho', rfl⟩
      · rw [List.mem_singleton.mp he]
        exact ⟨rfl, hnumber ▸ hn, live, hlive, rfl⟩

theorem fillRequests_tradesOnly (i : Nat) (rs : List FillRequest) (hrs : ∀ r ∈ rs, r.orderId ∈ ns) :
    TradesOnly ns st (fillRequests env i rs st).1 (fillRequests env i rs st).2 := by
  induction rs generalizing i st with
  | nil => exact .refl ns st
  | cons r rs ih =>
      rw [List.forall_mem_cons] at hrs
      exact (fillOpenOrderLocked_tradesOnly hrs.1 _ _ _).append (ih (i + 1) hrs.2)

theorem maybeFillRestingOrdersLocked_tradesOnly (hbook : st.books[token]? = some book) :
    TradesOnly ((restingOrders st token).map (·.exchangeOrderNumber)) st
      (maybeFillRestingOrdersLocked env token st).1 (maybeFillRestingOrdersLocked env token st).2 := by
  rw [maybeFillRestingOrdersLocked_eq hbook]
  exact (eraseStaleOrders_tradesOnly _).append (fillRequests_tradesOnly 0 _ (requests_of _))

/-! ## What a token sees -/

/-- The open orders for a token, without the numbers of their events. -/
def ordersOf (token : UInt32) (st : EngineState) (k : UInt64) : Option OrderSnapshot :=
  ((st.openOrders.find? k).map (·.unnumbered)).filter (·.token == token)

/-- The part of a state a token has: its book and its open orders. -/
def partOf (token : UInt32) (st : EngineState) : Option ExternalBook × (UInt64 → Option OrderSnapshot) :=
  (st.books[token]?, ordersOf token st)

theorem ordersOf_eq_none {k : UInt64}
    (h : ∀ o, st.openOrders.find? k = some o → o.token ≠ token) : ordersOf token st k = none := by
  rw [ordersOf]
  cases ho : st.openOrders.find? k with
  | none => rfl
  | some o =>
      have hother : o.unnumbered.token ≠ token := h o ho
      simp [Option.filter, hother]

section Part

variable {k : UInt64} (hi : Indexed st)
include hi

theorem mem_ids_iff_ordersOf :
    k ∈ st.openOrderIdsByToken.ids token ↔ (ordersOf token st k).isSome = true := by
  rw [hi.byToken token k, ordersOf]
  cases ho : st.openOrders.find? k with
  | none => simp
  | some o =>
      have htoken : o.unnumbered.token = o.token := rfl
      simp [Option.filter, htoken]

theorem ordersOf_resting (hk : k ∈ st.openOrderIdsByToken.ids token) :
    ordersOf token st k = (st.openOrders.find? k).map (·.unnumbered) := by
  obtain ⟨o, ho, htoken⟩ := (hi.byToken token k).mp hk
  have hown : o.unnumbered.token = token := htoken
  simp [ordersOf, ho, Option.filter, hown]

theorem restingOrders_unnumbered :
    (restingOrders st token).map (·.unnumbered) =
      (st.openOrderIdsByToken.ids token).toList.filterMap (ordersOf token st) := by
  rw [restingOrders, List.map_filterMap]
  refine List.filterMap_congr fun k hk => ?_
  rw [ordersOf_resting hi (ExtTreeSet.mem_toList.mp hk)]

/-- The orders resting on a token are open and for that token. -/
theorem mem_resting_numbers (hk : k ∈ (restingOrders st token).map (·.exchangeOrderNumber)) :
    k ∈ st.openOrderIdsByToken.ids token ∧
      ∃ o, st.openOrders.find? k = some o ∧ o.token = token := by
  obtain ⟨o, ho, rfl⟩ := List.mem_map.mp hk
  have hin := (mem_restingOrders.mp ho).1
  exact ⟨hin, (hi.byToken token _).mp hin⟩

variable (hi' : Indexed st') (hsame : ordersOf token st = ordersOf token st')
include hi' hsame

theorem restingOrders_same :
    (restingOrders st token).map (·.unnumbered) = (restingOrders st' token).map (·.unnumbered) := by
  have hids : st.openOrderIdsByToken.ids token = st'.openOrderIdsByToken.ids token :=
    ExtTreeSet.ext_mem fun k => by
      rw [mem_ids_iff_ordersOf hi, mem_ids_iff_ordersOf hi', hsame]
  rw [restingOrders_unnumbered hi, restingOrders_unnumbered hi', hids, hsame]

theorem resting_alike : Alike ((restingOrders st token).map (·.exchangeOrderNumber)) st st' := by
  intro k hk
  have hin := (mem_resting_numbers hi hk).1
  have hin' : k ∈ st'.openOrderIdsByToken.ids token := by
    rw [mem_ids_iff_ordersOf hi', ← hsame, ← mem_ids_iff_ordersOf hi]
    exact hin
  rw [← ordersOf_resting hi hin, ← ordersOf_resting hi' hin', hsame]

/-- The routine answers and leaves the token's part as that part tells it. -/
theorem maybeFillRestingOrdersLocked_part (hbook : st.books[token]? = some book)
    (hbook' : st'.books[token]? = some book) :
    (maybeFillRestingOrdersLocked env token st).1.map (·.unnumbered) =
        (maybeFillRestingOrdersLocked env token st').1.map (·.unnumbered) ∧
      partOf token (maybeFillRestingOrdersLocked env token st).2 =
        partOf token (maybeFillRestingOrdersLocked env token st').2 := by
  have hresting := restingOrders_same hi hi' hsame
  have hnumbers : (restingOrders st token).map (·.exchangeOrderNumber) =
      (restingOrders st' token).map (·.exchangeOrderNumber) := by
    have hview := congrArg (List.map (·.exchangeOrderNumber)) hresting
    rwa [List.map_map, List.map_map] at hview
  obtain ⟨hevents, halike⟩ := maybeFillRestingOrdersLocked_alike env hbook hbook' hresting
    (resting_alike hi hi' hsame)
  have hf : Frame _ st (maybeFillRestingOrdersLocked env token st).2 :=
    maybeFillRestingOrdersLocked_resting hbook
  have hf' : Frame _ st' (maybeFillRestingOrdersLocked env token st').2 :=
    maybeFillRestingOrdersLocked_resting hbook'
  refine ⟨hevents, Prod.ext ?_ (funext fun k => ?_)⟩
  · change (maybeFillRestingOrdersLocked env token st).2.books[token]? =
      (maybeFillRestingOrdersLocked env token st').2.books[token]?
    rw [hf.books, hf'.books, hbook, hbook']
  · change ordersOf token _ k = ordersOf token _ k
    by_cases hk : k ∈ (restingOrders st token).map (·.exchangeOrderNumber)
    · rw [ordersOf, ordersOf, halike k hk]
    · rw [ordersOf, ordersOf, hf.find k hk, hf'.find k (hnumbers ▸ hk)]
      exact congrFun hsame k

end Part

/-! ## Calls of the feed -/

/-- The surroundings of a feed message, and what it makes of the book it finds: nothing, when its type is
unknown. -/
def Op.feed : Op → Option (CallEnv × (ExternalBook → Option ExternalBook))
  | .tbtOrder env message => some (env, applyTbtOrderMessage message)
  | .tbtTrade env message =>
      some (env, fun book =>
        some (book.onTrade message.buyOrderId message.sellOrderId message.tradePrice
          message.tradeQuantity))
  | _ => none

theorem Op.feed_of_token (htoken : op.feedToken = some token) :
    ∃ env update, op.feed = some (env, update) := by
  cases op with
  | tbtOrder env message => exact ⟨env, _, rfl⟩
  | tbtTrade env message => exact ⟨env, _, rfl⟩
  | newOrder _ _ _ _ => cases htoken
  | modifyOrder _ _ _ _ => cases htoken
  | cancelOrder _ _ _ _ => cases htoken
  | sessionClosed _ => cases htoken

theorem ensureBookLocked_of_book (hmd : cfg.marketDataEnabled = true) (hc : Capped cfg st)
    (hbook : st.books[token]? = some book) : ensureBookLocked cfg st token = some (book, st) := by
  have hmem : token ∈ st.books := by
    rw [ExtTreeMap.mem_iff_isSome_getElem?, hbook]
    rfl
  have htrack : canTrackTokenLocked cfg st token = true :=
    (canTrackTokenLocked_iff hmd).mpr ⟨hc.allowed token hmem, .inl hmem⟩
  simp only [ensureBookLocked, hmd, htrack, hbook, Bool.not_true, Bool.false_eq_true, if_false]

/-- A feed message for a token with a book runs the routine on what it makes of the book. -/
theorem engine_update {update : ExternalBook → Option ExternalBook} {book' : ExternalBook}
    (hens : ensureBookLocked cfg st token = some (book, st)) (htoken : op.feedToken = some token)
    (hfeed : op.feed = some (env, update)) (hupdate : update book = some book') :
    engine cfg st op =
      maybeFillRestingOrdersLocked env token { st with books := st.books.insert token book' } := by
  cases op with
  | tbtOrder env' message =>
      cases htoken
      cases hfeed
      simp only [engine, onTbtOrderMessage, hens, hupdate]
  | tbtTrade env' message =>
      cases htoken
      cases hfeed
      cases hupdate
      simp only [engine, onTbtTradeMessage, hens]
  | newOrder _ _ _ _ => cases htoken
  | modifyOrder _ _ _ _ => cases htoken
  | cancelOrder _ _ _ _ => cases htoken
  | sessionClosed _ => cases htoken

theorem engine_no_update {update : ExternalBook → Option ExternalBook}
    (hens : ensureBookLocked cfg st token = some (book, st)) (htoken : op.feedToken = some token)
    (hfeed : op.feed = some (env, update)) (hupdate : update book = none) :
    engine cfg st op = ([], st) := by
  cases op with
  | tbtOrder env' message =>
      cases htoken
      cases hfeed
      simp only [engine, onTbtOrderMessage, hens, hupdate]
  | tbtTrade env' message =>
      cases hfeed
      cases hupdate
  | newOrder _ _ _ _ => cases htoken
  | modifyOrder _ _ _ _ => cases htoken
  | cancelOrder _ _ _ _ => cases htoken
  | sessionClosed _ => cases htoken

/-! ## Independence -/

section Independence

variable (hmd : cfg.marketDataEnabled = true) (htoken : op.feedToken = some token)
include hmd htoken

/-- In a state with its indexes in order a feed message trades orders of its own token only, and leaves
the parts of the other tokens alone. -/
theorem engine_other (hi : Indexed st) (hc : Capped cfg st) (hbook : token ∈ st.books) :
    (∀ e ∈ (engine cfg st op).1, e.isTrade = true ∧ e.order.token = token) ∧
      ∀ t, token ≠ t → partOf t (engine cfg st op).2 = partOf t st := by
  rw [ExtTreeMap.mem_iff_isSome_getElem?, Option.isSome_iff_exists] at hbook
  obtain ⟨book, hbook⟩ := hbook
  obtain ⟨env, update, hfeed⟩ := Op.feed_of_token htoken
  have hens := ensureBookLocked_of_book hmd hc hbook
  cases hupdate : update book with
  | none =>
      rw [engine_no_update hens htoken hfeed hupdate]
      exact ⟨by simp, fun _ _ => rfl⟩
  | some book' =>
      rw [engine_update hens htoken hfeed hupdate]
      have hwritten : Indexed { st with books := st.books.insert token book' } :=
        hi.congr rfl rfl rfl
      have hbook' : (st.books.insert token book')[token]? = some book' := by simp
      have htrades : TradesOnly _ _ (maybeFillRestingOrdersLocked env token
          { st with books := st.books.insert token book' }).1 _ :=
        maybeFillRestingOrdersLocked_tradesOnly hbook'
      have hf : Frame _ _ (maybeFillRestingOrdersLocked env token
          { st with books := st.books.insert token book' }).2 :=
        maybeFillRestingOrdersLocked_resting hbook'
      refine ⟨fun e he => ?_, fun t ht => Prod.ext ?_ (funext fun k => ?_)⟩
      · obtain ⟨htrade, hn, o, ho, hsame⟩ := htrades.events e he
        obtain ⟨-, o', ho', hown⟩ := mem_resting_numbers hwritten hn
        rw [ho] at ho'
        cases ho'
        exact ⟨htrade, hsame.trans hown⟩
      · change (maybeFillRestingOrdersLocked env token _).2.books[t]? = st.books[t]?
        rw [hf.books]
        simp [ExtTreeMap.getElem?_insert, ht]
      · change ordersOf t _ k = ordersOf t st k
        by_cases hk : k ∈ (restingOrders { st with books := st.books.insert token book' }
            token).map (·.exchangeOrderNumber)
        · -- an order of the message's token, which `t` sees neither before nor after
          obtain ⟨-, o, ho, hown⟩ := mem_resting_numbers hwritten hk
          rw [ordersOf_eq_none fun o' ho' => ?_, ordersOf_eq_none fun o' ho' => ?_]
          · cases ho.symm.trans ho'
            rw [hown]
            exact ht
          · obtain ⟨o'', ho'', hsame⟩ := htrades.opened k o' ho'
            cases ho.symm.trans ho''
            rw [hsame, hown]
            exact ht
        · rw [ordersOf, hf.find k hk]
          rfl

/-- What it answers and leaves for its own token depends on the part of that token alone. -/
theorem engine_own (hi : Indexed st) (hi' : Indexed st') (hc : Capped cfg st) (hc' : Capped cfg st')
    (hbook : token ∈ st.books) (hpart : partOf token st = partOf token st') :
    (engine cfg st op).1.map (·.unnumbered) = (engine cfg st' op).1.map (·.unnumbered) ∧
      partOf token (engine cfg st op).2 = partOf token (engine cfg st' op).2 := by
  rw [ExtTreeMap.mem_iff_isSome_getElem?, Option.isSome_iff_exists] at hbook
  obtain ⟨book, hbook⟩ := hbook
  have hbooks : st.books[token]? = st'.books[token]? := congrArg Prod.fst hpart
  have horders : ordersOf token st = ordersOf token st' := congrArg Prod.snd hpart
  obtain ⟨env, update, hfeed⟩ := Op.feed_of_token htoken
  have hens := ensureBookLocked_of_book hmd hc hbook
  have hens' := ensureBookLocked_of_book hmd hc' (hbooks.symm.trans hbook)
  cases hupdate : update book with
  | none =>
      rw [engine_no_update hens htoken hfeed hupdate, engine_no_update hens' htoken hfeed hupdate]
      exact ⟨rfl, hpart⟩
  | some book' =>
      rw [engine_update hens htoken hfeed hupdate, engine_update hens' htoken hfeed hupdate]
      have hwritten : Indexed { st with books := st.books.insert token book' } :=
        hi.congr rfl rfl rfl
      have hwritten' : Indexed { st' with books := st'.books.insert token book' } :=
        hi'.congr rfl rfl rfl
      have hself : (st.books.insert token book')[token]? = some book' := by simp
      have hself' : (st'.books.insert token book')[token]? = some book' := by simp
      exact maybeFillRestingOrdersLocked_part hwritten hwritten' horders hself hself'

end Independence

/-- Reachable by accepting no more orders than there are numbers, with the books of `st` in place. -/
def After (cfg : EngineConfig) (st st' : EngineState) : Prop :=
  (∃ h, Reachable cfg h st' ∧ acceptedCount h ≤ 2 ^ 64) ∧ ∀ t, t ∈ st.books → t ∈ st'.books

/-- The call is a feed message for a token that has a book. -/
def FeedsBook (st : EngineState) (op : Op) : Prop := ∃ t, op.feedToken = some t ∧ t ∈ st.books

/-- The token of a feed message; any other call gets one too. -/
def Op.feedPart (op : Op) : UInt32 := op.feedToken.getD 0

theorem feed_independent (hmd : cfg.marketDataEnabled = true) (st : EngineState) :
    Independent (engine cfg) (After cfg st) (FeedsBook st) Op.feedPart (·.order.token) partOf
      (·.unnumbered) := by
  constructor
  · rintro s op ⟨⟨h, r, hle⟩, hbooks⟩ ⟨t, htoken, hbook⟩
    refine ⟨⟨_, r.snoc op trivial, ?_⟩, fun t ht => engine_keeps op (hbooks t ht)⟩
    have hnone : acceptedCount (engine cfg s op).1 = 0 := by
      refine acceptedCount_eq_zero fun e he => ?_
      have htrade := ((engine_other hmd htoken (r.indexed hle) r.capped (hbooks t hbook)).1 e he).1
      exact isConfirmation_of_isTrade htrade
    rw [acceptedCount_append, hnone]
    exact hle
  · rintro s s' op ⟨⟨h, r, hle⟩, hbooks⟩ ⟨⟨h', r', hle'⟩, hbooks'⟩ ⟨t, htoken, hbook⟩ hpart
    have ht : op.feedPart = t := by rw [Op.feedPart, htoken]; rfl
    rw [ht] at hpart ⊢
    exact engine_own hmd htoken (r.indexed hle) (r'.indexed hle') r.capped r'.capped
      (hbooks t hbook) hpart
  · rintro s op p ⟨⟨h, r, hle⟩, hbooks⟩ ⟨t, htoken, hbook⟩ hne
    have ht : op.feedPart = t := by rw [Op.feedPart, htoken]; rfl
    rw [ht] at hne
    exact (engine_other hmd htoken (r.indexed hle) r.capped (hbooks t hbook)).2 p hne
  · rintro s op ⟨⟨h, r, hle⟩, hbooks⟩ ⟨t, htoken, hbook⟩ e he
    rw [Op.feedPart, htoken]
    exact ((engine_other hmd htoken (r.indexed hle) r.capped (hbooks t hbook)).1 e he).2

/-! ## The outcome -/

/-- The two runs come to the same books, open orders and indexes, have drawn equally many numbers, and
trade the same for every token; only the numbers in the orders and their events may differ. -/
structure SameOutcome (r r' : List EngineEvent × EngineState) : Prop where
  books : r.2.books = r'.2.books
  openOrders : ∀ k, (r.2.openOrders.find? k).map (·.unnumbered) =
    (r'.2.openOrders.find? k).map (·.unnumbered)
  byToken : r.2.openOrderIdsByToken = r'.2.openOrderIdsByToken
  bySession : r.2.openOrderIdsBySession = r'.2.openOrderIdsBySession
  counters : r.2.nextExchangeOrderNumber = r'.2.nextExchangeOrderNumber ∧
    r.2.nextFillNumber = r'.2.nextFillNumber ∧
    r.2.nextLastActivityReference = r'.2.nextLastActivityReference
  trades : ∀ t, (r.1.filter (·.order.token = t)).map (·.unnumbered) =
    (r'.1.filter (·.order.token = t)).map (·.unnumbered)

/-- Open orders that are the same but for their numbers are indexed in the same way. -/
theorem Indexed.unique (hi : Indexed st) (hi' : Indexed st')
    (hopen : ∀ k, (st.openOrders.find? k).map (·.unnumbered) =
      (st'.openOrders.find? k).map (·.unnumbered)) :
    st.openOrderIdsByToken = st'.openOrderIdsByToken ∧
      st.openOrderIdsBySession = st'.openOrderIdsBySession := by
  have hrow : ∀ {α : Type} (key : OrderSnapshot → α), (∀ o, key o.unnumbered = key o) →
      ∀ (st : EngineState) k a, (∃ o, st.openOrders.find? k = some o ∧ key o = a) ↔
        ((st.openOrders.find? k).map (·.unnumbered)).map key = some a := by
    intro α key hkey st k a
    simp [Option.map_map, Function.comp_def, hkey]
  refine ⟨MultiIndex.ext_ids fun t k => ?_, MultiIndex.ext_ids fun s k => ?_⟩
  · rw [hi.byToken, hi'.byToken, hrow (·.token) (fun _ => rfl), hrow (·.token) (fun _ => rfl), hopen]
  · rw [hi.bySession, hi'.bySession, hrow (·.sessionId) (fun _ => rfl),
      hrow (·.sessionId) (fun _ => rfl), hopen]

/-- States whose tokens all have the same parts have the same open orders, but for their numbers. -/
theorem openOrders_of_parts (hpart : ∀ t, partOf t st = partOf t st') (k : UInt64) :
    (st.openOrders.find? k).map (·.unnumbered) = (st'.openOrders.find? k).map (·.unnumbered) := by
  refine Option.ext fun o => ?_
  have horders : ordersOf o.token st k = ordersOf o.token st' k :=
    congrFun (congrArg Prod.snd (hpart o.token)) k
  have hown : ∀ found : Option OrderSnapshot,
      found = some o ↔ found.filter (·.token == o.token) = some o := by
    intro found
    simp [Option.filter_eq_some_iff]
  rw [hown, hown (Option.map _ (st'.openOrders.find? k))]
  exact Eq.congr_left horders

theorem books_of_parts (hpart : ∀ t, partOf t st = partOf t st') : st.books = st'.books :=
  ExtTreeMap.ext_getElem? fun t => congrArg Prod.fst (hpart t)

/-- Runs that trade the same for every token have generated equally many events of each kind. -/
theorem perm_of_trades (htrades : ∀ t, (es.filter (·.order.token = t)).map (·.unnumbered) =
      (es'.filter (·.order.token = t)).map (·.unnumbered)) :
    (es.map (·.unnumbered)).Perm (es'.map (·.unnumbered)) := by
  refine List.perm_iff_count.mpr fun e => ?_
  have hown : ∀ es : List EngineEvent, (es.map (·.unnumbered)).count e =
      ((es.filter (·.order.token = e.order.token)).map (·.unnumbered)).count e := by
    intro es
    have hmap : (es.filter (·.order.token = e.order.token)).map (·.unnumbered) =
        (es.map (·.unnumbered)).filter (·.order.token = e.order.token) := by
      rw [List.filter_map]
      rfl
    rw [hmap, List.count_filter (by simp)]
  rw [hown es, hown es', htrades]

theorem Numbered.same_counters (hn : Numbered st es st') (hn' : Numbered st es' st'')
    (hperm : (es.map (·.unnumbered)).Perm (es'.map (·.unnumbered))) :
    st'.nextExchangeOrderNumber = st''.nextExchangeOrderNumber ∧
      st'.nextFillNumber = st''.nextFillNumber ∧
      st'.nextLastActivityReference = st''.nextLastActivityReference := by
  have hcount : ∀ kind : EngineEvent → Bool, (∀ e, kind e.unnumbered = kind e) →
      es.countP kind = es'.countP kind := by
    intro kind hkind
    have heq := hperm.countP_eq kind
    simpa [List.countP_map, Function.comp_def, hkind] using heq
  refine ⟨hn.orders.next_eq hn'.orders ?_, hn.fills.next_eq hn'.fills ?_,
    hn.references.next_eq hn'.references ?_⟩
  · rw [orderNumbers_length, orderNumbers_length]
    exact hcount (·.isConfirmation) fun _ => rfl
  · rw [fillNumbers_length, fillNumbers_length]
    exact hcount (·.isTrade) fun _ => rfl
  · rw [activityReferences_length, activityReferences_length]
    exact hcount (·.successful) fun _ => rfl

theorem exec_numbered (st : EngineState) (ops : List Op) :
    Numbered st (exec (engine cfg) st ops).1 (exec (engine cfg) st ops).2 :=
  anyRun_induct (P := fun h s => Numbered st h s) .nil
    (fun _ _ _ _ _ hn ha => hn.append ha.numbered) (run_exec (engine cfg) st ops)

theorem After.sameOutcome (hmd : cfg.marketDataEnabled = true) (ha : After cfg st st) {as bs : List Op}
    (has : ∀ op ∈ as, FeedsBook st op) (hbs : ∀ op ∈ bs, FeedsBook st op)
    (hsame : ∀ t, as.filter (·.feedPart = t) = bs.filter (·.feedPart = t)) :
    SameOutcome (exec (engine cfg) st as) (exec (engine cfg) st bs) := by
  have hM := feed_independent hmd st
  have hall := fun t => hM.interleave ha has hbs (hsame t)
  have hparts := fun t => (hall t).2
  have htrades := fun t => (hall t).1
  obtain ⟨⟨h, r, hle⟩, -⟩ := hM.exec_keeps ha has
  obtain ⟨⟨h', r', hle'⟩, -⟩ := hM.exec_keeps ha hbs
  have hopen := openOrders_of_parts hparts
  obtain ⟨hbyToken, hbySession⟩ := (r.indexed hle).unique (r'.indexed hle') hopen
  exact
    { books := books_of_parts hparts
      openOrders := hopen
      byToken := hbyToken
      bySession := hbySession
      counters := (exec_numbered st as).same_counters (exec_numbered st bs) (perm_of_trades htrades)
      trades := htrades }

/-- Two feed messages for different tokens that have a book come to the same in either order, and so do
feed messages for any tokens with a book, however the messages of different tokens are interleaved; as
long as the order numbers have not come round. A message carries what it reads from outside, so it
finds the same sessions gone whenever its turn comes. -/
theorem feed_messages_commute (hmd : cfg.marketDataEnabled = true) (r : Reachable cfg h st)
    (hle : acceptedCount h ≤ 2 ^ 64) :
    (∀ a b ta tb, a.feedToken = some ta → b.feedToken = some tb → ta ≠ tb → ta ∈ st.books →
        tb ∈ st.books → SameOutcome (exec (engine cfg) st [a, b]) (exec (engine cfg) st [b, a])) ∧
      ∀ as bs, (∀ op ∈ as, FeedsBook st op) → (∀ op ∈ bs, FeedsBook st op) →
        (∀ t, as.filter (·.feedToken = some t) = bs.filter (·.feedToken = some t)) →
          SameOutcome (exec (engine cfg) st as) (exec (engine cfg) st bs) := by
  have hafter : After cfg st st := ⟨⟨h, r, hle⟩, fun _ ht => ht⟩
  refine ⟨fun a b ta tb ha hb hne hbooka hbookb => ?_, fun as bs has hbs hsame => ?_⟩
  · refine hafter.sameOutcome hmd ?_ ?_ fun t => ?_
    · simp [FeedsBook, ha, hb, hbooka, hbookb]
    · simp [FeedsBook, ha, hb, hbooka, hbookb]
    · have hta : a.feedPart = ta := by rw [Op.feedPart, ha]; rfl
      have htb : b.feedPart = tb := by rw [Op.feedPart, hb]; rfl
      simp only [List.filter_cons, List.filter_nil, hta, htb, decide_eq_true_eq]
      by_cases hat : ta = t
      · have hbt : tb ≠ t := fun hbt => hne (hat.trans hbt.symm)
        simp [hat, hbt]
      · simp [hat]
  · refine hafter.sameOutcome hmd has hbs fun t => ?_
    have hpart : ∀ ops : List Op, (∀ op ∈ ops, FeedsBook st op) →
        ops.filter (·.feedPart = t) = ops.filter (·.feedToken = some t) := by
      intro ops hops
      refine List.filter_congr fun op hop => ?_
      obtain ⟨t', htoken, -⟩ := hops op hop
      simp [Op.feedPart, htoken]
    rw [hpart as has, hpart bs hbs, hsame t]

/-- Day orders to buy 25 at 1000, one for each token of the file. -/
def twoRests : List Op :=
  [.newOrder calm (orderRequest 654321 1 25 1000 kOrderFlagsDay) 1 1,
    .newOrder calm (orderRequest 765432 1 25 1000 kOrderFlagsDay) 2 2]

/-- An offer of 10 at 998 for the other token. -/
def otherOffer : Op := .tbtOrder calm (tbtOrder 'N' 1 765432 'S' 998 10)

theorem feed_messages_commute_offered :
    SameOutcome
      (exec (engine bookMatching) (exec (engine bookMatching) bookMatching.init twoRests).2
        [offer, otherOffer])
      (exec (engine bookMatching) (exec (engine bookMatching) bookMatching.init twoRests).2
        [otherOffer, offer]) :=
  (feed_messages_commute rfl (run_exec (engine bookMatching) bookMatching.init twoRests)
    (by decide +kernel)).1 offer otherOffer 654321 765432 rfl rfl (by decide) (by decide +kernel)
    (by decide +kernel)

/-- When the numbers have come round, an order is filed under two tokens, and the message that comes
first trades it. -/
theorem feed_messages_race :
    ∃ h, Reachable bookMatching h reusedState ∧
      offer.feedToken = some 654321 ∧ otherOffer.feedToken = some 765432 ∧
      654321 ∈ reusedState.books ∧ 765432 ∈ reusedState.books ∧
      (exec (engine bookMatching) reusedState [offer, otherOffer]).1.map
          (fun e => (e.order.exchangeOrderNumber, e.fillPrice, e.fillQuantity)) =
        [(200000, 999, 10)] ∧
      (exec (engine bookMatching) reusedState [otherOffer, offer]).1.map
          (fun e => (e.order.exchangeOrderNumber, e.fillPrice, e.fillQuantity)) =
        [(200000, 998, 10)] := by
  obtain ⟨h, r⟩ := reusedState_reachable
  exact ⟨h, r, rfl, rfl, by decide +kernel, by decide +kernel, by decide +kernel, by decide +kernel⟩

end NseFoExchangeSim.Engine
