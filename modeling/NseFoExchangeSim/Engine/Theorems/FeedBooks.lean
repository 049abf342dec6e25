import NseFoExchangeSim.Lib.FirstCome
import NseFoExchangeSim.Engine.BookRun
import NseFoExchangeSim.Engine.Theorems.TokenFilter
import NseFoExchangeSim.Engine.Theorems.TradeThrough

/-!
# The books are the feed's

A book holds what the feed messages for its token make of an empty book, and nothing else: no fill, no
request and no closed session ever alters it. Which tokens have a book is settled by the order in which
tokens are first asked for.
-/

namespace NseFoExchangeSim.Engine

open Lib Protocol Std

variable {cfg : EngineConfig} {h es : List EngineEvent} {st st' : EngineState} {l : Label} {op : Op}
  {token : UInt32} {book : ExternalBook}

/-! ## What a call asks of the books -/

/-- What the switch of `onTbtOrderMessage` has the book do. -/
def bookMessage (message : TbtOrderMessage) : Option BookMessage :=
  let isBuy := isTbtBuySide message.orderType
  if message.messageType == 'N'.toUInt8 then
    some (.new message.orderId isBuy message.price message.quantity)
  else if message.messageType == 'M'.toUInt8 then
    some (.modify message.orderId isBuy message.price message.quantity)
  else if message.messageType == 'X'.toUInt8 then
    some (.cancel message.orderId isBuy message.price message.quantity)
  else none

theorem applyTbtOrderMessage_eq (message : TbtOrderMessage) (book : ExternalBook) :
    applyTbtOrderMessage message book = (bookMessage message).map book.on := by
  simp only [applyTbtOrderMessage, bookMessage]
  split
  · rfl
  · split
    · rfl
    · split <;> rfl

/-- The token that a call wants a book for, with what the book is to do. A valid order wants a book for
its token and has it do nothing. -/
def Op.touch : Op → Option (UInt32 × Option BookMessage)
  | .newOrder _ request sessionId session =>
      let snapshot := buildSnapshotFromEntryRequest request sessionId session
      if isValidNewOrder snapshot request then some (snapshot.token, none) else none
  | .tbtOrder _ message => some (message.token, bookMessage message)
  | .tbtTrade _ message =>
      some (message.token,
        some (.trade message.buyOrderId message.sellOrderId message.tradePrice message.tradeQuantity))
  | _ => none

/-- The tokens with a book, and their books, as a table of its own. -/
def bookTable (cfg : EngineConfig) : FirstCome UInt32 ExternalBook BookMessage where
  allowed := cfg.allowedTokens.contains
  places := cfg.config.maxBookContracts.toNat
  fresh := {}
  on := ExternalBook.on

/-- The tokens that have a book after some calls, in the order in which they got it. -/
def trackedTokens (cfg : EngineConfig) (ops : List Op) : List UInt32 :=
  (bookTable cfg).admitted ((ops.filterMap Op.touch).map Prod.fst)

/-- The messages of the feed for a token. -/
def feedFor (token : UInt32) (ops : List Op) : List BookMessage :=
  FirstCome.messagesFor token (ops.filterMap Op.touch)

/-! ## Making a book and writing it -/

theorem canTrackTokenLocked_eq (hmd : cfg.marketDataEnabled = true) :
    canTrackTokenLocked cfg st token =
      (cfg.allowedTokens.contains token &&
        (st.books.contains token || decide (st.books.size < cfg.config.maxBookContracts.toNat))) := by
  rw [Bool.eq_iff_iff, canTrackTokenLocked_iff hmd, Bool.and_eq_true, Bool.or_eq_true,
    decide_eq_true_eq, ExtTreeMap.mem_iff_contains]

theorem insert_idem (books : ExtTreeMap UInt32 ExternalBook) (book book' : ExternalBook) :
    (books.insert token book).insert token book' = books.insert token book' := by
  refine ExtTreeMap.ext_getElem? fun t => ?_
  simp only [ExtTreeMap.getElem?_insert]
  split <;> rfl

theorem insert_same {books : ExtTreeMap UInt32 ExternalBook} (hbook : books[token]? = some book) :
    books.insert token book = books := by
  refine ExtTreeMap.ext_getElem? fun t => ?_
  rw [ExtTreeMap.getElem?_insert]
  split
  · rename_i he
    rw [← LawfulEqOrd.compare_eq_iff_eq.mp he, hbook]
  · rfl

/-- Making the book of a token and having it take a message is one touch of the table. -/
theorem touch_eq (hmd : cfg.marketDataEnabled = true) (message : Option BookMessage) :
    (bookTable cfg).touch st.books token message =
      match ensureBookLocked cfg st token with
      | none => st.books
      | some (book, st') => st'.books.insert token ((bookTable cfg).onTouch book message) := by
  have hcan : canTrackTokenLocked cfg st token = _ := canTrackTokenLocked_eq hmd
  rw [FirstCome.touch, ensureBookLocked, hmd]
  change (if (cfg.allowedTokens.contains token && (st.books.contains token ||
    decide (st.books.size < cfg.config.maxBookContracts.toNat))) = true then _ else _) = _
  rw [← hcan]
  cases canTrackTokenLocked cfg st token with
  | false => rfl
  | true =>
      cases hbook : st.books[token]? with
      | none => simp [insert_idem, bookTable]
      | some book => simp

/-! ## What a call does to the books -/

/-- The act neither enters an order nor applies a feed message. -/
def NoBook : Label → Prop
  | .modify _ => True
  | .other => True
  | _ => False

theorem Act.books_kept (ha : Act cfg l st es st') (hl : NoBook l) : st'.books = st.books := by
  cases l with
  | accept snapshot => exact hl.elim
  | modify request =>
      cases ha with
      | modify now hm hl => rfl
  | market => exact hl.elim
  | other => exact ha.books_other

theorem Steps.books_kept {h' : List EngineEvent}
    (hs : Steps (ActWith cfg fun _ _ l => NoBook l) (h, st) (h', st')) : st'.books = st.books :=
  hs.invariant (P := fun _ st'' => st''.books = st.books)
    (fun _ _ _ _ hbooks ⟨_, ha, hl⟩ => (ha.books_kept hl).trans hbooks) rfl

theorem maybeFillRestingOrdersLocked_books (cfg : EngineConfig) (env : CallEnv) (token : UInt32)
    (st : EngineState) : (maybeFillRestingOrdersLocked env token st).2.books = st.books := by
  have hother : ∀ (_ : List EngineEvent) (_ : EngineState), NoBook .other := fun _ _ => trivial
  have hsteps : Steps (ActWith cfg fun _ _ l => NoBook l) ([], st) _ :=
    maybeFillRestingOrdersLocked_steps hother env token
  exact Steps.books_kept hsteps

theorem engine_books_kept (hl : NoBook (label cfg st op)) :
    (engine cfg st op).2.books = st.books :=
  Steps.books_kept (h := []) (engine_steps (fun _ _ => trivial) op hl)

theorem EntryOutcome.books {env : CallEnv} {snapshot : OrderSnapshot}
    {r : List EngineEvent × EngineState} (hout : EntryOutcome cfg env st (.accept snapshot) r) :
    r.2.books = (acceptedState cfg snapshot.token st).books := by
  cases hout with
  | immediate ha hmd => rfl
  | ioc ha hmd hioc =>
      have hioc := enterIoc_outcome cfg env (acceptedState cfg snapshot.token st) snapshot
      generalize enterIoc cfg env snapshot (acceptedState cfg snapshot.token st) = r at hioc
      cases hioc <;> rfl
  | day ha hmd hday =>
      simp only [enterDay]
      cases matchTopLocked cfg (storeOpenOrderLocked snapshot
          (acceptedState cfg snapshot.token st)) snapshot with
      | none => rfl
      | some top => exact fillOpenOrderLocked_frame.books

/-- What is asked of the books, done to the table of the books. -/
def touched (cfg : EngineConfig) (books : ExtTreeMap UInt32 ExternalBook) (op : Op) :
    ExtTreeMap UInt32 ExternalBook :=
  match op.touch with
  | none => books
  | some (token, message) => (bookTable cfg).touch books token message

/-- Entering an order makes the book of its token. -/
theorem acceptedState_touched (hmd : cfg.marketDataEnabled = true) :
    (acceptedState cfg token st).books = (bookTable cfg).touch st.books token none := by
  rw [acceptedState_books, touch_eq hmd]
  cases hens : ensureBookLocked cfg st token with
  | none => rfl
  | some made =>
      obtain ⟨book, st'⟩ := made
      obtain ⟨-, hself, -⟩ := ensureBookLocked_spec cfg hens
      exact (insert_same hself).symm

theorem onNewOrder_books (hmd : cfg.marketDataEnabled = true) {env : CallEnv}
    {request : OrderEntryRequestPayload} {sessionId : UInt64} {session : SessionRef} :
    (engine cfg st (.newOrder env request sessionId session)).2.books =
      touched cfg st.books (.newOrder env request sessionId session) := by
  simp only [touched, Op.touch]
  cases hvalid : isValidNewOrder (buildSnapshotFromEntryRequest request sessionId session) request with
  | false => exact engine_books_kept (by simp [label, hvalid, NoBook])
  | true =>
      cases htrack : canTrackTokenLocked cfg st
          (buildSnapshotFromEntryRequest request sessionId session).token with
      | false =>
          have hnone := ensureBookLocked_eq_none ((canTrackTokenLocked_eq_false_iff hmd).mp htrack)
          simp only [if_true]
          rw [touch_eq hmd, hnone]
          exact engine_books_kept (by simp [label, hvalid, htrack, NoBook])
      | true =>
          have hout := onNewOrder_outcome cfg env st sessionId session request
          simp only [label, hvalid, htrack, Bool.and_self, if_true] at hout
          exact hout.books.trans (acceptedState_touched hmd)

theorem engine_books (hmd : cfg.marketDataEnabled = true) (op : Op) :
    (engine cfg st op).2.books = touched cfg st.books op := by
  cases op with
  | newOrder env request sessionId session => exact onNewOrder_books hmd
  | modifyOrder env request sessionId session =>
      refine engine_books_kept ?_
      simp only [label]
      split <;> trivial
  | cancelOrder env request sessionId session => exact engine_books_kept trivial
  | tbtOrder env message =>
      simp only [touched, Op.touch]
      rw [touch_eq hmd, engine, onTbtOrderMessage]
      cases hens : ensureBookLocked cfg st message.token with
      | none => rfl
      | some made =>
          obtain ⟨book, st'⟩ := made
          simp only [applyTbtOrderMessage_eq]
          cases bookMessage message with
          | none => exact (insert_same (ensureBookLocked_spec cfg hens).2.1).symm
          | some message' => exact maybeFillRestingOrdersLocked_books cfg env message.token _
  | tbtTrade env message =>
      simp only [touched, Op.touch]
      rw [touch_eq hmd, engine, onTbtTradeMessage]
      cases hens : ensureBookLocked cfg st message.token with
      | none => rfl
      | some made => exact maybeFillRestingOrdersLocked_books cfg env message.token _
  | sessionClosed sessionId => exact engine_books_kept trivial

/-- The books of a run are those its touches make of no books. -/
theorem exec_books (hmd : cfg.marketDataEnabled = true) (st : EngineState) (ops : List Op) :
    (exec (engine cfg) st ops).2.books =
      (bookTable cfg).run st.books (ops.filterMap Op.touch) := by
  induction ops generalizing st with
  | nil => rfl
  | cons op ops ih =>
      rw [exec, ih, engine_books hmd, touched, List.filterMap_cons]
      cases op.touch with
      | none => rfl
      | some t => rfl

/-! ## The books of a run -/

theorem book_of_run (hmd : cfg.marketDataEnabled = true) (ops : List Op) (token : UInt32) :
    (exec (engine cfg) cfg.init ops).2.books[token]? =
      if token ∈ trackedTokens cfg ops then some ((feedFor token ops).foldl ExternalBook.on {})
      else none := by
  rw [exec_books hmd]
  exact (FirstCome.made_run (ops.filterMap Op.touch)).rows token

/-- After any calls, with market data enabled, the tokens that have a book are the first allowed ones
that a feed message or a valid order asked for, no more than the cap, and they keep it; the book of such
a token is what the feed's messages for it, all of them and in order, make of an empty book. So calls
that ask the same of the books leave the same books, whatever trades between them. -/
theorem books_are_the_feeds (hmd : cfg.marketDataEnabled = true) (ops : List Op) :
    (∀ token, (exec (engine cfg) cfg.init ops).2.books[token]? =
      if token ∈ trackedTokens cfg ops then some ((feedFor token ops).foldl ExternalBook.on {})
      else none) ∧
    (trackedTokens cfg ops).Nodup ∧
    (trackedTokens cfg ops).length ≤ cfg.config.maxBookContracts.toNat ∧
    (∀ later, trackedTokens cfg ops <+: trackedTokens cfg (ops ++ later)) ∧
    ∀ ops', ops'.filterMap Op.touch = ops.filterMap Op.touch →
      (exec (engine cfg) cfg.init ops').2.books = (exec (engine cfg) cfg.init ops).2.books := by
  refine ⟨book_of_run hmd ops, FirstCome.admitted_nodup _, FirstCome.length_admitted_le,
    fun later => ?_, fun ops' hsame => ?_⟩
  · rw [trackedTokens, trackedTokens, List.filterMap_append, List.map_append]
    exact FirstCome.admitted_prefix _ _
  · rw [exec_books hmd, exec_books hmd, hsame]

/-- An offer of 10 that has just filled 10 of a resting order is in the book with its 10. -/
theorem books_are_the_feeds_filled :
    (exec (engine bookMatching) bookMatching.init (restingRun ++ [offer])).2.books[(654321 : UInt32)]? =
      some (({} : ExternalBook).onNew 1 false 999 10) := by
  have htracked : 654321 ∈ trackedTokens bookMatching (restingRun ++ [offer]) := by decide +kernel
  have hmd : bookMatching.marketDataEnabled = true := rfl
  have hbook := (books_are_the_feeds hmd (restingRun ++ [offer])).1 654321
  rw [if_pos htracked] at hbook
  exact hbook

end NseFoExchangeSim.Engine
