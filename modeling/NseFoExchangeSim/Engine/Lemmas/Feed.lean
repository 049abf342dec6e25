import NseFoExchangeSim.Engine.Lemmas.State

/-!
# Feed messages

What a feed message does to the books, and that the routine for the resting orders runs on what it
leaves.
-/

namespace NseFoExchangeSim.Engine

open Protocol

variable {cfg : EngineConfig} {st : EngineState} {env : CallEnv} {token : UInt32}
  {book : ExternalBook} {op : Op}

/-- What a feed message is for: its surroundings, its token, and the book it leaves. It is an order
message of one of the types the feed loop passes on, or a trade message; it leaves no book when the
token is not tracked. -/
def feedBook (cfg : EngineConfig) (st : EngineState) :
    Op → Option (CallEnv × UInt32 × Option ExternalBook)
  | .tbtOrder env message =>
      if message.messageType = 'N'.toUInt8 ∨ message.messageType = 'M'.toUInt8 ∨
          message.messageType = 'X'.toUInt8 then
        some (env, message.token,
          (ensureBookLocked cfg st message.token).bind fun r => applyTbtOrderMessage message r.1)
      else none
  | .tbtTrade env message =>
      some (env, message.token,
        (ensureBookLocked cfg st message.token).map fun r =>
          r.1.onTrade message.buyOrderId message.sellOrderId message.tradePrice message.tradeQuantity)
  | _ => none

theorem applyTbtOrderMessage_known {message : TbtOrderMessage} (book : ExternalBook)
    (hknown : message.messageType = 'N'.toUInt8 ∨ message.messageType = 'M'.toUInt8 ∨
      message.messageType = 'X'.toUInt8) :
    ∃ book', applyTbtOrderMessage message book = some book' := by
  unfold applyTbtOrderMessage
  rcases hknown with ht | ht | ht
  · exact ⟨_, by rw [ht]; rfl⟩
  · exact ⟨_, by rw [ht]; rfl⟩
  · exact ⟨_, by rw [ht]; rfl⟩

/-- The two states differ at most in the book of the token, which is `book` in the second. -/
structure BookUpdate (token : UInt32) (book : ExternalBook) (st st' : EngineState) : Prop where
  only : st' = { st with books := st'.books }
  book : st'.books[token]? = some book
  others : ∀ t, t ≠ token → st'.books[t]? = st.books[t]?

theorem bookUpdate_insert {st₁ : EngineState} {book₀ : ExternalBook} (book : ExternalBook)
    (hens : ensureBookLocked cfg st token = some (book₀, st₁)) :
    BookUpdate token book st { st₁ with books := st₁.books.insert token book } := by
  obtain ⟨hst₁, _, hother, _⟩ := ensureBookLocked_spec cfg hens
  refine ⟨?_, by simp, fun t ht => ?_⟩
  · rw [hst₁]
  · rw [← hother t ht, Std.ExtTreeMap.getElem?_insert,
      if_neg fun hc => ht (Std.LawfulEqOrd.compare_eq_iff_eq.mp hc).symm]

/-- A feed message that leaves a book runs the routine with it. -/
theorem engine_feed (hfeed : feedBook cfg st op = some (env, token, some book)) :
    ∃ st', BookUpdate token book st st' ∧
      engine cfg st op = maybeFillRestingOrdersLocked env token st' := by
  cases op with
  | tbtOrder env' message =>
      rw [feedBook] at hfeed
      split at hfeed
      · cases hens : ensureBookLocked cfg st message.token with
        | none =>
            rw [hens] at hfeed
            cases hfeed
        | some made =>
            obtain ⟨book₀, st₁⟩ := made
            rw [hens, Option.bind_some] at hfeed
            cases happly : applyTbtOrderMessage message book₀ with
            | none =>
                rw [happly] at hfeed
                cases hfeed
            | some book' =>
                rw [happly] at hfeed
                cases hfeed
                refine ⟨_, bookUpdate_insert book hens, ?_⟩
                simp only [engine, onTbtOrderMessage, hens, happly]
      · cases hfeed
  | tbtTrade env' message =>
      rw [feedBook] at hfeed
      cases hens : ensureBookLocked cfg st message.token with
      | none =>
          rw [hens] at hfeed
          cases hfeed
      | some made =>
          obtain ⟨book₀, st₁⟩ := made
          rw [hens] at hfeed
          cases hfeed
          refine ⟨_, bookUpdate_insert _ hens, ?_⟩
          simp only [engine, onTbtTradeMessage, hens]
  | newOrder _ _ _ _ => cases hfeed
  | modifyOrder _ _ _ _ => cases hfeed
  | cancelOrder _ _ _ _ => cases hfeed
  | sessionClosed _ => cases hfeed

/-- A feed message that leaves no book is for a token the engine does not track, and does nothing. -/
theorem engine_feed_untracked (hfeed : feedBook cfg st op = some (env, token, none)) :
    engine cfg st op = ([], st) ∧ ensureBookLocked cfg st token = none := by
  cases op with
  | tbtOrder env' message =>
      rw [feedBook] at hfeed
      split at hfeed
      · rename_i hknown
        cases hens : ensureBookLocked cfg st message.token with
        | none =>
            rw [hens] at hfeed
            cases hfeed
            refine ⟨?_, hens⟩
            simp only [engine, onTbtOrderMessage, hens]
        | some made =>
            obtain ⟨book', happly⟩ := applyTbtOrderMessage_known made.1 hknown
            rw [hens, Option.bind_some, happly] at hfeed
            cases hfeed
      · cases hfeed
  | tbtTrade env' message =>
      rw [feedBook] at hfeed
      cases hens : ensureBookLocked cfg st message.token with
      | none =>
          rw [hens] at hfeed
          cases hfeed
          refine ⟨?_, hens⟩
          simp only [engine, onTbtTradeMessage, hens]
      | some made =>
          rw [hens] at hfeed
          cases hfeed
  | newOrder _ _ _ _ => cases hfeed
  | modifyOrder _ _ _ _ => cases hfeed
  | cancelOrder _ _ _ _ => cases hfeed
  | sessionClosed _ => cases hfeed

end NseFoExchangeSim.Engine
