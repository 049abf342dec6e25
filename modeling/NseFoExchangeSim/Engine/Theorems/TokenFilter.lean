import NseFoExchangeSim.Engine.Theorems.Isolation

/-!
# The token filter and the cap on books

With market data enabled the engine keeps books for tokens of its file only, and no more of them than
the configuration allows. A feed message for a token that may not have a book might as well not have
been sent.
-/

namespace NseFoExchangeSim.Engine

open Lib Protocol Std

variable {cfg : EngineConfig} {h es : List EngineEvent} {st st' : EngineState} {l : Label} {op : Op}
  {token : UInt32} {book : ExternalBook}

/-! ## Tokens that may not have a book -/

/-- The token of a feed message. -/
def Op.feedToken : Op → Option UInt32
  | .tbtOrder _ message => some message.token
  | .tbtTrade _ message => some message.token
  | _ => none

/-- The token is not in the file, or it has no book and there is no place for one. -/
def Untrackable (cfg : EngineConfig) (st : EngineState) (token : UInt32) : Prop :=
  cfg.allowedTokens.contains token = false ∨
    (token ∉ st.books ∧ cfg.config.maxBookContracts.toNat ≤ st.books.size)

instance (cfg : EngineConfig) (st : EngineState) (token : UInt32) :
    Decidable (Untrackable cfg st token) :=
  inferInstanceAs (Decidable (_ ∨ _))

/-- A feed message for a token that may not have a book. -/
def Ignored (cfg : EngineConfig) (st : EngineState) (op : Op) : Prop :=
  ∃ token ∈ op.feedToken, Untrackable cfg st token

instance (cfg : EngineConfig) (st : EngineState) (op : Op) : Decidable (Ignored cfg st op) :=
  inferInstanceAs (Decidable (∃ token ∈ op.feedToken, Untrackable cfg st token))

/-- The calls of a run without the feed messages that find no book and may not make one. -/
abbrev withoutIgnored (cfg : EngineConfig) : EngineState → List Op → List Op :=
  discard (engine cfg) (Ignored cfg)

theorem canTrackTokenLocked_iff (hmd : cfg.marketDataEnabled = true) :
    canTrackTokenLocked cfg st token = true ↔
      cfg.allowedTokens.contains token = true ∧
        (token ∈ st.books ∨ st.books.size < cfg.config.maxBookContracts.toNat) := by
  simp only [canTrackTokenLocked, hmd, Bool.not_true, Bool.false_eq_true, if_false]
  split
  · rename_i hout
    have hnot : cfg.allowedTokens.contains token = false := by simpa using hout
    simp [hnot]
  · rename_i hin
    have hallowed : cfg.allowedTokens.contains token = true := by simpa using hin
    simp [hallowed]

theorem canTrackTokenLocked_eq_false_iff (hmd : cfg.marketDataEnabled = true) :
    canTrackTokenLocked cfg st token = false ↔ Untrackable cfg st token := by
  rw [← Bool.not_eq_true, canTrackTokenLocked_iff hmd, Untrackable, not_and_or, not_or,
    Bool.not_eq_true, Nat.not_lt]

theorem ensureBookLocked_eq_none (hu : Untrackable cfg st token) :
    ensureBookLocked cfg st token = none := by
  unfold ensureBookLocked
  split
  · rfl
  · rename_i hmd
    have hmd : cfg.marketDataEnabled = true := by simpa using hmd
    rw [(canTrackTokenLocked_eq_false_iff hmd).mpr hu]
    rfl

/-- A feed message for a token that may not have a book changes nothing and emits nothing. -/
theorem engine_ignored (hi : Ignored cfg st op) : engine cfg st op = ([], st) := by
  obtain ⟨token, htoken, hu⟩ := hi
  cases op with
  | tbtOrder env message =>
      cases htoken
      simp only [engine, onTbtOrderMessage, ensureBookLocked_eq_none hu]
  | tbtTrade env message =>
      cases htoken
      simp only [engine, onTbtTradeMessage, ensureBookLocked_eq_none hu]
  | newOrder _ _ _ _ => cases htoken
  | modifyOrder _ _ _ _ => cases htoken
  | cancelOrder _ _ _ _ => cases htoken
  | sessionClosed _ => cases htoken

/-! ## The cap -/

/-- The books are for tokens of the file, and no more than the cap. -/
structure Capped (cfg : EngineConfig) (st : EngineState) : Prop where
  allowed : ∀ t, t ∈ st.books → cfg.allowedTokens.contains t = true
  size : st.books.size ≤ cfg.config.maxBookContracts.toNat

theorem Capped.congr (hc : Capped cfg st) (hbooks : st'.books = st.books) : Capped cfg st' := by
  refine ⟨?_, ?_⟩
  · rw [hbooks]
    exact hc.allowed
  · rw [hbooks]
    exact hc.size

theorem Capped.insert (hc : Capped cfg st) (hmd : cfg.marketDataEnabled = true)
    (htrack : canTrackTokenLocked cfg st token = true)
    (hbooks : st'.books = st.books.insert token book) : Capped cfg st' := by
  obtain ⟨hallowed, hroom⟩ := (canTrackTokenLocked_iff hmd).mp htrack
  refine ⟨fun t ht => ?_, ?_⟩
  · rw [hbooks, ExtTreeMap.mem_insert] at ht
    rcases ht with heq | ht
    · rw [← LawfulEqOrd.compare_eq_iff_eq.mp heq]
      exact hallowed
    · exact hc.allowed t ht
  · rw [hbooks, ExtTreeMap.size_insert]
    split
    · exact hc.size
    · rename_i hnew
      rcases hroom with hin | hlt
      · exact absurd (ExtTreeMap.mem_iff_contains.mp hin) hnew
      · omega

/-- Making the book of a token keeps the cap, and the token can be tracked after it. -/
theorem Capped.ensure (hc : Capped cfg st)
    (hens : ensureBookLocked cfg st token = some (book, st')) :
    Capped cfg st' ∧ canTrackTokenLocked cfg st' token = true := by
  obtain ⟨-, hself, -, -, hmd⟩ := ensureBookLocked_spec cfg hens
  have hcapped : Capped cfg st' := by
    unfold ensureBookLocked at hens
    split at hens
    · cases hens
    · split at hens
      · cases hens
      · rename_i htrack
        have htrack : canTrackTokenLocked cfg st token = true := by simpa using htrack
        split at hens
        · cases hens
          exact hc
        · cases hens
          exact hc.insert hmd htrack rfl
  have hmem : token ∈ st'.books := by
    rw [ExtTreeMap.mem_iff_isSome_getElem?, hself]
    rfl
  exact ⟨hcapped, (canTrackTokenLocked_iff hmd).mpr ⟨hcapped.allowed token hmem, .inl hmem⟩⟩

theorem Capped.entered (hc : Capped cfg st) : Capped cfg (acceptedState cfg token st) := by
  have hbooks := acceptedState_books cfg st token
  cases hens : ensureBookLocked cfg st token with
  | none =>
      rw [hens] at hbooks
      exact hc.congr hbooks
  | some made =>
      rw [hens, Option.map_some, Option.getD_some] at hbooks
      exact (hc.ensure hens).1.congr hbooks

/-- The act applies no feed message to a book. -/
abbrev NoFeed (_ : List EngineEvent) (_ : EngineState) (l : Label) : Prop := l ≠ .market

theorem Capped.act (hc : Capped cfg st) (hl : l ≠ .market) (ha : Act cfg l st es st') :
    Capped cfg st' := by
  cases l with
  | accept snapshot =>
      cases ha.entry.2 with
      | passes _ _ hpasses hrest => exact hc.entered.congr rfl
      | rests hmd hday => exact hc.entered.congr rfl
  | modify request =>
      cases ha with
      | modify now hm hl => exact hc.congr rfl
  | market => exact absurd rfl hl
  | other =>
      cases ha with
      | reject he => exact hc
      | fill token now hlive hpos hle htoken htop hf => exact hc.congr afterFill_books
      | cancel now hlive => exact hc.congr (eraseOpenOrderLocked_books _ _)
      | drop arg hlive harg => exact hc.congr (eraseOpenOrderLocked_books _ _)

theorem Capped.steps {h' : List EngineEvent} (hc : Capped cfg st)
    (hs : Steps (ActWith cfg NoFeed) (h, st) (h', st')) : Capped cfg st' :=
  hs.invariant (P := fun _ st => Capped cfg st)
    (fun _ _ _ _ hc ⟨_, ha, hl⟩ => hc.act hl ha) hc

/-- What is left to do once the book of a message is written keeps the cap. -/
theorem Capped.feed (hc : Capped cfg st) (env : CallEnv)
    (hens : ensureBookLocked cfg st token = some (book, st')) (book' : ExternalBook) :
    Capped cfg (maybeFillRestingOrdersLocked env token
      { st' with books := st'.books.insert token book' }).2 := by
  obtain ⟨hcapped, htrack⟩ := hc.ensure hens
  have hmd := (ensureBookLocked_spec cfg hens).2.2.2.2
  have hwritten : Capped cfg { st' with books := st'.books.insert token book' } :=
    hcapped.insert hmd htrack rfl
  have hnofeed : ∀ h st, NoFeed h st .other := fun _ _ => by simp
  exact hwritten.steps (maybeFillRestingOrdersLocked_steps (h := []) hnofeed env token)

theorem engine_capped (hc : Capped cfg st) (op : Op) : Capped cfg (engine cfg st op).2 := by
  have hnofeed : ∀ h st, NoFeed h st .other := fun _ _ => by simp
  cases op with
  | newOrder env request sessionId session =>
      have hl : label cfg st (.newOrder env request sessionId session) ≠ .market := by
        simp only [label]
        split <;> simp
      exact hc.steps (engine_steps (h := []) hnofeed _ hl)
  | modifyOrder env request sessionId session =>
      have hl : label cfg st (.modifyOrder env request sessionId session) ≠ .market := by
        simp only [label]
        split <;> simp
      exact hc.steps (engine_steps (h := []) hnofeed _ hl)
  | cancelOrder env request sessionId session =>
      exact hc.steps (engine_steps (h := []) hnofeed (.cancelOrder env request sessionId session)
        (by simp [NoFeed, label]))
  | tbtOrder env message =>
      rw [engine, onTbtOrderMessage]
      cases hens : ensureBookLocked cfg st message.token with
      | none => exact hc
      | some made =>
          simp only []
          cases applyTbtOrderMessage message made.1 with
          | none => exact (hc.ensure hens).1
          | some book' => exact hc.feed env hens book'
  | tbtTrade env message =>
      rw [engine, onTbtTradeMessage]
      cases hens : ensureBookLocked cfg st message.token with
      | none => exact hc
      | some made => exact hc.feed env hens _
  | sessionClosed sessionId =>
      exact hc.steps (engine_steps (h := []) hnofeed (.sessionClosed sessionId)
        (by simp [NoFeed, label]))

theorem Reachable.capped (r : Reachable cfg h st) : Capped cfg st := by
  refine r.invariant (P := fun _ st => Capped cfg st) ⟨?_, ?_⟩ fun _ _ op _ hc _ => engine_capped hc op
  · intro t ht
    simp [EngineConfig.init] at ht
  · simp [EngineConfig.init]

/-! ## Books stay -/

theorem Act.keeps (ha : Act cfg l st es st') (ht : token ∈ st.books) : token ∈ st'.books := by
  rcases ha.enters with ⟨snapshot, _, hentry⟩ | hnone
  · have hentered : token ∈ (acceptedState cfg snapshot.token st).books :=
      acceptedState_keeps cfg st _ ht
    cases hentry with
    | passes _ _ hpasses hrest => exact hentered
    | rests hmd hday => exact hentered
  · exact hnone.books token ht

theorem engine_keeps (op : Op) (ht : token ∈ st.books) : token ∈ (engine cfg st op).2.books := by
  have hsteps : Steps (ActWith cfg fun _ _ _ => True) ([], st)
      ([] ++ (engine cfg st op).1, (engine cfg st op).2) :=
    engine_steps (fun _ _ => trivial) op trivial
  exact hsteps.invariant (P := fun _ st => token ∈ st.books)
    (fun _ _ _ _ ht ⟨_, ha, _⟩ => ha.keeps ht) ht

theorem exec_keeps (ops : List Op) (ht : token ∈ st.books) :
    token ∈ (exec (engine cfg) st ops).2.books := by
  induction ops generalizing st with
  | nil => exact ht
  | cons op ops ih => exact ih (engine_keeps op ht)

theorem Act.confirmedToken (hmd : cfg.marketDataEnabled = true) (ha : Act cfg l st es st')
    {e : EngineEvent} (he : e ∈ es) (hconf : e.isConfirmation = true) :
    e.order.token ∈ st'.books := by
  rcases ha.enters with ⟨snapshot, hac, hentry⟩ | hnone
  · have htrack := acceptedState_tracks cfg st _ hmd hac.tracked
    cases hentry with
    | passes _ _ hpasses hrest =>
        rcases List.mem_cons.mp he with rfl | he
        · exact htrack
        · rw [hrest e he] at hconf
          cases hconf
    | rests _ hday =>
        rw [List.mem_singleton.mp he]
        exact htrack
  · rw [hnone.unconfirmed e he] at hconf
    cases hconf

/-- The token of an accepted order has a book ever after. -/
theorem Reachable.confirmedTokens (hmd : cfg.marketDataEnabled = true) (r : Reachable cfg h st) :
    ∀ e ∈ h, e.isConfirmation = true → e.order.token ∈ st.books := by
  refine anyRun_induct
    (P := fun h st => ∀ e ∈ h, e.isConfirmation = true → e.order.token ∈ st.books) (by simp) ?_ r
  intro h st l es st' hall ha e he hconf
  rcases List.mem_append.mp he with he | he
  · exact ha.keeps (hall e he hconf)
  · exact ha.confirmedToken hmd he hconf

/-! ## Orders refused for their token -/

theorem onNewOrder_unsupportedToken (hmd : cfg.marketDataEnabled = true) {env : CallEnv}
    {request : OrderEntryRequestPayload} {sessionId : UInt64} {session : SessionRef}
    (hvalid : isValidNewOrder (buildSnapshotFromEntryRequest request sessionId session) request) :
    (∃ e, Op.refusal kErrorUnsupportedToken (.newOrder env request sessionId session) = some e ∧
        engine cfg st (.newOrder env request sessionId session) = ([e], st)) ↔
      Untrackable cfg st (buildSnapshotFromEntryRequest request sessionId session).token := by
  rw [← canTrackTokenLocked_eq_false_iff hmd]
  refine ⟨fun ⟨e, hrefusal, heq⟩ => ?_, fun htrack => ⟨_, rfl, ?_⟩⟩
  · cases htrack : canTrackTokenLocked cfg st
        (buildSnapshotFromEntryRequest request sessionId session).token with
    | false => rfl
    | true =>
        -- a tracked order is confirmed, and a confirmation is no error
        have hl : label cfg st (.newOrder env request sessionId session) =
            .accept (acceptedSnapshot env
              (buildSnapshotFromEntryRequest request sessionId session) st) := by
          simp only [label, hvalid, htrack, Bool.and_self, if_true]
        obtain ⟨rest, hfirst⟩ := engine_confirms hl
        rw [heq] at hfirst
        have hcode := Op.refusal_errorCode hrefusal
        rw [(List.cons.inj hfirst).1] at hcode
        exact absurd hcode.symm kErrorUnsupportedToken_ne_zero
  · simp only [engine, onNewOrder, hvalid, hmd, htrack, Bool.not_true, Bool.not_false,
      Bool.and_self, Bool.false_eq_true, if_false, if_true]

/-! ## The filter and the cap -/

/-- In every reachable state the books are for tokens of the file and no more than the cap, no book is
ever dropped, and every open and every accepted order has one. The feed messages for other tokens can
be left out of a run: each of its prefixes keeps its events and its state. A valid order is refused for
its token exactly when the token may not have a book. -/
theorem token_filter_and_cap (hmd : cfg.marketDataEnabled = true) (r : Reachable cfg h st) :
    (∀ t, t ∈ st.books → cfg.allowedTokens.contains t = true) ∧
      st.books.size ≤ cfg.config.maxBookContracts.toNat ∧
      (∀ k o, st.openOrders.find? k = some o → o.token ∈ st.books) ∧
      (∀ ops t, t ∈ st.books → t ∈ (exec (engine cfg) st ops).2.books) ∧
      (∀ op, Ignored cfg st op → engine cfg st op = ([], st)) ∧
      (∀ ops later,
        exec (engine cfg) st (withoutIgnored cfg st ops) = exec (engine cfg) st ops ∧
          withoutIgnored cfg st (ops ++ later) =
            withoutIgnored cfg st ops ++
              withoutIgnored cfg (exec (engine cfg) st ops).2 later) ∧
      (∀ e ∈ h, e.isConfirmation = true → e.order.token ∈ st.books) ∧
      ∀ env request sessionId session,
        isValidNewOrder (buildSnapshotFromEntryRequest request sessionId session) request →
          ((∃ e, Op.refusal kErrorUnsupportedToken (.newOrder env request sessionId session) =
                some e ∧
              engine cfg st (.newOrder env request sessionId session) = ([e], st)) ↔
            Untrackable cfg st (buildSnapshotFromEntryRequest request sessionId session).token) := by
  have hcapped := r.capped
  refine ⟨hcapped.allowed, hcapped.size, fun k o ho => (r.counted.resting k o ho).2.2.1,
    fun ops t => exec_keeps ops, fun op => engine_ignored, fun ops later => ⟨?_, ?_⟩,
    r.confirmedTokens hmd, fun env request sessionId session => onNewOrder_unsupportedToken hmd⟩
  · exact exec_discard _ _ (fun _ _ => engine_ignored) st ops
  · exact discard_append _ _ st ops later

/-- The book-matching test's configuration with a place for one book. -/
def oneBook : EngineConfig :=
  { bookMatching with config := { bookMatching.config with maxBookContracts := 1 } }

/-- Once the place is taken an order for another token of the file is refused. -/
theorem token_filter_and_cap_taken :
    ∃ e, e.errorCode = kErrorUnsupportedToken ∧
      (engine oneBook (exec (engine oneBook) oneBook.init restingRun).2
        (.newOrder calm (orderRequest 765432 1 25 1000 kOrderFlagsDay) 1 1)).1 = [e] := by
  obtain ⟨-, -, -, -, -, -, -, hrefused⟩ :=
    token_filter_and_cap rfl (run_exec (engine oneBook) oneBook.init restingRun)
  obtain ⟨e, hrefusal, heq⟩ :=
    (hrefused calm (orderRequest 765432 1 25 1000 kOrderFlagsDay) 1 1 (by decide +kernel)).mpr
      (.inr (by decide +kernel))
  exact ⟨e, Op.refusal_errorCode hrefusal, congrArg Prod.fst heq⟩

end NseFoExchangeSim.Engine
