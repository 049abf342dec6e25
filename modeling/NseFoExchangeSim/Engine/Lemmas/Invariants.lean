import NseFoExchangeSim.Lib.Counter
import NseFoExchangeSim.Engine.Lemmas.Decompose
import NseFoExchangeSim.Engine.Lemmas.Events

/-!
# Invariants of the open orders

What holds in every state a run reaches: order numbers are drawn in sequence, an open order rests
because it may, and, as long as the 64-bit counter has not come round, the two indexes list exactly
the open orders.
-/

namespace NseFoExchangeSim.Engine

open Lib

variable {cfg : EngineConfig} {h es : List EngineEvent} {st st' : EngineState} {l : Label}

/-! ## From acts to runs -/

/-- A condition on the first act of a call, as a condition on the call. -/
def CallsMeet (cfg : EngineConfig) (ok : List EngineEvent → EngineState → Label → Prop)
    (h : List EngineEvent) (st : EngineState) (op : Op) : Prop :=
  ok h st (label cfg st op)

instance (ok : List EngineEvent → EngineState → Label → Prop) [∀ h st l, Decidable (ok h st l)]
    (h : List EngineEvent) (st : EngineState) (op : Op) : Decidable (CallsMeet cfg ok h st op) :=
  inferInstanceAs (Decidable (ok h st (label cfg st op)))

/-- What every act keeps, every run keeps, whatever state it starts from. -/
theorem run_induct {ok : List EngineEvent → EngineState → Label → Prop} {s₀ : EngineState}
    {P : List EngineEvent → EngineState → Prop} (hother : ∀ h st, ok h st .other) (h0 : P [] s₀)
    (hact : ∀ h st l es st', P h st → ok h st l → Act cfg l st es st' → P (h ++ es) st')
    (r : Run (engine cfg) (CallsMeet cfg ok) s₀ h st) : P h st := by
  refine Run.invariant_of_steps (R := ActWith cfg ok) h0 ?_ ?_ r
  · intro h st op _ hok
    exact engine_steps hother op hok
  · rintro h st es st' hp ⟨l, ha, hl⟩
    exact hact h st l es st' hp hl ha

theorem anyRun_induct {s₀ : EngineState} {P : List EngineEvent → EngineState → Prop} (h0 : P [] s₀)
    (hact : ∀ h st l es st', P h st → Act cfg l st es st' → P (h ++ es) st')
    (r : Run (engine cfg) anyCall s₀ h st) : P h st :=
  @run_induct cfg _ _ (fun _ _ _ => True) _ _ (fun _ _ => trivial) h0
    (fun h st l es st' hp _ ha => hact h st l es st' hp ha)
    (r.mono fun _ _ _ _ => trivial)

/-! ## Entries and other acts -/

/-- What entering an order comes to: it is answered at once and only counters are drawn, or it rests. -/
inductive Entry (cfg : EngineConfig) (st : EngineState) (snapshot : OrderSnapshot) :
    List EngineEvent → EngineState → Prop
  | passes {rest} (nextFillNumber nextLastActivityReference)
      (hpasses : cfg.marketDataEnabled = true → snapshot.ioc = true)
      (hrest : ∀ e ∈ rest, e.isConfirmation = false) :
      Entry cfg st snapshot (confirmationEvent snapshot :: rest)
        { acceptedState cfg snapshot.token st with nextFillNumber, nextLastActivityReference }
  | rests (hmd : cfg.marketDataEnabled = true) (hday : snapshot.ioc = false) :
      Entry cfg st snapshot [confirmationEvent snapshot]
        (storeOpenOrderLocked snapshot (acceptedState cfg snapshot.token st))

theorem Act.entry {snapshot : OrderSnapshot} (ha : Act cfg (.accept snapshot) st es st') :
    Accepted cfg st snapshot ∧ Entry cfg st snapshot es st' := by
  cases ha with
  | enterImmediate now hac hmd hs hf =>
      subst hs
      refine ⟨hac, .passes _ _ (fun hlit => ?_) (by simp)⟩
      rw [hmd] at hlit
      cases hlit
  | enterDay hac hmd hday hs =>
      subst hs
      exact ⟨hac, .rests hmd hday⟩
  | enterIocUnfilled now hac hmd hioc hs =>
      subst hs
      exact ⟨hac, .passes _ _ (fun _ => hioc) (by simp)⟩
  | enterIocFilled now hac hmd hioc hs htop hpos hle hf hrest =>
      subst hs
      exact ⟨hac, .passes _ _ (fun _ => hioc) (by simp)⟩
  | enterIocPartial now now' hac hmd hioc hs htop hpos hle hf hrest =>
      subst hs
      exact ⟨hac, .passes _ _ (fun _ => hioc) (by simp)⟩

/-- What an order that stays open may become. -/
inductive Becomes (st : EngineState) (live : OrderSnapshot) : OrderSnapshot → Prop
  | same : Becomes st live live
  | modified {request} (r now) (hm : Modifies st request live) :
      Becomes st live (modifySnapshot live request r now)
  | filled {quantity} (now) (hle : quantity ≤ live.totalVolumeRemaining)
      (hrest : (nextFill st live quantity now).totalVolumeRemaining ≠ 0) :
      Becomes st live (nextFill st live quantity now)

/-- What an act that enters no order leaves alone. -/
structure EntersNone (st : EngineState) (es : List EngineEvent) (st' : EngineState) : Prop where
  unconfirmed : ∀ e ∈ es, e.isConfirmation = false
  next : st'.nextExchangeOrderNumber = st.nextExchangeOrderNumber
  books : ∀ t, t ∈ st.books → t ∈ st'.books
  orders : ∀ k o, st'.openOrders.find? k = some o →
    ∃ live, st.openOrders.find? k = some live ∧ Becomes st live o

/-- The order is gone, the others stay. -/
theorem orders_of_erase {arg : SnapshotArg} {o : OrderSnapshot} (hread : arg.read st'.openOrders = some o)
    (hopen : st'.openOrders = st.openOrders) :
    ∀ k o, (eraseOpenOrderLocked arg st').openOrders.find? k = some o →
      ∃ live, st.openOrders.find? k = some live ∧ Becomes st live o := by
  intro k o' ho'
  rw [eraseOpenOrderLocked_find? hread] at ho'
  split at ho'
  · cases ho'
  · rw [← hopen]
    exact ⟨o', ho', .same⟩

/-- Every act enters an order or none. -/
theorem Act.enters (ha : Act cfg l st es st') :
    (∃ snapshot, Accepted cfg st snapshot ∧ Entry cfg st snapshot es st') ∨ EntersNone st es st' := by
  cases l with
  | accept snapshot => exact .inl ⟨snapshot, ha.entry⟩
  | modify request =>
      right
      cases ha with
      | @modify _ _ live modified now hm hl =>
          subst hl
          refine ⟨by simp, rfl, fun _ => id, fun k o ho => ?_⟩
          rw [OrderStore.find?_put] at ho
          split at ho
          · rename_i hk
            cases ho
            rw [hk]
            exact ⟨live, hm.live, .modified _ now hm⟩
          · exact ⟨o, ho, .same⟩
  | market =>
      right
      cases ha with
      | market books hkeep => exact ⟨by simp, rfl, hkeep, fun k o ho => ⟨o, ho, .same⟩⟩
  | other =>
      right
      cases ha with
      | reject he =>
          refine ⟨fun e' he' => ?_, rfl, fun _ => id, fun k o ho => ⟨o, ho, .same⟩⟩
          rw [List.mem_singleton.mp he']
          exact (failed_kind he).2.1
      | @fill _ live filled price quantity token now hlive hpos hle htoken htop hf =>
          subst hf
          have hopen : st.openOrders.find? (nextFill st live quantity now).exchangeOrderNumber =
              some live := hlive
          refine ⟨by simp, by simp, by simp, fun k o ho => ?_⟩
          rw [afterFill_find? hopen] at ho
          split at ho
          · rename_i hk
            split at ho
            · cases ho
            · rename_i hrest
              cases ho
              rw [hk]
              exact ⟨live, hopen, .filled now hle hrest⟩
          · exact ⟨o, ho, .same⟩
      | cancel now hlive =>
          exact ⟨by simp, by simp [drawReference], by simp [drawReference], orders_of_erase rfl rfl⟩
      | drop arg hlive harg => exact ⟨by simp, by simp, by simp, orders_of_erase harg rfl⟩

/-! ## Order numbers -/

/-- The number of the order accepted after `i` others. -/
def orderNumber (cfg : EngineConfig) (i : Nat) : UInt64 :=
  cfg.config.exchangeOrderNumberStart + UInt64.ofNat i

theorem orderNumber_succ (i : Nat) : orderNumber cfg (i + 1) = orderNumber cfg i + 1 :=
  drawn_succ _ i

theorem orderNumber_inj {i j : Nat} (hi : i < 2 ^ 64) (hj : j < 2 ^ 64)
    (he : orderNumber cfg i = orderNumber cfg j) : i = j := drawn_inj hi hj he

/-- The number has been given to an order. -/
def Used (cfg : EngineConfig) (h : List EngineEvent) (k : UInt64) : Prop :=
  ∃ i, i < acceptedCount h ∧ k = orderNumber cfg i

theorem Used.mono {k : UInt64} (hu : Used cfg h k) : Used cfg (h ++ es) k := by
  obtain ⟨i, hi, hk⟩ := hu
  refine ⟨i, ?_, hk⟩
  rw [acceptedCount_append]
  omega

theorem Used.ne_next {k : UInt64} (hu : Used cfg h k) (hlt : acceptedCount h < 2 ^ 64) :
    k ≠ orderNumber cfg (acceptedCount h) := by
  obtain ⟨i, hi, rfl⟩ := hu
  intro he
  have := orderNumber_inj (by omega) hlt he
  omega

/-! ## Numbering -/

/-- The numbers given out so far, and why the open orders rest. -/
structure Counted (cfg : EngineConfig) (h : List EngineEvent) (st : EngineState) : Prop where
  next : st.nextExchangeOrderNumber = orderNumber cfg (acceptedCount h)
  confirmed : ∀ e ∈ h, e.isConfirmation = true → Used cfg h e.order.exchangeOrderNumber
  stored : ∀ k o, st.openOrders.find? k = some o → Used cfg h k
  resting : ∀ k o, st.openOrders.find? k = some o →
    cfg.marketDataEnabled = true ∧ o.ioc = false ∧ o.token ∈ st.books ∧
      cfg.allowedTokens.contains o.token = true

theorem Counted.quiet (hc : Counted cfg h st) (hq : EntersNone st es st') :
    Counted cfg (h ++ es) st' := by
  have hcount : acceptedCount es = 0 := acceptedCount_eq_zero hq.unconfirmed
  refine ⟨?_, ?_, ?_, ?_⟩
  · rw [hq.next, hc.next, acceptedCount_append, hcount, Nat.add_zero]
  · intro e he hconf
    rcases List.mem_append.mp he with he | he
    · exact (hc.confirmed e he hconf).mono
    · rw [hq.unconfirmed e he] at hconf; cases hconf
  · intro k o ho
    obtain ⟨live, hlive, _⟩ := hq.orders k o ho
    exact (hc.stored k live hlive).mono
  · intro k o ho
    obtain ⟨live, hlive, hbecomes⟩ := hq.orders k o ho
    obtain ⟨hmd, hday, hbook, hallowed⟩ := hc.resting k live hlive
    have hsame : o.ioc = live.ioc ∧ o.token = live.token := by cases hbecomes <;> exact ⟨rfl, rfl⟩
    rw [hsame.1, hsame.2]
    exact ⟨hmd, hday, hq.books _ hbook, hallowed⟩

theorem Counted.accepts {snapshot : OrderSnapshot} {rest : List EngineEvent} (hc : Counted cfg h st)
    (ha : Accepted cfg st snapshot) (hn : st'.nextExchangeOrderNumber =
      st.nextExchangeOrderNumber + 1) (hrest : ∀ e ∈ rest, e.isConfirmation = false)
    (hbooks : ∀ t, t ∈ st.books → t ∈ st'.books)
    (hfind : ∀ k o, st'.openOrders.find? k = some o → st.openOrders.find? k = some o ∨
      (k = snapshot.exchangeOrderNumber ∧ cfg.marketDataEnabled = true ∧ o.ioc = false ∧
        o.token ∈ st'.books ∧ cfg.allowedTokens.contains o.token = true)) :
    Counted cfg (h ++ confirmationEvent snapshot :: rest) st' := by
  have hcount : acceptedCount (h ++ confirmationEvent snapshot :: rest) = acceptedCount h + 1 := by
    simp [acceptedCount_eq_zero hrest]
  have hused : Used cfg (h ++ confirmationEvent snapshot :: rest) snapshot.exchangeOrderNumber :=
    ⟨acceptedCount h, by omega, by rw [ha.number, hc.next]⟩
  refine ⟨?_, ?_, ?_, ?_⟩
  · rw [hn, hc.next, hcount, orderNumber_succ]
  · intro e he hconf
    rcases List.mem_append.mp he with he | he
    · exact (hc.confirmed e he hconf).mono
    · rcases List.mem_cons.mp he with rfl | he
      · exact hused
      · rw [hrest e he] at hconf; cases hconf
  · intro k o ho
    rcases hfind k o ho with ho' | ⟨rfl, _⟩
    · exact (hc.stored k o ho').mono
    · exact hused
  · intro k o ho
    rcases hfind k o ho with ho' | ⟨_, hrest'⟩
    · obtain ⟨hmd, hday, hbook, hallowed⟩ := hc.resting k o ho'
      exact ⟨hmd, hday, hbooks _ hbook, hallowed⟩
    · exact hrest'

theorem Counted.act (hc : Counted cfg h st) (ha : Act cfg l st es st') :
    Counted cfg (h ++ es) st' := by
  rcases ha.enters with ⟨snapshot, hac, hentry⟩ | hnone
  · cases hentry with
    | passes _ _ hpasses hrest =>
        apply hc.accepts hac (by simp) hrest
        · exact fun t => acceptedState_keeps cfg st _
        · intro k o ho
          simp only [acceptedState_openOrders] at ho
          exact .inl ho
    | rests hmd hday =>
        apply hc.accepts hac (by simp [storeOpenOrderLocked]) (by simp)
        · exact fun t => acceptedState_keeps cfg st _
        · intro k o ho
          simp only [storeOpenOrderLocked, acceptedState_openOrders, OrderStore.find?_put] at ho
          split at ho
          · rename_i hk
            cases ho
            exact .inr ⟨hk, hmd, hday, acceptedState_tracks cfg st _ hmd hac.tracked,
              hac.allowed hmd⟩
          · exact .inl ho
  · exact hc.quiet hnone

/-- The next number is none that an open order has, before the counter comes round. -/
theorem Counted.fresh {k : UInt64} (hc : Counted cfg h st) (hk : k = st.nextExchangeOrderNumber)
    (hlt : acceptedCount h < 2 ^ 64) : st.openOrders.find? k = none := by
  cases ho : st.openOrders.find? k with
  | none => rfl
  | some o =>
      have hne := (hc.stored _ o ho).ne_next hlt
      rw [hk, hc.next] at hne
      exact absurd rfl hne

theorem Act.accepts {snapshot : OrderSnapshot} (ha : Act cfg (.accept snapshot) st es st') :
    acceptedCount es = 1 ∧ snapshot.exchangeOrderNumber = st.nextExchangeOrderNumber := by
  obtain ⟨hac, hentry⟩ := ha.entry
  refine ⟨?_, hac.number⟩
  cases hentry with
  | passes _ _ hpasses hrest => simp [acceptedCount_eq_zero hrest]
  | rests hmd hday => simp

theorem Counted.dark (hc : Counted cfg h st) (hmd : cfg.marketDataEnabled = false) (k : UInt64) :
    st.openOrders.find? k = none := by
  cases ho : st.openOrders.find? k with
  | none => rfl
  | some o =>
      obtain ⟨hmd', _⟩ := hc.resting k o ho
      rw [hmd] at hmd'
      cases hmd'

theorem Counted.init (cfg : EngineConfig) : Counted cfg [] cfg.init := by
  refine ⟨?_, by simp, ?_, ?_⟩
  · simp [EngineConfig.init, orderNumber]
  · intro k o ho
    rw [EngineConfig.init, OrderStore.find?_empty] at ho
    cases ho
  · intro k o ho
    rw [EngineConfig.init, OrderStore.find?_empty] at ho
    cases ho

theorem Reachable.counted (r : Reachable cfg h st) : Counted cfg h st :=
  anyRun_induct (.init cfg) (fun _ _ _ _ _ hc ha => hc.act ha) r

/-! ## The indexes -/

/-- The two indexes list exactly the open orders. -/
structure Indexed (st : EngineState) : Prop where
  byToken : st.openOrderIdsByToken.Indexes st.openOrders.find? (·.token)
  bySession : st.openOrderIdsBySession.Indexes st.openOrders.find? (·.sessionId)

theorem Indexed.init (cfg : EngineConfig) : Indexed cfg.init := by
  constructor <;> intro a b <;> simp [EngineConfig.init]

theorem Indexed.replace {o live : OrderSnapshot} (hi : Indexed st)
    (hlive : st.openOrders.find? o.exchangeOrderNumber = some live) (ht : o.token = live.token)
    (hs : o.sessionId = live.sessionId) (hfind : st'.openOrders = st.openOrders.put o)
    (htoken : st'.openOrderIdsByToken = st.openOrderIdsByToken)
    (hsession : st'.openOrderIdsBySession = st.openOrderIdsBySession) : Indexed st' := by
  have hself : st'.openOrders.find? o.exchangeOrderNumber = some o := by rw [hfind]; simp
  have hother : ∀ k, k ≠ o.exchangeOrderNumber →
      st'.openOrders.find? k = st.openOrders.find? k := by
    intro k hk
    rw [hfind, OrderStore.find?_put_of_ne _ hk]
  refine ⟨?_, ?_⟩
  · rw [htoken]
    exact hi.byToken.replace hlive hself ht hother
  · rw [hsession]
    exact hi.bySession.replace hlive hself hs hother

theorem Indexed.store {o : OrderSnapshot} (hi : Indexed st)
    (hnew : st.openOrders.find? o.exchangeOrderNumber = none) :
    Indexed (storeOpenOrderLocked o st) := by
  have hother : ∀ k, k ≠ o.exchangeOrderNumber →
      (st.openOrders.put o).find? k = st.openOrders.find? k :=
    fun k hk => OrderStore.find?_put_of_ne _ hk
  have hself := OrderStore.find?_put_self st.openOrders o
  exact ⟨hi.byToken.link hnew hself hother, hi.bySession.link hnew hself hother⟩

theorem Indexed.erase {arg : SnapshotArg} {o live : OrderSnapshot} (hi : Indexed st)
    (hread : arg.read st.openOrders = some o)
    (hlive : st.openOrders.find? o.exchangeOrderNumber = some live) (ht : o.token = live.token)
    (hs : o.sessionId = live.sessionId) : Indexed (eraseOpenOrderLocked arg st) := by
  have hother : ∀ k, k ≠ o.exchangeOrderNumber →
      (st.openOrders.erase o.exchangeOrderNumber).find? k = st.openOrders.find? k :=
    fun k hk => OrderStore.find?_erase_of_ne _ hk
  have hself := OrderStore.find?_erase_self st.openOrders o.exchangeOrderNumber
  rw [eraseOpenOrderLocked_of_read hread]
  refine ⟨?_, ?_⟩
  · have hunlink := hi.byToken.unlink hlive hself hother
    rwa [← ht] at hunlink
  · have hunlink := hi.bySession.unlink hlive hself hother
    rwa [← hs] at hunlink

theorem Indexed.congr (hi : Indexed st) (hfind : st'.openOrders = st.openOrders)
    (htoken : st'.openOrderIdsByToken = st.openOrderIdsByToken)
    (hsession : st'.openOrderIdsBySession = st.openOrderIdsBySession) : Indexed st' := by
  refine ⟨?_, ?_⟩
  · rw [htoken, hfind]; exact hi.byToken
  · rw [hsession, hfind]; exact hi.bySession

theorem Indexed.entered {token : UInt32} (hi : Indexed st) :
    Indexed (acceptedState cfg token st) :=
  hi.congr (by simp) (by simp) (by simp)

theorem Indexed.act (hi : Indexed st) (hc : Counted cfg h st)
    (hle : acceptedCount (h ++ es) ≤ 2 ^ 64) (ha : Act cfg l st es st') : Indexed st' := by
  cases l with
  | accept snapshot =>
      obtain ⟨hac, hentry⟩ := ha.entry
      cases hentry with
      | passes _ _ hpasses hrest => exact hi.entered.congr rfl rfl rfl
      | rests hmd hday =>
          have hlt : acceptedCount h < 2 ^ 64 := by
            simp only [acceptedCount_append, acceptedCount_cons, confirmationEvent_kind,
              if_true] at hle
            omega
          have hnew := hc.fresh hac.number hlt
          exact hi.entered.store (by simpa using hnew)
  | modify request =>
      cases ha with
      | @modify _ _ live modified now hm hl =>
          subst hl
          have hlive : st.openOrders.find?
              (modifySnapshot live request st.nextLastActivityReference now).exchangeOrderNumber =
                some live := hm.live
          exact hi.replace hlive rfl rfl rfl rfl rfl
  | market =>
      cases ha with
      | market books hkeep => exact hi.congr rfl rfl rfl
  | other =>
      cases ha with
      | reject he => exact hi
      | @fill _ live filled price quantity token now hlive hpos hle' htoken htop hf =>
          subst hf
          unfold afterFill
          split
          · have hdrawn : Indexed (drawFillNumbers st) := hi.congr rfl rfl rfl
            exact hdrawn.erase hlive hlive rfl rfl
          · have hopen : st.openOrders.find? (nextFill st live quantity now).exchangeOrderNumber =
                some live := hlive
            exact hi.replace hopen rfl rfl rfl rfl rfl
      | cancel now hlive =>
          have hdrawn : Indexed (drawReference st) := hi.congr rfl rfl rfl
          exact hdrawn.erase rfl hlive rfl rfl
      | drop arg hlive harg => exact hi.erase harg hlive rfl rfl

/-- The invariants of every run, the indexes included while the counter has not come round. -/
theorem Reachable.indexed (r : Reachable cfg h st) (hle : acceptedCount h ≤ 2 ^ 64) : Indexed st := by
  have hboth : Counted cfg h st ∧ (acceptedCount h ≤ 2 ^ 64 → Indexed st) := by
    refine anyRun_induct (P := fun h st => Counted cfg h st ∧ (acceptedCount h ≤ 2 ^ 64 → Indexed st))
      ⟨.init cfg, fun _ => .init cfg⟩ ?_ r
    rintro h st l es st' ⟨hc, hi⟩ ha
    refine ⟨hc.act ha, fun hle => ?_⟩
    refine (hi ?_).act hc hle ha
    rw [acceptedCount_append] at hle
    omega
  exact hboth.2 hle

end NseFoExchangeSim.Engine
