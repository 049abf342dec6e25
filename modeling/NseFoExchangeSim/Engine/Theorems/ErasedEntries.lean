import NseFoExchangeSim.Engine.Lemmas.Feed
import NseFoExchangeSim.Engine.Lemmas.PerOrder
import NseFoExchangeSim.Engine.Requests

/-!
# Reads of erased entries

`eraseOpenOrderLocked` erases the entry of an order first and reads the order's token and session
afterwards. A caller that passes a copy is safe; one that passes the entry itself makes it read what it
has just erased. Which operations do is decided here from their inputs.
-/

namespace NseFoExchangeSim.Engine

open Lib Protocol

variable {cfg : EngineConfig} {h : List EngineEvent} {st st' st'' : EngineState} {env : CallEnv}
  {n : UInt64} {o : OrderSnapshot} {price available : UInt32} {p q : Prop}

/-! ## Counting the reads -/

/-- From `st` to `st'` no read goes wrong exactly when `p` holds. -/
structure ReadsKept (st st' : EngineState) (p : Prop) : Prop where
  mono : st.staleReads ≤ st'.staleReads
  iff : st'.staleReads = st.staleReads ↔ p

namespace ReadsKept

theorem same (hsame : st'.staleReads = st.staleReads) (hp : p) : ReadsKept st st' p :=
  ⟨Nat.le_of_eq hsame.symm, ⟨fun _ => hp, fun _ => hsame⟩⟩

theorem trans (h : ReadsKept st st' p) (h' : ReadsKept st' st'' q) : ReadsKept st st'' (p ∧ q) := by
  obtain ⟨hle, hiff⟩ := h
  obtain ⟨hle', hiff'⟩ := h'
  refine ⟨Nat.le_trans hle hle', ?_⟩
  rw [← hiff, ← hiff']
  omega

theorem after (hsame : st'.staleReads = st.staleReads) (h : ReadsKept st' st'' p) :
    ReadsKept st st'' p := by
  obtain ⟨hle, hiff⟩ := h
  rw [hsame] at hle hiff
  exact ⟨hle, hiff⟩

theorem congr (h : ReadsKept st st' p) (hpq : p ↔ q) : ReadsKept st st' q :=
  ⟨h.mono, h.iff.trans hpq⟩

end ReadsKept

/-- A removal that holds a copy of the order reads nothing erased. -/
theorem eraseOpenOrderLocked_copy (o : OrderSnapshot) (st : EngineState) :
    (eraseOpenOrderLocked (.copy o) st).staleReads = st.staleReads := by
  have hread : (SnapshotArg.copy o).read st.openOrders = some o := rfl
  rw [eraseOpenOrderLocked_of_read hread]
  have hcount : (eraseReads (.copy o) o st).count none = 0 := by
    rw [List.count_eq_zero]
    simp [eraseReads, SnapshotArg.read]
  simp only [hcount, Nat.add_zero]

/-- A removal that holds the entry itself reads it after it is gone. -/
theorem eraseOpenOrderLocked_entry (ho : st.openOrders.find? n = some o) :
    ReadsKept st (eraseOpenOrderLocked (.entry n) st) False := by
  have hn := OrderStore.find?_number ho
  have hread : (SnapshotArg.entry n).read st.openOrders = some o := ho
  have hpos : 0 < (eraseReads (.entry n) o st).count none := by
    rw [List.count_pos_iff]
    have hgone : (SnapshotArg.entry n).read (st.openOrders.erase o.exchangeOrderNumber) = none := by
      rw [SnapshotArg.read, hn, OrderStore.find?_erase_self]
    simp [eraseReads, hgone]
  rw [eraseOpenOrderLocked_of_read hread]
  refine ⟨Nat.le_add_right _ _, ?_⟩
  simp only [iff_false]
  omega

/-! ## Fills -/

/-- A fill of the quantity would find the order's session there, and leave something of the order. -/
def LeavesRest (env : CallEnv) (o : OrderSnapshot) (quantity : UInt32) : Prop :=
  env.expired (.fill o.exchangeOrderNumber) o.session = false ∧ quantity < o.totalVolumeRemaining

instance (env : CallEnv) (o : OrderSnapshot) (quantity : UInt32) :
    Decidable (LeavesRest env o quantity) :=
  inferInstanceAs (Decidable (_ ∧ _))

/-- A fill of a positive quantity keeps its entry when it leaves something of it. -/
theorem fillOpenOrderLocked_reads {now : ClockReading} (ho : st.openOrders.find? n = some o)
    (hrem : 0 < o.totalVolumeRemaining) (hpos : 0 < available) :
    ReadsKept st (fillOpenOrderLocked env now n price available st).2
      (LeavesRest env o available) := by
  have hn := OrderStore.find?_number ho
  cases he : env.expired (.fill n) o.session with
  | true =>
      rw [fillOpenOrderLocked_expired ho he]
      refine (eraseOpenOrderLocked_entry ho).congr (iff_of_false id ?_)
      rintro ⟨hx, _⟩
      rw [hn, he] at hx
      cases hx
  | false =>
      have hne : min available o.totalVolumeRemaining ≠ 0 := by
        intro hc
        have hnat := congrArg UInt32.toNat hc
        rw [toNat_min, UInt32.toNat_zero, Nat.min_eq_zero_iff] at hnat
        rw [UInt32.lt_iff_toNat_lt, UInt32.toNat_zero] at hrem hpos
        omega
      have hleft : (nextFill st o (min available o.totalVolumeRemaining)
          now).totalVolumeRemaining = 0 ↔ ¬available < o.totalVolumeRemaining := by
        rw [← UInt32.toNat_inj, nextFill_remaining (umin_le_right _ _),
          UInt32.toNat_sub_of_le _ _ (umin_le_right _ _), toNat_min, UInt32.lt_iff_toNat_lt,
          UInt32.toNat_zero]
        omega
      rw [fillOpenOrderLocked_filled ho he hne, afterFill]
      have hrest : LeavesRest env o available ↔ available < o.totalVolumeRemaining := by
        rw [LeavesRest, hn]
        exact and_iff_right he
      split
      · rename_i hz
        have hopen : (drawFillNumbers st).openOrders.find?
            (nextFill st o (min available o.totalVolumeRemaining) now).exchangeOrderNumber =
              some o := by
          rw [nextFill_number, hn]
          exact ho
        have hdrawn : (drawFillNumbers st).staleReads = st.staleReads := rfl
        exact .after hdrawn ((eraseOpenOrderLocked_entry hopen).congr
          (iff_of_false id fun hc => hleft.mp hz (hrest.mp hc)))
      · rename_i hz
        refine .same rfl (hrest.mpr ?_)
        by_contra hc
        exact hz (hleft.mpr hc)

/-- The request is for an open order with something remaining, and asks for something. -/
def Asks (st : EngineState) (r : FillRequest) : Prop :=
  ∃ o, st.openOrders.find? r.orderId = some o ∧ 0 < o.totalVolumeRemaining ∧ 0 < r.fillQuantity

/-- The loop over requests for different orders, judged by the orders as they stand at its start. -/
theorem fillRequests_reads (env : CallEnv) (i : Nat) (rs : List FillRequest) (st : EngineState)
    (hdistinct : (rs.map (·.orderId)).Nodup) (hasks : ∀ r ∈ rs, Asks st r) :
    ReadsKept st (fillRequests env i rs st).2
      (∀ r ∈ rs, ∀ o, st.openOrders.find? r.orderId = some o → LeavesRest env o r.fillQuantity) := by
  induction rs generalizing i st with
  | nil => exact .same rfl (by simp)
  | cons r rs ih =>
      rw [List.map_cons, List.nodup_cons] at hdistinct
      obtain ⟨o, ho, hrem, hpos⟩ := hasks r List.mem_cons_self
      have hhead : ReadsKept st (fillOpenOrderLocked env (env.clock i) r.orderId r.fillPrice
          r.fillQuantity st).2 (LeavesRest env o r.fillQuantity) :=
        fillOpenOrderLocked_reads ho hrem hpos
      have hsame : ∀ r' ∈ rs, (fillOpenOrderLocked env (env.clock i) r.orderId r.fillPrice
          r.fillQuantity st).2.openOrders.find? r'.orderId = st.openOrders.find? r'.orderId := by
        intro r' hr'
        refine fillOpenOrderLocked_frame.find _ fun hc => ?_
        rw [List.mem_singleton] at hc
        exact hdistinct.1 (hc ▸ List.mem_map_of_mem hr')
      have htail := ih (i + 1) _ hdistinct.2 fun r' hr' => by
        rw [Asks, hsame r' hr']
        exact hasks r' (List.mem_cons_of_mem _ hr')
      apply (hhead.trans htail).congr
      rw [List.forall_mem_cons]
      refine and_congr ?_ (forall₂_congr fun r' hr' => by rw [hsame r' hr'])
      rw [ho]
      simp

/-! ## The resting orders -/

/-- On each side, the oldest order that may trade there keeps its entry: there is nothing to trade
with, or the whole quantity at the top leaves something of the order. -/
def KeepsOldest (env : CallEnv) (book : ExternalBook) (orders : List OrderSnapshot) : Prop :=
  ∀ side o, (eligible env book side orders).head? = some o → 0 < topQuantity book side →
    LeavesRest env o (topQuantity book side)

theorem eraseStaleOrders_reads (os : List OrderSnapshot) (st : EngineState) :
    (eraseStaleOrders os st).staleReads = st.staleReads := by
  induction os generalizing st with
  | nil => rfl
  | cons o os ih => exact (ih _).trans (eraseOpenOrderLocked_copy o st)

theorem maybeFillRestingOrdersLocked_reads {token : UInt32} {book : ExternalBook}
    (hbook : st.books[token]? = some book)
    (hpos : ∀ k o, st.openOrders.find? k = some o → 0 < o.totalVolumeRemaining) :
    ReadsKept st (maybeFillRestingOrdersLocked env token st).2
      (KeepsOldest env book (restingOrders st token)) := by
  rw [maybeFillRestingOrdersLocked_eq hbook]
  have hopen : ∀ r ∈ allocation env book (restingOrders st token),
      (eraseStaleOrders ((restingOrders st token).filter (stale env)) st).openOrders.find?
        r.1.exchangeOrderNumber = some r.1 := by
    intro r hr
    obtain ⟨side, _, hmem, _⟩ := mem_allocation hr
    rw [(eraseStaleOrders_spec _ st).1.find _ (served_not_stale hr)]
    exact (mem_restingOrders.mp hmem).2
  have hloop := fillRequests_reads env 0 _ _ (requests_nodup env book st token)
    fun q hq => by
      obtain ⟨r, hr, rfl⟩ := List.mem_map.mp hq
      obtain ⟨side, _, hmem, hposr, _⟩ := mem_allocation hr
      refine ⟨r.1, hopen r hr, hpos _ _ (mem_restingOrders.mp hmem).2, ?_⟩
      rw [requestOf, UInt32.lt_iff_toNat_lt, toNat_ofNat_allocated hr]
      exact hposr
  refine .after (eraseStaleOrders_reads _ st) (hloop.congr ?_)
  rw [List.forall_mem_map]
  have hread : (∀ r ∈ allocation env book (restingOrders st token), ∀ o,
      (eraseStaleOrders ((restingOrders st token).filter (stale env)) st).openOrders.find?
        (requestOf book r).orderId = some o → LeavesRest env o (requestOf book r).fillQuantity) ↔
      ∀ r ∈ allocation env book (restingOrders st token),
        env.expired (.fill r.1.exchangeOrderNumber) r.1.session = false ∧ r.2 < remaining r.1 := by
    refine forall₂_congr fun r hr => ?_
    rw [requestOf, hopen r hr]
    simp only [Option.some.injEq, forall_eq']
    rw [LeavesRest, UInt32.lt_iff_toNat_lt, toNat_ofNat_allocated hr, remaining]
  have hsides := forall_allocation env book (restingOrders st token)
    fun o q => env.expired (.fill o.exchangeOrderNumber) o.session = false ∧ q < remaining o
  refine hread.trans (hsides.trans (forall_congr' fun side => (greedy_leaves
    (P := fun o : OrderSnapshot => env.expired (.fill o.exchangeOrderNumber) o.session = false)
    _ ?_).trans ?_))
  · intro o ho
    exact UInt32.lt_iff_toNat_lt.mp
      (hpos _ o (mem_restingOrders.mp (List.mem_filter.mp ho).1).2)
  · refine forall₂_congr fun o _ => ?_
    rw [LeavesRest, UInt32.lt_iff_toNat_lt, UInt32.lt_iff_toNat_lt, remaining]
    rfl

/-! ## Open orders have something remaining -/

theorem modifiedRemaining_pos {request : OrderSnapshot} (hv : 0 < request.volume) :
    0 < modifiedRemaining request := by
  rw [UInt32.lt_iff_toNat_lt, toNat_modifiedRemaining hv]
  have hv' : 0 < request.volume.toNat := UInt32.lt_iff_toNat_lt.mp hv
  split
  · exact hv'
  · rename_i h0
    have hpos : request.totalVolumeRemaining.toNat ≠ 0 := fun hc => h0 (UInt32.toNat_inj.mp hc)
    rw [UInt32.toNat_zero]
    omega

theorem OrderAct.remaining_pos {l : Label} {es : List EngineEvent} {o o' : Option OrderSnapshot}
    (hpos : ∀ live, o = some live → 0 < live.totalVolumeRemaining) (ha : OrderAct cfg n l o es o') :
    ∀ live, o' = some live → 0 < live.totalVolumeRemaining := by
  intro live hlive
  cases ha with
  | idle => exact hpos live hlive
  | immediate hmd he hf => exact hpos live hlive
  | rests hmd he hday =>
      cases hlive
      rw [he.remaining]
      exact he.volume_pos
  | unfilled hmd he hioc hx => exact hpos live hlive
  | filled hmd he hioc hf hrest => exact hpos live hlive
  | partFilled hmd he hioc hf hrest hx => exact hpos live hlive
  | modify hlive' hrequest hv =>
      cases hlive
      exact modifiedRemaining_pos hv
  | trade hlive' hf =>
      split at hlive
      · cases hlive
      · rename_i hrest
        cases hlive
        exact UInt32.pos_iff_ne_zero.mpr hrest
  | cancel hlive' hx => cases hlive
  | drop hlive' => cases hlive

theorem Reachable.remaining_pos (r : Reachable cfg h st) (k : UInt64) (o : OrderSnapshot)
    (ho : st.openOrders.find? k = some o) : 0 < o.totalVolumeRemaining := by
  have hall : ∀ k o, st.openOrders.find? k = some o → 0 < o.totalVolumeRemaining := by
    refine anyRun_induct (P := fun _ st => ∀ k o, st.openOrders.find? k = some o →
      0 < o.totalVolumeRemaining) ?_ ?_ r
    · intro k o ho
      rw [EngineConfig.init, OrderStore.find?_empty] at ho
      cases ho
    · intro h st l es st' hpos ha k
      exact (ha.order k).remaining_pos (hpos k)
  exact hall k o ho

/-! ## Operations -/

theorem matchTopLocked_pos {top : TopOfBookMatch} (hmd : cfg.marketDataEnabled = true)
    (htop : matchTopLocked cfg st o = some top) : 0 < top.quantity := by
  unfold matchTopLocked at htop
  simp only [hmd, Bool.not_true, Bool.false_eq_true, if_false] at htop
  split at htop
  · cases htop
  · split at htop
    · split at htop
      · split at htop
        · rename_i hc
          cases htop
          exact hc.1
        · cases htop
      · cases htop
    · split at htop
      · split at htop
        · split at htop
          · rename_i hc
            cases htop
            exact hc.1
          · cases htop
        · cases htop
      · cases htop

/-- Making the book of a token matches nothing that was not matched before. -/
theorem matchTopLocked_accepted (o : OrderSnapshot) (st : EngineState) :
    matchTopLocked cfg (acceptedState cfg o.token st) o = matchTopLocked cfg st o := by
  unfold matchTopLocked
  rcases acceptedState_addsEmptyBook o.token with hsame | ⟨made, hnone, hmade⟩
  · rw [hsame]
  · by_cases hm : o.token = made
    · subst hm
      have hbid : ({} : ExternalBook).bestBid = none := by decide +kernel
      have hask : ({} : ExternalBook).bestAsk = none := by decide +kernel
      rw [hmade, hnone, Std.ExtTreeMap.getElem?_insert_self]
      simp only [hbid, hask, ite_self]
    · rw [hmade, Std.ExtTreeMap.getElem?_insert,
        if_neg fun heq => hm (Std.LawfulEqOrd.compare_eq_iff_eq.mp heq).symm]

/-- Whether an operation keeps off erased entries, by its inputs and the state before it. -/
def KeepsEntries (cfg : EngineConfig) (st : EngineState) : Op → Prop
  | .newOrder env request sessionId session =>
      cfg.marketDataEnabled = true → ∀ snapshot top,
        label cfg st (.newOrder env request sessionId session) = .accept snapshot →
          snapshot.ioc = false → matchTopLocked cfg st snapshot = some top →
            LeavesRest env snapshot top.quantity
  | .modifyOrder env request sessionId session =>
      ∀ wanted live top,
        label cfg st (.modifyOrder env request sessionId session) = .modify wanted →
          st.openOrders.find? wanted.exchangeOrderNumber = some live →
            matchTopLocked cfg st
                (modifySnapshot live wanted st.nextLastActivityReference (env.clock 0)) = some top →
              LeavesRest env
                (modifySnapshot live wanted st.nextLastActivityReference (env.clock 0)) top.quantity
  | .cancelOrder _ _ _ _ => True
  | .tbtOrder env message => ∀ env' token book,
      feedBook cfg st (.tbtOrder env message) = some (env', token, some book) →
        KeepsOldest env' book (restingOrders st token)
  | .tbtTrade env message => ∀ env' token book,
      feedBook cfg st (.tbtTrade env message) = some (env', token, some book) →
        KeepsOldest env' book (restingOrders st token)
  | .sessionClosed sessionId =>
      ∀ k ∈ st.openOrderIdsBySession.ids sessionId, st.openOrders.find? k = none

theorem enterIoc_reads (snapshot : OrderSnapshot) (st : EngineState) :
    (enterIoc cfg env snapshot st).2.staleReads = st.staleReads := by
  have hout := enterIoc_outcome cfg env st snapshot
  generalize enterIoc cfg env snapshot st = r at hout
  cases hout with
  | unfilled now => rfl
  | filled now htop hpos hle havailable hrest => rfl
  | partFilled now now' htop hpos hle havailable hrest => rfl

theorem enterDay_reads {snapshot : OrderSnapshot} (hmd : cfg.marketDataEnabled = true)
    (ha : Accepted cfg st snapshot) :
    ReadsKept st (enterDay cfg env snapshot (acceptedState cfg snapshot.token st)).2
      (∀ top, matchTopLocked cfg st snapshot = some top → LeavesRest env snapshot top.quantity) := by
  have hstored : (storeOpenOrderLocked snapshot (acceptedState cfg snapshot.token st)).staleReads =
      st.staleReads := acceptedState_staleReads cfg st _
  have hmatch : matchTopLocked cfg (storeOpenOrderLocked snapshot
      (acceptedState cfg snapshot.token st)) snapshot = matchTopLocked cfg st snapshot :=
    matchTopLocked_accepted snapshot st
  unfold enterDay
  simp only [hmatch]
  cases htop : matchTopLocked cfg st snapshot with
  | none => exact .same hstored fun top h => by cases h
  | some top =>
      have hself : (storeOpenOrderLocked snapshot
          (acceptedState cfg snapshot.token st)).openOrders.find? snapshot.exchangeOrderNumber =
            some snapshot := OrderStore.find?_put_self _ _
      have hrem : 0 < snapshot.totalVolumeRemaining := by
        rw [ha.remaining]
        exact ha.volume_pos
      refine .after hstored ((fillOpenOrderLocked_reads hself hrem
        (matchTopLocked_pos hmd htop)).congr ?_)
      simp

theorem onNewOrder_reads (request : OrderEntryRequestPayload) (sessionId : UInt64)
    (session : SessionRef) :
    ReadsKept st (onNewOrder cfg env request sessionId session st).2
      (KeepsEntries cfg st (.newOrder env request sessionId session)) := by
  have hout := onNewOrder_outcome cfg env st sessionId session request
  simp only [KeepsEntries]
  generalize label cfg st (.newOrder env request sessionId session) = l at hout ⊢
  generalize onNewOrder cfg env request sessionId session st = r at hout ⊢
  cases hout with
  | rejected he => exact .same rfl fun _ snapshot top hl => by cases hl
  | immediate ha hmd =>
      refine .same (acceptedState_staleReads cfg st _) fun hon => ?_
      rw [hmd] at hon
      cases hon
  | ioc ha hmd hioc =>
      refine .same ((enterIoc_reads _ _).trans (acceptedState_staleReads cfg st _)) ?_
      intro _ snapshot top hl hday
      cases hl
      rw [hioc] at hday
      cases hday
  | day ha hmd hday =>
      refine (enterDay_reads hmd ha).congr ⟨fun hall _ snapshot top hl _ htop => ?_, fun hall top htop =>
        hall hmd _ top rfl hday htop⟩
      cases hl
      exact hall top htop

theorem onModifyOrder_reads (hc : Counted cfg h st) (request : OrderUpdateRequestPayload)
    (sessionId : UInt64) (session : SessionRef) :
    ReadsKept st (onModifyOrder cfg env request sessionId session st).2
      (KeepsEntries cfg st (.modifyOrder env request sessionId session)) := by
  have hout := onModifyOrder_outcome cfg env st sessionId session request
  simp only [KeepsEntries]
  generalize label cfg st (.modifyOrder env request sessionId session) = l at hout ⊢
  generalize onModifyOrder cfg env request sessionId session st = r at hout ⊢
  cases hout with
  | rejected he => exact .same rfl fun wanted live top hl => by cases hl
  | unmatched hm hnone =>
      refine .same rfl fun wanted live' top hl ho htop => ?_
      cases hl
      rw [hm.2.1] at ho
      cases ho
      rw [← modifiedBy, hnone] at htop
      cases htop
  | @matched request live top hm htop =>
      have hmd := (hc.resting _ live hm.2.1).1
      have hself : (modifiedState env st live request).openOrders.find? live.exchangeOrderNumber =
          some (modifiedBy env st live request) := by
        rw [modifiedState, modifiedBy, ← modifySnapshot_number]
        exact OrderStore.find?_put_self _ _
      have hkept : (modifiedState env st live request).staleReads = st.staleReads := rfl
      refine .after hkept ((fillOpenOrderLocked_reads hself
        (modifiedRemaining_pos hm.volume_pos) (matchTopLocked_pos hmd htop)).congr ⟨?_, ?_⟩)
      · intro hkeep wanted live' top' hl ho htop'
        cases hl
        rw [hm.2.1] at ho
        cases ho
        rw [← modifiedBy, htop] at htop'
        cases htop'
        exact hkeep
      · intro hall
        exact hall request live top rfl hm.2.1 htop

theorem onCancelOrder_reads (request : OrderUpdateRequestPayload) (sessionId : UInt64)
    (session : SessionRef) :
    (onCancelOrder env request sessionId session st).2.staleReads = st.staleReads := by
  have hout := onCancelOrder_outcome env st sessionId session request
  generalize onCancelOrder env request sessionId session st = r at hout ⊢
  cases hout with
  | rejected he => rfl
  | cancelled hlive hsession => exact eraseOpenOrderLocked_copy _ _

/-- The loop of a session close: the first open order it finds is read when it is gone. -/
theorem eraseOrderIds_reads (ids : List UInt64) (st : EngineState) :
    ReadsKept st (eraseOrderIds ids st) (∀ k ∈ ids, st.openOrders.find? k = none) := by
  induction ids generalizing st with
  | nil => exact .same rfl (by simp)
  | cons id ids ih =>
      rw [eraseOrderIds, List.foldl_cons]
      cases hlive : st.openOrders.find? id with
      | none => exact (ih st).congr (by rw [List.forall_mem_cons, and_iff_right hlive])
      | some live =>
          apply ((eraseOpenOrderLocked_entry hlive).trans (ih _)).congr
          rw [List.forall_mem_cons, hlive]
          simp

theorem feed_reads (r : Reachable cfg h st) {op : Op} {token : UInt32} {book : ExternalBook}
    (hfeed : feedBook cfg st op = some (env, token, some book)) :
    ReadsKept st (engine cfg st op).2 (KeepsOldest env book (restingOrders st token)) := by
  obtain ⟨st', hupdate, heq⟩ := engine_feed hfeed
  have hpos : ∀ k o, st'.openOrders.find? k = some o → 0 < o.totalVolumeRemaining := by
    rw [hupdate.only]
    exact r.remaining_pos
  have hresting : restingOrders st' token = restingOrders st token := by
    rw [hupdate.only]
    rfl
  rw [heq, ← hresting]
  have hbooks : st'.staleReads = st.staleReads := by rw [hupdate.only]
  exact .after hbooks (maybeFillRestingOrdersLocked_reads hupdate.book hpos)

theorem unknown_reads {message : TbtOrderMessage}
    (hfeed : feedBook cfg st (.tbtOrder env message) = none) :
    (engine cfg st (.tbtOrder env message)).2.staleReads = st.staleReads := by
  rw [feedBook] at hfeed
  split at hfeed
  · cases hfeed
  · rename_i hunknown
    rw [engine, onTbtOrderMessage]
    cases hens : ensureBookLocked cfg st message.token with
    | none => rfl
    | some made =>
        have hnone : applyTbtOrderMessage message made.1 = none := by
          simp only [not_or] at hunknown
          simp [applyTbtOrderMessage, hunknown]
        simp only [hnone]
        rw [(ensureBookLocked_spec cfg hens).1]

theorem feedOp_reads (r : Reachable cfg h st) {op : Op}
    (hunknown : feedBook cfg st op = none → (engine cfg st op).2.staleReads = st.staleReads) :
    ReadsKept st (engine cfg st op).2 (∀ env token book,
      feedBook cfg st op = some (env, token, some book) →
        KeepsOldest env book (restingOrders st token)) := by
  cases hfeed : feedBook cfg st op with
  | none => exact .same (hunknown hfeed) (by simp)
  | some feed =>
      obtain ⟨env, token, updated⟩ := feed
      cases updated with
      | none =>
          rw [(engine_feed_untracked hfeed).1]
          exact .same rfl (by simp)
      | some book =>
          refine (feed_reads r hfeed).congr ⟨fun hkeep env' token' book' heq => ?_, fun hall => ?_⟩
          · cases heq
            exact hkeep
          · exact hall env token book rfl

/-- Whether a call reads an erased entry is decided by its inputs and the state before it. -/
theorem engine_reads (r : Reachable cfg h st) (op : Op) :
    ReadsKept st (engine cfg st op).2 (KeepsEntries cfg st op) := by
  cases op with
  | newOrder env request sessionId session => exact onNewOrder_reads request sessionId session
  | modifyOrder env request sessionId session =>
      exact onModifyOrder_reads r.counted request sessionId session
  | cancelOrder env request sessionId session =>
      exact .same (onCancelOrder_reads request sessionId session) trivial
  | tbtOrder env message => exact feedOp_reads r unknown_reads
  | tbtTrade env message => exact feedOp_reads r fun hfeed => by cases hfeed
  | sessionClosed sessionId =>
      rw [engine, onSessionClosed]
      cases hids : st.openOrderIdsBySession.buckets[sessionId]? with
      | none =>
          refine .same rfl fun k hk => ?_
          simp [MultiIndex.ids, hids] at hk
      | some ids =>
          apply (eraseOrderIds_reads ids.toList st).congr
          simp [KeepsEntries, MultiIndex.ids, hids, Std.ExtTreeSet.mem_toList]

/-! ## Runs -/

/-- A call reads nothing erased exactly when its inputs keep it off erased entries, and a run has read
nothing erased exactly when all its calls can be chosen so. -/
theorem erased_entries_unread (r : Reachable cfg h st) :
    (∀ op, (engine cfg st op).2.staleReads = st.staleReads ↔ KeepsEntries cfg st op) ∧
      (st.staleReads = 0 ↔ RunWith cfg (fun _ => KeepsEntries cfg) h st) := by
  refine ⟨fun op => (engine_reads r op).iff, ?_, fun rk => ?_⟩
  · induction r with
    | nil => exact fun _ => .nil
    | @snoc h st op r _ ih =>
        intro hzero
        have hreads := engine_reads r op
        have hmono := hreads.mono
        exact .snoc op (ih (by omega)) (hreads.iff.mp (by omega))
  · clear r
    induction rk with
    | nil => rfl
    | @snoc h st op rk hkeep ih =>
        have hr : Reachable cfg h st := rk.mono fun _ _ _ _ => trivial
        rw [(engine_reads hr op).iff.mpr hkeep, ih]

/-- The client cancels the order it has resting. -/
theorem erased_entries_unread_cancel :
    (engine bookMatching (exec (engine bookMatching) bookMatching.init restingRun).2
      (.cancelOrder calm (cancelRequest 0x41086A0000000000 654321 1) 1 1)).2.staleReads =
      (exec (engine bookMatching) bookMatching.init restingRun).2.staleReads :=
  ((erased_entries_unread (run_exec (engine bookMatching) bookMatching.init restingRun)).1 _).mpr
    trivial

/-- An offer of the whole quantity fills the order, and its token and session are read afterwards. -/
theorem erased_entry_read_on_fill :
    ¬∀ h st, Reachable bookMatching h st → ∀ op,
      (engine bookMatching st op).2.staleReads = st.staleReads := by
  intro hall
  have hread := hall _ _ (run_exec (engine bookMatching) bookMatching.init restingRun)
    (.tbtOrder calm (tbtOrder 'N' 1 654321 'S' 999 25))
  exact absurd hread (by decide +kernel)

end NseFoExchangeSim.Engine
