import NseFoExchangeSim.Engine.Requests
import NseFoExchangeSim.Server.Lemmas.Events

/-!
# The order of delivery

A client is written the events of an order in the order the engine generated them as long as every
engine call finds the earlier events of its orders written. Where a call does not, a dispatch of its
events before the earlier ones puts them out of order.
-/

namespace NseFoExchangeSim.Server

open Lib Engine

variable {cfg : EngineConfig} {counts : EngineEvent → Bool} {s s' : ServerState} {t : Thread}
  {h w : List Delivery} {a : Action} {sessionId number : UInt64}

/-! ## The events of an order -/

/-- The event goes to the session, is for the order, and is one of those that count. -/
def ofOrder (counts : EngineEvent → Bool) (sessionId number : UInt64) (d : Delivery) : Bool :=
  d.sessionId == sessionId && d.event.order.exchangeOrderNumber == number && counts d.event

theorem ofOrder_sessionId {d : Delivery} (hd : ofOrder counts sessionId number d = true) :
    d.sessionId = sessionId := by
  simp only [ofOrder, Bool.and_eq_true, beq_iff_eq] at hd
  exact hd.1.1

/-- What a client has been written about an order is the beginning of what the engine has generated
for it. -/
def InOrder (counts : EngineEvent → Bool) (h : List Delivery) (s : ServerState) : Prop :=
  ∀ sessionId number,
    h.filter (ofOrder counts sessionId number) <+: s.generated.filter (ofOrder counts sessionId number)

/-- Events of some order have been written in another order than that of generation. -/
def Misordered (counts : EngineEvent → Bool) (h : List Delivery) (s : ServerState) : Prop :=
  ∃ sessionId number, ¬(h.filter (ofOrder counts sessionId number)).Sublist
    (s.generated.filter (ofOrder counts sessionId number))

/-- When a step generates an event of an order for an open connection, every event of the order
generated before has been written. -/
def CaughtUp (cfg : EngineConfig) (counts : EngineEvent → Bool) (h : List Delivery)
    (s : ServerState) (a : Action) : Prop :=
  ∀ d ∈ generatedBy cfg s a, s.closed d.sessionId = false → counts d.event = true →
    ∀ g ∈ s.generated,
      ofOrder counts d.sessionId d.event.order.exchangeOrderNumber g = true → g ∈ h

instance (cfg : EngineConfig) (counts : EngineEvent → Bool) (h : List Delivery) (s : ServerState)
    (a : Action) : Decidable (CaughtUp cfg counts h s a) :=
  inferInstanceAs (Decidable (∀ d ∈ generatedBy cfg s a, s.closed d.sessionId = false →
    counts d.event = true → ∀ g ∈ s.generated,
      ofOrder counts d.sessionId d.event.order.exchangeOrderNumber g = true → g ∈ h))

/-! ## A step keeps the order -/

theorem Effect.written_open (he : Effect cfg s a w s') : ∀ d ∈ w, s'.closed d.sessionId = false := by
  cases he with
  | write hc hd =>
      intro d' hd'
      rw [List.mem_singleton.mp hd']
      exact hd
  | _ => simp

theorem Effect.generated_isPrefix (he : Effect cfg s a w s') : s.generated <+: s'.generated := by
  cases he with
  | enter hc => exact List.prefix_append _ _
  | _ => exact List.prefix_refl _

theorem Effect.closed_stays (he : Effect cfg s a w s') {id : UInt64} (hid : s.closed id = true) :
    s'.closed id = true := by
  cases he with
  | writeError hc hd => exact (setClosed_closed s _ id).mpr (.inr hid)
  | readError hc => exact (setClosed_closed s _ id).mpr (.inr hid)
  | _ => exact hid

/-- An order of an open connection whose events are held by one thread at most: so they are after a
step that generates none of them, or only when all of them are written. -/
theorem Effect.inTurn (he : Effect cfg s a w s') (hc : Accounted h s)
    (hok : CaughtUp cfg counts h s a) (hopen : s'.closed sessionId = false)
    (hi : InTurn (ofOrder counts sessionId number) s.generated h s.pending) :
    InTurn (ofOrder counts sessionId number) s'.generated (h ++ w) s'.pending := by
  cases he with
  | idle _ =>
      rw [List.append_nil]
      exact hi
  | receive hcontrol hop =>
      rw [List.append_nil]
      have hnone := pending_of_control hcontrol
      exact hi.congr (setControl_pending_same hnone)
  | @enter t op hcontrol =>
      rw [List.append_nil]
      refine hi.generate (pending_of_control hcontrol) afterCall_pending_self
        (fun u hu => afterCall_pending_of_ne hu) fun hsome u _ => ?_
      obtain ⟨d, hd⟩ := List.exists_mem_of_ne_nil _ hsome
      obtain ⟨hmem, hkind⟩ := List.mem_filter.mp hd
      -- every event of the order has been written, so no thread holds one
      rw [List.filter_eq_nil_iff]
      intro g hg hkindg
      have hgen : d ∈ generatedBy cfg s (.enter t) := by
        simp only [generatedBy, hcontrol]
        exact hmem
      simp only [ofOrder, Bool.and_eq_true, beq_iff_eq] at hkind
      obtain ⟨⟨rfl, rfl⟩, hcounts⟩ := hkind
      exact hc.unwritten u g hg (hok d hgen hopen hcounts g (hc.held u g hg) hkindg)
  | @skip _ t d ds hcontrol hd =>
      rw [List.append_nil]
      refine hi.skip (pending_of_control hcontrol) setControl_pending_self
        (fun u hu => setControl_pending_of_ne hu) ?_
      by_contra hkind
      rw [Bool.not_eq_false] at hkind
      rw [setControl_closed, ← ofOrder_sessionId hkind, hd] at hopen
      cases hopen
  | write hcontrol hd =>
      exact hi.write (pending_of_control hcontrol) setControl_pending_self
        (fun u hu => setControl_pending_of_ne hu)
  | @writeError _ t d ds hcontrol hd =>
      rw [List.append_nil]
      refine hi.skip (pending_of_control hcontrol) setControl_pending_self
        (fun u hu => setControl_pending_of_ne hu) ?_
      by_contra hkind
      rw [Bool.not_eq_false] at hkind
      rw [setControl_closed, ← ofOrder_sessionId hkind,
        (setClosed_closed s d.sessionId d.sessionId).mpr (.inl rfl)] at hopen
      cases hopen
  | @readError _ id hcontrol =>
      rw [List.append_nil]
      have hnone := pending_of_control hcontrol
      exact hi.congr fun u =>
        setControl_pending_same (s := s.setClosed id) (c := .closing id none) hnone u
  | close hcontrol =>
      rw [List.append_nil]
      exact hi.congr (afterClose_pending hcontrol)

/-! ## Every run keeps the order -/

/-- The events of the order come out in their order: while the connection is open, because one thread
at most holds some of them. -/
def Turns (counts : EngineEvent → Bool) (h : List Delivery) (s : ServerState) : Prop :=
  InOrder counts h s ∧ ∀ sessionId number, s.closed sessionId = false →
    InTurn (ofOrder counts sessionId number) s.generated h s.pending

theorem Effect.turns (he : Effect cfg s a w s') (hc : Accounted h s)
    (hok : CaughtUp cfg counts h s a) (ht : Turns counts h s) : Turns counts (h ++ w) s' := by
  have hturn : ∀ sessionId number, s'.closed sessionId = false →
      InTurn (ofOrder counts sessionId number) s'.generated (h ++ w) s'.pending := by
    intro sessionId number hopen
    have hbefore : s.closed sessionId = false := by
      by_contra hclosed
      rw [Bool.not_eq_false] at hclosed
      rw [he.closed_stays hclosed] at hopen
      cases hopen
    exact he.inTurn hc hok hopen (ht.2 sessionId number hbefore)
  refine ⟨fun sessionId number => ?_, hturn⟩
  cases hopen : s'.closed sessionId with
  | false => exact (hturn sessionId number hopen).isPrefix
  | true =>
      -- nothing more is written to a closed connection
      have hnone : w.filter (ofOrder counts sessionId number) = [] := by
        rw [List.filter_eq_nil_iff]
        intro d hd hkind
        have hopen' := he.written_open d hd
        rw [ofOrder_sessionId hkind, hopen] at hopen'
        cases hopen'
      rw [List.filter_append, hnone, List.append_nil]
      exact (ht.1 sessionId number).trans (he.generated_isPrefix.filter _)

theorem ServerRun.turns (r : ServerRun cfg (CaughtUp cfg counts) h s) : Turns counts h s := by
  have hall : Numbered s ∧ Accounted h s ∧ Turns counts h s := by
    refine ServerRun.induct (P := fun h s => Numbered s ∧ Accounted h s ∧ Turns counts h s)
      ⟨rfl, .nil fun _ => rfl, fun _ _ => List.prefix_refl _, fun _ _ _ => ?_⟩ ?_ r
    · exact .nil (.marketData 0) fun _ => rfl
    · rintro h s a w s' ⟨hn, hc, ht⟩ hok he
      exact ⟨he.numbered hn, he.accounted hn hc, he.turns hc hok ht⟩
  exact hall.2.2

/-! ## Overtaking -/

/-- A thread that holds events comes round to dispatching them. -/
theorem server_close (cfg : EngineConfig) (ds : List Delivery) (hds : ds ≠ []) (hp : s.pending t = ds) :
    ∃ s', server cfg s (.close t) = ([], s') ∧ s'.control t = .running ds ∧
      s'.closed = s.closed ∧ s'.generated = s.generated := by
  unfold ServerState.pending at hp
  cases hc : s.control t with
  | running pending =>
      rw [hc, Control.pending] at hp
      exact ⟨s, by simp [server, hc], by rw [hc, hp], rfl, rfl⟩
  | entering op =>
      rw [hc] at hp
      exact absurd hp.symm hds
  | closing id next =>
      cases next with
      | none =>
          rw [hc] at hp
          exact absurd hp.symm hds
      | some pending =>
          rw [hc, Control.pending] at hp
          refine ⟨afterClose cfg s t id (some pending), by simp [server, hc], ?_, rfl, rfl⟩
          rw [afterClose_control, setControl_self, Option.elim, hp]
  | ended =>
      rw [hc] at hp
      exact absurd hp.symm hds

theorem mem_generatedBy {d : Delivery} (hd : d ∈ generatedBy cfg s a) :
    ∃ t op, a = .enter t ∧ s.control t = .entering op ∧ d ∈ called cfg s t op := by
  unfold generatedBy at hd
  split at hd
  · rename_i t
    split at hd
    · rename_i op hcontrol
      exact ⟨t, op, rfl, hcontrol, hd⟩
    · cases hd
  · cases hd

/-- The thread that has called the engine dispatches all its events, and then another thread those it
holds. -/
def dispatchBoth (cfg : EngineConfig) (s : ServerState) (t u : Thread) (op : Op) : List Action :=
  List.replicate (called cfg s t op).length (.dispatch t true) ++
    .close u :: List.replicate (s.pending u).length (.dispatch u true)

theorem exec_dispatchBoth (cfg : EngineConfig) {op : Op} {u : Thread} (hcontrol : s.control t = .entering op)
    (hne : u ≠ t) (hu : s.pending u ≠ []) :
    (exec (server cfg) s (.enter t :: dispatchBoth cfg s t u op)).1 =
        (called cfg s t op).filter (fun d => !s.closed d.sessionId) ++
          (s.pending u).filter (fun d => !s.closed d.sessionId) ∧
      (exec (server cfg) s (.enter t :: dispatchBoth cfg s t u op)).2.generated =
        (afterCall cfg s t op).generated := by
  have hcall : server cfg s (.enter t) = ([], afterCall cfg s t op) := by simp [server, hcontrol]
  have hdispatch := exec_dispatch cfg (called cfg s t op)
    (show (afterCall cfg s t op).control t = .running (called cfg s t op) by
      rw [afterCall_control, setControl_self])
  have hpending : ((afterCall cfg s t op).setControl t (.running [])).pending u = s.pending u := by
    rw [setControl_pending_of_ne hne, afterCall_pending_of_ne hne]
  obtain ⟨s', hclose, hrun, hclosed, hgenerated⟩ := server_close cfg (s.pending u) hu hpending
  have hdispatch' := exec_dispatch cfg (s.pending u) hrun
  have hexec : exec (server cfg) s (.enter t :: dispatchBoth cfg s t u op) =
      ((called cfg s t op).filter (fun d => !s.closed d.sessionId) ++
        (s.pending u).filter (fun d => !s.closed d.sessionId), s'.setControl u (.running [])) := by
    rw [exec, hcall, dispatchBoth, exec_append, hdispatch, exec, hclose, hdispatch', hclosed]
    rfl
  rw [hexec, setControl_generated, hgenerated]
  exact ⟨rfl, rfl⟩

/-- An event generated for an open connection and not written is held by a thread that is not about
to enter the engine. -/
theorem ServerRun.held (r : ServerRun cfg anyCall h s) {g : Delivery} (hg : g ∈ s.generated)
    (hopen : s.closed g.sessionId = false) (hlate : g ∉ h) :
    ∃ u, g ∈ s.pending u ∧ ∀ op, s.control u ≠ .entering op := by
  rcases r.accounted.kept g hg with hclosed | hw | ⟨u, hu⟩
  · rw [Lost, hopen] at hclosed
    cases hclosed
  · exact absurd hw hlate
  · refine ⟨u, hu, fun op hcontrol => ?_⟩
    rw [pending_of_control hcontrol] at hu
    cases hu

/-- The thread of the call dispatches all its events, and only then does the thread that still holds
an earlier event of the order. -/
theorem overtaken (r : ServerRun cfg anyCall h s) (hbad : ¬CaughtUp cfg counts h s a) :
    ∃ as, Misordered counts (h ++ (exec (server cfg) s (a :: as)).1)
      (exec (server cfg) s (a :: as)).2 := by
  simp only [CaughtUp, not_forall] at hbad
  obtain ⟨d, hd, hopen, hcounts, g, hg, hkind, hlate⟩ := hbad
  obtain ⟨t, op, rfl, hcontrol, hd⟩ := mem_generatedBy hd
  have hopen' : s.closed g.sessionId = false := by rw [ofOrder_sessionId hkind, hopen]
  obtain ⟨u, hu, hout⟩ := r.held hg hopen' hlate
  have hne : u ≠ t := by
    rintro rfl
    exact hout op hcontrol
  obtain ⟨hwritten, hgenerated⟩ := exec_dispatchBoth cfg hcontrol hne (List.ne_nil_of_mem hu)
  refine ⟨dispatchBoth cfg s t u op, d.sessionId, d.event.order.exchangeOrderNumber, ?_⟩
  have hnumbered : Numbered (afterCall cfg s t op) := (Effect.enter hcontrol).numbered r.numbered
  rw [hwritten, hgenerated, ← List.append_assoc]
  refine not_sublist_of_overtaken (v := d) (w := g) hnumbered.increasing ?_ ?_ ?_ hkind ?_
  · exact List.mem_filter.mpr ⟨hd, by simp [hopen]⟩
  · exact List.mem_filter.mpr ⟨hu, by simp [hopen']⟩
  · simp [ofOrder, hcounts]
  · have hlt := r.numbered.index_lt hg
    have hle := le_index_of_called hd
    omega

/-- A run in which every engine call finds the earlier events of its orders written delivers the events
of every order in the order of generation. After any other call the events of some order can come out
of order. -/
theorem delivered_in_order (cfg : EngineConfig) (counts : EngineEvent → Bool) :
    (∀ h s, ServerRun cfg (CaughtUp cfg counts) h s → InOrder counts h s) ∧
      ∀ h s a, ServerRun cfg anyCall h s → ¬CaughtUp cfg counts h s a →
        ∃ as, Misordered counts (h ++ (exec (server cfg) s (a :: as)).1)
          (exec (server cfg) s (a :: as)).2 :=
  ⟨fun _ _ r => r.turns.1, fun _ _ _ r hbad => overtaken r hbad⟩

/-! ## A client and a feed -/

/-- A client enters a day order to buy 25 at 1000. -/
def orderArrives : List Action :=
  [.request 1 calm (.orderEntry (orderRequest 654321 1 25 1000 Protocol.kOrderFlagsDay)),
    .enter (.session 1)]

/-- The feed offers 10 at 999. -/
def offerArrives : List Action := [.packet 0 calm (.order (tbtOrder 'N' 1 654321 'S' 999 10))]

/-- The confirmation is written before the offer enters the engine. -/
def orderlyRun : List Action :=
  orderArrives ++ [.dispatch (.session 1) true] ++ offerArrives ++
    [.enter (.marketData 0), .dispatch (.marketData 0) true]

/-- The offer enters the engine, and its trade is written, before the confirmation is. -/
def overtakingRun : List Action :=
  orderArrives ++ offerArrives ++
    [.enter (.marketData 0), .dispatch (.marketData 0) true, .dispatch (.session 1) true]

/-- The offer is about to enter the engine, the confirmation still to be written. -/
def offered : List Delivery × ServerState :=
  exec (server bookMatching) (init bookMatching) (orderArrives ++ offerArrives)

theorem delivered_in_order_orderly :
    InOrder (fun _ => true) (exec (server bookMatching) (init bookMatching) orderlyRun).1
        (exec (server bookMatching) (init bookMatching) orderlyRun).2 ∧
      ∃ as, Misordered (fun _ => true)
        (offered.1 ++ (exec (server bookMatching) offered.2 (.enter (.marketData 0) :: as)).1)
        (exec (server bookMatching) offered.2 (.enter (.marketData 0) :: as)).2 := by
  have hmeets : Meets (server bookMatching) (CaughtUp bookMatching fun _ => true) []
      (init bookMatching) orderlyRun := by decide +kernel
  refine ⟨(delivered_in_order bookMatching fun _ => true).1 _ _ (run_exec_of_meets hmeets), ?_⟩
  exact (delivered_in_order bookMatching fun _ => true).2 _ _ _
    (run_exec (server bookMatching) (init bookMatching) (orderArrives ++ offerArrives))
    (by decide +kernel)

/-- The trade of an order is written before its confirmation. -/
theorem trade_before_confirmation :
    (exec (server bookMatching) (init bookMatching) overtakingRun).1.map
        (fun d => (d.sessionId, d.event.order.exchangeOrderNumber, d.event.txnCode)) =
      [(1, 200000, Protocol.kTxnTradeConfirmationTrimmed),
        (1, 200000, Protocol.kTxnOrderConfirmationTrimmed)] ∧
      Misordered EngineEvent.successful
        (exec (server bookMatching) (init bookMatching) overtakingRun).1
        (exec (server bookMatching) (init bookMatching) overtakingRun).2 :=
  ⟨by decide +kernel, 1, 200000, by decide +kernel⟩

end NseFoExchangeSim.Server
