import NseFoExchangeSim.Lib.Delivery
import NseFoExchangeSim.Server.Threads

/-!
# Events on their way

In every run of the server the events are numbered in the order of generation, each has been written,
is held by one thread, or belongs to a closed connection, and the engine has run through the calls the
threads have made.
-/

namespace NseFoExchangeSim.Server

open Lib Engine

variable {cfg : EngineConfig} {s s' : ServerState} {t : Thread} {c : Control} {h : List Delivery}
  {a : Action} {w : List Delivery}

/-! ## Fields after an update -/

section Fields

variable (s t c) (sessionId : UInt64) (op : Op) (next : Option (List Delivery))

@[simp] theorem setControl_generated : (s.setControl t c).generated = s.generated := rfl

@[simp] theorem setControl_closed : (s.setControl t c).closed = s.closed := rfl

@[simp] theorem setControl_self : (s.setControl t c).control t = c := by
  simp [ServerState.setControl]

theorem setControl_of_ne {u : Thread} (hu : u ≠ t) :
    (s.setControl t c).control u = s.control u := by simp [ServerState.setControl, hu]

theorem setControl_setControl (c' : Control) :
    (s.setControl t c).setControl t c' = s.setControl t c' := by
  simp [ServerState.setControl]

theorem setClosed_closed (id : UInt64) :
    (s.setClosed sessionId).closed id = true ↔ id = sessionId ∨ s.closed id = true := by
  by_cases hid : id = sessionId
  · simp [ServerState.setClosed, hid]
  · simp [ServerState.setClosed, hid]

@[simp] theorem afterClose_generated :
    (afterClose cfg s t sessionId next).generated = s.generated := rfl

@[simp] theorem afterCall_generated :
    (afterCall cfg s t op).generated = s.generated ++ called cfg s t op := rfl

end Fields

/-! ## What a thread holds -/

section Pending

variable {u : Thread}

theorem pending_of_control (hc : s.control t = c) : s.pending t = c.pending := by
  rw [ServerState.pending, hc]

theorem setControl_pending_self : (s.setControl t c).pending t = c.pending :=
  pending_of_control (setControl_self s t c)

theorem setControl_pending_of_ne (hu : u ≠ t) : (s.setControl t c).pending u = s.pending u := by
  rw [ServerState.pending, setControl_of_ne s t c hu, ServerState.pending]

theorem setControl_pending_same (hc : s.pending t = c.pending) (u : Thread) :
    (s.setControl t c).pending u = s.pending u := by
  by_cases hu : u = t
  · rw [hu, setControl_pending_self, hc]
  · exact setControl_pending_of_ne hu

theorem afterCall_control {op : Op} :
    (afterCall cfg s t op).control = (s.setControl t (.running (called cfg s t op))).control := rfl

theorem afterCall_pending_self {op : Op} : (afterCall cfg s t op).pending t = called cfg s t op := by
  rw [ServerState.pending, afterCall_control, setControl_self, Control.pending]

theorem afterCall_pending_of_ne {op : Op} (hu : u ≠ t) :
    (afterCall cfg s t op).pending u = s.pending u := by
  rw [ServerState.pending, afterCall_control, setControl_of_ne s t _ hu, ServerState.pending]

theorem afterClose_control {sessionId : UInt64} {next : Option (List Delivery)} :
    (afterClose cfg s t sessionId next).control =
      (s.setControl t (next.elim .ended .running)).control := rfl

theorem afterClose_pending {sessionId : UInt64} {next : Option (List Delivery)}
    (hc : s.control t = .closing sessionId next) (u : Thread) :
    (afterClose cfg s t sessionId next).pending u = s.pending u := by
  rw [ServerState.pending, afterClose_control]
  refine setControl_pending_same ?_ u
  rw [pending_of_control hc]
  cases next <;> rfl

end Pending

/-! ## Numbering -/

theorem deliveries_index (n : Nat) (es : List EngineEvent) :
    (t.deliveries n es).map (·.index) = List.range' n es.length := by
  rw [Thread.deliveries, List.map_map]
  exact List.zipIdx_map_snd n es

theorem deliveries_event (n : Nat) (es : List EngineEvent) :
    (t.deliveries n es).map (·.event) = es := by
  rw [Thread.deliveries, List.map_map]
  exact List.zipIdx_map_fst n es

/-- The events are numbered in the order of generation. -/
def Numbered (s : ServerState) : Prop :=
  s.generated.map (·.index) = List.range s.generated.length

theorem Effect.numbered (he : Effect cfg s a w s') (hn : Numbered s) : Numbered s' := by
  cases he with
  | @enter t op hc =>
      have hlen : (called cfg s t op).length = (engine cfg s.engine op).1.length := by
        simp [called, Thread.deliveries]
      rw [Numbered, afterCall_generated, List.map_append, hn, List.length_append, hlen, called,
        deliveries_index, List.range_eq_range', List.range_eq_range', ← List.range'_append]
      simp
  | _ => exact hn

theorem Numbered.increasing (hn : Numbered s) :
    s.generated.Pairwise fun d d' => d.index < d'.index := by
  have hpair : (s.generated.map (·.index)).Pairwise (· < ·) := by
    rw [hn]
    exact List.pairwise_lt_range
  exact List.pairwise_map.mp hpair

theorem Numbered.index_lt (hn : Numbered s) {d : Delivery} (hd : d ∈ s.generated) :
    d.index < s.generated.length := by
  have hmem : d.index ∈ s.generated.map (·.index) := List.mem_map_of_mem hd
  rw [hn] at hmem
  exact List.mem_range.mp hmem

theorem le_index_of_called {op : Op} {d : Delivery} (hd : d ∈ called cfg s t op) :
    s.generated.length ≤ d.index := by
  have hmem : d.index ∈ (called cfg s t op).map (·.index) := List.mem_map_of_mem hd
  rw [called, deliveries_index] at hmem
  exact (List.mem_range'_1.mp hmem).1

theorem called_nodup (op : Op) : (called cfg s t op).Nodup := by
  have hpair : ((called cfg s t op).map (·.index)).Pairwise (· < ·) := by
    rw [called, deliveries_index]
    exact List.pairwise_lt_range'
  apply (List.pairwise_map.mp hpair).imp
  rintro d d' hlt rfl
  exact Nat.lt_irrefl _ hlt

/-! ## No event is lost or doubled -/

/-- Events are lost to closed connections only. -/
abbrev Lost (s : ServerState) (d : Delivery) : Prop := s.closed d.sessionId = true

/-- Every event is accounted for, given the history of what was written. -/
abbrev Accounted (h : List Delivery) (s : ServerState) : Prop :=
  Conserved (Lost s) s.generated h s.pending

theorem Effect.accounted (he : Effect cfg s a w s') (hn : Numbered s) (hc : Accounted h s) :
    Accounted (h ++ w) s' := by
  cases he with
  | idle _ =>
      rw [List.append_nil]
      exact hc
  | receive hcontrol hop =>
      rw [List.append_nil]
      have hnone := pending_of_control hcontrol
      exact hc.congr (fun _ => id) (setControl_pending_same hnone)
  | @enter t op hcontrol =>
      rw [List.append_nil]
      refine hc.generate (pending_of_control hcontrol) afterCall_pending_self
        (fun u hu => afterCall_pending_of_ne hu) (called_nodup op) fun d hd hold => ?_
      have hlt := hn.index_lt hold
      have hle := le_index_of_called hd
      omega
  | skip hcontrol hd =>
      exact hc.take (pending_of_control hcontrol) setControl_pending_self
        (fun u hu => setControl_pending_of_ne hu) (fun _ => id) (.inr ⟨rfl, hd⟩)
  | write hcontrol hd =>
      exact hc.take (pending_of_control hcontrol) setControl_pending_self
        (fun u hu => setControl_pending_of_ne hu) (fun _ => id) (.inl rfl)
  | @writeError _ t d ds hcontrol hd =>
      have hgrow : ∀ v, Lost s v → Lost ((s.setClosed d.sessionId).setControl t
          (.closing d.sessionId (some ds))) v :=
        fun v hv => (setClosed_closed s d.sessionId v.sessionId).mpr (.inr hv)
      refine hc.take (pending_of_control hcontrol) setControl_pending_self
        (fun u hu => setControl_pending_of_ne hu) hgrow (.inr ⟨rfl, ?_⟩)
      exact (setClosed_closed s d.sessionId d.sessionId).mpr (.inl rfl)
  | @readError _ sessionId hcontrol =>
      rw [List.append_nil]
      have hnone := pending_of_control hcontrol
      refine hc.congr (fun v hv => ?_) fun u => ?_
      · exact (setClosed_closed s sessionId v.sessionId).mpr (.inr hv)
      · exact setControl_pending_same (s := s.setClosed sessionId) (c := .closing sessionId none) hnone u
  | close hcontrol =>
      rw [List.append_nil]
      exact hc.congr (fun _ => id) (afterClose_pending hcontrol)

/-! ## From steps to runs -/

/-- The runs of the server whose steps meet a condition. -/
abbrev ServerRun (cfg : EngineConfig) (ok : List Delivery → ServerState → Action → Prop) :
    List Delivery → ServerState → Prop :=
  Run (server cfg) ok (init cfg)

theorem ServerRun.any {ok : List Delivery → ServerState → Action → Prop}
    (r : ServerRun cfg ok h s) : ServerRun cfg anyCall h s := r.mono fun _ _ _ _ => trivial

theorem ServerRun.induct {ok : List Delivery → ServerState → Action → Prop}
    {P : List Delivery → ServerState → Prop} (h0 : P [] (init cfg))
    (hstep : ∀ h s a w s', P h s → ok h s a → Effect cfg s a w s' → P (h ++ w) s')
    (r : ServerRun cfg ok h s) : P h s :=
  Run.invariant h0 (fun h s a _ hp ha => hstep h s a _ _ hp ha (server_effect a)) r

theorem ServerRun.numbered (r : ServerRun cfg anyCall h s) : Numbered s :=
  ServerRun.induct (P := fun _ s => Numbered s) rfl (fun _ _ _ _ _ hn _ he => he.numbered hn) r

theorem ServerRun.accounted (r : ServerRun cfg anyCall h s) : Accounted h s := by
  have hboth : Numbered s ∧ Accounted h s := by
    refine ServerRun.induct (P := fun h s => Numbered s ∧ Accounted h s)
      ⟨rfl, .nil fun _ => rfl⟩ ?_ r
    rintro h s a w s' ⟨hn, hc⟩ _ he
    exact ⟨he.numbered hn, he.accounted hn hc⟩
  exact hboth.2

/-- The engine under the server has run through the calls of the threads. -/
theorem ServerRun.reachable (r : ServerRun cfg anyCall h s) :
    Reachable cfg (s.generated.map (·.event)) s.engine := by
  refine ServerRun.induct (P := fun _ s => Reachable cfg (s.generated.map (·.event)) s.engine)
    .nil ?_ r
  intro h s a w s' hp _ he
  cases he with
  | @enter t op hc =>
      have hcall := Run.snoc op hp trivial
      rw [afterCall_generated, List.map_append, called, deliveries_event]
      exact hcall
  | @close _ t sessionId next hc =>
      have hcall := Run.snoc (Op.sessionClosed sessionId) hp trivial
      simp only [engine, List.append_nil] at hcall
      exact hcall
  | _ => exact hp

/-! ## Dispatching what is held -/

/-- A thread that dispatches all it holds, every write going through, writes what is for connections
that are not closed. -/
theorem exec_dispatch (cfg : EngineConfig) (ds : List Delivery) (hc : s.control t = .running ds) :
    exec (server cfg) s (List.replicate ds.length (.dispatch t true)) =
      (ds.filter fun d => !s.closed d.sessionId, s.setControl t (.running [])) := by
  induction ds generalizing s with
  | nil =>
      have hself : s.setControl t (.running []) = s := by
        rw [ServerState.setControl, ← hc, Function.update_eq_self]
      simp [exec, hself]
  | cons d ds ih =>
      have hnext := @ih (s.setControl t (.running ds)) (setControl_self s t _)
      simp only [setControl_closed, setControl_setControl] at hnext
      rw [List.length_cons, List.replicate_succ, exec]
      cases hd : s.closed d.sessionId with
      | true => simp [server, hc, hd, hnext]
      | false => simp [server, hc, hd, hnext]

end NseFoExchangeSim.Server
