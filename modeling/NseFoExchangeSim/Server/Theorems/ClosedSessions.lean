import NseFoExchangeSim.Engine.Lemmas.Sessions
import NseFoExchangeSim.Engine.Requests
import NseFoExchangeSim.Server.Lemmas.Events

/-!
# Closed sessions

Once `onSessionClosed` has returned for a session, the session owns no order and gets no successful
event, exactly as long as the engine accepts no order for it. The read loop does not look at `closed_`,
so a request that was read before the close can still be accepted after it.
-/

namespace NseFoExchangeSim.Server

open Lib Engine

variable {cfg : EngineConfig} {s s' : ServerState} {h w : List Delivery} {a : Action}

/-- A session whose close has returned after `i` events owns no order, and no later event reports a
success to it. -/
def Clean (s : ServerState) : Prop :=
  ∀ sessionId i, s.returnedAt sessionId = some i →
    Without sessionId s.engine ∧
      ∀ d ∈ s.generated.drop i, d.event.successful = true → d.event.order.sessionId ≠ sessionId

/-- The order that the engine accepts in a step. -/
def accepted (cfg : EngineConfig) (s : ServerState) : Action → Option OrderSnapshot
  | .enter t =>
      match s.control t with
      | .entering op =>
          match label cfg s.engine op with
          | .accept snapshot => some snapshot
          | _ => none
      | _ => none
  | _ => none

/-- The engine accepts no order for a session whose close has returned. -/
def EntersInTime (cfg : EngineConfig) (_ : List Delivery) (s : ServerState) (a : Action) : Prop :=
  ∀ snapshot ∈ accepted cfg s a, s.returnedAt snapshot.sessionId = none

instance (cfg : EngineConfig) (h : List Delivery) (s : ServerState) (a : Action) :
    Decidable (EntersInTime cfg h s a) :=
  inferInstanceAs (Decidable (∀ snapshot ∈ accepted cfg s a, s.returnedAt snapshot.sessionId = none))

theorem accepted_eq_some {snapshot : OrderSnapshot} :
    accepted cfg s a = some snapshot ↔
      ∃ t op, a = .enter t ∧ s.control t = .entering op ∧
        label cfg s.engine op = .accept snapshot := by
  constructor
  · intro ha
    unfold accepted at ha
    split at ha
    · rename_i t
      split at ha
      · rename_i op hc
        split at ha
        · rename_i hl
          cases ha
          exact ⟨t, op, rfl, hc, hl⟩
        · cases ha
      · cases ha
    · cases ha
  · rintro ⟨t, op, rfl, hc, hl⟩
    simp [accepted, hc, hl]

/-! ## A step keeps closed sessions clean -/

/-- A close has returned no later than now. -/
def Returned (s : ServerState) : Prop :=
  ∀ sessionId i, s.returnedAt sessionId = some i → i ≤ s.generated.length

theorem afterClose_returnedAt {t : Thread} {sessionId id : UInt64} {next : Option (List Delivery)}
    {i : Nat} (hi : (afterClose cfg s t sessionId next).returnedAt id = some i) :
    s.returnedAt id = some i ∨ (id = sessionId ∧ i = s.generated.length) := by
  by_cases hid : id = sessionId
  · subst hid
    simp only [afterClose, Function.update_self] at hi
    cases hr : s.returnedAt id with
    | none =>
        rw [hr, Option.getD_none] at hi
        cases hi
        exact .inr ⟨rfl, rfl⟩
    | some j =>
        rw [hr, Option.getD_some] at hi
        exact .inl hi
  · simp only [afterClose, Function.update_of_ne hid] at hi
    exact .inl hi

theorem Effect.returned (he : Effect cfg s a w s') (hr : Returned s) : Returned s' := by
  cases he with
  | enter hc =>
      intro sessionId i hi
      rw [afterCall_generated, List.length_append]
      exact Nat.le_add_right_of_le (hr sessionId i hi)
  | close hc =>
      intro sessionId i hi
      rcases afterClose_returnedAt hi with hi | ⟨_, rfl⟩
      · exact hr sessionId i hi
      · exact Nat.le_refl _
  | _ => exact hr

theorem event_of_called {t : Thread} {op : Op} {d : Delivery} (hd : d ∈ called cfg s t op) :
    d.event ∈ (engine cfg s.engine op).1 := by
  have hmem : d.event ∈ (called cfg s t op).map (·.event) := List.mem_map_of_mem hd
  rwa [called, deliveries_event] at hmem

theorem Effect.clean (he : Effect cfg s a w s') (hok : EntersInTime cfg h s a) (hr : Returned s)
    (hlisted : SessionsListed s.engine) (hc : Clean s) : Clean s' := by
  cases he with
  | @enter t op hcontrol =>
      intro sessionId i hi
      obtain ⟨hwithout, hquiet⟩ := hc sessionId i hi
      have hnone : NoneFor sessionId (label cfg s.engine op) := by
        rintro snapshot hl rfl
        have hintime := hok snapshot (accepted_eq_some.mpr ⟨t, op, rfl, hcontrol, hl⟩)
        rw [show s.returnedAt snapshot.sessionId = some i from hi] at hintime
        cases hintime
      obtain ⟨hwithout', hquiet'⟩ := engine_without op hnone hwithout
      refine ⟨hwithout', fun d hd => ?_⟩
      rw [afterCall_generated, List.drop_append_of_le_length (hr sessionId i hi)] at hd
      rcases List.mem_append.mp hd with hd | hd
      · exact hquiet d hd
      · exact hquiet' d.event (event_of_called hd)
  | @close _ t closing next hcontrol =>
      intro sessionId i hi
      by_cases hid : sessionId = closing
      · subst hid
        refine ⟨onSessionClosed_without hlisted sessionId, fun d hd => ?_⟩
        rcases afterClose_returnedAt hi with hi | ⟨_, rfl⟩
        · exact (hc sessionId i hi).2 d hd
        · rw [afterClose_generated, List.drop_length] at hd
          cases hd
      · obtain ⟨hi, _⟩ | hi := (afterClose_returnedAt hi).symm
        · exact absurd hi hid
        · obtain ⟨hwithout, hquiet⟩ := hc sessionId i hi
          have hother : NoneFor sessionId (label cfg s.engine (.sessionClosed closing)) :=
            fun _ hl => by cases hl
          exact ⟨(engine_without _ hother hwithout).1, hquiet⟩
  | _ => exact hc

/-! ## Every run -/

theorem ServerRun.returned (r : ServerRun cfg anyCall h s) : Returned s := by
  refine ServerRun.induct (P := fun _ s => Returned s) ?_ (fun _ _ _ _ _ hr _ he => he.returned hr) r
  intro sessionId i hi
  cases hi

theorem ServerRun.clean (r : ServerRun cfg (EntersInTime cfg) h s) : Clean s := by
  refine Run.invariant (P := fun _ s => Clean s) ?_ ?_ r
  · intro sessionId i hi
    cases hi
  · intro h s a r hc hok
    have hany := ServerRun.any r
    exact (server_effect a).clean hok hany.returned hany.reachable.sessionsListed hc

/-- An order accepted too late makes its session unclean: its confirmation comes after the close. -/
theorem entersInTime_of_clean (r : ServerRun cfg anyCall h s) (hc : Clean (server cfg s a).2) :
    EntersInTime cfg h s a := by
  intro snapshot ha
  obtain ⟨t, op, rfl, hcontrol, hl⟩ := accepted_eq_some.mp ha
  cases hi : s.returnedAt snapshot.sessionId with
  | none => rfl
  | some i =>
      exfalso
      have hafter : (server cfg s (.enter t)).2 = afterCall cfg s t op := by simp [server, hcontrol]
      rw [hafter] at hc
      obtain ⟨rest, hrest⟩ := engine_confirms hl
      have hevent : confirmationEvent snapshot ∈ (called cfg s t op).map (·.event) := by
        rw [called, deliveries_event, hrest]
        exact List.mem_cons_self
      obtain ⟨d, hd, hconfirmation⟩ := List.mem_map.mp hevent
      have hlate : d ∈ (afterCall cfg s t op).generated.drop i := by
        rw [afterCall_generated, List.drop_append_of_le_length (r.returned _ i hi)]
        exact List.mem_append_right _ hd
      apply (hc snapshot.sessionId i hi).2 d hlate
      · rw [hconfirmation]
        exact (confirmationEvent_kind snapshot).1
      · rw [hconfirmation]
        rfl

/-- Closed sessions stay clean throughout a run exactly when none of its steps makes the engine accept
an order for a session whose close has returned. -/
theorem closed_session_owns_nothing (cfg : EngineConfig) (as : List Action) :
    Meets (server cfg) (EntersInTime cfg) [] (init cfg) as ↔
      ∀ bs, bs <+: as → Clean (exec (server cfg) (init cfg) bs).2 :=
  meets_iff_everywhere (P := fun _ s => Clean s) (fun _ _ r => ServerRun.clean r)
    (fun _ _ _ r hc => entersInTime_of_clean r hc) as

/-! ## A request read before the close -/

/-- A client's order rests, its next order has been read; the feed trades the first one, and the write
of the trade fails. -/
def closedMidway : List Action :=
  [.request 1 calm (.orderEntry (orderRequest 654321 1 25 1000 Protocol.kOrderFlagsDay)),
    .enter (.session 1), .dispatch (.session 1) true,
    .request 1 calm (.orderEntry (orderRequest 654321 1 25 990 Protocol.kOrderFlagsDay)),
    .packet 0 calm (.order (tbtOrder 'N' 1 654321 'S' 999 10)), .enter (.marketData 0),
    .dispatch (.marketData 0) false, .close (.marketData 0)]

/-- The second order is accepted after the close of its session, and rests. -/
theorem accepted_after_close :
    let s := (exec (server bookMatching) (init bookMatching) closedMidway).2
    let s' := (exec (server bookMatching) (init bookMatching)
      (closedMidway ++ [.enter (.session 1)])).2
    s.closed 1 = true ∧ s.returnedAt 1 = some 2 ∧ Clean s ∧
      (s'.engine.openOrders.find? 200001).map (·.sessionId) = some 1 ∧ ¬Clean s' := by
  intro s s'
  have hopen : (s'.engine.openOrders.find? 200001).map (·.sessionId) = some 1 := by decide +kernel
  refine ⟨by decide +kernel, by decide +kernel, ?_, hopen, fun hc => ?_⟩
  · have hmeets : Meets (server bookMatching) (EntersInTime bookMatching) [] (init bookMatching)
        closedMidway := by decide +kernel
    exact ServerRun.clean (run_exec_of_meets hmeets)
  · obtain ⟨o, ho, hs⟩ := Option.map_eq_some_iff.mp hopen
    exact (hc 1 2 (by decide +kernel)).1 200001 o ho hs

end NseFoExchangeSim.Server
