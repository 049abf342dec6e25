import NseFoExchangeSim.Server.Locks

/-!
# Who holds which mutex

A mutex is held by the thread that stands where it holds it, and a thread that has read the engine's
state under the mutex finds it as it was until it writes. Taking and releasing a mutex changes nothing
that is seen from outside.
-/

namespace NseFoExchangeSim.Server

open Protocol Engine

/-- A request that is refused has no effect on the engine. -/
theorem engine_of_refusal {cfg : EngineConfig} {st : EngineState} {op : Op} {e : EngineEvent}
    (h : refusal op = some e) : engine cfg st op = ([e], st) := by
  cases op with
  | newOrder env request sessionId session =>
      simp only [refusal, Option.ite_none_left_eq_some, Option.some.injEq, Bool.not_eq_true] at h
      obtain ⟨hinvalid, rfl⟩ := h
      simp [engine, onNewOrder, hinvalid]
  | modifyOrder env request sessionId session =>
      simp only [refusal, Option.ite_none_left_eq_some, Option.some.injEq, Bool.not_eq_true] at h
      obtain ⟨hinvalid, rfl⟩ := h
      simp [engine, onModifyOrder, hinvalid]
  | cancelOrder env request sessionId session =>
      simp only [refusal, Option.ite_none_left_eq_some, Option.some.injEq, Bool.not_eq_true] at h
      obtain ⟨hinvalid, rfl⟩ := h
      simp [engine, onCancelOrder, hinvalid]
  | tbtOrder env message => cases h
  | tbtTrade env message => cases h
  | sessionClosed sessionId => cases h

/-- The engine's state as the thread has read it. -/
def LockControl.reads : LockControl → Option EngineState
  | .inCall _ read | .inClose _ _ read => some read
  | _ => none

theorem LockControl.holds_of_reads {c : LockControl} {read : EngineState} (h : c.reads = some read) :
    Mutex.engine ∈ c.holds := by
  cases c with
  | inCall op read => simp [holds]
  | inClose sessionId next read => cases next <;> simp [holds]
  | _ => cases h

/-- What a thread that holds a connection's mutex does with it. -/
def LockControl.view (c : LockControl) : Bool × List Delivery := (c.failing, c.sending)

namespace LockState

variable (s : LockState)

def view (sessionId : UInt64) : Bool × List Delivery :=
  match s.holder (.write sessionId) with
  | some t => (s.control t).view
  | none => (false, [])

/-- The mutexes are held by the threads that stand where they hold them. -/
def Held : Prop := ∀ m t, s.holder m = some t ↔ m ∈ (s.control t).holds

/-- What a thread has read is what the engine's state still is. -/
def Fresh : Prop := ∀ t read, (s.control t).reads = some read → read = s.engine

section View

variable {s} {t : Thread} {c : LockControl} {m : Mutex} {i id : UInt64}

theorem inFlight_eq : s.inFlight id = (s.view id).2 := by
  simp only [inFlight, view]
  cases s.holder (.write id) <;> rfl

theorem seenClosed_eq : s.seenClosed id = (s.closed id || (s.view id).1) := by
  simp only [seenClosed, view]
  cases s.holder (.write id) <;> rfl

theorem view_held (h : s.Held) (hm : Mutex.write id ∈ (s.control t).holds) :
    s.view id = (s.control t).view := by
  simp only [view, (h _ _).mpr hm]

theorem view_setControl (hc : c.view = (s.control t).view) :
    (s.setControl t c).view id = s.view id := by
  simp only [view, setControl]
  cases s.holder (.write id) with
  | none => rfl
  | some t' =>
      by_cases ht : t' = t
      · simp [ht, hc]
      · simp [ht]

/-- Only the connection whose mutex the thread holds is seen otherwise. -/
theorem view_setControl_of_holds (h : s.Held) (hm : (s.control t).holds = [.write i]) :
    (s.setControl t c).view id = if id = i then c.view else s.view id := by
  have howner := h (.write id) t
  rw [hm, List.mem_singleton, Mutex.write.injEq] at howner
  split
  · rename_i hid
    simp only [view, setControl, howner.mpr hid, Function.update_self]
  · rename_i hid
    simp only [view, setControl]
    cases hholder : s.holder (.write id) with
    | none => rfl
    | some t' =>
        have ht : t' ≠ t := by
          rintro rfl
          exact hid (howner.mp hholder)
        simp [ht]

theorem view_acquire (hold : (s.control t).view = (false, [])) (hc : c.view = (false, [])) :
    (s.acquire m t c).view id = s.view id := by
  rw [acquire]
  cases hm : s.holder m with
  | some _ => rfl
  | none =>
      have hsame := @view_setControl s t c id (hc.trans hold.symm)
      by_cases hid : Mutex.write id = m
      · simp only [view, hid, Function.update_self, setControl, hc, hm]
      · simpa only [view, Function.update_of_ne hid, setControl] using hsame

theorem view_release (h : s.Held) (hm : m ∈ (s.control t).holds)
    (hold : (s.control t).view = (false, [])) (hc : c.view = (false, [])) :
    (s.release m t c).view id = s.view id := by
  have hsame := @view_setControl s t c id (hc.trans hold.symm)
  by_cases hid : Mutex.write id = m
  · subst hid
    rw [view_held h hm, hold]
    simp only [view, release, Function.update_self]
  · simpa only [view, release, Function.update_of_ne hid, setControl] using hsame

end View

/-! ## Held mutexes -/

section Held

variable {s} {t : Thread} {c : LockControl} {m : Mutex}

theorem held_init (cfg : EngineConfig) : (init cfg).Held := by
  intro m t
  simp [init, LockControl.holds]

theorem Held.setControl (h : s.Held) (hc : c.holds = (s.control t).holds) :
    (s.setControl t c).Held := by
  intro m t'
  by_cases ht : t' = t
  · simpa [LockState.setControl, ht, hc] using h m t
  · simpa [LockState.setControl, ht] using h m t'

theorem Held.acquire (h : s.Held)
    (hc : ∀ m', m' ∈ c.holds ↔ m' = m ∨ m' ∈ (s.control t).holds) : (s.acquire m t c).Held := by
  rw [LockState.acquire]
  cases hm : s.holder m with
  | some _ => exact h
  | none =>
      intro m' t'
      by_cases hm' : m' = m <;> by_cases ht : t' = t
      · simp [LockState.setControl, hm', ht, hc]
      · have hnot : m ∉ (s.control t').holds := by
          rw [← h, hm]
          simp
        simp [LockState.setControl, hm', ht, Ne.symm ht, hnot]
      · simpa [LockState.setControl, hm', ht, hc] using h m' t
      · simpa [LockState.setControl, hm', ht] using h m' t'

theorem Held.release (h : s.Held) (hm : m ∈ (s.control t).holds)
    (hc : ∀ m', m' ∈ c.holds ↔ m' ≠ m ∧ m' ∈ (s.control t).holds) : (s.release m t c).Held := by
  intro m' t'
  by_cases hm' : m' = m <;> by_cases ht : t' = t
  · simp [LockState.release, LockState.setControl, hm', ht, hc]
  · have hnot : m ∉ (s.control t').holds := by
      rw [← h, (h m t).mpr hm, Option.some.injEq]
      exact Ne.symm ht
    simp [LockState.release, LockState.setControl, hm', ht, hnot]
  · simpa [LockState.release, LockState.setControl, hm', ht, hc] using h m' t
  · simpa [LockState.release, LockState.setControl, hm', ht] using h m' t'

/-- Of two threads that hold the same mutex both are the same. -/
theorem Held.unique (h : s.Held) {t' : Thread} (hm : m ∈ (s.control t).holds)
    (hm' : m ∈ (s.control t').holds) : t' = t := by
  have heq := ((h m t').mpr hm').symm.trans ((h m t).mpr hm)
  simpa using heq

end Held

/-! ## Fresh reads -/

section Fresh

variable {s s' : LockState} {t : Thread} {c : LockControl}

theorem Fresh.step (h : s.Fresh) (hengine : s'.engine = s.engine)
    (hcontrol : s'.control = Function.update s.control t c)
    (hc : ∀ read, c.reads = some read → read = s.engine) : s'.Fresh := by
  intro t' read hread
  rw [hengine]
  rw [hcontrol] at hread
  by_cases ht : t' = t
  · rw [ht, Function.update_self] at hread
    exact hc read hread
  · rw [Function.update_of_ne ht] at hread
    exact h t' read hread

/-- The thread that writes the engine's state holds the mutex, so that no other thread has read it. -/
theorem fresh_commit (hheld : s.Held) (hm : Mutex.engine ∈ (s.control t).holds)
    (hcontrol : s'.control = Function.update s.control t c) (hc : c.reads = none) : s'.Fresh := by
  intro t' read hread
  rw [hcontrol] at hread
  by_cases ht : t' = t
  · rw [ht, Function.update_self, hc] at hread
    cases hread
  · rw [Function.update_of_ne ht] at hread
    exact absurd (hheld.unique hm (LockControl.holds_of_reads hread)) ht

theorem Fresh.acquire {m : Mutex} (h : s.Fresh) (hc : ∀ read, c.reads = some read → read = s.engine) :
    (s.acquire m t c).Fresh := by
  rw [LockState.acquire]
  split
  · exact h
  · exact h.step rfl rfl hc

end Fresh

/-! ## What is seen -/

section Seen

variable {s s' : LockState} {t : Thread} {c : LockControl} {m : Mutex}

theorem seen_control (hcontrol : s'.control = Function.update s.control t c) :
    s'.seen.control = Function.update s.seen.control t c.seen := by
  funext t'
  simp only [seen, hcontrol]
  by_cases ht : t' = t
  · simp [ht]
  · simp [ht]

theorem seen_eq (hengine : s'.engine = s.engine) (hcontrol : s'.seen.control = s.seen.control)
    (hclosed : s'.seenClosed = s.seenClosed) (hgenerated : s'.generated = s.generated)
    (hreturnedAt : s'.returnedAt = s.returnedAt) : s'.seen = s.seen := by
  simp only [seen] at hcontrol ⊢
  rw [hengine, hcontrol, hclosed, hgenerated, hreturnedAt]

theorem seen_control_same (hcontrol : s'.control = Function.update s.control t c)
    (hc : c.seen = (s.control t).seen) : s'.seen.control = s.seen.control := by
  rw [seen_control hcontrol, hc]
  exact Function.update_eq_self t _

end Seen

end LockState

end NseFoExchangeSim.Server
