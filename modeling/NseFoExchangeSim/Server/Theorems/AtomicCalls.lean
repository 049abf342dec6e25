import NseFoExchangeSim.Lib.Refinement
import NseFoExchangeSim.Server.Lemmas.Locks

/-!
# Calls and dispatches are atomic

With the mutexes, every interleaving of the threads' small steps is seen from outside as a run of the
server in which a call of the engine is one step and a dispatch is one step. A call counts at the moment
its state is written or its request refused, a dispatch at the moment `closed_` is looked at under the
connection's mutex.
-/

namespace NseFoExchangeSim.Server

open Lib Protocol Engine

/-! ## The relation -/

/-- What has been written for one connection. -/
def writtenTo (id : UInt64) (h : List Delivery) : List Delivery := h.filter (·.sessionId == id)

/-- The server stands as it is seen, and has written to each connection what the threads have written
and what is on its way. -/
structure SeenAs (h : List Delivery) (s : LockState) (k : List Delivery) (v : ServerState) :
    Prop where
  held : s.Held
  fresh : s.Fresh
  seen : v = s.seen
  written : ∀ id, writtenTo id k = writtenTo id h ++ s.inFlight id

/-- A step of a thread is matched by steps of the server. -/
def Matched (cfg : EngineConfig) (h : List Delivery) (k : List Delivery) (v : ServerState)
    (r : List Delivery × LockState) : Prop :=
  ∃ bs, SeenAs (h ++ r.1) r.2 (k ++ (exec (server cfg) v bs).1) (exec (server cfg) v bs).2

section Steps

variable {cfg : EngineConfig} {h k : List Delivery} {s s' : LockState} {v : ServerState} {t : Thread}
  {c : LockControl} {m : Mutex} {d : Delivery} {ds : List Delivery} {id : UInt64}

theorem writtenTo_append (h k : List Delivery) :
    writtenTo id (h ++ k) = writtenTo id h ++ writtenTo id k := List.filter_append ..

@[simp] theorem writtenTo_nil : writtenTo id [] = [] := rfl

theorem writtenTo_one : writtenTo id [d] = if id = d.sessionId then [d] else [] := by
  by_cases hd : id = d.sessionId
  · simp [writtenTo, hd]
  · simp [writtenTo, hd, Ne.symm hd]

/-! ## Silent steps -/

theorem matched_silent (hf : SeenAs h s k v) (hheld : s'.Held) (hfresh : s'.Fresh)
    (hseen : s'.seen = s.seen) (hview : ∀ id, s'.view id = s.view id) :
    Matched cfg h k v ([], s') := by
  refine ⟨[], hheld, hfresh, hf.seen.trans hseen.symm, fun id => ?_⟩
  simp only [exec, List.append_nil]
  rw [hf.written, LockState.inFlight_eq, LockState.inFlight_eq, hview]

theorem seenClosed_same (hclosed : s'.closed = s.closed) (hview : ∀ id, s'.view id = s.view id) :
    s'.seenClosed = s.seenClosed := by
  funext id
  rw [LockState.seenClosed_eq, LockState.seenClosed_eq, hclosed, hview]

theorem seen_setControl (hview : c.view = (s.control t).view) :
    (s.setControl t c).seen = s.seen.setControl t c.seen := by
  have hcontrol := @LockState.seen_control s (s.setControl t c) _ _ rfl
  have hclosed : (s.setControl t c).seenClosed = s.seenClosed :=
    seenClosed_same rfl fun _ => LockState.view_setControl hview
  simp only [LockState.seen] at hcontrol ⊢
  rw [hcontrol, hclosed]
  rfl

theorem matched_setControl (hf : SeenAs h s k v) (hholds : c.holds = (s.control t).holds)
    (hreads : c.reads = none) (hview : c.view = (s.control t).view)
    (hseen : c.seen = (s.control t).seen) : Matched cfg h k v ([], s.setControl t c) := by
  refine matched_silent hf (hf.held.setControl hholds)
    (hf.fresh.step rfl rfl (by rw [hreads]; intro read hread; cases hread)) ?_
    (fun _ => LockState.view_setControl hview)
  exact LockState.seen_eq rfl (LockState.seen_control_same rfl hseen)
    (seenClosed_same rfl fun _ => LockState.view_setControl hview) rfl rfl

theorem matched_acquire (hf : SeenAs h s k v)
    (hholds : ∀ m', m' ∈ c.holds ↔ m' = m ∨ m' ∈ (s.control t).holds)
    (hreads : ∀ read, c.reads = some read → read = s.engine)
    (hold : (s.control t).view = (false, [])) (hview : c.view = (false, []))
    (hseen : c.seen = (s.control t).seen) : Matched cfg h k v ([], s.acquire m t c) := by
  refine matched_silent hf (hf.held.acquire hholds) (hf.fresh.acquire hreads) ?_
    (fun _ => LockState.view_acquire hold hview)
  have hviews : ∀ id, (s.acquire m t c).view id = s.view id :=
    fun _ => LockState.view_acquire hold hview
  rw [LockState.acquire] at hviews ⊢
  split
  · rfl
  · rename_i hfree
    simp only [hfree] at hviews
    exact LockState.seen_eq rfl (LockState.seen_control_same rfl hseen)
      (seenClosed_same rfl hviews) rfl rfl

theorem matched_release (hf : SeenAs h s k v) (hm : m ∈ (s.control t).holds)
    (hholds : ∀ m', m' ∈ c.holds ↔ m' ≠ m ∧ m' ∈ (s.control t).holds) (hreads : c.reads = none)
    (hold : (s.control t).view = (false, [])) (hview : c.view = (false, []))
    (hseen : c.seen = (s.control t).seen) : Matched cfg h k v ([], s.release m t c) := by
  have hviews : ∀ id, (s.release m t c).view id = s.view id :=
    fun _ => LockState.view_release hf.held hm hold hview
  refine matched_silent hf (hf.held.release hm hholds)
    (hf.fresh.step (c := c) (t := t) rfl rfl (by rw [hreads]; intro read hread; cases hread)) ?_ hviews
  exact LockState.seen_eq rfl (LockState.seen_control_same rfl hseen) (seenClosed_same rfl hviews)
    rfl rfl

/-! ## Steps that are seen -/

/-- One step of the server that writes nothing. -/
theorem matched_one (hf : SeenAs h s k v) (b : Action) (hheld : s'.Held) (hfresh : s'.Fresh)
    (hb : server cfg s.seen b = ([], s'.seen)) (hflight : ∀ id, s'.inFlight id = s.inFlight id) :
    Matched cfg h k v ([], s') := by
  rw [hf.seen]
  refine ⟨[b], hheld, hfresh, ?_, fun id => ?_⟩
  · simp only [exec, hb]
  · simp only [exec, hb, List.append_nil]
    rw [hf.written, hflight]

theorem matched_receive (hf : SeenAs h s k v) (op : Op) (b : Action)
    (hb : server cfg s.seen b = ([], receive s.seen t op)) :
    Matched cfg h k v ([], receiveLocked s t op) := by
  rw [receiveLocked]
  split
  · rename_i hc
    have hview : (LockControl.entering op).view = (s.control t).view := by rw [hc]; rfl
    refine matched_one hf b (hf.held.setControl (by rw [hc]; rfl))
      (hf.fresh.step (c := .entering op) rfl rfl fun read hread => by cases hread) ?_
      (fun id => by rw [LockState.inFlight_eq, LockState.view_setControl hview,
        LockState.inFlight_eq])
    have hseen : s.seen.control t = .running [] := by simp only [LockState.seen, hc]; rfl
    rw [hb, receive, hseen, seen_setControl hview]
    rfl
  · exact matched_silent hf hf.held hf.fresh rfl fun _ => rfl

/-- A request that is not valid is refused whatever state the engine is in, and leaves it there. -/
theorem matched_refuse (hf : SeenAs h s k v) {op : Op} {e : EngineEvent}
    (hc : s.control t = .entering op) (hrefusal : refusal op = some e) :
    Matched cfg h k v ([], refuse s t e) := by
  have hview : (LockControl.running (t.deliveries s.generated.length [e])).view =
      (s.control t).view := by
    rw [hc]
    rfl
  have hviews : ∀ id, (refuse s t e).view id = s.view id := fun id =>
    @LockState.view_setControl s t (.running (t.deliveries s.generated.length [e])) id hview
  have hheld : (s.setControl t (.running (t.deliveries s.generated.length [e]))).Held :=
    hf.held.setControl (by rw [hc]; rfl)
  refine matched_one hf (.enter t) hheld
    (hf.fresh.step (c := .running (t.deliveries s.generated.length [e])) rfl rfl
      fun read hread => by cases hread) ?_
    (fun id => by rw [LockState.inFlight_eq, hviews, LockState.inFlight_eq])
  have hseen : s.seen.control t = .entering op := by simp only [LockState.seen, hc]; rfl
  have hcontrol := @LockState.seen_control s (refuse s t e) _ _ rfl
  have hclosed : (refuse s t e).seenClosed = s.seenClosed := seenClosed_same rfl hviews
  have hengine := @engine_of_refusal cfg s.engine op e hrefusal
  simp only [server, hseen, afterCall, called]
  simp only [LockState.seen] at hcontrol ⊢
  rw [hcontrol, hclosed, hengine]
  rfl

/-- A call is made when the thread writes the engine's state, which is still the one it has read. -/
theorem matched_commitCall (hf : SeenAs h s k v) {op : Op} {read : EngineState}
    (hc : s.control t = .inCall op read) : Matched cfg h k v ([], commitCall cfg s t op read) := by
  have hread : read = s.engine := hf.fresh t read (by rw [hc]; rfl)
  subst hread
  have hview : (LockControl.afterCall (called cfg s.seen t op)).view = (s.control t).view := by
    rw [hc]
    rfl
  have hviews : ∀ id, (commitCall cfg s t op s.engine).view id = s.view id :=
    fun id => @LockState.view_setControl s t (.afterCall (called cfg s.seen t op)) id hview
  have hholds : (LockControl.afterCall (called cfg s.seen t op)).holds = (s.control t).holds := by
    rw [hc]
    rfl
  refine matched_one hf (.enter t) (hf.held.setControl hholds)
    (LockState.fresh_commit hf.held (by rw [hc]; simp [LockControl.holds]) rfl rfl) ?_
    (fun id => by rw [LockState.inFlight_eq, hviews, LockState.inFlight_eq])
  have hseen : s.seen.control t = .entering op := by simp only [LockState.seen, hc]; rfl
  have hcontrol := @LockState.seen_control s (commitCall cfg s t op s.engine) _ _ rfl
  have hclosed : (commitCall cfg s t op s.engine).seenClosed = s.seenClosed :=
    seenClosed_same rfl hviews
  simp only [server, hseen]
  simp only [LockState.seen] at hcontrol ⊢
  rw [hcontrol, hclosed]
  rfl

theorem matched_commitClose (hf : SeenAs h s k v) {sessionId : UInt64}
    {next : Option (List Delivery)} {read : EngineState}
    (hc : s.control t = .inClose sessionId next read) :
    Matched cfg h k v ([], commitClose cfg s t sessionId next read) := by
  have hread : read = s.engine := hf.fresh t read (by rw [hc]; rfl)
  subst hread
  have hview : (LockControl.afterClose sessionId next).view = (s.control t).view := by
    rw [hc]
    rfl
  have hviews : ∀ id, (commitClose cfg s t sessionId next s.engine).view id = s.view id :=
    fun id => @LockState.view_setControl s t (.afterClose sessionId next) id hview
  have hholds : (LockControl.afterClose sessionId next).holds = (s.control t).holds := by
    rw [hc]
    cases next <;> rfl
  refine matched_one hf (.close t) (hf.held.setControl hholds)
    (LockState.fresh_commit hf.held (by rw [hc]; cases next <;> simp [LockControl.holds]) rfl rfl) ?_
    (fun id => by rw [LockState.inFlight_eq, hviews, LockState.inFlight_eq])
  have hseen : s.seen.control t = .closing sessionId next := by simp only [LockState.seen, hc]; rfl
  have hcontrol :=
    @LockState.seen_control s (commitClose cfg s t sessionId next s.engine) _ _ rfl
  have hclosed : (commitClose cfg s t sessionId next s.engine).seenClosed = s.seenClosed :=
    seenClosed_same rfl hviews
  simp only [server, hseen]
  simp only [LockState.seen] at hcontrol ⊢
  rw [hcontrol, hclosed]
  rfl

/-! ## Dispatches -/

/-- The connection is found closed, before its mutex is taken or after. -/
theorem matched_skip (hf : SeenAs h s k v) (hseen : s.seen.control t = .running (d :: ds))
    (hclosed : s.closed d.sessionId = true) (hholds : c.holds = (s.control t).holds)
    (hreads : c.reads = none) (hview : c.view = (s.control t).view) (hc : c.seen = .running ds) :
    Matched cfg h k v ([], s.setControl t c) := by
  refine matched_one hf (.dispatch t true) (hf.held.setControl hholds)
    (hf.fresh.step rfl rfl (by rw [hreads]; intro read hread; cases hread)) ?_
    (fun id => by rw [LockState.inFlight_eq, LockState.view_setControl hview, LockState.inFlight_eq])
  have hseenClosed : s.seen.closed d.sessionId = true := by
    simp only [LockState.seen, LockState.seenClosed_eq, hclosed, Bool.true_or]
  simp only [server, hseen, hseenClosed, if_true]
  rw [seen_setControl hview, hc]

/-- The thread finds the connection open under its mutex and starts to write. -/
theorem matched_write (hf : SeenAs h s k v) (hc : s.control t = .checking d ds)
    (hopen : s.closed d.sessionId = false) (written : Bool) :
    Matched cfg h k v ([], s.setControl t (.writing d ds written)) := by
  have hholds : (s.control t).holds = [.write d.sessionId] := by rw [hc]; rfl
  have hmine : s.view d.sessionId = (false, []) := by
    rw [LockState.view_held hf.held (by rw [hholds]; exact List.mem_singleton_self _), hc]
    rfl
  have hviews : ∀ id, (s.setControl t (.writing d ds written)).view id =
      if id = d.sessionId then (LockControl.writing d ds written).view else s.view id :=
    fun id => LockState.view_setControl_of_holds hf.held hholds
  have hseen : s.seen.control t = .running (d :: ds) := by simp only [LockState.seen, hc]; rfl
  have hseenClosed : s.seen.closed d.sessionId = false := by
    simp only [LockState.seen, LockState.seenClosed_eq, hopen, hmine, Bool.or_false]
  have hcontrol := @LockState.seen_control s (s.setControl t (.writing d ds written)) _ _ rfl
  have hfresh : (s.setControl t (.writing d ds written)).Fresh :=
    hf.fresh.step (c := .writing d ds written) rfl rfl fun read hread => by cases hread
  have hheld : (s.setControl t (.writing d ds written)).Held := hf.held.setControl hholds.symm
  rw [hf.seen]
  refine ⟨[.dispatch t written], hheld, hfresh, ?_, fun id => ?_⟩
  · simp only [exec, server, hseen, hseenClosed, Bool.false_eq_true, if_false]
    have hclosed : (s.setControl t (.writing d ds written)).seenClosed =
        if written then s.seenClosed else Function.update s.seenClosed d.sessionId true := by
      funext id
      rw [LockState.seenClosed_eq, hviews]
      by_cases hid : id = d.sessionId
      · cases written <;> simp [hid, LockControl.view, LockControl.failing, LockState.seenClosed_eq,
          LockState.setControl, hmine]
      · cases written <;> simp [hid, LockState.seenClosed_eq, LockState.setControl]
    simp only [LockState.seen] at hcontrol ⊢
    rw [hcontrol, hclosed]
    cases written <;> rfl
  · simp only [exec, server, hseen, hseenClosed, Bool.false_eq_true, if_false, List.append_nil]
    rw [writtenTo_append, hf.written, LockState.inFlight_eq, LockState.inFlight_eq, hviews]
    by_cases hid : id = d.sessionId
    · cases written <;> simp [hid, hmine, LockControl.view, LockControl.sending, writtenTo_one]
    · cases written <;> simp [hid, writtenTo_one]

/-- The write succeeds. -/
theorem matched_written (hf : SeenAs h s k v) (hc : s.control t = .writing d ds true) :
    Matched cfg h k v ([d], s.setControl t (.unlockingWrite d.sessionId ds)) := by
  have hholds : (s.control t).holds = [.write d.sessionId] := by rw [hc]; rfl
  have hmine : s.view d.sessionId = (false, [d]) := by
    rw [LockState.view_held hf.held (by rw [hholds]; exact List.mem_singleton_self _), hc]
    rfl
  have hviews : ∀ id, (s.setControl t (.unlockingWrite d.sessionId ds)).view id =
      if id = d.sessionId then (false, []) else s.view id :=
    fun id => LockState.view_setControl_of_holds hf.held hholds
  have hheld : (s.setControl t (.unlockingWrite d.sessionId ds)).Held :=
    hf.held.setControl hholds.symm
  have hfresh : (s.setControl t (.unlockingWrite d.sessionId ds)).Fresh :=
    hf.fresh.step (c := .unlockingWrite d.sessionId ds) rfl rfl fun read hread => by cases hread
  refine ⟨[], hheld, hfresh, ?_, fun id => ?_⟩
  · rw [exec, hf.seen]
    symm
    refine LockState.seen_eq rfl (LockState.seen_control_same rfl (by rw [hc]; rfl)) ?_ rfl rfl
    funext id
    rw [LockState.seenClosed_eq, LockState.seenClosed_eq, hviews]
    by_cases hid : id = d.sessionId
    · simp [hid, hmine, LockState.setControl]
    · simp [hid, LockState.setControl]
  · rw [exec, List.append_nil, writtenTo_append, hf.written, LockState.inFlight_eq,
      LockState.inFlight_eq, hviews, writtenTo_one]
    by_cases hid : id = d.sessionId
    · simp [hid, hmine]
    · simp [hid]

/-- The write has thrown, and `closed_` is set. -/
theorem matched_failed (hf : SeenAs h s k v) (hc : s.control t = .failed d ds) :
    Matched cfg h k v
      ([], (s.setClosed d.sessionId).setControl t (.closing d.sessionId (some ds))) := by
  have hholds : (s.control t).holds = [.write d.sessionId] := by rw [hc]; rfl
  have hmine : s.view d.sessionId = (true, []) := by
    rw [LockState.view_held hf.held (by rw [hholds]; exact List.mem_singleton_self _), hc]
    rfl
  have hviews : ∀ id,
      ((s.setClosed d.sessionId).setControl t (.closing d.sessionId (some ds))).view id =
        if id = d.sessionId then (false, []) else s.view id :=
    fun id => @LockState.view_setControl_of_holds s t (.closing d.sessionId (some ds)) _ _ hf.held
      hholds
  have hheld : (s.setControl t (.closing d.sessionId (some ds))).Held :=
    hf.held.setControl hholds.symm
  have hfresh : (s.setControl t (.closing d.sessionId (some ds))).Fresh :=
    hf.fresh.step (c := .closing d.sessionId (some ds)) rfl rfl fun read hread => by cases hread
  refine ⟨[], hheld, hfresh, ?_, fun id => ?_⟩
  · rw [exec, hf.seen]
    symm
    refine LockState.seen_eq rfl (LockState.seen_control_same rfl (by rw [hc]; rfl)) ?_ rfl rfl
    funext id
    rw [LockState.seenClosed_eq, LockState.seenClosed_eq, hviews]
    by_cases hid : id = d.sessionId
    · simp [hid, hmine, LockState.setControl, LockState.setClosed]
    · simp [hid, LockState.setControl, LockState.setClosed]
  · simp only [exec, List.append_nil]
    rw [hf.written, LockState.inFlight_eq, LockState.inFlight_eq, hviews]
    by_cases hid : id = d.sessionId
    · simp [hid, hmine]
    · simp [hid]

/-! ## Every step -/

theorem matched_stay (hf : SeenAs h s k v) : Matched cfg h k v ([], s) :=
  matched_silent hf hf.held hf.fresh rfl fun _ => rfl

theorem matched_readError (hf : SeenAs h s k v) {sessionId : UInt64}
    (hc : s.control (.session sessionId) = .running []) :
    Matched cfg h k v
      ([], (s.setClosed sessionId).setControl (.session sessionId) (.closing sessionId none)) := by
  have hview : (LockControl.closing sessionId none).view = (s.control (.session sessionId)).view := by
    rw [hc]
    rfl
  have hviews : ∀ id, ((s.setClosed sessionId).setControl (.session sessionId)
      (.closing sessionId none)).view id = s.view id :=
    fun id => @LockState.view_setControl s (.session sessionId) (.closing sessionId none) id hview
  have hheld : (s.setControl (.session sessionId) (.closing sessionId none)).Held :=
    hf.held.setControl (by rw [hc]; rfl)
  have hfresh : (s.setControl (.session sessionId) (.closing sessionId none)).Fresh :=
    hf.fresh.step (c := .closing sessionId none) rfl rfl fun read hread => by cases hread
  refine matched_one hf (.readError sessionId) hheld hfresh ?_
    (fun id => by rw [LockState.inFlight_eq, hviews, LockState.inFlight_eq])
  have hseen : s.seen.control (.session sessionId) = .running [] := by
    simp only [LockState.seen, hc]
    rfl
  have hcontrol := @LockState.seen_control s
    ((s.setClosed sessionId).setControl (.session sessionId) (.closing sessionId none)) _ _ rfl
  have hclosed : ((s.setClosed sessionId).setControl (.session sessionId)
      (.closing sessionId none)).seenClosed = Function.update s.seenClosed sessionId true := by
    funext id
    rw [LockState.seenClosed_eq, hviews]
    by_cases hid : id = sessionId
    · simp [hid, LockState.setControl, LockState.setClosed]
    · simp [hid, LockState.seenClosed_eq, LockState.setControl, LockState.setClosed]
  simp only [server, hseen]
  simp only [LockState.seen] at hcontrol ⊢
  rw [hcontrol, hclosed]
  rfl

/-- One case for each place where a thread can stand. -/
theorem matched_proceed (hf : SeenAs h s k v) (t : Thread) (written : Bool) :
    Matched cfg h k v (proceed cfg s t written) := by
  have hnone : ∀ {c : LockControl}, c.reads = none →
      ∀ read, c.reads = some read → read = s.engine := by
    intro c hreads read hread
    rw [hreads] at hread
    cases hread
  cases hc : s.control t with
  | running pending =>
      cases pending with
      | nil => simpa only [proceed, hc] using matched_stay hf
      | cons d ds =>
          simp only [proceed, hc]
          split
          · rename_i hclosed
            exact matched_skip hf (by simp only [LockState.seen, hc]; rfl) hclosed (by rw [hc]; rfl)
              rfl (by rw [hc]; rfl) rfl
          · exact matched_setControl hf (by rw [hc]; rfl) rfl (by rw [hc]; rfl) (by rw [hc]; rfl)
  | entering op =>
      simp only [proceed, hc]
      split
      · rename_i hrefusal
        exact matched_refuse hf hc hrefusal
      · refine matched_acquire hf (by simp [hc, LockControl.holds]) ?_ (by rw [hc]; rfl) rfl
          (by rw [hc]; rfl)
        intro read hread
        cases hread
        rfl
  | inCall op read => simpa only [proceed, hc] using matched_commitCall hf hc
  | afterCall pending =>
      simp only [proceed, hc]
      exact matched_release hf (by simp [hc, LockControl.holds]) (by simp [hc, LockControl.holds]) rfl
        (by rw [hc]; rfl) rfl (by rw [hc]; rfl)
  | lockingWrite d ds =>
      simp only [proceed, hc]
      exact matched_acquire hf (by simp [hc, LockControl.holds]) (hnone rfl) (by rw [hc]; rfl) rfl
        (by rw [hc]; rfl)
  | checking d ds =>
      simp only [proceed, hc]
      split
      · rename_i hclosed
        exact matched_skip hf (by simp only [LockState.seen, hc]; rfl) hclosed (by rw [hc]; rfl) rfl
          (by rw [hc]; rfl) rfl
      · rename_i hopen
        exact matched_write hf hc (by simpa using hopen) written
  | writing d ds outcome =>
      cases outcome with
      | true => simpa only [proceed, hc] using matched_written hf hc
      | false =>
          simp only [proceed, hc]
          exact matched_setControl hf (by rw [hc]; rfl) rfl (by rw [hc]; rfl) (by rw [hc]; rfl)
  | failed d ds => simpa only [proceed, hc] using matched_failed hf hc
  | unlockingWrite sessionId ds =>
      simp only [proceed, hc]
      exact matched_release hf (by simp [hc, LockControl.holds]) (by simp [hc, LockControl.holds]) rfl
        (by rw [hc]; rfl) rfl (by rw [hc]; rfl)
  | closing sessionId next =>
      simp only [proceed, hc]
      refine matched_acquire hf (by cases next <;> simp [hc, LockControl.holds]) ?_ (by rw [hc]; rfl)
        rfl (by rw [hc]; rfl)
      intro read hread
      cases hread
      rfl
  | inClose sessionId next read => simpa only [proceed, hc] using matched_commitClose hf hc
  | afterClose sessionId next =>
      cases next with
      | none =>
          simp only [proceed, hc]
          exact matched_release hf (by simp [hc, LockControl.holds]) (by simp [hc, LockControl.holds])
            rfl (by rw [hc]; rfl) rfl (by rw [hc]; rfl)
      | some ds =>
          have hother : ∀ m', m' = Mutex.write sessionId → m' ≠ .engine := by
            rintro _ rfl heq
            cases heq
          have hkeeps : ∀ m', m' ∈ (LockControl.unlockingWrite sessionId ds).holds ↔
              m' ≠ .engine ∧ m' ∈ (s.control t).holds := by
            intro m'
            simp only [hc, LockControl.holds, List.mem_cons, List.not_mem_nil, or_false]
            exact ⟨fun hm => ⟨hother m' hm, .inr hm⟩, fun hm => hm.2.resolve_left hm.1⟩
          simp only [proceed, hc]
          exact matched_release hf (by simp [hc, LockControl.holds]) hkeeps rfl (by rw [hc]; rfl) rfl
            (by rw [hc]; rfl)
  | ended => simpa only [proceed, hc] using matched_stay hf

theorem lockedServer_simulates (cfg : EngineConfig) :
    Simulates (lockedServer cfg) (server cfg) SeenAs := by
  intro h s k v a hf
  cases a with
  | request sessionId env request => exact matched_receive hf _ (.request sessionId env request) rfl
  | packet stream env packet => exact matched_receive hf _ (.packet stream env packet) rfl
  | readError sessionId =>
      simp only [lockedServer]
      split
      · rename_i hc
        exact matched_readError hf hc
      · exact matched_stay hf
  | proceed t written => exact matched_proceed hf t written

end Steps

theorem seenAs_init (cfg : EngineConfig) : SeenAs [] (LockState.init cfg) [] (init cfg) where
  held := LockState.held_init cfg
  fresh := fun _ _ hread => by cases hread
  seen := by simp [LockState.seen, LockState.init, init, LockControl.seen, funext_iff,
    LockState.seenClosed]
  written := fun _ => rfl

/-- Whatever the threads do, in whatever order, and however the mutexes make them wait: it is seen as a
run of the server with atomic calls and dispatches, which ends in the state that is seen and has written
to every connection what the threads have written and what is on its way. -/
theorem calls_are_atomic (cfg : EngineConfig) (as : List LockAction) :
    ∃ bs,
      (exec (server cfg) (init cfg) bs).2 = (exec (lockedServer cfg) (LockState.init cfg) as).2.seen ∧
        ∀ id, writtenTo id (exec (server cfg) (init cfg) bs).1 =
          writtenTo id (exec (lockedServer cfg) (LockState.init cfg) as).1 ++
            (exec (lockedServer cfg) (LockState.init cfg) as).2.inFlight id := by
  obtain ⟨bs, hbs⟩ := (lockedServer_simulates cfg).exec (seenAs_init cfg) as
  exact ⟨bs, hbs.seen, hbs.written⟩

end NseFoExchangeSim.Server
