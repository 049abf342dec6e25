import Mathlib.Algebra.Order.BigOperators.Group.Finset
import Mathlib.Data.Prod.Lex
import Mathlib.Order.WellFounded
import NseFoExchangeSim.Server.Theorems.AtomicCalls

/-!
# No deadlock

The threads never wait for each other in a circle: the engine's mutex may be taken under a connection's,
and never the other way round. Left to themselves they come to rest after finitely many steps, in any
order, and then hold no mutex.
-/

namespace NseFoExchangeSim.Server

open Lib Protocol Engine

/-! ## The order of the mutexes -/

def Mutex.rank : Mutex → Nat
  | .engine => 1
  | .write _ => 0

section Order

variable {s : LockState} {t : Thread} {m : Mutex}

theorem LockControl.rank_lt {c : LockControl} {m' : Mutex} (hholds : m' ∈ c.holds)
    (hwaits : c.waitsFor = some m) : m'.rank < m.rank := by
  cases c with
  | closing sessionId next =>
      cases hwaits
      cases next with
      | none => simp [holds] at hholds
      | some pending =>
          rw [holds, List.mem_singleton] at hholds
          rw [hholds]
          exact Nat.one_pos
  | entering op => simp [holds] at hholds
  | lockingWrite d pending => simp [holds] at hholds
  | _ => cases hwaits

theorem ranked (hheld : s.Held) : s.locking.Ranked Mutex.rank 1 where
  bounded m := by cases m <;> simp [Mutex.rank]
  grows t m m' hholder hwaits := LockControl.rank_lt ((hheld m' t).mp hholder) hwaits

theorem LockControl.holds_of_atRest {c : LockControl} (h : c.atRest = true) : c.holds = [] := by
  cases c with
  | running pending => rfl
  | ended => rfl
  | _ => cases h

theorem not_atRest_of_holder (hheld : s.Held) (hm : s.holder m = some t) :
    (s.control t).atRest = false := by
  by_contra hrest
  have hnone := LockControl.holds_of_atRest (by simpa using hrest)
  have hin := (hheld m t).mp hm
  rw [hnone] at hin
  cases hin

theorem exists_free_busy (hheld : s.Held) (hbusy : (s.control t).atRest = false) :
    ∃ t', Relation.ReflTransGen s.locking.Blocks t t' ∧ (s.control t').atRest = false ∧
      s.locking.Free t' := by
  obtain ⟨t', hchain, hfree⟩ := (ranked hheld).exists_free t
  refine ⟨t', hchain, ?_, hfree⟩
  rcases Relation.ReflTransGen.cases_tail hchain with heq | ⟨t'', -, m, -, hholder⟩
  · rw [heq]
    exact hbusy
  · exact not_atRest_of_holder hheld hholder

theorem free_of_all_atRest (hheld : s.Held) (hrest : ∀ t, (s.control t).atRest = true) :
    s.holder m = none := by
  cases hm : s.holder m with
  | none => rfl
  | some t =>
      have hbusy := not_atRest_of_holder hheld hm
      rw [hrest t] at hbusy
      cases hbusy

end Order

/-! ## Moves -/

/-- A thread that is not at rest, and whose mutex is free if it is going to take one, takes a step. -/
def Moves (cfg : EngineConfig) (s s' : LockState) : Prop :=
  ∃ t written, (s.control t).atRest = false ∧ s.locking.Free t ∧
    s' = (proceed cfg s t written).2

namespace LockControl

/-- The calls of the engine that the thread is going to make for a request or a packet. -/
def calls : LockControl → Nat
  | .entering _ | .inCall _ _ => 1
  | _ => 0

/-- A bound on the steps the thread takes until it is at rest or has called the engine. -/
def weight : LockControl → Nat
  | .running pending => 10 * pending.length
  | .entering _ => 2
  | .inCall _ _ => 1
  | .afterCall pending => 10 * pending.length + 1
  | .lockingWrite _ pending => 10 * pending.length + 9
  | .checking _ pending => 10 * pending.length + 8
  | .writing _ pending _ => 10 * pending.length + 7
  | .failed _ pending => 10 * pending.length + 6
  | .closing _ next => 10 * (next.getD []).length + 5
  | .inClose _ next _ => 10 * (next.getD []).length + 4
  | .afterClose _ next => 10 * (next.getD []).length + 3
  | .unlockingWrite _ pending => 10 * pending.length + 2
  | .ended => 0

/-- Less is left to do. -/
def Less (c' c : LockControl) : Prop :=
  c'.calls < c.calls ∨ c'.calls = c.calls ∧ c'.weight < c.weight

end LockControl

section Moves

variable {cfg : EngineConfig} {s : LockState} {t : Thread} {m : Mutex} {c : LockControl}

theorem acquire_control (hfree : s.locking.Free t) (hwaits : (s.control t).waitsFor = some m) :
    (s.acquire m t c).control = Function.update s.control t c := by
  have hnone : s.holder m = none := hfree m hwaits
  rw [LockState.acquire, hnone]
  rfl

/-- A thread that moves has less left to do, and no other thread is moved. -/
theorem proceed_less (hbusy : (s.control t).atRest = false) (hfree : s.locking.Free t)
    (written : Bool) :
    ∃ c, (proceed cfg s t written).2.control = Function.update s.control t c ∧
      c.Less (s.control t) := by
  cases hc : s.control t with
  | running pending =>
      cases pending with
      | nil => rw [hc] at hbusy; cases hbusy
      | cons d ds =>
          simp only [proceed, hc]
          split
          · exact ⟨_, rfl, .inr ⟨rfl, by simp [LockControl.weight]⟩⟩
          · exact ⟨_, rfl, .inr ⟨rfl, by simp [LockControl.weight]; omega⟩⟩
  | entering op =>
      simp only [proceed, hc]
      split
      · exact ⟨_, rfl, .inl Nat.one_pos⟩
      · rename_i hrefusal
        have hwaits : (s.control t).waitsFor = some .engine := by
          simp [hc, LockControl.waitsFor, hrefusal]
        exact ⟨_, acquire_control hfree hwaits, .inr ⟨rfl, by simp [LockControl.weight]⟩⟩
  | inCall op read =>
      simp only [proceed, hc]
      exact ⟨_, rfl, .inl Nat.one_pos⟩
  | afterCall pending =>
      simp only [proceed, hc]
      exact ⟨_, rfl, .inr ⟨rfl, by simp [LockControl.weight]⟩⟩
  | lockingWrite d ds =>
      simp only [proceed, hc]
      exact ⟨_, acquire_control hfree (by rw [hc]; rfl), .inr ⟨rfl, by simp [LockControl.weight]⟩⟩
  | checking d ds =>
      simp only [proceed, hc]
      split <;> exact ⟨_, rfl, .inr ⟨rfl, by simp [LockControl.weight]⟩⟩
  | writing d ds outcome =>
      cases outcome <;> simp only [proceed, hc] <;>
        exact ⟨_, rfl, .inr ⟨rfl, by simp [LockControl.weight]⟩⟩
  | failed d ds =>
      simp only [proceed, hc]
      exact ⟨_, rfl, .inr ⟨rfl, by simp [LockControl.weight]⟩⟩
  | unlockingWrite sessionId ds =>
      simp only [proceed, hc]
      exact ⟨_, rfl, .inr ⟨rfl, by simp [LockControl.weight]⟩⟩
  | closing sessionId next =>
      simp only [proceed, hc]
      exact ⟨_, acquire_control hfree (by rw [hc]; rfl), .inr ⟨rfl, by simp [LockControl.weight]⟩⟩
  | inClose sessionId next read =>
      simp only [proceed, hc]
      exact ⟨_, rfl, .inr ⟨rfl, by simp [LockControl.weight]⟩⟩
  | afterClose sessionId next =>
      cases next <;> simp only [proceed, hc] <;>
        exact ⟨_, rfl, .inr ⟨rfl, by simp [LockControl.weight]⟩⟩
  | ended => rw [hc] at hbusy; cases hbusy

/-- Only the threads of a finite set are not at rest. -/
def ActiveIn (F : Finset Thread) (s : LockState) : Prop := ∀ t, t ∉ F → (s.control t).atRest = true

/-- What is left to do, first the calls of the engine. -/
def leftToDo (F : Finset Thread) (s : LockState) : ℕ ×ₗ ℕ :=
  toLex (∑ t ∈ F, (s.control t).calls, ∑ t ∈ F, (s.control t).weight)

variable {F : Finset Thread} {s' : LockState}

theorem ActiveIn.moves (h : ActiveIn F s) (hmoves : Moves cfg s s') :
    ActiveIn F s' ∧ leftToDo F s' < leftToDo F s := by
  obtain ⟨t, written, hbusy, hfree, rfl⟩ := hmoves
  obtain ⟨c, hcontrol, hless⟩ := @proceed_less cfg _ _ hbusy hfree written
  have ht : t ∈ F := by
    by_contra hnot
    rw [h t hnot] at hbusy
    cases hbusy
  constructor
  · intro t' ht'
    rw [hcontrol, Function.update_of_ne (by rintro rfl; exact ht' ht)]
    exact h t' ht'
  · have hother : ∀ t', t' ≠ t → (proceed cfg s t written).2.control t' = s.control t' := by
      intro t' hne
      rw [hcontrol, Function.update_of_ne hne]
    have hself : (proceed cfg s t written).2.control t = c := by
      rw [hcontrol, Function.update_self]
    rw [leftToDo, leftToDo, Prod.Lex.toLex_lt_toLex]
    rcases hless with hcalls | ⟨hcalls, hweight⟩
    · left
      apply Finset.sum_lt_sum
      · intro t' _
        by_cases hne : t' = t
        · rw [hne, hself]
          exact hcalls.le
        · rw [hother t' hne]
      · exact ⟨t, ht, by rw [hself]; exact hcalls⟩
    · right
      constructor
      · apply Finset.sum_congr rfl
        intro t' _
        by_cases hne : t' = t
        · rw [hne, hself, hcalls]
        · rw [hother t' hne]
      · apply Finset.sum_lt_sum
        · intro t' _
          by_cases hne : t' = t
          · rw [hne, hself]
            exact hweight.le
          · rw [hother t' hne]
        · exact ⟨t, ht, by rw [hself]; exact hweight⟩

/-- There is no endless sequence of moves. -/
theorem ActiveIn.acc (h : ActiveIn F s) : Acc (fun s' s => Moves cfg s s') s := by
  have hwf : WellFounded fun a b : ℕ ×ₗ ℕ => a < b := wellFounded_lt
  induction hleft : leftToDo F s using hwf.induction generalizing s with
  | _ left ih =>
      constructor
      intro s' hmoves
      obtain ⟨hactive, hless⟩ := h.moves hmoves
      exact ih _ (hleft ▸ hless) hactive rfl

end Moves

/-! ## Reachable states -/

section Reachable

variable {cfg : EngineConfig} {F : Finset Thread} {s s' : LockState} {t : Thread}

theorem ActiveIn.insert (h : ActiveIn F s) (hother : ∀ t', t' ≠ t → s'.control t' = s.control t') :
    ActiveIn (insert t F) s' := by
  intro t' ht'
  rw [Finset.mem_insert, not_or] at ht'
  rw [hother t' ht'.1]
  exact h t' ht'.2

theorem setControl_other {c : LockControl} {t' : Thread} (h : t' ≠ t) :
    (s.setControl t c).control t' = s.control t' := Function.update_of_ne h ..

theorem receiveLocked_other {op : Op} {t' : Thread} (h : t' ≠ t) :
    (receiveLocked s t op).control t' = s.control t' := by
  rw [receiveLocked]
  split
  · exact setControl_other h
  · rfl

theorem proceed_other {written : Bool} {t' : Thread} (h : t' ≠ t) :
    (proceed cfg s t written).2.control t' = s.control t' := by
  have hacquire : ∀ m c, (s.acquire m t c).control t' = s.control t' := by
    intro m c
    rw [LockState.acquire]
    split
    · rfl
    · exact setControl_other h
  simp only [proceed]
  split <;> first
    | rfl
    | exact hacquire _ _
    | exact setControl_other h
    | (split <;> first | exact setControl_other h | exact hacquire _ _)

theorem exists_activeIn (cfg : EngineConfig) (as : List LockAction) :
    ∃ F, ActiveIn F (exec (lockedServer cfg) (LockState.init cfg) as).2 := by
  have hrun := run_exec (lockedServer cfg) (LockState.init cfg) as
  refine Run.invariant (P := fun _ s => ∃ F, ActiveIn F s) ⟨∅, fun _ _ => rfl⟩ ?_ hrun
  rintro h s a - ⟨F, hF⟩ -
  cases a with
  | request sessionId env request => exact ⟨_, hF.insert fun _ hne => receiveLocked_other hne⟩
  | packet stream env packet => exact ⟨_, hF.insert fun _ hne => receiveLocked_other hne⟩
  | readError sessionId =>
      simp only [lockedServer]
      split
      · exact ⟨_, hF.insert fun _ hne => setControl_other hne⟩
      · exact ⟨F, hF⟩
  | proceed t written => exact ⟨_, hF.insert fun _ hne => proceed_other hne⟩

theorem held_exec (cfg : EngineConfig) (as : List LockAction) :
    (exec (lockedServer cfg) (LockState.init cfg) as).2.Held := by
  obtain ⟨bs, hbs⟩ := (lockedServer_simulates cfg).exec (seenAs_init cfg) as
  exact hbs.held

end Reachable

/-- In every state the threads can reach, a thread that is not at rest can move, or the threads that
block it lead to one that can; left to themselves the threads come to rest after finitely many moves in
whatever order; and when all are at rest no mutex is held. -/
theorem threads_come_to_rest (cfg : EngineConfig) (as : List LockAction) :
    let s := (exec (lockedServer cfg) (LockState.init cfg) as).2
    (∀ t, (s.control t).atRest = false →
        ∃ t', Relation.ReflTransGen s.locking.Blocks t t' ∧ (s.control t').atRest = false ∧
          s.locking.Free t') ∧
      Acc (fun s' s => Moves cfg s s') s ∧
      ((∀ t, (s.control t).atRest = true) → ∀ m, s.holder m = none) := by
  have hheld := held_exec cfg as
  obtain ⟨F, hF⟩ := exists_activeIn cfg as
  exact ⟨fun _ hbusy => exists_free_busy hheld hbusy, hF.acc,
    fun hrest _ => free_of_all_atRest hheld hrest⟩

end NseFoExchangeSim.Server
