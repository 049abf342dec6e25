import NseFoExchangeSim.Lib.Trace

/-!
# A machine that refines another

Every action of the concrete machine stands for an action of the abstract one or for nothing. A step of
the concrete machine does what the abstract machine does on the action that it stands for, so that a
whole run does what the abstract machine does on all of them.
-/

namespace Lib

universe u v w

/-- The abstract machine `N` is seen through the abstractions of states, actions and events. -/
structure Refines {S T : Type u} {A B : Type v} {E F : Type w} (M : Machine S A E)
    (N : Machine T B F) (state : S → T) (action : A → Option B) (event : E → Option F) : Prop where
  step : ∀ s a b, action a = some b →
    (M s a).1.filterMap event = (N (state s) b).1 ∧ state (M s a).2 = (N (state s) b).2
  silent : ∀ s a, action a = none →
    (M s a).1.filterMap event = [] ∧ state (M s a).2 = state s

section Refines

variable {S T : Type u} {A B : Type v} {E F : Type w} {M : Machine S A E} {N : Machine T B F}
  {state : S → T} {action : A → Option B} {event : E → Option F}

theorem Refines.exec (h : Refines M N state action event) (s : S) (as : List A) :
    (Lib.exec M s as).1.filterMap event = (Lib.exec N (state s) (as.filterMap action)).1 ∧
      state (Lib.exec M s as).2 = (Lib.exec N (state s) (as.filterMap action)).2 := by
  induction as generalizing s with
  | nil => exact ⟨rfl, rfl⟩
  | cons a as ih =>
      obtain ⟨hevents, hstate⟩ := ih (M s a).2
      rw [Lib.exec, List.filterMap_append]
      cases haction : action a with
      | none =>
          obtain ⟨hfirst, hsame⟩ := h.silent s a haction
          rw [List.filterMap_cons_none haction, hfirst, hevents, hstate, hsame]
          exact ⟨rfl, rfl⟩
      | some b =>
          obtain ⟨hfirst, hnext⟩ := h.step s a b haction
          rw [List.filterMap_cons_some haction, hfirst, hevents, hstate, hnext]
          exact ⟨rfl, rfl⟩

end Refines

/-! ## Simulation -/

section Simulates

variable {S T : Type u} {A B : Type v} {E F : Type w}

/-- Every action of `M` is matched by actions of `N`, so that the histories and the states stay
related. -/
def Simulates (M : Machine S A E) (N : Machine T B F) (R : List E → S → List F → T → Prop) : Prop :=
  ∀ h s k t a, R h s k t →
    ∃ bs, R (h ++ (M s a).1) (M s a).2 (k ++ (exec N t bs).1) (exec N t bs).2

variable {M : Machine S A E} {N : Machine T B F} {R : List E → S → List F → T → Prop}
  {h : List E} {s : S} {k : List F} {t : T}

theorem Simulates.exec (hsim : Simulates M N R) (hr : R h s k t) (as : List A) :
    ∃ bs, R (h ++ (Lib.exec M s as).1) (Lib.exec M s as).2
      (k ++ (Lib.exec N t bs).1) (Lib.exec N t bs).2 := by
  induction as generalizing h s k t with
  | nil => exact ⟨[], by simpa [Lib.exec] using hr⟩
  | cons a as ih =>
      obtain ⟨first, hfirst⟩ := hsim h s k t a hr
      obtain ⟨rest, hrest⟩ := ih hfirst
      refine ⟨first ++ rest, ?_⟩
      simpa [Lib.exec, exec_append, List.append_assoc] using hrest

end Simulates

end Lib
