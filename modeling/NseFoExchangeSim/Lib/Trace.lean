import Mathlib.Logic.Relation

/-!
# Machines that answer calls with events

A machine takes one call at a time and answers it with a list of events and a new state. The history
of a run is the list of all events so far. A call is often made of smaller steps; `Steps` is their
closure on pairs of a history and a state, and `Run.invariant_of_steps` carries a property of the
small steps to every run of the machine.
-/

namespace Lib

universe u v w

variable {S : Type u} {A : Type v} {E : Type w}

/-- A machine: the events that answer a call, and the state after it. -/
abbrev Machine (S : Type u) (A : Type v) (E : Type w) := S → A → List E × S

/-- The runs from `s₀` in which every call meets `ok`, a condition on the history and the state before
the call and on the call. -/
inductive Run (M : Machine S A E) (ok : List E → S → A → Prop) (s₀ : S) : List E → S → Prop
  | nil : Run M ok s₀ [] s₀
  | snoc {h s} (a : A) : Run M ok s₀ h s → ok h s a → Run M ok s₀ (h ++ (M s a).1) (M s a).2

abbrev anyCall (_ : List E) (_ : S) (_ : A) : Prop := True

def exec (M : Machine S A E) (s : S) : List A → List E × S
  | [] => ([], s)
  | a :: as =>
      let r := M s a
      let r' := exec M r.2 as
      (r.1 ++ r'.1, r'.2)

/-- The calls of a list, made one after the other, all meet the condition. -/
def Meets (M : Machine S A E) (ok : List E → S → A → Prop) : List E → S → List A → Prop
  | _, _, [] => True
  | h, s, a :: as => ok h s a ∧ Meets M ok (h ++ (M s a).1) (M s a).2 as

instance Meets.decidable (M : Machine S A E) (ok : List E → S → A → Prop)
    [∀ h s a, Decidable (ok h s a)] : ∀ h s as, Decidable (Meets M ok h s as)
  | _, _, [] => isTrue trivial
  | h, s, a :: as =>
      have := Meets.decidable M ok (h ++ (M s a).1) (M s a).2 as
      inferInstanceAs (Decidable (ok h s a ∧ Meets M ok (h ++ (M s a).1) (M s a).2 as))

section Runs

variable {M : Machine S A E} {ok ok' : List E → S → A → Prop} {s₀ s s' : S} {h h' : List E}

theorem Run.mono (hok : ∀ h s a, ok h s a → ok' h s a) (r : Run M ok s₀ h s) : Run M ok' s₀ h s := by
  induction r with
  | nil => exact .nil
  | snoc a _ ha ih => exact .snoc a ih (hok _ _ _ ha)

theorem Run.append (r : Run M ok s₀ h s) (r' : Run M (fun k => ok (h ++ k)) s h' s') :
    Run M ok s₀ (h ++ h') s' := by
  induction r' with
  | nil => simpa using r
  | snoc a _ ha ih => rw [← List.append_assoc]; exact .snoc a ih ha

theorem Run.invariant {P : List E → S → Prop} (h0 : P [] s₀)
    (hstep : ∀ h s a, Run M ok s₀ h s → P h s → ok h s a → P (h ++ (M s a).1) (M s a).2)
    (r : Run M ok s₀ h s) : P h s := by
  induction r with
  | nil => exact h0
  | snoc a r ha ih => exact hstep _ _ a r ih ha

theorem run_exec_from (k : List E) {as : List A} (hm : Meets M ok k s as) :
    Run M (fun k' => ok (k ++ k')) s (exec M s as).1 (exec M s as).2 := by
  induction as generalizing k s with
  | nil => exact .nil
  | cons a as ih =>
      obtain ⟨ha, has⟩ := hm
      have h1 : Run M (fun k' => ok (k ++ k')) s ([] ++ (M s a).1) (M s a).2 :=
        .snoc a .nil (by rw [List.append_nil]; exact ha)
      rw [List.nil_append] at h1
      have h2 := ih _ has
      simp only [List.append_assoc] at h2
      exact h1.append h2

theorem run_exec_of_meets {as : List A} (hm : Meets M ok [] s as) :
    Run M ok s (exec M s as).1 (exec M s as).2 := run_exec_from [] hm

theorem meets_anyCall (M : Machine S A E) (h : List E) (s : S) (as : List A) :
    Meets M anyCall h s as := by
  induction as generalizing h s with
  | nil => trivial
  | cons a as ih => exact ⟨trivial, ih _ _⟩

theorem run_exec (M : Machine S A E) (s : S) (as : List A) :
    Run M anyCall s (exec M s as).1 (exec M s as).2 :=
  run_exec_of_meets (meets_anyCall M [] s as)

theorem exec_append (M : Machine S A E) (s : S) (as bs : List A) :
    exec M s (as ++ bs) =
      ((exec M s as).1 ++ (exec M (exec M s as).2 bs).1, (exec M (exec M s as).2 bs).2) := by
  induction as generalizing s with
  | nil => simp [exec]
  | cons a as ih => simp [exec, ih]

theorem meets_iff {as : List A} :
    Meets M ok h s as ↔
      ∀ bs a, bs ++ [a] <+: as → ok (h ++ (exec M s bs).1) (exec M s bs).2 a := by
  induction as generalizing h s with
  | nil => simp [Meets]
  | cons a as ih =>
      simp only [Meets, ih]
      refine ⟨?_, fun hall => ⟨?_, fun bs b hbs => ?_⟩⟩
      · rintro ⟨ha, has⟩ bs b hbs
        cases bs with
        | nil =>
            obtain ⟨rfl, _⟩ := List.cons_prefix_cons.mp hbs
            simpa [exec] using ha
        | cons c bs =>
            obtain ⟨rfl, htail⟩ := List.cons_prefix_cons.mp hbs
            simpa [exec] using has bs b htail
      · have hfirst := hall [] a ((List.prefix_cons_inj a).mpr List.nil_prefix)
        simpa [exec] using hfirst
      · have hlater := hall (a :: bs) b ((List.prefix_cons_inj a).mpr hbs)
        simpa [exec] using hlater

/-- The condition is exactly what a property needs: the runs that meet it have the property, and a
call that does not meet it destroys the property. -/
theorem meets_iff_everywhere {P : List E → S → Prop} (hrun : ∀ h s, Run M ok s₀ h s → P h s)
    (hbad : ∀ h s a, Run M anyCall s₀ h s → P (h ++ (M s a).1) (M s a).2 → ok h s a)
    (as : List A) :
    Meets M ok [] s₀ as ↔ ∀ bs, bs <+: as → P (exec M s₀ bs).1 (exec M s₀ bs).2 := by
  refine ⟨fun hm bs hbs => ?_, fun hall => meets_iff.mpr fun bs a hbs => ?_⟩
  · have hm' : Meets M ok [] s₀ bs :=
      meets_iff.mpr fun cs a hcs => meets_iff.mp hm cs a (hcs.trans hbs)
    exact hrun _ _ (run_exec_of_meets hm')
  · have hafter := hall (bs ++ [a]) hbs
    simp only [exec_append, exec, List.append_nil] at hafter
    exact hbad _ _ a (run_exec M s₀ bs) hafter

end Runs

/-! ## The calls of a run -/

section Encounters

variable {M : Machine S A E} {ok : List E → S → A → Prop} {s₀ s : S} {h : List E}
  {P : List E → List (S × A) → S → Prop} {calls : List (S × A)} {as : List A}

/-- The calls of a run, each with the state that it meets. -/
def encounters (M : Machine S A E) : S → List A → List (S × A)
  | _, [] => []
  | s, a :: as => (s, a) :: encounters M (M s a).2 as

theorem encounters_invariant_from
    (hstep : ∀ h calls s a, Run M ok s₀ h s → P h calls s → ok h s a →
      P (h ++ (M s a).1) (calls ++ [(s, a)]) (M s a).2)
    (hrun : Run M ok s₀ h s) (hP : P h calls s) (hm : Meets M ok h s as) :
    P (h ++ (exec M s as).1) (calls ++ encounters M s as) (exec M s as).2 := by
  induction as generalizing h calls s with
  | nil => simpa [exec, encounters] using hP
  | cons a as ih =>
      obtain ⟨ha, has⟩ := hm
      have hlast := ih (hrun.snoc a ha) (hstep h calls s a hrun hP ha) has
      rw [List.append_assoc, List.append_assoc] at hlast
      exact hlast

/-- A property of the history, the calls so far and the state that every call keeps. -/
theorem encounters_invariant (h0 : P [] [] s₀)
    (hstep : ∀ h calls s a, Run M ok s₀ h s → P h calls s → ok h s a →
      P (h ++ (M s a).1) (calls ++ [(s, a)]) (M s a).2)
    (hm : Meets M ok [] s₀ as) : P (exec M s₀ as).1 (encounters M s₀ as) (exec M s₀ as).2 :=
  encounters_invariant_from hstep .nil h0 hm

end Encounters

/-! ## Calls that do nothing -/

section Discard

variable (M : Machine S A E) (skip : S → A → Prop) [∀ s a, Decidable (skip s a)]

/-- The calls of a run without those that are skipped in the state they meet. -/
def discard : S → List A → List A
  | _, [] => []
  | s, a :: as => (if skip s a then [] else [a]) ++ discard (M s a).2 as

theorem discard_append (s : S) (as bs : List A) :
    discard M skip s (as ++ bs) = discard M skip s as ++ discard M skip (exec M s as).2 bs := by
  induction as generalizing s with
  | nil => rfl
  | cons a as ih => simp only [List.cons_append, discard, exec, ih, List.append_assoc]

/-- When the skipped calls do nothing, the run without them has the same events and the same state. -/
theorem exec_discard (hskip : ∀ s a, skip s a → M s a = ([], s)) (s : S) (as : List A) :
    exec M s (discard M skip s as) = exec M s as := by
  induction as generalizing s with
  | nil => rfl
  | cons a as ih =>
      rw [discard, exec]
      split
      · rename_i hs
        rw [hskip s a hs]
        exact ih s
      · rw [List.singleton_append, exec, ih]

end Discard

/-! ## Every point of a history -/

/-- The property holds at every point of the history, not only at its end. -/
def Everywhere (P : List E → Prop) (h : List E) : Prop := ∀ k, k <+: h → P k

section Everywhere

variable {P : List E → Prop} {h : List E} {e : E}

theorem everywhere_nil (h0 : P []) : Everywhere P [] := by
  intro k hk
  rw [List.prefix_nil.mp hk]
  exact h0

theorem Everywhere.here (hP : Everywhere P h) : P h := hP h (List.prefix_refl h)

theorem Everywhere.snoc (hP : Everywhere P h) (he : P (h ++ [e])) : Everywhere P (h ++ [e]) := by
  intro k hk
  rcases List.prefix_concat_iff.mp hk with rfl | hk
  · exact he
  · exact hP k hk

end Everywhere

/-! ## Events and what came before them -/

/-- Every event of the history is related to the events before it. -/
def InContext (P : List E → E → Prop) (h : List E) : Prop :=
  ∀ before e after, h = before ++ e :: after → P before e

section InContext

variable {P : List E → E → Prop} {h es before after : List E} {e : E}

/-- An event of a history that was extended is an earlier or a later one. -/
theorem split_append (heq : h ++ es = before ++ e :: after) :
    (∃ mid, h = before ++ e :: mid ∧ after = mid ++ es) ∨
      ∃ mid, before = h ++ mid ∧ es = mid ++ e :: after := by
  rcases List.append_eq_append_iff.mp heq with ⟨mid, hbefore, hes⟩ | ⟨mid, hh, hafter⟩
  · exact .inr ⟨mid, hbefore, hes⟩
  · cases mid with
    | nil => exact .inr ⟨[], by simpa using hh.symm, hafter.symm⟩
    | cons first mid =>
        rw [List.cons_append, List.cons.injEq] at hafter
        obtain ⟨rfl, hafter⟩ := hafter
        exact .inl ⟨mid, hh, hafter⟩

theorem inContext_nil : InContext P [] := by
  intro before e after heq
  simp at heq

theorem InContext.append (hP : InContext P h) (hes : InContext (fun mid => P (h ++ mid)) es) :
    InContext P (h ++ es) := by
  intro before e after heq
  rcases split_append heq with ⟨mid, hearlier, -⟩ | ⟨mid, rfl, hlater⟩
  · exact hP before e mid hearlier
  · exact hes mid e after hlater

theorem InContext.cons (he : P [] e) (hes : InContext (fun mid => P (e :: mid)) es) :
    InContext P (e :: es) := by
  intro before e' after heq
  cases before with
  | nil =>
      cases heq
      exact he
  | cons first before =>
      rw [List.cons_append, List.cons.injEq] at heq
      obtain ⟨rfl, heq⟩ := heq
      exact hes before e' after heq

end InContext

/-! ## Small steps -/

/-- One small step on pairs of a history and a state: the events it emits are appended. -/
def Extends (R : List E → S → List E → S → Prop) (c c' : List E × S) : Prop :=
  ∃ es, R c.1 c.2 es c'.2 ∧ c'.1 = c.1 ++ es

/-- Any number of small steps. -/
abbrev Steps (R : List E → S → List E → S → Prop) : List E × S → List E × S → Prop :=
  Relation.ReflTransGen (Extends R)

section Steps

variable {R : List E → S → List E → S → Prop} {h es es' : List E} {s s' s'' : S}

theorem Steps.refl' (h : List E) (s : S) : Steps R (h, s) (h ++ [], s) := by
  rw [List.append_nil]

theorem Steps.one (hr : R h s es s') : Steps R (h, s) (h ++ es, s') :=
  .single ⟨es, hr, rfl⟩

theorem Steps.append (hs : Steps R (h, s) (h ++ es, s'))
    (hs' : Steps R (h ++ es, s') (h ++ es ++ es', s'')) :
    Steps R (h, s) (h ++ (es ++ es'), s'') := by
  rw [← List.append_assoc]
  exact hs.trans hs'

/-- A property of histories and states that every small step keeps. -/
theorem Steps.invariant {P : List E → S → Prop}
    (hstep : ∀ h s es s', P h s → R h s es s' → P (h ++ es) s') {c c' : List E × S}
    (hs : Steps R c c') (hc : P c.1 c.2) : P c'.1 c'.2 := by
  induction hs with
  | refl => exact hc
  | tail _ hlast ih =>
      obtain ⟨es, hr, he⟩ := hlast
      rw [he]
      exact hstep _ _ _ _ ih hr

/-- When every call is made of small steps that keep a property, every run keeps it. The property may
be used to split a call into its steps. -/
theorem Run.invariant_of_steps {M : Machine S A E} {ok : List E → S → A → Prop} {s₀ : S}
    {P : List E → S → Prop} (h0 : P [] s₀)
    (hcall : ∀ h s a, P h s → ok h s a → Steps R (h, s) (h ++ (M s a).1, (M s a).2))
    (hstep : ∀ h s es s', P h s → R h s es s' → P (h ++ es) s')
    (r : Run M ok s₀ h s) : P h s :=
  r.invariant h0 fun h s a _ hp ha =>
    (hcall h s a hp ha).invariant (P := P) (c := (h, s)) hstep hp

end Steps

end Lib
