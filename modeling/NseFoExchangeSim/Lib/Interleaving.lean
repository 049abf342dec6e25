import Mathlib.Data.List.Basic
import NseFoExchangeSim.Lib.Trace

/-!
# Machines with independent parts

Every call works on one part of the state: what it answers and what it leaves there depend on that part
alone, and it leaves the other parts as they were. Two runs that make the same calls for each part, in
whatever way these are interleaved, then give the same answers for each part and leave the same parts.
-/

namespace Lib

universe u v w

variable {S : Type u} {A : Type v} {E : Type w} {κ V F : Type*}

/-- The calls that meet `ok` are independent in the states that meet `inv`: a call is for the part
`part a`, its events are marked with that part, and a part of a state is what `view` shows of it. An
event counts as the same when `observe` says so. -/
structure Independent (M : Machine S A E) (inv : S → Prop) (ok : A → Prop) (part : A → κ)
    (mark : E → κ) (view : κ → S → V) (observe : E → F) : Prop where
  keeps {s a} : inv s → ok a → inv (M s a).2
  own {s s' a} : inv s → inv s' → ok a → view (part a) s = view (part a) s' →
    (M s a).1.map observe = (M s' a).1.map observe ∧
      view (part a) (M s a).2 = view (part a) (M s' a).2
  other {s a p} : inv s → ok a → part a ≠ p → view p (M s a).2 = view p s
  marked {s a} : inv s → ok a → ∀ e ∈ (M s a).1, mark e = part a

namespace Independent

variable {M : Machine S A E} {inv : S → Prop} {ok : A → Prop} {part : A → κ} {mark : E → κ}
  {view : κ → S → V} {observe : E → F} {s s' : S} {as bs : List A} {p : κ}

theorem exec_keeps (hM : Independent M inv ok part mark view observe) (hs : inv s)
    (has : ∀ a ∈ as, ok a) : inv (exec M s as).2 := by
  induction as generalizing s with
  | nil => exact hs
  | cons a as ih =>
      rw [List.forall_mem_cons] at has
      exact ih (hM.keeps hs has.1) has.2

variable [DecidableEq κ]

/-- A run looks from one part like the run of the calls for that part alone. -/
theorem exec_part (hM : Independent M inv ok part mark view observe) (hs : inv s) (hs' : inv s')
    (has : ∀ a ∈ as, ok a) (hview : view p s = view p s') :
    ((exec M s as).1.filter (mark · = p)).map observe =
        (exec M s' (as.filter (part · = p))).1.map observe ∧
      view p (exec M s as).2 = view p (exec M s' (as.filter (part · = p))).2 := by
  induction as generalizing s s' with
  | nil => exact ⟨rfl, hview⟩
  | cons a as ih =>
      rw [List.forall_mem_cons] at has
      obtain ⟨ha, has⟩ := has
      have hmarked := hM.marked hs ha
      rw [exec, List.filter_append, List.map_append]
      by_cases hp : part a = p
      · subst hp
        obtain ⟨hanswer, hview'⟩ := hM.own hs hs' ha hview
        obtain ⟨hrest, hlast⟩ := ih (hM.keeps hs ha) (hM.keeps hs' ha) has hview'
        have hall : (M s a).1.filter (mark · = part a) = (M s a).1 :=
          List.filter_eq_self.mpr fun e he => by simp [hmarked e he]
        rw [List.filter_cons_of_pos (by simp), exec, List.map_append, hall, hanswer, hrest]
        exact ⟨rfl, hlast⟩
      · have hnone : (M s a).1.filter (mark · = p) = [] :=
          List.filter_eq_nil_iff.mpr fun e he => by simp [hmarked e he, hp]
        rw [List.filter_cons_of_neg (by simp [hp]), hnone]
        exact ih (hM.keeps hs ha) hs' has ((hM.other hs ha hp).trans hview)

/-- Two runs with the same calls for a part answer the same for it and leave it the same. -/
theorem interleave (hM : Independent M inv ok part mark view observe) (hs : inv s)
    (has : ∀ a ∈ as, ok a) (hbs : ∀ b ∈ bs, ok b)
    (hsame : as.filter (part · = p) = bs.filter (part · = p)) :
    ((exec M s as).1.filter (mark · = p)).map observe =
        ((exec M s bs).1.filter (mark · = p)).map observe ∧
      view p (exec M s as).2 = view p (exec M s bs).2 := by
  obtain ⟨hanswer, hview⟩ := hM.exec_part hs hs has (p := p) rfl
  obtain ⟨hanswer', hview'⟩ := hM.exec_part hs hs hbs (p := p) rfl
  rw [hsame] at hanswer hview
  exact ⟨hanswer.trans hanswer'.symm, hview.trans hview'.symm⟩

end Independent

end Lib
