import NseFoExchangeSim.Lib.KeyedFifo

/-!
# Steps that commute

Steps have keys, and may fail. When two steps with different keys do the same in either order, what a
sequence of steps does depends only on the steps of each key, in their order, and not on how the keys
are interleaved.
-/

namespace Lib

universe u v w

variable {S : Type u} {A : Type v} {K : Type w}

/-- Two steps with different keys fail together, or lead to the same state in either order. -/
def Commutes (f : S → A → Option S) (key : A → K) : Prop :=
  ∀ s a b, key a ≠ key b → (f s a).bind (f · b) = (f s b).bind (f · a)

section Commuting

variable {f : S → A → Option S} {key : A → K} {as bs before after : List A} {a : A}

theorem Commutes.foldlM_front (hf : Commutes f key) (hbefore : ∀ b ∈ before, key b ≠ key a) (s : S) :
    (before ++ a :: after).foldlM f s = (a :: (before ++ after)).foldlM f s := by
  induction before generalizing s with
  | nil => rfl
  | cons b before ih =>
      rw [List.forall_mem_cons] at hbefore
      have htail : (fun s => (before ++ a :: after).foldlM f s) =
          fun s => (f s a).bind fun s => (before ++ after).foldlM f s := funext (ih hbefore.2)
      calc (b :: before ++ a :: after).foldlM f s
          = (f s b).bind fun s => (before ++ a :: after).foldlM f s := rfl
        _ = ((f s b).bind (f · a)).bind fun s => (before ++ after).foldlM f s := by
            rw [htail, Option.bind_assoc]
        _ = ((f s a).bind (f · b)).bind fun s => (before ++ after).foldlM f s := by
            rw [hf s b a hbefore.1]
        _ = (a :: (b :: before ++ after)).foldlM f s := by
            rw [Option.bind_assoc]
            rfl

/-- By induction on the first sequence: its first step is brought to the front of the second one. -/
theorem Commutes.foldlM_eq [DecidableEq K] (hf : Commutes f key)
    (h : ∀ k, ofKey key k as = ofKey key k bs) (s : S) :
    as.foldlM f s = bs.foldlM f s := by
  induction as generalizing bs s with
  | nil =>
      cases bs with
      | nil => rfl
      | cons b bs =>
          have hb := h (key b)
          simp [ofKey] at hb
  | cons a as ih =>
      have ha := h (key a)
      rw [ofKey, ofKey, List.filter_cons_of_pos (by simp)] at ha
      obtain ⟨before, after, rfl, hbefore, -, hafter⟩ := List.filter_eq_cons_iff.mp ha.symm
      have hbefore' : ∀ b ∈ before, key b ≠ key a := fun b hb => by simpa using hbefore b hb
      rw [hf.foldlM_front hbefore']
      have hrest : ∀ k, ofKey key k as = ofKey key k (before ++ after) := by
        intro k
        have hk := h k
        rw [ofKey, ofKey, List.filter_append] at hk
        rw [ofKey, ofKey, List.filter_append]
        by_cases hkey : key a = k
        · have hnone : before.filter (fun a => key a == k) = [] := by
            rw [← hkey]
            exact List.filter_eq_nil_iff.mpr fun b hb => by simpa using hbefore' b hb
          rw [hnone, List.filter_cons_of_pos (by simp [hkey]),
            List.filter_cons_of_pos (by simp [hkey])] at hk
          rw [hnone]
          exact (List.cons.inj hk).2
        · rwa [List.filter_cons_of_neg (by simp [hkey]),
            List.filter_cons_of_neg (by simp [hkey])] at hk
      have hsame : (fun s => as.foldlM f s) = fun s => (before ++ after).foldlM f s :=
        funext (ih hrest)
      exact congrArg (f s a).bind hsame

end Commuting

end Lib
