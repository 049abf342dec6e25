import NseFoExchangeSim.Lib.Trace

/-!
# Two machines in lockstep

Two machines take the same requests, each in its own form. They answer every request with equally many
events, so that what they answer altogether agrees exactly when every single answer does.
-/

namespace Lib

universe u v w

/-- Two machines that stay related whatever the request, and answer it with equally many events; `M`
sees the request as `a c` and `N` as `b c`. -/
structure Lockstep {S T : Type u} {A B C : Type v} {E F : Type w} (M : Machine S A E)
    (N : Machine T B F) (a : C → A) (b : C → B) (R : S → T → Prop) : Prop where
  related : ∀ s t c, R s t → R (M s (a c)).2 (N t (b c)).2
  length : ∀ s t c, R s t → (M s (a c)).1.length = (N t (b c)).1.length

section Lockstep

variable {S T : Type u} {A B C : Type v} {E F : Type w} {G : Type*} {M : Machine S A E}
  {N : Machine T B F} {a : C → A} {b : C → B} {R : S → T → Prop} {f : E → G} {g : F → G}
  {agrees : C → Prop}

theorem Lockstep.exec_agree_iff (hl : Lockstep M N a b R)
    (hag : ∀ s t c, R s t → ((M s (a c)).1.map f = (N t (b c)).1.map g ↔ agrees c)) {s : S} {t : T}
    (hr : R s t) (cs : List C) :
    (exec M s (cs.map a)).1.map f = (exec N t (cs.map b)).1.map g ↔ ∀ c ∈ cs, agrees c := by
  induction cs generalizing s t with
  | nil => simp [exec]
  | cons c cs ih =>
      have hlength : ((M s (a c)).1.map f).length = ((N t (b c)).1.map g).length := by
        rw [List.length_map, List.length_map, hl.length s t c hr]
      simp only [List.map_cons, exec, List.map_append, List.forall_mem_cons]
      rw [← hag s t c hr, ← ih (hl.related s t c hr)]
      exact ⟨fun h => List.append_inj h hlength, fun h => by rw [h.1, h.2]⟩

end Lockstep

end Lib
