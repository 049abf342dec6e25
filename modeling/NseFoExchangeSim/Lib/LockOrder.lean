import Mathlib.Logic.Basic
import Mathlib.Logic.Relation

/-!
# Ranked locks

Threads hold locks and wait for locks. When a thread holds only locks of smaller rank than the one it
waits for, no waiting is circular: along the threads that block each other one comes to a thread that is
not blocked.
-/

namespace Lib

universe u v

variable {T : Type u} {L : Type v}

/-- Who holds each lock, and the lock that each thread waits for. -/
structure Locking (T : Type u) (L : Type v) where
  holder : L → Option T
  waitsFor : T → Option L

namespace Locking

variable (k : Locking T L)

/-- The second thread holds the lock that the first one waits for. -/
def Blocks (t t' : T) : Prop := ∃ l, k.waitsFor t = some l ∧ k.holder l = some t'

def Free (t : T) : Prop := ∀ l, k.waitsFor t = some l → k.holder l = none

/-- The ranks of the locks, which are bounded, grow from what a thread holds to what it waits for. -/
structure Ranked (rank : L → Nat) (bound : Nat) : Prop where
  bounded : ∀ l, rank l ≤ bound
  grows : ∀ t l l', k.holder l' = some t → k.waitsFor t = some l → rank l' < rank l

variable {k}

theorem blocks_of_not_free {t : T} (h : ¬k.Free t) : ∃ t', k.Blocks t t' := by
  simp only [Free, not_forall] at h
  obtain ⟨l, hwaits, hheld⟩ := h
  obtain ⟨t', ht'⟩ := Option.ne_none_iff_exists'.mp hheld
  exact ⟨t', l, hwaits, ht'⟩

/-- The rank of the awaited lock grows along the threads that block each other. -/
theorem Ranked.exists_free_of_waits {rank : L → Nat} {bound : Nat} (h : k.Ranked rank bound) (t : T)
    (l : L) (hwaits : k.waitsFor t = some l) :
    ∃ t', Relation.ReflTransGen k.Blocks t t' ∧ k.Free t' := by
  by_cases hfree : k.Free t
  · exact ⟨t, .refl, hfree⟩
  · obtain ⟨t', hblocks⟩ := blocks_of_not_free hfree
    have hholds : k.holder l = some t' := by
      obtain ⟨l', hl', ht'⟩ := hblocks
      rw [hwaits] at hl'
      cases hl'
      exact ht'
    cases hnext : k.waitsFor t' with
    | none => exact ⟨t', .single hblocks, fun l'' hl'' => by rw [hnext] at hl''; cases hl''⟩
    | some l'' =>
        have hgrows := h.grows t' l'' l hholds hnext
        have hbounded := h.bounded l''
        obtain ⟨t'', hchain, hfree''⟩ := h.exists_free_of_waits t' l'' hnext
        exact ⟨t'', .head hblocks hchain, hfree''⟩
termination_by bound - rank l
decreasing_by omega

theorem Ranked.exists_free {rank : L → Nat} {bound : Nat} (h : k.Ranked rank bound) (t : T) :
    ∃ t', Relation.ReflTransGen k.Blocks t t' ∧ k.Free t' := by
  cases hwaits : k.waitsFor t with
  | none => exact ⟨t, .refl, fun l hl => by rw [hwaits] at hl; cases hl⟩
  | some l => exact h.exists_free_of_waits t l hwaits

end Locking

end Lib
