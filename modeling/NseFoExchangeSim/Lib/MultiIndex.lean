import Std.Data.ExtTreeMap
import Std.Data.ExtTreeSet

/-!
# Secondary indexes

An index files identifiers under keys: one set of identifiers a key, and no empty set. `Indexes` says
that the index agrees with a primary table: an identifier is filed under a key exactly when the table
holds a row with that key for it. The three ways to change the table and the index together keep it.
-/

namespace Lib

open Std

/-- Sets of identifiers filed under keys. A key whose set becomes empty is dropped. -/
structure MultiIndex (α β : Type) [Ord α] [TransOrd α] [Ord β] [TransOrd β] where
  buckets : ExtTreeMap α (ExtTreeSet β)
  occupied : ∀ (a : α) (s : ExtTreeSet β), buckets[a]? = some s → s ≠ ∅

namespace MultiIndex

variable {α β γ : Type} [Ord α] [TransOrd α] [Ord β] [TransOrd β]

def ids (ix : MultiIndex α β) (a : α) : ExtTreeSet β := ix.buckets[a]?.getD ∅

def empty : MultiIndex α β := ⟨∅, by simp⟩

def link (ix : MultiIndex α β) (a : α) (b : β) : MultiIndex α β where
  buckets := ix.buckets.insert a ((ix.ids a).insert b)
  occupied := by
    intro a' s hs
    rw [ExtTreeMap.getElem?_insert] at hs
    split at hs
    · cases hs; simp
    · exact ix.occupied _ _ hs

/-- Takes `b` from the set of `a`, and drops the set when nothing is left in it. -/
def unlink (ix : MultiIndex α β) (a : α) (b : β) : MultiIndex α β :=
  match ix.buckets[a]? with
  | none => ix
  | some s =>
      if he : (s.erase b).isEmpty then
        { buckets := ix.buckets.erase a
          occupied := by
            intro a' s' hs
            rw [ExtTreeMap.getElem?_erase] at hs
            split at hs
            · cases hs
            · exact ix.occupied _ _ hs }
      else
        { buckets := ix.buckets.insert a (s.erase b)
          occupied := by
            intro a' s' hs
            rw [ExtTreeMap.getElem?_insert] at hs
            split at hs
            · cases hs; simpa [ExtTreeSet.isEmpty_iff] using he
            · exact ix.occupied _ _ hs }

/-! ## Membership -/

@[simp] theorem mem_ids_empty (a : α) (b : β) : b ∉ (empty : MultiIndex α β).ids a := by
  simp [empty, ids]

section Membership

variable [LawfulEqOrd α] [LawfulEqOrd β]

theorem mem_ids_link (ix : MultiIndex α β) (a a' : α) (b b' : β) :
    b' ∈ (ix.link a b).ids a' ↔ (a' = a ∧ b' = b) ∨ b' ∈ ix.ids a' := by
  simp only [ids, link, ExtTreeMap.getElem?_insert, LawfulEqOrd.compare_eq_iff_eq]
  by_cases ha : a = a'
  · subst ha; simp [@eq_comm _ b b']
  · simp [ha, Ne.symm ha]

theorem mem_ids_unlink (ix : MultiIndex α β) (a a' : α) (b b' : β) :
    b' ∈ (ix.unlink a b).ids a' ↔ b' ∈ ix.ids a' ∧ ¬(a' = a ∧ b' = b) := by
  unfold unlink
  split
  · rename_i hn
    by_cases ha : a' = a
    · subst ha; simp [ids, hn]
    · simp [ha]
  · rename_i s hs
    by_cases ha : a' = a
    · subst ha
      split
      · rename_i he
        have hmem : ∀ x, x ∈ s → x = b := by
          intro x hx
          have hx' : x ∉ s.erase b := by rw [ExtTreeSet.isEmpty_iff.mp he]; simp
          rw [ExtTreeSet.mem_erase] at hx'
          simpa [hx, @eq_comm _ b x] using hx'
        simp only [ids, hs, ExtTreeMap.getElem?_erase, Option.getD_some]
        simpa using hmem b'
      · simp [ids, hs, and_comm, @eq_comm _ b b']
    · split <;> simp [ids, ha, Ne.symm ha, ExtTreeMap.getElem?_erase, ExtTreeMap.getElem?_insert]

end Membership

/-! ## Agreement with a table -/

/-- `b` is filed under `a` exactly when the table has a row for `b` whose key is `a`. -/
def Indexes (ix : MultiIndex α β) (find : β → Option γ) (key : γ → α) : Prop :=
  ∀ a b, b ∈ ix.ids a ↔ ∃ c, find b = some c ∧ key c = a

variable {ix : MultiIndex α β} {find find' : β → Option γ} {key : γ → α} {b : β} {c d : γ}

/-- A row overwritten by one with the same key: the index stays as it is. -/
theorem Indexes.replace (h : ix.Indexes find key) (hb : find b = some c) (hb' : find' b = some d)
    (hkey : key d = key c) (hother : ∀ b', b' ≠ b → find' b' = find b') : ix.Indexes find' key := by
  intro a b'
  by_cases he : b' = b
  · subst he; rw [h a b', hb, hb']; simp [hkey]
  · rw [hother b' he, h a b']

variable [LawfulEqOrd α] [LawfulEqOrd β]

omit [LawfulEqOrd α] in
/-- The bucket of a key is known by what is filed under it. -/
theorem bucket_eq (ix : MultiIndex α β) (a : α) :
    ix.buckets[a]? = if ix.ids a = ∅ then none else some (ix.ids a) := by
  cases hs : ix.buckets[a]? with
  | none => simp [ids, hs]
  | some s => simp [ids, hs, ix.occupied a s hs]

omit [LawfulEqOrd α] in
theorem bucket_congr {ix' : MultiIndex α β} {a : α} (h : ∀ b, b ∈ ix.ids a ↔ b ∈ ix'.ids a) :
    ix.buckets[a]? = ix'.buckets[a]? := by
  rw [bucket_eq, bucket_eq, ExtTreeSet.ext_mem h]

omit [LawfulEqOrd α] in
theorem bucket_eq_none {a : α} (h : ∀ b, b ∉ ix.ids a) : ix.buckets[a]? = none := by
  have hempty : ix.ids a = ∅ := ExtTreeSet.ext_mem fun b => by simp [h b]
  rw [bucket_eq, if_pos hempty]

/-- An index is known by what it files, as it holds no empty set. -/
theorem ext_ids {ix ix' : MultiIndex α β} (h : ∀ a b, b ∈ ix.ids a ↔ b ∈ ix'.ids a) : ix = ix' := by
  have hbuckets : ix.buckets = ix'.buckets :=
    ExtTreeMap.ext_getElem? fun a => bucket_congr (h a)
  cases ix
  cases ix'
  congr

theorem Indexes.link (h : ix.Indexes find key) (hb : find b = none) (hb' : find' b = some c)
    (hother : ∀ b', b' ≠ b → find' b' = find b') : (ix.link (key c) b).Indexes find' key := by
  intro a b'
  rw [mem_ids_link]
  by_cases he : b' = b
  · subst he
    have hout : b' ∉ ix.ids a := by rw [h a b', hb]; simp
    simp [hb', hout, eq_comm]
  · simp [he, hother b' he, h a b']

theorem Indexes.unlink (h : ix.Indexes find key) (hb : find b = some c) (hb' : find' b = none)
    (hother : ∀ b', b' ≠ b → find' b' = find b') : (ix.unlink (key c) b).Indexes find' key := by
  intro a b'
  rw [mem_ids_unlink]
  by_cases he : b' = b
  · subst he
    have hin : b' ∈ ix.ids a ↔ key c = a := by rw [h a b', hb]; simp
    simp [hb', hin, eq_comm]
  · simp [he, hother b' he, h a b']

/-! ## Half of the agreement -/

/-- Every row of the table is filed under its key; other things may be filed too. -/
def Covers (ix : MultiIndex α β) (find : β → Option γ) (key : γ → α) : Prop :=
  ∀ b c, find b = some c → b ∈ ix.ids (key c)

omit [LawfulEqOrd α] [LawfulEqOrd β] in
theorem Covers.replace (h : ix.Covers find key) (hb : find b = some c) (hb' : find' b = some d)
    (hkey : key d = key c) (hother : ∀ b', b' ≠ b → find' b' = find b') : ix.Covers find' key := by
  intro b' e he
  by_cases hb'' : b' = b
  · subst hb''
    rw [hb'] at he
    cases he
    rw [hkey]
    exact h b' c hb
  · exact h b' e (hother b' hb'' ▸ he)

theorem Covers.link (h : ix.Covers find key) (hb' : find' b = some c)
    (hother : ∀ b', b' ≠ b → find' b' = find b') : (ix.link (key c) b).Covers find' key := by
  intro b' e he
  rw [mem_ids_link]
  by_cases hb'' : b' = b
  · subst hb''
    rw [hb'] at he
    cases he
    exact .inl ⟨rfl, rfl⟩
  · exact .inr (h b' e (hother b' hb'' ▸ he))

theorem Covers.unlink {a : α} (h : ix.Covers find key) (hb' : find' b = none)
    (hother : ∀ b', b' ≠ b → find' b' = find b') : (ix.unlink a b).Covers find' key := by
  intro b' e he
  have hne : b' ≠ b := by
    rintro rfl
    rw [hb'] at he
    cases he
  exact (mem_ids_unlink ix a (key e) b b').mpr ⟨h b' e (hother b' hne ▸ he), fun hc => hne hc.2⟩

end MultiIndex

end Lib
