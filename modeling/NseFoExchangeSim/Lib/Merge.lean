import Mathlib.Algebra.Ring.Nat
import Mathlib.Data.List.Basic
import Mathlib.Order.Defs.LinearOrder
import Mathlib.Logic.Function.Basic
import Mathlib.Order.MinMax
import Mathlib.Tactic.Common

/-!
# Merging lanes by their heads

A merge takes, again and again, the least of the heads of some lanes, by a key that tells the lanes
apart. It keeps the order of every lane and takes every element once; the lanes need not be sorted. What
a merge gives is sorted by the greatest key that each element has in its lane up to its own place.
-/

namespace Lib

universe u v

variable {R : Type u} {K : Type v}

/-! ## Lanes -/

/-- The elements of one lane among those that were taken. -/
def onLane (i : Nat) (out : List (Nat × R)) : List R :=
  (out.filter fun c => c.1 == i).map Prod.snd

/-- How many elements there are on all lanes. -/
def laneTotal (lanes : List (List R)) : Nat := (lanes.map List.length).sum

/-- What is left of a lane when some elements have been taken. -/
def laneAfter (lanes : List (List R)) (out : List (Nat × R)) (i : Nat) : List R :=
  (lanes[i]?.getD []).drop (onLane i out).length

section Lanes

variable {lanes : List (List R)} {out : List (Nat × R)} {i j : Nat} {r : R} {rest : List R}

@[simp] theorem onLane_nil : onLane i ([] : List (Nat × R)) = [] := rfl

theorem onLane_cons :
    onLane j ((i, r) :: out) = if i = j then r :: onLane j out else onLane j out := by
  by_cases hij : i = j
  · simp [onLane, hij]
  · simp [onLane, hij]

theorem mem_onLane : r ∈ onLane i out ↔ (i, r) ∈ out := by
  simp [onLane]

theorem onLane_map {S : Type*} (f : S → R) (out : List (Nat × S)) :
    onLane i (out.map (Prod.map id f)) = (onLane i out).map f := by
  simp [onLane, List.filter_map, Function.comp_def]

theorem laneTotal_set (hlane : lanes[i]? = some (r :: rest)) :
    laneTotal lanes = laneTotal (lanes.set i rest) + 1 := by
  induction lanes generalizing i with
  | nil => simp at hlane
  | cons lane lanes ih =>
      cases i with
      | zero =>
          simp only [List.getElem?_cons_zero, Option.some.injEq] at hlane
          simp only [laneTotal, hlane, List.set_cons_zero, List.map_cons, List.length_cons,
            List.sum_cons]
          omega
      | succ i =>
          rw [List.getElem?_cons_succ] at hlane
          have hrest := ih hlane
          simp only [laneTotal, List.set_cons_succ, List.map_cons, List.sum_cons] at hrest ⊢
          omega

theorem laneTotal_eq_zero : laneTotal lanes = 0 ↔ ∀ lane ∈ lanes, lane = [] := by
  simp [laneTotal, List.sum_eq_zero_iff_forall_eq_nat]

theorem getD_set (hlane : lanes[i]? = some (r :: rest)) :
    ((lanes.set i rest)[j]?.getD []) = if i = j then rest else (lanes[j]?.getD []) := by
  have hlt : i < lanes.length := (List.getElem?_eq_some_iff.mp hlane).1
  by_cases hij : i = j
  · subst hij
    simp [hlt]
  · simp [hij]

theorem laneAfter_set (hlane : lanes[i]? = some (r :: rest)) :
    laneAfter lanes ((i, r) :: out) j = laneAfter (lanes.set i rest) out j := by
  rw [laneAfter, laneAfter, getD_set hlane, onLane_cons]
  by_cases hij : i = j
  · subst hij
    simp [hlane]
  · simp [hij]

end Lanes

/-! ## Merges -/

variable [LinearOrder K] (key : Nat → R → K)

/-- Taking least heads from some lanes can give these elements, with the lanes they come from. -/
inductive Merges : List (List R) → List (Nat × R) → Prop
  | stop (lanes) : Merges lanes []
  | take {lanes i r rest out} (hlane : lanes[i]? = some (r :: rest))
      (hleast : ∀ j s tail, lanes[j]? = some (s :: tail) → key i r ≤ key j s)
      (hout : Merges (lanes.set i rest) out) : Merges lanes ((i, r) :: out)

section Merges

variable {key} {lanes : List (List R)} {out out' : List (Nat × R)}

/-- The elements of a lane come in its order, each once. -/
theorem Merges.onLane_prefix (h : Merges key lanes out) (i : Nat) :
    onLane i out <+: lanes[i]?.getD [] := by
  induction h with
  | stop => exact List.nil_prefix
  | @take lanes j r rest out hlane hleast hout ih =>
      rw [getD_set hlane] at ih
      rw [onLane_cons]
      by_cases hji : j = i
      · subst hji
        simp only [if_true] at ih ⊢
        simp only [hlane, Option.getD_some]
        exact (List.prefix_cons_inj r).mpr ih
      · simpa only [hji, if_false] using ih

theorem Merges.length_le (h : Merges key lanes out) : out.length ≤ laneTotal lanes := by
  induction h with
  | stop => exact Nat.zero_le _
  | take hlane hleast hout ih =>
      rw [laneTotal_set hlane, List.length_cons]
      omega

/-- A merge that takes as many elements as there are takes every lane. -/
theorem Merges.onLane_eq (h : Merges key lanes out) (hlength : out.length = laneTotal lanes)
    (i : Nat) : onLane i out = lanes[i]?.getD [] := by
  induction h with
  | stop lanes =>
      have hempty := laneTotal_eq_zero.mp hlength.symm
      cases hlane : lanes[i]? with
      | none => rfl
      | some lane => simp [hempty lane (List.mem_of_getElem? hlane)]
  | @take lanes j r rest out hlane hleast hout ih =>
      rw [laneTotal_set hlane, List.length_cons] at hlength
      have hrest := ih (by omega)
      rw [getD_set hlane] at hrest
      rw [onLane_cons, hrest]
      by_cases hji : j = i
      · subst hji
        simp [hlane]
      · simp [hji]

/-- What is taken at each step is a head, and the least of them. -/
theorem Merges.least {before after : List (Nat × R)} {i : Nat} {r : R}
    (h : Merges key lanes (before ++ (i, r) :: after)) :
    (∃ rest, laneAfter lanes before i = r :: rest) ∧
      ∀ j s rest, laneAfter lanes before j = s :: rest → key i r ≤ key j s := by
  induction before generalizing lanes with
  | nil =>
      cases h with
      | @take _ _ _ rest _ hlane hleast hout =>
          refine ⟨⟨rest, by simp [laneAfter, hlane]⟩, fun j s tail hj => ?_⟩
          cases hlane' : lanes[j]? with
          | none => simp [laneAfter, hlane'] at hj
          | some lane =>
              refine hleast j s tail ?_
              rw [hlane']
              simpa [laneAfter, hlane'] using hj
  | cons c before ih =>
      cases h with
      | take hlane hleast hout =>
          obtain ⟨hhead, hmin⟩ := ih hout
          simp only [laneAfter_set hlane]
          exact ⟨hhead, hmin⟩

/-- The first element of a merge is the least head. -/
theorem Merges.head {i : Nat} {r : R} (h : Merges key lanes ((i, r) :: out)) :
    (∃ rest, lanes[i]? = some (r :: rest)) ∧
      ∀ j s tail, lanes[j]? = some (s :: tail) → key i r ≤ key j s := by
  cases h with
  | take hlane hleast hout => exact ⟨⟨_, hlane⟩, hleast⟩

/-! ### There is one merge -/

theorem exists_least_head (key : Nat → R → K) {m : Nat} (htotal : laneTotal lanes = m + 1) :
    ∃ i r rest, lanes[i]? = some (r :: rest) ∧
      ∀ j s tail, lanes[j]? = some (s :: tail) → key i r ≤ key j s := by
  induction lanes generalizing key m with
  | nil => simp [laneTotal] at htotal
  | cons lane lanes ih =>
      -- the least head of the other lanes, which stand one place further
      have hothers : (∀ (j : Nat) (s : R) (tail : List R), lanes[j]? ≠ some (s :: tail)) ∨
          ∃ (i : Nat) (r : R) (rest : List R), lanes[i]? = some (r :: rest) ∧
            ∀ (j : Nat) (s : R) (tail : List R), lanes[j]? = some (s :: tail) →
              key (i + 1) r ≤ key (j + 1) s := by
        cases hrest : laneTotal lanes with
        | zero =>
            left
            intro j s tail hj
            have hnil := laneTotal_eq_zero.mp hrest _ (List.mem_of_getElem? hj)
            cases hnil
        | succ k => exact .inr (ih (fun i => key (i + 1)) hrest)
      cases lane with
      | nil =>
          have hcount : laneTotal lanes = m + 1 := by simpa [laneTotal] using htotal
          obtain ⟨i, r, rest, hlane, hleast⟩ := ih (fun i => key (i + 1)) hcount
          refine ⟨i + 1, r, rest, hlane, fun j s tail hj => ?_⟩
          cases j with
          | zero => simp at hj
          | succ j => exact hleast j s tail hj
      | cons r rest =>
          rcases hothers with hnone | ⟨i, r', rest', hlane, hleast⟩
          · refine ⟨0, r, rest, rfl, fun j s tail hj => ?_⟩
            cases j with
            | zero =>
                cases hj
                exact le_refl _
            | succ j => exact absurd hj (hnone j s tail)
          · rcases le_total (key 0 r) (key (i + 1) r') with hle | hle
            · refine ⟨0, r, rest, rfl, fun j s tail hj => ?_⟩
              cases j with
              | zero =>
                  cases hj
                  exact le_refl _
              | succ j => exact le_trans hle (hleast j s tail hj)
            · refine ⟨i + 1, r', rest', hlane, fun j s tail hj => ?_⟩
              cases j with
              | zero =>
                  cases hj
                  exact hle
              | succ j => exact hleast j s tail hj

/-- Any merge goes on until everything is taken. -/
theorem Merges.extend (h : Merges key lanes out) {n : Nat} (hn : out.length ≤ n)
    (htotal : n ≤ laneTotal lanes) :
    ∃ more, Merges key lanes (out ++ more) ∧ (out ++ more).length = n := by
  induction h generalizing n with
  | stop lanes =>
      induction n generalizing lanes with
      | zero => exact ⟨[], .stop lanes, rfl⟩
      | succ n ih =>
          obtain ⟨m, hm⟩ : ∃ m, laneTotal lanes = m + 1 := ⟨laneTotal lanes - 1, by omega⟩
          obtain ⟨i, r, rest, hlane, hleast⟩ := exists_least_head key hm
          have hcount := laneTotal_set hlane
          obtain ⟨more, hmore, hlength⟩ := ih (lanes.set i rest) (Nat.zero_le _) (by omega)
          exact ⟨(i, r) :: more, .take hlane hleast hmore, by simpa using hlength⟩
  | take hlane hleast hout ih =>
      cases n with
      | zero => simp at hn
      | succ n =>
          have hcount := laneTotal_set hlane
          obtain ⟨more, hmore, hlength⟩ := ih (by simpa using hn) (by omega)
          exact ⟨more, .take hlane hleast hmore, by simpa using hlength⟩

/-- Of two merges the shorter is the beginning of the longer. -/
theorem Merges.prefix_of_length_le (hkey : ∀ i j r s, key i r = key j s → i = j)
    (h : Merges key lanes out) (h' : Merges key lanes out') (hle : out.length ≤ out'.length) :
    out <+: out' := by
  induction h generalizing out' with
  | stop => exact List.nil_prefix
  | @take lanes i r rest out hlane hleast hout ih =>
      cases h' with
      | stop => simp at hle
      | @take _ j s tail out' hlane' hleast' hout' =>
          have hsame : i = j :=
            hkey i j r s (le_antisymm (hleast j s tail hlane') (hleast' i r rest hlane))
          subst hsame
          rw [hlane] at hlane'
          cases hlane'
          exact (List.prefix_cons_inj _).mpr (ih hout' (by simpa using hle))

end Merges

/-! ## The order of what is taken -/

/-- A key, or the bound when that is greater. -/
def mark (bound : Option K) (k : K) : K := bound.elim k (max · k)

/-- The elements of a lane, each with the greatest key so far. -/
def marks (key : R → K) : Option K → List R → List (R × K)
  | _, [] => []
  | bound, r :: rest => (r, mark bound (key r)) :: marks key (some (mark bound (key r))) rest

section Marks

variable {key : R → K} {bound : Option K} {k z : K} {lane : List R} {x : R × K}

theorem le_mark : k ≤ mark bound k := by
  cases bound with
  | none => exact le_refl _
  | some b => exact le_max_right b k

theorem mark_lt (hbound : ∀ b, bound = some b → b < z) (hk : k < z) : mark bound k < z := by
  cases bound with
  | none => exact hk
  | some b => exact max_lt (hbound b rfl) hk

@[simp] theorem marks_fst : (marks key bound lane).map Prod.fst = lane := by
  induction lane generalizing bound with
  | nil => rfl
  | cons r rest ih => simp [marks, ih]

@[simp] theorem length_marks : (marks key bound lane).length = lane.length := by
  induction lane generalizing bound with
  | nil => rfl
  | cons r rest ih => simp [marks, ih]

theorem le_of_mem_marks (hx : x ∈ marks key bound lane) {b : K} (hb : bound = some b) : b ≤ x.2 := by
  induction lane generalizing bound b with
  | nil => cases hx
  | cons r rest ih =>
      subst hb
      have hmark : b ≤ mark (some b) (key r) := le_max_left b (key r)
      rcases List.mem_cons.mp hx with rfl | hx
      · exact hmark
      · exact le_trans hmark (ih hx rfl)

/-- The marks of a lane are at least the key of its head. -/
theorem head_le_of_mem_marks {r : R} (hx : x ∈ marks key bound (r :: lane)) : key r ≤ x.2 := by
  rcases List.mem_cons.mp hx with rfl | hx
  · exact le_mark
  · exact le_trans le_mark (le_of_mem_marks hx rfl)

/-- A mark is at least the key of its element. -/
theorem key_le_of_mem_marks (hx : x ∈ marks key bound lane) : key x.1 ≤ x.2 := by
  induction lane generalizing bound with
  | nil => cases hx
  | cons r rest ih =>
      rcases List.mem_cons.mp hx with rfl | hx
      · exact le_mark
      · exact ih hx

/-- A mark is the key of an element that stands no later. -/
theorem exists_of_mem_marks (hx : x ∈ marks key none lane) :
    ∃ before after, lane = before ++ x.1 :: after ∧
      ∃ r ∈ before ++ [x.1], x.2 = key r := by
  suffices hgeneral : ∀ bound : Option K, x ∈ marks key bound lane →
      ∃ before after, lane = before ++ x.1 :: after ∧
        (bound = some x.2 ∨ ∃ r ∈ before ++ [x.1], x.2 = key r) by
    obtain ⟨before, after, hlane, hmark⟩ := hgeneral none hx
    exact ⟨before, after, hlane, hmark.resolve_left nofun⟩
  clear hx
  induction lane with
  | nil => intro bound hx; cases hx
  | cons r rest ih =>
      intro bound hx
      have hmark : some (mark bound (key r)) = bound ∨ mark bound (key r) = key r := by
        cases bound with
        | none => exact .inr rfl
        | some b => exact (max_choice b (key r)).imp (congrArg some) id
      rcases List.mem_cons.mp hx with rfl | hx
      · refine ⟨[], rest, rfl, ?_⟩
        exact hmark.imp Eq.symm fun hr => ⟨r, List.mem_singleton.mpr rfl, hr⟩
      · obtain ⟨before, after, hlane, hx2⟩ := ih _ hx
        refine ⟨r :: before, after, by rw [hlane, List.cons_append], ?_⟩
        rcases hx2 with heq | ⟨s, hs, hkey⟩
        · rw [Option.some.injEq] at heq
          rw [← heq]
          exact hmark.imp Eq.symm fun hr => ⟨r, List.mem_cons_self, hr⟩
        · exact .inr ⟨s, List.mem_cons_of_mem r hs, hkey⟩

end Marks

section Order

variable {key} {lanes : List (List R)} {out : List (Nat × R)}

/-- A merge of lanes is one of any lanes that they are the image of. -/
theorem Merges.lift {S : Type*} {f : S → R} (h : Merges key lanes out) {lanes' : List (List S)}
    (hlanes : lanes'.map (List.map f) = lanes) :
    ∃ out', out'.map (Prod.map id f) = out ∧ Merges (fun i x => key i (f x)) lanes' out' := by
  induction h generalizing lanes' with
  | stop => exact ⟨[], rfl, .stop lanes'⟩
  | @take lanes i r rest out hlane hleast hout ih =>
      subst hlanes
      rw [List.getElem?_map, Option.map_eq_some_iff] at hlane
      obtain ⟨lane', hlane', hcons⟩ := hlane
      obtain ⟨x, rest', rfl, rfl, rfl⟩ := List.map_eq_cons_iff.mp hcons
      have hset : (lanes'.set i rest').map (List.map f) =
          (lanes'.map (List.map f)).set i (rest'.map f) := List.map_set ..
      obtain ⟨out', hout', hmerges⟩ := ih hset
      refine ⟨(i, x) :: out', by simp [hout'], .take hlane' (fun j y tail hj => ?_) hmerges⟩
      exact hleast j (f y) (tail.map f) (by simp [hj])

/-- Marked lanes, on which the marks lie above all that was taken from the other lanes. -/
structure Marked (key : Nat → R → K) (bound : Nat → Option K) (lanes : List (List (R × K))) :
    Prop where
  marks : ∀ i lane, lanes[i]? = some lane → lane = marks (key i) (bound i) (lane.map Prod.fst)
  above : ∀ i j lane x b, i ≠ j → lanes[j]? = some lane → x ∈ lane → bound i = some b → b < x.2

theorem Marked.init (key : Nat → R → K) (lanes : List (List R)) :
    Marked key (fun _ => none) (lanes.mapIdx fun i lane => Lib.marks (key i) none lane) where
  marks i lane hlane := by
    rw [List.getElem?_mapIdx, Option.map_eq_some_iff] at hlane
    obtain ⟨lane, -, rfl⟩ := hlane
    rw [marks_fst]
  above i j lane x b _ _ _ hb := by cases hb

theorem Marked.take {bound : Nat → Option K} {lanes : List (List (R × K))} {i : Nat} {x : R × K}
    {rest : List (R × K)} (hm : Marked key bound lanes) (hkey : ∀ i j r s, key i r = key j s → i = j)
    (hlane : lanes[i]? = some (x :: rest))
    (hleast : ∀ j y tail, lanes[j]? = some (y :: tail) → key i x.1 ≤ key j y.1) :
    Marked key (Function.update bound i (some x.2)) (lanes.set i rest) := by
  have hlt : i < lanes.length := (List.getElem?_eq_some_iff.mp hlane).1
  have hmarks := hm.marks i _ hlane
  rw [List.map_cons, Lib.marks, List.cons.injEq] at hmarks
  have hx : x.2 = mark (bound i) (key i x.1) := congrArg Prod.snd hmarks.1
  refine ⟨fun j lane hj => ?_, fun i' j lane y b hne hj hy hb => ?_⟩
  · by_cases hij : i = j
    · subst hij
      rw [List.getElem?_set_self hlt, Option.some.injEq] at hj
      subst hj
      rw [Function.update_self, hx]
      exact hmarks.2
    · rw [List.getElem?_set_ne hij] at hj
      rw [Function.update_of_ne (Ne.symm hij)]
      exact hm.marks j lane hj
  · by_cases hij : i = j
    · subst hij
      rw [List.getElem?_set_self hlt, Option.some.injEq] at hj
      subst hj
      rw [Function.update_of_ne hne] at hb
      exact hm.above i' i _ y b hne hlane (List.mem_cons_of_mem x hy) hb
    · rw [List.getElem?_set_ne hij] at hj
      by_cases hi' : i' = i
      · -- what was just taken has a lesser key than the head of the other lane
        subst hi'
        rw [Function.update_self, Option.some.injEq] at hb
        subst hb
        rw [hx]
        refine mark_lt (fun b hb => hm.above i' j lane y b hij hj hy hb) ?_
        obtain ⟨y₀, tail, rfl⟩ := List.exists_cons_of_ne_nil (List.ne_nil_of_mem hy)
        have hle := hleast j y₀ tail hj
        have hstrict : key i' x.1 < key j y₀.1 := lt_of_le_of_ne hle fun he => hij (hkey _ _ _ _ he)
        rw [hm.marks j _ hj, List.map_cons] at hy
        exact lt_of_lt_of_le hstrict (head_le_of_mem_marks hy)
      · rw [Function.update_of_ne hi'] at hb
        exact hm.above i' j lane y b hne hj hy hb

theorem Merges.mem_lane {key : Nat → R → K} (h : Merges key lanes out) {c : Nat × R} (hc : c ∈ out) :
    ∃ lane, lanes[c.1]? = some lane ∧ c.2 ∈ lane := by
  have hmem : c.2 ∈ onLane c.1 out := mem_onLane.mpr hc
  have hlane := (h.onLane_prefix c.1).subset hmem
  cases hget : lanes[c.1]? with
  | none => simp [hget] at hlane
  | some lane => exact ⟨lane, rfl, by simpa [hget] using hlane⟩

/-- What is taken from one lane is in the order of that lane. -/
theorem Merges.pairwise_lane {rel : R → R → Prop} (h : Merges key lanes out)
    (hlanes : ∀ lane ∈ lanes, lane.Pairwise rel) :
    out.Pairwise fun c d => c.1 = d.1 → rel c.2 d.2 := by
  induction h with
  | stop => exact .nil
  | @take lanes i r rest out hlane hleast hout ih =>
      have hsorted := hlanes _ (List.mem_of_getElem? hlane)
      rw [List.pairwise_cons] at hsorted
      refine .cons (fun d hd hsame => ?_) (ih fun lane hmem => ?_)
      · obtain ⟨lane, hget, hmem⟩ := hout.mem_lane hd
        rw [← hsame, List.getElem?_set_self (List.getElem?_eq_some_iff.mp hlane).1,
          Option.some.injEq] at hget
        subst hget
        exact hsorted.1 d.2 hmem
      · rcases List.mem_or_eq_of_mem_set hmem with hmem | rfl
        · exact hlanes lane hmem
        · exact hsorted.2

/-- What is taken from different lanes is taken in the order of the marks. -/
theorem Merges.pairwise_marks {bound : Nat → Option K} {lanes : List (List (R × K))}
    {out : List (Nat × (R × K))} (hkey : ∀ i j r s, key i r = key j s → i = j)
    (hm : Marked key bound lanes) (h : Merges (fun i x => key i x.1) lanes out) :
    out.Pairwise fun c d => c.1 ≠ d.1 → c.2.2 < d.2.2 := by
  induction h generalizing bound with
  | stop => exact .nil
  | @take lanes i x rest out hlane hleast hout ih =>
      have hnext := hm.take hkey hlane hleast
      refine .cons (fun d hd hne => ?_) (ih hnext)
      obtain ⟨lane, hd', hmem⟩ := hout.mem_lane hd
      exact hnext.above i d.1 lane d.2 x.2 hne hd' hmem (Function.update_self ..)

/-- A merge with the marks of its elements: those of different lanes are in the order of the marks. -/
theorem Merges.exists_marked (hkey : ∀ i j r s, key i r = key j s → i = j)
    (h : Merges key lanes out) :
    ∃ marked : List (Nat × (R × K)), marked.map (Prod.map id Prod.fst) = out ∧
      Merges (fun i x => key i x.1) (lanes.mapIdx fun i lane => marks (key i) none lane) marked ∧
      (marked.Pairwise fun c d => c.1 ≠ d.1 → c.2.2 < d.2.2) ∧
      (out.length = laneTotal lanes →
        ∀ i, onLane i marked = marks (key i) none (lanes[i]?.getD [])) := by
  have hlanes : (lanes.mapIdx fun i lane => marks (key i) none lane).map (List.map Prod.fst) =
      lanes := by
    apply List.ext_getElem?
    intro i
    cases hlane : lanes[i]? <;> simp [hlane]
  obtain ⟨marked, hout, hmerges⟩ := h.lift hlanes
  refine ⟨marked, hout, hmerges, hmerges.pairwise_marks hkey (.init key lanes), fun htotal i => ?_⟩
  have hprefix := hmerges.onLane_prefix i
  have hmarks : (lanes.mapIdx fun i lane => marks (key i) none lane)[i]?.getD [] =
      marks (key i) none (lanes[i]?.getD []) := by
    cases hlane : lanes[i]? <;> simp [hlane, marks]
  rw [hmarks] at hprefix
  refine hprefix.eq_of_length ?_
  have hwhole := h.onLane_eq htotal i
  rw [← hout, onLane_map] at hwhole
  have hlength := congrArg List.length hwhole
  rw [List.length_map] at hlength
  rw [hlength, length_marks]

end Order

end Lib
