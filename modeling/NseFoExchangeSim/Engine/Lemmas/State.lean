import NseFoExchangeSim.Engine.Acts

/-!
# Fields after an update

What each update of a snapshot or of the engine's state leaves alone and what it changes. The later
modules read the updates through these lemmas only.
-/

namespace NseFoExchangeSim.Engine

open Protocol

/-! ## Snapshots -/

def remaining (o : OrderSnapshot) : Nat := o.totalVolumeRemaining.toNat

theorem toNat_min (a b : UInt32) : (min a b).toNat = min a.toNat b.toNat := by
  have h : (min a b) = if a ≤ b then a else b := rfl
  rw [h]
  split
  · rename_i hab
    rw [UInt32.le_iff_toNat_le] at hab; omega
  · rename_i hab
    rw [UInt32.le_iff_toNat_le] at hab; omega

theorem umin_le_left (a b : UInt32) : min a b ≤ a := by
  rw [UInt32.le_iff_toNat_le, toNat_min]; exact Nat.min_le_left _ _

theorem umin_le_right (a b : UInt32) : min a b ≤ b := by
  rw [UInt32.le_iff_toNat_le, toNat_min]; exact Nat.min_le_right _ _

section Fill

variable (o : OrderSnapshot) (r : UInt64) (f q : UInt32) (now : ClockReading)

@[simp] theorem fillSnapshot_number :
    (fillSnapshot o r f q now).exchangeOrderNumber = o.exchangeOrderNumber := rfl

@[simp] theorem fillSnapshot_remaining :
    (fillSnapshot o r f q now).totalVolumeRemaining =
      o.totalVolumeRemaining - min q o.totalVolumeRemaining := rfl

@[simp] theorem fillSnapshot_filled :
    (fillSnapshot o r f q now).volumeFilledToday =
      o.volumeFilledToday + min q o.totalVolumeRemaining := rfl

end Fill

section Modify

variable (o request : OrderSnapshot) (r : UInt64) (now : ClockReading)

@[simp] theorem modifySnapshot_number :
    (modifySnapshot o request r now).exchangeOrderNumber = o.exchangeOrderNumber := rfl

@[simp] theorem modifySnapshot_sessionId :
    (modifySnapshot o request r now).sessionId = o.sessionId := rfl

@[simp] theorem modifySnapshot_volume :
    (modifySnapshot o request r now).volume = request.volume := rfl

@[simp] theorem modifySnapshot_remaining :
    (modifySnapshot o request r now).totalVolumeRemaining = modifiedRemaining request := rfl

/-- What a modification leaves is what its request asks for, as the condition computes it. -/
theorem toNat_modifiedRemaining {request : OrderSnapshot} (hv : 0 < request.volume) :
    (modifiedRemaining request).toNat =
      if request.totalVolumeRemaining = 0 then request.volume.toNat
      else min request.totalVolumeRemaining.toNat request.volume.toNat := by
  rw [modifiedRemaining]
  by_cases h0 : request.totalVolumeRemaining = 0
  · simp [h0, hv]
  · have hif : (request.totalVolumeRemaining == 0 && decide (request.volume > 0)) = false := by
      simp [h0]
    rw [hif, if_neg (by simp), if_neg h0, toNat_min]

end Modify

/-! ## The next fill -/

section NextFill

variable (st : EngineState) (o : OrderSnapshot) (q : UInt32) (now : ClockReading)

@[simp] theorem nextFill_number :
    (nextFill st o q now).exchangeOrderNumber = o.exchangeOrderNumber := rfl

variable {st o q now}

theorem nextFill_remaining (hle : q ≤ o.totalVolumeRemaining) :
    (nextFill st o q now).totalVolumeRemaining = o.totalVolumeRemaining - q := by
  have hmin : min q o.totalVolumeRemaining = q := if_pos hle
  rw [nextFill, fillSnapshot_remaining, hmin]

theorem nextFill_filled (hle : q ≤ o.totalVolumeRemaining) :
    (nextFill st o q now).volumeFilledToday = o.volumeFilledToday + q := by
  have hmin : min q o.totalVolumeRemaining = q := if_pos hle
  rw [nextFill, fillSnapshot_filled, hmin]

theorem remaining_nextFill (hle : q ≤ o.totalVolumeRemaining) :
    remaining (nextFill st o q now) = remaining o - q.toNat := by
  rw [remaining, nextFill_remaining hle, UInt32.toNat_sub_of_le _ _ hle, remaining]

end NextFill

@[simp] theorem nextCancel_number (st : EngineState) (o : OrderSnapshot) (now : ClockReading) :
    (nextCancel st o now).exchangeOrderNumber = o.exchangeOrderNumber := rfl

/-! ## Entering an order -/

section Entering

variable (cfg : EngineConfig) {st st' : EngineState} {token : UInt32} {book : ExternalBook}

/-- Making a book changes nothing but the books, and leaves the book of the token in place. -/
theorem ensureBookLocked_spec (h : ensureBookLocked cfg st token = some (book, st')) :
    st' = { st with books := st'.books } ∧ st'.books[token]? = some book ∧
      (∀ t, t ≠ token → st'.books[t]? = st.books[t]?) ∧
      (∀ b, st.books[token]? = some b → book = b) ∧ cfg.marketDataEnabled = true := by
  unfold ensureBookLocked at h
  split at h
  · cases h
  · rename_i hmd
    split at h
    · cases h
    · split at h
      · rename_i b hb
        cases h
        exact ⟨rfl, hb, fun _ _ => rfl, fun b' hb' => by rw [hb] at hb'; cases hb'; rfl,
          by simpa using hmd⟩
      · rename_i hb
        cases h
        refine ⟨rfl, by simp, fun t ht => ?_, fun b' hb' => ?_, by simpa using hmd⟩
        · rw [Std.ExtTreeMap.getElem?_insert,
            if_neg fun hc => ht (Std.LawfulEqOrd.compare_eq_iff_eq.mp hc).symm]
        · rw [hb] at hb'; cases hb'

theorem ensureBookLocked_keeps (h : ensureBookLocked cfg st token = some (book, st')) {t : UInt32}
    (ht : t ∈ st.books) : t ∈ st'.books := by
  obtain ⟨_, hself, hother, _⟩ := ensureBookLocked_spec cfg h
  rw [Std.ExtTreeMap.mem_iff_isSome_getElem?] at ht ⊢
  by_cases he : t = token
  · rw [he, hself]; rfl
  · rw [hother t he]; exact ht

variable (st token)

/-- Accepting an order changes the books and the two counters it draws from. -/
theorem acceptedState_spec :
    acceptedState cfg token st =
      { st with
        books := (acceptedState cfg token st).books
        nextExchangeOrderNumber := st.nextExchangeOrderNumber + 1
        nextLastActivityReference := st.nextLastActivityReference + 1 } := by
  unfold acceptedState
  cases he : ensureBookLocked cfg st token with
  | none => rfl
  | some r =>
      obtain ⟨book, st'⟩ := r
      have h := (ensureBookLocked_spec cfg he).1
      simp only [Option.map_some, Option.getD_some]
      rw [h]

@[simp] theorem acceptedState_openOrders :
    (acceptedState cfg token st).openOrders = st.openOrders := by rw [acceptedState_spec]

@[simp] theorem acceptedState_openOrderIdsByToken :
    (acceptedState cfg token st).openOrderIdsByToken = st.openOrderIdsByToken := by
  rw [acceptedState_spec]

@[simp] theorem acceptedState_openOrderIdsBySession :
    (acceptedState cfg token st).openOrderIdsBySession = st.openOrderIdsBySession := by
  rw [acceptedState_spec]

@[simp] theorem acceptedState_nextExchangeOrderNumber :
    (acceptedState cfg token st).nextExchangeOrderNumber = st.nextExchangeOrderNumber + 1 := by
  rw [acceptedState_spec]

@[simp] theorem acceptedState_staleReads :
    (acceptedState cfg token st).staleReads = st.staleReads := by rw [acceptedState_spec]

theorem acceptedState_books :
    (acceptedState cfg token st).books =
      (((ensureBookLocked cfg st token).map Prod.snd).getD st).books := rfl

theorem acceptedState_book {t : UInt32} {b : ExternalBook} (h : st.books[t]? = some b) :
    (acceptedState cfg token st).books[t]? = some b := by
  rw [acceptedState_books]
  cases he : ensureBookLocked cfg st token with
  | none => exact h
  | some r =>
      obtain ⟨book, st'⟩ := r
      obtain ⟨_, hself, hother, hsame, _⟩ := ensureBookLocked_spec cfg he
      by_cases ht : t = token
      · subst ht; rw [← hsame b h]; exact hself
      · exact (hother t ht).trans h

theorem acceptedState_keeps {t : UInt32} (h : t ∈ st.books) :
    t ∈ (acceptedState cfg token st).books := by
  rw [Std.ExtTreeMap.mem_iff_isSome_getElem?, Option.isSome_iff_exists] at h ⊢
  obtain ⟨b, hb⟩ := h
  exact ⟨b, acceptedState_book cfg st token hb⟩

theorem acceptedState_tracks (hmd : cfg.marketDataEnabled = true)
    (ht : canTrackTokenLocked cfg st token = true) :
    token ∈ (acceptedState cfg token st).books := by
  rw [acceptedState_books]
  cases he : ensureBookLocked cfg st token with
  | none =>
      simp only [ensureBookLocked, hmd, ht, Bool.not_true, Bool.false_eq_true, if_false] at he
      cases hb : st.books[token]? with
      | none => simp only [hb] at he; cases he
      | some b => simp only [hb] at he; cases he
  | some r =>
      obtain ⟨book, st'⟩ := r
      obtain ⟨_, hself, _⟩ := ensureBookLocked_spec cfg he
      rw [Std.ExtTreeMap.mem_iff_isSome_getElem?]
      simp [hself]

end Entering

/-- The books are as they were, or an empty one was added. -/
def AddsEmptyBook (st st' : EngineState) : Prop :=
  st'.books = st.books ∨
    ∃ t, st.books[t]? = none ∧ st'.books = st.books.insert t {}

theorem acceptedState_addsEmptyBook {cfg : EngineConfig} {st : EngineState} (token : UInt32) :
    AddsEmptyBook st (acceptedState cfg token st) := by
  have hbooks := acceptedState_books cfg st token
  cases hens : ensureBookLocked cfg st token with
  | none =>
      rw [hens] at hbooks
      exact .inl hbooks
  | some made =>
      rw [hens, Option.map_some, Option.getD_some] at hbooks
      unfold ensureBookLocked at hens
      split at hens
      · cases hens
      · split at hens
        · cases hens
        · split at hens
          · cases hens
            exact .inl hbooks
          · rename_i hnone
            cases hens
            exact .inr ⟨token, hnone, hbooks⟩

/-! ## Removing an order -/

section Removing

variable {st : EngineState} {arg : SnapshotArg} {o : OrderSnapshot}

/-- A removal whose argument reads `o` takes `o` out of the three maps. -/
theorem eraseOpenOrderLocked_of_read (h : arg.read st.openOrders = some o) :
    eraseOpenOrderLocked arg st =
      { st with
        openOrders := st.openOrders.erase o.exchangeOrderNumber
        openOrderIdsByToken := st.openOrderIdsByToken.unlink o.token o.exchangeOrderNumber
        openOrderIdsBySession := st.openOrderIdsBySession.unlink o.sessionId o.exchangeOrderNumber
        staleReads := st.staleReads + (eraseReads arg o st).count none } := by
  simp only [eraseOpenOrderLocked, h]

variable (arg st)

@[simp] theorem eraseOpenOrderLocked_books : (eraseOpenOrderLocked arg st).books = st.books := by
  unfold eraseOpenOrderLocked; split <;> rfl

@[simp] theorem eraseOpenOrderLocked_nextExchangeOrderNumber :
    (eraseOpenOrderLocked arg st).nextExchangeOrderNumber = st.nextExchangeOrderNumber := by
  unfold eraseOpenOrderLocked; split <;> rfl

end Removing

/-! ## After a fill -/

section AfterFill

variable {st : EngineState} {live filled : OrderSnapshot}

@[simp] theorem afterFill_books : (afterFill filled st).books = st.books := by
  unfold afterFill; split <;> simp [drawFillNumbers]

@[simp] theorem afterFill_nextExchangeOrderNumber :
    (afterFill filled st).nextExchangeOrderNumber = st.nextExchangeOrderNumber := by
  unfold afterFill; split <;> simp [drawFillNumbers]

theorem afterFill_find? (hlive : st.openOrders.find? filled.exchangeOrderNumber = some live)
    (k : UInt64) :
    (afterFill filled st).openOrders.find? k =
      if k = filled.exchangeOrderNumber then
        if filled.totalVolumeRemaining = 0 then none else some filled
      else st.openOrders.find? k := by
  have hn : live.exchangeOrderNumber = filled.exchangeOrderNumber := OrderStore.find?_number hlive
  unfold afterFill
  split
  · have hread : (SnapshotArg.entry filled.exchangeOrderNumber).read (drawFillNumbers st).openOrders =
        some live := hlive
    rw [eraseOpenOrderLocked_of_read hread]
    simp only [hn, OrderStore.find?_erase, drawFillNumbers]
  · simp only [OrderStore.find?_put, drawFillNumbers]

end AfterFill

end NseFoExchangeSim.Engine
