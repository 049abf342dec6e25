import NseFoExchangeSim.Engine.Acts

/-!
# Events and histories

Which kind each event of an act is, and how the counts over a history grow when an act appends its
events.
-/

namespace NseFoExchangeSim.Engine

open Protocol

/-! ## Kinds of events -/

section Kinds

variable (o : OrderSnapshot) (price quantity : UInt32)

@[simp] theorem confirmationEvent_kind :
    (confirmationEvent o).successful = true ∧ (confirmationEvent o).isConfirmation = true ∧
      (confirmationEvent o).isModification = false ∧
      (confirmationEvent o).isCancellation = false ∧ (confirmationEvent o).isTrade = false :=
  ⟨rfl, rfl, rfl, rfl, rfl⟩

@[simp] theorem modificationEvent_kind :
    (modificationEvent o).successful = true ∧ (modificationEvent o).isConfirmation = false ∧
      (modificationEvent o).isModification = true ∧
      (modificationEvent o).isCancellation = false ∧ (modificationEvent o).isTrade = false :=
  ⟨rfl, rfl, rfl, rfl, rfl⟩

@[simp] theorem cancellationEvent_kind :
    (cancellationEvent o).successful = true ∧ (cancellationEvent o).isConfirmation = false ∧
      (cancellationEvent o).isModification = false ∧
      (cancellationEvent o).isCancellation = true ∧ (cancellationEvent o).isTrade = false :=
  ⟨rfl, rfl, rfl, rfl, rfl⟩

@[simp] theorem makeTradeEvent_kind :
    (makeTradeEvent o price quantity).successful = true ∧
      (makeTradeEvent o price quantity).isConfirmation = false ∧
      (makeTradeEvent o price quantity).isModification = false ∧
      (makeTradeEvent o price quantity).isCancellation = false ∧
      (makeTradeEvent o price quantity).isTrade = true :=
  ⟨rfl, rfl, rfl, rfl, rfl⟩

@[simp] theorem confirmationEvent_order : (confirmationEvent o).order = o := rfl

@[simp] theorem modificationEvent_order : (modificationEvent o).order = o := rfl

@[simp] theorem cancellationEvent_order : (cancellationEvent o).order = o := rfl

@[simp] theorem makeTradeEvent_order : (makeTradeEvent o price quantity).order = o := rfl

@[simp] theorem makeTradeEvent_fillQuantity :
    (makeTradeEvent o price quantity).fillQuantity = quantity := rfl

end Kinds

theorem EngineEvent.isTrade_eq_false_of_isCancellation {e : EngineEvent}
    (h : e.isCancellation = true) : e.isTrade = false := by
  simp only [EngineEvent.isCancellation, Bool.and_eq_true, beq_iff_eq] at h
  simp [EngineEvent.isTrade, h.2, kTxnOrderCancellationConfirmationTrimmed,
    kTxnTradeConfirmationTrimmed]

theorem failed_kind {e : EngineEvent} (he : e.errorCode ≠ 0) :
    e.successful = false ∧ e.isConfirmation = false ∧ e.isModification = false ∧
      e.isCancellation = false ∧ e.isTrade = false := by
  have hs : e.successful = false := by
    rw [EngineEvent.successful]
    exact beq_false_of_ne he
  simp [EngineEvent.isConfirmation, EngineEvent.isModification, EngineEvent.isCancellation,
    EngineEvent.isTrade, hs]

/-! ## Counts -/

section Counts

variable (n : UInt64) (h es : List EngineEvent) (e : EngineEvent)

@[simp] theorem acceptedCount_nil : acceptedCount [] = 0 := rfl

@[simp] theorem acceptedCount_append :
    acceptedCount (h ++ es) = acceptedCount h + acceptedCount es := List.countP_append

@[simp] theorem acceptedCount_cons :
    acceptedCount (e :: es) = acceptedCount es + if e.isConfirmation then 1 else 0 :=
  List.countP_cons

theorem acceptedCount_eq_zero {es : List EngineEvent} (hes : ∀ e ∈ es, e.isConfirmation = false) :
    acceptedCount es = 0 := by
  rw [acceptedCount, List.countP_eq_zero]
  intro e he
  simp [hes e he]

@[simp] theorem eventsOf_nil : eventsOf n [] = [] := rfl

@[simp] theorem eventsOf_append : eventsOf n (h ++ es) = eventsOf n h ++ eventsOf n es :=
  List.filter_append ..

theorem eventsOf_cons :
    eventsOf n (e :: es) =
      if e.successful = true ∧ e.order.exchangeOrderNumber = n then e :: eventsOf n es
      else eventsOf n es := by
  simp [eventsOf, List.filter_cons, EngineEvent.concerns]

theorem filledIn_snoc :
    filledIn (es ++ [e]) = filledIn es + if e.isTrade then e.fillQuantity.toNat else 0 := by
  rw [filledIn, List.filter_append, List.map_append, List.sum_append, List.filter_singleton, filledIn]
  cases e.isTrade
  · simp
  · simp

theorem mem_eventsOf : e ∈ eventsOf n h ↔ e ∈ h ∧ e.successful = true ∧
    e.order.exchangeOrderNumber = n := by
  simp [eventsOf, EngineEvent.concerns]

end Counts

end NseFoExchangeSim.Engine
