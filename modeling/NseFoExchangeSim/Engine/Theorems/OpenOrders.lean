import NseFoExchangeSim.Engine.Lemmas.Invariants
import NseFoExchangeSim.Engine.Requests

/-!
# Open orders are well formed

Whatever the requests say, an order rests with something left of it, within its volume and its
disclosed volume, as a day order of the regular book; and it stands for the same instrument, side and
session as the order that was accepted under its number.
-/

namespace NseFoExchangeSim.Engine

open Lib Protocol

variable {cfg : EngineConfig} {h es : List EngineEvent} {st st' : EngineState} {l : Label}

/-- What an open order is like. -/
structure OrderSnapshot.WellFormed (o : OrderSnapshot) : Prop where
  remaining_pos : 0 < o.totalVolumeRemaining
  remaining_le : o.totalVolumeRemaining ≤ o.volume
  price_pos : 0 < o.price
  side : o.side = 1 ∨ o.side = 2
  bookType : o.bookType = 1
  openClose : o.openClose = 'O'.toUInt8
  day : o.ioc = false
  orderFlags1 : o.orderFlags1 = kOrderFlagsDay
  disclosed_le : o.disclosedVolumeRemaining ≤ o.disclosedVolume

/-- The fields that an order keeps from its acceptance on. -/
structure OrderSnapshot.SameOrder (o o' : OrderSnapshot) : Prop where
  token : o.token = o'.token
  side : o.side = o'.side
  bookType : o.bookType = o'.bookType
  sessionId : o.sessionId = o'.sessionId
  number : o.exchangeOrderNumber = o'.exchangeOrderNumber

theorem OrderSnapshot.SameOrder.trans {o o' o'' : OrderSnapshot} (h : o.SameOrder o')
    (h' : o'.SameOrder o'') : o.SameOrder o'' :=
  ⟨h.token.trans h'.token, h.side.trans h'.side, h.bookType.trans h'.bookType,
    h.sessionId.trans h'.sessionId, h.number.trans h'.number⟩

/-! ## The acceptance of an order -/

/-- The day order confirmed last under a number, as it was confirmed. -/
def acceptance (number : UInt64) (h : List EngineEvent) : Option OrderSnapshot :=
  ((h.filter fun e =>
    e.isConfirmation && !e.order.ioc && e.order.exchangeOrderNumber == number).getLast?).map (·.order)

theorem acceptance_append {number : UInt64}
    (hes : ∀ e ∈ es, e.isConfirmation = true → e.order.ioc = true ∨
      e.order.exchangeOrderNumber ≠ number) :
    acceptance number (h ++ es) = acceptance number h := by
  have hnil : es.filter (fun e =>
      e.isConfirmation && !e.order.ioc && e.order.exchangeOrderNumber == number) = [] := by
    rw [List.filter_eq_nil_iff]
    intro e he hp
    simp only [Bool.and_eq_true, Bool.not_eq_true', beq_iff_eq] at hp
    rcases hes e he hp.1.1 with hioc | hne
    · rw [hp.1.2] at hioc
      cases hioc
    · exact hne hp.2
  rw [acceptance, List.filter_append, hnil, List.append_nil, acceptance]

theorem acceptance_accepts {snapshot : OrderSnapshot} (hday : snapshot.ioc = false) :
    acceptance snapshot.exchangeOrderNumber (h ++ [confirmationEvent snapshot]) = some snapshot := by
  simp [acceptance, List.filter_append, hday]

/-! ## Accepted, modified and filled orders -/

theorem Accepted.wellFormed {snapshot : OrderSnapshot} (ha : Accepted cfg st snapshot)
    (hday : snapshot.ioc = false) : snapshot.WellFormed := by
  obtain ⟨env, request, sessionId, session, rfl, hv, -⟩ := ha
  have hnotIoc : (request.orderFlags1 == kOrderFlagsIoc) = false := hday
  simp only [isValidNewOrder, Bool.and_eq_true, decide_eq_true_eq, beq_iff_eq, isValidSide,
    Bool.or_eq_true, hnotIoc, Bool.false_and, Bool.or_false] at hv
  obtain ⟨⟨⟨⟨⟨⟨-, hbook⟩, hflags, -⟩, hopen⟩, hvolume⟩, hprice⟩, hside⟩ := hv
  exact ⟨hvolume, UInt32.le_refl _, hprice, hside, hbook, hopen, hday, hflags, UInt32.le_refl _⟩

theorem Modifies.wellFormed {request live : OrderSnapshot} (hm : Modifies st request live)
    (hl : live.WellFormed) (r : UInt64) (now : ClockReading) :
    (modifySnapshot live request r now).WellFormed := by
  have hpos := hm.volume_pos
  obtain ⟨⟨wire, hv⟩, -⟩ := hm
  simp only [isValidModifyRequest, Bool.and_eq_true, decide_eq_true_eq, beq_iff_eq] at hv
  obtain ⟨⟨⟨⟨⟨⟨⟨⟨-, -⟩, hflags⟩, -⟩, hopen⟩, -⟩, hprice⟩, -⟩, -⟩ := hv
  refine ⟨?_, ?_, hprice, hl.side, hl.bookType, hopen, hl.day, hflags, ?_⟩
  · rw [modifySnapshot_remaining, UInt32.lt_iff_toNat_lt, toNat_modifiedRemaining hpos]
    have hpos' : 0 < request.volume.toNat := UInt32.lt_iff_toNat_lt.mp hpos
    split
    · exact hpos'
    · rename_i hne
      have hrest : request.totalVolumeRemaining.toNat ≠ 0 := fun h0 => hne (UInt32.toNat_inj.mp h0)
      have hzero : (0 : UInt32).toNat = 0 := rfl
      omega
  · rw [modifySnapshot_remaining, modifySnapshot_volume, UInt32.le_iff_toNat_le,
      toNat_modifiedRemaining hpos]
    split
    · exact Nat.le_refl _
    · exact Nat.min_le_right _ _
  · have hdisclosed : (modifySnapshot live request r now).disclosedVolumeRemaining =
        if request.disclosedVolumeRemaining == 0 && decide (request.disclosedVolume > 0) then
          request.disclosedVolume
        else min request.disclosedVolumeRemaining request.disclosedVolume := rfl
    have hvolume : (modifySnapshot live request r now).disclosedVolume = request.disclosedVolume :=
      rfl
    rw [hdisclosed, hvolume]
    split
    · exact UInt32.le_refl _
    · exact umin_le_right _ _

theorem nextFill_wellFormed {live : OrderSnapshot} {quantity : UInt32} {now : ClockReading}
    (hl : live.WellFormed) (hle : quantity ≤ live.totalVolumeRemaining)
    (hrest : (nextFill st live quantity now).totalVolumeRemaining ≠ 0) :
    (nextFill st live quantity now).WellFormed := by
  have hremaining := hl.remaining_le
  have hdisclosed := hl.disclosed_le
  rw [UInt32.le_iff_toNat_le] at hremaining hdisclosed
  refine ⟨UInt32.pos_iff_ne_zero.mpr hrest, ?_, hl.price_pos, hl.side, hl.bookType, hl.openClose,
    hl.day, hl.orderFlags1, ?_⟩
  · have hnat : remaining (nextFill st live quantity now) = remaining live - quantity.toNat :=
      remaining_nextFill hle
    have hvolume : (nextFill st live quantity now).volume = live.volume := rfl
    rw [remaining, remaining] at hnat
    rw [UInt32.le_iff_toNat_le, hnat, hvolume]
    omega
  · have hvolume : (nextFill st live quantity now).disclosedVolume = live.disclosedVolume := rfl
    have hnext : (nextFill st live quantity now).disclosedVolumeRemaining =
        if min quantity live.totalVolumeRemaining ≥ live.disclosedVolumeRemaining then 0
        else live.disclosedVolumeRemaining - min quantity live.totalVolumeRemaining := rfl
    rw [hvolume, hnext, UInt32.le_iff_toNat_le]
    split
    · exact Nat.zero_le _
    · rename_i hlt
      have hle' := UInt32.le_of_lt (UInt32.not_le.mp hlt)
      rw [UInt32.toNat_sub_of_le _ _ hle']
      omega

/-! ## The invariant -/

/-- Every open order is well formed and still the one that was accepted under its number. -/
def AllWellFormed (h : List EngineEvent) (st : EngineState) : Prop :=
  ∀ k o, st.openOrders.find? k = some o →
    o.WellFormed ∧ ∃ accepted, acceptance k h = some accepted ∧ o.SameOrder accepted

theorem Becomes.sameOrder {live o : OrderSnapshot} (hb : Becomes st live o) : o.SameOrder live := by
  cases hb <;> exact ⟨rfl, rfl, rfl, rfl, rfl⟩

theorem Becomes.wellFormed {live o : OrderSnapshot} (hb : Becomes st live o) (hl : live.WellFormed) :
    o.WellFormed := by
  cases hb with
  | same => exact hl
  | modified r now hm => exact hm.wellFormed hl r now
  | filled now hle hrest => exact nextFill_wellFormed hl hle hrest

/-- Orders that only become others of their own stay well formed. -/
theorem AllWellFormed.quiet (hw : AllWellFormed h st)
    (hes : ∀ e ∈ es, e.isConfirmation = true → e.order.ioc = true)
    (hfind : ∀ k o, st'.openOrders.find? k = some o →
      ∃ live, st.openOrders.find? k = some live ∧ Becomes st live o) :
    AllWellFormed (h ++ es) st' := by
  intro k o ho
  obtain ⟨live, hlive, hbecomes⟩ := hfind k o ho
  obtain ⟨hform, accepted, hacc, hsame⟩ := hw k live hlive
  refine ⟨hbecomes.wellFormed hform, accepted, ?_, hbecomes.sameOrder.trans hsame⟩
  rw [acceptance_append fun e he hconf => .inl (hes e he hconf)]
  exact hacc

theorem AllWellFormed.act (hw : AllWellFormed h st) (hc : Counted cfg h st)
    (ha : Act cfg l st es st') : AllWellFormed (h ++ es) st' := by
  rcases ha.enters with ⟨snapshot, hac, hentry⟩ | hnone
  · cases hentry with
    | passes _ _ hpasses hrest =>
        cases hmd : cfg.marketDataEnabled with
        | false =>
            intro k o ho
            simp only [acceptedState_openOrders, hc.dark hmd k] at ho
            cases ho
        | true =>
            refine hw.quiet (fun e he hconf => ?_) fun k o ho => ⟨o, ?_, .same⟩
            · rcases List.mem_cons.mp he with rfl | he
              · exact hpasses hmd
              · rw [hrest e he] at hconf
                cases hconf
            · simpa only [acceptedState_openOrders] using ho
    | rests hmd hday =>
        intro k o ho
        simp only [storeOpenOrderLocked, acceptedState_openOrders, OrderStore.find?_put] at ho
        split at ho
        · rename_i hk
          cases ho
          rw [hk]
          exact ⟨hac.wellFormed hday, snapshot, acceptance_accepts hday, rfl, rfl, rfl, rfl, rfl⟩
        · rename_i hk
          obtain ⟨hform, accepted, hacc, hsame⟩ := hw k o ho
          refine ⟨hform, accepted, ?_, hsame⟩
          rw [acceptance_append ?_, hacc]
          intro e he _
          rw [List.mem_singleton.mp he]
          exact .inr (Ne.symm hk)
  · refine hw.quiet (fun e he hconf => ?_) hnone.orders
    rw [hnone.unconfirmed e he] at hconf
    cases hconf

/-- In every reachable state the open orders are well formed and keep the token, side, book type,
session and number they were accepted with; without market data there are none. -/
theorem open_orders_well_formed (r : Reachable cfg h st) :
    (∀ k o, st.openOrders.find? k = some o →
        o.WellFormed ∧ ∃ accepted, acceptance k h = some accepted ∧ o.SameOrder accepted) ∧
      (cfg.marketDataEnabled = false → st.openOrders.rows = ∅) := by
  have hboth : Counted cfg h st ∧ AllWellFormed h st := by
    refine anyRun_induct (P := fun h st => Counted cfg h st ∧ AllWellFormed h st)
      ⟨.init cfg, fun k o ho => ?_⟩ ?_ r
    · simp [EngineConfig.init] at ho
    · rintro h st l es st' ⟨hc, hw⟩ ha
      exact ⟨hc.act ha, hw.act hc ha⟩
  refine ⟨hboth.2, fun hmd => Std.ExtTreeMap.ext_getElem? fun k => ?_⟩
  rw [Std.ExtTreeMap.getElem?_empty]
  exact hboth.1.dark hmd k

theorem open_orders_well_formed_offered :
    ∃ o, (exec (engine bookMatching) bookMatching.init (restingRun ++ [offer])).2.openOrders.find?
          200000 = some o ∧
      o.WellFormed ∧ ∃ accepted, acceptance 200000
          (exec (engine bookMatching) bookMatching.init (restingRun ++ [offer])).1 = some accepted ∧
        o.SameOrder accepted := by
  obtain ⟨o, ho⟩ := Option.isSome_iff_exists.mp
    (show ((exec (engine bookMatching) bookMatching.init
      (restingRun ++ [offer])).2.openOrders.find? 200000).isSome = true by decide +kernel)
  exact ⟨o, ho, (open_orders_well_formed (run_exec (engine bookMatching) bookMatching.init
    (restingRun ++ [offer]))).1 200000 o ho⟩

end NseFoExchangeSim.Engine
