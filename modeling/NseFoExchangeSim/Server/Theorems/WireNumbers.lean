import NseFoExchangeSim.Protocol.Doubles
import NseFoExchangeSim.Engine.Theorems.LifeCycle
import NseFoExchangeSim.Engine.Theorems.Sequences
import NseFoExchangeSim.Server.Responses

/-!
# Order numbers on the wire

A response carries the order number as a double, and a modification or cancellation names its order by
the double it got. The engine reads the number back, as long as the numbers it has given out are doubles.
-/

namespace NseFoExchangeSim.Server

open Lib Binary64 Protocol Engine

variable {cfg : EngineConfig} {h : List EngineEvent} {st : EngineState} {n : UInt64} {op : Op}

/-! ## What a request addresses -/

/-- The field in which a request names the order. -/
def requestedOrder : Op → Option DoubleBits
  | .modifyOrder _ request _ _ | .cancelOrder _ request _ _ => some request.orderNumber
  | _ => none

/-- A modification or cancellation that the session of the open order makes of it, and that is valid
whatever number it gives. -/
def OwnerRequest (live : OrderSnapshot) : Op → Prop
  | .modifyOrder env request sessionId session =>
      let asked := updateRequestSnapshot env request sessionId session
      (∃ number, isValidModifyRequest { asked with exchangeOrderNumber := number } request = true) ∧
        live.sessionId = sessionId ∧ live.token = asked.token ∧ live.side = asked.side ∧
        live.bookType = asked.bookType ∧ live.ioc = false
  | .cancelOrder env request sessionId session =>
      let asked := updateRequestSnapshot env request sessionId session
      (∃ number, isValidCancelRequest { asked with exchangeOrderNumber := number } request = true) ∧
        live.sessionId = sessionId
  | _ => False

/-- The request is carried out on the order of the number: a modification is confirmed with the price and
the volume that it asks for, and a cancellation is confirmed and takes the order out. -/
def CarriedOut (n : UInt64) (op : Op) (r : List EngineEvent × EngineState) : Prop :=
  match op with
  | .modifyOrder env request sessionId session =>
      let asked := updateRequestSnapshot env request sessionId session
      ∃ e rest, r.1 = e :: rest ∧ e.isModification = true ∧ e.order.exchangeOrderNumber = n ∧
        e.order.price = asked.price ∧ e.order.volume = asked.volume
  | .cancelOrder _ _ _ _ =>
      ∃ e, r.1 = [e] ∧ e.isCancellation = true ∧ e.order.exchangeOrderNumber = n ∧
        r.2.openOrders.find? n = none
  | _ => False

/-- The request is about the order of the number: it is looked up under this number, what its owner
validly asks for is carried out, the answer speaks of no other order, and every other open order stays as
it is. -/
structure Addresses (cfg : EngineConfig) (st : EngineState) (op : Op) (n : UInt64) : Prop where
  names : op.names n
  carriedOut : ∀ live, st.openOrders.find? n = some live → OwnerRequest live op →
    CarriedOut n op (engine cfg st op)
  answer : ∀ e ∈ (engine cfg st op).1, e.order.exchangeOrderNumber = n
  others : ∀ k, k ≠ n → (engine cfg st op).2.openOrders.find? k = st.openOrders.find? k

theorem fillOpenOrderLocked_number {env : CallEnv} {now : ClockReading} {price available : UInt32} :
    ∀ e ∈ (fillOpenOrderLocked env now n price available st).1, e.order.exchangeOrderNumber = n := by
  have hout := fillOpenOrderLocked_outcome env now n price available st
  generalize fillOpenOrderLocked env now n price available st = r at hout
  cases hout with
  | nothing => simp
  | expired hlive hn => simp
  | traded hlive hn hpos hle havailable => simp [hn]

/-- A request that is turned down addresses the order it names, if its owner could not have asked. -/
theorem addresses_of_refused {e : EngineEvent} (hn : op.names n)
    (hr : engine cfg st op = ([e], st)) (he : e.order.exchangeOrderNumber = n)
    (howner : ∀ live, st.openOrders.find? n = some live → ¬OwnerRequest live op) :
    Addresses cfg st op n := by
  refine ⟨hn, fun live hlive hasked => absurd hasked (howner live hlive), fun e' he' => ?_,
    fun k _ => by rw [hr]⟩
  rw [hr, List.mem_singleton] at he'
  rw [he', he]

/-- Any number but 0 is a valid one. -/
theorem valid_modify_of_number {snapshot : OrderSnapshot} {request : OrderUpdateRequestPayload}
    {number : UInt64} (hzero : snapshot.exchangeOrderNumber ≠ 0)
    (h : isValidModifyRequest { snapshot with exchangeOrderNumber := number } request = true) :
    isValidModifyRequest snapshot request = true := by
  simp only [isValidModifyRequest, Bool.and_eq_true, bne_iff_ne] at h ⊢
  exact ⟨⟨h.1.1, hzero⟩, h.2⟩

theorem valid_cancel_of_number {snapshot : OrderSnapshot} {request : OrderUpdateRequestPayload}
    {number : UInt64} (hzero : snapshot.exchangeOrderNumber ≠ 0)
    (h : isValidCancelRequest { snapshot with exchangeOrderNumber := number } request = true) :
    isValidCancelRequest snapshot request = true := by
  simp only [isValidCancelRequest, Bool.and_eq_true, bne_iff_ne] at h ⊢
  exact ⟨⟨h.1.1, hzero⟩, h.2⟩

theorem addresses_modify {env : CallEnv} {request : OrderUpdateRequestPayload} {sessionId : UInt64}
    {session : SessionRef} (hzero : n ≠ 0)
    (hn : Op.names n (.modifyOrder env request sessionId session)) :
    Addresses cfg st (.modifyOrder env request sessionId session) n := by
  have hnumber : (updateRequestSnapshot env request sessionId session).exchangeOrderNumber = n := hn
  have hcall : engine cfg st (.modifyOrder env request sessionId session) =
      onModifyOrder cfg env request sessionId session st := rfl
  simp only [onModifyOrder, hnumber] at hcall
  split at hcall
  · rename_i hinvalid
    refine addresses_of_refused hn hcall hnumber fun live _ hasked => ?_
    obtain ⟨⟨number, hvalid⟩, -⟩ := hasked
    rw [valid_modify_of_number (by rwa [hnumber]) hvalid] at hinvalid
    cases hinvalid
  · split at hcall
    · rename_i hnone
      refine addresses_of_refused hn hcall hnumber fun live hlive _ => ?_
      rw [hnone] at hlive
      cases hlive
    · rename_i live hlive
      have hfound := OrderStore.find?_number hlive
      have hsame : ∀ live', st.openOrders.find? n = some live' → live' = live := by
        intro live' hlive'
        rw [hlive] at hlive'
        exact (Option.some.inj hlive').symm
      split at hcall
      · rename_i hsession
        refine addresses_of_refused hn hcall hnumber fun live' hlive' hasked => ?_
        obtain ⟨-, hown, -⟩ := hasked
        rw [hsame live' hlive'] at hown
        exact hsession hown
      · split at hcall
        · rename_i hother
          refine addresses_of_refused hn hcall hnumber fun live' hlive' hasked => ?_
          obtain ⟨-, -, htoken, hside, hbook, hioc⟩ := hasked
          rw [hsame live' hlive'] at htoken hside hbook hioc
          simp [htoken, hside, hbook, hioc] at hother
        · -- what happens to the order before it is matched
          have hput : ∀ k, k ≠ n → (st.openOrders.put (modifySnapshot live
              (updateRequestSnapshot env request sessionId session) st.nextLastActivityReference
              (env.clock 0))).find? k = st.openOrders.find? k := by
            intro k hk
            refine OrderStore.find?_put_of_ne _ ?_
            rwa [modifySnapshot_number, hfound]
          split at hcall
          · refine ⟨hn, fun _ _ _ => ?_, fun e he => ?_, fun k hk => ?_⟩
            · rw [hcall]
              exact ⟨_, _, rfl, rfl, hfound, rfl, rfl⟩
            · rw [hcall, List.mem_singleton] at he
              rw [he]
              exact hfound
            · rw [hcall]
              exact hput k hk
          · refine ⟨hn, fun _ _ _ => ?_, fun e he => ?_, fun k hk => ?_⟩
            · rw [hcall]
              exact ⟨_, _, rfl, rfl, hfound, rfl, rfl⟩
            · rw [hcall] at he
              rcases List.mem_cons.mp he with rfl | he
              · exact hfound
              · rw [modifySnapshot_number, hfound] at he
                exact fillOpenOrderLocked_number e he
            · rw [hcall, modifySnapshot_number, hfound]
              rw [fillOpenOrderLocked_frame.find k (by simpa using hk)]
              exact hput k hk

theorem addresses_cancel {env : CallEnv} {request : OrderUpdateRequestPayload} {sessionId : UInt64}
    {session : SessionRef} (hzero : n ≠ 0)
    (hn : Op.names n (.cancelOrder env request sessionId session)) :
    Addresses cfg st (.cancelOrder env request sessionId session) n := by
  have hnumber : (updateRequestSnapshot env request sessionId session).exchangeOrderNumber = n := hn
  have hcall : engine cfg st (.cancelOrder env request sessionId session) =
      onCancelOrder env request sessionId session st := rfl
  simp only [onCancelOrder, hnumber] at hcall
  split at hcall
  · rename_i hinvalid
    refine addresses_of_refused hn hcall hnumber fun live _ hasked => ?_
    obtain ⟨⟨number, hvalid⟩, -⟩ := hasked
    rw [valid_cancel_of_number (by rwa [hnumber]) hvalid] at hinvalid
    cases hinvalid
  · split at hcall
    · rename_i hnone
      refine addresses_of_refused hn hcall hnumber fun live hlive _ => ?_
      rw [hnone] at hlive
      cases hlive
    · rename_i live hlive
      have hfound := OrderStore.find?_number hlive
      split at hcall
      · rename_i hsession
        refine addresses_of_refused hn hcall hnumber fun live' hlive' hasked => ?_
        rw [hlive] at hlive'
        cases hlive'
        exact hsession hasked.2
      · refine ⟨hn, fun _ _ _ => ?_, fun e he => ?_, fun k hk => ?_⟩
        · rw [hcall]
          refine ⟨_, rfl, rfl, hfound, ?_⟩
          rw [eraseOpenOrderLocked_find? rfl]
          exact if_pos hfound.symm
        · rw [hcall, List.mem_singleton] at he
          rw [he]
          exact hfound
        · rw [hcall, eraseOpenOrderLocked_find? rfl]
          apply if_neg
          rwa [← hfound] at hk

/-- A request for a number but 0 addresses the order of that number. -/
theorem addresses_of_names (hzero : n ≠ 0) (hn : op.names n) : Addresses cfg st op n := by
  cases op with
  | modifyOrder env request sessionId session => exact addresses_modify hzero hn
  | cancelOrder env request sessionId session => exact addresses_cancel hzero hn
  | newOrder _ _ _ _ => exact hn.elim
  | tbtOrder _ _ => exact hn.elim
  | tbtTrade _ _ => exact hn.elim
  | sessionClosed _ => exact hn.elim

/-- A request names the number its field is decoded to. -/
theorem names_of_requestedOrder {field : DoubleBits} (hop : requestedOrder op = some field)
    (hback : ∀ outOfRange, decodeExchangeOrderNumber outOfRange field = n) : op.names n := by
  cases op with
  | modifyOrder env request sessionId session =>
      cases hop
      exact hback env.outOfRange
  | cancelOrder env request sessionId session =>
      cases hop
      exact hback env.outOfRange
  | newOrder _ _ _ _ => cases hop
  | tbtOrder _ _ => cases hop
  | tbtTrade _ _ => cases hop
  | sessionClosed _ => cases hop

/-! ## The numbers that come back -/

/-- The order number of an event comes back from its response exactly when it is a double. -/
theorem decode_responseTo_iff (config : Config) (e : EngineEvent) :
    (∀ outOfRange, decodeExchangeOrderNumber outOfRange (responseTo config e).orderNumber =
        e.order.exchangeOrderNumber) ↔ IsDouble e.order.exchangeOrderNumber.toNat := by
  rw [responseTo_orderNumber]
  exact wire_round_trip_iff e.order.exchangeOrderNumber

/-- The field in which each accepted order is confirmed. -/
def confirmedFields (config : Config) (h : List EngineEvent) : List DoubleBits :=
  (h.filter (·.isConfirmation)).map fun e => (responseTo config e).orderNumber

theorem confirmedFields_eq (config : Config) (h : List EngineEvent) :
    confirmedFields config h =
      (orderNumbers h).map fun number => hostToWireDouble (uint64ToDouble number) := by
  rw [confirmedFields, orderNumbers, List.map_map]
  exact List.map_congr_left fun e _ => responseTo_orderNumber config e

/-- Every successful event is about an order that has been accepted. -/
theorem used_of_successful (r : Reachable cfg h st) (hle : acceptedCount h ≤ 2 ^ 64)
    {e : EngineEvent} (he : e ∈ h) (hs : e.successful = true) :
    Used cfg h e.order.exchangeOrderNumber := by
  apply (r.cycles hle e.order.exchangeOrderNumber).used r.counted
  exact List.ne_nil_of_mem ((mem_eventsOf _ h e).mpr ⟨he, hs, rfl⟩)

theorem orderNumber_toNat (cfg : EngineConfig) (i : Nat) :
    (orderNumber cfg i).toNat = (cfg.config.exchangeOrderNumberStart.toNat + i) % 2 ^ 64 := by
  rw [orderNumber, UInt64.toNat_add, UInt64.toNat_ofNat', Nat.add_mod_mod]

/-- Order numbers survive the wire: they are read back as they were, no two accepted orders are confirmed
with one field, and a request that echoes a response addresses the order of the response, whatever the
engine's state is when it comes. -/
structure SurvivesWire (cfg : EngineConfig) (h : List EngineEvent) : Prop where
  decoded : ∀ e ∈ h, e.successful = true → ∀ outOfRange,
    decodeExchangeOrderNumber outOfRange (responseTo cfg.config e).orderNumber =
      e.order.exchangeOrderNumber
  distinct : (confirmedFields cfg.config h).Nodup
  echoed : ∀ e ∈ h, e.successful = true → ∀ st op,
    requestedOrder op = some (responseTo cfg.config e).orderNumber →
      Addresses cfg st op e.order.exchangeOrderNumber

/-- If the numbers given out are doubles, and none of them is 0, they survive the wire. -/
theorem survivesWire_of_doubles (r : Reachable cfg h st) (hle : acceptedCount h ≤ 2 ^ 64)
    (hdouble : ∀ i < acceptedCount h, IsDouble (orderNumber cfg i).toNat)
    (hzero : ∀ i < acceptedCount h, orderNumber cfg i ≠ 0) : SurvivesWire cfg h := by
  have hdecoded : ∀ e ∈ h, e.successful = true → ∀ outOfRange,
      decodeExchangeOrderNumber outOfRange (responseTo cfg.config e).orderNumber =
        e.order.exchangeOrderNumber := by
    intro e he hs
    obtain ⟨i, hi, hnumber⟩ := used_of_successful r hle he hs
    rw [decode_responseTo_iff, hnumber]
    exact hdouble i hi
  refine ⟨hdecoded, ?_, fun e he hs st' op hop => ?_⟩
  · rw [confirmedFields_eq]
    have hnumbers : ∀ number ∈ orderNumbers h, IsDouble number.toNat := by
      intro number hmem
      obtain ⟨e, he, rfl⟩ := List.mem_map.mp hmem
      obtain ⟨he, hconf⟩ := List.mem_filter.mp he
      obtain ⟨i, hi, hnumber⟩ := r.counted.confirmed e he hconf
      rw [hnumber]
      exact hdouble i hi
    have hnodup : (orderNumbers h).Nodup := by
      apply r.numbered.orders.nodup UInt64.toNat_lt toNat_succ_64
      rwa [orderNumbers_length]
    refine hnodup.map_on fun a ha b hb hfield => ?_
    have hback := (wire_round_trip_iff a).mpr (hnumbers a ha) fun _ => 0
    have hback' := (wire_round_trip_iff b).mpr (hnumbers b hb) fun _ => 0
    rw [hfield] at hback
    exact hback.symm.trans hback'
  · obtain ⟨i, hi, hnumber⟩ := used_of_successful r hle he hs
    have hnonzero : e.order.exchangeOrderNumber ≠ 0 := by
      rw [hnumber]
      exact hzero i hi
    exact addresses_of_names hnonzero (names_of_requestedOrder hop (hdecoded e he hs))

/-- Every number given out is in the confirmation of an order. -/
theorem exists_confirmed (r : Reachable cfg h st) {i : Nat} (hi : i < acceptedCount h) :
    ∃ e ∈ h, e.successful = true ∧ e.order.exchangeOrderNumber.toNat =
      (cfg.config.exchangeOrderNumberStart.toNat + i) % 2 ^ 64 := by
  obtain ⟨hlist, -⟩ := r.numbered.orders.map_toNat UInt64.toNat_lt toNat_succ_64
  rw [orderNumbers_length] at hlist
  have hmem : (cfg.config.exchangeOrderNumberStart.toNat + i) % 2 ^ 64 ∈
      (orderNumbers h).map (·.toNat) := by
    rw [hlist]
    exact List.mem_map.mpr ⟨i, List.mem_range.mpr hi, rfl⟩
  obtain ⟨number, hmem, hnumber⟩ := List.mem_map.mp hmem
  obtain ⟨e, he, rfl⟩ := List.mem_map.mp hmem
  obtain ⟨he, hconf⟩ := List.mem_filter.mp he
  rw [EngineEvent.isConfirmation, Bool.and_eq_true] at hconf
  exact ⟨e, he, hconf.1, hnumber⟩

/-- Numbers that survive the wire are doubles. -/
theorem SurvivesWire.doubles (hw : SurvivesWire cfg h) (r : Reachable cfg h st) :
    ∀ i < acceptedCount h, IsDouble ((cfg.config.exchangeOrderNumberStart.toNat + i) % 2 ^ 64) := by
  intro i hi
  obtain ⟨e, he, hs, hnumber⟩ := exists_confirmed r hi
  rw [← hnumber]
  exact (decode_responseTo_iff cfg.config e).mp (hw.decoded e he hs)

/-- An open order of session 1 under the number 0, and a cancellation of it. -/
def zeroNumbered : OrderSnapshot := { token := 654321, side := 1, sessionId := 1 }

def zeroCancel : Op := .cancelOrder calm (cancelRequest 0 654321 1) 1 1

/-- A valid request for the number 0 is turned down. -/
theorem not_addresses_zero (cfg : EngineConfig) (e : EngineEvent)
    (hzero : e.order.exchangeOrderNumber = 0) :
    requestedOrder zeroCancel = some (responseTo cfg.config e).orderNumber ∧
      ¬Addresses cfg { cfg.init with openOrders := cfg.init.openOrders.put zeroNumbered } zeroCancel
        e.order.exchangeOrderNumber := by
  rw [responseTo_orderNumber, hzero]
  refine ⟨by decide +kernel, fun haddresses => ?_⟩
  have howner : OwnerRequest zeroNumbered zeroCancel := ⟨⟨1, by decide +kernel⟩, rfl⟩
  obtain ⟨e', he', hcancelled, -⟩ := haddresses.carriedOut zeroNumbered
    (OrderStore.find?_put_self _ zeroNumbered) howner
  have hinvalid : isValidCancelRequest (updateRequestSnapshot calm (cancelRequest 0 654321 1) 1 1)
      (cancelRequest 0 654321 1) = false := by decide +kernel
  simp only [zeroCancel, engine, onCancelOrder, hinvalid, Bool.not_false, if_true] at he'
  rw [← (List.cons.inj he').1] at hcancelled
  cases hcancelled

/-- Among numbers that survive the wire 0 is not the first. -/
theorem SurvivesWire.start_ne_zero (hw : SurvivesWire cfg h) (r : Reachable cfg h st)
    (haccepted : acceptedCount h ≠ 0) : cfg.config.exchangeOrderNumberStart ≠ 0 := by
  intro hstart
  obtain ⟨e, he, hs, hnumber⟩ := exists_confirmed r (Nat.pos_of_ne_zero haccepted)
  rw [hstart] at hnumber
  obtain ⟨hfield, hnot⟩ := not_addresses_zero cfg e (UInt64.toNat_inj.mp hnumber)
  exact hnot (hw.echoed e he hs _ _ hfield)

/-- In any run the order numbers survive the wire exactly when none has been given out, or the first one
is not 0 and either the numbers up to the last one given out are within `2 ^ 53` or the first is the only
one and itself a double. -/
theorem order_numbers_survive_wire_iff (r : Reachable cfg h st) :
    SurvivesWire cfg h ↔
      acceptedCount h = 0 ∨
        (cfg.config.exchangeOrderNumberStart ≠ 0 ∧
          ((acceptedCount h = 1 ∧ IsDouble cfg.config.exchangeOrderNumberStart.toNat) ∨
            cfg.config.exchangeOrderNumberStart.toNat + acceptedCount h ≤ 2 ^ 53 + 1)) := by
  have hstart := UInt64.toNat_lt cfg.config.exchangeOrderNumberStart
  constructor
  · intro hw
    by_cases hnone : acceptedCount h = 0
    · exact .inl hnone
    · have hcases := (counted_isDouble_iff hstart).mp (hw.doubles r)
      exact .inr ⟨hw.start_ne_zero r hnone, hcases.resolve_left hnone⟩
  · intro hcondition
    have hdouble := (@counted_isDouble_iff _ (acceptedCount h) hstart).mpr
      (hcondition.imp_right And.right)
    have hbound : ∀ i < acceptedCount h, cfg.config.exchangeOrderNumberStart.toNat + i < 2 ^ 64 := by
      intro i hi
      rcases hcondition with hnone | ⟨-, ⟨hone, -⟩ | hmany⟩ <;> omega
    refine survivesWire_of_doubles r ?_ (fun i hi => ?_) fun i hi hnumber => ?_
    · rcases hcondition with hnone | ⟨-, ⟨hone, -⟩ | hmany⟩ <;> omega
    · rw [orderNumber_toNat]
      exact hdouble i hi
    · have hzero := congrArg UInt64.toNat hnumber
      rw [orderNumber_toNat, Nat.mod_eq_of_lt (hbound i hi), UInt64.toNat_zero] at hzero
      rcases hcondition with hnone | ⟨hnonzero, -⟩
      · omega
      · exact hnonzero (UInt64.toNat_inj.mp (by rw [UInt64.toNat_zero]; omega))

/-- The numbers of the book-matching test survive a run with an accepted order and two trades. -/
theorem order_numbers_survive_wire_iff_traded :
    SurvivesWire bookMatching
      (exec (engine bookMatching) bookMatching.init (restingRun ++ [offer, offer])).1 := by
  refine (order_numbers_survive_wire_iff
    (run_exec (engine bookMatching) bookMatching.init (restingRun ++ [offer, offer]))).mpr ?_
  exact .inr ⟨by decide, .inr (by decide +kernel)⟩

/-- The book-matching test's configuration, with 0 for the first number. -/
def fromZero : EngineConfig :=
  { bookMatching with config := { bookMatching.config with exchangeOrderNumberStart := 0 } }

-- The order numbered 0 is open, and its owner cannot cancel it.
example :
    let st := (exec (engine fromZero) fromZero.init restingRun).2
    ((st.openOrders.find? 0).map (·.sessionId) = some 1) ∧
      (engine fromZero st zeroCancel).1.map (·.errorCode) = [kErrorUnsupportedOrder] := by
  decide +kernel

/-- The book-matching test's configuration, with the first number behind which the next is no double. -/
def largestDoubles : EngineConfig :=
  { bookMatching with
    config := { bookMatching.config with exchangeOrderNumberStart := 0x20000000000000 } }

/-- What the two orders of a session are confirmed with. -/
def twoConfirmations : List EngineEvent :=
  (exec (engine largestDoubles) largestDoubles.init (restingRun ++ restingRun)).1

/-- A cancellation that names its order by the field in which the second order was confirmed. -/
def echoingCancel : Op := .cancelOrder calm (cancelRequest 0x4340000000000000 654321 1) 1 1

/-- Two orders are confirmed with one field, and whoever cancels the second cancels the first. -/
theorem neighbour_cancelled :
    orderNumbers twoConfirmations = [2 ^ 53, 2 ^ 53 + 1] ∧
      confirmedFields largestDoubles.config twoConfirmations = [0x4043, 0x4043] ∧
      decodeExchangeOrderNumber (fun _ => 0) 0x4043 = 2 ^ 53 ∧
      requestedOrder echoingCancel = some 0x4043 ∧
      ((engine largestDoubles
          (exec (engine largestDoubles) largestDoubles.init (restingRun ++ restingRun)).2
          echoingCancel).1.filter (·.isCancellation)).map (·.order.exchangeOrderNumber) = [2 ^ 53] ∧
      ¬SurvivesWire largestDoubles twoConfirmations := by
  have hfields : confirmedFields largestDoubles.config twoConfirmations = [0x4043, 0x4043] := by
    decide +kernel
  refine ⟨by decide +kernel, hfields, by decide +kernel, by decide +kernel, by decide +kernel, ?_⟩
  intro hw
  have hdistinct := hw.distinct
  rw [hfields] at hdistinct
  revert hdistinct
  decide

end NseFoExchangeSim.Server
