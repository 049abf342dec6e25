import NseFoExchangeSim.Protocol.ByteOrder
import NseFoExchangeSim.Protocol.Echo
import NseFoExchangeSim.Engine.Lemmas.Invariants
import NseFoExchangeSim.Engine.Requests
import NseFoExchangeSim.Server.Responses

/-!
# Events echo the latest accepted request

A log of the engine keeps with every event the call that it answers. The response to an event carries,
byte for byte, what the client said in the latest accepted request for the order, and what its entry
said of the fields that no modification changes.
-/

namespace NseFoExchangeSim.Server

open Lib Protocol Engine

/-! ## What a snapshot sends back -/

/-- The wire form of what the client said. -/
def clientFields (o : OrderSnapshot) : ClientFields where
  contractDescription := o.contractDescription
  accountNumber := o.accountNumber
  disclosedVolume := byteswap o.disclosedVolume
  volume := byteswap o.volume
  price := byteswap o.price
  goodTillDate := byteswap o.goodTillDate
  orderFlags1 := o.orderFlags1
  orderFlags2 := o.orderFlags2
  branchId := byteswap o.branchId
  traderId := byteswap o.traderId
  brokerId := o.brokerId
  openClose := o.openClose
  settlor := o.settlor
  proClientIndicator := byteswap o.proClientIndicator
  additionalFlags := o.additionalFlags
  filler := byteswap o.filler
  nnfField := o.nnfFieldWire
  pan := o.pan
  algoId := byteswap o.algoId
  uniqueId := byteswap o.uniqueId

def entryFields (o : OrderSnapshot) : EntryFields where
  userId := byteswap o.userId
  tokenNo := byteswap o.token
  bookType := byteswap o.bookType
  buySellIndicator := byteswap o.side

/-- A response carries the fields of a request and of an entry. -/
def Response.Carries : Response → ClientFields → EntryFields → Prop
  | .trade payload, client, entry => payload.Carries client entry
  | .order payload, client, entry => payload.clientFields = client ∧ payload.entryFields = entry

theorem responseTo_carries (config : Config) (event : EngineEvent)
    (hbook : event.order.bookType = 1) :
    (responseTo config event).Carries (clientFields event.order) (entryFields event.order) := by
  unfold responseTo
  split
  · constructor <;> simp [sendTradeResponse, clientFields, entryFields, hbook]
  · exact ⟨rfl, rfl⟩

/-! ## What a snapshot takes from a request -/

section Requests

variable (sessionId : UInt64) (session : SessionRef)

theorem clientFields_entryRequest (request : OrderEntryRequestPayload) :
    clientFields (buildSnapshotFromEntryRequest request sessionId session) =
      request.clientFields := by
  simp [clientFields, buildSnapshotFromEntryRequest, OrderEntryRequestPayload.clientFields]

theorem entryFields_entryRequest (request : OrderEntryRequestPayload) :
    entryFields (buildSnapshotFromEntryRequest request sessionId session) =
      request.entryFields := by
  simp [entryFields, buildSnapshotFromEntryRequest, OrderEntryRequestPayload.entryFields]

theorem clientFields_updateRequest (env : CallEnv) (request : OrderUpdateRequestPayload) :
    clientFields (updateRequestSnapshot env request sessionId session) = request.clientFields := by
  simp [clientFields, updateRequestSnapshot, buildSnapshotFromUpdateRequest,
    OrderUpdateRequestPayload.clientFields]

end Requests

/-! ## Logs -/

/-- An event, with the call that it answers. -/
abbrev Answer := Op × EngineEvent

/-- The engine, with a log of its answers. -/
def loggedEngine (cfg : EngineConfig) : Machine EngineState Op Answer
  | st, op => ((engine cfg st op).1.map (op, ·), (engine cfg st op).2)

/-- The order that an answer is about: its number, and whether it is an IOC order, which may have the
number of an open day order once the numbers have come round. -/
def orderKey (o : OrderSnapshot) : UInt64 × Bool := (o.exchangeOrderNumber, o.ioc)

/-- What the client says in the request that the answer accepts. -/
def acceptedFields (key : UInt64 × Bool) (answer : Answer) : Option ClientFields :=
  if orderKey answer.2.order = key then
    match answer.1 with
    | .newOrder _ request _ _ =>
        if answer.2.isConfirmation then some request.clientFields else none
    | .modifyOrder _ request _ _ =>
        if answer.2.isModification then some request.clientFields else none
    | _ => none
  else none

/-- What the entry says that the answer accepts. -/
def enteredFields (key : UInt64 × Bool) (answer : Answer) : Option EntryFields :=
  if orderKey answer.2.order = key then
    match answer.1 with
    | .newOrder _ request _ _ =>
        if answer.2.isConfirmation then some request.entryFields else none
    | _ => none
  else none

/-- The last request accepted for an order. -/
def latestAccepted (key : UInt64 × Bool) (log : List Answer) : Option ClientFields :=
  (log.filterMap (acceptedFields key)).getLast?

/-- The last entry accepted for an order. -/
def latestEntered (key : UInt64 × Bool) (log : List Answer) : Option EntryFields :=
  (log.filterMap (enteredFields key)).getLast?

section Logs

variable {key : UInt64 × Bool} {log : List Answer} {answer : Answer}

theorem latestAccepted_snoc :
    latestAccepted key (log ++ [answer]) =
      (acceptedFields key answer).or (latestAccepted key log) := by
  rw [latestAccepted, List.filterMap_append, List.getLast?_append, latestAccepted]
  cases hf : acceptedFields key answer <;> simp [hf]

theorem latestEntered_snoc :
    latestEntered key (log ++ [answer]) =
      (enteredFields key answer).or (latestEntered key log) := by
  rw [latestEntered, List.filterMap_append, List.getLast?_append, latestEntered]
  cases hf : enteredFields key answer <;> simp [hf]

/-- A snapshot of the regular book holds what was last accepted for its order. -/
structure Echoes (log : List Answer) (o : OrderSnapshot) : Prop where
  latest : latestAccepted (orderKey o) log = some (clientFields o)
  entered : latestEntered (orderKey o) log = some (entryFields o)
  bookType : o.bookType = 1

/-- A snapshot of the same order with the same fields to send back. -/
structure SendsSame (o o' : OrderSnapshot) : Prop where
  key : orderKey o = orderKey o'
  client : clientFields o = clientFields o'
  entry : entryFields o = entryFields o'
  bookType : o.bookType = o'.bookType

theorem Echoes.congr {o o' : OrderSnapshot} (h : Echoes log o') (hs : SendsSame o o') :
    Echoes log o where
  latest := by rw [hs.key, hs.client, h.latest]
  entered := by rw [hs.key, hs.entry, h.entered]
  bookType := by rw [hs.bookType, h.bookType]

/-- An answer that accepts nothing for an order leaves what was last accepted for it. -/
theorem Echoes.snoc {o : OrderSnapshot} (h : Echoes log o)
    (hquiet : orderKey answer.2.order = orderKey o →
      answer.2.isConfirmation = false ∧ answer.2.isModification = false) :
    Echoes (log ++ [answer]) o := by
  have hnone : acceptedFields (orderKey o) answer = none ∧
      enteredFields (orderKey o) answer = none := by
    by_cases hkey : orderKey answer.2.order = orderKey o
    · obtain ⟨hconf, hmod⟩ := hquiet hkey
      cases hop : answer.1 <;> simp [acceptedFields, enteredFields, hkey, hop, hconf, hmod]
    · simp [acceptedFields, enteredFields, hkey]
  refine ⟨?_, ?_, h.bookType⟩
  · rw [latestAccepted_snoc, hnone.1, Option.none_or, h.latest]
  · rw [latestEntered_snoc, hnone.2, Option.none_or, h.entered]

/-- The snapshot of an accepted order, right after its confirmation. -/
theorem confirmation_echoes {env : CallEnv} {request : OrderEntryRequestPayload} {sessionId : UInt64}
    {session : SessionRef} {st : EngineState} {snapshot : OrderSnapshot}
    (hs : snapshot = acceptedSnapshot env
      (buildSnapshotFromEntryRequest request sessionId session) st) (hbook : snapshot.bookType = 1) :
    Echoes (log ++ [(.newOrder env request sessionId session, confirmationEvent snapshot)])
      snapshot := by
  have hclient : clientFields snapshot = request.clientFields := by
    rw [← clientFields_entryRequest sessionId session request, hs]
    rfl
  have hentry : entryFields snapshot = request.entryFields := by
    rw [← entryFields_entryRequest sessionId session request, hs]
    rfl
  refine ⟨?_, ?_, hbook⟩
  · rw [latestAccepted_snoc]
    simp [acceptedFields, hclient]
  · rw [latestEntered_snoc]
    simp [enteredFields, hentry]

/-- A modified order, right after the confirmation of the modification. -/
theorem modification_echoes {env : CallEnv} {request : OrderUpdateRequestPayload}
    {sessionId : UInt64} {session : SessionRef} {live modified : OrderSnapshot} {r : UInt64}
    {now : ClockReading} (hlive : Echoes log live)
    (hm : modified = modifySnapshot live (updateRequestSnapshot env request sessionId session) r now) :
    Echoes (log ++ [(.modifyOrder env request sessionId session, modificationEvent modified)])
      modified := by
  have hclient : clientFields modified = request.clientFields := by
    rw [← clientFields_updateRequest sessionId session env request, hm]
    rfl
  have hkey : orderKey modified = orderKey live := by rw [hm]; rfl
  have hentry : entryFields modified = entryFields live := by rw [hm]; rfl
  refine ⟨?_, ?_, ?_⟩
  · rw [latestAccepted_snoc]
    simp [acceptedFields, hclient]
  · rw [latestEntered_snoc, hkey, hentry, hlive.entered]
    simp [enteredFields, hkey]
  · rw [hm]
    exact hlive.bookType

/-! ### Answers that accept nothing -/

/-- Events that accept nothing, the successful ones with the fields of a snapshot that echoes. -/
def Quiet (log : List Answer) (es : List EngineEvent) : Prop :=
  ∀ e ∈ es, e.isConfirmation = false ∧ e.isModification = false ∧
    (e.successful = true → ∃ o, Echoes log o ∧ SendsSame e.order o)

theorem Echoes.append {o : OrderSnapshot} {op : Op} {es : List EngineEvent} (h : Echoes log o)
    (hes : ∀ e ∈ es, e.isConfirmation = false ∧ e.isModification = false) :
    Echoes (log ++ es.map (op, ·)) o := by
  induction es generalizing log with
  | nil => simpa using h
  | cons e es ih =>
      have hnext : Echoes (log ++ [(op, e)]) o := h.snoc fun _ => hes e List.mem_cons_self
      have hrest := ih hnext fun e' he' => hes e' (List.mem_cons_of_mem _ he')
      simpa using hrest

/-- The last answer of a log, if it is a success, echoes. -/
def LastEchoes (log : List Answer) : Prop :=
  ∀ answer, log.getLast? = some answer → answer.2.successful = true → Echoes log answer.2.order

theorem lastEchoes_nil : LastEchoes [] := by
  intro answer hlast
  simp at hlast

theorem lastEchoes_snoc (h : answer.2.successful = true → Echoes (log ++ [answer]) answer.2.order) :
    LastEchoes (log ++ [answer]) := by
  intro answer' hlast hs
  rw [List.getLast?_concat, Option.some.injEq] at hlast
  subst hlast
  exact h hs

theorem Quiet.everywhere {op : Op} {es : List EngineEvent} (hq : Quiet log es)
    (hall : Everywhere LastEchoes log) : Everywhere LastEchoes (log ++ es.map (op, ·)) := by
  induction es generalizing log with
  | nil => simpa using hall
  | cons e es ih =>
      obtain ⟨hconf, hmod, hecho⟩ := hq e List.mem_cons_self
      have hlast : LastEchoes (log ++ [(op, e)]) := by
        apply lastEchoes_snoc
        intro hs
        obtain ⟨o, ho, hsame⟩ := hecho hs
        exact (ho.congr hsame).snoc fun _ => ⟨hconf, hmod⟩
      have hrest : Quiet (log ++ [(op, e)]) es := by
        intro e' he'
        obtain ⟨hconf', hmod', hecho'⟩ := hq e' (List.mem_cons_of_mem _ he')
        refine ⟨hconf', hmod', fun hs => ?_⟩
        obtain ⟨o, ho, hsame⟩ := hecho' hs
        exact ⟨o, ho.snoc fun _ => ⟨hconf, hmod⟩, hsame⟩
      simpa using ih hrest (hall.snoc hlast)

end Logs

/-! ## The invariant -/

/-- Every answer so far echoes, and every open order is a day order that does. -/
structure Echoing (log : List Answer) (st : EngineState) : Prop where
  answers : Everywhere LastEchoes log
  orders : ∀ k o, st.openOrders.find? k = some o → o.ioc = false ∧ Echoes log o

section Echoing

variable {cfg : EngineConfig} {log : List Answer} {op : Op} {st st' : EngineState}
  {es : List EngineEvent}

theorem Echoing.quiet (h : Echoing log st) (hq : Quiet log es)
    (hfind : ∀ k o, st'.openOrders.find? k = some o →
      ∃ o', st.openOrders.find? k = some o' ∧ SendsSame o o') :
    Echoing (log ++ es.map (op, ·)) st' := by
  refine ⟨hq.everywhere h.answers, fun k o ho => ?_⟩
  obtain ⟨o', ho', hsame⟩ := hfind k o ho
  obtain ⟨hday, hecho⟩ := h.orders k o' ho'
  refine ⟨?_, (hecho.congr hsame).append fun e he => ⟨(hq e he).1, (hq e he).2.1⟩⟩
  rw [← hday]
  exact congrArg Prod.snd hsame.key

/-- An order enters: its other events have its fields, and it is open afterwards or none but the orders
that were. -/
theorem Echoing.accepts (h : Echoing log st) {snapshot : OrderSnapshot} {rest : List EngineEvent}
    (hconf : Echoes (log ++ [(op, confirmationEvent snapshot)]) snapshot)
    (hrest : ∀ e ∈ rest, e.isConfirmation = false ∧ e.isModification = false ∧
      SendsSame e.order snapshot)
    (hfind : ∀ k o, st'.openOrders.find? k = some o → (o = snapshot ∧ snapshot.ioc = false) ∨
      (st.openOrders.find? k = some o ∧ orderKey snapshot ≠ orderKey o)) :
    Echoing (log ++ (confirmationEvent snapshot :: rest).map (op, ·)) st' := by
  have hlast : Everywhere LastEchoes (log ++ [(op, confirmationEvent snapshot)]) :=
    h.answers.snoc (lastEchoes_snoc fun _ => hconf)
  have hq : Quiet (log ++ [(op, confirmationEvent snapshot)]) rest := by
    intro e he
    obtain ⟨hc, hm, hsame⟩ := hrest e he
    exact ⟨hc, hm, fun _ => ⟨snapshot, hconf, hsame⟩⟩
  have hmap : log ++ (confirmationEvent snapshot :: rest).map (op, ·) =
      log ++ [(op, confirmationEvent snapshot)] ++ rest.map (op, ·) := by simp
  rw [hmap]
  refine ⟨hq.everywhere hlast, fun k o ho => ?_⟩
  have hquiet : ∀ e ∈ rest, e.isConfirmation = false ∧ e.isModification = false :=
    fun e he => ⟨(hrest e he).1, (hrest e he).2.1⟩
  rcases hfind k o ho with ⟨rfl, hday⟩ | ⟨ho', hkey⟩
  · exact ⟨hday, hconf.append hquiet⟩
  · obtain ⟨hday, hecho⟩ := h.orders k o ho'
    exact ⟨hday, (hecho.snoc fun hsame => absurd hsame hkey).append hquiet⟩

theorem Accepted.bookType {snapshot : OrderSnapshot} (ha : Accepted cfg st snapshot) :
    snapshot.bookType = 1 := by
  obtain ⟨env, request, sessionId, session, rfl, hv, -⟩ := ha
  simp only [isValidNewOrder, Bool.and_eq_true, beq_iff_eq] at hv
  exact hv.1.1.1.1.1.2

theorem sendsSame_nextFill (live : OrderSnapshot) (quantity : UInt32) (now : ClockReading) :
    SendsSame (nextFill st live quantity now) live := ⟨rfl, rfl, rfl, rfl⟩

theorem sendsSame_nextCancel (live : OrderSnapshot) (now : ClockReading) :
    SendsSame (nextCancel st live now) live := ⟨rfl, rfl, rfl, rfl⟩

theorem SendsSame.refl (o : OrderSnapshot) : SendsSame o o := ⟨rfl, rfl, rfl, rfl⟩

theorem SendsSame.trans {o o' o'' : OrderSnapshot} (h : SendsSame o o') (h' : SendsSame o' o'') :
    SendsSame o o'' :=
  ⟨h.key.trans h'.key, h.client.trans h'.client, h.entry.trans h'.entry,
    h.bookType.trans h'.bookType⟩

/-- An event of an open order that accepts nothing. -/
theorem Echoing.quiet_event (h : Echoing log st) {e : EngineEvent} {live : OrderSnapshot}
    (hlive : st.openOrders.find? live.exchangeOrderNumber = some live)
    (hkind : e.isConfirmation = false ∧ e.isModification = false) (hsame : SendsSame e.order live) :
    Quiet log [e] := by
  intro e' he'
  rw [List.mem_singleton.mp he']
  exact ⟨hkind.1, hkind.2, fun _ => ⟨live, (h.orders _ live hlive).2, hsame⟩⟩

theorem accepted_echoes {snapshot : OrderSnapshot} (ha : Accepted cfg st snapshot)
    (hl : Label.accept snapshot = .other ∨ Label.accept snapshot = label cfg st op) :
    Echoes (log ++ [(op, confirmationEvent snapshot)]) snapshot := by
  rcases hl with hl | hl
  · cases hl
  · obtain ⟨env, request, sessionId, session, rfl, hs⟩ := label_eq_accept hl.symm
    exact confirmation_echoes hs (Accepted.bookType ha)

/-- An IOC order has the fields of no open order, and leaves the open orders alone. -/
theorem Echoing.enters_ioc (h : Echoing log st) {snapshot : OrderSnapshot}
    (hioc : snapshot.ioc = true) (hopen : st'.openOrders = st.openOrders) (k : UInt64)
    (o : OrderSnapshot) (ho : st'.openOrders.find? k = some o) :
    (o = snapshot ∧ snapshot.ioc = false) ∨
      (st.openOrders.find? k = some o ∧ orderKey snapshot ≠ orderKey o) := by
  rw [hopen] at ho
  refine .inr ⟨ho, fun hkey => ?_⟩
  have hsame : snapshot.ioc = o.ioc := congrArg Prod.snd hkey
  rw [hioc, (h.orders k o ho).1] at hsame
  cases hsame

/-- An order under another number has another key. -/
theorem orderKey_ne {k : UInt64} {o order : OrderSnapshot} (ho : st.openOrders.find? k = some o)
    (hne : ¬ k = order.exchangeOrderNumber) : orderKey order ≠ orderKey o := by
  intro hkey
  apply hne
  rw [← OrderStore.find?_number ho]
  exact (congrArg Prod.fst hkey).symm

/-- An open order is modified for the call. -/
theorem Echoing.modifies (he : Echoing log st) {request live modified : OrderSnapshot}
    {now : ClockReading} (hm : Modifies st request live)
    (hmodified : modified = modifySnapshot live request st.nextLastActivityReference now)
    (hl : Label.modify request = .other ∨ Label.modify request = label cfg st op) :
    Echoing (log ++ [modificationEvent modified].map (op, ·))
      { drawReference st with openOrders := st.openOrders.put modified } := by
  obtain ⟨hday, hlive⟩ := he.orders _ live hm.live
  have hlast : Echoes (log ++ [(op, modificationEvent modified)]) modified := by
    rcases hl with hl | hl
    · cases hl
    · obtain ⟨env, wire, sessionId, session, rfl, rfl⟩ := label_eq_modify hl.symm
      exact modification_echoes hlive hmodified
  refine ⟨he.answers.snoc (lastEchoes_snoc fun _ => hlast), fun k o ho => ?_⟩
  rw [OrderStore.find?_put] at ho
  split at ho
  · cases ho
    refine ⟨?_, hlast⟩
    rw [hmodified]
    exact hday
  · rename_i hne
    obtain ⟨hday', hecho⟩ := he.orders k o ho
    exact ⟨hday', hecho.snoc fun hkey => absurd hkey (orderKey_ne ho hne)⟩

/-- What an act done for the call, or for none, keeps. -/
theorem Echoing.act {h : List EngineEvent} {l : Label} (he : Echoing log st)
    (hc : Counted cfg h st) (hl : l = .other ∨ l = label cfg st op) (ha : Act cfg l st es st') :
    Echoing (log ++ es.map (op, ·)) st' := by
  cases ha with
  | @reject _ e herr =>
      apply he.quiet
      · intro e' he'
        rw [List.mem_singleton.mp he', (failed_kind herr).2.1, (failed_kind herr).2.2.1,
          (failed_kind herr).1]
        exact ⟨rfl, rfl, nofun⟩
      · intro k o ho
        exact ⟨o, ho, .refl o⟩
  | market books hkeep =>
      exact he.quiet (by simp [Quiet]) fun k o ho => ⟨o, ho, .refl o⟩
  | @enterImmediate _ snapshot _ filled now hacc hmd hs hf =>
      subst hs hf
      apply he.accepts (accepted_echoes hacc hl)
      · intro e hmem
        rw [List.mem_singleton.mp hmem]
        exact ⟨rfl, rfl, sendsSame_nextFill _ _ _⟩
      · intro k o ho
        simp only [drawFillNumbers, acceptedState_openOrders, hc.dark hmd k] at ho
        cases ho
  | @enterDay _ snapshot _ hacc hmd hday hs =>
      subst hs
      apply he.accepts (accepted_echoes hacc hl) (by simp)
      intro k o ho
      simp only [storeOpenOrderLocked, acceptedState_openOrders, OrderStore.find?_put] at ho
      split at ho
      · cases ho
        exact .inl ⟨rfl, hday⟩
      · rename_i hne
        exact .inr ⟨ho, orderKey_ne ho hne⟩
  | enterIocUnfilled now hacc hmd hioc hs =>
      subst hs
      apply he.accepts (accepted_echoes hacc hl)
      · intro e hmem
        rw [List.mem_singleton.mp hmem]
        exact ⟨rfl, rfl, sendsSame_nextCancel _ _⟩
      · exact he.enters_ioc hioc (acceptedState_openOrders cfg st _)
  | enterIocFilled now hacc hmd hioc hs htop hpos hle hf hrest =>
      subst hs hf
      apply he.accepts (accepted_echoes hacc hl)
      · intro e hmem
        rw [List.mem_singleton.mp hmem]
        exact ⟨rfl, rfl, sendsSame_nextFill _ _ _⟩
      · exact he.enters_ioc hioc (acceptedState_openOrders cfg st _)
  | enterIocPartial now now' hacc hmd hioc hs htop hpos hle hf hrest =>
      subst hs hf
      apply he.accepts (accepted_echoes hacc hl)
      · intro e hmem
        rcases List.mem_pair.mp hmem with rfl | rfl
        · exact ⟨rfl, rfl, sendsSame_nextFill _ _ _⟩
        · exact ⟨rfl, rfl, (sendsSame_nextCancel _ _).trans (sendsSame_nextFill _ _ _)⟩
      · exact he.enters_ioc hioc (acceptedState_openOrders cfg st _)
  | modify now hm hmodified => exact he.modifies hm hmodified hl
  | @fill _ live filled price quantity token now hlive hpos hle htoken htop hf =>
      subst hf
      have hopen : st.openOrders.find? (nextFill st live quantity now).exchangeOrderNumber =
          some live := hlive
      apply he.quiet (he.quiet_event hlive ⟨rfl, rfl⟩ (sendsSame_nextFill live quantity now))
      intro k o ho
      rw [afterFill_find? hopen] at ho
      split at ho
      · rename_i hk
        split at ho
        · cases ho
        · cases ho
          rw [hk]
          exact ⟨live, hopen, sendsSame_nextFill live quantity now⟩
      · exact ⟨o, ho, .refl o⟩
  | cancel now hlive =>
      apply he.quiet (he.quiet_event hlive ⟨rfl, rfl⟩ (sendsSame_nextCancel _ now))
      intro k o ho
      rw [eraseOpenOrderLocked_find? rfl] at ho
      split at ho
      · cases ho
      · exact ⟨o, ho, .refl o⟩
  | drop arg hlive harg =>
      apply he.quiet (by simp [Quiet])
      intro k o ho
      rw [eraseOpenOrderLocked_find? harg] at ho
      split at ho
      · cases ho
      · exact ⟨o, ho, .refl o⟩

/-! ## Runs -/

theorem Echoing.call {h : List EngineEvent} (he : Echoing log st) (hc : Counted cfg h st)
    (op : Op) :
    Echoing (log ++ (engine cfg st op).1.map (op, ·)) (engine cfg st op).2 ∧
      Counted cfg (h ++ (engine cfg st op).1) (engine cfg st op).2 := by
  have hsteps : Steps (ActWith cfg fun _ st l => l = .other ∨ l = label cfg st op) (h, st)
      (h ++ (engine cfg st op).1, (engine cfg st op).2) :=
    engine_steps (fun _ _ => .inl rfl) op (.inr rfl)
  -- the events of the call so far, each logged with the call
  have hkeeps := hsteps.invariant
    (P := fun h' st' => ∃ es, h' = h ++ es ∧ Echoing (log ++ es.map (op, ·)) st' ∧
      Counted cfg h' st') ?_ ⟨[], by simp, by simpa using he, hc⟩
  · obtain ⟨es, hes, hecho, hcounted⟩ := hkeeps
    have hsame : (engine cfg st op).1 = es := List.append_cancel_left hes
    rw [hsame] at hcounted ⊢
    exact ⟨hecho, hcounted⟩
  · rintro h' st' es' st'' ⟨es, rfl, hecho, hcounted⟩ ⟨l, hact, hl⟩
    refine ⟨es ++ es', by simp, ?_, hcounted.act hact⟩
    have hnext := hecho.act hcounted hl hact
    simpa using hnext

theorem logged_echoing (r : Run (loggedEngine cfg) anyCall cfg.init log st) :
    Echoing log st ∧ Counted cfg (log.map Prod.snd) st := by
  refine r.invariant (P := fun log st => Echoing log st ∧ Counted cfg (log.map Prod.snd) st) ?_ ?_
  · refine ⟨⟨everywhere_nil lastEchoes_nil, fun k o ho => ?_⟩, .init cfg⟩
    simp [EngineConfig.init] at ho
  · intro log st op _ ih _
    have hcall := ih.1.call ih.2 op
    rw [loggedEngine]
    refine ⟨hcall.1, ?_⟩
    have hlog : (log ++ (engine cfg st op).1.map (op, ·)).map Prod.snd =
        log.map Prod.snd ++ (engine cfg st op).1 := by simp
    rw [hlog]
    exact hcall.2

end Echoing

/-- In every run, the response to a successful event carries the client's fields as they stand in the
latest accepted request for the order, its entry or its last confirmed modification, and the fields of
its entry. -/
theorem events_echo_latest_request {cfg : EngineConfig} {log : List Answer} {st : EngineState}
    (r : Run (loggedEngine cfg) anyCall cfg.init log st) {before : List Answer} {answer : Answer}
    (hat : before ++ [answer] <+: log) (hs : answer.2.successful = true) :
    ∃ client entry,
      latestAccepted (orderKey answer.2.order) (before ++ [answer]) = some client ∧
        latestEntered (orderKey answer.2.order) (before ++ [answer]) = some entry ∧
        (responseTo cfg.config answer.2).Carries client entry := by
  have hecho : Echoes (before ++ [answer]) answer.2.order :=
    (logged_echoing r).1.answers _ hat answer List.getLast?_concat hs
  exact ⟨_, _, hecho.latest, hecho.entered, responseTo_carries cfg.config answer.2 hecho.bookType⟩

/-- The trade of a resting order, whose price was changed by a modification. -/
def repricedRun : List Op :=
  restingRun ++
    [.modifyOrder calm (modifyRequest (uint64ToDouble 200000) 654321 1 20 20 0 1001) 1 1, offer]

theorem events_echo_latest_request_repriced :
    ∃ answer, (exec (loggedEngine bookMatching) bookMatching.init repricedRun).1.getLast? =
        some answer ∧ answer.2.isTrade = true ∧
      ∃ client entry,
        latestAccepted (orderKey answer.2.order)
            (exec (loggedEngine bookMatching) bookMatching.init repricedRun).1 = some client ∧
          latestEntered (orderKey answer.2.order)
            (exec (loggedEngine bookMatching) bookMatching.init repricedRun).1 = some entry ∧
          (responseTo bookMatching.config answer.2).Carries client entry := by
  have htrade : ((exec (loggedEngine bookMatching) bookMatching.init repricedRun).1.getLast?.map
      (·.2.isTrade)) = some true := by decide +kernel
  have hrun := run_exec (loggedEngine bookMatching) bookMatching.init repricedRun
  generalize (exec (loggedEngine bookMatching) bookMatching.init repricedRun).1 = log at htrade hrun
  obtain ⟨answer, hlast, hkind⟩ := Option.map_eq_some_iff.mp htrade
  obtain ⟨before, rfl⟩ := List.getLast?_eq_some_iff.mp hlast
  have hs : answer.2.successful = true := (Bool.and_eq_true _ _ ▸ hkind : _ ∧ _).1
  exact ⟨answer, hlast, hkind, events_echo_latest_request hrun (List.prefix_refl _) hs⟩

end NseFoExchangeSim.Server
