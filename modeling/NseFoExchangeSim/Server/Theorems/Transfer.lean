import NseFoExchangeSim.Server.Lemmas.Arrival

/-!
# Nothing is lost or damaged

In each direction the one end has read what the other has sent, up to the payloads whose bytes are still
between them, however the bytes are cut and delayed, and across the change to encrypted frames.
-/

namespace NseFoExchangeSim.Server

open Lib Protocol Engine

/-! ## What a world keeps -/

/-- The client's channel, for what it is going to send next. -/
def World.sender (ctx : SessionContext) (w : World) : Channel :=
  if w.stage = .fresh then w.client else secured ctx w.client

/-- A session that has not answered the registration has sent nothing, and one that has, has sent the
answer first. -/
def AnsweredFirst (encrypted : Bool) (messages : List Message) : Prop :=
  match messages with
  | [] => encrypted = false
  | message :: _ =>
      encrypted = true ∧ txnCodeOf message.bytes = kTxnSecureBoxRegistrationResponse

/-- What holds of the session. -/
structure ServerSafe (h : List WorldEvent) (w : World) : Prop where
  open_ : w.server.connection.closed = w.server.ended
  able : w.server.connection.toChannel.Able
  phase : w.server.connection.encryptionEnabled =
    decide (w.server.connection.phase ≠ .awaitSecureBoxRegistration)
  answered : AnsweredFirst w.server.connection.encryptionEnabled (sentMessages (sessionDone h))
  arrived : Arriving (w.server.input ++ w.upArrived)
  owed : w.owed ≠ [] → w.server.connection.phase = .ready ∧ w.server.ended = false

/-- What holds of the client. -/
structure ClientSafe (h : List WorldEvent) (w : World) : Prop where
  able : w.client.Able
  clear : w.stage = .fresh ∨ w.stage = .registering →
    w.client.encryptionEnabled = false ∧ clientReceived h = []
  secure : w.stage = .secure → w.client.encryptionEnabled = true
  fresh : w.stage = .fresh →
    clientSent h = [] ∧ w.server.connection.encryptionEnabled = false
  arrived : Arriving w.downArrived

/-- What holds of the payloads on their way up. -/
def UpSafe (ctx : SessionContext) (h : List WorldEvent) (w : World) : Prop :=
  ∃ items, clientSent h = receivedPayloads (sessionDone h) ++ items ∧
    (∀ payload ∈ items, payload.length ≤ kMaxSessionPayload) ∧
      (w.server.ended = false →
        Link (sendSecuring ctx) Channel.Together (w.sender ctx).outgoing
          w.server.connection.toChannel items
            ((w.server.input ++ w.upArrived).flatten ++ w.up))

/-- What holds of the messages on their way down. -/
def DownSafe (ctx : SessionContext) (h : List WorldEvent) (w : World) : Prop :=
  ∃ items, (sentMessages (sessionDone h)).map Message.bytes = clientReceived h ++ items ∧
    Link (sendSecuring ctx) Channel.Together w.server.connection.toChannel.outgoing w.client items
      (w.downArrived.flatten ++ w.down)

/-- A session ends with a payload that violates its phase. -/
def EndSafe (ctx : SessionContext) (h : List WorldEvent) (w : World) : Prop :=
  w.server.ended = true → ∃ earlier payload,
    receivedPayloads (sessionDone h) = earlier ++ [payload] ∧ Violates ctx.ticket earlier payload

/-- A client fails when it asks for a payload of another size than the next one has. -/
def FailSafe (h : List WorldEvent) (w : World) : Prop :=
  ∀ size error, .failed size error ∈ h → error = "unexpected payload size" ∧
    w.stage = .failed error ∧ ∃ message, clientReceived h ++ [message] <+:
      (sentMessages (sessionDone h)).map Message.bytes ∧ message.length ≠ size

structure Safe (ctx : SessionContext) (h : List WorldEvent) (w : World) : Prop where
  server : ServerSafe h w
  client : ClientSafe h w
  up : UpSafe ctx h w
  down : DownSafe ctx h w
  ended : EndSafe ctx h w
  failed : FailSafe h w

section Steps

variable {ctx : SessionContext} {h : List WorldEvent} {w : World}

/-! ## The client's steps -/

/-- A client that goes on has not failed. -/
theorem FailSafe.running (hf : FailSafe h w) (hstage : ∀ error, w.stage ≠ .failed error)
    {es : List WorldEvent} {w' : World} (hes : ∀ size error, .failed size error ∉ es) :
    FailSafe (h ++ es) w' := by
  intro size error hmem
  rcases List.mem_append.mp hmem with hmem | hmem
  · exact absurd (hf size error hmem).2.1 (hstage error)
  · exact absurd hmem (hes size error)

theorem Safe.clientSend (hs : Safe ctx h w) {stage : ClientStage} {payload : List UInt8}
    (hstage : w.stage = .fresh ∧ stage = .registering ∨ w.stage = .secure ∧ stage = .secure)
    (hsize : payload.length ≤ kMaxSessionPayload) :
    Safe ctx (h ++ (clientSend ctx payload { w with stage := stage }).1)
      (clientSend ctx payload { w with stage := stage }).2 := by
  obtain ⟨frame, client, hsent, hable⟩ :=
    @Channel.sendPayload_of_able ctx.prims _ payload hs.client.able
  have henabled : client.encryptionEnabled = w.client.encryptionEnabled := sendPayload_enabled hsent
  have hnotFresh : stage ≠ .fresh := by
    rcases hstage with ⟨-, rfl⟩ | ⟨-, rfl⟩
    · decide
    · decide
  have hsender : w.sender ctx = w.client := by
    rcases hstage with ⟨hfresh, -⟩ | ⟨hsecure, -⟩
    · rw [World.sender, if_pos hfresh]
    · rw [World.sender, if_neg (by simp [hsecure]), secured_of_enabled (hs.client.secure hsecure)]
  rw [Server.clientSend, hsent]
  refine ⟨⟨hs.server.open_, hs.server.able, hs.server.phase, ?_, hs.server.arrived,
    hs.server.owed⟩,
    ⟨hable, fun hclear => ?_, fun hsecure => ?_, fun hfresh => absurd hfresh hnotFresh,
      hs.client.arrived⟩, ?_, ?_, ?_, ?_⟩
  · simpa using hs.server.answered
  · rcases hstage with ⟨hfresh, -⟩ | ⟨-, rfl⟩
    · obtain ⟨hclear', hnone⟩ := hs.client.clear (.inl hfresh)
      exact ⟨henabled.trans hclear', by simpa using hnone⟩
    · simp at hclear
  · rcases hstage with ⟨-, rfl⟩ | ⟨hsecure', -⟩
    · cases hsecure
    · exact henabled.trans (hs.client.secure hsecure')
  · obtain ⟨items, hitems, hsizes, hlink⟩ := hs.up
    refine ⟨items ++ [payload], by simp [hitems], ?_, fun hrunning => ?_⟩
    · intro p hp
      rcases List.mem_append.mp hp with hp | hp
      · exact hsizes p hp
      · rw [List.mem_singleton.mp hp]
        exact hsize
    · rw [← List.append_assoc]
      refine (hlink hrunning).append ?_
      rw [hsender, World.sender, if_neg hnotFresh]
      exact sendAll_securing_one (sendPayloads_one hsent)
  · obtain ⟨items, hitems, hlink⟩ := hs.down
    refine ⟨items, by simpa using hitems, hlink.of_receiver fun s htogether => ⟨?_, ?_⟩⟩
    · exact henabled.trans htogether.encryption
    · exact (sendPayload_inbound hsent).trans htogether.crypto
  · simpa [EndSafe] using hs.ended
  · refine hs.failed.running (fun error => ?_) (by simp)
    rcases hstage with ⟨hstage, -⟩ | ⟨hstage, -⟩
    · simp [hstage]
    · simp [hstage]

/-- Every message has the size of a payload. -/
theorem Message.length_bytes_le (message : Message) : message.bytes.length ≤ kMaxSessionPayload := by
  cases message with
  | secureBoxRegistrationResponse header =>
      rw [Message.bytes, MessageHeader.length_bytes]
      decide
  | boxSignOnResponse payload =>
      rw [Message.bytes, BoxSignOnResponsePayload.length_bytes]
      decide
  | logonResponse payload =>
      rw [Message.bytes, SignOnOutPayload.length_bytes]
      decide
  | systemInfoResponse payload =>
      rw [Message.bytes, SystemInfoResponsePayload.length_bytes]
      decide
  | simpleHeaderResponse header =>
      rw [Message.bytes, MessageHeader.length_bytes]
      decide
  | event response =>
      cases response with
      | trade payload =>
          rw [Message.bytes, Response.bytes, TradeConfirmationPayload.length_bytes]
          decide
      | order payload =>
          rw [Message.bytes, Response.bytes, OrderConfirmationPayload.length_bytes]
          decide

/-- What a client can come to that tries to receive. -/
inductive Receives (ctx : SessionContext) (h : List WorldEvent) (w : World) (size : Nat) :
    Except String (List UInt8 × Channel × List (List UInt8)) → Prop
  | waits (hlater : clientReceived h ≠ (sentMessages (sessionDone h)).map Message.bytes →
      w.down ≠ []) : Receives ctx h w size (.error "socket read failed")
  | refuses {message} (hnext : clientReceived h ++ [message] <+:
      (sentMessages (sessionDone h)).map Message.bytes) (hlength : message.length ≠ size) :
      Receives ctx h w size (.error "unexpected payload size")
  | reads {payload items middle chunks} (hchunks : Arriving chunks)
      (hitems : (sentMessages (sessionDone h)).map Message.bytes =
        clientReceived h ++ payload :: items)
      (henabled : middle.encryptionEnabled = w.client.encryptionEnabled)
      (hlink : ∀ receiver, Channel.Together (secured ctx middle).outgoing receiver →
        Link (sendSecuring ctx) Channel.Together w.server.connection.toChannel.outgoing receiver
          items (chunks.flatten ++ w.down)) :
      Receives ctx h w size (.ok (payload, w.client.follow middle, chunks))

theorem eq_nil_of_flatten {chunks : List (List UInt8)} (hchunks : Arriving chunks)
    (hnone : chunks.flatten = []) : chunks = [] := by
  cases chunks with
  | nil => rfl
  | cons chunk chunks =>
      rw [List.flatten_cons, List.append_eq_nil_iff] at hnone
      exact absurd hnone.1 (hchunks chunk List.mem_cons_self)

theorem Safe.receives (hs : Safe ctx h w) (size : Nat) :
    Receives ctx h w size (w.client.receiveSized ctx.prims size w.downArrived) := by
  obtain ⟨items, hitems, hlink⟩ := hs.down
  cases items with
  | nil =>
      -- nothing is on the way
      have hnone := (List.append_eq_nil_iff.mp hlink.of_nil.2).1
      rw [eq_nil_of_flatten hs.client.arrived hnone]
      exact .waits fun hless => absurd (hitems.trans (List.append_nil _)).symm hless
  | cons payload items =>
      obtain ⟨s, frame, s', rest, htogether, hsecuring, hwire, hmore⟩ := hlink.next
      obtain ⟨middle, hsent, rfl⟩ := of_sendSecuring hsecuring
      have hsize : payload.length ≤ kMaxSessionPayload := by
        have hmem : payload ∈ (sentMessages (sessionDone h)).map Message.bytes := by
          rw [hitems]
          simp
        obtain ⟨message, -, rfl⟩ := List.mem_map.mp hmem
        exact message.length_bytes_le
      rcases Channel.receiveSized_arrived htogether hsent hsize hs.client.arrived hwire with
        ⟨hwaits, hlater⟩ | ⟨hrefuses, hlength⟩ | ⟨chunks, hreads, hrest, hchunks⟩
      · rw [hwaits]
        exact .waits fun _ => hlater
      · rw [hrefuses]
        refine .refuses ?_ hlength
        exact ⟨items, by simp [hitems]⟩
      · rw [hreads]
        refine .reads hchunks hitems ((sendPayload_enabled hsent).trans htogether.encryption.symm) ?_
        intro receiver hreceiver
        rw [hrest]
        exact hmore receiver hreceiver

theorem Safe.same (hs : Safe ctx h w) : Safe ctx (h ++ []) w := by
  rw [List.append_nil]
  exact hs

/-- Receiving does not change what a channel is going to send. -/
theorem secured_follow {channel middle : Channel} :
    (secured ctx (channel.follow middle)).outgoing = (secured ctx channel).outgoing := by
  cases hchannel : channel.encryptionEnabled with
  | true =>
      rw [secured_of_enabled hchannel,
        secured_of_enabled (show (channel.follow middle).encryptionEnabled = true from hchannel)]
      rfl
  | false =>
      rw [secured_of_clear hchannel,
        secured_of_clear (show (channel.follow middle).encryptionEnabled = false from hchannel)]
      rfl

/-- An exception ends a client that asked for another size. -/
theorem Safe.refused (hs : Safe ctx h w) {size : Nat} {message : List UInt8}
    (hnext : clientReceived h ++ [message] <+: (sentMessages (sessionDone h)).map Message.bytes)
    (hlength : message.length ≠ size) (hnotFresh : w.stage ≠ .fresh)
    (hstage : ∀ error, w.stage ≠ .failed error) :
    Safe ctx (h ++ [.failed size "unexpected payload size"])
      { w with stage := .failed "unexpected payload size" } := by
  refine ⟨⟨hs.server.open_, hs.server.able, hs.server.phase, ?_, hs.server.arrived,
    hs.server.owed⟩,
    ⟨hs.client.able, by simp, nofun, nofun, hs.client.arrived⟩, ?_, ?_, ?_, ?_⟩
  · simpa using hs.server.answered
  · obtain ⟨items, hitems, hsizes, hlink⟩ := hs.up
    refine ⟨items, by simpa using hitems, hsizes, fun hrunning => ?_⟩
    have hsender : World.sender ctx { w with stage := .failed "unexpected payload size" } =
        w.sender ctx := by
      rw [World.sender, World.sender, if_neg nofun, if_neg hnotFresh]
    rw [hsender]
    exact hlink hrunning
  · obtain ⟨items, hitems, hlink⟩ := hs.down
    exact ⟨items, by simpa using hitems, hlink⟩
  · simpa [EndSafe] using hs.ended
  · intro asked error hmem
    rcases List.mem_append.mp hmem with hmem | hmem
    · exact absurd (hs.failed asked error hmem).2.1 (hstage error)
    · cases List.mem_singleton.mp hmem
      exact ⟨rfl, rfl, message, by simpa using hnext, hlength⟩

/-- The client has read a message, and secured its channel if that was the answer to its
registration. -/
theorem Safe.read (hs : Safe ctx h w) {payload : List UInt8} {items : List (List UInt8)}
    {middle : Channel} {chunks : List (List UInt8)} (hchunks : Arriving chunks)
    (hitems : (sentMessages (sessionDone h)).map Message.bytes =
      clientReceived h ++ payload :: items)
    (henabled : middle.encryptionEnabled = w.client.encryptionEnabled)
    (hlink : ∀ receiver, Channel.Together (secured ctx middle).outgoing receiver →
      Link (sendSecuring ctx) Channel.Together w.server.connection.toChannel.outgoing receiver
        items (chunks.flatten ++ w.down))
    (hstage : w.stage = .registering ∨ w.stage = .secure) :
    Safe ctx (h ++ [.received payload])
      { w with
        client := secured ctx (w.client.follow middle)
        stage := .secure
        downArrived := chunks } := by
  have hnotFresh : w.stage ≠ .fresh := by
    rcases hstage with hstage | hstage
    · simp [hstage]
    · simp [hstage]
  refine ⟨⟨hs.server.open_, hs.server.able, hs.server.phase, ?_, hs.server.arrived,
    hs.server.owed⟩,
    ⟨secured_able hs.client.able, by simp, fun _ => secured_enabled, nofun, hchunks⟩,
      ?_, ?_, ?_, ?_⟩
  · simpa using hs.server.answered
  · obtain ⟨sent, hsent, hsizes, hup⟩ := hs.up
    refine ⟨sent, by simpa using hsent, hsizes, fun hrunning => ?_⟩
    have hsender : (World.sender ctx
        { w with
          client := secured ctx (w.client.follow middle)
          stage := .secure
          downArrived := chunks }).outgoing = (w.sender ctx).outgoing := by
      rw [World.sender, World.sender, if_neg nofun, if_neg hnotFresh,
        secured_of_enabled secured_enabled, secured_follow]
    rw [hsender]
    exact hup hrunning
  · refine ⟨items, by simpa using hitems, hlink _ ⟨?_, ?_⟩⟩
    · exact secured_enabled.trans secured_enabled.symm
    · cases hclient : w.client.encryptionEnabled with
      | true =>
          rw [secured_of_enabled (henabled.trans hclient)]
          exact congrArg Channel.inboundCrypto
            (secured_of_enabled (show (w.client.follow middle).encryptionEnabled = true from hclient))
      | false =>
          rw [secured_of_clear (henabled.trans hclient)]
          exact congrArg Channel.inboundCrypto
            (secured_of_clear (show (w.client.follow middle).encryptionEnabled = false from hclient))
  · simpa [EndSafe] using hs.ended
  · refine hs.failed.running (fun error => ?_) (by simp)
    rcases hstage with hstage | hstage
    · simp [hstage]
    · simp [hstage]

/-- Nothing has been sent to a client that has sent nothing. -/
theorem Safe.silent (hs : Safe ctx h w) (hfresh : w.stage = .fresh) :
    sentMessages (sessionDone h) = [] := by
  have hanswered := hs.server.answered
  rw [(hs.client.fresh hfresh).2] at hanswered
  cases hmessages : sentMessages (sessionDone h) with
  | nil => rfl
  | cons message messages =>
      rw [hmessages] at hanswered
      cases hanswered.1

/-- The first message that a client reads answers its registration. -/
theorem Safe.firstCode (hs : Safe ctx h w) (hregistering : w.stage = .registering)
    {payload : List UInt8} {items : List (List UInt8)}
    (hitems : (sentMessages (sessionDone h)).map Message.bytes =
      clientReceived h ++ payload :: items) :
    txnCodeOf payload = kTxnSecureBoxRegistrationResponse := by
  have hanswered := hs.server.answered
  rw [(hs.client.clear (.inr hregistering)).2] at hitems
  cases hmessages : sentMessages (sessionDone h) with
  | nil =>
      rw [hmessages] at hitems
      cases hitems
  | cons message messages =>
      rw [hmessages] at hanswered hitems
      cases hitems
      exact hanswered.2

theorem Safe.clientReceive (hs : Safe ctx h w) (size : Nat) :
    Safe ctx (h ++ (clientReceive ctx size w).1) (clientReceive ctx size w).2 := by
  have hreceives := hs.receives size
  rw [Server.clientReceive]
  generalize w.client.receiveSized ctx.prims size w.downArrived = outcome at hreceives ⊢
  cases hstage : w.stage with
  | failed error => exact hs.same
  | fresh =>
      have hsilent := hs.silent hstage
      cases hreceives with
      | waits hlater => exact hs.same
      | refuses hnext hlength =>
          rw [hsilent] at hnext
          simp at hnext
      | reads hchunks hitems henabled hlink =>
          rw [hsilent] at hitems
          simp at hitems
  | registering =>
      cases hreceives with
      | waits hlater => exact hs.same
      | refuses hnext hlength =>
          exact hs.refused hnext hlength (by simp [hstage]) (by simp [hstage])
      | @reads payload items middle chunks hchunks hitems henabled hlink =>
          have hcode := hs.firstCode hstage hitems
          have hread := hs.read hchunks hitems henabled hlink (.inl hstage)
          have hclear : (w.client.follow middle).encryptionEnabled = false :=
            (hs.client.clear (.inr hstage)).1
          simp only [clientAccept]
          rw [if_neg (by simp [hcode])]
          rw [secured_of_clear hclear] at hread
          exact hread
  | secure =>
      cases hreceives with
      | waits hlater => exact hs.same
      | refuses hnext hlength =>
          exact hs.refused hnext hlength (by simp [hstage]) (by simp [hstage])
      | @reads payload items middle chunks hchunks hitems henabled hlink =>
          have hread := hs.read hchunks hitems henabled hlink (.inr hstage)
          have henabled' : (w.client.follow middle).encryptionEnabled = true :=
            hs.client.secure hstage
          simp only [clientAccept]
          rw [secured_of_enabled henabled'] at hread
          exact hread

/-! ## The network's steps -/

theorem flatten_arrive {arrived : List (List UInt8)} {bytes : List UInt8} :
    (arrive arrived bytes).flatten = arrived.flatten ++ bytes := by
  rw [arrive]
  split
  · rename_i hnone
    rw [hnone, List.append_nil]
  · rw [List.flatten_concat]

theorem Arriving.arrive {arrived : List (List UInt8)} {bytes : List UInt8}
    (harrived : Arriving arrived) : Arriving (arrive arrived bytes) := by
  rw [Server.arrive]
  split
  · exact harrived
  · rename_i hsome
    intro chunk hchunk
    rcases List.mem_append.mp hchunk with hchunk | hchunk
    · exact harrived chunk hchunk
    · rw [List.mem_singleton.mp hchunk]
      exact hsome

theorem arriving_append {chunks chunks' : List (List UInt8)} :
    Arriving (chunks ++ chunks') ↔ Arriving chunks ∧ Arriving chunks' :=
  List.forall_mem_append

theorem Safe.deliverUp (hs : Safe ctx h w) (count : Nat) :
    Safe ctx (h ++ [])
      { w with up := w.up.drop count, upArrived := arrive w.upArrived (w.up.take count) } := by
  obtain ⟨hinput, hup⟩ := arriving_append.mp hs.server.arrived
  have hs' := hs.same
  refine ⟨⟨hs.server.open_, hs.server.able, hs.server.phase, hs'.server.answered,
    arriving_append.mpr ⟨hinput, hup.arrive⟩, hs.server.owed⟩, ⟨hs.client.able, hs'.client.clear,
      hs.client.secure, hs'.client.fresh, hs.client.arrived⟩, ?_, hs'.down, hs'.ended, hs'.failed⟩
  obtain ⟨items, hitems, hsizes, hlink⟩ := hs'.up
  refine ⟨items, hitems, hsizes, fun hrunning => ?_⟩
  have hwire : (w.server.input ++ arrive w.upArrived (w.up.take count)).flatten ++ w.up.drop count =
      (w.server.input ++ w.upArrived).flatten ++ w.up := by
    rw [List.flatten_append, flatten_arrive, List.flatten_append, List.append_assoc,
      List.append_assoc, List.append_assoc, List.take_append_drop]
  rw [hwire]
  exact hlink hrunning

theorem Safe.deliverDown (hs : Safe ctx h w) (count : Nat) :
    Safe ctx (h ++ [])
      { w with
        down := w.down.drop count
        downArrived := arrive w.downArrived (w.down.take count) } := by
  have hs' := hs.same
  refine ⟨⟨hs.server.open_, hs.server.able, hs.server.phase, hs'.server.answered,
    hs.server.arrived, hs.server.owed⟩, ⟨hs.client.able, hs'.client.clear, hs.client.secure,
      hs'.client.fresh,
      hs.client.arrived.arrive⟩, hs'.up, ?_, hs'.ended, hs'.failed⟩
  obtain ⟨items, hitems, hlink⟩ := hs'.down
  refine ⟨items, hitems, ?_⟩
  have hwire : (arrive w.downArrived (w.down.take count)).flatten ++ w.down.drop count =
      w.downArrived.flatten ++ w.down := by
    rw [flatten_arrive, List.append_assoc, List.take_append_drop]
  rw [hwire]
  exact hlink

/-! ## The session's steps -/

theorem writtenBytes_of_ok {channel channel' : Channel} {done : List SessionEvent}
    {wire : List UInt8}
    (hwire : channel.sendPayloads ctx.prims ((sentMessages done).map Message.bytes) =
      .ok (wire, channel')) : writtenBytes ctx channel done = wire := by
  rw [writtenBytes, hwire]

/-- A message does not come before the answer to the registration. -/
theorem AnsweredFirst.append {messages more : List Message} {encrypted : Bool}
    (hanswered : AnsweredFirst encrypted messages) (hmore : more = [] ∨ encrypted = true) :
    AnsweredFirst encrypted (messages ++ more) := by
  cases messages with
  | nil =>
      rcases hmore with rfl | hencrypted
      · exact hanswered
      · rw [hencrypted] at hanswered
        cases hanswered
  | cons message messages => exact hanswered

/-- The failures stay what they are when the session sends more. -/
theorem FailSafe.server {done : List SessionEvent} {w' : World} (hf : FailSafe h w)
    (hstage : w'.stage = w.stage) : FailSafe (h ++ done.map .server) w' := by
  intro size error hmem
  rcases List.mem_append.mp hmem with hmem | hmem
  · obtain ⟨herror, hfailed, message, hprefix, hlength⟩ := hf size error hmem
    refine ⟨herror, hstage.trans hfailed, message, ?_, hlength⟩
    simp only [clientReceived_append, clientReceived_server, List.append_nil, sessionDone_append,
      sessionDone_server, sentMessages_append, List.map_append]
    exact hprefix.trans (List.prefix_append _ _)
  · obtain ⟨e, -, he⟩ := List.mem_map.mp hmem
    cases he

/-- A session that reads nothing sends some messages, and has no more left to dispatch. -/
theorem Safe.wrote (hs : Safe ctx h w) {done : List SessionEvent} {t : SessionState}
    {owed : List EngineEvent} (howed : owed ≠ [] → w.owed ≠ [])
    (hframes : ∃ wire, w.server.connection.toChannel.sendPayloads ctx.prims
      ((sentMessages done).map Message.bytes) = .ok (wire, t.connection.toChannel))
    (hable : t.connection.toChannel.Able) (hsame : w.server.Same t)
    (hclosed : t.connection.closed = w.server.connection.closed)
    (hinput : t.input = w.server.input) (hquiet : receivedPayloads done = [])
    (hready : sentMessages done = [] ∨ w.server.connection.encryptionEnabled = true) :
    Safe ctx (h ++ done.map .server)
      { w with
        server := t
        down := w.down ++ writtenBytes ctx w.server.connection.toChannel done
        owed } := by
  obtain ⟨wire, hwire⟩ := hframes
  refine ⟨⟨?_, hable, ?_, ?_, ?_, ?_⟩, ⟨hs.client.able, ?_, hs.client.secure, ?_, hs.client.arrived⟩,
    ?_, ?_, ?_, hs.failed.server rfl⟩
  · rw [hclosed, hsame.ended]
    exact hs.server.open_
  · rw [hsame.encryption, hsame.phase]
    exact hs.server.phase
  · rw [hsame.encryption, sessionDone_append, sessionDone_server, sentMessages_append]
    exact hs.server.answered.append hready
  · rw [hinput]
    exact hs.server.arrived
  · intro hleft
    rw [hsame.phase, hsame.ended]
    exact hs.server.owed (howed hleft)
  · simpa using hs.client.clear
  · rw [hsame.encryption]
    simpa using hs.client.fresh
  · obtain ⟨items, hitems, hsizes, hlink⟩ := hs.up
    refine ⟨items, by simpa [hquiet] using hitems, hsizes, fun hrunning => ?_⟩
    rw [hinput]
    refine (hlink (hsame.ended.symm.trans hrunning)).of_receiver fun s htogether => ⟨?_, ?_⟩
    · exact hsame.encryption.trans htogether.encryption
    · exact (sendPayloads_inbound hwire).trans htogether.crypto
  · obtain ⟨items, hitems, hlink⟩ := hs.down
    refine ⟨items ++ (sentMessages done).map Message.bytes, by simp [hitems], ?_⟩
    rw [writtenBytes_of_ok hwire, ← List.append_assoc]
    refine hlink.append ?_
    rcases hready with hnone | henabled
    · rw [hnone] at hwire ⊢
      obtain ⟨hempty, hchannel⟩ := Prod.mk.inj (Except.ok.inj hwire)
      rw [← hempty, ← hchannel]
      rfl
    · exact sendAll_securing henabled hwire
  · intro hended
    obtain ⟨earlier, payload, hearlier, hviolates⟩ := hs.ended (hsame.ended.symm.trans hended)
    exact ⟨earlier, payload, by simp [hearlier, hquiet], hviolates⟩

/-- The session once it has read a frame. -/
def SessionState.afterRead (s : SessionState) (middle : Channel) (chunks : List (List UInt8)) :
    SessionState :=
  { s with
    connection := { s.connection with toChannel := s.connection.toChannel.follow middle }
    input := chunks }

/-- A payload that the phase expects is answered, and its events are left to dispatch. -/
theorem Safe.answered (hs : Safe ctx h w) {encrypted : Bool} {payload : List UInt8}
    {items : List (List UInt8)} {middle : Channel} {chunks : List (List UInt8)}
    {done : List SessionEvent} {t : SessionState} {owed : List EngineEvent}
    (hrunning : w.server.ended = false)
    (hitems : clientSent h = receivedPayloads (sessionDone h) ++ payload :: items)
    (hsizes : ∀ p ∈ payload :: items, p.length ≤ kMaxSessionPayload)
    (henabled : middle.encryptionEnabled = w.server.connection.encryptionEnabled)
    (hchunks : Arriving chunks)
    (hlink : ∀ receiver, Channel.Together (secured ctx middle).outgoing receiver →
      Link (sendSecuring ctx) Channel.Together (w.sender ctx).outgoing receiver items
        (chunks.flatten ++ w.up))
    (hquiet : receivedPayloads done = [])
    (hphase : t.connection.phase ≠ .awaitSecureBoxRegistration)
    (hanswers : Answers ctx (w.server.afterRead middle chunks) done t owed) :
    Safe ctx (h ++ (.received encrypted payload :: done).map .server)
      { w with
        server := t
        upArrived := []
        down := w.down ++ writtenBytes ctx w.server.connection.toChannel
          (.received encrypted payload :: done)
        owed } := by
  have hread : receivedPayloads (.received encrypted payload :: done) = [payload] :=
    congrArg (payload :: ·) hquiet
  have hsent : sentMessages (.received encrypted payload :: done) = sentMessages done := rfl
  generalize SessionEvent.received encrypted payload :: done = all at hread hsent ⊢
  obtain ⟨wire, channel, hwire, hsecuring⟩ := hanswers.sendAll
  obtain ⟨wire', channel', hwire', hable, hchannel⟩ := hanswers.frames
  rw [hwire] at hwire'
  cases hwire'
  have hsecure : t.connection.encryptionEnabled = true := by
    rw [hchannel]
    exact secured_enabled
  have hclear : w.server.connection.encryptionEnabled = false →
      ∃ message, sentMessages done = [message] ∧
        txnCodeOf message.bytes = kTxnSecureBoxRegistrationResponse := hanswers.clear
  have hnotFresh : w.stage ≠ .fresh := by
    intro hfresh
    rw [(hs.client.fresh hfresh).1] at hitems
    simp at hitems
  obtain ⟨other, hother⟩ := @sendPayloads_alike ctx
    (w.server.afterRead middle chunks).connection.toChannel channel wire _
    w.server.connection.toChannel rfl hs.server.able hwire
  refine ⟨⟨?_, ?_, ?_, ?_, ?_, fun hleft => ⟨hanswers.ready hleft, ?_⟩⟩, ⟨hs.client.able, ?_,
    hs.client.secure, fun hfresh => absurd hfresh hnotFresh, hs.client.arrived⟩, ?_, ?_, ?_,
    hs.failed.server rfl⟩
  · rw [hanswers.closed, hanswers.ended]
    exact hs.server.open_
  · rw [hchannel]
    exact secured_able hable
  · rw [hsecure, decide_eq_true hphase]
  · rw [hsecure, sessionDone_append, sessionDone_server, sentMessages_append, hsent]
    have hanswered := hs.server.answered
    cases hbefore : w.server.connection.encryptionEnabled with
    | true =>
        rw [hbefore] at hanswered
        exact hanswered.append (.inr rfl)
    | false =>
        obtain ⟨message, hone, hcode⟩ := hclear hbefore
        rw [hbefore] at hanswered
        cases hnone : sentMessages (sessionDone h) with
        | cons first more =>
            rw [hnone] at hanswered
            cases hanswered.1
        | nil =>
            rw [hone]
            exact ⟨rfl, hcode⟩
  · rw [hanswers.input]
    exact arriving_append.mpr ⟨hchunks, nofun⟩
  · exact hanswers.ended.trans hrunning
  · simpa using hs.client.clear
  · refine ⟨items, by simp [hitems, hread], fun p hp => hsizes p (List.mem_cons_of_mem _ hp),
      fun _ => ?_⟩
    rw [hanswers.input, List.append_nil]
    refine hlink _ ⟨hsecure.trans secured_enabled.symm, ?_⟩
    have hinbound : channel.inboundCrypto = middle.outboundCrypto := sendPayloads_inbound hwire
    have hstill : channel.encryptionEnabled = middle.encryptionEnabled :=
      (sendPayloads_enabled hwire).trans henabled.symm
    rw [hchannel]
    cases hmiddle : middle.encryptionEnabled with
    | true =>
        rw [secured_of_enabled hmiddle, secured_of_enabled (hstill.trans hmiddle)]
        exact hinbound
    | false =>
        rw [secured_of_clear hmiddle, secured_of_clear (hstill.trans hmiddle)]
        exact congrArg (CtrCryptoStream.initializeStream · ctx.ticket.cryptoKey ctx.ticket.cryptoIv)
          hinbound
  · obtain ⟨pending, hpending, hdown⟩ := hs.down
    refine ⟨pending ++ (sentMessages done).map Message.bytes, by simp [hpending, hsent], ?_⟩
    rw [← hsent] at hother
    rw [writtenBytes_of_ok hother, ← List.append_assoc]
    exact hdown.append hsecuring
  · intro hended
    rw [hanswers.ended] at hended
    exact absurd (hrunning.symm.trans hended) nofun

/-- A payload that the phase does not expect ends the session. -/
theorem Safe.violated (hs : Safe ctx h w) {encrypted : Bool} {payload : List UInt8}
    {items : List (List UInt8)} {middle : Channel} {chunks : List (List UInt8)}
    (hitems : clientSent h = receivedPayloads (sessionDone h) ++ payload :: items)
    (hsizes : ∀ p ∈ payload :: items, p.length ≤ kMaxSessionPayload)
    (hchunks : Arriving chunks)
    (hviolates : Violates ctx.ticket (receivedPayloads (sessionDone h)) payload) :
    Safe ctx (h ++ [SessionEvent.received encrypted payload, .sessionClosed].map .server)
      { w with
        server := (endSession ctx (w.server.afterRead middle chunks)).2
        upArrived := []
        down := w.down ++ writtenBytes ctx w.server.connection.toChannel
          [.received encrypted payload, .sessionClosed]
        owed := [] } := by
  have hread : receivedPayloads [.received encrypted payload, .sessionClosed] = [payload] := rfl
  have hsent : sentMessages [.received encrypted payload, .sessionClosed] = [] := rfl
  generalize [SessionEvent.received encrypted payload, .sessionClosed] = all at hread hsent ⊢
  have hwritten : writtenBytes ctx w.server.connection.toChannel all = [] := by
    rw [writtenBytes, hsent]
    rfl
  have hnotFresh : w.stage ≠ .fresh := by
    intro hfresh
    rw [(hs.client.fresh hfresh).1] at hitems
    simp at hitems
  refine ⟨⟨rfl, hs.server.able, hs.server.phase, ?_, ?_, nofun⟩, ⟨hs.client.able, ?_, hs.client.secure,
    fun hfresh => absurd hfresh hnotFresh, hs.client.arrived⟩, ?_, ?_, ?_, hs.failed.server rfl⟩
  · rw [sessionDone_append, sessionDone_server, sentMessages_append, hsent, List.append_nil]
    exact hs.server.answered
  · exact arriving_append.mpr ⟨hchunks, nofun⟩
  · simpa using hs.client.clear
  · exact ⟨items, by simp [hitems, hread], fun p hp => hsizes p (List.mem_cons_of_mem _ hp), nofun⟩
  · obtain ⟨pending, hpending, hdown⟩ := hs.down
    refine ⟨pending, by simp [hpending, hsent], ?_⟩
    rw [hwritten, List.append_nil]
    exact hdown
  · exact fun _ => ⟨_, payload, by simp [hread], hviolates⟩

/-- What an outcome without an exception says of the payload. -/
theorem Outcome.accepted {s t : SessionState} {payload : List UInt8} {done : List SessionEvent}
    (h : Outcome ctx s payload (done, t, none)) :
    receivedPayloads done = [] ∧
      expected ctx.ticket s.connection.phase payload = some t.connection.phase := by
  cases h with
  | registration hmessage hphase hencryption hended => exact ⟨rfl, hphase⟩
  | answer hmessage hphase hencryption hended => exact ⟨rfl, hphase⟩
  | heartbeat hphase hsame => exact ⟨rfl, by rw [hsame.phase]; exact hphase⟩
  | call hready hphase hsame hdone =>
      refine ⟨hdone.plain.payloads, ?_⟩
      rw [hsame.phase]
      exact hphase

theorem expected_ne_registration {ticket : SessionTicket} {phase phase' : Phase}
    {payload : List UInt8} (h : expected ticket phase payload = some phase') :
    phase' ≠ .awaitSecureBoxRegistration := by
  cases phase with
  | awaitSecureBoxRegistration =>
      rw [(expected_eq_some h).2]
      decide
  | awaitBoxSignOn =>
      rw [(expected_eq_some h).2]
      decide
  | awaitLogin =>
      rw [(expected_eq_some h).2]
      decide
  | ready =>
      rw [(expected_eq_some h).2]
      decide

/-- What a step of the session's thread can come to. -/
inductive Serves (ctx : SessionContext) (h : List WorldEvent) (w : World) :
    List WorldEvent × World → Prop
  | dispatches {event owed} (howed : w.owed = event :: owed) :
      Serves ctx h w (sessionStep ctx (.dispatch event true) { w with owed })
  | waits (hidle : w.owed = []) : Serves ctx h w ([], w)
  | violates {encrypted payload items middle chunks} (hidle : w.owed = [])
      (hrunning : w.server.ended = false)
      (hitems : clientSent h = receivedPayloads (sessionDone h) ++ payload :: items)
      (hsizes : ∀ p ∈ payload :: items, p.length ≤ kMaxSessionPayload) (hchunks : Arriving chunks)
      (hexpected : expected ctx.ticket w.server.connection.phase payload = none) :
      Serves ctx h w
        ([SessionEvent.received encrypted payload, .sessionClosed].map .server,
          { w with
            server := (endSession ctx (w.server.afterRead middle chunks)).2
            upArrived := []
            down := w.down ++ writtenBytes ctx w.server.connection.toChannel
              [.received encrypted payload, .sessionClosed]
            owed := [] })
  | answers {encrypted payload items middle chunks done t owed} (hidle : w.owed = [])
      (hrunning : w.server.ended = false)
      (hitems : clientSent h = receivedPayloads (sessionDone h) ++ payload :: items)
      (hsizes : ∀ p ∈ payload :: items, p.length ≤ kMaxSessionPayload)
      (henabled : middle.encryptionEnabled = w.server.connection.encryptionEnabled)
      (hchunks : Arriving chunks)
      (hlink : ∀ receiver, Channel.Together (secured ctx middle).outgoing receiver →
        Link (sendSecuring ctx) Channel.Together (w.sender ctx).outgoing receiver items
          (chunks.flatten ++ w.up))
      (hquiet : receivedPayloads done = [])
      (hphase : t.connection.phase ≠ .awaitSecureBoxRegistration)
      (hanswers : Answers ctx (w.server.afterRead middle chunks) done t owed) :
      Serves ctx h w
        ((.received encrypted payload :: done).map .server,
          { w with
            server := t
            upArrived := []
            down := w.down ++ writtenBytes ctx w.server.connection.toChannel
              (.received encrypted payload :: done)
            owed })

/-- A turn of a session that goes on and finds something to read. -/
theorem Safe.reads (hs : Safe ctx h w) {env : TurnEnv} (hwritten : ∀ k, env.written k = true)
    (hidle : w.owed = []) (hrunning : w.server.ended = false) (hready : waiting ctx w = false) :
    Serves ctx h w (readStep ctx env w) := by
  obtain ⟨items, hitems, hsizes, hlink⟩ := hs.up
  cases items with
  | nil =>
      -- nothing has arrived
      have hnone := (List.append_eq_nil_iff.mp (hlink hrunning).of_nil.2).1
      rw [waiting, eq_nil_of_flatten hs.server.arrived hnone] at hready
      cases hready
  | cons payload items =>
      obtain ⟨s, frame, s', rest, htogether, hsecuring, hwire, hmore⟩ := (hlink hrunning).next
      obtain ⟨middle, hsent, rfl⟩ := of_sendSecuring hsecuring
      rcases Channel.receivePayload_arrived htogether hsent (hsizes payload List.mem_cons_self)
        hs.server.arrived hwire with ⟨hwaits, -⟩ | ⟨chunks, hreads, hrest, hchunks⟩
      · rw [waiting, hwaits] at hready
        cases hready
      have henabled : middle.encryptionEnabled = w.server.connection.encryptionEnabled :=
        (sendPayload_enabled hsent).trans htogether.encryption.symm
      rw [readStep, readTurn, hreads]
      simp only
      cases hexpected : expected ctx.ticket w.server.connection.phase payload with
      | none =>
          obtain ⟨message, hrefused⟩ := @handlePayload_refused ctx env
            (w.server.afterRead middle chunks) payload hexpected
          rw [SessionState.afterRead] at hrefused
          rw [hrefused]
          exact .violates hidle hrunning hitems hsizes hchunks hexpected
      | some phase =>
          have houtcome := (@handlePayload_outcome ctx env (w.server.afterRead middle chunks)
            payload).beforeDispatch
          obtain ⟨done, t, owed, hdone, hanswers⟩ := @handlePayload_answers ctx env
            (w.server.afterRead middle chunks) payload hwritten hs.server.phase hs.server.able
            (by simp [SessionState.afterRead, hexpected])
          rw [hdone] at houtcome
          obtain ⟨hquiet, hphase⟩ := houtcome.accepted
          rw [SessionState.afterRead] at hdone
          rw [hdone]
          refine .answers hidle hrunning hitems hsizes henabled hchunks ?_ hquiet
            (expected_ne_registration hphase) hanswers
          rw [hrest]
          exact hmore

theorem Safe.serves (hs : Safe ctx h w) {env : TurnEnv} (hwritten : ∀ k, env.written k = true) :
    Serves ctx h w (serve ctx env w) := by
  rw [serve]
  split
  · rename_i event owed howed
    exact .dispatches howed
  rename_i hidle
  split
  · exact .waits hidle
  · rename_i hgoes
    rw [not_or, Bool.not_eq_true, Bool.not_eq_true] at hgoes
    exact hs.reads hwritten hidle hgoes.1 hgoes.2

theorem Safe.dispatched (hs : Safe ctx h w) (event : EngineEvent) {owed : List EngineEvent}
    (howed : owed ≠ [] → w.owed ≠ []) (hready : w.server.connection.phase = .ready) :
    Safe ctx (h ++ (sessionStep ctx (.dispatch event true) { w with owed }).1)
      (sessionStep ctx (.dispatch event true) { w with owed }).2 := by
  have henabled : w.server.connection.encryptionEnabled = true := by
    rw [hs.server.phase, hready]
    rfl
  obtain ⟨hsame, hdone⟩ := @dispatchEvent_cases ctx event true w.server
  cases hclosed : w.server.connection.closed with
  | true =>
      have hnothing : dispatchEvent ctx event true w.server = ([], w.server) := by
        rw [dispatchEvent, if_pos hclosed]
      rw [sessionStep, session, hnothing]
      exact hs.wrote howed ⟨[], rfl⟩ hs.server.able (.refl w.server) rfl rfl rfl (.inl rfl)
  | false =>
      obtain ⟨hsends, -⟩ := @dispatchEvent_able ctx w.server hclosed hs.server.able event
      exact hs.wrote howed hsends.frames hsends.able hsame hsends.rest.closed hsends.rest.input
        hdone.plain.payloads (.inr henabled)

theorem Safe.served (hs : Safe ctx h w) {env : TurnEnv} (hwritten : ∀ k, env.written k = true)
    (hfollows : Follows ctx.ticket (sessionDone h) w.server.connection.phase
      w.server.connection.encryptionEnabled w.server.ended) :
    Safe ctx (h ++ (serve ctx env w).1) (serve ctx env w).2 := by
  have hserves := hs.serves hwritten
  generalize serve ctx env w = step at hserves ⊢
  cases hserves with
  | dispatches howed =>
      have hsome : w.owed ≠ [] := by simp [howed]
      exact hs.dispatched _ (fun _ => hsome) (hs.server.owed hsome).1
  | waits hidle => exact hs.same
  | @violates encrypted payload _ _ _ hidle hrunning hitems hsizes hchunks hexpected =>
      refine hs.violated hitems hsizes hchunks ?_
      rw [Violates, hfollows.phase hrunning]
      exact hexpected
  | answers hidle hrunning hitems hsizes henabled hchunks hlink hquiet hphase hanswers =>
      exact hs.answered hrunning hitems hsizes henabled hchunks hlink hquiet hphase hanswers

theorem Safe.other (hs : Safe ctx h w) (op : Op) :
    Safe ctx (h ++ (sessionStep ctx (.other op) w).1) (sessionStep ctx (.other op) w).2 :=
  hs.wrote id ⟨[], rfl⟩ hs.server.able ⟨rfl, rfl, rfl⟩ rfl rfl rfl (.inl rfl)

theorem safe_init (engine₀ : EngineState) : Safe ctx [] (.init engine₀) where
  server := ⟨rfl, .inl rfl, rfl, rfl, nofun, nofun⟩
  client := ⟨.inl rfl, fun _ => ⟨rfl, rfl⟩, nofun, fun _ => ⟨rfl, rfl⟩, nofun⟩
  up := ⟨[], rfl, nofun, fun _ => link_nil ⟨rfl, rfl⟩⟩
  down := ⟨[], rfl, link_nil ⟨rfl, rfl⟩⟩
  ended := nofun
  failed := nofun

/-! ## Whole runs -/

/-- A step of the client leaves the session as it is. -/
def Spares (w : World) (step : List WorldEvent × World) : Prop :=
  sessionDone step.1 = [] ∧ step.2.server = w.server ∧ step.2.owed = w.owed

theorem clientSend_spares {payload : List UInt8} : Spares w (clientSend ctx payload w) := by
  rw [clientSend]
  split
  · exact ⟨rfl, rfl, rfl⟩
  · exact ⟨rfl, rfl, rfl⟩

theorem clientTurn_spares {payload : List UInt8} : Spares w (clientTurn ctx payload w) := by
  rw [clientTurn]
  cases w.stage with
  | fresh => exact clientSend_spares
  | registering => exact ⟨rfl, rfl, rfl⟩
  | secure => exact clientSend_spares
  | failed error => exact ⟨rfl, rfl, rfl⟩

theorem clientReceive_spares {size : Nat} : Spares w (clientReceive ctx size w) := by
  rw [clientReceive]
  split
  · exact ⟨rfl, rfl, rfl⟩
  split
  · split
    · exact ⟨rfl, rfl, rfl⟩
    · exact ⟨rfl, rfl, rfl⟩
  · rw [clientAccept]
    split
    · split
      · exact ⟨rfl, rfl, rfl⟩
      · exact ⟨rfl, rfl, rfl⟩
    · exact ⟨rfl, rfl, rfl⟩

/-- What a step of the world does to the session. -/
theorem world_session (ctx : SessionContext) (w : World) (a : WorldAction) :
    SessionEffect ctx w.server (sessionDone (world ctx w a).1) (world ctx w a).2.server := by
  have hnothing : SessionEffect ctx w.server [] w.server := .quiet nofun (.refl w.server)
  cases a with
  | send payload =>
      obtain ⟨hdone, hserver, -⟩ := @clientTurn_spares ctx w payload
      rw [world, hdone, hserver]
      exact hnothing
  | receive size =>
      obtain ⟨hdone, hserver, -⟩ := @clientReceive_spares ctx w size
      rw [world, hdone, hserver]
      exact hnothing
  | deliverUp count => exact hnothing
  | deliverDown count => exact hnothing
  | serve now call =>
      rw [world, serve]
      split
      · rw [sessionStep, sessionDone_server]
        exact session_effect _
      split
      · exact hnothing
      · rename_i hgoes
        rw [not_or, Bool.not_eq_true] at hgoes
        rw [readStep, sessionDone_server]
        exact readTurn_effect _ _ hgoes.1
  | dispatch event =>
      rw [world, sessionStep, sessionDone_server]
      exact session_effect _
  | other op =>
      rw [world, sessionStep, sessionDone_server]
      exact session_effect _

/-- The session of a world follows the phases. -/
theorem world_follows {engine₀ : EngineState} (hrun : Run (world ctx) WellTimed (.init engine₀) h w) :
    Follows ctx.ticket (sessionDone h) w.server.connection.phase
      w.server.connection.encryptionEnabled w.server.ended := by
  apply Run.invariant (P := fun h (w : World) => Follows ctx.ticket (sessionDone h)
    w.server.connection.phase w.server.connection.encryptionEnabled w.server.ended) _ _ hrun
  · exact follows_init
  · intro h w a _ hf _
    rw [sessionDone_append]
    exact hf.step (world_session ctx w a)

theorem safe {engine₀ : EngineState} (hrun : Run (world ctx) WellTimed (.init engine₀) h w) :
    Safe ctx h w := by
  apply Run.invariant (P := Safe ctx) (safe_init engine₀) _ hrun
  intro h w a hrun hs horderly
  cases a with
  | send payload =>
      rw [world, clientTurn]
      cases hstage : w.stage with
      | fresh => exact hs.clientSend (.inl ⟨hstage, rfl⟩) horderly
      | secure =>
          have hsent := hs.clientSend (.inr ⟨hstage, rfl⟩) horderly
          rw [← hstage] at hsent
          exact hsent
      | registering => exact hs.same
      | failed error => exact hs.same
  | receive size => exact hs.clientReceive size
  | deliverUp count => exact hs.deliverUp count
  | deliverDown count => exact hs.deliverDown count
  | serve now call => exact hs.served (fun _ => rfl) (world_follows hrun)
  | dispatch event => exact hs.dispatched event id horderly
  | other op => exact hs.other op

theorem Safe.session_waits (hs : Safe ctx h w) (hrunning : w.server.ended = false)
    (hup : w.up = []) (hwaits : waiting ctx w = true) :
    receivedPayloads (sessionDone h) = clientSent h := by
  obtain ⟨items, hitems, hsizes, hlink⟩ := hs.up
  cases items with
  | nil => rw [hitems, List.append_nil]
  | cons payload items =>
      obtain ⟨s, frame, s', rest, htogether, hsecuring, hwire, -⟩ := (hlink hrunning).next
      obtain ⟨middle, hsent, -⟩ := of_sendSecuring hsecuring
      rcases Channel.receivePayload_arrived htogether hsent (hsizes payload List.mem_cons_self)
        hs.server.arrived hwire with ⟨-, hlater⟩ | ⟨chunks, hreads, -⟩
      · exact absurd hup hlater
      · rw [waiting, hreads] at hwaits
        cases hwaits

theorem Safe.client_waits (hs : Safe ctx h w) {size : Nat} (hdown : w.down = [])
    (hwaits : w.client.receiveSized ctx.prims size w.downArrived = .error "socket read failed") :
    clientReceived h = (sentMessages (sessionDone h)).map Message.bytes := by
  have hreceives := hs.receives size
  generalize w.client.receiveSized ctx.prims size w.downArrived = outcome at hwaits hreceives
  cases hreceives with
  | waits hlater => exact not_not.mp fun hless => hlater hless hdown
  | refuses hnext hlength => simp at hwaits
  | reads hchunks hitems henabled hlink => cases hwaits

end Steps

/-- Whatever the order of the steps: each end has received what the other has sent, except for the last
of it; an end waits only while bytes are on their way to it or when it has received everything; the
session ends only when the client violates the handshake; and the client fails only when it asks for a
payload of a size that the next one does not have. -/
theorem session_delivers {ctx : SessionContext} {engine₀ : EngineState} {h : List WorldEvent}
    {w : World} (hrun : Run (world ctx) WellTimed (.init engine₀) h w) :
    receivedPayloads (sessionDone h) <+: clientSent h ∧
    clientReceived h <+: (sentMessages (sessionDone h)).map Message.bytes ∧
    (w.server.ended = false → w.up = [] → waiting ctx w = true →
      receivedPayloads (sessionDone h) = clientSent h) ∧
    (∀ size, w.down = [] →
      w.client.receiveSized ctx.prims size w.downArrived = .error "socket read failed" →
        clientReceived h = (sentMessages (sessionDone h)).map Message.bytes) ∧
    (w.server.ended = true → ∃ earlier payload,
      receivedPayloads (sessionDone h) = earlier ++ [payload] ∧
        Violates ctx.ticket earlier payload) ∧
    (∀ size error, .failed size error ∈ h → error = "unexpected payload size" ∧
      ∃ message, clientReceived h ++ [message] <+:
        (sentMessages (sessionDone h)).map Message.bytes ∧ message.length ≠ size) := by
  have hs := safe hrun
  refine ⟨?_, ?_, hs.session_waits, fun size => hs.client_waits, hs.ended, fun size error hmem => ?_⟩
  · obtain ⟨items, hitems, -⟩ := hs.up
    exact ⟨items, hitems.symm⟩
  · obtain ⟨items, hitems, -⟩ := hs.down
    exact ⟨items, hitems.symm⟩
  · obtain ⟨herror, -, hnext⟩ := hs.failed size error hmem
    exact ⟨herror, hnext⟩

/-- A registration that arrives in two pieces, and its answer. -/
def registrationRun : List WorldAction :=
  [.send intruderRegistration, .deliverUp 30, .serve (fun _ => 0) calm, .deliverUp 34,
    .serve (fun _ => 0) calm, .deliverDown 62, .receive 40]

def registrationResult : List WorldEvent × World :=
  exec (world intruderContext) (.init intruderContext.cfg.init) registrationRun

set_option maxRecDepth 4000 in
/-- The client has then received all that was sent. -/
theorem session_delivers_registration :
    clientReceived registrationResult.1 =
      (sentMessages (sessionDone registrationResult.1)).map Message.bytes ∧
    registrationResult.2.stage = .secure := by
  have hmeets : Meets (world intruderContext) WellTimed [] (.init intruderContext.cfg.init)
      registrationRun := by decide +kernel
  exact ⟨(session_delivers (run_exec_of_meets hmeets)).2.2.2.1 40 rfl rfl, rfl⟩

end NseFoExchangeSim.Server
