import NseFoExchangeSim.Lib.Pipe
import NseFoExchangeSim.Server.ClientPayloads
import NseFoExchangeSim.Server.Theorems.Framing

/-!
# What a session writes

While the connection stays up, the messages of a step go out one after the other from the channel that
the session had, and the channel it has then is the one that sending leaves. The one message that goes
out in the clear answers the registration, and the channel is secured after it.
-/

namespace NseFoExchangeSim.Server

open Lib Protocol Engine

/-! ## Securing a channel -/

section Securing

variable (ctx : SessionContext)

/-- A channel that is still in the clear gets the keys of the ticket. -/
def secured (channel : Channel) : Channel :=
  if channel.encryptionEnabled then channel
  else channel.enableCrypto ctx.ticket.cryptoKey ctx.ticket.cryptoIv

/-- The part of a channel that sending depends on. -/
def Channel.outgoing (channel : Channel) : Channel := { channel with inboundCrypto := {} }

/-- A payload goes out, and none goes out in the clear after it. -/
def sendSecuring (payload : List UInt8) (channel : Channel) :
    Except String (List UInt8 × Channel) := do
  let (frame, channel) ← channel.sendPayload ctx.prims payload
  return (frame, (secured ctx channel).outgoing)

variable {ctx} {channel channel' : Channel} {payload frame wire : List UInt8}
  {payloads : List (List UInt8)}

theorem secured_of_enabled (h : channel.encryptionEnabled = true) : secured ctx channel = channel :=
  if_pos h

theorem secured_of_clear (h : channel.encryptionEnabled = false) :
    secured ctx channel = channel.enableCrypto ctx.ticket.cryptoKey ctx.ticket.cryptoIv :=
  if_neg (by simp [h])

theorem secured_enabled : (secured ctx channel).encryptionEnabled = true := by
  rw [secured]
  split
  · assumption
  · rfl

theorem secured_able (h : channel.Able) : (secured ctx channel).Able := by
  rw [secured]
  split
  · exact h
  · exact .inr rfl

theorem sendPayloads_eq_sendAll :
    channel.sendPayloads ctx.prims payloads =
      sendAll (fun payload channel => channel.sendPayload ctx.prims payload) payloads channel := by
  induction payloads generalizing channel with
  | nil => rfl
  | cons payload payloads ih =>
      simp only [Channel.sendPayloads, sendAll, ih]

theorem sendPayloads_append {more : List (List UInt8)} {bytes : List UInt8} {last : Channel}
    (h : channel.sendPayloads ctx.prims payloads = .ok (wire, channel'))
    (hmore : channel'.sendPayloads ctx.prims more = .ok (bytes, last)) :
    channel.sendPayloads ctx.prims (payloads ++ more) = .ok (wire ++ bytes, last) := by
  rw [sendPayloads_eq_sendAll] at h hmore ⊢
  exact sendAll_append h hmore

theorem sendPayloads_one (h : channel.sendPayload ctx.prims payload = .ok (frame, channel')) :
    channel.sendPayloads ctx.prims [payload] = .ok (frame, channel') := by
  rw [sendPayloads_eq_sendAll]
  exact sendAll_cons_ok.mpr ⟨frame, channel', [], h, rfl, (List.append_nil frame).symm⟩

theorem sendPayload_outgoing (h : channel.sendPayload ctx.prims payload = .ok (frame, channel')) :
    channel.outgoing.sendPayload ctx.prims payload = .ok (frame, channel'.outgoing) := by
  obtain ⟨body, middle, hencrypt, rfl, rfl⟩ := Channel.sendPayload_ok h
  have hencrypt' : channel.outgoing.encrypt ctx.prims payload = .ok (body, middle.outgoing) := by
    rw [Channel.encrypt] at hencrypt ⊢
    split at hencrypt
    · rename_i henabled
      obtain ⟨⟨bytes, outboundCrypto⟩, hxor, hreturn⟩ := bind_eq_ok hencrypt
      cases hreturn
      simp only [Channel.outgoing, if_pos henabled, hxor]
      rfl
    · rename_i henabled
      cases hencrypt
      rw [if_neg (show ¬ channel.outgoing.encryptionEnabled = true from henabled)]
      rfl
  rw [Channel.sendPayload, hencrypt']
  rfl

theorem secured_outgoing : (secured ctx channel.outgoing).outgoing = (secured ctx channel).outgoing := by
  by_cases henabled : channel.encryptionEnabled = true
  · rw [secured_of_enabled henabled, secured_of_enabled (show channel.outgoing.encryptionEnabled = true
      from henabled)]
    rfl
  · rw [secured, secured, if_neg henabled,
      if_neg (show ¬ channel.outgoing.encryptionEnabled = true from henabled)]
    rfl

theorem sendSecuring_ok (h : channel.sendPayload ctx.prims payload = .ok (frame, channel')) :
    sendSecuring ctx payload channel.outgoing = .ok (frame, (secured ctx channel').outgoing) := by
  rw [sendSecuring, sendPayload_outgoing h, ← secured_outgoing]
  rfl

/-- What has gone out when a payload has. -/
theorem of_sendSecuring (h : sendSecuring ctx payload channel = .ok (frame, channel')) :
    ∃ middle, channel.sendPayload ctx.prims payload = .ok (frame, middle) ∧
      channel' = (secured ctx middle).outgoing := by
  obtain ⟨⟨frame', middle⟩, hsent, hreturn⟩ := bind_eq_ok h
  cases hreturn
  exact ⟨middle, hsent, rfl⟩

theorem sendPayloads_enabled (h : channel.sendPayloads ctx.prims payloads = .ok (wire, channel')) :
    channel'.encryptionEnabled = channel.encryptionEnabled := by
  rw [sendPayloads_eq_sendAll] at h
  induction payloads generalizing channel wire with
  | nil =>
      cases h
      rfl
  | cons payload payloads ih =>
      obtain ⟨frame, middle, rest, hframe, hrest, -⟩ := sendAll_cons_ok.mp h
      exact (ih hrest).trans (sendPayload_enabled hframe)

/-- On an encrypted channel nothing is secured. -/
theorem sendAll_securing (henabled : channel.encryptionEnabled = true)
    (h : channel.sendPayloads ctx.prims payloads = .ok (wire, channel')) :
    sendAll (sendSecuring ctx) payloads channel.outgoing = .ok (wire, channel'.outgoing) := by
  rw [sendPayloads_eq_sendAll] at h
  induction payloads generalizing channel wire with
  | nil =>
      cases h
      rfl
  | cons payload payloads ih =>
      obtain ⟨frame, middle, rest, hframe, hrest, rfl⟩ := sendAll_cons_ok.mp h
      have hmiddle : middle.encryptionEnabled = true := (sendPayload_enabled hframe).trans henabled
      refine sendAll_cons_ok.mpr ⟨frame, middle.outgoing, rest, ?_, ih hmiddle hrest, rfl⟩
      rw [sendSecuring_ok hframe, secured_of_enabled hmiddle]

/-- The one payload that goes out in the clear. -/
theorem sendAll_securing_one
    (h : channel.sendPayloads ctx.prims [payload] = .ok (wire, channel')) :
    sendAll (sendSecuring ctx) [payload] channel.outgoing =
      .ok (wire, (secured ctx channel').outgoing) := by
  rw [sendPayloads_eq_sendAll] at h
  obtain ⟨frame, middle, rest, hframe, hrest, rfl⟩ := sendAll_cons_ok.mp h
  cases hrest
  exact sendAll_cons_ok.mpr ⟨frame, _, [], sendSecuring_ok hframe, rfl, rfl⟩

theorem sendPayload_inbound (h : channel.sendPayload ctx.prims payload = .ok (frame, channel')) :
    channel'.inboundCrypto = channel.inboundCrypto := by
  obtain ⟨body, middle, hencrypt, -, rfl⟩ := Channel.sendPayload_ok h
  have hframe := congrArg Channel.inboundCrypto (Channel.encrypt_frame hencrypt)
  exact hframe

theorem sendPayloads_inbound (h : channel.sendPayloads ctx.prims payloads = .ok (wire, channel')) :
    channel'.inboundCrypto = channel.inboundCrypto := by
  rw [sendPayloads_eq_sendAll] at h
  induction payloads generalizing channel wire with
  | nil =>
      cases h
      rfl
  | cons payload payloads ih =>
      obtain ⟨frame, middle, rest, hframe, hrest, -⟩ := sendAll_cons_ok.mp h
      exact (ih hrest).trans (sendPayload_inbound hframe)

/-- What goes out depends on the part of the channel that sending depends on. -/
theorem sendPayloads_alike {other : Channel} (halike : other.outgoing = channel.outgoing)
    (hable : other.Able) (h : channel.sendPayloads ctx.prims payloads = .ok (wire, channel')) :
    ∃ other', other.sendPayloads ctx.prims payloads = .ok (wire, other') := by
  rw [sendPayloads_eq_sendAll] at h
  simp only [sendPayloads_eq_sendAll]
  induction payloads generalizing channel other wire with
  | nil =>
      cases h
      exact ⟨other, rfl⟩
  | cons payload payloads ih =>
      obtain ⟨frame, middle, rest, hframe, hrest, rfl⟩ := sendAll_cons_ok.mp h
      obtain ⟨frame', middle', hframe', hable'⟩ :=
        @Channel.sendPayload_of_able ctx.prims other payload hable
      have hsame := (sendPayload_outgoing hframe').symm
      rw [halike, sendPayload_outgoing hframe] at hsame
      obtain ⟨rfl, halike'⟩ := Prod.mk.inj (Except.ok.inj hsame)
      obtain ⟨other', hother⟩ := ih halike' hable' hrest
      exact ⟨other', sendAll_cons_ok.mpr ⟨frame', middle', rest, hframe', hother, rfl⟩⟩

end Securing

/-! ## Messages -/

/-- Only the channel is different. -/
def SessionState.SameBut (s t : SessionState) : Prop :=
  t = { s with connection := { s.connection with toChannel := t.connection.toChannel } }

namespace SessionState.SameBut

variable {s t : SessionState}

theorem input (h : s.SameBut t) : t.input = s.input := by
  rw [h]

theorem closed (h : s.SameBut t) : t.connection.closed = s.connection.closed := by
  rw [h]

theorem ended (h : s.SameBut t) : t.ended = s.ended := by
  rw [h]

end SessionState.SameBut

/-- The messages go out, and nothing else changes. -/
structure Sends (ctx : SessionContext) (s : SessionState) (done : List SessionEvent)
    (t : SessionState) : Prop where
  frames : ∃ wire, s.connection.toChannel.sendPayloads ctx.prims
    ((sentMessages done).map Message.bytes) = .ok (wire, t.connection.toChannel)
  rest : s.SameBut t
  able : t.connection.toChannel.Able

section Messages

variable {ctx : SessionContext} {env : TurnEnv} {s t u : SessionState}
  {done more : List SessionEvent}

theorem Sends.refl (hable : s.connection.toChannel.Able) : Sends ctx s [] s :=
  ⟨⟨[], rfl⟩, rfl, hable⟩

theorem Sends.trans (h : Sends ctx s done t) (h' : Sends ctx t more u) :
    Sends ctx s (done ++ more) u := by
  obtain ⟨wire, hwire⟩ := h.frames
  obtain ⟨bytes, hbytes⟩ := h'.frames
  refine ⟨⟨wire ++ bytes, ?_⟩, ?_, h'.able⟩
  · rw [sentMessages_append, List.map_append]
    exact sendPayloads_append hwire hbytes
  · have hrest := h'.rest
    rw [SessionState.SameBut, h.rest] at hrest
    exact hrest

theorem sendMessage_able (hable : s.connection.toChannel.Able) (message : Message) :
    ∃ t, sendMessage ctx message true s =
        ([.sent s.connection.encryptionEnabled message true], t, none) ∧
      Sends ctx s [.sent s.connection.encryptionEnabled message true] t := by
  obtain ⟨frame, channel, hsent, hchannel⟩ :=
    @Channel.sendPayload_of_able ctx.prims _ message.bytes hable
  refine ⟨{ s with connection := { s.connection with toChannel := channel } }, ?_,
    ⟨frame, sendPayloads_one hsent⟩, rfl, hchannel⟩
  rw [sendMessage, hsent]
  rfl

theorem dispatchEvent_able (hopen : s.connection.closed = false)
    (hable : s.connection.toChannel.Able) (event : EngineEvent) :
    Sends ctx s (dispatchEvent ctx event true s).1 (dispatchEvent ctx event true s).2 ∧
      sentResponses (dispatchEvent ctx event true s).1 = [responseTo ctx.cfg.config event] := by
  obtain ⟨t, hmessage, hsends⟩ :=
    @sendMessage_able ctx s hable (.event (responseTo ctx.cfg.config event))
  rw [dispatchEvent, hopen, hmessage]
  exact ⟨hsends, rfl⟩

end Messages

/-! ## Payloads -/

/-- What is done for a payload that the phase expects, up to the first dispatch, and the events that are
left to dispatch. -/
structure Answers (ctx : SessionContext) (s : SessionState) (done : List SessionEvent)
    (t : SessionState) (owed : List EngineEvent) : Prop where
  frames : ∃ wire channel, s.connection.toChannel.sendPayloads ctx.prims
    ((sentMessages done).map Message.bytes) = .ok (wire, channel) ∧ channel.Able ∧
      t.connection.toChannel = secured ctx channel
  clear : s.connection.encryptionEnabled = false → ∃ message, sentMessages done = [message] ∧
    txnCodeOf message.bytes = kTxnSecureBoxRegistrationResponse
  input : t.input = s.input
  closed : t.connection.closed = s.connection.closed
  ended : t.ended = s.ended
  responses : sentResponses done = []
  calls : owed = (calledOps done).flatMap fun op => (engine ctx.cfg s.engine op).1
  ready : owed ≠ [] → t.connection.phase = .ready

/-- The payload is handled without an exception, and answered. -/
def Answered (ctx : SessionContext) (s : SessionState) (handled : Handled) : Prop :=
  ∃ done t owed, beforeDispatch ctx s handled = ((done, t, none), owed) ∧ Answers ctx s done t owed

section Payloads

variable {ctx : SessionContext} {env : TurnEnv} {s t : SessionState} {done : List SessionEvent}
  {payload : List UInt8}

/-- What a session sends once it is encrypted, when it does not call the engine. -/
theorem Answers.ofSends (henabled : s.connection.encryptionEnabled = true)
    (hsends : Sends ctx s done t) (hresponses : sentResponses done = [])
    (hcalls : calledOps done = []) : Answers ctx s done t [] := by
  obtain ⟨wire, hwire⟩ := hsends.frames
  have hsame : t.connection.toChannel = secured ctx t.connection.toChannel :=
    (secured_of_enabled ((sendPayloads_enabled hwire).trans henabled)).symm
  refine ⟨⟨wire, t.connection.toChannel, hwire, hsends.able, hsame⟩, ?_, hsends.rest.input,
    hsends.rest.closed, hsends.rest.ended, hresponses, by rw [hcalls]; rfl,
    absurd rfl⟩
  intro hclear
  rw [henabled] at hclear
  cases hclear

theorem txnCodeOf_header (header : MessageHeader) (after : List UInt8) :
    txnCodeOf (header.bytes ++ after) = byteswap header.transactionCode := by
  rw [txnCodeOf, MessageHeader.load16_bytes]

theorem registration_answers (hwritten : ∀ k, env.written k = true)
    (hclear : s.connection.encryptionEnabled = false) (h : IsRegistration ctx.ticket payload) :
    Answered ctx s (handleSecureBoxRegistration ctx env (txnCodeOf payload) payload s) := by
  obtain ⟨hcode, hsize, hbox⟩ := h
  rw [handleSecureBoxRegistration, if_neg (by simp [hcode, hsize]), if_neg (by simpa using hbox),
    sendSecureBoxRegistrationResponse, hwritten]
  obtain ⟨t, hmessage, hsends⟩ := @sendMessage_able ctx s (.inl hclear)
    (.secureBoxRegistrationResponse (initializeMessageHeader (env.now 0)
      kTxnSecureBoxRegistrationResponse (byteswap (load32 payload 8)) messageHeaderSize))
  obtain ⟨wire, hwire⟩ := hsends.frames
  have hstill : t.connection.encryptionEnabled = false :=
    (sendPayloads_enabled hwire).trans hclear
  rw [hmessage]
  refine ⟨_, _, _, rfl, ⟨wire, t.connection.toChannel, hwire, hsends.able, ?_⟩, fun _ => ?_, ?_, ?_,
    ?_, rfl, rfl, absurd rfl⟩
  · rw [secured, if_neg (by simp [hstill])]
    rfl
  · refine ⟨_, rfl, ?_⟩
    rw [Message.bytes, ← List.append_nil (MessageHeader.bytes _), txnCodeOf_header]
    exact byteswap_byteswap _
  · exact hsends.rest.input
  · exact hsends.rest.closed
  · exact hsends.rest.ended

/-- A message that is no response. -/
theorem sent_responses {encrypted written : Bool} {message : Message}
    (hmessage : message.response? = none) :
    sentResponses [.sent encrypted message written] = [] := by
  simp [sentResponses, sentMessages, SessionEvent.message?, hmessage]

/-- A message is all. -/
theorem direct_answers (henabled : s.connection.encryptionEnabled = true)
    (hable : s.connection.toChannel.Able) {message : Message} (hmessage : message.response? = none) :
    Answered ctx s (sendMessage ctx message true s) := by
  obtain ⟨t, hsent, hsends⟩ := @sendMessage_able ctx s hable message
  rw [hsent]
  exact ⟨_, t, [], rfl, .ofSends henabled hsends (sent_responses hmessage) rfl⟩

/-- A message leads to the next phase. -/
theorem message_answers {s₀ : SessionState} (henabled : s.connection.encryptionEnabled = true)
    (hable : s.connection.toChannel.Able) {message : Message} (hmessage : message.response? = none)
    (phase : Phase) :
    ∃ done t owed, beforeDispatch ctx s₀
        ((sendMessage ctx message true s).andThen (setPhase phase)) = ((done, t, none), owed) ∧
      Answers ctx s done t owed := by
  obtain ⟨t, hsent, hsends⟩ := @sendMessage_able ctx s hable message
  have hanswers := Answers.ofSends henabled hsends (sent_responses hmessage) rfl
  rw [hsent]
  exact ⟨_, _, _, rfl, hanswers.frames, hanswers.clear, hanswers.input, hanswers.closed,
    hanswers.ended, hanswers.responses, hanswers.calls, absurd rfl⟩

/-- The events of a call are left to dispatch. -/
theorem call_answers (henabled : s.connection.encryptionEnabled = true)
    (hable : s.connection.toChannel.Able) (hready : s.connection.phase = .ready)
    (request : Request) : Answered ctx s (callEngine ctx env request s) := by
  have hsame := @secured_of_enabled ctx s.connection.toChannel henabled
  refine ⟨_, _, _, rfl, ⟨[], s.connection.toChannel, rfl, hable, hsame.symm⟩, ?_, rfl, rfl, rfl, rfl,
    (List.append_nil _).symm, fun _ => hready⟩
  intro hoff
  rw [henabled] at hoff
  cases hoff

/-- A payload of the ready phase. -/
theorem ready_answers (hwritten : ∀ k, env.written k = true)
    (henabled : s.connection.encryptionEnabled = true) (hable : s.connection.toChannel.Able)
    (hready : s.connection.phase = .ready) (h : IsReadyPayload payload) :
    Answered ctx s (handleReadyPayload ctx env (txnCodeOf payload) payload s) := by
  obtain ⟨-, hheartbeat | hlisted⟩ := h
  · rw [hheartbeat]
    exact ⟨[], s, [], rfl, .ofSends henabled (.refl hable) rfl rfl⟩
  · simp only [readySizes, List.mem_cons, Prod.mk.injEq, List.not_mem_nil, or_false] at hlisted
    rcases hlisted with ⟨hcode, hsize⟩ | ⟨hcode, hsize⟩ | ⟨hcode, hsize⟩ | ⟨hcode, hsize⟩ |
      ⟨hcode, hsize⟩ | ⟨hcode, hsize⟩
    all_goals rw [hcode, handleReadyPayload, hsize]
    · simp only [sendSystemInfoResponse, hwritten]
      exact direct_answers henabled hable rfl
    · simp only [sendSimpleHeaderResponse, hwritten]
      exact direct_answers henabled hable rfl
    · simp only [sendSimpleHeaderResponse, hwritten]
      exact direct_answers henabled hable rfl
    · exact call_answers henabled hable hready _
    · exact call_answers henabled hable hready _
    · exact call_answers henabled hable hready _

theorem boxSignOn_answers (hwritten : ∀ k, env.written k = true)
    (henabled : s.connection.encryptionEnabled = true) (hable : s.connection.toChannel.Able)
    (h : IsBoxSignOn ctx.ticket payload) :
    Answered ctx s (handleBoxSignOn ctx env (txnCodeOf payload) payload s) := by
  obtain ⟨hcode, hsize, hvalid⟩ := h
  rw [handleBoxSignOn, if_neg (by simp [hcode, hsize]),
    if_neg (by simpa using boxSignOnValid_iff.mpr hvalid), sendBoxSignOnResponse, hwritten]
  exact message_answers henabled hable (by rfl) _

theorem login_answers (hwritten : ∀ k, env.written k = true)
    (henabled : s.connection.encryptionEnabled = true) (hable : s.connection.toChannel.Able)
    (h : IsLogon payload) :
    Answered ctx s (handleLogin ctx env (txnCodeOf payload) payload s) := by
  rw [handleLogin, if_neg (by simp [h.1, h.2])]
  simp only [sendLogonResponse, hwritten]
  -- the logged-in user is set before the response goes out
  obtain ⟨done, t, owed, hdone, hanswers⟩ := @message_answers ctx
    { s with connection := { s.connection with
      loggedInUserId := byteswap (SignOnInPayload.ofBytes payload).userId } } s henabled hable
    (.logonResponse _) rfl _
  exact ⟨done, t, owed, hdone, hanswers.frames, hanswers.clear, hanswers.input, hanswers.closed,
    hanswers.ended, hanswers.responses, hanswers.calls, hanswers.ready⟩

/-- Every payload that the phase expects is answered. -/
theorem handlePayload_answers (hwritten : ∀ k, env.written k = true)
    (henabled : s.connection.encryptionEnabled =
      decide (s.connection.phase ≠ .awaitSecureBoxRegistration))
    (hable : s.connection.toChannel.Able)
    (h : expected ctx.ticket s.connection.phase payload ≠ none) :
    Answered ctx s (handlePayload ctx env payload s) := by
  obtain ⟨phase', hexpected⟩ := Option.ne_none_iff_exists'.mp h
  have hlength : ¬ payload.length < 2 := Nat.not_lt.mpr (expected_known hexpected).1
  rw [handlePayload, if_neg hlength]
  cases hphase : s.connection.phase with
  | awaitSecureBoxRegistration =>
      rw [hphase] at hexpected henabled
      exact registration_answers hwritten henabled (expected_eq_some hexpected).1
  | awaitBoxSignOn =>
      rw [hphase] at hexpected henabled
      exact boxSignOn_answers hwritten henabled hable (expected_eq_some hexpected).1
  | awaitLogin =>
      rw [hphase] at hexpected henabled
      exact login_answers hwritten henabled hable (expected_eq_some hexpected).1
  | ready =>
      rw [hphase] at hexpected henabled
      exact ready_answers hwritten henabled hable hphase (expected_eq_some hexpected).1

/-- A request of the table that has another size than the table says. -/
theorem size_refused {code : UInt16} {size : Nat} {handled : Handled} {error : String}
    (hnot : ¬ IsReadyPayload payload) (hcode : txnCodeOf payload = code)
    (hmem : (code, size) ∈ readySizes) :
    ∃ message, (if payload.length ≠ size then raise error s else handled) = ([], s, some message) := by
  rw [← hcode] at hmem
  rw [if_pos fun hsize => hnot ((isReadyPayload_iff hmem).mpr hsize)]
  exact ⟨_, rfl⟩

theorem ready_refused (hnot : ¬ IsReadyPayload payload) (hlength : 2 ≤ payload.length) :
    ∃ message, handleReadyPayload ctx env (txnCodeOf payload) payload s = ([], s, some message) := by
  rw [handleReadyPayload]
  split
  · rename_i hcode
    exact size_refused hnot hcode (by decide)
  split
  · rename_i hcode
    exact size_refused hnot hcode (by decide)
  split
  · rename_i hcode
    exact size_refused hnot hcode (by decide)
  split
  · rename_i hcode
    exact absurd ⟨hlength, .inl hcode⟩ hnot
  split
  · rename_i hcode
    exact size_refused hnot hcode (by decide)
  split
  · rename_i hcode
    exact size_refused hnot hcode (by decide)
  split
  · rename_i hcode
    exact size_refused hnot hcode (by decide)
  · exact ⟨_, rfl⟩

/-- The messages of the answer, sent one after another, secure the channel. -/
theorem Answers.sendAll {owed : List EngineEvent} (h : Answers ctx s done t owed) :
    ∃ wire channel, s.connection.toChannel.sendPayloads ctx.prims
        ((sentMessages done).map Message.bytes) = .ok (wire, channel) ∧
      Lib.sendAll (sendSecuring ctx) ((sentMessages done).map Message.bytes)
        s.connection.toChannel.outgoing = .ok (wire, t.connection.toChannel.outgoing) := by
  obtain ⟨wire, channel, hwire, -, hchannel⟩ := h.frames
  refine ⟨wire, channel, hwire, ?_⟩
  rw [hchannel]
  cases henabled : s.connection.encryptionEnabled with
  | true =>
      rw [secured_of_enabled ((sendPayloads_enabled hwire).trans henabled)]
      exact sendAll_securing henabled hwire
  | false =>
      obtain ⟨message, hone, -⟩ := h.clear henabled
      rw [hone] at hwire ⊢
      exact sendAll_securing_one hwire

/-- No payload but an expected one does anything. -/
theorem handlePayload_refused (h : expected ctx.ticket s.connection.phase payload = none) :
    ∃ message, handlePayload ctx env payload s = ([], s, some message) := by
  rw [handlePayload]
  split
  · exact ⟨_, rfl⟩
  rename_i hlength
  cases hphase : s.connection.phase with
  | awaitSecureBoxRegistration =>
      rw [hphase] at h
      have hnot : ¬ IsRegistration ctx.ticket payload := by simpa [expected] using h
      simp only [handleSecureBoxRegistration]
      split
      · exact ⟨_, rfl⟩
      split
      · exact ⟨_, rfl⟩
      rename_i hheader hbox
      rw [not_or, not_not, not_not] at hheader
      exact absurd ⟨hheader.1, hheader.2, not_not.mp hbox⟩ hnot
  | awaitBoxSignOn =>
      rw [hphase] at h
      have hnot : ¬ IsBoxSignOn ctx.ticket payload := by simpa [expected] using h
      simp only [handleBoxSignOn]
      split
      · exact ⟨_, rfl⟩
      split
      · exact ⟨_, rfl⟩
      rename_i hheader hvalid
      rw [not_or, not_not, not_not] at hheader
      have hvalid' := boxSignOnValid_iff.mp (by simpa using hvalid)
      exact absurd ⟨hheader.1, hheader.2, hvalid'⟩ hnot
  | awaitLogin =>
      rw [hphase] at h
      have hnot : ¬ IsLogon payload := by simpa [expected] using h
      simp only [handleLogin]
      split
      · exact ⟨_, rfl⟩
      rename_i hheader
      rw [not_or, not_not, not_not] at hheader
      exact absurd hheader hnot
  | ready =>
      rw [hphase] at h
      have hnot : ¬ IsReadyPayload payload := by simpa [expected] using h
      exact ready_refused hnot (Nat.not_lt.mp hlength)

end Payloads

end NseFoExchangeSim.Server
