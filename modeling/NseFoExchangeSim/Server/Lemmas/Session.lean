import NseFoExchangeSim.Lib.Fallible
import NseFoExchangeSim.Server.Connection

/-!
# What a turn of a session does

Every way a payload can be handled, and every way a step of the session machine can go, by what it does
to the phase and to the encryption of the session.
-/

namespace NseFoExchangeSim.Server

open Lib Protocol Engine

/-! ## What a phase expects -/

/-- A secure-box registration with the ticket's box. -/
def IsRegistration (ticket : SessionTicket) (payload : List UInt8) : Prop :=
  txnCodeOf payload = kTxnSecureBoxRegistrationRequest ∧
    payload.length = secureBoxRegistrationRequestSize ∧ byteswap (load16 payload 40) = ticket.boxId

/-- A box sign-on with the ticket's box and session key. -/
def IsBoxSignOn (ticket : SessionTicket) (payload : List UInt8) : Prop :=
  txnCodeOf payload = kTxnBoxSignOnRequestIn ∧ payload.length = boxSignOnRequestSize ∧
    byteswap (load16 payload 40) = ticket.boxId ∧ byteswap (load64 payload 52) = ticket.sessionKey

def IsLogon (payload : List UInt8) : Prop :=
  txnCodeOf payload = kTxnLogonRequest ∧ payload.length = signOnInSize

/-- The transaction codes of the ready phase with the sizes of their payloads, except the heartbeat,
which may have any size. -/
def readySizes : List (UInt16 × Nat) :=
  [(kTxnSystemInfoRequest, systemInfoRequestSize),
    (kTxnUpdateLocalDatabase, updateLocalDatabaseRequestSize),
    (kTxnMessageDownloadRequest, messageDownloadRequestSize),
    (kTxnOrderEntryTrimmed, orderEntryRequestSize),
    (kTxnOrderModificationTrimmed, orderUpdateRequestSize),
    (kTxnOrderCancellationTrimmed, orderUpdateRequestSize)]

def IsReadyPayload (payload : List UInt8) : Prop :=
  2 ≤ payload.length ∧
    (txnCodeOf payload = kTxnHeartbeat ∨ (txnCodeOf payload, payload.length) ∈ readySizes)

instance (ticket : SessionTicket) (payload : List UInt8) : Decidable (IsRegistration ticket payload) :=
  inferInstanceAs (Decidable (_ ∧ _ ∧ _))

instance (ticket : SessionTicket) (payload : List UInt8) : Decidable (IsBoxSignOn ticket payload) :=
  inferInstanceAs (Decidable (_ ∧ _ ∧ _ ∧ _))

instance (payload : List UInt8) : Decidable (IsLogon payload) := inferInstanceAs (Decidable (_ ∧ _))

instance (payload : List UInt8) : Decidable (IsReadyPayload payload) :=
  inferInstanceAs (Decidable (_ ∧ (_ ∨ _)))

/-- The phase after a payload, unless the payload violates the phase. -/
def expected (ticket : SessionTicket) (phase : Phase) (payload : List UInt8) : Option Phase :=
  match phase with
  | .awaitSecureBoxRegistration =>
      if IsRegistration ticket payload then some .awaitBoxSignOn else none
  | .awaitBoxSignOn => if IsBoxSignOn ticket payload then some .awaitLogin else none
  | .awaitLogin => if IsLogon payload then some .ready else none
  | .ready => if IsReadyPayload payload then some .ready else none

/-- What a step from a phase of the handshake says of the payload. -/
theorem expected_eq_some {ticket : SessionTicket} {phase phase' : Phase} {payload : List UInt8}
    (h : expected ticket phase payload = some phase') :
    match phase with
    | .awaitSecureBoxRegistration => IsRegistration ticket payload ∧ phase' = .awaitBoxSignOn
    | .awaitBoxSignOn => IsBoxSignOn ticket payload ∧ phase' = .awaitLogin
    | .awaitLogin => IsLogon payload ∧ phase' = .ready
    | .ready => IsReadyPayload payload ∧ phase' = .ready := by
  cases phase with
  | awaitSecureBoxRegistration => simpa [expected, eq_comm] using h
  | awaitBoxSignOn => simpa [expected, eq_comm] using h
  | awaitLogin => simpa [expected, eq_comm] using h
  | ready => simpa [expected, eq_comm] using h

/-- The transaction codes that some phase expects. -/
def expectedCodes : List UInt16 :=
  [kTxnSecureBoxRegistrationRequest, kTxnBoxSignOnRequestIn, kTxnLogonRequest, kTxnHeartbeat] ++
    readySizes.map Prod.fst

/-- A payload that is expected has a transaction code, one of these. -/
theorem expected_known {ticket : SessionTicket} {phase phase' : Phase} {payload : List UInt8}
    (h : expected ticket phase payload = some phase') :
    2 ≤ payload.length ∧ txnCodeOf payload ∈ expectedCodes := by
  cases phase with
  | awaitSecureBoxRegistration =>
      obtain ⟨⟨hcode, hsize, -⟩, -⟩ := expected_eq_some h
      rw [hcode, hsize]
      decide
  | awaitBoxSignOn =>
      obtain ⟨⟨hcode, hsize, -⟩, -⟩ := expected_eq_some h
      rw [hcode, hsize]
      decide
  | awaitLogin =>
      obtain ⟨⟨hcode, hsize⟩, -⟩ := expected_eq_some h
      rw [hcode, hsize]
      decide
  | ready =>
      obtain ⟨⟨hlength, hcode | hlisted⟩, -⟩ := expected_eq_some h
      · rw [hcode]
        exact ⟨hlength, by decide⟩
      · exact ⟨hlength, List.mem_append_right _ (List.mem_map_of_mem hlisted)⟩

/-! ## Handling a payload -/

section Handling

variable {ctx : SessionContext} {env : TurnEnv} {s s' s'' : SessionState}

/-- The session stands where it stood. -/
structure SessionState.Same (s s' : SessionState) : Prop where
  phase : s'.connection.phase = s.connection.phase
  encryption : s'.connection.encryptionEnabled = s.connection.encryptionEnabled
  ended : s'.ended = s.ended

theorem SessionState.Same.refl (s : SessionState) : s.Same s := ⟨rfl, rfl, rfl⟩

theorem SessionState.Same.trans (h : s.Same s') (h' : s'.Same s'') : s.Same s'' :=
  ⟨h'.phase.trans h.phase, h'.encryption.trans h.encryption, h'.ended.trans h.ended⟩

theorem sendPayload_enabled {prims : Primitives} {channel channel' : Channel}
    {payload frame : List UInt8} (h : channel.sendPayload prims payload = .ok (frame, channel')) :
    channel'.encryptionEnabled = channel.encryptionEnabled := by
  obtain ⟨_, hencrypt, hreturn⟩ := bind_eq_ok h
  have henabled := congrArg Channel.encryptionEnabled (Channel.encrypt_frame hencrypt)
  cases hreturn
  exact henabled

/-- A message goes out, written or not, unless it cannot be encrypted. -/
theorem sendMessage_cases (ctx : SessionContext) (message : Message) (written : Bool)
    (s : SessionState) :
    (∃ s', s.Same s' ∧ sendMessage ctx message written s =
      ([.sent s.connection.encryptionEnabled message written], s',
        if written then none else some "socket write failed")) ∨
    ∃ error, sendMessage ctx message written s = ([], s, some error) := by
  rw [sendMessage]
  cases hsend : s.connection.toChannel.sendPayload ctx.prims message.bytes with
  | error error => exact .inr ⟨error, rfl⟩
  | ok result =>
      obtain ⟨frame, channel⟩ := result
      refine .inl ⟨_, ?_, rfl⟩
      exact ⟨rfl, sendPayload_enabled hsend, rfl⟩

/-- What dispatching does: events are sent, and the engine is told when that fails. -/
def Dispatched (encrypted : Bool) (done : List SessionEvent) : Prop :=
  ∀ e ∈ done, (∃ response written, e = .sent encrypted (.event response) written) ∨ e = .sessionClosed

theorem closeSession_same (s : SessionState) : s.Same (closeSession ctx s).2 := ⟨rfl, rfl, rfl⟩

theorem dispatchEvent_cases (event : EngineEvent) (written : Bool) (s : SessionState) :
    s.Same (dispatchEvent ctx event written s).2 ∧
      Dispatched s.connection.encryptionEnabled (dispatchEvent ctx event written s).1 := by
  rw [dispatchEvent]
  split
  · exact ⟨.refl s, by simp [Dispatched]⟩
  · rcases sendMessage_cases ctx (.event (responseTo ctx.cfg.config event)) written s with
      ⟨s', hsame, hsent⟩ | ⟨error, hsent⟩
    · rw [hsent]
      cases written with
      | true => exact ⟨hsame, fun e he => .inl ⟨_, _, List.mem_singleton.mp he⟩⟩
      | false =>
          refine ⟨hsame.trans (closeSession_same s'), fun e he => ?_⟩
          rcases List.mem_cons.mp he with rfl | he
          · exact .inl ⟨_, _, rfl⟩
          · exact .inr (List.mem_singleton.mp he)
    · rw [hsent]
      exact ⟨closeSession_same s, fun e he => .inr (List.mem_singleton.mp he)⟩

theorem dispatchEvents_cases (events : List EngineEvent) (k : Nat) (s : SessionState) :
    s.Same (dispatchEvents ctx env events k s).2 ∧
      Dispatched s.connection.encryptionEnabled (dispatchEvents ctx env events k s).1 := by
  induction events generalizing k s with
  | nil => exact ⟨.refl s, by simp [Dispatched, dispatchEvents]⟩
  | cons event events ih =>
      obtain ⟨hsame, hfirst⟩ := @dispatchEvent_cases ctx event (env.written k) s
      obtain ⟨hrest, hlater⟩ := ih (k + 1) (dispatchEvent ctx event (env.written k) s).2
      refine ⟨hsame.trans hrest, fun e he => ?_⟩
      rcases List.mem_append.mp he with he | he
      · exact hfirst e he
      · rw [hsame.encryption] at hlater
        exact hlater e he

/-- The message answers a secure-box registration. -/
def Message.answersRegistration : Message → Bool
  | .secureBoxRegistrationResponse _ => true
  | _ => false

/-- What handling a payload can come to. -/
inductive Outcome (ctx : SessionContext) (s : SessionState) (payload : List UInt8) : Handled → Prop
  /-- The payload violates the phase. -/
  | violation {t message} (hphase : expected ctx.ticket s.connection.phase payload = none)
      (hsame : s.Same t) : Outcome ctx s payload ([], t, some message)
  /-- The response could not be sent, or was not written. -/
  | failure {sent t error} (hphase : expected ctx.ticket s.connection.phase payload ≠ none)
      (hsame : s.Same t)
      (hsent : sent = [] ∨ ∃ message, sent = [.sent s.connection.encryptionEnabled message false]) :
      Outcome ctx s payload (sent, t, some error)
  | registration {message t} (hmessage : message.answersRegistration = true)
      (hphase : expected ctx.ticket s.connection.phase payload = some t.connection.phase)
      (hencryption : t.connection.encryptionEnabled = true) (hended : t.ended = s.ended) :
      Outcome ctx s payload
        ([.sent s.connection.encryptionEnabled message true], t, none)
  | answer {message t} (hmessage : message.answersRegistration = false)
      (hphase : expected ctx.ticket s.connection.phase payload = some t.connection.phase)
      (hencryption : t.connection.encryptionEnabled = s.connection.encryptionEnabled)
      (hended : t.ended = s.ended) :
      Outcome ctx s payload ([.sent s.connection.encryptionEnabled message true], t, none)
  | heartbeat {t} (hphase : expected ctx.ticket s.connection.phase payload = some s.connection.phase)
      (hsame : s.Same t) : Outcome ctx s payload ([], t, none)
  | call {op done t} (hready : s.connection.phase = .ready)
      (hphase : expected ctx.ticket s.connection.phase payload = some s.connection.phase)
      (hsame : s.Same t) (hdone : Dispatched s.connection.encryptionEnabled done) :
      Outcome ctx s payload (.called op :: done, t, none)

/-- The outcome depends on where the session stands only. -/
theorem Outcome.ofSame {payload : List UInt8} {handled : Handled} (hsame : s.Same s')
    (h : Outcome ctx s' payload handled) : Outcome ctx s payload handled := by
  cases h with
  | violation hphase hsame' =>
      rw [hsame.phase] at hphase
      exact .violation hphase (hsame.trans hsame')
  | failure hphase hsame' hsent =>
      rw [hsame.phase] at hphase
      rw [hsame.encryption] at hsent
      exact .failure hphase (hsame.trans hsame') hsent
  | registration hmessage hphase hencryption hended =>
      rw [hsame.phase] at hphase
      rw [hsame.encryption]
      exact .registration hmessage hphase hencryption (hended.trans hsame.ended)
  | answer hmessage hphase hencryption hended =>
      rw [hsame.phase] at hphase
      rw [hsame.encryption] at hencryption ⊢
      exact .answer hmessage hphase hencryption (hended.trans hsame.ended)
  | heartbeat hphase hsame' =>
      rw [hsame.phase] at hphase
      exact .heartbeat hphase (hsame.trans hsame')
  | call hready hphase hsame' hdone =>
      rw [hsame.phase] at hready hphase
      rw [hsame.encryption] at hdone
      exact .call hready hphase (hsame.trans hsame') hdone

/-- A response that has been written leads to the next phase. -/
theorem Outcome.ofAnswer {payload : List UInt8} {message : Message} {phase : Phase}
    (written : Bool) (hmessage : message.answersRegistration = false)
    (hphase : expected ctx.ticket s.connection.phase payload = some phase)
    {next : SessionState → Handled}
    (hnext : ∀ s', s.Same s' → ∃ s'', next s' = ([], s'', none) ∧ s''.connection.phase = phase ∧
      s''.connection.encryptionEnabled = s.connection.encryptionEnabled ∧ s''.ended = s.ended) :
    Outcome ctx s payload ((sendMessage ctx message written s).andThen next) := by
  rcases sendMessage_cases ctx message written s with ⟨s', hsame, hsent⟩ | ⟨error, hsent⟩
  · rw [hsent, Handled.andThen]
    cases written with
    | true =>
        obtain ⟨s'', heq, hphase', hencryption, hended⟩ := hnext s' hsame
        simp only [heq, if_true, List.append_nil]
        exact .answer hmessage (hphase.trans (congrArg some hphase'.symm)) hencryption hended
    | false => exact .failure (by simp [hphase]) hsame (.inr ⟨message, rfl⟩)
  · rw [hsent]
    exact .failure (by simp [hphase]) (.refl s) (.inl rfl)

theorem handleSecureBoxRegistration_outcome {payload : List UInt8}
    (hphase : s.connection.phase = .awaitSecureBoxRegistration) :
    Outcome ctx s payload
      (handleSecureBoxRegistration ctx env (txnCodeOf payload) payload s) := by
  rw [handleSecureBoxRegistration]
  by_cases hregistration : IsRegistration ctx.ticket payload
  · have hexpected : expected ctx.ticket s.connection.phase payload = some .awaitBoxSignOn := by
      simp only [hphase, expected, if_pos hregistration]
    obtain ⟨hcode, hsize, hbox⟩ := hregistration
    rw [if_neg (by simp [hcode, hsize]), if_neg (by simpa using hbox),
      sendSecureBoxRegistrationResponse]
    rcases sendMessage_cases ctx (.secureBoxRegistrationResponse (initializeMessageHeader (env.now 0)
      kTxnSecureBoxRegistrationResponse (byteswap (load32 payload 8)) messageHeaderSize))
      (env.written 0) s with ⟨s', hsame, hsent⟩ | ⟨error, hsent⟩
    · simp only [hsent, Handled.andThen]
      cases env.written 0 with
      | true => exact .registration rfl hexpected rfl hsame.ended
      | false => exact .failure (by simp [hexpected]) hsame (.inr ⟨_, rfl⟩)
    · simp only [hsent, Handled.andThen]
      exact .failure (by simp [hexpected]) (.refl s) (.inl rfl)
  · have hexpected : expected ctx.ticket s.connection.phase payload = none := by
      simp only [hphase, expected, if_neg hregistration]
    split
    · exact .violation hexpected (.refl s)
    · rename_i hheader
      rw [not_or, not_not, not_not] at hheader
      rw [if_pos fun hbox => hregistration ⟨hheader.1, hheader.2, hbox⟩]
      exact .violation hexpected (.refl s)

theorem boxSignOnValid_iff {ticket : SessionTicket} {payload : List UInt8} :
    boxSignOnValid ticket (.ofBytes payload) = true ↔
      byteswap (load16 payload 40) = ticket.boxId ∧
        byteswap (load64 payload 52) = ticket.sessionKey := by
  simp [boxSignOnValid, BoxSignOnRequestPayload.ofBytes]

theorem handleBoxSignOn_outcome {payload : List UInt8}
    (hphase : s.connection.phase = .awaitBoxSignOn) :
    Outcome ctx s payload (handleBoxSignOn ctx env (txnCodeOf payload) payload s) := by
  rw [handleBoxSignOn]
  by_cases hsignOn : IsBoxSignOn ctx.ticket payload
  · have hexpected : expected ctx.ticket s.connection.phase payload = some .awaitLogin := by
      simp only [hphase, expected, if_pos hsignOn]
    obtain ⟨hcode, hsize, hvalid⟩ := hsignOn
    rw [if_neg (by simp [hcode, hsize]), if_neg (by simpa using boxSignOnValid_iff.mpr hvalid),
      sendBoxSignOnResponse]
    exact .ofAnswer _ rfl hexpected fun s' hsame => ⟨_, rfl, rfl, hsame.encryption, hsame.ended⟩
  · have hexpected : expected ctx.ticket s.connection.phase payload = none := by
      simp only [hphase, expected, if_neg hsignOn]
    split
    · exact .violation hexpected (.refl s)
    · rename_i hheader
      rw [not_or, not_not, not_not] at hheader
      have hinvalid : ¬ boxSignOnValid ctx.ticket (.ofBytes payload) = true := fun hvalid =>
        hsignOn ⟨hheader.1, hheader.2, boxSignOnValid_iff.mp hvalid⟩
      rw [if_pos (by simpa using hinvalid)]
      exact .violation hexpected (.refl s)

theorem handleLogin_outcome {payload : List UInt8} (hphase : s.connection.phase = .awaitLogin) :
    Outcome ctx s payload (handleLogin ctx env (txnCodeOf payload) payload s) := by
  rw [handleLogin]
  by_cases hlogon : IsLogon payload
  · have hexpected : expected ctx.ticket s.connection.phase payload = some .ready := by
      simp only [hphase, expected, if_pos hlogon]
    rw [if_neg (by simp [hlogon.1, hlogon.2])]
    simp only [sendLogonResponse]
    -- the logged-in user is set before the response goes out
    refine .ofSame (⟨rfl, rfl, rfl⟩ : s.Same { s with connection := { s.connection with
      loggedInUserId := byteswap (SignOnInPayload.ofBytes payload).userId } }) ?_
    apply Outcome.ofAnswer
    · rfl
    · exact hexpected
    · intro s' hsame
      exact ⟨_, rfl, rfl, hsame.encryption, hsame.ended⟩
  · have hexpected : expected ctx.ticket s.connection.phase payload = none := by
      simp only [hphase, expected, if_neg hlogon]
    split
    · exact .violation hexpected (.refl s)
    · rename_i hheader
      rw [not_or, not_not, not_not] at hheader
      exact absurd hheader hlogon

theorem Handled.andThen_pure (h : Handled) : h.andThen (fun s => ([], s, none)) = h := by
  obtain ⟨events, s, error⟩ := h
  cases error with
  | none => simp [Handled.andThen]
  | some message => rfl

/-- A direct response keeps the phase. -/
theorem Outcome.ofDirect {payload : List UInt8} (message : Message) (written : Bool)
    (hmessage : message.answersRegistration = false)
    (hphase : expected ctx.ticket s.connection.phase payload = some s.connection.phase) :
    Outcome ctx s payload (sendMessage ctx message written s) := by
  rw [← Handled.andThen_pure (sendMessage ctx message written s)]
  exact .ofAnswer written hmessage hphase fun s' hsame =>
    ⟨s', rfl, hsame.phase, hsame.encryption, hsame.ended⟩

theorem Outcome.ofCall {payload : List UInt8} (request : Request)
    (hready : s.connection.phase = .ready)
    (hphase : expected ctx.ticket s.connection.phase payload = some s.connection.phase) :
    Outcome ctx s payload (callEngine ctx env request s) := by
  rw [callEngine]
  obtain ⟨hsame, hdone⟩ := @dispatchEvents_cases ctx env
    (engine ctx.cfg s.engine (request.call env.call ctx.sessionId)).1 0
    { s with engine := (engine ctx.cfg s.engine (request.call env.call ctx.sessionId)).2 }
  exact .call hready hphase ⟨hsame.phase, hsame.encryption, hsame.ended⟩ hdone

/-- Every transaction code of the table has one size there, and is not the heartbeat's. -/
theorem isReadyPayload_iff {payload : List UInt8} {size : Nat}
    (hmem : (txnCodeOf payload, size) ∈ readySizes) : IsReadyPayload payload ↔ payload.length = size := by
  have honce : ∀ a ∈ readySizes, ∀ b ∈ readySizes, a.1 = b.1 → a.2 = b.2 := by decide
  have hother : ∀ a ∈ readySizes, a.1 ≠ kTxnHeartbeat ∧ 2 ≤ a.2 := by decide
  obtain ⟨hheartbeat, hsize⟩ := hother _ hmem
  constructor
  · rintro ⟨-, hcode | hlisted⟩
    · exact absurd hcode hheartbeat
    · exact honce _ hlisted _ hmem rfl
  · rintro rfl
    exact ⟨hsize, .inr hmem⟩

theorem expected_ready {payload : List UInt8} (hready : s.connection.phase = .ready)
    (h : IsReadyPayload payload) :
    expected ctx.ticket s.connection.phase payload = some s.connection.phase := by
  simp only [hready, expected, if_pos h]

/-- A request of the table is handled when it has the size that the table says. -/
theorem Outcome.ofSize {payload : List UInt8} {code : UInt16} {size : Nat} {message : String}
    {handled : Handled} (hready : s.connection.phase = .ready) (hcode : txnCodeOf payload = code)
    (hmem : (code, size) ∈ readySizes)
    (h : expected ctx.ticket s.connection.phase payload = some s.connection.phase →
      Outcome ctx s payload handled) :
    Outcome ctx s payload (if payload.length ≠ size then raise message s else handled) := by
  rw [← hcode] at hmem
  split
  · rename_i hsize
    refine .violation ?_ (.refl s)
    have hnot : ¬ IsReadyPayload payload := fun h => hsize ((isReadyPayload_iff hmem).mp h)
    simp only [hready, expected, if_neg hnot]
  · rename_i hsize
    exact h (expected_ready hready ((isReadyPayload_iff hmem).mpr (not_not.mp hsize)))

theorem handleReadyPayload_outcome {payload : List UInt8} (hready : s.connection.phase = .ready)
    (hlength : 2 ≤ payload.length) :
    Outcome ctx s payload (handleReadyPayload ctx env (txnCodeOf payload) payload s) := by
  rw [handleReadyPayload]
  split
  · rename_i hcode
    exact .ofSize hready hcode (by decide) (.ofDirect _ _ rfl)
  split
  · rename_i hcode
    exact .ofSize hready hcode (by decide) (.ofDirect _ _ rfl)
  split
  · rename_i hcode
    exact .ofSize hready hcode (by decide) (.ofDirect _ _ rfl)
  split
  · rename_i hcode
    exact .heartbeat (expected_ready hready ⟨hlength, .inl hcode⟩) (.refl s)
  split
  · rename_i hcode
    exact .ofSize hready hcode (by decide) (.ofCall _ hready)
  split
  · rename_i hcode
    exact .ofSize hready hcode (by decide) (.ofCall _ hready)
  split
  · rename_i hcode
    exact .ofSize hready hcode (by decide) (.ofCall _ hready)
  · -- no code of the table is left
    rename_i h1 h2 h3 h4 h5 h6 h7
    refine .violation ?_ (.refl s)
    have hnot : ¬ IsReadyPayload payload := by
      rintro ⟨-, hcode | hlisted⟩
      · exact h4 hcode
      · simp [readySizes, h1, h2, h3, h5, h6, h7] at hlisted
    simp only [hready, expected, if_neg hnot]

theorem handlePayload_outcome (payload : List UInt8) :
    Outcome ctx s payload (handlePayload ctx env payload s) := by
  rw [handlePayload]
  by_cases hshort : payload.length < 2
  · rw [if_pos hshort]
    refine .violation ?_ (.refl s)
    cases hexpected : expected ctx.ticket s.connection.phase payload with
    | none => rfl
    | some phase => exact absurd (expected_known hexpected).1 (by omega)
  · rw [if_neg hshort]
    cases hphase : s.connection.phase with
    | awaitSecureBoxRegistration => exact handleSecureBoxRegistration_outcome hphase
    | awaitBoxSignOn => exact handleBoxSignOn_outcome hphase
    | awaitLogin => exact handleLogin_outcome hphase
    | ready => exact handleReadyPayload_outcome hphase (by omega)

end Handling

/-! ## Steps of the machine -/

section Steps

variable {ctx : SessionContext} {s : SessionState}

theorem receivePayload_enabled {prims : Primitives} {channel channel' : Channel}
    {chunks chunks' : List (List UInt8)} {payload : List UInt8}
    (h : channel.receivePayload prims chunks = .ok (payload, channel', chunks')) :
    channel'.encryptionEnabled = channel.encryptionEnabled := by
  rw [Channel.receivePayload] at h
  obtain ⟨_, -, h⟩ := bind_eq_ok h
  simp only at h
  split at h
  · cases h
  · obtain ⟨_, -, h⟩ := bind_eq_ok h
    obtain ⟨_, hdecrypt, h⟩ := bind_eq_ok h
    have henabled := congrArg Channel.encryptionEnabled (Channel.decrypt_frame hdecrypt)
    split at h
    · cases h
    · cases h
      exact henabled

/-- What a step of the machine can come to. -/
inductive SessionEffect (ctx : SessionContext) (s : SessionState) :
    List SessionEvent → SessionState → Prop
  | quiet {done t} (hdone : Dispatched s.connection.encryptionEnabled done) (hsame : s.Same t) :
      SessionEffect ctx s done t
  | unread {t} (hrunning : s.ended = false) (hended : t.ended = true)
      (hencryption : t.connection.encryptionEnabled = s.connection.encryptionEnabled) :
      SessionEffect ctx s [.sessionClosed] t
  | handled {payload done t} (hrunning : s.ended = false)
      (houtcome : Outcome ctx s payload (done, t, none)) :
      SessionEffect ctx s (.received s.connection.encryptionEnabled payload :: done) t
  | thrown {payload done t t' message} (hrunning : s.ended = false)
      (houtcome : Outcome ctx s payload (done, t, some message)) (hended : t'.ended = true)
      (hencryption : t'.connection.encryptionEnabled = t.connection.encryptionEnabled) :
      SessionEffect ctx s
        (.received s.connection.encryptionEnabled payload :: (done ++ [.sessionClosed])) t'

/-- A session that goes on has not ended before. -/
theorem SessionEffect.running {done : List SessionEvent} {t : SessionState}
    (h : SessionEffect ctx s done t) (hstill : t.ended = false) : s.ended = false := by
  cases h with
  | quiet hdone hsame => exact hsame.ended.symm.trans hstill
  | unread hrunning hended hencryption => exact hrunning
  | handled hrunning houtcome => exact hrunning
  | thrown hrunning houtcome hended hencryption => exact hrunning

theorem turn_effect (env : TurnEnv) (arrived : List (List UInt8)) (hrunning : s.ended = false) :
    SessionEffect ctx s (turn ctx env { s with input := s.input ++ arrived }).1
      (turn ctx env { s with input := s.input ++ arrived }).2 := by
  rw [turn]
  cases hreceive : s.connection.toChannel.receivePayload ctx.prims (s.input ++ arrived) with
  | error message => exact .unread hrunning rfl rfl
  | ok result =>
      obtain ⟨payload, channel, input⟩ := result
      have hsame : s.Same
          { s with connection := { s.connection with toChannel := channel }, input := input } :=
        ⟨rfl, receivePayload_enabled hreceive, rfl⟩
      have houtcome := @handlePayload_outcome ctx env
        { s with connection := { s.connection with toChannel := channel }, input := input } payload
      simp only
      generalize handlePayload ctx env payload
        { s with connection := { s.connection with toChannel := channel }, input := input } =
          handled at houtcome ⊢
      obtain ⟨done, t, error⟩ := handled
      cases error with
      | none => exact .handled hrunning (houtcome.ofSame hsame)
      | some message => exact .thrown hrunning (houtcome.ofSame hsame) rfl rfl

theorem session_effect (a : SessionAction) :
    SessionEffect ctx s (session ctx s a).1 (session ctx s a).2 := by
  cases a with
  | turn arrived env =>
      rw [session]
      split
      · exact .quiet (by simp [Dispatched]) (.refl s)
      · rename_i hrunning
        exact turn_effect env arrived (by simpa using hrunning)
  | dispatch event written =>
      obtain ⟨hsame, hdone⟩ := @dispatchEvent_cases ctx event written s
      exact .quiet hdone hsame
  | other op => exact .quiet (by simp [Dispatched, session]) ⟨rfl, rfl, rfl⟩

end Steps

end NseFoExchangeSim.Server
