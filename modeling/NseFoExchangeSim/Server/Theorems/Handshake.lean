import NseFoExchangeSim.Engine.Requests
import NseFoExchangeSim.Server.Lemmas.Session
import NseFoExchangeSim.Server.Theorems.Framing

/-!
# The handshake

What a session has done says which phase it is in. An order reaches the engine in the ready phase only,
frames are encrypted after the answer to the registration, and a payload that violates the phase is the
last one.
-/

namespace NseFoExchangeSim.Server

open Lib Protocol Engine

/-! ## What a history says -/

namespace SessionEvent

def payload? : SessionEvent → Option (List UInt8)
  | .received _ payload => some payload
  | _ => none

def op? : SessionEvent → Option Op
  | .called op => some op
  | _ => none

/-- Whether the frame was encrypted, of an event with a frame. -/
def frame? : SessionEvent → Option Bool
  | .received encrypted _ => some encrypted
  | .sent encrypted _ _ => some encrypted
  | _ => none

/-- The answer to a secure-box registration has been written. -/
def answersRegistration : SessionEvent → Bool
  | .sent _ message true => message.answersRegistration
  | _ => false

end SessionEvent

def receivedPayloads (h : List SessionEvent) : List (List UInt8) := h.filterMap (·.payload?)

def registrationAnswered (h : List SessionEvent) : Bool := h.any (·.answersRegistration)

/-- The phase after some payloads, unless one of them violates its phase. -/
def phaseAfter (ticket : SessionTicket) (payloads : List (List UInt8)) : Option Phase :=
  payloads.foldlM (expected ticket) .awaitSecureBoxRegistration

/-- The first three payloads are those of the handshake. -/
def HandshakeDone (ticket : SessionTicket) (payloads : List (List UInt8)) : Prop :=
  ∃ registration signOn logon rest, payloads = registration :: signOn :: logon :: rest ∧
    IsRegistration ticket registration ∧ IsBoxSignOn ticket signOn ∧ IsLogon logon

/-- The payload violates the phase that the earlier ones have led to. -/
def Violates (ticket : SessionTicket) (earlier : List (List UInt8)) (payload : List UInt8) : Prop :=
  (phaseAfter ticket earlier).bind (expected ticket · payload) = none

section Phases

variable {ticket : SessionTicket} {payloads : List (List UInt8)}

theorem phaseAfter_append (more : List (List UInt8)) :
    phaseAfter ticket (payloads ++ more) =
      (phaseAfter ticket payloads).bind fun phase => more.foldlM (expected ticket) phase :=
  List.foldlM_append

theorem phaseAfter_concat {payload : List UInt8} :
    phaseAfter ticket (payloads ++ [payload]) =
      (phaseAfter ticket payloads).bind (expected ticket · payload) := by
  rw [phaseAfter_append]
  congr 1
  funext phase
  simp

/-- The ready phase comes after the handshake. -/
theorem handshakeDone_of_ready (h : phaseAfter ticket payloads = some .ready) :
    HandshakeDone ticket payloads := by
  cases payloads with
  | nil => cases h
  | cons registration payloads =>
      obtain ⟨phase, hfirst, h⟩ := Option.bind_eq_some_iff.mp h
      obtain ⟨hregistration, rfl⟩ := expected_eq_some hfirst
      cases payloads with
      | nil => cases h
      | cons signOn payloads =>
          obtain ⟨phase, hsecond, h⟩ := Option.bind_eq_some_iff.mp h
          obtain ⟨hsignOn, rfl⟩ := expected_eq_some hsecond
          cases payloads with
          | nil => cases h
          | cons logon payloads =>
              obtain ⟨phase, hthird, -⟩ := Option.bind_eq_some_iff.mp h
              exact ⟨registration, signOn, logon, payloads, rfl, hregistration, hsignOn,
                (expected_eq_some hthird).1⟩

end Phases

/-! ## Every run follows the phases -/

/-- What holds of a history that has led to a phase, with the encryption off or on, and with `run` ended
or not. -/
structure Follows (ticket : SessionTicket) (h : List SessionEvent) (phase : Phase)
    (encrypted ended : Bool) : Prop where
  phase : ended = false → phaseAfter ticket (receivedPayloads h) = some phase
  encryption : encrypted = registrationAnswered h
  calls : InContext (fun before e => ∀ op, e.op? = some op →
    phaseAfter ticket (receivedPayloads before) = some .ready) h
  frames : InContext (fun before e => ∀ encrypted, e.frame? = some encrypted →
    encrypted = registrationAnswered before) h
  violation : ∀ before encrypted payload after, h = before ++ .received encrypted payload :: after →
    Violates ticket (receivedPayloads before) payload →
      ended = true ∧ ∃ rest, after = .sessionClosed :: rest ∧
        receivedPayloads rest = [] ∧ rest.filterMap (·.op?) = []

section Run

variable {ticket : SessionTicket} {h es : List SessionEvent} {phase phase' : Phase}
  {encrypted ended ended' : Bool}

@[simp] theorem receivedPayloads_append (h h' : List SessionEvent) :
    receivedPayloads (h ++ h') = receivedPayloads h ++ receivedPayloads h' :=
  List.filterMap_append

@[simp] theorem registrationAnswered_append (h h' : List SessionEvent) :
    registrationAnswered (h ++ h') = (registrationAnswered h || registrationAnswered h') :=
  List.any_append

/-- Nothing in these events is a payload, a call, an answer to a registration, or a frame that was
encrypted otherwise. -/
structure Plain (encrypted : Bool) (es : List SessionEvent) : Prop where
  payloads : receivedPayloads es = []
  ops : es.filterMap (·.op?) = []
  answers : registrationAnswered es = false
  frames : ∀ e ∈ es, ∀ b, e.frame? = some b → b = encrypted

theorem Dispatched.plain (hes : Dispatched encrypted es) : Plain encrypted es := by
  refine ⟨?_, ?_, ?_, ?_⟩
  · rw [receivedPayloads, List.filterMap_eq_nil_iff]
    intro e he
    rcases hes e he with ⟨response, written, rfl⟩ | rfl <;> rfl
  · rw [List.filterMap_eq_nil_iff]
    intro e he
    rcases hes e he with ⟨response, written, rfl⟩ | rfl <;> rfl
  · rw [registrationAnswered, List.any_eq_false]
    intro e he
    rcases hes e he with ⟨response, written, rfl⟩ | rfl
    · cases written <;> simp [SessionEvent.answersRegistration, Message.answersRegistration]
    · simp [SessionEvent.answersRegistration]
  · intro e he b hb
    rcases hes e he with ⟨response, written, rfl⟩ | rfl
    · cases hb
      rfl
    · cases hb

theorem plain_nil : Plain encrypted [] := by
  apply Dispatched.plain
  intro e he
  cases he

theorem plain_closed : Plain encrypted [.sessionClosed] :=
  Dispatched.plain fun _ he => .inr (List.mem_singleton.mp he)

theorem Plain.append {es' : List SessionEvent} (hes : Plain encrypted es)
    (hes' : Plain encrypted es') : Plain encrypted (es ++ es') where
  payloads := by rw [receivedPayloads_append, hes.payloads, hes'.payloads, List.nil_append]
  ops := by rw [List.filterMap_append, hes.ops, hes'.ops, List.nil_append]
  answers := by rw [registrationAnswered_append, hes.answers, hes'.answers, Bool.or_self]
  frames e he := (List.mem_append.mp he).elim (hes.frames e) (hes'.frames e)

theorem plain_sent {message : Message} (written : Bool)
    (hmessage : written = false ∨ message.answersRegistration = false) :
    Plain encrypted [.sent encrypted message written] := by
  refine ⟨rfl, rfl, ?_, ?_⟩
  · cases written with
    | false => simp [registrationAnswered, SessionEvent.answersRegistration]
    | true =>
        have hnot : message.answersRegistration = false := hmessage.resolve_left nofun
        simp [registrationAnswered, SessionEvent.answersRegistration, hnot]
  · intro e he b hb
    rw [List.mem_singleton.mp he] at hb
    cases hb
    rfl

/-- Plain events change nothing, except that they may end `run`. -/
theorem Follows.plain (hf : Follows ticket h phase encrypted ended) (hes : Plain encrypted es)
    (hended : ended = true → ended' = true) :
    Follows ticket (h ++ es) phase encrypted ended' where
  phase hrunning := by
    rw [receivedPayloads_append, hes.payloads, List.append_nil]
    refine hf.phase ?_
    cases ended with
    | false => rfl
    | true => rw [hended rfl] at hrunning; cases hrunning
  encryption := by
    rw [registrationAnswered_append, hes.answers, Bool.or_false]
    exact hf.encryption
  calls := by
    refine hf.calls.append fun mid e after heq op hop => ?_
    have hnone := List.filterMap_eq_nil_iff.mp hes.ops e (by rw [heq]; simp)
    rw [hop] at hnone
    cases hnone
  frames := by
    refine hf.frames.append fun mid e after heq b hb => ?_
    have hmid : registrationAnswered mid = false := by
      have hall := hes.answers
      rw [heq, registrationAnswered_append, Bool.or_eq_false_iff] at hall
      exact hall.1
    rw [registrationAnswered_append, hmid, Bool.or_false, ← hf.encryption]
    exact hes.frames e (by rw [heq]; simp) b hb
  violation before b payload after heq hviolates := by
    rcases split_append heq with ⟨mid, hearlier, rfl⟩ | ⟨mid, -, hlater⟩
    · obtain ⟨hrun, rest, rfl, hpayloads, hops⟩ := hf.violation before b payload mid hearlier hviolates
      refine ⟨hended hrun, rest ++ es, rfl, ?_, ?_⟩
      · rw [receivedPayloads_append, hpayloads, hes.payloads, List.nil_append]
      · rw [List.filterMap_append, hops, hes.ops, List.nil_append]
    · have hnone := List.filterMap_eq_nil_iff.mp hes.payloads (.received b payload)
        (by rw [hlater]; simp)
      cases hnone

/-- The phase does not matter once `run` has ended. -/
theorem Follows.ofEnded (hf : Follows ticket h phase encrypted true) :
    Follows ticket h phase' encrypted true :=
  { hf with phase := nofun }

/-- A payload that the phase expects leads to the next phase. -/
theorem Follows.received {payload : List UInt8} (hf : Follows ticket h phase encrypted false)
    (hexpected : expected ticket phase payload = some phase') :
    Follows ticket (h ++ [.received encrypted payload]) phase' encrypted false where
  phase _ := by
    have hpayload : receivedPayloads [.received encrypted payload] = [payload] := rfl
    rw [receivedPayloads_append, hpayload, phaseAfter_concat, hf.phase rfl]
    exact hexpected
  encryption := by
    rw [registrationAnswered_append, ← hf.encryption]
    exact (Bool.or_false encrypted).symm
  calls := hf.calls.append (.cons nofun inContext_nil)
  frames := by
    refine hf.frames.append (.cons (fun b hb => ?_) inContext_nil)
    cases hb
    rw [List.append_nil]
    exact hf.encryption
  violation before b payload' after heq hviolates := by
    rcases split_append heq with ⟨mid, hearlier, -⟩ | ⟨mid, rfl, hlater⟩
    · exact absurd (hf.violation before b payload' mid hearlier hviolates).1 nofun
    · rcases List.singleton_eq_append_iff.mp hlater with ⟨rfl, hcons⟩ | ⟨-, hnil⟩
      · cases hcons
        rw [Violates, List.append_nil, hf.phase rfl] at hviolates
        rw [Option.bind_some, hexpected] at hviolates
        cases hviolates
      · cases hnil

/-- A payload that the phase does not expect ends the session at once. -/
theorem Follows.violated {payload : List UInt8} (hf : Follows ticket h phase encrypted false) :
    Follows ticket (h ++ [.received encrypted payload, .sessionClosed]) phase' encrypted true where
  phase hrunning := by cases hrunning
  encryption := by
    rw [registrationAnswered_append, ← hf.encryption]
    exact (Bool.or_false encrypted).symm
  calls := hf.calls.append (.cons nofun (.cons nofun inContext_nil))
  frames := by
    refine hf.frames.append (.cons (fun b hb => ?_) (.cons nofun inContext_nil))
    cases hb
    rw [List.append_nil]
    exact hf.encryption
  violation before b payload' after heq hviolates := by
    refine ⟨rfl, ?_⟩
    rcases split_append heq with ⟨mid, hearlier, -⟩ | ⟨mid, -, hlater⟩
    · exact absurd (hf.violation before b payload' mid hearlier hviolates).1 nofun
    · rcases List.cons_eq_append_iff.mp hlater with ⟨-, hcons⟩ | ⟨mid', -, hrest⟩
      · cases hcons
        exact ⟨[], rfl, rfl, rfl⟩
      · rcases List.singleton_eq_append_iff.mp hrest with ⟨-, hcons⟩ | ⟨-, hnil⟩
        · cases hcons
        · cases hnil

/-- While `run` has not ended, no payload violates its phase, and an event that is no payload does not
change that. -/
theorem Follows.not_violated {e : SessionEvent} {before after : List SessionEvent} {b : Bool}
    {payload : List UInt8} (hf : Follows ticket h phase encrypted false) (he : e.payload? = none)
    (heq : h ++ [e] = before ++ .received b payload :: after) :
    ¬ Violates ticket (receivedPayloads before) payload := by
  intro hviolates
  rcases split_append heq with ⟨mid, hearlier, -⟩ | ⟨mid, -, hlater⟩
  · exact absurd (hf.violation before b payload mid hearlier hviolates).1 nofun
  · rcases List.singleton_eq_append_iff.mp hlater with ⟨-, hcons⟩ | ⟨-, hnil⟩
    · cases hcons
      cases he
    · cases hnil

/-- In the ready phase the engine may be called. -/
theorem Follows.called {op : Op} (hf : Follows ticket h .ready encrypted false) :
    Follows ticket (h ++ [.called op]) .ready encrypted false where
  phase _ := by
    rw [receivedPayloads_append]
    exact (congrArg _ (List.append_nil _)).trans (hf.phase rfl)
  encryption := by
    rw [registrationAnswered_append, ← hf.encryption]
    exact (Bool.or_false encrypted).symm
  calls := by
    refine hf.calls.append (.cons (fun _ _ => ?_) inContext_nil)
    rw [List.append_nil]
    exact hf.phase rfl
  frames := hf.frames.append (.cons nofun inContext_nil)
  violation before b payload after heq hviolates :=
    absurd hviolates (hf.not_violated rfl heq)

/-- The answer to the registration turns the encryption on. -/
theorem Follows.registered {message : Message} (hf : Follows ticket h phase encrypted false)
    (hmessage : message.answersRegistration = true) :
    Follows ticket (h ++ [.sent encrypted message true]) phase true false where
  phase _ := by
    rw [receivedPayloads_append]
    exact (congrArg _ (List.append_nil _)).trans (hf.phase rfl)
  encryption := by
    rw [registrationAnswered_append]
    simp [registrationAnswered, SessionEvent.answersRegistration, hmessage]
  calls := hf.calls.append (.cons nofun inContext_nil)
  frames := by
    refine hf.frames.append (.cons (fun b hb => ?_) inContext_nil)
    cases hb
    rw [List.append_nil]
    exact hf.encryption
  violation before b payload after heq hviolates :=
    absurd hviolates (hf.not_violated rfl heq)

/-- Handling a payload without an exception. -/
theorem Follows.handled {ctx : SessionContext} {s t : SessionState} {payload : List UInt8}
    {done : List SessionEvent}
    (hf : Follows ctx.ticket h s.connection.phase s.connection.encryptionEnabled s.ended)
    (hrunning : s.ended = false) (houtcome : Outcome ctx s payload (done, t, none)) :
    Follows ctx.ticket (h ++ .received s.connection.encryptionEnabled payload :: done)
      t.connection.phase t.connection.encryptionEnabled t.ended := by
  rw [hrunning] at hf
  rw [List.append_cons]
  cases houtcome with
  | registration hmessage hphase hencryption hended =>
      rw [hencryption, hended, hrunning]
      exact (hf.received hphase).registered hmessage
  | answer hmessage hphase hencryption hended =>
      rw [hencryption, hended, hrunning]
      exact (hf.received hphase).plain (plain_sent true (.inr hmessage)) id
  | heartbeat hphase hsame =>
      rw [hsame.phase, hsame.encryption, hsame.ended, hrunning, List.append_nil]
      exact hf.received hphase
  | @call op done _ hready hphase hsame hdone =>
      rw [hsame.phase, hsame.encryption, hsame.ended, hrunning, List.append_cons]
      rw [hready] at hphase ⊢
      rw [hready] at hf
      exact (hf.received hphase).called.plain hdone.plain id

/-- Handling a payload with an exception. -/
theorem Follows.thrown {ctx : SessionContext} {s t : SessionState} {payload : List UInt8}
    {done : List SessionEvent} {message : String}
    (hf : Follows ctx.ticket h s.connection.phase s.connection.encryptionEnabled s.ended)
    (hrunning : s.ended = false) (houtcome : Outcome ctx s payload (done, t, some message)) :
    Follows ctx.ticket
      (h ++ .received s.connection.encryptionEnabled payload :: (done ++ [.sessionClosed])) phase
      t.connection.encryptionEnabled true := by
  rw [hrunning] at hf
  cases houtcome with
  | violation hphase hsame =>
      rw [hsame.encryption]
      exact hf.violated
  | failure hphase hsame hsent =>
      obtain ⟨phase', hphase'⟩ := Option.ne_none_iff_exists'.mp hphase
      rw [hsame.encryption, List.append_cons]
      have hdone : Plain s.connection.encryptionEnabled done := by
        rcases hsent with rfl | ⟨message, rfl⟩
        · exact plain_nil
        · exact plain_sent false (.inl rfl)
      exact ((hf.received hphase').plain (hdone.append plain_closed) nofun).ofEnded

/-- Every step follows the phases. -/
theorem Follows.step {ctx : SessionContext} {s t : SessionState}
    (hf : Follows ctx.ticket h s.connection.phase s.connection.encryptionEnabled s.ended)
    (heffect : SessionEffect ctx s es t) :
    Follows ctx.ticket (h ++ es) t.connection.phase t.connection.encryptionEnabled t.ended := by
  cases heffect with
  | quiet hdone hsame =>
      rw [hsame.phase, hsame.encryption, hsame.ended]
      exact hf.plain hdone.plain id
  | unread hrunning hended hencryption =>
      rw [hencryption, hended]
      exact (hf.plain plain_closed fun _ => rfl).ofEnded
  | handled hrunning houtcome => exact hf.handled hrunning houtcome
  | thrown hrunning houtcome hended hencryption =>
      rw [hended, hencryption]
      exact hf.thrown hrunning houtcome

theorem follows_init : Follows ticket [] .awaitSecureBoxRegistration false false :=
  ⟨fun _ => rfl, rfl, inContext_nil, inContext_nil, fun before b payload after heq => by simp at heq⟩

theorem follows {ctx : SessionContext} {engine₀ : EngineState} {s : SessionState}
    (hrun : Run (session ctx) anyCall (.init engine₀) h s) :
    Follows ctx.ticket h s.connection.phase s.connection.encryptionEnabled s.ended := by
  apply Run.invariant (P := fun h (s : SessionState) =>
    Follows ctx.ticket h s.connection.phase s.connection.encryptionEnabled s.ended) _ _ hrun
  · exact follows_init
  · intro h s a _ hf _
    exact hf.step (session_effect a)

end Run

/-- An order reaches the engine only after the three messages of the handshake, the encryption is on for
exactly the frames after the answer to the registration, and nothing is handled after a payload that
violates the phase: `onSessionClosed` is called for it. -/
theorem engine_only_after_handshake {ctx : SessionContext} {engine₀ : EngineState}
    {h : List SessionEvent} {s : SessionState}
    (hrun : Run (session ctx) anyCall (.init engine₀) h s) :
    (∀ before op after, h = before ++ .called op :: after →
      HandshakeDone ctx.ticket (receivedPayloads before)) ∧
    (∀ before e after encrypted, h = before ++ e :: after → e.frame? = some encrypted →
      encrypted = registrationAnswered before) ∧
    (∀ before encrypted payload after, h = before ++ .received encrypted payload :: after →
      Violates ctx.ticket (receivedPayloads before) payload →
        s.ended = true ∧ ∃ rest, after = .sessionClosed :: rest ∧ receivedPayloads rest = [] ∧
          ∀ op, .called op ∉ rest) := by
  have hf := follows hrun
  refine ⟨fun before op after heq => ?_, fun before e after encrypted heq => ?_,
    fun before encrypted payload after heq hviolates => ?_⟩
  · exact handshakeDone_of_ready (hf.calls before _ after heq op rfl)
  · exact hf.frames before e after heq encrypted
  · obtain ⟨hended, rest, hafter, hpayloads, hops⟩ :=
      hf.violation before encrypted payload after heq hviolates
    refine ⟨hended, rest, hafter, hpayloads, fun op hop => ?_⟩
    have hnone := List.filterMap_eq_nil_iff.mp hops _ hop
    cases hnone

/-! ## A client that skips the box sign-on -/

/-- The MD5 digests of the registration and of its answer, and those of the heartbeats. -/
def intruderDigest (payload : List UInt8) : Vector UInt8 16 :=
  if payload.length = 42 then
    #v[231, 127, 17, 103, 28, 200, 71, 98, 14, 44, 173, 238, 115, 199, 133, 186]
  else if payload.length = 40 then
    #v[170, 203, 202, 207, 236, 76, 199, 62, 17, 23, 169, 55, 181, 180, 244, 102]
  else heartbeatPrimitives.md5 payload

def intruderContext : SessionContext where
  prims :=
    { md5 := intruderDigest
      aesEncrypt := heartbeatPrimitives.aesEncrypt }
  cfg := bookMatching
  ticket :=
    { peerIp := "127.0.0.1"
      boxId := 1
      sessionKey := 1
      cryptoKey := .replicate 32 0
      cryptoIv := .replicate 16 0 }
  sessionId := 1

def intruderRegistration : List UInt8 := 0x59 :: 0xe0 :: (zeros 38 ++ [0, 1])

def quietTurn : TurnEnv where
  now _ := 0
  call := calm
  written _ := true

/-- The frames of a registration and of an encrypted heartbeat. -/
def intruderRun : List SessionAction :=
  [.turn [[0, 64, 0, 0, 0, 1] ++ (intruderDigest intruderRegistration).toList ++
      intruderRegistration] quietTurn,
    .turn [[0, 24, 0, 0, 0, 2] ++ (intruderDigest [91, 210]).toList ++ [149, 117]] quietTurn]

set_option maxRecDepth 4000 in
/-- The heartbeat comes before the ready phase and ends the session. -/
theorem engine_only_after_handshake_intruder : ∃ before after,
    (exec (session intruderContext) (.init intruderContext.cfg.init) intruderRun).1 =
        before ++ .received true [91, 210] :: after ∧
      (exec (session intruderContext) (.init intruderContext.cfg.init) intruderRun).2.ended = true ∧
        ∃ rest, after = .sessionClosed :: rest := by
  have hrun := run_exec (session intruderContext) (.init intruderContext.cfg.init) intruderRun
  have hhistory : (exec (session intruderContext) (.init intruderContext.cfg.init) intruderRun).1 =
      (exec (session intruderContext) (.init intruderContext.cfg.init) intruderRun).1.take 2 ++
        .received true [91, 210] ::
          (exec (session intruderContext) (.init intruderContext.cfg.init) intruderRun).1.drop 3 := rfl
  obtain ⟨hended, rest, hafter, -⟩ :=
    (engine_only_after_handshake hrun).2.2 _ true [91, 210] _ hhistory rfl
  exact ⟨_, _, hhistory, hended, rest, hafter⟩

end NseFoExchangeSim.Server
