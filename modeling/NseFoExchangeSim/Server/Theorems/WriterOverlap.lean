import NseFoExchangeSim.Lib.Fallible
import NseFoExchangeSim.Protocol.Layout
import NseFoExchangeSim.Server.Theorems.Framing
import NseFoExchangeSim.Server.Writers

/-!
# Writers that overlap

While no two threads are within a frame at once, what is on the wire is what one thread would have
written, frame by frame. The mutex keeps two events apart; a direct response does not take it.
-/

namespace NseFoExchangeSim.Server

open Lib Protocol

variable {prims : Primitives} {channel₀ channel current : Channel} {wire frames : List UInt8}
  {sent started : List (List UInt8)} {s : WriterState} {w w' : Writer} {c : WriterControl}

theorem sendPayloads_concat {payloads : List (List UInt8)} {payload frame : List UInt8}
    {channel' : Channel} (hsent : channel₀.sendPayloads prims payloads = .ok (frames, channel))
    (hframe : channel.sendPayload prims payload = .ok (frame, channel')) :
    channel₀.sendPayloads prims (payloads ++ [payload]) = .ok (frames ++ frame, channel') := by
  induction payloads generalizing channel₀ frames with
  | nil =>
      cases hsent
      simp [Channel.sendPayloads, hframe, bind, Except.bind, pure, Except.pure]
  | cons first payloads ih =>
      obtain ⟨⟨frame₁, middle⟩, hfirst, hrest⟩ := bind_eq_ok hsent
      obtain ⟨⟨frames₂, last⟩, hframes, hreturn⟩ := bind_eq_ok hrest
      cases hreturn
      simp [Channel.sendPayloads, hfirst, ih hframes, bind, Except.bind, pure, Except.pure]

/-! ## The invariant -/

/-- What a thread within a frame has done with the stream, the number and the wire, since they stood
after the whole frames of the payloads before its own. -/
def Stage (prims : Primitives) (channel current : Channel) (frames wire : List UInt8)
    (sent started : List (List UInt8)) : WriterControl → Prop
  | .encrypted _ payload body =>
      wire = frames ∧ channel.encrypt prims payload = .ok (body, current) ∧ started = sent ++ [payload]
  | .numbered _ payload header body =>
      wire = frames ∧ channel.sendPayload prims payload = .ok (header.bytes ++ body, current) ∧
        started = sent ++ [payload]
  | .headerWritten _ payload header body =>
      wire = frames ++ header.bytes ∧
        channel.sendPayload prims payload = .ok (header.bytes ++ body, current) ∧
          started = sent ++ [payload]
  | _ => True

theorem Stage.outside (h : c.inside = false) :
    Stage prims channel current frames wire sent started c := by
  cases c with
  | idle => trivial
  | sending => trivial
  | encrypted => cases h
  | numbered => cases h
  | headerWritten => cases h

/-- The mutex is held by the thread that is writing an event, and one thread at most is within a
frame. -/
structure Apart (s : WriterState) : Prop where
  lock : ∀ w, (s.control w).locked = true → s.holder = some w
  alone : ∀ w w', (s.control w).inside = true → (s.control w').inside = true → w = w'

/-- The wire is made of the frames of the payloads that were started, but for the rest of the one that is
being written. -/
structure Orderly (prims : Primitives) (channel₀ : Channel) (started : List (List UInt8))
    (wire : List UInt8) (s : WriterState) : Prop where
  apart : Apart s
  whole : ∃ sent frames channel,
    channel₀.sendPayloads prims sent = .ok (frames, channel) ∧
      ((∀ w, (s.control w).inside = false) → wire = frames ∧ s.channel = channel ∧ started = sent) ∧
      ∀ w, Stage prims channel s.channel frames wire sent started (s.control w)

/-- A thread moves on, keeping the mutex that it holds. -/
theorem Apart.move (h : Apart s) (hlocked : c.locked = true → s.holder = some w)
    (hinside : c.inside = true → ∀ w', w' ≠ w → (s.control w').inside = false) :
    Apart (s.setControl w c) where
  lock w' hw' := by
    by_cases hww : w' = w
    · subst hww
      rw [WriterState.setControl_self] at hw'
      exact hlocked hw'
    · rw [WriterState.setControl_of_ne hww] at hw'
      exact h.lock w' hw'
  alone w₁ w₂ h₁ h₂ := by
    by_cases hw₁ : w₁ = w
    · by_cases hw₂ : w₂ = w
      · rw [hw₁, hw₂]
      · rw [hw₁, WriterState.setControl_self] at h₁
        rw [WriterState.setControl_of_ne hw₂, hinside h₁ w₂ hw₂] at h₂
        cases h₂
    · rw [WriterState.setControl_of_ne hw₁] at h₁
      by_cases hw₂ : w₂ = w
      · rw [hw₂, WriterState.setControl_self] at h₂
        rw [hinside h₂ w₁ hw₁] at h₁
        cases h₁
      · rw [WriterState.setControl_of_ne hw₂] at h₂
        exact h.alone w₁ w₂ h₁ h₂

/-- A thread leaves `sendPayload`. -/
theorem Apart.leave (h : Apart s) : Apart (s.leave w) where
  lock w' hw' := by
    by_cases hww : w' = w
    · rw [hww, WriterState.leave_self] at hw'
      cases hw'
    · rw [WriterState.leave_of_ne hww] at hw'
      have hholder := h.lock w' hw'
      simp only [WriterState.leave]
      split
      · rename_i hlocked
        rw [h.lock w hlocked, Option.some.injEq] at hholder
        exact absurd hholder.symm hww
      · exact hholder
  alone := (h.move nofun nofun : Apart (s.setControl w .idle)).alone

/-- A thread takes the free mutex. -/
theorem Apart.take (h : Apart s) (hfree : s.holder = none) (hc : c.inside = false) :
    Apart { s.setControl w c with holder := some w } where
  lock w' hw' := by
    by_cases hww : w' = w
    · rw [hww]
    · have hlocked : (s.control w').locked = true := by
        rw [← WriterState.setControl_of_ne hww]
        exact hw'
      have hholder := h.lock w' hlocked
      rw [hfree] at hholder
      cases hholder
  alone := by
    have hother : ∀ w', ((s.setControl w c).control w').inside = true →
        (s.control w').inside = true := by
      intro w' hw'
      by_cases hww : w' = w
      · rw [hww, WriterState.setControl_self, hc] at hw'
        cases hw'
      · rw [WriterState.setControl_of_ne hww] at hw'
        exact hw'
    intro w₁ w₂ h₁ h₂
    exact h.alone w₁ w₂ (hother w₁ h₁) (hother w₂ h₂)

/-! ## Steps -/

/-- A thread that is not within a frame moves on, and is not within one then. -/
theorem Orderly.outside {s' : WriterState} (h : Orderly prims channel₀ started wire s) (hapart : Apart s')
    (hchannel : s'.channel = s.channel) (hw : (s.control w).inside = false)
    (hw' : (s'.control w).inside = false) (hother : ∀ w', w' ≠ w → s'.control w' = s.control w') :
    Orderly prims channel₀ started wire s' := by
  obtain ⟨sent, frames, channel, hsent, hquiet, hstage⟩ := h.whole
  refine ⟨hapart, sent, frames, channel, hsent, fun hnone => ?_, fun w₁ => ?_⟩
  · rw [hchannel]
    apply hquiet
    intro w₁
    by_cases hww : w₁ = w
    · rw [hww]
      exact hw
    · rw [← hother w₁ hww]
      exact hnone w₁
  · by_cases hww : w₁ = w
    · subst hww
      exact .outside hw'
    · rw [hother w₁ hww, hchannel]
      exact hstage w₁

/-- While a thread is within a frame, no other is. -/
theorem Apart.others (h : Apart s) (hw : (s.control w).inside = true) :
    ∀ w', w' ≠ w → (s.control w').inside = false := by
  intro w' hww
  by_contra hw'
  exact hww (h.alone w' w (by simpa using hw') hw)

/-- The one thread within a frame begins it or goes on with it. -/
theorem Orderly.goOn {wire' : List UInt8} {started' : List (List UInt8)} (channel' : Channel)
    (h : Orderly prims channel₀ started wire s)
    (hinside : c.inside = true) (hlocked : c.locked = (s.control w).locked)
    (hother : ∀ w', w' ≠ w → (s.control w').inside = false)
    (hwhole : ∃ sent frames channel,
      channel₀.sendPayloads prims sent = .ok (frames, channel) ∧
        Stage prims channel channel' frames wire' sent started' c) :
    Orderly prims channel₀ started' wire' { s.setControl w c with channel := channel' } := by
  have hmoved : Apart (s.setControl w c) := by
    apply h.apart.move
    · intro hl
      exact h.apart.lock w (hlocked.symm.trans hl)
    · intro _
      exact hother
  have hself := @WriterState.setControl_self s w c
  obtain ⟨sent, frames, channel, hsent, hstage⟩ := hwhole
  refine ⟨⟨hmoved.lock, hmoved.alone⟩, sent, frames, channel, hsent, fun hnone => ?_,
    fun w' => ?_⟩
  · have hquiet := hnone w
    rw [hself, hinside] at hquiet
    cases hquiet
  · by_cases hww : w' = w
    · subst hww
      simp only [hself]
      exact hstage
    · apply Stage.outside
      simp only [WriterState.setControl_of_ne hww]
      exact hother w' hww

/-- How far a thread within a frame is. -/
theorem Orderly.stage (h : Orderly prims channel₀ started wire s) (w : Writer) :
    ∃ sent frames channel, channel₀.sendPayloads prims sent = .ok (frames, channel) ∧
      Stage prims channel s.channel frames wire sent started (s.control w) := by
  obtain ⟨sent, frames, channel, hsent, -, hstage⟩ := h.whole
  exact ⟨sent, frames, channel, hsent, hstage w⟩

/-- A thread that is within no frame leaves the others as they are. -/
theorem Orderly.leave (h : Orderly prims channel₀ started wire s) (hw : (s.control w).inside = false) :
    Orderly prims channel₀ started wire (s.leave w) := by
  apply h.outside h.apart.leave rfl hw
  · rw [WriterState.leave_self]
    rfl
  · intro w' hw'
    exact WriterState.leave_of_ne hw'

theorem Orderly.respond (h : Orderly prims channel₀ started wire s) (payload : List UInt8) :
    Orderly prims channel₀ started (wire ++ (writers prims s (.respond payload)).1)
      (writers prims s (.respond payload)).2 := by
  simp only [writers]
  cases hcontrol : s.control .session with
  | idle =>
      rw [List.append_nil]
      apply h.outside (w := .session)
      · exact h.apart.move nofun nofun
      · rfl
      · rw [hcontrol]
        rfl
      · rw [WriterState.setControl_self]
        rfl
      · intro w' hw'
        exact WriterState.setControl_of_ne hw'
  | sending | encrypted | numbered | headerWritten =>
      rw [List.append_nil]
      exact h

theorem Orderly.takeLock (h : Orderly prims channel₀ started wire s) (w : Writer) (payload : List UInt8) :
    Orderly prims channel₀ started (wire ++ (writers prims s (.lock w payload)).1)
      (writers prims s (.lock w payload)).2 := by
  simp only [writers]
  cases hcontrol : s.control w with
  | idle =>
      cases hholder : s.holder with
      | none =>
          rw [List.append_nil]
          apply h.outside (w := w)
          · exact h.apart.take hholder rfl
          · rfl
          · rw [hcontrol]
            rfl
          · exact congrArg WriterControl.inside WriterState.setControl_self
          · intro w' hw'
            exact WriterState.setControl_of_ne hw'
      | some _ =>
          rw [List.append_nil]
          exact h
  | sending | encrypted | numbered | headerWritten =>
      rw [List.append_nil]
      exact h

/-- A frame is begun when no thread is within one: the mutex keeps out the events, and the condition
the rest. -/
theorem Orderly.encrypt (h : Orderly prims channel₀ started wire s)
    (hno : NoOverlap wire s (.encrypt w)) :
    Orderly prims channel₀ (started ++ (begunBy prims s (.encrypt w)).map (·.2))
      (wire ++ (writers prims s (.encrypt w)).1) (writers prims s (.encrypt w)).2 := by
  cases hcontrol : s.control w with
  | idle | encrypted | numbered | headerWritten =>
      simp only [writers, begunBy, hcontrol, List.map_nil, List.append_nil]
      exact h
  | sending locked payload =>
      have hoff : (s.control w).inside = false := by
        rw [hcontrol]
        rfl
      cases hencrypt : s.channel.encrypt prims payload with
      | error message =>
          simp only [writers, begunBy, hcontrol, hencrypt, List.map_nil, List.append_nil]
          exact h.leave hoff
      | ok result =>
          obtain ⟨body, channel'⟩ := result
          have hother : ∀ w', w' ≠ w → (s.control w').inside = false := by
            intro w' hww
            by_contra hin
            obtain ⟨hlocked, hlocked'⟩ := hno w' hww (by simpa using hin)
            have hsame := (h.apart.lock w' hlocked').symm.trans (h.apart.lock w hlocked)
            exact hww (Option.some.inj hsame)
          obtain ⟨sent, frames, channel, hsent, hquiet, -⟩ := h.whole
          obtain ⟨hwire, hchannel, hstarted⟩ := hquiet fun w' => by
            by_cases hww : w' = w
            · rw [hww]
              exact hoff
            · exact hother w' hww
          simp only [writers, begunBy, hcontrol, hencrypt, List.append_nil]
          apply h.goOn channel' rfl
          · rw [hcontrol]
            rfl
          · exact hother
          · refine ⟨sent, frames, channel, hsent, hwire, ?_, by rw [hstarted]; rfl⟩
            rw [← hchannel]
            exact hencrypt

theorem Orderly.number (h : Orderly prims channel₀ started wire s) (w : Writer) :
    Orderly prims channel₀ started (wire ++ (writers prims s (.number w)).1)
      (writers prims s (.number w)).2 := by
  cases hcontrol : s.control w with
  | idle | sending | numbered | headerWritten =>
      simp only [writers, hcontrol, List.append_nil]
      exact h
  | encrypted locked payload body =>
      obtain ⟨sent, frames, channel, hsent, hstage⟩ := h.stage w
      rw [hcontrol] at hstage
      obtain ⟨hwire, hencrypt, hstarted⟩ := hstage
      simp only [writers, hcontrol, List.append_nil]
      apply h.goOn s.channel.nextNumber.2 rfl
      · rw [hcontrol]
        rfl
      · apply h.apart.others
        rw [hcontrol]
        rfl
      · refine ⟨sent, frames, channel, hsent, hwire, ?_, hstarted⟩
        simp [Channel.sendPayload, hencrypt, bind, Except.bind, pure, Except.pure]

theorem Orderly.writeHeader (h : Orderly prims channel₀ started wire s) (w : Writer) :
    Orderly prims channel₀ started (wire ++ (writers prims s (.writeHeader w)).1)
      (writers prims s (.writeHeader w)).2 := by
  cases hcontrol : s.control w with
  | idle | sending | encrypted | headerWritten =>
      simp only [writers, hcontrol, List.append_nil]
      exact h
  | numbered locked payload header body =>
      obtain ⟨sent, frames, channel, hsent, hstage⟩ := h.stage w
      rw [hcontrol] at hstage
      obtain ⟨hwire, hsend, hstarted⟩ := hstage
      simp only [writers, hcontrol]
      apply h.goOn s.channel rfl
      · rw [hcontrol]
        rfl
      · apply h.apart.others
        rw [hcontrol]
        rfl
      · exact ⟨sent, frames, channel, hsent, by rw [hwire], hsend, hstarted⟩

/-- The body ends the frame, which is whole then. -/
theorem Orderly.writeBody (h : Orderly prims channel₀ started wire s) (w : Writer) :
    Orderly prims channel₀ started (wire ++ (writers prims s (.writeBody w)).1)
      (writers prims s (.writeBody w)).2 := by
  cases hcontrol : s.control w with
  | idle | sending | encrypted | numbered =>
      simp only [writers, hcontrol, List.append_nil]
      exact h
  | headerWritten locked payload header body =>
      have hin : (s.control w).inside = true := by
        rw [hcontrol]
        rfl
      obtain ⟨sent, frames, channel, hsent, hstage⟩ := h.stage w
      rw [hcontrol] at hstage
      obtain ⟨hwire, hsend, hstarted⟩ := hstage
      have hnone : ∀ w', ((s.leave w).control w').inside = false := by
        intro w'
        by_cases hww : w' = w
        · rw [hww, WriterState.leave_self]
          rfl
        · rw [WriterState.leave_of_ne hww]
          exact h.apart.others hin w' hww
      simp only [writers, hcontrol]
      refine ⟨h.apart.leave, sent ++ [payload], frames ++ (header.bytes ++ body), s.channel,
        sendPayloads_concat hsent hsend, fun _ => ⟨?_, rfl, hstarted⟩,
        fun w' => .outside (hnone w')⟩
      rw [hwire, List.append_assoc]

/-- One step of one thread. -/
theorem Orderly.step (h : Orderly prims channel₀ started wire s) (a : WriterAction)
    (ha : NoOverlap wire s a) :
    Orderly prims channel₀ (started ++ (begunBy prims s a).map (·.2)) (wire ++ (writers prims s a).1)
      (writers prims s a).2 := by
  cases a with
  | encrypt w => exact h.encrypt ha
  | respond payload => simpa only [begunBy, List.map_nil, List.append_nil] using h.respond payload
  | lock w payload => simpa only [begunBy, List.map_nil, List.append_nil] using h.takeLock w payload
  | number w => simpa only [begunBy, List.map_nil, List.append_nil] using h.number w
  | writeHeader w => simpa only [begunBy, List.map_nil, List.append_nil] using h.writeHeader w
  | writeBody w => simpa only [begunBy, List.map_nil, List.append_nil] using h.writeBody w

/-! ## What the threads hand over -/

/-- Of what its threads have handed over, a connection has begun to write all but what they have still to
encrypt and what was given up because the encryption threw. -/
structure HandedOver (able : Prop) (handed begun : List (Writer × List UInt8)) (s : WriterState) :
    Prop where
  some_ : ∀ w, (payloadsOf w begun ++ (s.control w).waiting).Sublist (payloadsOf w handed)
  all : able → s.channel.Able ∧ ∀ w, payloadsOf w begun ++ (s.control w).waiting = payloadsOf w handed

/-- What one step does to the payloads of a thread. -/
structure Hands (prims : Primitives) (s : WriterState) (a : WriterAction) (w : Writer) : Prop where
  some_ : (payloadsOf w (begunBy prims s a) ++ ((writers prims s a).2.control w).waiting).Sublist
    ((s.control w).waiting ++ payloadsOf w (handedBy s a))
  all : s.channel.Able → payloadsOf w (begunBy prims s a) ++
    ((writers prims s a).2.control w).waiting = (s.control w).waiting ++ payloadsOf w (handedBy s a)

/-- The same payloads. -/
theorem Hands.of_eq {a : WriterAction} (h : payloadsOf w (begunBy prims s a) ++
    ((writers prims s a).2.control w).waiting = (s.control w).waiting ++ payloadsOf w (handedBy s a)) :
    Hands prims s a w :=
  ⟨by rw [h], fun _ => h⟩

/-- A step of another thread, or one that the thread cannot take. -/
theorem Hands.none {a : WriterAction} (hbegun : payloadsOf w (begunBy prims s a) = [])
    (hhanded : payloadsOf w (handedBy s a) = [])
    (hcontrol : ((writers prims s a).2.control w).waiting = (s.control w).waiting) :
    Hands prims s a w :=
  .of_eq (by rw [hbegun, hhanded, hcontrol, List.nil_append, List.append_nil])

theorem payloadsOf_one {payload : List UInt8} : payloadsOf w [(w, payload)] = [payload] := by
  simp [payloadsOf]

theorem payloadsOf_other {payload : List UInt8} (h : w' ≠ w) : payloadsOf w [(w', payload)] = [] := by
  simp [payloadsOf, h]

theorem hands_respond (payload : List UInt8) (w : Writer) : Hands prims s (.respond payload) w := by
  cases hcontrol : s.control .session with
  | idle =>
      by_cases hw : w = .session
      · subst hw
        apply Hands.of_eq
        simp only [begunBy, writers, handedBy, hcontrol, WriterState.setControl_self, payloadsOf_one]
        rfl
      · apply Hands.none
        · rfl
        · simp only [handedBy, hcontrol]
          exact payloadsOf_other (Ne.symm hw)
        · simp only [writers, hcontrol, WriterState.setControl_of_ne hw]
  | sending | encrypted | numbered | headerWritten =>
      apply Hands.none
      · rfl
      · simp only [handedBy, hcontrol]
        rfl
      · simp only [writers, hcontrol]

theorem hands_lock (w₀ : Writer) (payload : List UInt8) (w : Writer) :
    Hands prims s (.lock w₀ payload) w := by
  cases hcontrol : s.control w₀ with
  | idle =>
      cases hholder : s.holder with
      | none =>
          by_cases hw : w = w₀
          · subst hw
            apply Hands.of_eq
            simp only [begunBy, writers, handedBy, hcontrol, hholder, WriterState.setControl_self,
              payloadsOf_one]
            rfl
          · apply Hands.none
            · rfl
            · simp only [handedBy, hcontrol, hholder]
              exact payloadsOf_other (Ne.symm hw)
            · simp only [writers, hcontrol, hholder, WriterState.setControl_of_ne hw]
      | some _ =>
          apply Hands.none
          · rfl
          · simp only [handedBy, hcontrol, hholder]
            rfl
          · simp only [writers, hcontrol, hholder]
  | sending | encrypted | numbered | headerWritten =>
      apply Hands.none
      · rfl
      · simp only [handedBy, hcontrol]
        rfl
      · simp only [writers, hcontrol]

theorem hands_encrypt (w₀ w : Writer) : Hands prims s (.encrypt w₀) w := by
  cases hcontrol : s.control w₀ with
  | sending locked payload =>
      cases hencrypt : s.channel.encrypt prims payload with
      | ok result =>
          by_cases hw : w = w₀
          · subst hw
            apply Hands.of_eq
            simp only [begunBy, writers, handedBy, hcontrol, hencrypt, WriterState.setControl_self,
              payloadsOf_one]
            rfl
          · apply Hands.none
            · simp only [begunBy, hcontrol, hencrypt]
              exact payloadsOf_other (Ne.symm hw)
            · rfl
            · simp only [writers, hcontrol, hencrypt, WriterState.setControl_of_ne hw]
      | error message =>
          by_cases hw : w = w₀
          · subst hw
            refine ⟨?_, fun hable => ?_⟩
            · simp only [begunBy, writers, hcontrol, hencrypt, WriterState.leave_self]
              exact List.nil_sublist _
            · obtain ⟨body, channel, hok⟩ := @Channel.encrypt_of_able prims _ payload hable
              rw [hencrypt] at hok
              cases hok
          · apply Hands.none
            · simp only [begunBy, hcontrol, hencrypt]
              rfl
            · rfl
            · simp only [writers, hcontrol, hencrypt, WriterState.leave_of_ne hw]
  | idle | encrypted | numbered | headerWritten =>
      apply Hands.none
      · simp only [begunBy, hcontrol]
        rfl
      · rfl
      · simp only [writers, hcontrol]

/-- A step of a thread that is within a frame. -/
theorem hands_inside (w₀ : Writer) {a : WriterAction} (hbegun : begunBy prims s a = [])
    (hhanded : handedBy s a = []) (hself : (s.control w₀).waiting = [])
    (hself' : ((writers prims s a).2.control w₀).waiting = [])
    (hother : ∀ w, w ≠ w₀ → (writers prims s a).2.control w = s.control w) (w : Writer) :
    Hands prims s a w := by
  apply Hands.none
  · rw [hbegun]
    rfl
  · rw [hhanded]
    rfl
  · by_cases hw : w = w₀
    · rw [hw, hself, hself']
    · rw [hother w hw]

theorem hands (a : WriterAction) (w : Writer) : Hands prims s a w := by
  cases a with
  | respond payload => exact hands_respond payload w
  | lock w₀ payload => exact hands_lock w₀ payload w
  | encrypt w₀ => exact hands_encrypt w₀ w
  | number w₀ =>
      cases hcontrol : s.control w₀ with
      | encrypted =>
          apply hands_inside w₀ rfl rfl
          · rw [hcontrol]
            rfl
          · simp only [writers, hcontrol, WriterState.setControl_self]
            rfl
          · intro w hw
            simp only [writers, hcontrol, WriterState.setControl_of_ne hw]
      | idle | sending | numbered | headerWritten =>
          exact .none rfl rfl (by simp only [writers, hcontrol])
  | writeHeader w₀ =>
      cases hcontrol : s.control w₀ with
      | numbered =>
          apply hands_inside w₀ rfl rfl
          · rw [hcontrol]
            rfl
          · simp only [writers, hcontrol, WriterState.setControl_self]
            rfl
          · intro w hw
            simp only [writers, hcontrol, WriterState.setControl_of_ne hw]
      | idle | sending | encrypted | headerWritten =>
          exact .none rfl rfl (by simp only [writers, hcontrol])
  | writeBody w₀ =>
      cases hcontrol : s.control w₀ with
      | headerWritten =>
          apply hands_inside w₀ rfl rfl
          · rw [hcontrol]
            rfl
          · simp only [writers, hcontrol, WriterState.leave_self]
            rfl
          · intro w hw
            simp only [writers, hcontrol, WriterState.leave_of_ne hw]
      | idle | sending | encrypted | numbered =>
          exact .none rfl rfl (by simp only [writers, hcontrol])

/-- A channel that can encrypt can encrypt after any step. -/
theorem writers_able (hable : s.channel.Able) (a : WriterAction) :
    (writers prims s a).2.channel.Able := by
  cases a with
  | respond payload =>
      simp only [writers]
      split
      · exact hable
      · exact hable
  | lock w payload =>
      simp only [writers]
      split
      · exact hable
      · exact hable
  | encrypt w =>
      simp only [writers]
      split
      · rename_i locked payload hcontrol
        split
        · exact hable
        · rename_i body channel hencrypt
          obtain ⟨-, henabled, hready, -⟩ := Channel.encrypt_ok s.channel hencrypt
          simp only [Channel.Able, henabled, hready]
          exact hable
      · exact hable
  | number w =>
      simp only [writers]
      split
      · exact hable
      · exact hable
  | writeHeader w =>
      simp only [writers]
      split
      · exact hable
      · exact hable
  | writeBody w =>
      simp only [writers]
      split
      · exact hable
      · exact hable

theorem HandedOver.step {able : Prop} {handed begun : List (Writer × List UInt8)}
    (h : HandedOver able handed begun s) (a : WriterAction) :
    HandedOver able (handed ++ handedBy s a) (begun ++ begunBy prims s a) (writers prims s a).2 where
  some_ w := by
    rw [payloadsOf_append, payloadsOf_append, List.append_assoc]
    refine ((hands a w).some_.append_left _).trans ?_
    rw [← List.append_assoc]
    exact (h.some_ w).append_right _
  all hable := by
    obtain ⟨hstill, hall⟩ := h.all hable
    refine ⟨writers_able hstill a, fun w => ?_⟩
    rw [payloadsOf_append, payloadsOf_append, List.append_assoc, (hands a w).all hstill,
      ← List.append_assoc, hall w]

/-! ## Runs -/

theorem Orderly.init : Orderly prims channel₀ [] [] (.init channel₀) where
  apart := ⟨nofun, nofun⟩
  whole := ⟨[], [], channel₀, rfl, fun _ => ⟨rfl, rfl, rfl⟩, fun _ => trivial⟩

/-- What is on the wire is the beginning of the frames of what was started. -/
theorem Orderly.wire_prefix (h : Orderly prims channel₀ started wire s) :
    ∃ frames channel, channel₀.sendPayloads prims started = .ok (frames, channel) ∧
      wire <+: frames := by
  by_cases hnone : ∀ w, (s.control w).inside = false
  · obtain ⟨sent, frames, channel, hsent, hquiet, -⟩ := h.whole
    obtain ⟨rfl, -, rfl⟩ := hquiet hnone
    exact ⟨_, channel, hsent, List.prefix_refl _⟩
  obtain ⟨w, hin⟩ := not_forall.mp hnone
  obtain ⟨sent, frames, channel, hsent, hstage⟩ := h.stage w
  cases hcontrol : s.control w with
  | idle | sending =>
      rw [hcontrol] at hin
      exact absurd rfl hin
  | encrypted locked payload body =>
      rw [hcontrol] at hstage
      obtain ⟨hwire, hencrypt, rfl⟩ := hstage
      have hsend : channel.sendPayload prims payload = .ok ((Channel.frameHeader body.length
          s.channel.nextNumber.1 (prims.md5 payload)).bytes ++ body, s.channel.nextNumber.2) := by
        simp [Channel.sendPayload, hencrypt, bind, Except.bind, pure, Except.pure]
      exact ⟨_, _, sendPayloads_concat hsent hsend, _, by rw [hwire]⟩
  | numbered locked payload header body =>
      rw [hcontrol] at hstage
      obtain ⟨hwire, hsend, rfl⟩ := hstage
      exact ⟨_, _, sendPayloads_concat hsent hsend, _, by rw [hwire]⟩
  | headerWritten locked payload header body =>
      rw [hcontrol] at hstage
      obtain ⟨hwire, hsend, rfl⟩ := hstage
      refine ⟨_, _, sendPayloads_concat hsent hsend, body, ?_⟩
      rw [hwire, List.append_assoc]

/-- What holds of the writers after some steps. -/
structure InFrames (prims : Primitives) (channel₀ : Channel) (wire : List UInt8)
    (calls : List (WriterState × WriterAction)) (s : WriterState) : Prop where
  orderly : Orderly prims channel₀ ((begun prims calls).map (·.2)) wire s
  handed : HandedOver channel₀.Able (handed calls) (begun prims calls) s

theorem InFrames.step {calls : List (WriterState × WriterAction)}
    (h : InFrames prims channel₀ wire calls s) (a : WriterAction) (ha : NoOverlap wire s a) :
    InFrames prims channel₀ (wire ++ (writers prims s a).1) (calls ++ [(s, a)])
      (writers prims s a).2 where
  orderly := by
    rw [begun_snoc, List.map_append]
    exact h.orderly.step a ha
  handed := by
    rw [begun_snoc, handed_snoc]
    exact h.handed.step a

theorem inFrames {as : List WriterAction}
    (hmeets : Meets (writers prims) NoOverlap [] (.init channel₀) as) :
    InFrames prims channel₀ (exec (writers prims) (.init channel₀) as).1
      (encounters (writers prims) (.init channel₀) as)
        (exec (writers prims) (.init channel₀) as).2 :=
  encounters_invariant ⟨.init, fun _ => List.nil_sublist _, fun hable => ⟨hable, fun _ => rfl⟩⟩
    (fun _ _ _ a _ h ha => h.step a ha) hmeets

/-- The bytes on the wire are whole frames and the beginning of one more, as one thread would have
written them: numbered in order, with every body encrypted where the one before it ends. When no thread
is within a frame they are whole, and the connection is where that thread would have left it. The frames
are those of the payloads that the threads handed to `sendPayload`, each thread's in its order: all of
them but for those that it has still to encrypt, unless the channel cannot encrypt. -/
theorem frames_stay_whole (prims : Primitives) (channel₀ : Channel) (as : List WriterAction)
    (hmeets : Meets (writers prims) NoOverlap [] (.init channel₀) as) :
    let result := exec (writers prims) (.init channel₀) as
    let calls := encounters (writers prims) (.init channel₀) as
    let payloads := (begun prims calls).map (·.2)
    (∃ frames channel, channel₀.sendPayloads prims payloads = .ok (frames, channel) ∧
      result.1 <+: frames) ∧
    ((∀ w, (result.2.control w).inside = false) →
      channel₀.sendPayloads prims payloads = .ok (result.1, result.2.channel)) ∧
    (∀ w, (payloadsOf w (begun prims calls)).Sublist (payloadsOf w (handed calls))) ∧
    (channel₀.Able → ∀ w, payloadsOf w (begun prims calls) ++ (result.2.control w).waiting =
      payloadsOf w (handed calls)) := by
  obtain ⟨horderly, hhanded⟩ := inFrames hmeets
  refine ⟨horderly.wire_prefix, fun hnone => ?_, fun w => ?_, fun hable => (hhanded.all hable).2⟩
  · obtain ⟨sent, frames, channel, hsent, hwhole, -⟩ := horderly.whole
    obtain ⟨rfl, rfl, hstarted⟩ := hwhole hnone
    rw [hstarted]
    exact hsent
  · exact (List.sublist_append_left _ _).trans (hhanded.some_ w)

/-! ## A response in turn -/

def systemInfo : List UInt8 :=
  SystemInfoResponsePayload.bytes
    { header := initializeMessageHeader 0 kTxnSystemInfoResponse 91 systemInfoResponseSize
      boardLotQuantity := byteswap 1
      tickSize := byteswap 5
      disclosedQuantityPercentAllowed := byteswap 100 }

def fillOfOne : List UInt8 :=
  TradeConfirmationPayload.bytes
    { transactionCode := byteswap kTxnTradeConfirmationTrimmed
      fillQuantity := byteswap 1
      fillPrice := byteswap 10000 }

/-- The threads begin a response and an event together, and write them one after the other. -/
def pollThenFill : List WriterAction :=
  [.respond systemInfo, .lock (.marketData 0) fillOfOne,
    .encrypt .session, .number .session, .writeHeader .session, .writeBody .session,
    .encrypt (.marketData 0), .number (.marketData 0), .writeHeader (.marketData 0),
    .writeBody (.marketData 0)]

theorem begun_pollThenFill {body₁ body₂ : List UInt8} {channel₁ channel₂ : Channel}
    (hresponse : channel₀.encrypt prims systemInfo = .ok (body₁, channel₁))
    (hevent : channel₁.nextNumber.2.encrypt prims fillOfOne = .ok (body₂, channel₂)) :
    begun prims (encounters (writers prims) (.init channel₀) pollThenFill) =
      [(.session, systemInfo), (.marketData 0, fillOfOne)] := by
  simp [begun, encounters, begunBy, pollThenFill, writers, WriterState.init, WriterState.setControl,
    WriterState.leave, hresponse, hevent]

theorem frames_stay_whole_poll :
    let run := exec (writers heartbeatPrimitives) (.init freshChannel) pollThenFill
    (∀ w, (run.2.control w).inside = false) ∧
      freshChannel.sendPayloads heartbeatPrimitives [systemInfo, fillOfOne] =
        .ok (run.1, run.2.channel) := by
  obtain ⟨body₁, channel₁, hresponse⟩ :=
    @Channel.encrypt_of_able heartbeatPrimitives freshChannel systemInfo (.inr rfl)
  obtain ⟨-, -, hready, -⟩ := Channel.encrypt_ok freshChannel hresponse
  obtain ⟨body₂, channel₂, hevent⟩ :=
    @Channel.encrypt_of_able heartbeatPrimitives channel₁.nextNumber.2 fillOfOne (.inr hready)
  have hmeets : Meets (writers heartbeatPrimitives) NoOverlap [] (.init freshChannel) pollThenFill := by
    simp [Meets, NoOverlap, pollThenFill, writers, WriterState.init, WriterState.setControl,
      WriterState.leave, hresponse, Function.update_apply, WriterControl.inside]
    grind
  have hidle : ∀ w, ((exec (writers heartbeatPrimitives) (.init freshChannel)
      pollThenFill).2.control w).inside = false := by
    intro w
    simp [exec, pollThenFill, writers, WriterState.init, WriterState.setControl, WriterState.leave,
      hresponse, hevent, Function.update_apply, WriterControl.inside]
    grind
  have hwhole := (frames_stay_whole heartbeatPrimitives freshChannel _ hmeets).2.1 hidle
  rw [begun_pollThenFill hresponse hevent] at hwhole
  exact ⟨hidle, hwhole⟩

/-! ## A response that is overtaken -/

/-- A header that comes first on the wire has the number after the connection's. -/
theorem first_number {payloads : List (List UInt8)} {header : DirectExCtclHeader}
    {rest : List UInt8} (hsent : channel₀.sendPayloads prims payloads = .ok (frames, channel))
    (hbegin : header.bytes ++ rest <+: frames) :
    header.sequenceNumber = byteswap (channel₀.sequenceNumber + 1) := by
  cases payloads with
  | nil =>
      cases hsent
      have hlength := hbegin.length_le
      simp [ctclHeaderSize] at hlength
  | cons payload payloads =>
      obtain ⟨⟨frame, middle⟩, hframe, hrest⟩ := bind_eq_ok hsent
      obtain ⟨⟨frames', last⟩, -, hreturn⟩ := bind_eq_ok hrest
      cases hreturn
      obtain ⟨body, encrypted, hencrypt, rfl, -⟩ := Channel.sendPayload_ok hframe
      obtain ⟨tail, heq⟩ := hbegin
      rw [List.append_assoc, List.append_assoc] at heq
      obtain ⟨hheader, -⟩ := List.append_inj heq (by simp)
      rw [← ofBytes_bytes header, hheader, ofBytes_bytes, Channel.encrypt_frame hencrypt]
      rfl

theorem sendPayloads_able {payloads : List (List UInt8)} (hable : channel₀.Able) :
    ∃ frames channel, channel₀.sendPayloads prims payloads = .ok (frames, channel) ∧
      channel.Able := by
  induction payloads generalizing channel₀ with
  | nil => exact ⟨[], channel₀, rfl, hable⟩
  | cons payload payloads ih =>
      obtain ⟨frame, middle, hframe, hmiddle⟩ :=
        @Channel.sendPayload_of_able prims channel₀ payload hable
      obtain ⟨frames, channel, hframes, hlast⟩ := ih hmiddle
      refine ⟨frame ++ frames, channel, ?_, hlast⟩
      simp [Channel.sendPayloads, hframe, hframes, bind, Except.bind, pure, Except.pure]

/-- The session's thread is overtaken by a fill between taking its number and writing. -/
def pollOverFill : List WriterAction :=
  [.respond systemInfo, .encrypt .session, .number .session,
    .lock (.marketData 0) fillOfOne, .encrypt (.marketData 0), .number (.marketData 0),
    .writeHeader (.marketData 0), .writeBody (.marketData 0),
    .writeHeader .session, .writeBody .session]

/-- The fill is on the wire before the response that was encrypted and numbered first. -/
theorem exec_pollOverFill {body₁ body₂ : List UInt8} {channel₁ channel₂ : Channel}
    (hresponse : channel₀.encrypt prims systemInfo = .ok (body₁, channel₁))
    (hevent : channel₁.nextNumber.2.encrypt prims fillOfOne = .ok (body₂, channel₂)) :
    (exec (writers prims) (.init channel₀) pollOverFill).1 =
      (Channel.frameHeader body₂.length channel₂.nextNumber.1 (prims.md5 fillOfOne)).bytes ++
        (body₂ ++ ((Channel.frameHeader body₁.length channel₁.nextNumber.1
          (prims.md5 systemInfo)).bytes ++ body₁)) := by
  simp [exec, pollOverFill, writers, WriterState.init, WriterState.setControl, WriterState.leave,
    hresponse, hevent]

/-- No thread could have written that. -/
theorem overtaken_not_whole (hable : channel₀.Able) {payloads : List (List UInt8)}
    (hsent : channel₀.sendPayloads prims payloads = .ok (frames, channel)) :
    ¬ (exec (writers prims) (.init channel₀) pollOverFill).1 <+: frames := by
  intro hbegin
  obtain ⟨body₁, channel₁, hresponse⟩ := @Channel.encrypt_of_able prims channel₀ systemInfo hable
  obtain ⟨-, henabled, hready, -⟩ := Channel.encrypt_ok channel₀ hresponse
  have hable₁ : channel₁.nextNumber.2.Able := by
    simp only [Channel.Able, Channel.nextNumber, henabled, hready]
    exact hable
  obtain ⟨body₂, channel₂, hevent⟩ := @Channel.encrypt_of_able prims _ fillOfOne hable₁
  rw [exec_pollOverFill hresponse hevent] at hbegin
  have hfirst := first_number hsent hbegin
  have hnumber : channel₂.sequenceNumber = channel₀.sequenceNumber + 1 := by
    rw [Channel.encrypt_frame hevent, Channel.nextNumber, Channel.encrypt_frame hresponse]
  have heq := congrArg byteswap hfirst
  simp only [Channel.frameHeader, byteswap_byteswap, Channel.nextNumber, hnumber] at heq
  rw [add_eq_left] at heq
  exact absurd heq (by decide)

/-- The payloads of the sign-on and the logon. -/
def handshakeResponses : List (List UInt8) :=
  [BoxSignOnResponsePayload.bytes
      { header := initializeMessageHeader 0 kTxnBoxSignOnRequestOut 91 boxSignOnResponseSize
        boxId := byteswap 7 },
    SignOnOutPayload.bytes
      { header := initializeMessageHeader 0 kTxnLogonResponse 91 signOnOutSize }]

/-- The registration was answered in plain text. -/
def registeredChannel : Channel := { freshChannel with sequenceNumber := 1 }

/-- A connection in the ready phase. -/
def readyChannel (prims : Primitives) : Channel :=
  match registeredChannel.sendPayloads prims handshakeResponses with
  | .ok (_, channel) => channel
  | .error _ => registeredChannel

theorem registeredChannel_able : registeredChannel.Able :=
  .inr rfl

theorem readyChannel_able : (readyChannel prims).Able := by
  have hsent := @sendPayloads_able prims registeredChannel
  unfold readyChannel
  generalize handshakeResponses = responses
  specialize @hsent responses registeredChannel_able
  obtain ⟨frames, channel, hframes, hable⟩ := hsent
  rw [hframes]
  exact hable

/-- A system info response is overtaken by a fill, and the wire is not the beginning of any whole
frames. -/
theorem poll_over_fill_tears_frames :
    ¬ ∃ (prims : Primitives) (payloads : List (List UInt8)) (frames : List UInt8) (channel : Channel),
      (readyChannel prims).sendPayloads prims payloads = .ok (frames, channel) ∧
        (exec (writers prims) (.init (readyChannel prims)) pollOverFill).1 <+: frames := by
  rintro ⟨prims, payloads, frames, channel, hsent, hbegin⟩
  exact overtaken_not_whole readyChannel_able hsent hbegin

end NseFoExchangeSim.Server
