import NseFoExchangeSim.Server.Frames

/-!
# Frames are read back

The two ends of a connection stay together while the receiver's inbound stream is what the sender's
outbound stream is. A frame is read back from any chunks that its bytes arrive in, and leaves the ends
together, wherever in a block of the keystream it ends.
-/

namespace NseFoExchangeSim.Server

open Lib Protocol

/-! ## Chunks -/

/-- No `recv` of these chunks fails. -/
def Arriving (chunks : List (List UInt8)) : Prop := ∀ chunk ∈ chunks, chunk ≠ []

theorem readFully_flatten {chunks : List (List UInt8)} {bytes rest : List UInt8}
    (hchunks : Arriving chunks) (hflatten : chunks.flatten = bytes ++ rest) :
    ∃ chunks', readFully bytes.length chunks = .ok (bytes, chunks') ∧ chunks'.flatten = rest ∧
      Arriving chunks' := by
  induction chunks generalizing bytes with
  | nil =>
      obtain ⟨rfl, rfl⟩ := List.append_eq_nil_iff.mp hflatten.symm
      exact ⟨[], rfl, rfl, hchunks⟩
  | cons chunk chunks ih =>
      have hchunk : chunk ≠ [] := hchunks chunk List.mem_cons_self
      have hmore : Arriving chunks := fun c hc => hchunks c (List.mem_cons_of_mem chunk hc)
      rw [readFully]
      by_cases hnone : bytes.length = 0
      · obtain rfl := List.length_eq_zero_iff.mp hnone
        exact ⟨chunk :: chunks, rfl, hflatten, hchunks⟩
      · rw [if_neg hnone, if_neg (by simpa using hchunk)]
        rw [List.flatten_cons] at hflatten
        rcases List.append_eq_append_iff.mp hflatten with ⟨left, hbytes, hleft⟩ | ⟨left, hsplit, hrest⟩
        · -- the chunk is taken whole
          have hge : ¬ bytes.length < chunk.length := by
            rw [hbytes, List.length_append]
            omega
          obtain ⟨chunks', hread, hflatten', harriving⟩ := ih hmore hleft
          have hlength : bytes.length - chunk.length = left.length := by
            rw [hbytes, List.length_append]
            omega
          refine ⟨chunks', ?_, hflatten', harriving⟩
          rw [if_neg hge, hlength, hread, hbytes]
          rfl
        · by_cases hleft : left = []
          · -- the chunk ends with what is read
            subst hleft
            rw [List.append_nil] at hsplit
            subst hsplit
            obtain ⟨chunks', hread, hflatten', harriving⟩ := @ih [] hmore (by simpa using hrest.symm)
            refine ⟨chunks', ?_, hflatten', harriving⟩
            rw [if_neg (Nat.lt_irrefl _), Nat.sub_self]
            rw [List.length_nil] at hread
            rw [hread]
            simp [bind, Except.bind, pure, Except.pure]
          · have hlt : bytes.length < chunk.length := by
              have := List.length_pos_iff.mpr hleft
              rw [hsplit, List.length_append]
              omega
            refine ⟨left :: chunks, ?_, by rw [List.flatten_cons, hrest], ?_⟩
            · rw [if_pos hlt, hsplit, List.take_left, List.drop_left]
            · intro c hc
              rcases List.mem_cons.mp hc with rfl | hc
              · exact hleft
              · exact hmore c hc

/-! ## Frames -/

namespace Channel

variable {prims : Primitives} {sender sender' : Channel} {payload frame : List UInt8}

/-- What the receiver needs to read what the sender is going to send. -/
structure Together (sender receiver : Channel) : Prop where
  encryption : receiver.encryptionEnabled = sender.encryptionEnabled
  crypto : receiver.inboundCrypto = sender.outboundCrypto

/-- The receiver after it has followed the sender. -/
def follow (receiver sender : Channel) : Channel :=
  { receiver with inboundCrypto := sender.outboundCrypto }

/-- The sender can cipher. -/
def Able (channel : Channel) : Prop :=
  channel.encryptionEnabled = false ∨ channel.outboundCrypto.initialized = true

/-- A body that was encrypted has the size of the payload, and is decrypted to it. -/
theorem encrypt_ok (receiver : Channel) {body : List UInt8}
    (h : sender.encrypt prims payload = .ok (body, sender')) :
    body.length = payload.length ∧ sender'.encryptionEnabled = sender.encryptionEnabled ∧
      sender'.outboundCrypto.initialized = sender.outboundCrypto.initialized ∧
      (Together sender receiver →
        receiver.decrypt prims body = .ok (payload, receiver.follow sender')) := by
  rw [encrypt] at h
  by_cases henabled : sender.encryptionEnabled = true
  · rw [if_pos henabled] at h
    by_cases hready : sender.outboundCrypto.initialized = true
    · rw [CtrCryptoStream.xorData_of_initialized hready] at h
      cases h
      refine ⟨length_xorStream, rfl, CtrCryptoStream.initialized_xorStream, fun htogether => ?_⟩
      rw [decrypt, if_pos (htogether.encryption.trans henabled), htogether.crypto,
        CtrCryptoStream.xorData_of_initialized hready, xorStream_xorStream]
      rfl
    · simp [CtrCryptoStream.xorData, hready, bind, Except.bind] at h
  · rw [if_neg henabled] at h
    cases h
    refine ⟨rfl, rfl, rfl, fun htogether => ?_⟩
    rw [decrypt, if_neg (by rw [htogether.encryption]; exact henabled), follow,
      ← htogether.crypto]
    rfl

theorem encrypt_of_able (h : sender.Able) :
    ∃ body sender', sender.encrypt prims payload = .ok (body, sender') := by
  rw [encrypt]
  by_cases henabled : sender.encryptionEnabled = true
  · have hready : sender.outboundCrypto.initialized = true :=
      h.resolve_left (by simp [henabled])
    rw [if_pos henabled, CtrCryptoStream.xorData_of_initialized hready]
    exact ⟨_, _, rfl⟩
  · rw [if_neg henabled]
    exact ⟨_, _, rfl⟩

theorem encrypt_of_not_able (h : ¬ sender.Able) :
    ∃ message, sender.encrypt prims payload = .error message := by
  rw [Able, not_or, Bool.not_eq_false, Bool.not_eq_true] at h
  rw [encrypt, if_pos h.1, CtrCryptoStream.xorData, h.2]
  exact ⟨_, rfl⟩

/-- What the sender has written, and what becomes of it. -/
theorem sendPayload_ok (h : sender.sendPayload prims payload = .ok (frame, sender')) :
    ∃ body channel, sender.encrypt prims payload = .ok (body, channel) ∧
      frame = (frameHeader body.length (channel.sequenceNumber + 1) (prims.md5 payload)).bytes ++ body ∧
      sender' = { channel with sequenceNumber := channel.sequenceNumber + 1 } := by
  obtain ⟨⟨body, channel⟩, hencrypt, hreturn⟩ := bind_eq_ok h
  cases hreturn
  exact ⟨body, channel, hencrypt, rfl, rfl⟩

/-- A frame is read back, whatever follows it. -/
theorem receivePayload_frame {receiver : Channel} {chunks : List (List UInt8)} {rest : List UInt8}
    (hsize : payload.length ≤ kMaxSessionPayload) (htogether : Together sender receiver)
    (hsent : sender.sendPayload prims payload = .ok (frame, sender')) (hchunks : Arriving chunks)
    (hflatten : chunks.flatten = frame ++ rest) :
    ∃ chunks', receiver.receivePayload prims chunks =
        .ok (payload, receiver.follow sender', chunks') ∧
      Together sender' (receiver.follow sender') ∧ chunks'.flatten = rest ∧ Arriving chunks' := by
  obtain ⟨body, channel, hencrypt, hframe, hsender⟩ := sendPayload_ok hsent
  obtain ⟨hlength, henabled, -, hdecrypt⟩ := encrypt_ok receiver hencrypt
  rw [hframe, List.append_assoc] at hflatten
  obtain ⟨afterHeader, hheader, hflatten, harriving⟩ := readFully_flatten hchunks hflatten
  obtain ⟨afterBody, hbody, hflatten, harriving⟩ := readFully_flatten harriving hflatten
  rw [length_headerBytes] at hheader
  have hwire : (byteswap (frameHeader body.length (channel.sequenceNumber + 1)
      (prims.md5 payload)).length).toNat = ctclHeaderSize + body.length := by
    rw [frameHeader, byteswap_byteswap, Nat.toUInt16, UInt16.toNat_ofNat']
    rw [kMaxSessionPayload] at hsize
    rw [ctclHeaderSize, hlength]
    omega
  refine ⟨afterBody, ?_, ⟨?_, rfl⟩, hflatten, harriving⟩
  · rw [receivePayload, hheader]
    simp only [bind, Except.bind, ofBytes_bytes, hwire]
    rw [if_neg (by rw [hlength]; omega), Nat.add_sub_cancel_left, hbody]
    simp only [pure, Except.pure, hdecrypt htogether]
    rw [if_neg (by simp [frameHeader]), hsender]
    rfl
  · rw [follow, htogether.encryption, hsender, ← henabled]

theorem sendPayload_of_able (h : sender.Able) :
    ∃ frame sender', sender.sendPayload prims payload = .ok (frame, sender') ∧ sender'.Able := by
  obtain ⟨body, channel, hencrypt⟩ := @encrypt_of_able prims sender payload h
  obtain ⟨-, henabled, hready, -⟩ := encrypt_ok sender hencrypt
  refine ⟨(frameHeader body.length channel.nextNumber.1 (prims.md5 payload)).bytes ++ body,
    channel.nextNumber.2, ?_, ?_⟩
  · simp [sendPayload, hencrypt, bind, Except.bind, pure, Except.pure]
  · simp only [Able, nextNumber, henabled, hready]
    exact h

/-- The payloads go out when the sender can cipher. -/
theorem sendPayloads_ok_iff {payloads : List (List UInt8)} :
    (∃ sent, sender.sendPayloads prims payloads = .ok sent) ↔ payloads = [] ∨ sender.Able := by
  induction payloads generalizing sender with
  | nil => exact iff_of_true ⟨_, rfl⟩ (.inl rfl)
  | cons payload payloads ih =>
      by_cases hable : sender.Able
      · obtain ⟨frame, sender', hsent, hable'⟩ := @sendPayload_of_able prims sender payload hable
        obtain ⟨sent, hrest⟩ := ih.mpr (.inr hable')
        refine iff_of_true ⟨(frame ++ sent.1, sent.2), ?_⟩ (.inr hable)
        simp [sendPayloads, hsent, hrest, bind, Except.bind, pure, Except.pure]
      · obtain ⟨message, hencrypt⟩ := @encrypt_of_not_able prims sender payload hable
        refine iff_of_false ?_ (by simpa using hable)
        rintro ⟨sent, hsent⟩
        simp [sendPayloads, sendPayload, hencrypt, bind, Except.bind] at hsent

/-- Whatever was sent is read back as the payloads, each with its digest accepted, until there is no
more to read; the receiver's stream is then where the sender's is. -/
theorem frames_read_back (prims : Primitives) (sender receiver : Channel)
    (payloads : List (List UInt8)) (hsize : ∀ payload ∈ payloads, payload.length ≤ kMaxSessionPayload)
    (htogether : Together sender receiver) :
    ((∃ sent, sender.sendPayloads prims payloads = .ok sent) ↔ payloads = [] ∨ sender.Able) ∧
    ∀ wire sender', sender.sendPayloads prims payloads = .ok (wire, sender') →
      ∀ chunks : List (List UInt8), (∀ chunk ∈ chunks, chunk ≠ []) → chunks.flatten = wire →
        ∀ turns, payloads.length < turns →
          receiver.receivePayloads prims turns chunks =
            (payloads, some ("socket read failed",
              { receiver with inboundCrypto := sender'.outboundCrypto })) := by
  refine ⟨sendPayloads_ok_iff, ?_⟩
  induction payloads generalizing sender receiver with
  | nil =>
      intro wire sender' hsent chunks hchunks hflatten turns hturns
      obtain ⟨turns, rfl⟩ : ∃ k, turns = k + 1 := ⟨turns - 1, by omega⟩
      cases hsent
      have hnone : chunks = [] := by
        cases chunks with
        | nil => rfl
        | cons chunk chunks =>
            rw [List.flatten_cons, List.append_eq_nil_iff] at hflatten
            exact absurd hflatten.1 (hchunks chunk List.mem_cons_self)
      subst hnone
      rw [← htogether.crypto]
      rfl
  | cons payload payloads ih =>
      intro wire sender' hsent chunks hchunks hflatten turns hturns
      obtain ⟨turns, rfl⟩ : ∃ k, turns = k + 1 := ⟨turns - 1, by omega⟩
      obtain ⟨hpayload, hmore⟩ := List.forall_mem_cons.mp hsize
      obtain ⟨⟨frame, middle⟩, hframe, hrest⟩ := bind_eq_ok hsent
      obtain ⟨⟨frames, last⟩, hframes, hreturn⟩ := bind_eq_ok hrest
      cases hreturn
      obtain ⟨chunks', hreceived, htogether', hflatten', hchunks'⟩ :=
        receivePayload_frame hpayload htogether hframe hchunks hflatten
      have hread := ih middle (receiver.follow middle) hmore htogether' frames sender' hframes
        chunks' hchunks' hflatten' turns (by simpa using hturns)
      rw [receivePayloads, hreceived]
      simp only [hread]
      rfl

end Channel

/-! ## Two heartbeats -/

/-- What MD5 and AES give for two short payloads under a key of zeros, the first of which ends within
the second block of the keystream. -/
def heartbeatPrimitives : Primitives where
  md5 payload :=
    if payload.length = 17 then
      #v[86, 114, 126, 244, 118, 166, 253, 196, 181, 200, 230, 118, 211, 28, 156, 68]
    else #v[153, 247, 215, 26, 68, 197, 174, 216, 12, 174, 178, 228, 5, 53, 67, 252]
  aesEncrypt _ block :=
    if block.toList.getD 15 0 = 2 then
      #v[206, 167, 64, 61, 77, 96, 107, 110, 7, 78, 197, 211, 186, 243, 157, 24]
    else #v[114, 96, 3, 202, 55, 166, 42, 116, 209, 162, 245, 142, 117, 6, 53, 142]

def heartbeats : List (List UInt8) := [91 :: 210 :: List.replicate 15 0, [91, 210]]

/-- Both ends of an encrypted session. -/
def freshChannel : Channel where
  encryptionEnabled := true
  inboundCrypto := ({} : CtrCryptoStream).initializeStream (.replicate 32 0) (.replicate 16 0)
  outboundCrypto := ({} : CtrCryptoStream).initializeStream (.replicate 32 0) (.replicate 16 0)

/-- They are read back byte by byte. -/
theorem frames_read_back_heartbeats : ∃ wire sender',
    freshChannel.sendPayloads heartbeatPrimitives heartbeats = .ok (wire, sender') ∧
      freshChannel.receivePayloads heartbeatPrimitives 3 (wire.map fun byte => [byte]) =
        (heartbeats, some ("socket read failed",
          { freshChannel with inboundCrypto := sender'.outboundCrypto })) := by
  obtain ⟨hable, hread⟩ := Channel.frames_read_back heartbeatPrimitives freshChannel freshChannel
    heartbeats (by decide) ⟨rfl, rfl⟩
  obtain ⟨⟨wire, sender'⟩, hsent⟩ := hable.mpr (.inr (.inr rfl))
  refine ⟨wire, sender', hsent, ?_⟩
  refine hread wire sender' hsent _ (by simp) ?_ 3 (by decide)
  simp [← List.flatMap_def]

end NseFoExchangeSim.Server
