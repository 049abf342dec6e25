import NseFoExchangeSim.Server.Lemmas.Outbound

/-!
# Frames that arrive

What the two ends make of the bytes that have arrived, when more of them may be on the way: they read a
frame that is there, and wait for one that is not there yet.
-/

namespace NseFoExchangeSim.Server

open Lib Protocol

/-! ## Bytes -/

section Bytes

variable {chunks : List (List UInt8)} {bytes rest more : List UInt8} {size : Nat}

theorem readFully_short (hchunks : Arriving chunks) (hshort : chunks.flatten.length < size) :
    readFully size chunks = .error "socket read failed" := by
  induction chunks generalizing size with
  | nil =>
      have hsize : size ≠ 0 := Nat.ne_of_gt (by simpa using hshort)
      rw [readFully, if_neg hsize]
  | cons chunk chunks ih =>
      have hchunk : chunk ≠ [] := hchunks chunk List.mem_cons_self
      have hmore : Arriving chunks := fun c hc => hchunks c (List.mem_cons_of_mem chunk hc)
      rw [List.flatten_cons, List.length_append] at hshort
      rw [readFully, if_neg (by omega), if_neg (by simpa using hchunk), if_neg (by omega),
        ih hmore (by omega)]
      rfl

/-- Of bytes that are to come, some have arrived: all that are asked for, or some of these are still to
come. -/
theorem readFully_arrived (hchunks : Arriving chunks)
    (hflatten : chunks.flatten ++ rest = bytes ++ more) :
    (readFully bytes.length chunks = .error "socket read failed" ∧ rest ≠ []) ∨
      ∃ chunks', readFully bytes.length chunks = .ok (bytes, chunks') ∧
        chunks'.flatten ++ rest = more ∧ Arriving chunks' := by
  rcases List.append_eq_append_iff.mp hflatten with ⟨left, hbytes, hrest⟩ | ⟨left, harrived, hmore⟩
  · by_cases hleft : left = []
    · subst hleft
      rw [List.append_nil] at hbytes
      obtain ⟨chunks', hread, hchunks', harriving⟩ :=
        @readFully_flatten chunks bytes [] hchunks (by rw [List.append_nil, hbytes])
      exact .inr ⟨chunks', hread, by rw [hchunks', hrest, List.nil_append, List.nil_append], harriving⟩
    · refine .inl ⟨readFully_short hchunks ?_, by simp [hrest, hleft]⟩
      have := List.length_pos_iff.mpr hleft
      rw [hbytes, List.length_append]
      omega
  · obtain ⟨chunks', hread, hchunks', harriving⟩ := readFully_flatten hchunks harrived
    exact .inr ⟨chunks', hread, by rw [hchunks', hmore], harriving⟩

end Bytes

/-! ## Frames -/

namespace Channel

variable {prims : Primitives} {sender sender' receiver : Channel} {payload frame : List UInt8}
  {chunks : List (List UInt8)} {rest more : List UInt8}

/-- The parts of a frame that was sent to a receiver. -/
theorem frame_parts (htogether : Together sender receiver)
    (hsent : sender.sendPayload prims payload = .ok (frame, sender'))
    (hsize : payload.length ≤ kMaxSessionPayload) :
    ∃ header body, frame = DirectExCtclHeader.bytes header ++ body ∧
      (byteswap header.length).toNat = ctclHeaderSize + body.length ∧
        body.length = payload.length ∧ header.md5Checksum = prims.md5 payload ∧
          receiver.decrypt prims body = .ok (payload, receiver.follow sender') := by
  obtain ⟨body, channel, hencrypt, hframe, hsender⟩ := sendPayload_ok hsent
  obtain ⟨hlength, -, -, hdecrypt⟩ := encrypt_ok receiver hencrypt
  refine ⟨_, body, hframe, ?_, hlength, rfl, ?_⟩
  · rw [kMaxSessionPayload] at hsize
    rw [frameHeader, byteswap_byteswap, Nat.toUInt16, UInt16.toNat_ofNat', ctclHeaderSize, hlength]
    omega
  · rw [hdecrypt htogether, hsender]
    rfl

/-- The server reads the frame, or waits for more of it. -/
theorem receivePayload_arrived (htogether : Together sender receiver)
    (hsent : sender.sendPayload prims payload = .ok (frame, sender'))
    (hsize : payload.length ≤ kMaxSessionPayload) (hchunks : Arriving chunks)
    (hflatten : chunks.flatten ++ rest = frame ++ more) :
    (receiver.receivePayload prims chunks = .error "socket read failed" ∧ rest ≠ []) ∨
      ∃ chunks', receiver.receivePayload prims chunks =
          .ok (payload, receiver.follow sender', chunks') ∧
        chunks'.flatten ++ rest = more ∧ Arriving chunks' := by
  obtain ⟨header, body, rfl, hwire, hlength, hdigest, hdecrypt⟩ := frame_parts htogether hsent hsize
  rw [List.append_assoc] at hflatten
  rcases readFully_arrived hchunks hflatten with ⟨hshort, hlater⟩ | ⟨afterHeader, hread, hafter, harriving⟩
  · rw [length_headerBytes] at hshort
    exact .inl ⟨by rw [receivePayload, hshort]; rfl, hlater⟩
  rw [length_headerBytes] at hread
  rw [receivePayload, hread]
  simp only [bind, Except.bind, ofBytes_bytes, hwire]
  rw [if_neg (by rw [hlength]; omega), Nat.add_sub_cancel_left]
  rcases readFully_arrived harriving hafter with ⟨hshort, hlater⟩ | ⟨chunks', hbody, hrest, harriving'⟩
  · exact .inl ⟨by simp only [hshort], hlater⟩
  · refine .inr ⟨chunks', ?_, hrest, harriving'⟩
    simp only [hbody, pure, Except.pure, hdecrypt, hdigest, ne_eq, not_true, if_false]

/-- The client reads the frame, or waits for more of it, or did not ask for a payload of its size. -/
theorem receiveSized_arrived {size : Nat} (htogether : Together sender receiver)
    (hsent : sender.sendPayload prims payload = .ok (frame, sender'))
    (hsize : payload.length ≤ kMaxSessionPayload) (hchunks : Arriving chunks)
    (hflatten : chunks.flatten ++ rest = frame ++ more) :
    (receiver.receiveSized prims size chunks = .error "socket read failed" ∧ rest ≠ []) ∨
      (receiver.receiveSized prims size chunks = .error "unexpected payload size" ∧
        payload.length ≠ size) ∨
      ∃ chunks', receiver.receiveSized prims size chunks =
          .ok (payload, receiver.follow sender', chunks') ∧
        chunks'.flatten ++ rest = more ∧ Arriving chunks' := by
  obtain ⟨header, body, rfl, hwire, hlength, hdigest, hdecrypt⟩ := frame_parts htogether hsent hsize
  rw [List.append_assoc] at hflatten
  rcases readFully_arrived hchunks hflatten with ⟨hshort, hlater⟩ | ⟨afterHeader, hread, hafter, harriving⟩
  · rw [length_headerBytes] at hshort
    exact .inl ⟨by rw [receiveSized, hshort]; rfl, hlater⟩
  rw [length_headerBytes] at hread
  have hpayload : (byteswap header.length).toUInt64 - ctclHeaderSize.toUInt64 =
      payload.length.toUInt64 := by
    apply UInt64.toNat_inj.mp
    rw [kMaxSessionPayload] at hsize
    simp only [UInt64.toNat_sub, UInt16.toNat_toUInt64, hwire, hlength, Nat.toUInt64,
      UInt64.toNat_ofNat', ctclHeaderSize]
    omega
  rw [receiveSized, hread]
  simp only [bind, Except.bind, ofBytes_bytes, hpayload]
  by_cases hasked : payload.length.toUInt64 = size.toUInt64
  · rw [if_neg (not_not.mpr hasked)]
    have hcount : payload.length.toUInt64.toNat = body.length := by
      rw [kMaxSessionPayload] at hsize
      rw [Nat.toUInt64, UInt64.toNat_ofNat', hlength]
      omega
    rw [hcount]
    rcases readFully_arrived harriving hafter with ⟨hshort, hlater⟩ | ⟨chunks', hbody, hrest, harriving'⟩
    · exact .inl ⟨by simp only [hshort], hlater⟩
    · refine .inr (.inr ⟨chunks', ?_, hrest, harriving'⟩)
      simp only [hbody, pure, Except.pure, hdecrypt, hdigest, ne_eq, not_true, if_false]
  · rw [if_pos hasked]
    exact .inr (.inl ⟨rfl, fun h => hasked (by rw [h])⟩)

end Channel

end NseFoExchangeSim.Server
