import NseFoExchangeSim.Replay.Gzip
import NseFoExchangeSim.Replay.Lemmas.Messages

/-!
# Capture files read back

A file of records that were made from packets, as the tests of the replay make them, is read back
record by record: the reader accepts it to its end and every record holds the packet it was made from.
-/

namespace NseFoExchangeSim.Replay

open Lib Protocol Engine Server

/-! ## Records made from packets -/

/-- What a record is made from: when the packet was captured, its stream and its number there. -/
structure CapturedPacket where
  captureSeconds : UInt64
  captureNanos : UInt64 := 0
  streamId : UInt16 := 15
  seqNo : UInt32 := 1
  packet : Packet

namespace CapturedPacket

variable (c : CapturedPacket)

/-- The stamp carries the time of the capture. -/
def stamp : PacketStamp where
  streamId := c.streamId
  seqNo := c.seqNo
  timestamp := c.captureSeconds * 1000000000 + c.captureNanos

def packetSize : Nat :=
  match c.packet with
  | .order _ => orderMessageSize
  | .trade _ => tradeMessageSize

def messageType : UInt8 :=
  match c.packet with
  | .order message => message.messageType
  | .trade _ => 'T'.toUInt8

def header : TbtStreamHeader where
  msgLen := c.packetSize.toUInt16
  streamId := c.streamId
  seqNo := c.seqNo
  messageType := c.messageType

/-- `makeCaptureOrderRecord` and `makeCaptureTradeRecord`. -/
def bytes : List UInt8 :=
  List.flatten
    [store64 c.captureSeconds, store64 c.captureNanos, c.packet.bytes c.stamp,
      zeros (kCaptureMaxPayloadSize - c.packetSize)]

def record : CaptureRecord := CaptureRecordReader.decodeRecord c.bytes

/-- The time is a time, and the simulator knows the type of the packet. -/
structure Sound : Prop where
  nanos : c.captureNanos < 1000000000
  known : c.packet.known = true

end CapturedPacket

section Captured

variable {c : CapturedPacket} {after : List UInt8}

theorem CapturedPacket.length_packet (c : CapturedPacket) :
    (c.packet.bytes c.stamp).length = c.packetSize := by
  rw [packetSize]
  cases c.packet with
  | order message => exact message.length_bytes _
  | trade message => exact message.length_bytes _

theorem CapturedPacket.packetSize_cases (c : CapturedPacket) :
    c.packetSize = orderMessageSize ∨ c.packetSize = tradeMessageSize := by
  rw [packetSize]
  cases c.packet with
  | order message => exact .inl rfl
  | trade message => exact .inr rfl

theorem CapturedPacket.packetSize_le (c : CapturedPacket) :
    streamHeaderSize ≤ c.packetSize ∧ c.packetSize ≤ kCaptureMaxPayloadSize := by
  rcases c.packetSize_cases with h | h <;> rw [h] <;> decide

theorem CapturedPacket.length_bytes (c : CapturedPacket) : c.bytes.length = kCaptureRecordSize := by
  have hsize := c.packetSize_le.2
  have hmax : kCaptureMaxPayloadSize = 48 := rfl
  have hrecord : kCaptureRecordSize = 64 := rfl
  simp [CapturedPacket.bytes, c.length_packet]
  omega

theorem CapturedPacket.payload_bytes (c : CapturedPacket) :
    c.bytes.drop kCapturePayloadOffset =
      c.packet.bytes c.stamp ++ zeros (kCaptureMaxPayloadSize - c.packetSize) := by
  have hprefix : (store64 c.captureSeconds ++ store64 c.captureNanos).length =
      kCapturePayloadOffset := by simp [kCapturePayloadOffset, kCapturePrefixSize]
  rw [CapturedPacket.bytes, List.flatten_cons, List.flatten_cons, ← List.append_assoc,
    List.drop_left' hprefix, List.flatten_cons, List.flatten_singleton]

/-- The header of the packet stands where the reader looks for it. -/
theorem CapturedPacket.header_bytes (c : CapturedPacket) :
    TbtStreamHeader.ofBytes (c.bytes.drop kCapturePayloadOffset) = c.header := by
  have hheader : ∃ rest, c.packet.bytes c.stamp = c.header.bytes ++ rest := by
    rw [header, packetSize, messageType]
    cases c.packet with
    | order message => exact ⟨_, rfl⟩
    | trade message => exact ⟨_, rfl⟩
  obtain ⟨rest, hrest⟩ := hheader
  rw [c.payload_bytes, hrest, List.append_assoc, TbtStreamHeader.ofBytes_bytes]

/-- What the reader makes of the header of a record's packet. -/
theorem decodeRecord_header (bytes : List UInt8) :
    (CaptureRecordReader.decodeRecord bytes).packetSize =
        (TbtStreamHeader.ofBytes (bytes.drop kCapturePayloadOffset)).msgLen ∧
      (CaptureRecordReader.decodeRecord bytes).streamId =
        (TbtStreamHeader.ofBytes (bytes.drop kCapturePayloadOffset)).streamId ∧
      (CaptureRecordReader.decodeRecord bytes).sequenceNo =
        (TbtStreamHeader.ofBytes (bytes.drop kCapturePayloadOffset)).seqNo ∧
      (CaptureRecordReader.decodeRecord bytes).messageType =
        (TbtStreamHeader.ofBytes (bytes.drop kCapturePayloadOffset)).messageType := by
  refine ⟨?_, ?_, ?_, ?_⟩
  · exact congrArg Nat.toUInt16 (@loadLittleEndian_drop 2 0 kCapturePayloadOffset bytes).symm
  · exact congrArg Nat.toUInt16 loadLittleEndian_drop.symm
  · exact congrArg Nat.toUInt32 loadLittleEndian_drop.symm
  · simp only [TbtStreamHeader.ofBytes, CaptureRecordReader.decodeRecord,
      List.getD_eq_getElem?_getD, List.getElem?_drop]

/-- The fields of a record are those it was made from. -/
structure CapturedPacket.Kept (c : CapturedPacket) (record : CaptureRecord) : Prop where
  captureSeconds : record.captureSeconds = c.captureSeconds
  captureNanos : record.captureNanos = c.captureNanos
  streamId : record.streamId = c.streamId
  sequenceNo : record.sequenceNo = c.seqNo
  packet : messageOf record = some c.packet
  datagram : datagramOf record = c.packet.bytes c.stamp

theorem CapturedPacket.record_size (c : CapturedPacket) :
    c.record.packetSize.toNat = c.packetSize ∧ c.record.messageType = c.messageType := by
  obtain ⟨hsize, -, -, htype⟩ := decodeRecord_header c.bytes
  rw [c.header_bytes] at hsize htype
  refine ⟨?_, htype⟩
  rw [record, hsize, header]
  rcases c.packetSize_cases with h | h <;> simp only [h] <;> rfl

theorem CapturedPacket.record_datagram (c : CapturedPacket) :
    datagramOf c.record = c.packet.bytes c.stamp := by
  have hraw : c.record.raw = c.bytes := rfl
  rw [datagramOf, hraw, c.payload_bytes, c.record_size.1, List.take_left' c.length_packet]

theorem CapturedPacket.record_nanos (c : CapturedPacket) :
    c.record.captureNanos = c.captureNanos := by
  have hload : c.record.captureNanos = load64 c.bytes 8 := rfl
  rw [hload, CapturedPacket.bytes, List.flatten_cons, load64_skip (by simp), List.flatten_cons]
  simp

/-- The packet's type says of which kind it is. -/
theorem CapturedPacket.Sound.kind (h : c.Sound) :
    (c.messageType = 'T'.toUInt8 → c.packetSize = tradeMessageSize) ∧
      (c.messageType ≠ 'T'.toUInt8 → c.packetSize = orderMessageSize) := by
  have hknown := h.known
  rw [messageType, packetSize]
  cases hpacket : c.packet with
  | order message =>
      refine ⟨fun htrade => ?_, fun _ => rfl⟩
      simp only at htrade
      rw [hpacket, Packet.known, htrade] at hknown
      exact absurd hknown (by decide)
  | trade message => exact ⟨fun _ => rfl, fun hnot => absurd rfl hnot⟩

theorem CapturedPacket.Sound.checkRecord (h : c.Sound) (reader : CaptureRecordReader) :
    reader.checkRecord c.record = .ok () := by
  obtain ⟨hsize, htype⟩ := c.record_size
  have hbounds : ¬ (c.packetSize < tbtStreamHeaderSize ∨ c.packetSize > kCaptureMaxPayloadSize) := by
    have hle := c.packetSize_le
    rw [not_or]
    exact ⟨Nat.not_lt.mpr hle.1, Nat.not_lt.mpr hle.2⟩
  have hnanos : ¬ c.captureNanos ≥ 1000000000 := UInt64.not_le.mpr h.nanos
  rw [CaptureRecordReader.checkRecord, hsize, htype, c.record_nanos, if_neg hbounds, if_neg hnanos]
  by_cases htrade : c.messageType = 'T'.toUInt8
  · rw [h.kind.1 htrade, htrade]
    rfl
  · have horder : (c.messageType == 'T'.toUInt8) = false := beq_false_of_ne htrade
    rw [h.kind.2 htrade, horder]
    rfl

theorem CapturedPacket.Sound.complete (h : c.Sound) : c.record.Complete := by
  obtain ⟨hsize, htype⟩ := c.record_size
  refine ⟨rfl, c.length_bytes, ?_, fun htrade => ?_, fun horder => ?_⟩
  · rw [hsize]
    exact c.packetSize_le.2
  · rw [htype] at htrade
    rw [hsize, h.kind.1 htrade]
  · rw [htype] at horder
    rw [hsize, h.kind.2 horder]

theorem CapturedPacket.Sound.kept (h : c.Sound) : c.Kept c.record := by
  obtain ⟨-, hstream, hseq, -⟩ := decodeRecord_header c.bytes
  rw [c.header_bytes] at hstream hseq
  refine ⟨?_, c.record_nanos, hstream, hseq, ?_, c.record_datagram⟩
  · have hload : c.record.captureSeconds = load64 c.bytes 0 := rfl
    rw [hload, CapturedPacket.bytes, List.flatten_cons, load64_store]
  · rw [← h.complete.packet, c.record_datagram, ← List.append_nil (c.packet.bytes c.stamp)]
    exact packetOf_bytes h.known

end Captured

/-! ## Files -/

/-- The bytes of a file with these records. -/
def captureFile (packets : List CapturedPacket) : List UInt8 := packets.flatMap CapturedPacket.bytes

theorem readNext_append {path : String} {bytes after : List UInt8} {index : UInt64}
    (hlength : bytes.length = kCaptureRecordSize)
    (hcheck : CaptureRecordReader.checkRecord { path, input := after, recordIndex := index + 1 }
      (CaptureRecordReader.decodeRecord bytes) = .ok ()) :
    CaptureRecordReader.readNext { path, input := bytes ++ after, recordIndex := index } =
      .ok (some (CaptureRecordReader.decodeRecord bytes,
        { path, input := after, recordIndex := index + 1 })) := by
  have henough : ¬ (bytes ++ after).length < kCaptureRecordSize := by
    rw [List.length_append, hlength]
    omega
  have hsome : (bytes ++ after).isEmpty = false := by
    rw [← Bool.not_eq_true, List.isEmpty_iff]
    intro hnil
    rw [hnil] at henough
    exact henough (by decide)
  rw [CaptureRecordReader.readNext, CaptureRecordReader.readExact, hsome]
  simp only [Bool.false_eq_true, if_false, if_neg henough, List.take_left' hlength,
    List.drop_left' hlength]
  simp [bind, Except.bind, hcheck, pure, Except.pure]

theorem holds_captureFile {path : String} {packets : List CapturedPacket}
    (hsound : ∀ c ∈ packets, c.Sound) (index : UInt64) :
    Holds { path, input := captureFile packets, recordIndex := index }
      (packets.map CapturedPacket.record) := by
  induction packets generalizing index with
  | nil => exact .done rfl
  | cons c packets ih =>
      rw [List.forall_mem_cons] at hsound
      rw [captureFile, List.flatMap_cons, ← captureFile]
      exact .more (readNext_append c.length_bytes (hsound.1.checkRecord _)) (ih hsound.2 (index + 1))

theorem readNext_input {reader reader' : CaptureRecordReader} {record : CaptureRecord}
    (h : reader.readNext = .ok (some (record, reader'))) :
    reader.input.length = kCaptureRecordSize + reader'.input.length := by
  obtain ⟨read, hread, hrest⟩ := bind_eq_ok h
  rw [CaptureRecordReader.readExact] at hread
  split at hread
  · cases hread
    cases hrest
  · split at hread
    · cases hread
    · rename_i henough
      cases hread
      obtain ⟨_, -, hreturn⟩ := bind_eq_ok hrest
      cases hreturn
      rw [List.length_drop]
      omega

/-- An accepted file has nothing but whole records. -/
theorem Holds.length {reader : CaptureRecordReader} {records : List CaptureRecord}
    (h : Holds reader records) : reader.input.length = kCaptureRecordSize * records.length := by
  induction h with
  | @done reader hend =>
      obtain ⟨read, hread, hrest⟩ := bind_eq_ok hend
      cases read with
      | none =>
          rw [CaptureRecordReader.readExact] at hread
          split at hread
          · rename_i hempty
            rw [List.isEmpty_iff.mp hempty]
            rfl
          · split at hread <;> cases hread
      | some r =>
          obtain ⟨_, -, hreturn⟩ := bind_eq_ok hrest
          cases hreturn
  | more hread hrest ih =>
      rw [readNext_input hread, ih, List.length_cons, Nat.mul_succ, Nat.add_comm]

/-! ## Reading back -/

/-- A file of any records made from packets of known types is accepted to its end; each record keeps the
time, the stream, the number and the packet it was made from, and is sent as that packet's bytes. The
same file cut inside a record is not accepted. -/
theorem captures_read_back (path : String) (packets : List CapturedPacket)
    (hsound : ∀ c ∈ packets, c.Sound) :
    Holds { path, input := captureFile packets } (packets.map CapturedPacket.record) ∧
      (∀ c ∈ packets, c.Kept c.record) ∧
      ∀ cut, cut < (captureFile packets).length → cut % kCaptureRecordSize ≠ 0 → ∀ records,
        ¬ Holds { path, input := (captureFile packets).take cut } records := by
  refine ⟨holds_captureFile hsound 0, fun c hc => (hsound c hc).kept,
    fun cut hcut hinside records hholds => hinside ?_⟩
  have hlength := hholds.length
  rw [List.length_take, Nat.min_eq_left (Nat.le_of_lt hcut)] at hlength
  rw [hlength, Nat.mul_mod_right]

/-- An offer and the trade that takes it, as the tests of the replay capture them. -/
def twoPackets : List CapturedPacket :=
  [{ captureSeconds := 1757994300
     captureNanos := 100
     packet := .order ⟨'N'.toUInt8, 101, 111111, 'S'.toUInt8, 995, 10⟩ },
    { captureSeconds := 1757994300
      captureNanos := 200
      seqNo := 2
      packet := .trade ⟨201, 101, 111111, 995, 10⟩ }]

theorem twoPackets_sound : ∀ c ∈ twoPackets, c.Sound := by
  intro c hc
  simp only [twoPackets, List.mem_cons, List.not_mem_nil, or_false] at hc
  rcases hc with rfl | rfl
  · exact ⟨by decide, by decide⟩
  · exact ⟨by decide, by decide⟩

theorem captures_read_back_two :
    Holds { path := "111111_fo.dat", input := captureFile twoPackets }
        (twoPackets.map CapturedPacket.record) ∧
      ∀ records,
        ¬ Holds { path := "111111_fo.dat", input := (captureFile twoPackets).take 100 } records := by
  obtain ⟨hholds, -, hcut⟩ := captures_read_back "111111_fo.dat" twoPackets twoPackets_sound
  exact ⟨hholds, hcut 100 (by decide +kernel) (by decide)⟩

end NseFoExchangeSim.Replay
