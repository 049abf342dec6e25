import NseFoExchangeSim.Server.Theorems.Datagrams
import NseFoExchangeSim.Replay.App

/-!
# The messages in capture records

What the reader has checked of a record is what a market-data thread needs to take the record's datagram
for the message it is.
-/

namespace NseFoExchangeSim.Replay

open Lib Protocol Engine Server

/-! ## The message in a record -/

def packetToken : Packet → UInt32
  | .order message => message.token
  | .trade message => message.token

/-- The message in a record, if the simulator knows its type. -/
def messageOf (record : CaptureRecord) : Option Packet :=
  let payload := record.raw.drop kCapturePayloadOffset
  if record.messageType = 'N'.toUInt8 ∨ record.messageType = 'M'.toUInt8 ∨
      record.messageType = 'X'.toUInt8 then
    some (.order (.ofBytes payload))
  else if record.messageType = 'T'.toUInt8 then some (.trade (.ofBytes payload))
  else none

/-- What the reader has checked of a record's message: its fields are those of its bytes, and the packet
is long enough for it. -/
structure CaptureRecord.Complete (record : CaptureRecord) : Prop where
  decoded : record = CaptureRecordReader.decodeRecord record.raw
  length : record.raw.length = kCaptureRecordSize
  fits : record.packetSize.toNat ≤ kCaptureMaxPayloadSize
  trade : record.messageType = 'T'.toUInt8 → tradeMessageSize ≤ record.packetSize.toNat
  order : record.messageType ≠ 'T'.toUInt8 → orderMessageSize ≤ record.packetSize.toNat

section Records

variable {record : CaptureRecord}

theorem checkRecord_size {reader : CaptureRecordReader}
    (h : reader.checkRecord record = .ok ()) :
    (record.messageType = 'T'.toUInt8 → tradeMessageSize ≤ record.packetSize.toNat) ∧
      (record.messageType ≠ 'T'.toUInt8 → orderMessageSize ≤ record.packetSize.toNat) := by
  rw [CaptureRecordReader.checkRecord] at h
  split at h
  · cases h
  · split at h
    · cases h
    · split at h
      · rename_i htrade
        rw [beq_iff_eq] at htrade
        split at h
        · cases h
        · rename_i hsize
          exact ⟨fun _ => Nat.not_lt.mp hsize, fun hother => absurd htrade hother⟩
      · rename_i horder
        rw [beq_iff_eq] at horder
        split at h
        · cases h
        · rename_i hsize
          exact ⟨fun htrade => absurd htrade horder, fun _ => Nat.not_lt.mp hsize⟩

theorem readNext_complete {reader reader' : CaptureRecordReader}
    (h : reader.readNext = .ok (some (record, reader'))) : record.Complete := by
  obtain ⟨read, hread, hrest⟩ := bind_eq_ok h
  cases read with
  | none => cases hrest
  | some r =>
      obtain ⟨bytes, reader₁⟩ := r
      obtain ⟨_, hcheck, hreturn⟩ := bind_eq_ok hrest
      cases hreturn
      have hsize := checkRecord_size hcheck
      exact ⟨rfl, readExact_length hread, (checkRecord_ok hcheck).1, hsize.1, hsize.2⟩

theorem Holds.complete {reader : CaptureRecordReader} {records : List CaptureRecord}
    (h : Holds reader records) : ∀ record ∈ records, record.Complete := by
  induction h with
  | done hend => simp
  | more hread hrest ih =>
      intro record hmem
      rcases List.mem_cons.mp hmem with rfl | hmem
      · exact readNext_complete hread
      · exact ih record hmem

/-- The type that the simulator reads in the datagram is the one that the reader read in the record. -/
theorem CaptureRecord.Complete.header (h : record.Complete) :
    (TbtStreamHeader.ofBytes (record.raw.drop kCapturePayloadOffset)).messageType =
      record.messageType := by
  rw [h.decoded]
  simp only [TbtStreamHeader.ofBytes, CaptureRecordReader.decodeRecord, List.getD_eq_getElem?_getD,
    List.getElem?_drop]

theorem loadLittleEndian_drop {size offset skip : Nat} {bytes : List UInt8} :
    loadLittleEndian size (bytes.drop skip) offset = loadLittleEndian size bytes (skip + offset) := by
  rw [loadLittleEndian, loadLittleEndian, List.drop_drop]

/-- So is the token, which the reader looks for at the place that its type says. -/
theorem CaptureRecord.Complete.token (h : record.Complete) {packet : Packet}
    (hpacket : messageOf record = some packet) : packetToken packet = record.token := by
  obtain ⟨bytes, rfl⟩ : ∃ bytes, record = CaptureRecordReader.decodeRecord bytes := ⟨_, h.decoded⟩
  have htoken : (CaptureRecordReader.decodeRecord bytes).token =
      load32 bytes (kCapturePayloadOffset +
        if (CaptureRecordReader.decodeRecord bytes).messageType == 'T'.toUInt8 then tbtTradeTokenOffset
        else tbtOrderTokenOffset) := rfl
  rw [htoken]
  rw [messageOf] at hpacket
  split at hpacket
  · rename_i hknown
    cases hpacket
    have horder : ((CaptureRecordReader.decodeRecord bytes).messageType == 'T'.toUInt8) = false := by
      rcases hknown with ht | ht | ht <;> rw [ht] <;> decide
    rw [horder]
    exact congrArg Nat.toUInt32 loadLittleEndian_drop
  · split at hpacket
    · rename_i htrade
      cases hpacket
      rw [htrade]
      exact congrArg Nat.toUInt32 loadLittleEndian_drop
    · cases hpacket

/-- The simulator finds in the datagram the message that is in the record: no record that the reader
accepts is too short for its message. -/
theorem CaptureRecord.Complete.packet (h : record.Complete) :
    packetOf (datagramOf record) = messageOf record := by
  have hlength : (datagramOf record).length = record.packetSize.toNat := by
    have hfits := h.fits
    rw [datagramOf, List.length_take, List.length_drop, h.length]
    simp only [kCaptureMaxPayloadSize, kCapturePrefixSize, kCapturePayloadOffset] at hfits ⊢
    omega
  have hwhole : packetOf (datagramOf record) =
      packetIn (record.raw.drop kCapturePayloadOffset) record.packetSize.toNat := by
    rw [packetOf, hlength]
    exact packetIn_of_take_eq (by rw [datagramOf, List.take_take, Nat.min_self])
  have hheader : ¬ record.packetSize.toNat < streamHeaderSize := by
    rw [streamHeaderSize]
    by_cases htrade : record.messageType = 'T'.toUInt8
    · have hsize := h.trade htrade
      rw [tradeMessageSize] at hsize
      omega
    · have hsize := h.order htrade
      rw [orderMessageSize] at hsize
      omega
  rw [hwhole, packetIn, messageOf, if_neg hheader]
  simp only [h.header]
  split
  · rename_i hknown
    have hnot : record.messageType ≠ 'T'.toUInt8 := by
      rcases hknown with ht | ht | ht <;> rw [ht] <;> decide
    rw [if_neg (Nat.not_lt.mpr (h.order hnot))]
  · split
    · rename_i htrade
      rw [if_neg (Nat.not_lt.mpr (h.trade htrade))]
    · rfl

end Records

end NseFoExchangeSim.Replay
