import NseFoExchangeSim.Lib.Fallible
import NseFoExchangeSim.Lib.LittleEndian

/-!
# Capture files

`CaptureRecord` and `CaptureRecordReader` of `replay.cpp`. A file is the list of its bytes, those of the
decompressed file for a gzip capture; reading one is a function of what is left of it.
-/

namespace NseFoExchangeSim.Replay

open Lib

def kCaptureRecordSize : Nat := 64
def kCapturePrefixSize : Nat := 16
def kCapturePayloadOffset : Nat := kCapturePrefixSize
def kCaptureMaxPayloadSize : Nat := kCaptureRecordSize - kCapturePrefixSize

/-- The sizes of the packed structures of `protocol.h`, and where a message of either kind has its
token. -/
def tbtStreamHeaderSize : Nat := 9
def tbtOrderMessageSize : Nat := 38
def tbtTradeMessageSize : Nat := 45
def tbtOrderTokenOffset : Nat := 25
def tbtTradeTokenOffset : Nat := 33

structure CaptureRecord where
  raw : List UInt8
  captureSeconds : UInt64
  captureNanos : UInt64
  captureTimeNs : UInt64
  packetSize : UInt16
  streamId : UInt16
  sequenceNo : UInt32
  messageType : UInt8
  token : UInt32
deriving DecidableEq, Repr

/-- What is left of a file. -/
structure CaptureRecordReader where
  path : String
  input : List UInt8
  recordIndex : UInt64 := 0
deriving DecidableEq, Repr

namespace CaptureRecordReader

/-- `none` at the end of the file, and an error when the file ends within a record. -/
def readExact (reader : CaptureRecordReader) :
    Except String (Option (List UInt8 × CaptureRecordReader)) :=
  if reader.input.isEmpty then .ok none
  else if reader.input.length < kCaptureRecordSize then
    .error ("Truncated capture file: " ++ reader.path)
  else
    .ok (some
      (reader.input.take kCaptureRecordSize,
        { reader with input := reader.input.drop kCaptureRecordSize }))

/-- The fields of a record, as `readNext` fills them in before its checks. -/
def decodeRecord (bytes : List UInt8) : CaptureRecord :=
  let captureSeconds := (loadLittleEndian 8 bytes 0).toUInt64
  let captureNanos := (loadLittleEndian 8 bytes 8).toUInt64
  let messageType := bytes.getD (kCapturePayloadOffset + 8) 0
  let tokenOffset :=
    if messageType == 'T'.toUInt8 then tbtTradeTokenOffset else tbtOrderTokenOffset
  { raw := bytes
    captureSeconds := captureSeconds
    captureNanos := captureNanos
    captureTimeNs := captureSeconds * 1000000000 + captureNanos
    packetSize := (loadLittleEndian 2 bytes kCapturePayloadOffset).toUInt16
    streamId := (loadLittleEndian 2 bytes (kCapturePayloadOffset + 2)).toUInt16
    sequenceNo := (loadLittleEndian 4 bytes (kCapturePayloadOffset + 4)).toUInt32
    messageType := messageType
    token := (loadLittleEndian 4 bytes (kCapturePayloadOffset + tokenOffset)).toUInt32 }

/-- What an error message says of a record. -/
def atRecord (reader : CaptureRecordReader) : String :=
  reader.path ++ " record " ++ toString reader.recordIndex

/-- The checks of `readNext`, in its order. -/
def checkRecord (reader : CaptureRecordReader) (record : CaptureRecord) : Except String Unit :=
  if record.packetSize.toNat < tbtStreamHeaderSize ∨
      record.packetSize.toNat > kCaptureMaxPayloadSize then
    .error ("Invalid packet size " ++ toString record.packetSize ++ " in " ++ reader.atRecord)
  else if record.captureNanos ≥ 1000000000 then
    .error ("Invalid nanosecond timestamp in " ++ reader.atRecord)
  else if record.messageType == 'T'.toUInt8 then
    if record.packetSize.toNat < tbtTradeMessageSize then
      .error ("Short trade packet in " ++ reader.atRecord)
    else .ok ()
  else if record.packetSize.toNat < tbtOrderMessageSize then
    .error ("Short order packet in " ++ reader.atRecord)
  else .ok ()

/-- The next record and the reader after it, or `none` at the end of the file. -/
def readNext (reader : CaptureRecordReader) :
    Except String (Option (CaptureRecord × CaptureRecordReader)) := do
  match ← reader.readExact with
  | none => return none
  | some (bytes, reader) =>
      let reader := { reader with recordIndex := reader.recordIndex + 1 }
      let record := decodeRecord bytes
      reader.checkRecord record
      return some (record, reader)

end CaptureRecordReader

/-- A file that the reader accepts to its end, and the records it holds. -/
inductive Holds : CaptureRecordReader → List CaptureRecord → Prop
  | done {reader} (hend : reader.readNext = .ok none) : Holds reader []
  | more {reader record reader' records} (hread : reader.readNext = .ok (some (record, reader')))
      (hrest : Holds reader' records) : Holds reader (record :: records)

/-- What a record with an order message is made of; its other fields are zero. -/
structure OrderStamp where
  seconds : Nat
  nanos : Nat := 0
  streamId : Nat := 1
  sequenceNo : Nat := 1

def OrderStamp.bytes (stamp : OrderStamp) : List UInt8 :=
  storeLittleEndian 8 stamp.seconds ++ storeLittleEndian 8 stamp.nanos ++
    storeLittleEndian 2 tbtOrderMessageSize ++ storeLittleEndian 2 stamp.streamId ++
    storeLittleEndian 4 stamp.sequenceNo ++ 'N'.toUInt8 :: List.replicate 39 0

def OrderStamp.record (stamp : OrderStamp) : CaptureRecord :=
  CaptureRecordReader.decodeRecord stamp.bytes

/-- The bytes of a capture of order messages. -/
def orderFile (stamps : List OrderStamp) : List UInt8 := stamps.flatMap OrderStamp.bytes

/-! ## Accepted records -/

/-- What holds of every record that the reader accepts. -/
structure CaptureRecord.WellFormed (record : CaptureRecord) : Prop where
  raw : record.raw.length = kCaptureRecordSize
  packetSize : record.packetSize.toNat ≤ kCaptureMaxPayloadSize
  nanos : record.captureNanos.toNat < 1000000000
  time : record.captureTimeNs = record.captureSeconds * 1000000000 + record.captureNanos

theorem readExact_length {reader reader' : CaptureRecordReader} {bytes : List UInt8}
    (h : reader.readExact = .ok (some (bytes, reader'))) : bytes.length = kCaptureRecordSize := by
  rw [CaptureRecordReader.readExact] at h
  split at h
  · cases h
  · split at h
    · cases h
    · rename_i hlength
      cases h
      rw [List.length_take]
      omega

theorem checkRecord_ok {reader : CaptureRecordReader} {record : CaptureRecord}
    (h : reader.checkRecord record = .ok ()) :
    record.packetSize.toNat ≤ kCaptureMaxPayloadSize ∧ record.captureNanos.toNat < 1000000000 := by
  rw [CaptureRecordReader.checkRecord] at h
  split at h
  · cases h
  · rename_i hsize
    split at h
    · cases h
    · rename_i hnanos
      rw [ge_iff_le, UInt64.not_le, UInt64.lt_iff_toNat_lt] at hnanos
      exact ⟨by omega, hnanos⟩

theorem readNext_wellFormed {reader reader' : CaptureRecordReader} {record : CaptureRecord}
    (h : reader.readNext = .ok (some (record, reader'))) : record.WellFormed := by
  obtain ⟨read, hread, hrest⟩ := bind_eq_ok h
  cases read with
  | none => cases hrest
  | some r =>
      obtain ⟨bytes, reader₁⟩ := r
      obtain ⟨_, hcheck, hreturn⟩ := bind_eq_ok hrest
      cases hreturn
      obtain ⟨hsize, hnanos⟩ := checkRecord_ok hcheck
      exact ⟨readExact_length hread, hsize, hnanos, rfl⟩

theorem Holds.wellFormed {reader : CaptureRecordReader} {records : List CaptureRecord}
    (h : Holds reader records) : ∀ record ∈ records, record.WellFormed := by
  induction h with
  | done hend => simp
  | more hread hrest ih =>
      intro record hmem
      rcases List.mem_cons.mp hmem with rfl | hmem
      · exact readNext_wellFormed hread
      · exact ih record hmem

/-! ## Records that were stored -/

theorem OrderStamp.length_bytes (stamp : OrderStamp) : stamp.bytes.length = kCaptureRecordSize := by
  simp [OrderStamp.bytes, kCaptureRecordSize]

/-- The reader accepts an order message's record. -/
theorem checkRecord_orderStamp (reader : CaptureRecordReader) {stamp : OrderStamp}
    (hnanos : stamp.nanos < 1000000000) : reader.checkRecord stamp.record = .ok () := by
  have hsize : stamp.record.packetSize = tbtOrderMessageSize.toUInt16 := by
    simp only [OrderStamp.record, CaptureRecordReader.decodeRecord, OrderStamp.bytes]
    rw [List.append_assoc, List.append_assoc, List.append_assoc, loadLittleEndian_store (by rfl)]
    rfl
  have htime : stamp.record.captureNanos = stamp.nanos.toUInt64 := by
    simp only [OrderStamp.record, CaptureRecordReader.decodeRecord, OrderStamp.bytes,
      List.append_assoc]
    rw [loadLittleEndian_store (by simp), Nat.mod_eq_of_lt (by omega)]
  have htype : stamp.record.messageType = 'N'.toUInt8 := by
    simp only [OrderStamp.record, CaptureRecordReader.decodeRecord, OrderStamp.bytes]
    rw [List.getD_eq_getElem?_getD, List.getElem?_append_right
      (by simp [kCapturePayloadOffset, kCapturePrefixSize])]
    simp [kCapturePayloadOffset, kCapturePrefixSize]
  have hlt : ¬ stamp.nanos.toUInt64 ≥ 1000000000 := by
    rw [ge_iff_le, UInt64.not_le, UInt64.lt_iff_toNat_lt]
    simp
    omega
  simp [CaptureRecordReader.checkRecord, hsize, htime, htype, hlt, tbtOrderMessageSize,
    tbtStreamHeaderSize, kCaptureMaxPayloadSize, kCaptureRecordSize, kCapturePrefixSize]
  decide

/-- The records of a capture of order messages are those it was made from. -/
theorem holds_orderFile {path : String} {index : UInt64} {stamps : List OrderStamp}
    (hnanos : ∀ stamp ∈ stamps, stamp.nanos < 1000000000) :
    Holds { path := path, input := orderFile stamps, recordIndex := index }
      (stamps.map OrderStamp.record) := by
  induction stamps generalizing index with
  | nil => exact .done rfl
  | cons stamp stamps ih =>
      refine .more ?_ (@ih (index + 1) fun s hs => hnanos s (List.mem_cons_of_mem stamp hs))
      have hlength := stamp.length_bytes
      have hfull : ¬ (stamp.bytes ++ orderFile stamps).length < kCaptureRecordSize := by
        rw [List.length_append, hlength]
        omega
      have hsome : (stamp.bytes ++ orderFile stamps).isEmpty = false := by
        cases hbytes : stamp.bytes ++ orderFile stamps with
        | nil => simp [hbytes, kCaptureRecordSize] at hfull
        | cons byte bytes => rfl
      have hcheck := checkRecord_orderStamp
        { path := path, input := orderFile stamps, recordIndex := index + 1 }
        (hnanos stamp List.mem_cons_self)
      rw [orderFile, List.flatMap_cons, ← orderFile, CaptureRecordReader.readNext,
        CaptureRecordReader.readExact, hsome]
      simp only [Bool.false_eq_true, if_false, if_neg hfull, List.take_left' hlength,
        List.drop_left' hlength]
      rw [OrderStamp.record] at hcheck ⊢
      simp [bind, Except.bind, hcheck, pure, Except.pure]

end NseFoExchangeSim.Replay
