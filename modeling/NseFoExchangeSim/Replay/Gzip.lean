import NseFoExchangeSim.Replay.Capture

/-!
# Compressed capture files

The gzip branch of `CaptureRecordReader`. `gzread` hands out the decompressed bytes in pieces, each no
longer than it was asked for; the stream ends, or it breaks off with an error of the library.
-/

namespace NseFoExchangeSim.Replay

open Lib

/-- What is left of a compressed file: the pieces `gzread` has ready, and the error that comes after
them, if one does. -/
structure GzipRecordReader where
  path : String
  chunks : List (List UInt8)
  failure : Option String := none
  recordIndex : UInt64 := 0
deriving DecidableEq, Repr

namespace GzipRecordReader

/-- `gzread` returns no bytes, or less than none, when `total` bytes have been read. -/
def atEnd (path : String) (failure : Option String) (total : List UInt8) :
    Except String (Option (List UInt8 × List (List UInt8))) :=
  match failure with
  | some text => .error ("gzread failed for " ++ path ++ ": " ++ text)
  | none =>
      if total.isEmpty then .ok none else .error ("Truncated gzip capture file: " ++ path)

/-- The loop of `readExact`: the bytes read so far, and the pieces that are left. -/
def readExactFrom (path : String) (failure : Option String) (size : Nat) (total : List UInt8) :
    List (List UInt8) → Except String (Option (List UInt8 × List (List UInt8)))
  | [] => if total.length < size then atEnd path failure total else .ok (some (total, []))
  | chunk :: chunks =>
      if total.length < size then
        if chunk.isEmpty then atEnd path none total
        else if size - total.length < chunk.length then
          .ok (some
            (total ++ chunk.take (size - total.length), chunk.drop (size - total.length) :: chunks))
        else readExactFrom path failure size (total ++ chunk) chunks
      else .ok (some (total, chunk :: chunks))

def readExact (reader : GzipRecordReader) :
    Except String (Option (List UInt8 × GzipRecordReader)) := do
  match ← readExactFrom reader.path reader.failure kCaptureRecordSize [] reader.chunks with
  | none => return none
  | some (bytes, chunks) => return some (bytes, { reader with chunks })

/-- The reader of a file that is not compressed, of the same bytes. -/
def plain (reader : GzipRecordReader) : CaptureRecordReader where
  path := reader.path
  input := reader.chunks.flatten
  recordIndex := reader.recordIndex

/-- The checks are the same, and so is what their errors say. -/
def readNext (reader : GzipRecordReader) :
    Except String (Option (CaptureRecord × GzipRecordReader)) := do
  match ← reader.readExact with
  | none => return none
  | some (bytes, reader) =>
      let reader := { reader with recordIndex := reader.recordIndex + 1 }
      let record := CaptureRecordReader.decodeRecord bytes
      reader.plain.checkRecord record
      return some (record, reader)

end GzipRecordReader

open GzipRecordReader

variable {reader reader' : GzipRecordReader}

end NseFoExchangeSim.Replay
