import NseFoExchangeSim.Protocol.ByteOrder
import NseFoExchangeSim.Protocol.Fields

/-!
# Payloads at the client

The requests as a client lays them out in memory, and the responses as it reads them from a payload. A
field that neither side reads is zero.
-/

namespace NseFoExchangeSim.Protocol

open Lib

/-! ## Text -/

/-- `copyTrailingSpaces` into an array of the given size. -/
def copyTrailingSpaces (size : Nat) (value : String) : Vector UInt8 size :=
  .ofFn fun i => (value.toList.map Char.toUInt8).getD i ' '.toUInt8

/-! ## The handshake and the direct requests -/

structure SecureBoxRegistrationRequestPayload where
  header : MessageHeader
  boxId : UInt16 := 0
deriving DecidableEq, Repr

def SecureBoxRegistrationRequestPayload.bytes (p : SecureBoxRegistrationRequestPayload) :
    List UInt8 := p.header.bytes ++ store16 p.boxId

/-- A logon with the given header, which has the trader, and `show_index`. -/
def SignOnInPayload.bytes (header : MessageHeader) (showIndex : UInt8) (p : SignOnInPayload) :
    List UInt8 :=
  List.flatten
    [header.bytes, store32 p.userId, zeros 8, p.password.toList, zeros 8, p.newPassword.toList,
      p.traderName.toList, zeros 4, p.brokerId.toList, zeros 1, store16 p.branchId,
      store32 p.versionNumber, zeros 66, p.wsClassName.toList, zeros 1, [showIndex], zeros 78]

structure SystemInfoRequestPayload where
  header : MessageHeader
  lastUpdatePortfolioTime : UInt32 := 0
deriving DecidableEq, Repr

def SystemInfoRequestPayload.bytes (p : SystemInfoRequestPayload) : List UInt8 :=
  p.header.bytes ++ store32 p.lastUpdatePortfolioTime

structure UpdateLocalDatabaseRequestPayload where
  header : MessageHeader
  requestForOpenOrders : UInt8 := 0
deriving DecidableEq, Repr

def UpdateLocalDatabaseRequestPayload.bytes (p : UpdateLocalDatabaseRequestPayload) : List UInt8 :=
  List.flatten [p.header.bytes, zeros 16, [p.requestForOpenOrders], zeros 25]

structure MessageDownloadRequestPayload where
  header : MessageHeader
  sequenceNumber : UInt64 := 0
deriving DecidableEq, Repr

def MessageDownloadRequestPayload.bytes (p : MessageDownloadRequestPayload) : List UInt8 :=
  p.header.bytes ++ store64 p.sequenceNumber

theorem SecureBoxRegistrationRequestPayload.length_bytes (p : SecureBoxRegistrationRequestPayload) :
    p.bytes.length = secureBoxRegistrationRequestSize := by
  simp [SecureBoxRegistrationRequestPayload.bytes, MessageHeader.length_bytes, messageHeaderSize,
    secureBoxRegistrationRequestSize]

theorem SignOnInPayload.length_bytes (header : MessageHeader) (showIndex : UInt8)
    (p : SignOnInPayload) : (p.bytes header showIndex).length = signOnInSize := by
  simp [SignOnInPayload.bytes, MessageHeader.length_bytes, messageHeaderSize, signOnInSize]

theorem SystemInfoRequestPayload.length_bytes (p : SystemInfoRequestPayload) :
    p.bytes.length = systemInfoRequestSize := by
  simp [SystemInfoRequestPayload.bytes, MessageHeader.length_bytes, messageHeaderSize,
    systemInfoRequestSize]

theorem UpdateLocalDatabaseRequestPayload.length_bytes (p : UpdateLocalDatabaseRequestPayload) :
    p.bytes.length = updateLocalDatabaseRequestSize := by
  simp [UpdateLocalDatabaseRequestPayload.bytes, MessageHeader.length_bytes, messageHeaderSize,
    updateLocalDatabaseRequestSize]

theorem MessageDownloadRequestPayload.length_bytes (p : MessageDownloadRequestPayload) :
    p.bytes.length = messageDownloadRequestSize := by
  simp [MessageDownloadRequestPayload.bytes, MessageHeader.length_bytes, messageHeaderSize,
    messageDownloadRequestSize]

/-- A payload that starts with a header has its transaction code. -/
@[simp] theorem MessageHeader.load16_bytes (h : MessageHeader) (after : List UInt8) :
    load16 (h.bytes ++ after) 0 = h.transactionCode := by
  simp [MessageHeader.bytes]

/-! ## Orders -/

def OrderEntryRequestPayload.bytes (p : OrderEntryRequestPayload) : List UInt8 :=
  List.flatten
    [store16 p.transactionCode, store32 p.userId, zeros 2, store32 p.tokenNo,
      p.contractDescription.bytes, p.accountNumber.toList, store16 p.bookType,
      store16 p.buySellIndicator, store32 p.disclosedVolume, store32 p.volume, store32 p.price,
      store32 p.goodTillDate, [p.orderFlags1], [p.orderFlags2], store16 p.branchId,
      store32 p.traderId, p.brokerId.toList, [p.openClose], p.settlor.toList,
      store16 p.proClientIndicator, [p.additionalFlags], zeros 1, store32 p.filler,
      store64 p.nnfField, p.pan.toList, store32 p.algoId, store16 p.uniqueId, zeros 32]

def OrderUpdateRequestPayload.bytes (p : OrderUpdateRequestPayload) : List UInt8 :=
  List.flatten
    [store16 p.transactionCode, store32 p.userId, zeros 2, store32 p.tokenNo,
      p.contractDescription.bytes, store64 p.orderNumber, p.accountNumber.toList,
      store16 p.bookType, store16 p.buySellIndicator, store32 p.disclosedVolume,
      store32 p.disclosedVolumeRemaining, store32 p.totalVolumeRemaining, store32 p.volume,
      store32 p.volumeFilledToday, store32 p.price, store32 p.goodTillDate,
      store32 p.entryDateTime, store32 p.lastModified, [p.orderFlags1], [p.orderFlags2],
      store16 p.branchId, store32 p.traderId, p.brokerId.toList, [p.openClose],
      p.settlor.toList, store16 p.proClientIndicator, [p.additionalFlags], zeros 1,
      store32 p.filler, store64 p.nnfField, p.pan.toList, store32 p.algoId, store16 p.uniqueId,
      store64 p.lastActivityReference, zeros 24]

theorem OrderEntryRequestPayload.length_bytes (p : OrderEntryRequestPayload) :
    p.bytes.length = orderEntryRequestSize := by
  simp [OrderEntryRequestPayload.bytes, ContractDescTr.length_bytes, orderEntryRequestSize]

theorem OrderUpdateRequestPayload.length_bytes (p : OrderUpdateRequestPayload) :
    p.bytes.length = orderUpdateRequestSize := by
  simp [OrderUpdateRequestPayload.bytes, ContractDescTr.length_bytes, orderUpdateRequestSize]

@[simp] theorem OrderEntryRequestPayload.load16_bytes (p : OrderEntryRequestPayload) :
    load16 p.bytes 0 = p.transactionCode := by
  simp [OrderEntryRequestPayload.bytes]

@[simp] theorem OrderUpdateRequestPayload.load16_bytes (p : OrderUpdateRequestPayload) :
    load16 p.bytes 0 = p.transactionCode := by
  simp [OrderUpdateRequestPayload.bytes]

theorem OrderEntryRequestPayload.ofBytes_bytes (p : OrderEntryRequestPayload) :
    OrderEntryRequestPayload.ofBytes p.bytes = p := by
  simp (disch := simp [ContractDescTr.length_bytes]) [OrderEntryRequestPayload.ofBytes,
    OrderEntryRequestPayload.bytes, ContractDescTr.length_bytes, load16_skip, load32_skip,
    load64_skip, loadArray_skip, ContractDescTr.ofBytes_skip, load16_succ, load32_succ, load64_succ,
    loadArray_succ]

theorem OrderUpdateRequestPayload.ofBytes_bytes (p : OrderUpdateRequestPayload) :
    OrderUpdateRequestPayload.ofBytes p.bytes = p := by
  simp (disch := simp [ContractDescTr.length_bytes]) [OrderUpdateRequestPayload.ofBytes,
    OrderUpdateRequestPayload.bytes, ContractDescTr.length_bytes, load16_skip, load32_skip,
    load64_skip, loadArray_skip, ContractDescTr.ofBytes_skip, load16_succ, load32_succ, load64_succ,
    loadArray_succ]

/-! ## Responses -/

def OrderConfirmationPayload.ofBytes (bytes : List UInt8) : OrderConfirmationPayload where
  transactionCode := load16 bytes 0
  logTime := load32 bytes 2
  userId := load32 bytes 6
  errorCode := load16 bytes 10
  timeStamp1 := load64 bytes 12
  timeStamp2 := bytes.getD 20 0
  modifiedCancelledBy := bytes.getD 21 0
  reasonCode := load16 bytes 22
  tokenNo := load32 bytes 24
  contractDescription := .ofBytes bytes 28
  closeOutFlag := bytes.getD 54 0
  orderNumber := load64 bytes 56
  accountNumber := loadArray 10 bytes 64
  bookType := load16 bytes 74
  buySellIndicator := load16 bytes 76
  disclosedVolume := load32 bytes 78
  disclosedVolumeRemaining := load32 bytes 82
  totalVolumeRemaining := load32 bytes 86
  volume := load32 bytes 90
  volumeFilledToday := load32 bytes 94
  price := load32 bytes 98
  goodTillDate := load32 bytes 102
  entryDateTime := load32 bytes 106
  lastModified := load32 bytes 110
  orderFlags1 := bytes.getD 114 0
  orderFlags2 := bytes.getD 115 0
  branchId := load16 bytes 116
  traderId := load32 bytes 118
  brokerId := loadArray 5 bytes 122
  openClose := bytes.getD 127 0
  settlor := loadArray 12 bytes 128
  proClientIndicator := load16 bytes 140
  additionalFlags := bytes.getD 142 0
  filler := load32 bytes 144
  nnfField := load64 bytes 148
  timeStamp3 := load64 bytes 156
  pan := loadArray 10 bytes 164
  algoId := load32 bytes 174
  uniqueId := load16 bytes 178
  lastActivityReference := load64 bytes 180

def TradeConfirmationPayload.ofBytes (bytes : List UInt8) : TradeConfirmationPayload where
  transactionCode := load16 bytes 0
  logTime := load32 bytes 2
  traderId := load32 bytes 6
  timeStamp := load64 bytes 10
  timeStamp1 := load64 bytes 18
  timeStamp2 := loadArray 8 bytes 26
  responseOrderNumber := load64 bytes 34
  brokerId := loadArray 5 bytes 42
  accountNumber := loadArray 10 bytes 48
  buySellIndicator := load16 bytes 58
  originalVolume := load32 bytes 60
  disclosedVolume := load32 bytes 64
  remainingVolume := load32 bytes 68
  disclosedVolumeRemaining := load32 bytes 72
  price := load32 bytes 76
  orderFlags1 := bytes.getD 80 0
  orderFlags2 := bytes.getD 81 0
  goodTillDate := load32 bytes 82
  fillNumber := load32 bytes 86
  fillQuantity := load32 bytes 90
  fillPrice := load32 bytes 94
  volumeFilledToday := load32 bytes 98
  activityType := loadArray 2 bytes 102
  activityTime := load32 bytes 104
  token := load32 bytes 108
  contractDescription := .ofBytes bytes 112
  openClose := bytes.getD 138 0
  bookType := bytes.getD 139 0
  participant := loadArray 12 bytes 140
  additionalFlags := bytes.getD 152 0
  pan := loadArray 10 bytes 153
  algoId := load32 bytes 164
  lastActivityReference := load64 bytes 170

theorem OrderConfirmationPayload.ofBytes_bytes (p : OrderConfirmationPayload) :
    OrderConfirmationPayload.ofBytes p.bytes = p := by
  simp (disch := simp [ContractDescTr.length_bytes]) [OrderConfirmationPayload.ofBytes,
    OrderConfirmationPayload.bytes, ContractDescTr.length_bytes, load16_skip, load32_skip,
    load64_skip, loadArray_skip, ContractDescTr.ofBytes_skip, load16_succ, load32_succ, load64_succ,
    loadArray_succ, ContractDescTr.ofBytes_succ]

theorem TradeConfirmationPayload.ofBytes_bytes (p : TradeConfirmationPayload) :
    TradeConfirmationPayload.ofBytes p.bytes = p := by
  simp (disch := simp [ContractDescTr.length_bytes]) [TradeConfirmationPayload.ofBytes,
    TradeConfirmationPayload.bytes, ContractDescTr.length_bytes, load16_skip, load32_skip,
    load64_skip, loadArray_skip, ContractDescTr.ofBytes_skip, load32_succ, load64_succ,
    loadArray_succ, ContractDescTr.ofBytes_succ]

end NseFoExchangeSim.Protocol
