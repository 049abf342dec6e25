import NseFoExchangeSim.Lib.LittleEndian
import NseFoExchangeSim.Protocol.Responses

/-!
# Payloads in memory

Where the packed structures of `protocol.h` have their fields, two bytes being the greatest alignment:
the requests as they are read from a payload, and the responses as the payload that is sent.
-/

namespace NseFoExchangeSim.Protocol

open Lib

/-! ## Fields -/

def load16 (bytes : List UInt8) (offset : Nat) : UInt16 := (loadLittleEndian 2 bytes offset).toUInt16

def load32 (bytes : List UInt8) (offset : Nat) : UInt32 := (loadLittleEndian 4 bytes offset).toUInt32

def load64 (bytes : List UInt8) (offset : Nat) : UInt64 := (loadLittleEndian 8 bytes offset).toUInt64

def loadArray (size : Nat) (bytes : List UInt8) (offset : Nat) : Vector UInt8 size :=
  .ofFn fun i => bytes.getD (offset + i) 0

def store16 (value : UInt16) : List UInt8 := storeLittleEndian 2 value.toNat

def store32 (value : UInt32) : List UInt8 := storeLittleEndian 4 value.toNat

def store64 (value : UInt64) : List UInt8 := storeLittleEndian 8 value.toNat

/-- Reserved fields, and the byte that aligns the next field. -/
def zeros (size : Nat) : List UInt8 := .replicate size 0

@[simp] theorem length_store16 (value : UInt16) : (store16 value).length = 2 :=
  length_storeLittleEndian

@[simp] theorem length_store32 (value : UInt32) : (store32 value).length = 4 :=
  length_storeLittleEndian

@[simp] theorem length_store64 (value : UInt64) : (store64 value).length = 8 :=
  length_storeLittleEndian

@[simp] theorem length_zeros (size : Nat) : (zeros size).length = size := List.length_replicate

/-! ## Transaction codes and sizes -/

def kTxnHeartbeat : UInt16 := 23506
def kTxnBoxSignOnRequestIn : UInt16 := 23000
def kTxnBoxSignOnRequestOut : UInt16 := 23001
def kTxnSecureBoxRegistrationRequest : UInt16 := 23008
def kTxnSecureBoxRegistrationResponse : UInt16 := 23009
def kTxnLogonRequest : UInt16 := 2300
def kTxnLogonResponse : UInt16 := 2301
def kTxnSystemInfoRequest : UInt16 := 1600
def kTxnSystemInfoResponse : UInt16 := 1601
def kTxnUpdateLocalDatabase : UInt16 := 7300
def kTxnUpdateLocalDatabaseTrailer : UInt16 := 7308
def kTxnMessageDownloadRequest : UInt16 := 7000
def kTxnMessageDownloadTrailer : UInt16 := 7031
def kTxnPriceVolModification : UInt16 := 2013

def kErrorOrderAlreadyFilled : UInt16 := 3

def messageHeaderSize : Nat := 40
def secureBoxRegistrationRequestSize : Nat := 42
def boxSignOnRequestSize : Nat := 60
def signOnInSize : Nat := 278
def systemInfoRequestSize : Nat := 44
def updateLocalDatabaseRequestSize : Nat := 82
def messageDownloadRequestSize : Nat := 48
def orderEntryRequestSize : Nat := 158
def orderUpdateRequestSize : Nat := 186
def boxSignOnResponseSize : Nat := 52
def signOnOutSize : Nat := 278
def systemInfoResponseSize : Nat := 106
def orderConfirmationSize : Nat := 240
def tradeConfirmationSize : Nat := 230

/-! ## Orders -/

def ContractDescTr.ofBytes (bytes : List UInt8) (offset : Nat) : ContractDescTr where
  instrumentName := loadArray 6 bytes offset
  symbol := loadArray 10 bytes (offset + 6)
  expiryDate := load32 bytes (offset + 16)
  strikePrice := load32 bytes (offset + 20)
  optionType := loadArray 2 bytes (offset + 24)

def ContractDescTr.bytes (c : ContractDescTr) : List UInt8 :=
  c.instrumentName.toList ++ c.symbol.toList ++ store32 c.expiryDate ++ store32 c.strikePrice ++
    c.optionType.toList

def OrderEntryRequestPayload.ofBytes (bytes : List UInt8) : OrderEntryRequestPayload where
  transactionCode := load16 bytes 0
  userId := load32 bytes 2
  tokenNo := load32 bytes 8
  contractDescription := .ofBytes bytes 12
  accountNumber := loadArray 10 bytes 38
  bookType := load16 bytes 48
  buySellIndicator := load16 bytes 50
  disclosedVolume := load32 bytes 52
  volume := load32 bytes 56
  price := load32 bytes 60
  goodTillDate := load32 bytes 64
  orderFlags1 := bytes.getD 68 0
  orderFlags2 := bytes.getD 69 0
  branchId := load16 bytes 70
  traderId := load32 bytes 72
  brokerId := loadArray 5 bytes 76
  openClose := bytes.getD 81 0
  settlor := loadArray 12 bytes 82
  proClientIndicator := load16 bytes 94
  additionalFlags := bytes.getD 96 0
  filler := load32 bytes 98
  nnfField := load64 bytes 102
  pan := loadArray 10 bytes 110
  algoId := load32 bytes 120
  uniqueId := load16 bytes 124

def OrderUpdateRequestPayload.ofBytes (bytes : List UInt8) : OrderUpdateRequestPayload where
  transactionCode := load16 bytes 0
  userId := load32 bytes 2
  tokenNo := load32 bytes 8
  contractDescription := .ofBytes bytes 12
  orderNumber := load64 bytes 38
  accountNumber := loadArray 10 bytes 46
  bookType := load16 bytes 56
  buySellIndicator := load16 bytes 58
  disclosedVolume := load32 bytes 60
  disclosedVolumeRemaining := load32 bytes 64
  totalVolumeRemaining := load32 bytes 68
  volume := load32 bytes 72
  volumeFilledToday := load32 bytes 76
  price := load32 bytes 80
  goodTillDate := load32 bytes 84
  entryDateTime := load32 bytes 88
  lastModified := load32 bytes 92
  orderFlags1 := bytes.getD 96 0
  orderFlags2 := bytes.getD 97 0
  branchId := load16 bytes 98
  traderId := load32 bytes 100
  brokerId := loadArray 5 bytes 104
  openClose := bytes.getD 109 0
  settlor := loadArray 12 bytes 110
  proClientIndicator := load16 bytes 122
  additionalFlags := bytes.getD 124 0
  filler := load32 bytes 126
  nnfField := load64 bytes 130
  pan := loadArray 10 bytes 138
  algoId := load32 bytes 148
  uniqueId := load16 bytes 152
  lastActivityReference := load64 bytes 154

def OrderConfirmationPayload.bytes (p : OrderConfirmationPayload) : List UInt8 :=
  List.flatten
    [store16 p.transactionCode, store32 p.logTime, store32 p.userId, store16 p.errorCode,
      store64 p.timeStamp1, [p.timeStamp2, p.modifiedCancelledBy], store16 p.reasonCode,
      store32 p.tokenNo, p.contractDescription.bytes, [p.closeOutFlag], zeros 1,
      store64 p.orderNumber, p.accountNumber.toList, store16 p.bookType, store16 p.buySellIndicator,
      store32 p.disclosedVolume, store32 p.disclosedVolumeRemaining, store32 p.totalVolumeRemaining,
      store32 p.volume, store32 p.volumeFilledToday, store32 p.price, store32 p.goodTillDate,
      store32 p.entryDateTime, store32 p.lastModified, [p.orderFlags1, p.orderFlags2],
      store16 p.branchId, store32 p.traderId, p.brokerId.toList, [p.openClose], p.settlor.toList,
      store16 p.proClientIndicator, [p.additionalFlags], zeros 1, store32 p.filler,
      store64 p.nnfField, store64 p.timeStamp3, p.pan.toList, store32 p.algoId, store16 p.uniqueId,
      store64 p.lastActivityReference, zeros 52]

def TradeConfirmationPayload.bytes (p : TradeConfirmationPayload) : List UInt8 :=
  List.flatten
    [store16 p.transactionCode, store32 p.logTime, store32 p.traderId, store64 p.timeStamp,
      store64 p.timeStamp1, p.timeStamp2.toList, store64 p.responseOrderNumber, p.brokerId.toList,
      zeros 1, p.accountNumber.toList, store16 p.buySellIndicator, store32 p.originalVolume,
      store32 p.disclosedVolume, store32 p.remainingVolume, store32 p.disclosedVolumeRemaining,
      store32 p.price, [p.orderFlags1, p.orderFlags2], store32 p.goodTillDate, store32 p.fillNumber,
      store32 p.fillQuantity, store32 p.fillPrice, store32 p.volumeFilledToday,
      p.activityType.toList, store32 p.activityTime, store32 p.token, p.contractDescription.bytes,
      [p.openClose, p.bookType], p.participant.toList, [p.additionalFlags], p.pan.toList, zeros 1,
      store32 p.algoId, zeros 2, store64 p.lastActivityReference, zeros 52]

theorem ContractDescTr.length_bytes (c : ContractDescTr) : c.bytes.length = 26 := by
  simp [ContractDescTr.bytes]

theorem OrderConfirmationPayload.length_bytes (p : OrderConfirmationPayload) :
    p.bytes.length = orderConfirmationSize := by
  simp [OrderConfirmationPayload.bytes, ContractDescTr.length_bytes, orderConfirmationSize]

theorem TradeConfirmationPayload.length_bytes (p : TradeConfirmationPayload) :
    p.bytes.length = tradeConfirmationSize := by
  simp [TradeConfirmationPayload.bytes, ContractDescTr.length_bytes, tradeConfirmationSize]

/-! ## The handshake and the direct responses -/

/-- `MessageHeader`, its fields in network order. -/
structure MessageHeader where
  transactionCode : UInt16 := 0
  logTime : UInt32 := 0
  alphaChar : Vector UInt8 2 := .replicate 2 0
  traderId : UInt32 := 0
  errorCode : UInt16 := 0
  messageLength : UInt16 := 0
deriving DecidableEq, Repr

def MessageHeader.bytes (h : MessageHeader) : List UInt8 :=
  List.flatten
    [store16 h.transactionCode, store32 h.logTime, h.alphaChar.toList, store32 h.traderId,
      store16 h.errorCode, zeros 24, store16 h.messageLength]

/-- `initializeMessageHeader`, at a time in seconds. -/
def initializeMessageHeader (now : UInt32) (transactionCode : UInt16) (traderId : UInt32)
    (payloadSize : Nat) : MessageHeader where
  transactionCode := byteswap transactionCode
  logTime := byteswap now
  alphaChar := #v[' '.toUInt8, ' '.toUInt8]
  traderId := byteswap traderId
  messageLength := byteswap payloadSize.toUInt16

structure BoxSignOnResponsePayload where
  header : MessageHeader
  boxId : UInt16 := 0
deriving DecidableEq, Repr

def BoxSignOnResponsePayload.bytes (p : BoxSignOnResponsePayload) : List UInt8 :=
  List.flatten
    [p.header.bytes, store16 p.boxId, zeros 10]

/-- The fields of a logon that are read. -/
structure SignOnInPayload where
  traderId : UInt32 := 0
  userId : UInt32 := 0
  password : Vector UInt8 8 := .replicate 8 0
  newPassword : Vector UInt8 8 := .replicate 8 0
  traderName : Vector UInt8 26 := .replicate 26 0
  brokerId : Vector UInt8 5 := .replicate 5 0
  branchId : UInt16 := 0
  versionNumber : UInt32 := 0
  wsClassName : Vector UInt8 14 := .replicate 14 0
deriving DecidableEq, Repr

def SignOnInPayload.ofBytes (bytes : List UInt8) : SignOnInPayload where
  traderId := load32 bytes 8
  userId := load32 bytes 40
  password := loadArray 8 bytes 52
  newPassword := loadArray 8 bytes 68
  traderName := loadArray 26 bytes 76
  brokerId := loadArray 5 bytes 106
  branchId := load16 bytes 112
  versionNumber := load32 bytes 114
  wsClassName := loadArray 14 bytes 184

structure SignOnOutPayload where
  header : MessageHeader
  userId : UInt32 := 0
  password : Vector UInt8 8 := .replicate 8 0
  newPassword : Vector UInt8 8 := .replicate 8 0
  traderName : Vector UInt8 26 := .replicate 26 0
  lastPasswordChangeDate : UInt32 := 0
  brokerId : Vector UInt8 5 := .replicate 5 0
  branchId : UInt16 := 0
  versionNumber : UInt32 := 0
  endTime : UInt32 := 0
  sequenceNumber : DoubleBits := 0
  wsClassName : Vector UInt8 14 := .replicate 14 0
  brokerStatus : UInt8 := 0
  showIndex : UInt8 := 0
  clearingStatus : UInt8 := 0
  brokerName : Vector UInt8 25 := .replicate 25 0
deriving DecidableEq, Repr

def SignOnOutPayload.bytes (p : SignOnOutPayload) : List UInt8 :=
  List.flatten
    [p.header.bytes, store32 p.userId, zeros 8, p.password.toList, zeros 8, p.newPassword.toList,
      p.traderName.toList, store32 p.lastPasswordChangeDate, p.brokerId.toList, zeros 1,
      store16 p.branchId, store32 p.versionNumber, store32 p.endTime, zeros 54,
      store64 p.sequenceNumber, p.wsClassName.toList, [p.brokerStatus, p.showIndex], zeros 4,
      [p.clearingStatus], p.brokerName.toList, zeros 48]

/-- The fields that `sendSystemInfoResponse` sets. -/
structure SystemInfoResponsePayload where
  header : MessageHeader
  boardLotQuantity : UInt32 := 0
  tickSize : UInt32 := 0
  disclosedQuantityPercentAllowed : UInt16 := 0
deriving DecidableEq, Repr

def SystemInfoResponsePayload.bytes (p : SystemInfoResponsePayload) : List UInt8 :=
  List.flatten
    [p.header.bytes, zeros 48, store32 p.boardLotQuantity, store32 p.tickSize, zeros 4,
      store16 p.disclosedQuantityPercentAllowed, zeros 4]

theorem MessageHeader.length_bytes (h : MessageHeader) : h.bytes.length = messageHeaderSize := by
  simp [MessageHeader.bytes, messageHeaderSize]

theorem BoxSignOnResponsePayload.length_bytes (p : BoxSignOnResponsePayload) :
    p.bytes.length = boxSignOnResponseSize := by
  simp [BoxSignOnResponsePayload.bytes, MessageHeader.length_bytes, messageHeaderSize,
    boxSignOnResponseSize]

theorem SignOnOutPayload.length_bytes (p : SignOnOutPayload) : p.bytes.length = signOnOutSize := by
  simp [SignOnOutPayload.bytes, MessageHeader.length_bytes, messageHeaderSize, signOnOutSize]

theorem SystemInfoResponsePayload.length_bytes (p : SystemInfoResponsePayload) :
    p.bytes.length = systemInfoResponseSize := by
  simp [SystemInfoResponsePayload.bytes, MessageHeader.length_bytes, messageHeaderSize,
    systemInfoResponseSize]

end NseFoExchangeSim.Protocol
