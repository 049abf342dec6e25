import NseFoExchangeSim.Protocol.Wire

/-!
# Responses

The packed structures of `protocol.h` that carry an order event to the client, with their fields as they
are sent. The reserved fields, which are always zero, are left out.
-/

namespace NseFoExchangeSim.Protocol

structure OrderConfirmationPayload where
  transactionCode : UInt16 := 0
  logTime : UInt32 := 0
  userId : UInt32 := 0
  errorCode : UInt16 := 0
  timeStamp1 : UInt64 := 0
  timeStamp2 : UInt8 := 0
  modifiedCancelledBy : UInt8 := 0
  reasonCode : UInt16 := 0
  tokenNo : UInt32 := 0
  contractDescription : ContractDescTr := {}
  closeOutFlag : UInt8 := 0
  orderNumber : DoubleBits := 0
  accountNumber : Vector UInt8 10 := .replicate 10 0
  bookType : UInt16 := 0
  buySellIndicator : UInt16 := 0
  disclosedVolume : UInt32 := 0
  disclosedVolumeRemaining : UInt32 := 0
  totalVolumeRemaining : UInt32 := 0
  volume : UInt32 := 0
  volumeFilledToday : UInt32 := 0
  price : UInt32 := 0
  goodTillDate : UInt32 := 0
  entryDateTime : UInt32 := 0
  lastModified : UInt32 := 0
  orderFlags1 : UInt8 := 0
  orderFlags2 : UInt8 := 0
  branchId : UInt16 := 0
  traderId : UInt32 := 0
  brokerId : Vector UInt8 5 := .replicate 5 0
  openClose : UInt8 := 0
  settlor : Vector UInt8 12 := .replicate 12 0
  proClientIndicator : UInt16 := 0
  additionalFlags : UInt8 := 0
  filler : UInt32 := 0
  nnfField : DoubleBits := 0
  timeStamp3 : UInt64 := 0
  pan : Vector UInt8 10 := .replicate 10 0
  algoId : UInt32 := 0
  uniqueId : UInt16 := 0
  lastActivityReference : UInt64 := 0
deriving DecidableEq, Repr

structure TradeConfirmationPayload where
  transactionCode : UInt16 := 0
  logTime : UInt32 := 0
  traderId : UInt32 := 0
  timeStamp : UInt64 := 0
  timeStamp1 : UInt64 := 0
  timeStamp2 : Vector UInt8 8 := .replicate 8 0
  responseOrderNumber : DoubleBits := 0
  brokerId : Vector UInt8 5 := .replicate 5 0
  accountNumber : Vector UInt8 10 := .replicate 10 0
  buySellIndicator : UInt16 := 0
  originalVolume : UInt32 := 0
  disclosedVolume : UInt32 := 0
  remainingVolume : UInt32 := 0
  disclosedVolumeRemaining : UInt32 := 0
  price : UInt32 := 0
  orderFlags1 : UInt8 := 0
  orderFlags2 : UInt8 := 0
  goodTillDate : UInt32 := 0
  fillNumber : UInt32 := 0
  fillQuantity : UInt32 := 0
  fillPrice : UInt32 := 0
  volumeFilledToday : UInt32 := 0
  activityType : Vector UInt8 2 := .replicate 2 0
  activityTime : UInt32 := 0
  token : UInt32 := 0
  contractDescription : ContractDescTr := {}
  openClose : UInt8 := 0
  bookType : UInt8 := 0
  participant : Vector UInt8 12 := .replicate 12 0
  additionalFlags : UInt8 := 0
  pan : Vector UInt8 10 := .replicate 10 0
  algoId : UInt32 := 0
  lastActivityReference : UInt64 := 0
deriving DecidableEq, Repr

end NseFoExchangeSim.Protocol
