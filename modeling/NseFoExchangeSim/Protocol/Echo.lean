import NseFoExchangeSim.Protocol.Responses

/-!
# Fields that go back to the client

What a client says of its order in a request, as it stands on the wire, and the places where the two
responses carry it back.
-/

namespace NseFoExchangeSim.Protocol

/-- What the client may say anew with every request. -/
structure ClientFields where
  contractDescription : ContractDescTr
  accountNumber : Vector UInt8 10
  disclosedVolume : UInt32
  volume : UInt32
  price : UInt32
  goodTillDate : UInt32
  orderFlags1 : UInt8
  orderFlags2 : UInt8
  branchId : UInt16
  traderId : UInt32
  brokerId : Vector UInt8 5
  openClose : UInt8
  settlor : Vector UInt8 12
  proClientIndicator : UInt16
  additionalFlags : UInt8
  filler : UInt32
  nnfField : DoubleBits
  pan : Vector UInt8 10
  algoId : UInt32
  uniqueId : UInt16
deriving DecidableEq, Repr

/-- What an order keeps from its entry. -/
structure EntryFields where
  userId : UInt32
  tokenNo : UInt32
  bookType : UInt16
  buySellIndicator : UInt16
deriving DecidableEq, Repr

/-! ## Requests -/

def OrderEntryRequestPayload.clientFields (p : OrderEntryRequestPayload) : ClientFields where
  contractDescription := p.contractDescription
  accountNumber := p.accountNumber
  disclosedVolume := p.disclosedVolume
  volume := p.volume
  price := p.price
  goodTillDate := p.goodTillDate
  orderFlags1 := p.orderFlags1
  orderFlags2 := p.orderFlags2
  branchId := p.branchId
  traderId := p.traderId
  brokerId := p.brokerId
  openClose := p.openClose
  settlor := p.settlor
  proClientIndicator := p.proClientIndicator
  additionalFlags := p.additionalFlags
  filler := p.filler
  nnfField := p.nnfField
  pan := p.pan
  algoId := p.algoId
  uniqueId := p.uniqueId

def OrderEntryRequestPayload.entryFields (p : OrderEntryRequestPayload) : EntryFields where
  userId := p.userId
  tokenNo := p.tokenNo
  bookType := p.bookType
  buySellIndicator := p.buySellIndicator

def OrderUpdateRequestPayload.clientFields (p : OrderUpdateRequestPayload) : ClientFields where
  contractDescription := p.contractDescription
  accountNumber := p.accountNumber
  disclosedVolume := p.disclosedVolume
  volume := p.volume
  price := p.price
  goodTillDate := p.goodTillDate
  orderFlags1 := p.orderFlags1
  orderFlags2 := p.orderFlags2
  branchId := p.branchId
  traderId := p.traderId
  brokerId := p.brokerId
  openClose := p.openClose
  settlor := p.settlor
  proClientIndicator := p.proClientIndicator
  additionalFlags := p.additionalFlags
  filler := p.filler
  nnfField := p.nnfField
  pan := p.pan
  algoId := p.algoId
  uniqueId := p.uniqueId

/-! ## Responses -/

def OrderConfirmationPayload.clientFields (p : OrderConfirmationPayload) : ClientFields where
  contractDescription := p.contractDescription
  accountNumber := p.accountNumber
  disclosedVolume := p.disclosedVolume
  volume := p.volume
  price := p.price
  goodTillDate := p.goodTillDate
  orderFlags1 := p.orderFlags1
  orderFlags2 := p.orderFlags2
  branchId := p.branchId
  traderId := p.traderId
  brokerId := p.brokerId
  openClose := p.openClose
  settlor := p.settlor
  proClientIndicator := p.proClientIndicator
  additionalFlags := p.additionalFlags
  filler := p.filler
  nnfField := p.nnfField
  pan := p.pan
  algoId := p.algoId
  uniqueId := p.uniqueId

def OrderConfirmationPayload.entryFields (p : OrderConfirmationPayload) : EntryFields where
  userId := p.userId
  tokenNo := p.tokenNo
  bookType := p.bookType
  buySellIndicator := p.buySellIndicator

/-- A trade confirmation carries fewer of the fields, the settlor as the participant, the user as the
trader, and the book type as one byte in host order. -/
structure TradeConfirmationPayload.Carries (p : TradeConfirmationPayload) (client : ClientFields)
    (entry : EntryFields) : Prop where
  contractDescription : p.contractDescription = client.contractDescription
  accountNumber : p.accountNumber = client.accountNumber
  disclosedVolume : p.disclosedVolume = client.disclosedVolume
  originalVolume : p.originalVolume = client.volume
  price : p.price = client.price
  goodTillDate : p.goodTillDate = client.goodTillDate
  orderFlags1 : p.orderFlags1 = client.orderFlags1
  orderFlags2 : p.orderFlags2 = client.orderFlags2
  brokerId : p.brokerId = client.brokerId
  openClose : p.openClose = client.openClose
  participant : p.participant = client.settlor
  additionalFlags : p.additionalFlags = client.additionalFlags
  pan : p.pan = client.pan
  algoId : p.algoId = client.algoId
  traderId : p.traderId = entry.userId
  token : p.token = entry.tokenNo
  bookType : p.bookType.toUInt16 = byteswap entry.bookType
  buySellIndicator : p.buySellIndicator = entry.buySellIndicator

end NseFoExchangeSim.Protocol
