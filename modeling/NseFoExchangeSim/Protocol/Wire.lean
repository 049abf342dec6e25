import Mathlib.Data.UInt
import NseFoExchangeSim.Lib.Binary64

/-!
# Wire types

The packed structures of `protocol.h` that the order path and the market-data path read, with their
fields as they stand in memory after a `memcpy`: integers in network byte order, `double` as its bit
pattern. `byteswap` turns them into host order.
-/

namespace NseFoExchangeSim.Protocol

/-! ## Byte order -/

/-- The integral types `byteswap` is instantiated at. -/
class ByteSwap (α : Type) where
  byteswap : α → α

export ByteSwap (byteswap)

instance : ByteSwap UInt16 where
  byteswap x := (x <<< 8) ||| (x >>> 8)

instance : ByteSwap UInt32 where
  byteswap x :=
    (x <<< (24 : UInt32)) ||| ((x &&& (0xff00 : UInt32)) <<< (8 : UInt32)) |||
      ((x >>> (8 : UInt32)) &&& (0xff00 : UInt32)) ||| (x >>> (24 : UInt32))

instance : ByteSwap UInt64 where
  byteswap x :=
    (x <<< (56 : UInt64)) ||| ((x &&& (0xff00 : UInt64)) <<< (40 : UInt64)) |||
      ((x &&& (0xff0000 : UInt64)) <<< (24 : UInt64)) |||
      ((x &&& (0xff000000 : UInt64)) <<< (8 : UInt64)) |||
      ((x >>> (8 : UInt64)) &&& (0xff000000 : UInt64)) |||
      ((x >>> (24 : UInt64)) &&& (0xff0000 : UInt64)) |||
      ((x >>> (40 : UInt64)) &&& (0xff00 : UInt64)) ||| (x >>> (56 : UInt64))

/-! ## Doubles -/

/-- The bit pattern of a C++ `double`. -/
abbrev DoubleBits := UInt64

def hostToWireDouble (value : DoubleBits) : DoubleBits := byteswap value

def wireToHostDouble (value : DoubleBits) : DoubleBits := byteswap value

/-- `static_cast<double>` of an unsigned integer: the nearest double, a tie going to the even one. -/
def uint64ToDouble (value : UInt64) : DoubleBits := Lib.Binary64.encode value.toNat

/-- `static_cast<uint64_t>` of a double: truncation towards zero, and `none` where the truncated value
is not representable, which C++ leaves undefined. -/
def truncToUInt64 (bits : DoubleBits) : Option UInt64 :=
  let exponent := ((bits >>> 52) &&& 0x7ff).toNat
  let fraction := (bits &&& 0xfffffffffffff).toNat
  let magnitude :=
    if exponent < 1075 then (2 ^ 52 + fraction) / 2 ^ (1075 - exponent)
    else (2 ^ 52 + fraction) * 2 ^ (exponent - 1075)
  if exponent = 0 then some 0
  else if exponent = 0x7ff then none
  else if magnitude = 0 then some 0
  else if bits >>> 63 = 1 then none
  else if magnitude < 2 ^ 64 then some (UInt64.ofNat magnitude)
  else none

/-! ## Transaction and error codes -/

def kTxnOrderEntryTrimmed : UInt16 := 20000
def kTxnOrderModificationTrimmed : UInt16 := 20040
def kTxnOrderCancellationTrimmed : UInt16 := 20070
def kTxnOrderConfirmationTrimmed : UInt16 := 20073
def kTxnOrderModificationConfirmationTrimmed : UInt16 := 20074
def kTxnOrderCancellationConfirmationTrimmed : UInt16 := 20075
def kTxnTradeConfirmationTrimmed : UInt16 := 20222
def kTxnOrderErrorTrimmed : UInt16 := 2231
def kTxnOrderModificationErrorTrimmed : UInt16 := 2042
def kTxnOrderCancellationErrorTrimmed : UInt16 := 2072

def kErrorUnsupportedOrder : UInt16 := 1
def kErrorUnknownOrder : UInt16 := 2
def kErrorUnsupportedToken : UInt16 := 4

def kOrderFlagsIoc : UInt8 := 0x2
def kOrderFlagsDay : UInt8 := 0x8

/-! ## Order requests -/

structure ContractDescTr where
  instrumentName : Vector UInt8 6 := .replicate 6 0
  symbol : Vector UInt8 10 := .replicate 10 0
  expiryDate : UInt32 := 0
  strikePrice : UInt32 := 0
  optionType : Vector UInt8 2 := .replicate 2 0
deriving DecidableEq, Repr

structure OrderEntryRequestPayload where
  transactionCode : UInt16 := 0
  userId : UInt32 := 0
  tokenNo : UInt32 := 0
  contractDescription : ContractDescTr := {}
  accountNumber : Vector UInt8 10 := .replicate 10 0
  bookType : UInt16 := 0
  buySellIndicator : UInt16 := 0
  disclosedVolume : UInt32 := 0
  volume : UInt32 := 0
  price : UInt32 := 0
  goodTillDate : UInt32 := 0
  orderFlags1 : UInt8 := 0
  orderFlags2 : UInt8 := 0
  branchId : UInt16 := 0
  traderId : UInt32 := 0
  brokerId : Vector UInt8 5 := .replicate 5 0
  openClose : UInt8 := 0
  settlor : Vector UInt8 12 := .replicate 12 0
  proClientIndicator : UInt16 := 0
  additionalFlags : UInt8 := 0
  filler : UInt32 := 0
  nnfField : DoubleBits := 0
  pan : Vector UInt8 10 := .replicate 10 0
  algoId : UInt32 := 0
  uniqueId : UInt16 := 0
deriving DecidableEq, Repr

structure OrderUpdateRequestPayload where
  transactionCode : UInt16 := 0
  userId : UInt32 := 0
  tokenNo : UInt32 := 0
  contractDescription : ContractDescTr := {}
  orderNumber : DoubleBits := 0
  accountNumber : Vector UInt8 10 := .replicate 10 0
  bookType : UInt16 := 0
  buySellIndicator : UInt16 := 0
  disclosedVolume : UInt32 := 0
  disclosedVolumeRemaining : UInt32 := 0
  totalVolumeRemaining : UInt32 := 0
  volume : UInt32 := 0
  volumeFilledToday : UInt32 := 0
  price : UInt32 := 0
  goodTillDate : UInt32 := 0
  entryDateTime : UInt32 := 0
  lastModified : UInt32 := 0
  orderFlags1 : UInt8 := 0
  orderFlags2 : UInt8 := 0
  branchId : UInt16 := 0
  traderId : UInt32 := 0
  brokerId : Vector UInt8 5 := .replicate 5 0
  openClose : UInt8 := 0
  settlor : Vector UInt8 12 := .replicate 12 0
  proClientIndicator : UInt16 := 0
  additionalFlags : UInt8 := 0
  filler : UInt32 := 0
  nnfField : DoubleBits := 0
  pan : Vector UInt8 10 := .replicate 10 0
  algoId : UInt32 := 0
  uniqueId : UInt16 := 0
  lastActivityReference : UInt64 := 0
deriving DecidableEq, Repr

/-! ## Market-data messages -/

structure TbtOrderMessage where
  messageType : UInt8
  orderId : DoubleBits
  token : UInt32
  orderType : UInt8
  price : UInt32
  quantity : UInt32
deriving DecidableEq, Repr

structure TbtTradeMessage where
  buyOrderId : DoubleBits
  sellOrderId : DoubleBits
  token : UInt32
  tradePrice : UInt32
  tradeQuantity : UInt32
deriving DecidableEq, Repr

def isTbtBuySide (orderType : UInt8) : Bool := orderType &&& 1 == 0

end NseFoExchangeSim.Protocol
