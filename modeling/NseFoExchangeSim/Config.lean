import Mathlib.Data.UInt

/-!
# Configuration

`Config` of `config.h`, with its defaults.
-/

namespace NseFoExchangeSim

structure MarketDataEndpoint where
  host : String := ""
  port : UInt16 := 0
  interfaceIp : String := "0.0.0.0"
deriving DecidableEq, Repr

structure Config where
  listenHost : String := "127.0.0.1"
  grTlsPort : UInt16 := 24443
  sessionPort : UInt16 := 25000
  tlsCertPem : String := ""
  tlsKeyPem : String := ""
  boxId : UInt16 := 1
  defaultStreamNo : UInt8 := 1
  exchangeOrderNumberStart : UInt64 := 1000000
  fillNumberStart : UInt32 := 1
  fillDelayUs : UInt64 := 0
  tokenFilterFile : String := ""
  maxBookContracts : UInt64 := 1024
  marketDataStreams : List MarketDataEndpoint := []
deriving DecidableEq, Repr

end NseFoExchangeSim
