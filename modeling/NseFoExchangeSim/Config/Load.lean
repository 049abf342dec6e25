import NseFoExchangeSim.Config
import NseFoExchangeSim.Lib.Fallible
import NseFoExchangeSim.Lib.Text

/-!
# The configuration file

`Config::loadFromFile` of `config.cpp`. A text is the list of its characters; the result is the
configuration, or what the exception says.
-/

namespace NseFoExchangeSim

open Lib

def trim (value : List Char) : List Char :=
  ((value.dropWhile isSpace).reverse.dropWhile isSpace).reverse

/-- A number as `strtoull` reads it; both exceptions say the name of the function. -/
def stringToNumber (function : String) (value : List Char) : Except String UInt64 :=
  match strtoull value with
  | .noConversion => .error function
  | .outOfRange => .error function
  | .value n => .ok n

/-- `std::stoul`, where `unsigned long` has 64 bits. -/
def stoul (value : List Char) : Except String UInt64 := stringToNumber "stoul" value

def stoull (value : List Char) : Except String UInt64 := stringToNumber "stoull" value

/-- The part of an endpoint before the interface. -/
def hostPort (value : List Char) : List Char := trim (beforeFirst '@' value)

def parseMarketDataEndpoint (value : List Char) : Except String MarketDataEndpoint :=
  let interfaceIp := trim (afterFirst '@' value)
  let interfaceIp :=
    if '@' ∉ value ∨ interfaceIp = [] then "0.0.0.0" else String.ofList interfaceIp
  let hostPort := hostPort value
  if ':' ∉ hostPort then
    .error ("Invalid market_data_stream endpoint: " ++ String.ofList value)
  else
    let host := trim (beforeLast ':' hostPort)
    if host = [] then .error ("Missing host in market_data_stream: " ++ String.ofList value)
    else do
      let port := (← stoul (trim (afterLast ':' hostPort))).toUInt16
      if port = 0 then .error ("Invalid port in market_data_stream: " ++ String.ofList value)
      else return { host := String.ofList host, port, interfaceIp }

namespace Config

/-- The assignment that a line makes. -/
def assign (config : Config) (key : String) (value : List Char) : Except String Config :=
  if key = "listen_host" then .ok { config with listenHost := String.ofList value }
  else if key = "gr_tls_port" then do
    return { config with grTlsPort := (← stoul value).toUInt16 }
  else if key = "session_port" then do
    return { config with sessionPort := (← stoul value).toUInt16 }
  else if key = "tls_cert_pem" then .ok { config with tlsCertPem := String.ofList value }
  else if key = "tls_key_pem" then .ok { config with tlsKeyPem := String.ofList value }
  else if key = "box_id" then do
    return { config with boxId := (← stoul value).toUInt16 }
  else if key = "default_stream_no" then do
    return { config with defaultStreamNo := (← stoul value).toUInt8 }
  else if key = "exchange_order_number_start" then do
    return { config with exchangeOrderNumberStart := ← stoull value }
  else if key = "fill_number_start" then do
    return { config with fillNumberStart := (← stoul value).toUInt32 }
  else if key = "fill_delay_us" then do
    return { config with fillDelayUs := ← stoull value }
  else if key = "token_filter_file" then
    .ok { config with tokenFilterFile := String.ofList value }
  else if key = "max_book_contracts" then do
    return { config with maxBookContracts := ← stoull value }
  else if key = "market_data_stream" then do
    return { config with
      marketDataStreams := config.marketDataStreams ++ [← parseMarketDataEndpoint value] }
  else .error ("Unknown config key: " ++ key)

/-- A line without its comment and the white space around it. -/
def content (line : List Char) : List Char := trim (beforeFirst '#' line)

/-- The key and the value of a line with a setting. -/
def setting (content : List Char) : String × List Char :=
  (String.ofList (trim (beforeFirst '=' content)), trim (afterFirst '=' content))

def loadLine (lineNo : Nat) (config : Config) (line : List Char) : Except String Config :=
  let content := content line
  if content = [] then .ok config
  else if '=' ∉ content then
    .error ("Invalid config line " ++ toString lineNo ++ ": " ++ String.ofList content)
  else config.assign (setting content).1 (setting content).2

/-- The loop over the lines, of which `lineNo` have been read. -/
def loadLines : Nat → Config → List (List Char) → Except String Config
  | _, config, [] => .ok config
  | lineNo, config, line :: lines => do
      let config ← loadLine (lineNo + 1) config line
      loadLines (lineNo + 1) config lines

/-- The checks after the last line. -/
def check (config : Config) : Except String Unit :=
  if config.tlsCertPem = "" then .error "tls_cert_pem is required"
  else if config.tlsKeyPem = "" then .error "tls_key_pem is required"
  else if config.marketDataStreams ≠ [] then
    if config.tokenFilterFile = "" then
      .error "token_filter_file is required when market_data_stream is configured"
    else if config.maxBookContracts = 0 then
      .error "max_book_contracts must be greater than zero"
    else .ok ()
  else .ok ()

/-- `input` is the text of the file, when it can be opened. -/
def loadFromFile (path : String) (input : Option String) : Except String Config :=
  match input with
  | none => .error ("Unable to open config file: " ++ path)
  | some text => do
      let config ← loadLines 0 {} (getLines text.toList)
      config.check
      return config

end Config

end NseFoExchangeSim
