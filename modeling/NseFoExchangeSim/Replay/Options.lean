import Mathlib.Data.String.Basic
import NseFoExchangeSim.Config.Load
import NseFoExchangeSim.Lib.SortedSet
import NseFoExchangeSim.Protocol.Wire
import NseFoExchangeSim.Replay.App

/-!
# The options of the replay

`ReplayOptions::parseCommandLine`, `collectInputFiles` and `resolveOptions` of `replay.cpp`. The files are
given: the texts that can be opened, and the entries of the directories that can be read, in whatever
order they are listed.
-/

namespace NseFoExchangeSim.Replay

open Lib Protocol

/-! ## Destinations and tokens -/

def endsWith (value suffix : String) : Bool := suffix.toList.isSuffixOf value.toList

/-- The parts that `std::getline` gives with a delimiter. -/
def split (delimiter : Char) : List Char → List (List Char)
  | [] => []
  | c :: text =>
      if c = delimiter then [] :: split delimiter text
      else
        match split delimiter text with
        | [] => [[c]]
        | part :: parts => (c :: part) :: parts

def parseDestination (value : List Char) : Except String ReplayDestination :=
  let trimmed := trim value
  if ':' ∉ trimmed then
    .error ("Invalid destination, expected host:port: " ++ String.ofList value)
  else
    let host := trim (beforeLast ':' trimmed)
    if host = [] then .error ("Missing host in destination: " ++ String.ofList value)
    else do
      let port := (← stoul (trim (afterLast ':' trimmed))).toUInt16
      if port = 0 then .error ("Invalid port in destination: " ++ String.ofList value)
      else return { host := String.ofList host, port }

def parseStreamDestination (value : List Char) : Except String (UInt16 × ReplayDestination) :=
  if '=' ∉ value then
    .error ("Invalid stream destination, expected stream=host:port: " ++ String.ofList value)
  else do
    let streamId := (← stoul (trim (beforeFirst '=' value))).toUInt16
    return (streamId, ← parseDestination (afterFirst '=' value))

/-- The tokens of the items that are not empty. -/
def tokensOf : List (List Char) → Except String (List UInt32)
  | [] => .ok []
  | item :: items =>
      if item = [] then tokensOf items
      else do
        let token := (← stoul item).toUInt32
        return token :: (← tokensOf items)

def parseTokenList (value : List Char) : Except String (List UInt32) :=
  tokensOf ((split ',' value).map trim)

def loadTokenFilterFile (path : String) (input : Option String) : Except String (List UInt32) :=
  match input with
  | none => .error ("Unable to open token filter file: " ++ path)
  | some text => tokensOf ((getLines text.toList).map Config.content)

/-! ## The command line -/

structure ReplayOptions where
  inputDir : String := ""
  inputFiles : List String := []
  tokenFilterFile : String := ""
  tokens : List UInt32 := []
  simulatorConfigPath : String := ""
  defaultDestination : Option ReplayDestination := none
  streamDestinations : List (UInt16 × ReplayDestination) := []
  outgoingInterfaceIp : String := ""
  pacing : ReplayPacingMode := .none
  speed : DoubleBits := 0x3ff0000000000000
  maxRecords : UInt64 := 0
  loop : Bool := false
deriving DecidableEq, Repr

/-- An entry of the map from streams to destinations is set. -/
def routeStream (streamId : UInt16) (destination : ReplayDestination)
    (routes : List (UInt16 × ReplayDestination)) : List (UInt16 × ReplayDestination) :=
  (streamId, destination) :: routes.filter fun entry => entry.1 ≠ streamId

section CommandLine

variable (stod : List Char → Except String DoubleBits)

/-- The options with a value. -/
def valueOptions : List String :=
  ["--input-dir", "--input-file", "--token-file", "--tokens", "--sim-config", "--dest",
    "--stream-dest", "--out-interface", "--pace", "--speed", "--max-records"]

/-- An option with its value. -/
def setOption (options : ReplayOptions) (arg value : String) : Except String ReplayOptions :=
  if arg = "--input-dir" then .ok { options with inputDir := value }
  else if arg = "--input-file" then
    .ok { options with inputFiles := options.inputFiles ++ [value] }
  else if arg = "--token-file" then .ok { options with tokenFilterFile := value }
  else if arg = "--tokens" then do
    return { options with tokens := options.tokens ++ (← parseTokenList value.toList) }
  else if arg = "--sim-config" then .ok { options with simulatorConfigPath := value }
  else if arg = "--dest" then do
    return { options with defaultDestination := some (← parseDestination value.toList) }
  else if arg = "--stream-dest" then do
    let parsed ← parseStreamDestination value.toList
    return { options with
      streamDestinations := routeStream parsed.1 parsed.2 options.streamDestinations }
  else if arg = "--out-interface" then .ok { options with outgoingInterfaceIp := value }
  else if arg = "--pace" then
    if value = "none" then .ok { options with pacing := .none }
    else if value = "captured" then .ok { options with pacing := .captured }
    else .error ("Unknown pacing mode: " ++ value)
  else if arg = "--speed" then do
    return { options with speed := ← stod value.toList }
  else if arg = "--max-records" then do
    return { options with maxRecords := ← stoull value.toList }
  else .error ("Unknown argument: " ++ arg)

/-- The loop over the arguments. -/
def parseArguments (options : ReplayOptions) : List String → Except String ReplayOptions
  | [] => .ok options
  | arg :: args =>
      if arg ∈ valueOptions then
        match args with
        | [] => .error ("Missing value for " ++ arg)
        | value :: args => do parseArguments (← setOption stod options arg value) args
      else if arg = "--loop" then parseArguments { options with loop := true } args
      else if arg = "--help" then .error "help"
      else .error ("Unknown argument: " ++ arg)

/-- The arguments after the name of the program. -/
def parseCommandLine (args : List String) : Except String ReplayOptions := do
  let options ← parseArguments stod {} args
  if options.inputDir = "" ∧ options.inputFiles = [] then
    .error "Replay input missing. Use --input-dir or --input-file"
  else return options

end CommandLine

/-! ## The input files -/

structure DirectoryEntry where
  path : String
  filename : String
  regularFile : Bool := true
deriving DecidableEq, Repr

/-- The texts that can be opened and the directories that can be read. -/
structure FileSystem where
  text : String → Option String
  entries : String → Option (List DirectoryEntry)

def parseTokenFromFilename (filename : String) : Except String (Option UInt32) :=
  let name := filename.toList
  let tokenText := beforeFirst '_' name
  if '_' ∉ name then .ok none
  else if tokenText = [] ∨ !tokenText.all Char.isDigit then .ok none
  else do return some (← stoul tokenText).toUInt32

/-- What the loop over the directory does with one entry. -/
def discovers (selectedTokens : List UInt32) (entry : DirectoryEntry) : Except String Bool :=
  if !entry.regularFile then .ok false
  else if !endsWith entry.filename ".dat" && !endsWith entry.filename ".dat.gz" then .ok false
  else if selectedTokens ≠ [] then do
    match ← parseTokenFromFilename entry.filename with
    | none => return false
    | some token => return token ∈ selectedTokens
  else .ok true

def discover (selectedTokens : List UInt32) : List DirectoryEntry → Except String (List DirectoryEntry)
  | [] => .ok []
  | entry :: entries => do
      let found ← discovers selectedTokens entry
      let rest ← discover selectedTokens entries
      return if found then entry :: rest else rest

/-- The entries of one directory are sorted as their names are. -/
def sortedEntries (entries : List DirectoryEntry) : List DirectoryEntry :=
  entries.insertionSort fun a b => a.filename ≤ b.filename

def selectTokens (files : FileSystem) (options : ReplayOptions) (simulatorConfig : Option Config) :
    Except String (List UInt32) :=
  if options.tokenFilterFile ≠ "" then do
    return options.tokens ++
      (← loadTokenFilterFile options.tokenFilterFile (files.text options.tokenFilterFile))
  else
    match simulatorConfig with
    | none => .ok options.tokens
    | some config =>
        if config.tokenFilterFile ≠ "" then do
          return options.tokens ++
            (← loadTokenFilterFile config.tokenFilterFile (files.text config.tokenFilterFile))
        else .ok options.tokens

def discoverFiles (files : FileSystem) (options : ReplayOptions) (selectedTokens : List UInt32) :
    Except String (List String) :=
  if options.inputDir = "" then .ok []
  else
    match files.entries options.inputDir with
    | none => .error "directory_iterator"
    | some entries => do
        return (sortedEntries (← discover selectedTokens entries)).map DirectoryEntry.path

/-- The paths are sorted, and those that are repeated dropped. -/
def collectInputFiles (files : FileSystem) (options : ReplayOptions)
    (simulatorConfig : Option Config) : Except String (List String) := do
  let selectedTokens ← selectTokens files options simulatorConfig
  let discovered ← discoverFiles files options selectedTokens
  let paths := sortedSet (options.inputFiles ++ discovered)
  if paths = [] then .error "No replay input files selected" else return paths

/-! ## Resolved options -/

/-- `ResolvedReplayOptions`, with the paths of the input files. -/
structure ResolvedOptions where
  inputFiles : List String
  defaultDestination : Option ReplayDestination
  streamDestinations : List (UInt16 × ReplayDestination)
  outgoingInterfaceIp : String
  pacing : ReplayPacingMode
  speed : DoubleBits
  maxRecords : UInt64
  loop : Bool
deriving DecidableEq, Repr

/-- The comparison of a double with `0.0`. -/
def doubleLeZero (bits : DoubleBits) : Bool :=
  bits <<< 1 == 0 || (bits >>> 63 == 1 && (bits <<< 1) ≤ (0xffe0000000000000 : UInt64))

def loadSimulatorConfig (files : FileSystem) (options : ReplayOptions) :
    Except String (Option Config) :=
  if options.simulatorConfigPath = "" then .ok none
  else do
    return some (← Config.loadFromFile options.simulatorConfigPath
      (files.text options.simulatorConfigPath))

/-- The default destination, taken from the simulator's one market-data stream when none is given. -/
def resolveDestination (options : ReplayOptions) (simulatorConfig : Option Config) :
    Option ReplayDestination :=
  if options.defaultDestination = none ∧ options.streamDestinations = [] then
    match simulatorConfig with
    | none => none
    | some config =>
        match config.marketDataStreams with
        | [endpoint] => some { host := endpoint.host, port := endpoint.port }
        | _ => none
  else options.defaultDestination

def resolveOptions (files : FileSystem) (options : ReplayOptions) :
    Except String ResolvedOptions := do
  let simulatorConfig ← loadSimulatorConfig files options
  let inputFiles ← collectInputFiles files options simulatorConfig
  let defaultDestination := resolveDestination options simulatorConfig
  if defaultDestination = none ∧ options.streamDestinations = [] then
    .error ("Replay destination missing. Use --dest, --stream-dest, or --sim-config " ++
      "with exactly one market_data_stream")
  else if options.pacing = .captured ∧ doubleLeZero options.speed then
    .error "--speed must be greater than zero when --pace captured is used"
  else
    return {
      inputFiles, defaultDestination
      streamDestinations := options.streamDestinations
      outgoingInterfaceIp := options.outgoingInterfaceIp
      pacing := options.pacing
      speed := options.speed
      maxRecords := options.maxRecords
      loop := options.loop }

/-- What the passes read, once the input files are opened. -/
def ResolvedOptions.opened (resolved : ResolvedOptions) (bytes : String → List UInt8) :
    ResolvedReplayOptions where
  inputFiles := resolved.inputFiles.map fun path => (path, bytes path)
  defaultDestination := resolved.defaultDestination
  streamDestinations := resolved.streamDestinations
  outgoingInterfaceIp := resolved.outgoingInterfaceIp
  pacing := resolved.pacing
  maxRecords := resolved.maxRecords
  loop := resolved.loop

end NseFoExchangeSim.Replay
