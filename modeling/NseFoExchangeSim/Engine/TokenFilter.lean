import NseFoExchangeSim.Config.Load
import NseFoExchangeSim.Engine.Matching

/-!
# The token filter

`MatchingEngine::loadTokenFilter` of `runtime.cpp`: the tokens an engine is made with, from the text of
the file that its configuration names.
-/

namespace NseFoExchangeSim.Engine

open Lib Std

/-- The loop over the lines. -/
def loadTokenLines (allowedTokens : ExtTreeSet UInt32) :
    List (List Char) → Except String (ExtTreeSet UInt32)
  | [] => .ok allowedTokens
  | line :: lines =>
      let line := Config.content line
      if line = [] then loadTokenLines allowedTokens lines
      else do loadTokenLines (allowedTokens.insert (← stoul line).toUInt32) lines

/-- `input` is the text of the file, when it can be opened. -/
def loadTokenFilter (config : Config) (input : Option String) : Except String (ExtTreeSet UInt32) :=
  if config.tokenFilterFile = "" then .ok ∅
  else
    match input with
    | none => .error ("Unable to open token_filter_file: " ++ config.tokenFilterFile)
    | some text => loadTokenLines ∅ (getLines text.toList)

end NseFoExchangeSim.Engine
