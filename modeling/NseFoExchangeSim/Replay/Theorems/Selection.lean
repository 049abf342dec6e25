import NseFoExchangeSim.Engine.TokenFilter
import NseFoExchangeSim.Lib.Fallible
import NseFoExchangeSim.Replay.Options

/-!
# What a replay plays

The input files of resolved options are the files that were named and the files of the directory whose
tokens are selected, each once and in order, however the directory is listed. With the configuration of
the simulator the selected tokens are those the simulator's engine allows.
-/

namespace NseFoExchangeSim.Replay

open Lib Engine

/-! ## The same tokens -/

/-- The engine's loop inserts the tokens that the replay's gives, and fails where that does. -/
theorem loadTokenLines_eq (allowed : Std.ExtTreeSet UInt32) (lines : List (List Char)) :
    match tokensOf (lines.map Config.content) with
    | .ok tokens => ∃ allowed', loadTokenLines allowed lines = .ok allowed' ∧
        ∀ t, t ∈ allowed' ↔ t ∈ allowed ∨ t ∈ tokens
    | .error e => loadTokenLines allowed lines = .error e := by
  induction lines generalizing allowed with
  | nil => exact ⟨allowed, rfl, by simp⟩
  | cons line lines ih =>
      simp only [List.map_cons, tokensOf, loadTokenLines]
      by_cases hempty : Config.content line = []
      · simpa only [hempty, if_true] using ih allowed
      · simp only [hempty, if_false]
        cases stoul (Config.content line) with
        | error e => rfl
        | ok n =>
            have hlater := ih (allowed.insert n.toUInt32)
            cases hrest : tokensOf (lines.map Config.content) with
            | error e =>
                rw [hrest] at hlater
                exact hlater
            | ok tokens =>
                rw [hrest] at hlater
                obtain ⟨allowed', hload, hmem⟩ := hlater
                refine ⟨allowed', hload, fun t => ?_⟩
                rw [hmem, Std.ExtTreeSet.mem_insert, Std.compare_eq_iff_eq, List.mem_cons]
                constructor
                · rintro ((heq | hin) | hin)
                  · exact .inr (.inl heq.symm)
                  · exact .inl hin
                  · exact .inr (.inr hin)
                · rintro (hin | heq | hin)
                  · exact .inl (.inr hin)
                  · exact .inl (.inl heq.symm)
                  · exact .inr hin

theorem loadTokenFilter_eq {config : Config} {input : Option String} {tokens : List UInt32}
    (h : loadTokenFilterFile config.tokenFilterFile input = .ok tokens) (hset : config.tokenFilterFile ≠ "") :
    ∃ allowed, loadTokenFilter config input = .ok allowed ∧ ∀ t, t ∈ tokens ↔ t ∈ allowed := by
  cases input with
  | none => cases h
  | some text =>
      rw [loadTokenFilterFile] at h
      have heq := loadTokenLines_eq ∅ (getLines text.toList)
      rw [h] at heq
      obtain ⟨allowed, hload, hmem⟩ := heq
      exact ⟨allowed, by rw [loadTokenFilter, if_neg hset, hload], fun t => by simp [hmem]⟩

/-! ## The directory -/

/-- The entry is a capture file by its name, of a selected token if any token is selected. -/
structure IsSelected (tokens : List UInt32) (entry : DirectoryEntry) : Prop where
  regular : entry.regularFile = true
  named : endsWith entry.filename ".dat" = true ∨ endsWith entry.filename ".dat.gz" = true
  token : tokens ≠ [] → ∃ t ∈ tokens, parseTokenFromFilename entry.filename = .ok (some t)

section Directory

variable {tokens : List UInt32} {entry : DirectoryEntry} {entries found : List DirectoryEntry}

theorem discovers_eq_ok {b : Bool} (h : discovers tokens entry = .ok b) :
    b = true ↔ IsSelected tokens entry := by
  unfold discovers at h
  split at h
  · rename_i hregular
    cases h
    exact ⟨fun hb => (by cases hb), fun hs => by simp [hs.regular] at hregular⟩
  · rename_i hregular
    split at h
    · rename_i hname
      cases h
      refine ⟨fun hb => (by cases hb), fun hs => ?_⟩
      rcases hs.named with hdat | hgz
      · simp [hdat] at hname
      · simp [hgz] at hname
    · rename_i hname
      have hnamed : endsWith entry.filename ".dat" = true ∨
          endsWith entry.filename ".dat.gz" = true := by
        by_contra hnot
        rw [not_or] at hnot
        simp [hnot.1, hnot.2] at hname
      split at h
      · rename_i htokens
        obtain ⟨token, hparse, hb⟩ := bind_eq_ok h
        cases token with
        | none =>
            cases hb
            refine ⟨fun hb => (by cases hb), fun hs => ?_⟩
            obtain ⟨t, -, ht⟩ := hs.token htokens
            rw [hparse] at ht
            cases ht
        | some t =>
            cases hb
            rw [decide_eq_true_iff]
            refine ⟨fun hin => ⟨by simpa using hregular, hnamed, fun _ => ⟨t, hin, hparse⟩⟩,
              fun hs => ?_⟩
            obtain ⟨t', hin, ht'⟩ := hs.token htokens
            rw [hparse] at ht'
            cases ht'
            exact hin
      · rename_i htokens
        cases h
        exact ⟨fun _ => ⟨by simpa using hregular, hnamed, fun hne => absurd hne htokens⟩,
          fun _ => rfl⟩

theorem mem_discover (h : discover tokens entries = .ok found) :
    entry ∈ found ↔ entry ∈ entries ∧ IsSelected tokens entry := by
  induction entries generalizing found with
  | nil =>
      cases h
      simp
  | cons first entries ih =>
      obtain ⟨b, hb, h⟩ := bind_eq_ok h
      obtain ⟨rest, hrest, h⟩ := bind_eq_ok h
      have hiff := discovers_eq_ok hb
      cases h
      cases b with
      | true =>
          have hfirst := hiff.mp rfl
          rw [if_pos rfl, List.mem_cons, List.mem_cons, ih hrest]
          constructor
          · rintro (rfl | ⟨hin, hs⟩)
            · exact ⟨.inl rfl, hfirst⟩
            · exact ⟨.inr hin, hs⟩
          · rintro ⟨rfl | hin, hs⟩
            · exact .inl rfl
            · exact .inr ⟨hin, hs⟩
      | false =>
          rw [if_neg (by simp), List.mem_cons, ih hrest]
          constructor
          · rintro ⟨hin, hs⟩
            exact ⟨.inr hin, hs⟩
          · rintro ⟨rfl | hin, hs⟩
            · cases hiff.mpr hs
            · exact ⟨hin, hs⟩

/-- A file of the input directory that is selected. -/
def Discovered (files : FileSystem) (options : ReplayOptions) (tokens : List UInt32) (path : String) :
    Prop :=
  options.inputDir ≠ "" ∧ ∃ entries, files.entries options.inputDir = some entries ∧
    ∃ entry ∈ entries, entry.path = path ∧ IsSelected tokens entry

variable {files : FileSystem} {options : ReplayOptions} {paths : List String} {path : String}

theorem mem_discoverFiles (h : discoverFiles files options tokens = .ok paths) :
    path ∈ paths ↔ Discovered files options tokens path := by
  unfold discoverFiles at h
  split at h
  · rename_i hdir
    cases h
    simp [Discovered, hdir]
  · rename_i hdir
    split at h
    · cases h
    · rename_i entries hentries
      obtain ⟨found, hfound, h⟩ := bind_eq_ok h
      cases h
      simp only [List.mem_map, sortedEntries, List.mem_insertionSort, mem_discover hfound, Discovered,
        hentries, Option.some.injEq]
      constructor
      · rintro ⟨entry, ⟨hin, hs⟩, rfl⟩
        exact ⟨hdir, entries, rfl, entry, hin, rfl, hs⟩
      · rintro ⟨-, _, rfl, entry, hin, rfl, hs⟩
        exact ⟨entry, ⟨hin, hs⟩, rfl⟩

theorem collectInputFiles_eq_ok {config : Option Config}
    (h : collectInputFiles files options config = .ok paths) :
    ∃ tokens, selectTokens files options config = .ok tokens ∧ paths ≠ [] ∧
      paths.Pairwise (· < ·) ∧
      ∀ path, path ∈ paths ↔ path ∈ options.inputFiles ∨ Discovered files options tokens path := by
  obtain ⟨tokens, htokens, h⟩ := bind_eq_ok h
  obtain ⟨found, hfound, h⟩ := bind_eq_ok h
  dsimp only at h
  split at h
  · cases h
  · rename_i hsome
    cases h
    refine ⟨tokens, htokens, hsome, sortedSet_pairwise _, fun path => ?_⟩
    rw [mem_sortedSet, List.mem_append, mem_discoverFiles hfound]

end Directory

/-! ## Resolved options -/

/-- The tokens are those the engine of a simulator with this configuration allows. -/
def EngineAllows (files : FileSystem) (config : Config) (tokens : List UInt32) : Prop :=
  ∃ allowed, loadTokenFilter config (files.text config.tokenFilterFile) = .ok allowed ∧
    ∀ t, t ∈ tokens ↔ t ∈ allowed

theorem selectTokens_allowed {files : FileSystem} {options : ReplayOptions} {config : Config}
    {tokens : List UInt32} (h : selectTokens files options (some config) = .ok tokens)
    (hnone : options.tokens = []) (hfile : options.tokenFilterFile = "") :
    EngineAllows files config tokens := by
  unfold selectTokens at h
  rw [if_neg (by simp [hfile])] at h
  dsimp only at h
  split at h
  · rename_i hset
    obtain ⟨loaded, hload, h⟩ := bind_eq_ok h
    cases h
    rw [hnone, List.nil_append]
    exact loadTokenFilter_eq hload hset
  · rename_i hset
    cases h
    have hempty : config.tokenFilterFile = "" := by simpa using hset
    exact ⟨∅, by simp only [loadTokenFilter, hempty, if_true], by simp [hnone]⟩

/-- What resolved options play, and where it goes. -/
structure Plays (files : FileSystem) (options : ReplayOptions) (resolved : ResolvedOptions)
    (config : Option Config) (tokens : List UInt32) : Prop where
  nonempty : resolved.inputFiles ≠ []
  sorted : resolved.inputFiles.Pairwise (· < ·)
  played : ∀ path, path ∈ resolved.inputFiles ↔
    path ∈ options.inputFiles ∨ Discovered files options tokens path
  routed : options.streamDestinations = [] →
    ∀ bytes streamId, (route (resolved.opened bytes) streamId).isSome = true
  allowed : ∀ config', config = some config' → options.tokens = [] → options.tokenFilterFile = "" →
    EngineAllows files config' tokens

theorem resolved_options_play {files : FileSystem} {options : ReplayOptions}
    {resolved : ResolvedOptions} (h : resolveOptions files options = .ok resolved) :
    ∃ config tokens, loadSimulatorConfig files options = .ok config ∧
      selectTokens files options config = .ok tokens ∧
      Plays files options resolved config tokens := by
  obtain ⟨config, hconfig, h⟩ := bind_eq_ok h
  obtain ⟨paths, hpaths, h⟩ := bind_eq_ok h
  obtain ⟨tokens, htokens, hnonempty, hsorted, hmem⟩ := collectInputFiles_eq_ok hpaths
  refine ⟨config, tokens, hconfig, htokens, ?_⟩
  dsimp only at h
  split at h
  · cases h
  · rename_i hdestination
    split at h
    · cases h
    · cases h
      refine ⟨hnonempty, hsorted, hmem, fun hstreams bytes streamId => ?_, fun config' hsome => ?_⟩
      · have hdefault : resolveDestination options config ≠ none := by
          intro hnone
          exact hdestination ⟨hnone, hstreams⟩
        simp only [route, ResolvedOptions.opened, hstreams, List.lookup_nil]
        exact Option.isSome_iff_ne_none.mpr hdefault
      · rw [hsome] at htokens
        exact selectTokens_allowed htokens

/-! A directory with the files of two tokens, one of which the simulator's token file lists. -/

def twoTokens : FileSystem where
  text path :=
    if path = "sim.conf" then
      some ("tls_cert_pem=a\ntls_key_pem=b\ntoken_filter_file=t\nmarket_data_stream=h:5")
    else if path = "t" then some "8 # the second\n\n"
    else none
  entries _ :=
    some [{ path := "d/9_a.dat", filename := "9_a.dat" },
      { path := "d/8_b.dat.gz", filename := "8_b.dat.gz" },
      { path := "d/8_b.txt", filename := "8_b.txt" }]

def replayOfSimulator : ReplayOptions :=
  { inputDir := "d", inputFiles := ["x", "a", "x"], simulatorConfigPath := "sim.conf" }

def playedOfSimulator : ResolvedOptions where
  inputFiles := ["a", "d/8_b.dat.gz", "x"]
  defaultDestination := some { host := "h", port := 5 }
  streamDestinations := []
  outgoingInterfaceIp := ""
  pacing := .none
  speed := 0x3ff0000000000000
  maxRecords := 0
  loop := false

theorem resolved_options_play_simulator :
    resolveOptions twoTokens replayOfSimulator = .ok playedOfSimulator ∧
      ∃ config tokens, loadSimulatorConfig twoTokens replayOfSimulator = .ok config ∧
        selectTokens twoTokens replayOfSimulator config = .ok tokens ∧
        Plays twoTokens replayOfSimulator playedOfSimulator config tokens := by
  have h : resolveOptions twoTokens replayOfSimulator = .ok playedOfSimulator := by decide +kernel
  exact ⟨h, resolved_options_play h⟩

end NseFoExchangeSim.Replay
