import NseFoExchangeSim.Lib.Commuting
import NseFoExchangeSim.Lib.Fallible
import NseFoExchangeSim.Replay.Options

/-!
# The order of the options

An accepted command line is a sequence of settings, each an option with its value or `--loop`. What it
means depends only on the values that each option is given, in their order, and not on how the options
are interleaved.
-/

namespace NseFoExchangeSim.Replay

open Lib Protocol

/-! ## Settings -/

/-- An option, with its value if it has one. -/
structure Setting where
  name : String
  value : Option String
deriving DecidableEq

def Setting.words (setting : Setting) : List String := setting.name :: setting.value.toList

/-- An option with a value, or `--loop`. -/
def Setting.Proper (setting : Setting) : Prop :=
  if setting.name ∈ valueOptions then setting.value.isSome = true
  else setting.name = "--loop" ∧ setting.value = none

section CommandLine

variable (stod : List Char → Except String DoubleBits)

/-- A setting, taken by the options; `none` when there is no such setting, or its value cannot be read. -/
def takeSetting (options : ReplayOptions) (setting : Setting) : Option ReplayOptions :=
  match setting.value with
  | some value => (setOption stod options setting.name value).toOption
  | none => if setting.name = "--loop" then some { options with loop := true } else none

/-! ## What a setting does -/

/-- A setting, its value read. -/
inductive OptionChange
  | inputDir (value : String)
  | inputFile (value : String)
  | tokenFile (value : String)
  | tokens (values : List UInt32)
  | simConfig (value : String)
  | dest (destination : ReplayDestination)
  | streamDest (streamId : UInt16) (destination : ReplayDestination)
  | outInterface (value : String)
  | pace (mode : ReplayPacingMode)
  | speed (value : DoubleBits)
  | maxRecords (n : UInt64)
  | loop

namespace OptionChange

def name : OptionChange → String
  | inputDir _ => "--input-dir"
  | inputFile _ => "--input-file"
  | tokenFile _ => "--token-file"
  | tokens _ => "--tokens"
  | simConfig _ => "--sim-config"
  | dest _ => "--dest"
  | streamDest _ _ => "--stream-dest"
  | outInterface _ => "--out-interface"
  | pace _ => "--pace"
  | speed _ => "--speed"
  | maxRecords _ => "--max-records"
  | loop => "--loop"

def apply (options : ReplayOptions) : OptionChange → ReplayOptions
  | inputDir value => { options with inputDir := value }
  | inputFile value => { options with inputFiles := options.inputFiles ++ [value] }
  | tokenFile value => { options with tokenFilterFile := value }
  | tokens values => { options with tokens := options.tokens ++ values }
  | simConfig value => { options with simulatorConfigPath := value }
  | dest destination => { options with defaultDestination := some destination }
  | streamDest streamId destination =>
      { options with
        streamDestinations := routeStream streamId destination options.streamDestinations }
  | outInterface value => { options with outgoingInterfaceIp := value }
  | pace mode => { options with pacing := mode }
  | speed value => { options with speed := value }
  | maxRecords n => { options with maxRecords := n }
  | loop => { options with loop := true }

/-- Different options change different fields. -/
theorem apply_comm (options : ReplayOptions) {a b : OptionChange} (h : a.name ≠ b.name) :
    b.apply (a.apply options) = a.apply (b.apply options) := by
  cases a <;> cases b <;> first | rfl | exact absurd rfl h

end OptionChange

/-- What a setting reads, whatever the options that take it. -/
def SettingReads (setting : Setting) (read : Option OptionChange) : Prop :=
  (∀ change ∈ read, change.name = setting.name) ∧
    ∀ options, takeSetting stod options setting = read.map (·.apply options)

section Reads

variable (value : String)

theorem reads_plain {name : String} (change : OptionChange) (hname : change.name = name)
    (h : ∀ options, setOption stod options name value = .ok (change.apply options)) :
    ∃ read, SettingReads stod ⟨name, some value⟩ read :=
  ⟨some change, by simpa using hname, fun options => by simp [takeSetting, h, Except.toOption]⟩

theorem reads_refused {name : String}
    (h : ∀ options, ∃ e, setOption stod options name value = .error e) :
    ∃ read, SettingReads stod ⟨name, some value⟩ read := by
  refine ⟨none, by simp, fun options => ?_⟩
  obtain ⟨e, he⟩ := h options
  simp [takeSetting, he, Except.toOption]

theorem reads_parsed {name : String} {β : Type} (parsed : Except String β) (change : β → OptionChange)
    (hname : ∀ b, (change b).name = name)
    (h : ∀ options, setOption stod options name value =
      parsed.bind fun b => .ok ((change b).apply options)) :
    ∃ read, SettingReads stod ⟨name, some value⟩ read := by
  refine ⟨parsed.toOption.map change, by simp [hname], fun options => ?_⟩
  simp only [takeSetting, h]
  cases parsed <;> simp [Except.bind, Except.toOption]

theorem reads_pace : ∃ read, SettingReads stod ⟨"--pace", some value⟩ read := by
  by_cases hnone : value = "none"
  · exact reads_plain stod value (.pace .none) rfl fun _ => by
      simp [setOption, hnone, OptionChange.apply]
  · by_cases hcaptured : value = "captured"
    · exact reads_plain stod value (.pace .captured) rfl fun _ => by
        simp [setOption, hcaptured, OptionChange.apply]
    · exact reads_refused stod value fun _ =>
        ⟨"Unknown pacing mode: " ++ value, by simp [setOption, hnone, hcaptured]⟩

theorem exists_settingReads_value (name : String) :
    ∃ read, SettingReads stod ⟨name, some value⟩ read := by
  by_cases hname : name ∈ valueOptions
  · simp only [valueOptions, List.mem_cons, List.not_mem_nil, or_false] at hname
    rcases hname with rfl | rfl | rfl | rfl | rfl | rfl | rfl | rfl | rfl | rfl | rfl
    · exact reads_plain stod value (.inputDir value) rfl fun _ => rfl
    · exact reads_plain stod value (.inputFile value) rfl fun _ => rfl
    · exact reads_plain stod value (.tokenFile value) rfl fun _ => rfl
    · exact reads_parsed stod value (parseTokenList value.toList) .tokens (fun _ => rfl) fun _ => rfl
    · exact reads_plain stod value (.simConfig value) rfl fun _ => rfl
    · exact reads_parsed stod value (parseDestination value.toList) .dest (fun _ => rfl) fun _ => rfl
    · exact reads_parsed stod value (parseStreamDestination value.toList)
        (fun parsed => .streamDest parsed.1 parsed.2) (fun _ => rfl) fun _ => rfl
    · exact reads_plain stod value (.outInterface value) rfl fun _ => rfl
    · exact reads_pace stod value
    · exact reads_parsed stod value (stod value.toList) .speed (fun _ => rfl) fun _ => rfl
    · exact reads_parsed stod value (stoull value.toList) .maxRecords (fun _ => rfl) fun _ => rfl
  · refine reads_refused stod value fun options => ⟨"Unknown argument: " ++ name, ?_⟩
    simp only [valueOptions, List.mem_cons, List.not_mem_nil, or_false, not_or] at hname
    simp [setOption, hname]

end Reads

theorem exists_settingReads (setting : Setting) : ∃ read, SettingReads stod setting read := by
  obtain ⟨name, value⟩ := setting
  cases value with
  | some value => exact exists_settingReads_value stod value name
  | none =>
      by_cases hloop : name = "--loop"
      · exact ⟨some .loop, by simp [OptionChange.name, hloop], fun _ => by
          simp [takeSetting, hloop, OptionChange.apply]⟩
      · exact ⟨none, by simp, fun _ => by simp [takeSetting, hloop]⟩

theorem commutes_takeSetting : Commutes (takeSetting stod) Setting.name := by
  intro options x y hname
  obtain ⟨r, hrname, hr⟩ := exists_settingReads stod x
  obtain ⟨q, hqname, hq⟩ := exists_settingReads stod y
  cases r with
  | none =>
      cases q with
      | none => simp [hr, hq]
      | some b => simp [hr, hq]
  | some a =>
      cases q with
      | none => simp [hr, hq]
      | some b =>
          have hab : a.name ≠ b.name := by
            rw [hrname a rfl, hqname b rfl]
            exact hname
          simp [hr, hq, OptionChange.apply_comm options hab]

/-! ## Command lines -/

theorem parseArguments_words {xs : List Setting} (h : ∀ x ∈ xs, x.Proper) (options : ReplayOptions) :
    (parseArguments stod options (xs.flatMap Setting.words)).toOption =
      xs.foldlM (takeSetting stod) options := by
  induction xs generalizing options with
  | nil => rfl
  | cons x xs ih =>
      rw [List.forall_mem_cons] at h
      obtain ⟨hproper, hrest⟩ := h
      obtain ⟨name, value⟩ := x
      simp only [Setting.Proper] at hproper
      split at hproper
      · rename_i hname
        obtain ⟨value, rfl⟩ := Option.isSome_iff_exists.mp hproper
        simp only [List.flatMap_cons, Setting.words, Option.toList_some, List.cons_append,
          List.nil_append, parseArguments, if_pos hname, List.foldlM_cons, takeSetting]
        cases setOption stod options name value with
        | error e => rfl
        | ok options' => exact ih hrest options'
      · rename_i hname
        obtain ⟨rfl, rfl⟩ := hproper
        have htake : takeSetting stod options ⟨"--loop", none⟩ = some { options with loop := true } := rfl
        have hparse : parseArguments stod options ("--loop" :: xs.flatMap Setting.words) =
            parseArguments stod { options with loop := true } (xs.flatMap Setting.words) := by
          rw [parseArguments.eq_def]
          simp only [if_neg hname, if_true]
        rw [List.foldlM_cons, htake]
        exact (congrArg Except.toOption hparse).trans (ih hrest { options with loop := true })

/-- By induction along the loop: every argument taken is an option with the next argument for its value,
or `--loop`. -/
theorem parseArguments_accepts {args : List String} {options options' : ReplayOptions}
    (h : parseArguments stod options args = .ok options') :
    ∃ xs : List Setting, (∀ x ∈ xs, x.Proper) ∧ args = xs.flatMap Setting.words := by
  fun_induction parseArguments stod options args with
  | case1 options => exact ⟨[], by simp, rfl⟩
  | case2 options arg hname => cases h
  | case3 options arg hname value args ih =>
      obtain ⟨changed, -, hrest⟩ := bind_eq_ok h
      obtain ⟨xs, hproper, rfl⟩ := ih changed hrest
      refine ⟨⟨arg, some value⟩ :: xs, List.forall_mem_cons.mpr ⟨?_, hproper⟩, rfl⟩
      simp [Setting.Proper, hname]
  | case4 options args hloop ih =>
      obtain ⟨xs, hproper, rfl⟩ := ih h
      refine ⟨⟨"--loop", none⟩ :: xs, List.forall_mem_cons.mpr ⟨?_, hproper⟩, rfl⟩
      simp [Setting.Proper, valueOptions]
  | case5 => cases h
  | case6 => cases h

theorem parseCommandLine_toOption (args : List String) :
    (parseCommandLine stod args).toOption =
      (parseArguments stod {} args).toOption.bind fun options =>
        if options.inputDir = "" ∧ options.inputFiles = [] then none else some options := by
  rw [parseCommandLine]
  cases parseArguments stod {} args with
  | error e => rfl
  | ok options =>
      by_cases hinput : options.inputDir = "" ∧ options.inputFiles = []
      · simp [hinput, Except.toOption, Bind.bind, Except.bind]
      · simp only [Except.toOption, Bind.bind, Except.bind, if_neg hinput, Option.bind_some]
        rfl

/-- An accepted command line is a sequence of settings, and every sequence that gives each option the
same values in the same order is accepted with the same options. -/
theorem settings_in_any_order {args : List String} {options : ReplayOptions}
    (h : parseCommandLine stod args = .ok options) :
    ∃ xs : List Setting, (∀ x ∈ xs, x.Proper) ∧ args = xs.flatMap Setting.words ∧
      ∀ ys : List Setting, (∀ y ∈ ys, y.Proper) →
        (∀ name, ofKey Setting.name name ys = ofKey Setting.name name xs) →
        parseCommandLine stod (ys.flatMap Setting.words) = .ok options := by
  obtain ⟨parsed, hparsed, -⟩ := bind_eq_ok h
  obtain ⟨xs, hproper, rfl⟩ := parseArguments_accepts stod hparsed
  refine ⟨xs, hproper, rfl, fun ys hys hsame => ?_⟩
  have hparse : (parseArguments stod {} (ys.flatMap Setting.words)).toOption =
      (parseArguments stod {} (xs.flatMap Setting.words)).toOption := by
    rw [parseArguments_words stod hys, parseArguments_words stod hproper]
    exact (commutes_takeSetting stod).foldlM_eq hsame {}
  have hoption : (parseCommandLine stod (ys.flatMap Setting.words)).toOption = some options := by
    rw [parseCommandLine_toOption, hparse, ← parseCommandLine_toOption, h]
    rfl
  cases hline : parseCommandLine stod (ys.flatMap Setting.words) with
  | error e => simp [hline, Except.toOption] at hoption
  | ok options' => simpa [hline, Except.toOption] using hoption

end CommandLine

/-- A number as it is read for the speed. -/
def speedTwo (text : List Char) : Except String DoubleBits :=
  if text = ['2'] then .ok 0x4000000000000000 else .error "stod"

theorem settings_in_any_order_loop :
    ∃ xs : List Setting, (∀ x ∈ xs, x.Proper) ∧
      ["--speed", "2", "--input-dir", "a", "--loop"] = xs.flatMap Setting.words ∧
      ∀ ys : List Setting, (∀ y ∈ ys, y.Proper) →
        (∀ name, ofKey Setting.name name ys = ofKey Setting.name name xs) →
        parseCommandLine speedTwo (ys.flatMap Setting.words) =
          .ok { inputDir := "a", speed := 0x4000000000000000, loop := true } :=
  settings_in_any_order speedTwo (by decide)

end NseFoExchangeSim.Replay
