import NseFoExchangeSim.Config.Theorems.Numbers
import NseFoExchangeSim.Lib.Commuting

/-!
# The order of the settings

What a configuration file loads depends only on the values that it gives to each key, in their order:
comments, blank lines, white space and the way the keys are interleaved make no difference.
-/

namespace NseFoExchangeSim

open Lib

/-! ## What a setting does -/

/-- The settings whose value is kept as it is written. -/
inductive TextKey
  | listenHost
  | tlsCertPem
  | tlsKeyPem
  | tokenFilterFile
deriving DecidableEq

namespace TextKey

def key : TextKey → String
  | listenHost => "listen_host"
  | tlsCertPem => "tls_cert_pem"
  | tlsKeyPem => "tls_key_pem"
  | tokenFilterFile => "token_filter_file"

def set (config : Config) (value : String) : TextKey → Config
  | listenHost => { config with listenHost := value }
  | tlsCertPem => { config with tlsCertPem := value }
  | tlsKeyPem => { config with tlsKeyPem := value }
  | tokenFilterFile => { config with tokenFilterFile := value }

end TextKey

/-- An assignment, its value read. -/
inductive Assignment
  | number (key : NumericKey) (n : UInt64)
  | text (key : TextKey) (value : String)
  | stream (endpoint : MarketDataEndpoint)

namespace Assignment

def key : Assignment → String
  | number key _ => key.key
  | text key _ => key.key
  | stream _ => "market_data_stream"

def apply (config : Config) : Assignment → Config
  | number key n => key.set config n
  | text key value => key.set config value
  | stream endpoint =>
      { config with marketDataStreams := config.marketDataStreams ++ [endpoint] }

theorem apply_comm (config : Config) {a b : Assignment} (h : a.key ≠ b.key) :
    b.apply (a.apply config) = a.apply (b.apply config) := by
  cases a with
  | number key n =>
      cases b with
      | number key' n' =>
          cases key <;> cases key' <;> first | rfl | exact absurd rfl h
      | text key' value => cases key <;> cases key' <;> rfl
      | stream endpoint => cases key <;> rfl
  | text key value =>
      cases b with
      | number key' n => cases key <;> cases key' <;> rfl
      | text key' value' => cases key <;> cases key' <;> first | rfl | exact absurd rfl h
      | stream endpoint => cases key <;> rfl
  | stream endpoint =>
      cases b with
      | number key' n => cases key' <;> rfl
      | text key' value => cases key' <;> rfl
      | stream endpoint' => exact absurd rfl h

end Assignment

namespace Config

/-- A setting, taken by a configuration; `none` when the value cannot be read or the key is unknown. -/
def take (config : Config) (setting : String × List Char) : Option Config :=
  (config.assign setting.1 setting.2).toOption

/-- What a setting reads, whatever the configuration that takes it. -/
def Reads (setting : String × List Char) (r : Option Assignment) : Prop :=
  (∀ a ∈ r, a.key = setting.1) ∧ ∀ config : Config, config.take setting = r.map (·.apply config)

section Reads

variable (value : List Char)

theorem reads_number (k : NumericKey) :
    Reads (k.key, value) ((stoull value).toOption.map (.number k)) := by
  refine ⟨by simp [Assignment.key], fun config => ?_⟩
  cases hread : strtoull value <;> cases k <;>
    simp [take, assign, NumericKey.key, stoul, stoull, stringToNumber, hread, Except.toOption,
      Assignment.apply, NumericKey.set, Bind.bind, Except.bind, pure, Except.pure]

theorem reads_text (k : TextKey) :
    Reads (k.key, value) (some (.text k (String.ofList value))) := by
  refine ⟨by simp [Assignment.key], fun config => ?_⟩
  cases k <;> simp [take, assign, TextKey.key, Except.toOption, Assignment.apply, TextKey.set]

theorem reads_stream :
    Reads ("market_data_stream", value)
      ((parseMarketDataEndpoint value).toOption.map .stream) := by
  refine ⟨by simp [Assignment.key], fun config => ?_⟩
  cases hread : parseMarketDataEndpoint value <;>
    simp [take, assign, hread, Except.toOption, Assignment.apply, Bind.bind, Except.bind, pure,
      Except.pure]

/-- The keys that a file may have. -/
def known (key : String) : Prop :=
  (∃ k : NumericKey, key = k.key) ∨ (∃ k : TextKey, key = k.key) ∨ key = "market_data_stream"

theorem reads_unknown {key : String} (h : ¬known key) : Reads (key, value) none := by
  refine ⟨by simp, fun config => ?_⟩
  simp only [known, not_or, not_exists] at h
  obtain ⟨hnumber, htext, hstream⟩ := h
  have hkeys : key ≠ "gr_tls_port" ∧ key ≠ "session_port" ∧ key ≠ "box_id" ∧
      key ≠ "default_stream_no" ∧ key ≠ "exchange_order_number_start" ∧
      key ≠ "fill_number_start" ∧ key ≠ "fill_delay_us" ∧ key ≠ "max_book_contracts" :=
    ⟨hnumber .grTlsPort, hnumber .sessionPort, hnumber .boxId, hnumber .defaultStreamNo,
      hnumber .exchangeOrderNumberStart, hnumber .fillNumberStart, hnumber .fillDelayUs,
      hnumber .maxBookContracts⟩
  have htexts : key ≠ "listen_host" ∧ key ≠ "tls_cert_pem" ∧ key ≠ "tls_key_pem" ∧
      key ≠ "token_filter_file" :=
    ⟨htext .listenHost, htext .tlsCertPem, htext .tlsKeyPem, htext .tokenFilterFile⟩
  simp [take, assign, hkeys, htexts, hstream, Except.toOption]

end Reads

theorem exists_reads (setting : String × List Char) : ∃ r, Reads setting r := by
  obtain ⟨key, value⟩ := setting
  by_cases hknown : known key
  · rcases hknown with ⟨k, rfl⟩ | ⟨k, rfl⟩ | rfl
    · exact ⟨_, reads_number value k⟩
    · exact ⟨_, reads_text value k⟩
    · exact ⟨_, reads_stream value⟩
  · exact ⟨_, reads_unknown value hknown⟩

theorem commutes_take : Commutes take (·.1) := by
  intro config x y hkey
  obtain ⟨r, hrkey, hr⟩ := exists_reads x
  obtain ⟨q, hqkey, hq⟩ := exists_reads y
  cases r with
  | none =>
      cases q with
      | none => simp [hr, hq]
      | some b => simp [hr, hq]
  | some a =>
      cases q with
      | none => simp [hr, hq]
      | some b =>
          have hab : a.key ≠ b.key := by
            rw [hrkey a rfl, hqkey b rfl]
            exact hkey
          simp [hr, hq, Assignment.apply_comm config hab]

/-! ## Files -/

/-- The line is empty apart from a comment and white space, or has a setting. -/
def WellFormed (line : List Char) : Prop := content line = [] ∨ '=' ∈ content line

theorem loadLine_toOption {line : List Char} (h : WellFormed line) (lineNo : Nat) (config : Config) :
    (loadLine lineNo config line).toOption = (settings [line]).foldlM take config := by
  by_cases hempty : content line = []
  · simp [loadLine, hempty, settings, Except.toOption]
  · have hequal : '=' ∈ content line := h.resolve_left hempty
    simp [loadLine, hempty, hequal, settings, take]

theorem loadLines_toOption {lines : List (List Char)} (h : ∀ line ∈ lines, WellFormed line)
    (lineNo : Nat) (config : Config) :
    (loadLines lineNo config lines).toOption = (settings lines).foldlM take config := by
  induction lines generalizing lineNo config with
  | nil => rfl
  | cons line lines ih =>
      rw [List.forall_mem_cons] at h
      have hcons : settings (line :: lines) = settings [line] ++ settings lines := by
        rw [← List.singleton_append]
        simp only [settings, List.map_append, List.filter_append]
      rw [hcons, List.foldlM_append, ← loadLine_toOption h.1 (lineNo + 1)]
      rw [loadLines]
      cases loadLine (lineNo + 1) config line with
      | error e => rfl
      | ok config' => exact ih h.2 (lineNo + 1) config'

theorem loadLines_malformed {lines : List (List Char)} (h : ¬∀ line ∈ lines, WellFormed line)
    (lineNo : Nat) (config : Config) : (loadLines lineNo config lines).toOption = none := by
  induction lines generalizing lineNo config with
  | nil => exact absurd (List.forall_mem_nil _) h
  | cons line lines ih =>
      rw [loadLines]
      by_cases hline : WellFormed line
      · have hlines : ¬∀ line ∈ lines, WellFormed line := by
          intro hall
          exact h (List.forall_mem_cons.mpr ⟨hline, hall⟩)
        cases loadLine (lineNo + 1) config line with
        | error e => rfl
        | ok config' => exact ih hlines (lineNo + 1) config'
      · have herror : ∃ e, loadLine (lineNo + 1) config line = .error e := by
          simp only [WellFormed, not_or] at hline
          rw [loadLine]
          simp [hline.1, hline.2]
        obtain ⟨e, he⟩ := herror
        rw [he]
        rfl

/-- Two files say the same: every key has the same values in the same order, and either has a line that
is neither empty nor a setting only if the other has one. -/
structure SaySame (text text' : String) : Prop where
  values : ∀ key, written text key = written text' key
  wellFormed : (∀ line ∈ getLines text.toList, WellFormed line) ↔
    ∀ line ∈ getLines text'.toList, WellFormed line

theorem ofKey_eq (key : String) (xs : List (String × List Char)) :
    ofKey (·.1) key xs = (valuesOf key xs).map (key, ·) := by
  simp only [ofKey, valuesOf, List.map_map]
  symm
  refine (List.map_congr_left fun x hx => ?_).trans (List.map_id _)
  have hkey : x.1 = key := by simpa using (List.mem_filter.mp hx).2
  simp [← hkey]

/-- Files that say the same load the same configuration, or are both refused. -/
theorem loads_what_keys_say {path path' text text' : String} (h : SaySame text text') :
    (loadFromFile path (some text)).toOption = (loadFromFile path' (some text')).toOption := by
  have hlines : (loadLines 0 {} (getLines text.toList)).toOption =
      (loadLines 0 {} (getLines text'.toList)).toOption := by
    by_cases hwell : ∀ line ∈ getLines text.toList, WellFormed line
    · rw [loadLines_toOption hwell, loadLines_toOption (h.wellFormed.mp hwell)]
      apply commutes_take.foldlM_eq
      intro key
      rw [ofKey_eq, ofKey_eq]
      exact congrArg (List.map (key, ·)) (h.values key)
    · rw [loadLines_malformed hwell, loadLines_malformed (mt h.wellFormed.mpr hwell)]
  have hcheck : ∀ (path text : String), (loadFromFile path (some text)).toOption =
      (loadLines 0 {} (getLines text.toList)).toOption.bind fun config =>
        config.check.toOption.map fun _ => config := by
    intro path text
    rw [loadFromFile]
    cases loadLines 0 {} (getLines text.toList) with
    | error e => rfl
    | ok config =>
        cases hok : config.check with
        | error e => simp [hok, Except.toOption, Bind.bind, Except.bind]
        | ok u => simp [hok, Except.toOption, Bind.bind, Except.bind, pure, Except.pure]
  rw [hcheck, hcheck, hlines]

/-- A file, and the same with its lines in another order and a comment. -/
def keyFirst : String := "tls_key_pem=b\ntls_cert_pem=a"

def certFirst : String := "# both\n tls_cert_pem = a\n\ntls_key_pem=b # key\n"

theorem loads_what_keys_say_swapped :
    (loadFromFile "k" (some keyFirst)).toOption = (loadFromFile "c" (some certFirst)).toOption := by
  have hkey : settings (getLines keyFirst.toList) =
      [("tls_key_pem", ['b']), ("tls_cert_pem", ['a'])] := by decide +kernel
  have hcert : settings (getLines certFirst.toList) =
      [("tls_cert_pem", ['a']), ("tls_key_pem", ['b'])] := by decide +kernel
  apply loads_what_keys_say
  refine ⟨fun key => ?_, by unfold WellFormed; decide +kernel⟩
  rw [written, written, hkey, hcert]
  by_cases hfirst : key = "tls_key_pem"
  · subst hfirst
    decide +kernel
  · by_cases hsecond : key = "tls_cert_pem"
    · subst hsecond
      decide +kernel
    · simp [valuesOf, Ne.symm hfirst, Ne.symm hsecond]

end Config

end NseFoExchangeSim
