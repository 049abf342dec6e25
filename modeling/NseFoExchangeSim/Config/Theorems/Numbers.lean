import NseFoExchangeSim.Config.Load

/-!
# The numbers of a configuration

Every number of a configuration is read by `strtoull` and narrowed to the width of its field. An accepted
file means what it says exactly when the text of every number in force is the decimal numeral of a
number that its field can hold.
-/

namespace NseFoExchangeSim

open Lib

/-! ## The numeric settings -/

inductive NumericKey
  | grTlsPort
  | sessionPort
  | boxId
  | defaultStreamNo
  | exchangeOrderNumberStart
  | fillNumberStart
  | fillDelayUs
  | maxBookContracts
deriving DecidableEq

namespace NumericKey

/-- The key of a setting in the file. -/
def key : NumericKey → String
  | grTlsPort => "gr_tls_port"
  | sessionPort => "session_port"
  | boxId => "box_id"
  | defaultStreamNo => "default_stream_no"
  | exchangeOrderNumberStart => "exchange_order_number_start"
  | fillNumberStart => "fill_number_start"
  | fillDelayUs => "fill_delay_us"
  | maxBookContracts => "max_book_contracts"

/-- The width of its field. -/
def bits : NumericKey → Nat
  | defaultStreamNo => 8
  | grTlsPort | sessionPort | boxId => 16
  | fillNumberStart => 32
  | exchangeOrderNumberStart | fillDelayUs | maxBookContracts => 64

/-- The number that a configuration holds. -/
def number (config : Config) : NumericKey → Nat
  | grTlsPort => config.grTlsPort.toNat
  | sessionPort => config.sessionPort.toNat
  | boxId => config.boxId.toNat
  | defaultStreamNo => config.defaultStreamNo.toNat
  | exchangeOrderNumberStart => config.exchangeOrderNumberStart.toNat
  | fillNumberStart => config.fillNumberStart.toNat
  | fillDelayUs => config.fillDelayUs.toNat
  | maxBookContracts => config.maxBookContracts.toNat

/-- The configuration after the field is assigned a number of 64 bits. -/
def set (config : Config) (n : UInt64) : NumericKey → Config
  | grTlsPort => { config with grTlsPort := n.toUInt16 }
  | sessionPort => { config with sessionPort := n.toUInt16 }
  | boxId => { config with boxId := n.toUInt16 }
  | defaultStreamNo => { config with defaultStreamNo := n.toUInt8 }
  | exchangeOrderNumberStart => { config with exchangeOrderNumberStart := n }
  | fillNumberStart => { config with fillNumberStart := n.toUInt32 }
  | fillDelayUs => { config with fillDelayUs := n }
  | maxBookContracts => { config with maxBookContracts := n }

theorem key_inj {k k' : NumericKey} (h : k.key = k'.key) : k = k' := by
  cases k <;> cases k' <;> first | rfl | (revert h; decide)

theorem key_ne_stream (k : NumericKey) : k.key ≠ "market_data_stream" := by
  cases k <;> decide

/-- An assignment narrows the number to the field, and leaves the other fields alone. -/
theorem number_set (config : Config) (n : UInt64) (k k' : NumericKey) :
    number (set config n k) k' = if k' = k then n.toNat % 2 ^ k.bits else number config k' := by
  by_cases hk : k' = k
  · subst hk
    rw [if_pos rfl]
    have hlt := n.toNat_lt
    cases k' <;> simp [number, set, bits, Nat.mod_eq_of_lt hlt]
  · rw [if_neg hk]
    cases k <;> cases k' <;> first | rfl | exact absurd rfl hk

theorem marketDataStreams_set (config : Config) (n : UInt64) (k : NumericKey) :
    (set config n k).marketDataStreams = config.marketDataStreams := by
  cases k <;> rfl

theorem bits_le (k : NumericKey) : k.bits ≤ 64 := by
  cases k <;> decide

end NumericKey

namespace Config

/-! ## What a text says -/

/-- The settings of some lines, in order. -/
def settings (lines : List (List Char)) : List (String × List Char) :=
  ((lines.map content).filter ('=' ∈ ·)).map setting

/-- The values that the settings give a key. -/
def valuesOf (key : String) (settings : List (String × List Char)) : List (List Char) :=
  (settings.filter (·.1 = key)).map (·.2)

/-- The values that a file gives a key, in order; that of the last line is in force. -/
def written (text key : String) : List (List Char) := valuesOf key (settings (getLines text.toList))

/-- The text of the port of an endpoint. -/
def portText (value : List Char) : List Char := trim (afterLast ':' (hostPort value))

/-- Every number is the one written on the last line for its key, and every port the one on its line. -/
structure MeansWhatItSays (text : String) (config : Config) : Prop where
  number : ∀ k : NumericKey, ∀ value, (written text k.key).getLast? = some value →
    integerOf value = some (k.number config : Int)
  unset : ∀ k : NumericKey, (written text k.key).getLast? = none → k.number config = k.number {}
  ports : List.Forall₂ (fun value endpoint => integerOf (portText value) = some (endpoint.port.toNat : Int))
    (written text "market_data_stream") config.marketDataStreams

/-- The text is the decimal numeral of a number that the field can hold. -/
def Plain (bits : Nat) (value : List Char) : Prop :=
  ∃ n : Nat, integerOf value = some (n : Int) ∧ n < 2 ^ bits

/-- The text of every number in force is such a numeral. -/
structure PlainNumbers (text : String) : Prop where
  number : ∀ k : NumericKey, ∀ value, (written text k.key).getLast? = some value → Plain k.bits value
  port : ∀ value ∈ written text "market_data_stream", Plain 16 (portText value)

/-! ## What an assignment reads -/

theorem stringToNumber_eq_ok {function : String} {value : List Char} {n : UInt64}
    (h : stringToNumber function value = .ok n) : strtoull value = .value n := by
  unfold stringToNumber at h
  split at h
  · cases h
  · cases h
  · cases h
    assumption

section Assign

variable {config config' : Config} {value : List Char}

theorem assign_number {k : NumericKey} (h : config.assign k.key value = .ok config') :
    ∃ n, strtoull value = .value n ∧ config' = k.set config n := by
  cases k <;>
    simp only [NumericKey.key, assign, String.reduceEq, if_true, if_false] at h <;>
    obtain ⟨n, hread, hset⟩ := bind_eq_ok h <;>
    exact ⟨n, stringToNumber_eq_ok hread, (Except.ok.inj hset).symm⟩

theorem assign_stream (h : config.assign "market_data_stream" value = .ok config') :
    ∃ endpoint, parseMarketDataEndpoint value = .ok endpoint ∧
      config' = { config with marketDataStreams := config.marketDataStreams ++ [endpoint] } := by
  simp only [assign, String.reduceEq, if_true, if_false] at h
  obtain ⟨endpoint, hparse, hset⟩ := bind_eq_ok h
  cases hset
  exact ⟨endpoint, hparse, rfl⟩

/-- The other keys assign no number and no endpoint. -/
theorem assign_other {key : String} (hkey : ∀ k : NumericKey, key ≠ k.key)
    (hstream : key ≠ "market_data_stream") (h : config.assign key value = .ok config') :
    (∀ k : NumericKey, k.number config' = k.number config) ∧
      config'.marketDataStreams = config.marketDataStreams := by
  have hnumeric : key ≠ "gr_tls_port" ∧ key ≠ "session_port" ∧ key ≠ "box_id" ∧
      key ≠ "default_stream_no" ∧ key ≠ "exchange_order_number_start" ∧
      key ≠ "fill_number_start" ∧ key ≠ "fill_delay_us" ∧ key ≠ "max_book_contracts" :=
    ⟨hkey .grTlsPort, hkey .sessionPort, hkey .boxId, hkey .defaultStreamNo,
      hkey .exchangeOrderNumberStart, hkey .fillNumberStart, hkey .fillDelayUs,
      hkey .maxBookContracts⟩
  simp only [assign, hnumeric, hstream, if_false] at h
  split_ifs at h <;> cases h <;> exact ⟨fun k => by cases k <;> rfl, rfl⟩

theorem parse_port {endpoint : MarketDataEndpoint}
    (h : parseMarketDataEndpoint value = .ok endpoint) :
    ∃ n, strtoull (portText value) = .value n ∧ endpoint.port = n.toUInt16 := by
  simp only [parseMarketDataEndpoint] at h
  split at h
  · cases h
  · split at h
    · cases h
    · obtain ⟨n, hread, hport⟩ := bind_eq_ok h
      split at hport
      · cases hport
      · obtain rfl := Except.ok.inj hport
        exact ⟨n, stringToNumber_eq_ok hread, rfl⟩

end Assign

/-! ## What some settings load -/

/-- What a configuration has become after some settings. -/
structure Loads (config : Config) (settings : List (String × List Char)) (config' : Config) : Prop where
  number : ∀ k : NumericKey, ∀ value, (valuesOf k.key settings).getLast? = some value →
    ∃ n, strtoull value = .value n ∧ k.number config' = n.toNat % 2 ^ k.bits
  unset : ∀ k : NumericKey, (valuesOf k.key settings).getLast? = none →
    k.number config' = k.number config
  streams : ∃ endpoints, config'.marketDataStreams = config.marketDataStreams ++ endpoints ∧
    List.Forall₂
      (fun value endpoint => ∃ n, strtoull (portText value) = .value n ∧ endpoint.port = n.toUInt16)
      (valuesOf "market_data_stream" settings) endpoints

theorem valuesOf_append (key : String) (xs ys : List (String × List Char)) :
    valuesOf key (xs ++ ys) = valuesOf key xs ++ valuesOf key ys := by
  simp [valuesOf]

theorem valuesOf_same (key : String) (value : List Char) : valuesOf key [(key, value)] = [value] := by
  simp [valuesOf]

theorem valuesOf_other {key key' : String} (h : key ≠ key') (value : List Char) :
    valuesOf key' [(key, value)] = [] := by
  simp [valuesOf, h]

namespace Loads

variable {config config' config'' : Config}

theorem refl (config : Config) : Loads config [] config where
  number k value h := by cases h
  unset k _ := rfl
  streams := ⟨[], (List.append_nil _).symm, .nil⟩

theorem trans {xs ys : List (String × List Char)} (h : Loads config xs config')
    (h' : Loads config' ys config'') : Loads config (xs ++ ys) config'' where
  number k value hlast := by
    rw [valuesOf_append, List.getLast?_append] at hlast
    cases hys : (valuesOf k.key ys).getLast? with
    | none =>
        rw [hys, Option.none_or] at hlast
        rw [h'.unset k hys]
        exact h.number k value hlast
    | some value' =>
        rw [hys, Option.some_or] at hlast
        cases hlast
        exact h'.number k _ hys
  unset k hnone := by
    rw [valuesOf_append, List.getLast?_append, Option.or_eq_none_iff] at hnone
    rw [h'.unset k hnone.1, h.unset k hnone.2]
  streams := by
    obtain ⟨es, hes, hports⟩ := h.streams
    obtain ⟨es', hes', hports'⟩ := h'.streams
    refine ⟨es ++ es', ?_, ?_⟩
    · rw [hes', hes, List.append_assoc]
    · rw [valuesOf_append]
      exact List.rel_append hports hports'

/-- One assignment loads its setting. -/
theorem of_assign {key : String} {value : List Char} (h : config.assign key value = .ok config') :
    Loads config [(key, value)] config' := by
  by_cases hkey : ∃ k : NumericKey, key = k.key
  · obtain ⟨k, rfl⟩ := hkey
    obtain ⟨n, hread, rfl⟩ := assign_number h
    refine ⟨fun k' value' hlast => ?_, fun k' hnone => ?_, [], ?_, ?_⟩
    · by_cases hk : k' = k
      · subst hk
        rw [valuesOf_same] at hlast
        cases hlast
        exact ⟨n, hread, by rw [NumericKey.number_set, if_pos rfl]⟩
      · rw [valuesOf_other (fun heq => hk (NumericKey.key_inj heq).symm)] at hlast
        cases hlast
    · have hk : k' ≠ k := by
        rintro rfl
        rw [valuesOf_same] at hnone
        cases hnone
      rw [NumericKey.number_set, if_neg hk]
    · rw [NumericKey.marketDataStreams_set, List.append_nil]
    · rw [valuesOf_other k.key_ne_stream]
      exact .nil
  · have hkey : ∀ k : NumericKey, key ≠ k.key := fun k heq => hkey ⟨k, heq⟩
    by_cases hstream : key = "market_data_stream"
    · subst hstream
      obtain ⟨endpoint, hparse, rfl⟩ := assign_stream h
      refine ⟨fun k value' hlast => ?_, fun k _ => by cases k <;> rfl, [endpoint], rfl, ?_⟩
      · rw [valuesOf_other (hkey k)] at hlast
        cases hlast
      · rw [valuesOf_same]
        exact .cons (parse_port hparse) .nil
    · obtain ⟨hnumbers, hsame⟩ := assign_other hkey hstream h
      refine ⟨fun k value' hlast => ?_, fun k _ => hnumbers k, [], ?_, ?_⟩
      · rw [valuesOf_other (hkey k)] at hlast
        cases hlast
      · rw [hsame, List.append_nil]
      · rw [valuesOf_other hstream]
        exact .nil

/-- A line loads its setting, when it has one. -/
theorem of_line {lineNo : Nat} {line : List Char} (h : loadLine lineNo config line = .ok config') :
    Loads config (settings [line]) config' := by
  unfold loadLine at h
  by_cases hempty : content line = []
  · rw [if_pos hempty] at h
    cases h
    have hnone : settings [line] = [] := by simp [settings, hempty]
    rw [hnone]
    exact refl config
  · by_cases hequal : '=' ∈ content line
    · rw [if_neg hempty, if_neg (not_not_intro hequal)] at h
      have hone : settings [line] = [setting (content line)] := by simp [settings, hequal]
      rw [hone]
      exact of_assign h
    · rw [if_neg hempty, if_pos hequal] at h
      cases h

/-- The lines of a file load their settings, by induction on the lines. -/
theorem of_lines {lineNo : Nat} {lines : List (List Char)}
    (h : loadLines lineNo config lines = .ok config') : Loads config (settings lines) config' := by
  induction lines generalizing lineNo config with
  | nil =>
      cases h
      exact refl _
  | cons line lines ih =>
      obtain ⟨config₁, hline, hlines⟩ := bind_eq_ok h
      have hcons : settings (line :: lines) = settings [line] ++ settings lines := by
        rw [← List.singleton_append]
        simp only [settings, List.map_append, List.filter_append]
      rw [hcons]
      exact (of_line hline).trans (ih hlines)

end Loads

theorem loadFromFile_loads {path text : String} {config : Config}
    (h : loadFromFile path (some text) = .ok config) :
    Loads {} (settings (getLines text.toList)) config := by
  obtain ⟨config', hlines, hrest⟩ := bind_eq_ok h
  obtain ⟨_, _, hsame⟩ := bind_eq_ok hrest
  cases hsame
  exact Loads.of_lines hlines

/-! ## What a loaded file means -/

/-- A number that was read and narrowed is the one written exactly when that fits the field. -/
theorem narrowed_iff {value : List Char} {n : UInt64} (hread : strtoull value = .value n) {bits : Nat}
    (hbits : bits ≤ 64) :
    integerOf value = some ((n.toNat % 2 ^ bits : Nat) : Int) ↔ Plain bits value := by
  constructor
  · intro hwritten
    exact ⟨_, hwritten, Nat.mod_lt _ (Nat.two_pow_pos bits)⟩
  · rintro ⟨m, hwritten, hm⟩
    have hm64 : m < 2 ^ 64 := Nat.lt_of_lt_of_le hm (Nat.pow_le_pow_right (by decide) hbits)
    rw [strtoull_of_integerOf hwritten hm64] at hread
    cases hread
    rw [UInt64.toNat_ofNat', Nat.mod_eq_of_lt hm64, Nat.mod_eq_of_lt hm]
    exact hwritten

theorem port_iff {value : List Char} {port : UInt16}
    (h : ∃ n, strtoull value = .value n ∧ port = n.toUInt16) :
    integerOf value = some (port.toNat : Int) ↔ Plain 16 value := by
  obtain ⟨n, hread, rfl⟩ := h
  rw [UInt64.toNat_toUInt16]
  exact narrowed_iff hread (by decide)

theorem ports_iff {values : List (List Char)} {endpoints : List MarketDataEndpoint}
    (h : List.Forall₂
      (fun value endpoint => ∃ n, strtoull (portText value) = .value n ∧ endpoint.port = n.toUInt16)
      values endpoints) :
    List.Forall₂ (fun value endpoint => integerOf (portText value) = some (endpoint.port.toNat : Int))
        values endpoints ↔
      ∀ value ∈ values, Plain 16 (portText value) := by
  induction h with
  | nil => simp
  | cons hhead _ ih => rw [List.forall₂_cons, List.forall_mem_cons, port_iff hhead, ih]

/-- What is loaded from a file means what the file says exactly when the text of every number in force is
the decimal numeral of a number that its field can hold. -/
theorem loaded_means_what_it_says_iff {path text : String} {config : Config}
    (h : loadFromFile path (some text) = .ok config) :
    MeansWhatItSays text config ↔ PlainNumbers text := by
  have hloads := loadFromFile_loads h
  obtain ⟨endpoints, hstreams, hports⟩ := hloads.streams
  have hstreams : config.marketDataStreams = endpoints := hstreams
  constructor
  · intro hmeans
    refine ⟨fun k value hlast => ?_, (ports_iff hports).mp (hstreams ▸ hmeans.ports)⟩
    obtain ⟨n, hread, hnumber⟩ := hloads.number k value hlast
    have hwritten := hmeans.number k value hlast
    rw [hnumber] at hwritten
    exact (narrowed_iff hread k.bits_le).mp hwritten
  · intro hplain
    refine ⟨fun k value hlast => ?_, hloads.unset, hstreams ▸ (ports_iff hports).mpr hplain.port⟩
    obtain ⟨n, hread, hnumber⟩ := hloads.number k value hlast
    rw [hnumber]
    exact (narrowed_iff hread k.bits_le).mpr (hplain.number k value hlast)

/-- A file that sets a number twice. -/
def twoBoxes : String :=
  "tls_cert_pem=a\ntls_key_pem=b\ntoken_filter_file=t\n" ++
    "box_id=9\nbox_id = +7 # 2\nmarket_data_stream=h:5@l"

/-- What is loaded from it. -/
def oneBox : Config where
  tlsCertPem := "a"
  tlsKeyPem := "b"
  tokenFilterFile := "t"
  boxId := 7
  marketDataStreams := [{ host := "h", port := 5, interfaceIp := "l" }]

theorem loaded_means_what_it_says_iff_box : MeansWhatItSays twoBoxes oneBox := by
  have h : loadFromFile "" (some twoBoxes) = .ok oneBox := by decide +kernel
  have hsettings : settings (getLines twoBoxes.toList) =
      [("tls_cert_pem", ['a']), ("tls_key_pem", ['b']), ("token_filter_file", ['t']),
        ("box_id", ['9']), ("box_id", ['+', '7']), ("market_data_stream", "h:5@l".toList)] := by
    decide +kernel
  refine (loaded_means_what_it_says_iff h).mpr ⟨fun k value hlast => ?_, ?_⟩
  · rw [written, hsettings] at hlast
    -- Only the box number is written.
    cases k <;> cases hlast
    exact ⟨7, by decide, by decide⟩
  · rw [written, hsettings]
    intro value hvalue
    cases List.mem_singleton.mp hvalue
    exact ⟨5, by decide, by decide⟩

/-- A port that does not fit is cut to 16 bits. -/
theorem wide_port_loads :
    ¬ ∀ path text config, loadFromFile path (some text) = .ok config → MeansWhatItSays text config := by
  intro hall
  have hmeans := hall "" "tls_cert_pem=a\ntls_key_pem=b\ngr_tls_port=70000"
    { tlsCertPem := "a", tlsKeyPem := "b", grTlsPort := 4464 } (by decide +kernel)
  exact absurd (hmeans.number .grTlsPort "70000".toList (by decide +kernel)) (by decide)

end Config

end NseFoExchangeSim
