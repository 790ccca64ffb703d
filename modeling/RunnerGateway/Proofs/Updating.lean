import RunnerGateway.Proofs.Dict
import RunnerGateway.Proofs.Numerals
import RunnerGateway.Proofs.Trimming
import RunnerGateway.Runner.Config

/-!
# What an update makes of a configuration

An update brings new base URLs and new entries.  The URLs are brought into normal form, and of the
entries those stay whose key is the decimal of a position.  The entry of a backend is looked up by
its position, its URL and the origin of its URL; `entryFor?_applyUpdate` says that after an update
the last two find nothing, unless the URL itself is such a decimal.
-/

namespace RunnerGateway

open Json

/-! ## Base URLs in normal form -/

/-- A base URL in normal form does not end in a slash. -/
theorem getLast?_normalizeBaseUrl (url : String) :
    (normalizeBaseUrl url).toList.getLast? ≠ some '/' := by
  intro hlast
  rw [normalizeBaseUrl, String.toList_ofList] at hlast
  exact Text.not_endsIn_dropEndWhile _ _ ⟨'/', hlast, by simp⟩

/-! ## Keys that name positions -/

/-- The key is the decimal of a position among `len` ones.  Positions are words of 64 bits. -/
def NamesPosition (len : Nat) (key : String) : Prop :=
  ∃ idx, idx < len ∧ idx ≤ Text.maxWord ∧ Text.IsDecimal key idx

theorem namesPosition_numeral_iff {len idx : Nat} (hidx : idx ≤ Text.maxWord) :
    NamesPosition len (Text.numeral idx) ↔ idx < len := by
  constructor
  · rintro ⟨found, hlt, -, hdecimal⟩
    have hsame : found = idx := hdecimal.value.symm.trans (Text.isDecimal_numeral idx).value
    exact hsame ▸ hlt
  · intro hlt
    exact ⟨idx, hlt, hidx, Text.isDecimal_numeral idx⟩

/-- A key with a character that is no digit names no position. -/
theorem not_namesPosition_of_mem {len : Nat} {key : String} {c : Char} (hmem : c ∈ key.toList)
    (hc : c.isDigit = false) : ¬NamesPosition len key := by
  rintro ⟨idx, -, -, hdecimal⟩
  exact absurd (hdecimal.digits c hmem) (by simp [hc])

/-- An origin has a colon, so it names no position. -/
theorem not_namesPosition_origin {len : Nat} {url origin : String}
    (h : Url.originOf? url = some origin) : ¬NamesPosition len origin := by
  obtain ⟨u, -, horigin⟩ := Option.bind_eq_some_iff.1 h
  obtain ⟨authority, -, rfl⟩ := Option.map_eq_some_iff.1 horigin
  exact not_namesPosition_of_mem (c := ':') (by simp) rfl

namespace RunnerConfig

theorem isPosition_iff {c : RunnerConfig} {key : String} :
    c.isPosition key = true ↔ NamesPosition c.baseUrls.length key := by
  unfold isPosition
  constructor
  · intro h
    split at h
    · rename_i idx hread
      simp only [Bool.and_eq_true, decide_eq_true_eq] at h
      exact ⟨idx, h.1, Text.le_maxWord_of_readWord hread, Text.isDecimal_iff.2 h.2.symm⟩
    · exact nomatch h
  · rintro ⟨idx, hlt, hle, hdecimal⟩
    obtain rfl := Text.isDecimal_iff.1 hdecimal
    simp [Text.readWord_numeral hle, hlt]

/-! ## Updates -/

section Update

variable (c : RunnerConfig) (form : ConfigUpdate)

theorem baseUrls_applyUpdate :
    (c.applyUpdate form).baseUrls = form.baseUrls.map normalizeBaseUrl := rfl

theorem apiConfigs_applyUpdate :
    (c.applyUpdate form).apiConfigs =
      form.apiConfigs.filter fun entry => (c.applyUpdate form).isPosition entry.1 := rfl

theorem isPosition_applyUpdate_iff {key : String} :
    (c.applyUpdate form).isPosition key = true ↔ NamesPosition form.baseUrls.length key := by
  rw [isPosition_iff, baseUrls_applyUpdate, List.length_map]

theorem mem_keys_applyUpdate_iff {key : String} :
    key ∈ Dict.keys (c.applyUpdate form).apiConfigs ↔
      key ∈ Dict.keys form.apiConfigs ∧ NamesPosition form.baseUrls.length key := by
  rw [apiConfigs_applyUpdate]
  simp only [Dict.keys, List.mem_map, List.mem_filter, isPosition_applyUpdate_iff]
  constructor
  · rintro ⟨entry, ⟨hmem, hposition⟩, rfl⟩
    exact ⟨⟨entry, hmem, rfl⟩, hposition⟩
  · rintro ⟨⟨entry, hmem, rfl⟩, hposition⟩
    exact ⟨entry, ⟨hmem, hposition⟩, rfl⟩

theorem get?_applyUpdate {key : String} (h : NamesPosition form.baseUrls.length key) :
    Dict.get? (c.applyUpdate form).apiConfigs key = Dict.get? form.apiConfigs key := by
  rw [apiConfigs_applyUpdate, Dict.get?_filter_of_key,
    if_pos ((isPosition_applyUpdate_iff c form).2 h)]

theorem get?_applyUpdate_eq_none {key : String} (h : ¬NamesPosition form.baseUrls.length key) :
    Dict.get? (c.applyUpdate form).apiConfigs key = none := by
  rw [apiConfigs_applyUpdate, Dict.get?_filter_of_key,
    if_neg fun hposition => h ((isPosition_applyUpdate_iff c form).1 hposition)]

/-- After an update the entry of a backend is the one that the update has for its position: neither
its URL nor the origin of its URL is a key any more. -/
theorem entryFor?_applyUpdate {idx : Nat} {url : String} (hidx : idx < form.baseUrls.length)
    (hword : idx ≤ Text.maxWord) (hurl : ¬NamesPosition form.baseUrls.length url) :
    (c.applyUpdate form).entryFor? idx url = Dict.get? form.apiConfigs (Text.numeral idx) := by
  have horigin : ((Url.originOf? url).bind fun origin =>
      Dict.get? (c.applyUpdate form).apiConfigs origin) = none := by
    refine Option.bind_eq_none_iff.2 fun origin hfound => ?_
    exact get?_applyUpdate_eq_none c form (not_namesPosition_origin hfound)
  rw [entryFor?, get?_applyUpdate c form ((namesPosition_numeral_iff hword).2 hidx),
    get?_applyUpdate_eq_none c form hurl, horigin, Option.or_none, Option.or_none]

/-- An update leaves a configuration in normal form.  It has the URLs of the update in normal form,
each at its position; of the entries of the update it has exactly those whose key is the decimal of
a position; and unless its URL is itself such a decimal, a backend has the entry that the update has
for its position, or else the default one, whatever entries there were before. -/
theorem applyUpdate_is_normal :
    let after := c.applyUpdate form
    after.baseUrls.length = form.baseUrls.length ∧
      (∀ idx : Nat, after.baseUrls[idx]? = (form.baseUrls[idx]?).map normalizeBaseUrl) ∧
      (∀ url ∈ after.baseUrls, url.toList.getLast? ≠ some '/') ∧
      (∀ key, key ∈ Dict.keys after.apiConfigs ↔
        key ∈ Dict.keys form.apiConfigs ∧ NamesPosition form.baseUrls.length key) ∧
      (∀ key ∈ Dict.keys after.apiConfigs,
        Dict.get? after.apiConfigs key = Dict.get? form.apiConfigs key) ∧
      (∀ enabled, form.enabled = some enabled → after.enabled = enabled) ∧
      (form.enabled = none → after.enabled = c.enabled) ∧
      ∀ idx url, idx ≤ Text.maxWord → after.baseUrls[idx]? = some url →
        ¬NamesPosition form.baseUrls.length url →
        after.backend? idx = some
          { idx := idx, url := url,
            config := (Dict.get? form.apiConfigs (Text.numeral idx)).getD {} } := by
  intro after
  have hlength : after.baseUrls.length = form.baseUrls.length := by
    rw [baseUrls_applyUpdate, List.length_map]
  refine ⟨hlength, fun idx => ?_, ?_, fun key => mem_keys_applyUpdate_iff c form, ?_, ?_, ?_, ?_⟩
  · rw [baseUrls_applyUpdate, List.getElem?_map]
  · intro url hurl
    obtain ⟨given, -, rfl⟩ := List.mem_map.1 hurl
    exact getLast?_normalizeBaseUrl given
  · intro key hkey
    exact get?_applyUpdate c form ((mem_keys_applyUpdate_iff c form).1 hkey).2
  · rintro enabled henabled
    exact congrArg (Option.getD · c.enabled) henabled
  · intro hnone
    exact congrArg (Option.getD · c.enabled) hnone
  · intro idx url hword hurl hname
    have hidx : idx < form.baseUrls.length :=
      hlength ▸ (List.getElem?_eq_some_iff.1 hurl).1
    rw [backend?, hurl, Option.map_some, entryFor?_applyUpdate c form hidx hword hname]

end Update

/-- Two URLs, and entries under keys of which only the first names a position. -/
def spelledKeys : ConfigUpdate where
  enabled := none
  baseUrls := [" http://a// ", "http://b/"]
  apiConfigs := [("+1", { prefixId := some "p" }), ("0", { prefixId := some "q" }),
    ("01", { prefixId := some "r" }), ("18446744073709551617", { prefixId := some "s" }),
    ("http://b", { prefixId := some "t" })]

/-- The second backend gets the default entry: none of the keys that look like its own is one, and
the former entry for its URL is gone. -/
theorem applyUpdate_is_normal_spelled :
    let before : RunnerConfig := { apiConfigs := [("http://b", { prefixId := some "u" })] }
    let after := before.applyUpdate spelledKeys
    (1 ≤ Text.maxWord ∧ after.baseUrls[1]? = some "http://b" ∧
        ¬NamesPosition spelledKeys.baseUrls.length "http://b") ∧
      Dict.keys after.apiConfigs = ["0"] ∧
      after.backend? 1 = some { idx := 1, url := "http://b", config := {} } := by
  intro before after
  have hword : 1 ≤ Text.maxWord := by decide
  have hurl : after.baseUrls[1]? = some "http://b" := by decide +kernel
  have hname : ¬NamesPosition spelledKeys.baseUrls.length "http://b" :=
    not_namesPosition_of_mem (c := ':') (by decide) rfl
  obtain ⟨-, -, -, -, -, -, -, hbackend⟩ := applyUpdate_is_normal before spelledKeys
  refine ⟨⟨hword, hurl, hname⟩, by decide +kernel, ?_⟩
  rw [hbackend 1 "http://b" hword hurl hname]
  rfl

end RunnerConfig
end RunnerGateway
