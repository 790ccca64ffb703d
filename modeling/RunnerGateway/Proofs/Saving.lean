import RunnerGateway.Proofs.Entries
import RunnerGateway.Proofs.Updating

/-!
# Saving what was read

A configuration that was read and is saved as it is should stay as it is.  Its switch and its
entries do, and so do its base URLs if their normal form is final.  The normal form of a URL has no
slash at its end and no blank at its start; but blanks are removed before the slashes, so that a
blank which stood before the slashes ends up at the end, and only the next update removes it.
-/

namespace RunnerGateway

open Json

/-! ## The normal form of a base URL -/

/-- The text ends in a blank. -/
def EndsBlank (url : String) : Prop :=
  Text.EndsIn Text.isBlank url.toList

/-- Without the blanks around it, the text ends in slashes with a blank before them. -/
def HasBlankBeforeSlashes (url : String) : Prop :=
  ∃ start blank n, Text.isBlank blank = true ∧
    Text.trimBlank url.toList = start ++ [blank] ++ List.replicate n '/'

theorem toList_normalizeBaseUrl (url : String) :
    (normalizeBaseUrl url).toList =
      Text.dropEndWhile (fun c => c = '/') (Text.trimBlank url.toList) :=
  String.toList_ofList

/-- A base URL in normal form does not start with a blank. -/
theorem head?_normalizeBaseUrl {url : String} {c : Char}
    (h : (normalizeBaseUrl url).toList.head? = some c) : Text.isBlank c = false := by
  rw [toList_normalizeBaseUrl] at h
  exact Text.isBlank_eq_false_of_head?_trimBlank (Text.head?_dropEndWhile h)

theorem endsBlank_normalizeBaseUrl_iff (url : String) :
    EndsBlank (normalizeBaseUrl url) ↔ HasBlankBeforeSlashes url := by
  rw [EndsBlank, toList_normalizeBaseUrl]
  constructor
  · rintro ⟨blank, hlast, hblank⟩
    obtain ⟨start, hstart⟩ := List.getLast?_eq_some_iff.1 hlast
    obtain ⟨n, hn⟩ := Text.exists_eq_dropEndWhile_append '/' (Text.trimBlank url.toList)
    rw [hstart] at hn
    exact ⟨start, blank, n, hblank, hn⟩
  · rintro ⟨start, blank, n, hblank, htrim⟩
    have hslash : blank ≠ '/' := by
      rintro rfl
      exact absurd hblank (by decide)
    have hdrop : Text.dropEndWhile (fun c => c = '/') (start ++ [blank]) = start ++ [blank] := by
      rw [Text.dropEndWhile_eq_self_iff, Text.endsIn_concat]
      simpa using hslash
    rw [htrim, Text.dropEndWhile_append_replicate (by simp), hdrop, Text.endsIn_concat]
    exact hblank

/-- The normal form of a base URL is its own normal form exactly if it does not end in a blank. -/
theorem normalizeBaseUrl_normalizeBaseUrl_iff (url : String) :
    normalizeBaseUrl (normalizeBaseUrl url) = normalizeBaseUrl url ↔
      ¬HasBlankBeforeSlashes url := by
  rw [← endsBlank_normalizeBaseUrl_iff, EndsBlank, ← String.toList_inj,
    toList_normalizeBaseUrl (normalizeBaseUrl url)]
  generalize hform : (normalizeBaseUrl url).toList = form
  have hstart : ∀ c, form.head? = some c → Text.isBlank c = false := by
    rintro c hc
    exact head?_normalizeBaseUrl (hform ▸ hc)
  have hslash : ¬Text.EndsIn (fun c => c = '/') form := by
    rw [← hform, toList_normalizeBaseUrl]
    exact Text.not_endsIn_dropEndWhile _ _
  constructor
  · intro h
    -- Trimming and dropping slashes only shorten, so if both together keep all, each does.
    have hkept : form.Sublist (Text.trimBlank form) := by
      conv_lhs => rw [← h]
      exact Text.dropEndWhile_sublist _ _
    have htrim : Text.trimBlank form = form := (Text.trimBlank_sublist form).antisymm hkept
    exact (Text.trimBlank_eq_self_iff hstart).1 htrim
  · intro hblank
    rw [(Text.trimBlank_eq_self_iff hstart).2 hblank]
    exact Text.dropEndWhile_eq_self_iff.2 hslash

/-! ## Updates out of configurations -/

namespace Json

variable {ρ : Type} {σ : Schema ρ}

theorem decodeMembers_eq_self {item : Shape ρ} {members : List (String × Json)}
    (h : ∀ m ∈ members, σ.decode item m.2 = .ok m.2) :
    σ.decodeMembers item members = .ok members := by
  induction members with
  | nil => rfl
  | cons m members ih =>
      rw [List.forall_mem_cons] at h
      rw [Schema.decodeMembers, h.1, ih h.2]
      rfl

end Json

namespace ConfigUpdate

variable {c : RunnerConfig}

theorem field?_configUpdate :
    Record.schema.field? .configUpdate Record.enabledKey =
      some ⟨Record.enabledKey, .optional, .bool⟩ ∧
    Record.schema.field? .configUpdate Record.baseUrlsKey =
      some ⟨Record.baseUrlsKey, .required, .list .string⟩ ∧
    Record.schema.field? .configUpdate Record.apiConfigsKey =
      some ⟨Record.apiConfigsKey, .required, .dict (.record .backendConfig)⟩ := by
  simp [Schema.field?, Record.schema, Record.fields, Record.enabledKey, Record.baseUrlsKey,
    Record.apiConfigsKey]

/-- The members of a configuration in the order of their keys. -/
theorem ofList_readMembers (c : RunnerConfig) :
    Dict.ofList c.readMembers =
      [(Record.apiConfigsKey, .obj c.readEntries), (Record.baseUrlsKey, .ofStrings c.baseUrls),
        (Record.enabledKey, .bool c.enabled)] := by
  have hurls : Record.baseUrlsKey < Record.enabledKey := by decide
  have hconfigs : Record.apiConfigsKey < Record.baseUrlsKey := by decide
  simp [Dict.ofList, RunnerConfig.readMembers, Dict.insert, hurls, hconfigs]

theorem decode_readEntries (h : ∀ entry ∈ c.apiConfigs, entry.2.Tidy) :
    Record.schema.decode (.dict (.record .backendConfig)) (.obj c.readEntries) =
      .ok (.obj c.readEntries) := by
  have hentries : Record.schema.decodeMembers (.record .backendConfig) c.readEntries =
      .ok c.readEntries := by
    refine Json.decodeMembers_eq_self fun m hm => ?_
    obtain ⟨entry, hentry, rfl⟩ := List.mem_map.1 hm
    exact (h entry hentry).accepted fun _ => Dict.mem_of_mem_ofList
  rw [Schema.decode, hentries]
  rfl

/-- A configuration that is sent back as it was read asks for itself. -/
theorem decode_readMembers (h : ∀ entry ∈ c.apiConfigs, entry.2.Tidy) :
    decode (.ofMembers c.readMembers) = .ok (.ofConfig c) := by
  obtain ⟨henabled, hurls, hentries⟩ := field?_configUpdate
  have hstrings : Record.schema.decode (.list .string) (.ofStrings c.baseUrls) =
      .ok (.ofStrings c.baseUrls) :=
    BackendConfig.decode_list_map (fun _ => rfl) c.baseUrls
  have hswitch : Record.schema.decode .bool (.bool c.enabled) = .ok (.bool c.enabled) := rfl
  have hfields : Record.schema.decodeFields .configUpdate (Dict.ofList c.readMembers) =
      .ok (Dict.ofList c.readMembers) := by
    simp [ofList_readMembers, Schema.decodeFields, henabled, hurls, hentries, hstrings, hswitch,
      decode_readEntries h, Field.isAbsent, Except.map]
  have hmissing : Record.schema.missing? .configUpdate (Dict.keys (Dict.ofList c.readMembers)) =
      none := by
    rw [ofList_readMembers]
    rfl
  have hcanonical : ofCanonical (.ofMembers c.readMembers) = .ofConfig c := by
    obtain ⟨henabled, hurls, hentries⟩ := RunnerConfig.member?_readMembers c
    simp only [ofCanonical, ofMembers, Json.object?, Option.getD_some, henabled, hurls, hentries,
      Option.bind_some, Option.map_some, Json.bool?, BackendConfig.strings_ofStrings,
      RunnerConfig.entriesOfCanonical_readEntries h, ofConfig]
  rw [decode, ofMembers, Schema.decode, hfields]
  simp only [hmissing, Except.map]
  exact congrArg Except.ok hcanonical

end ConfigUpdate

/-! ## Saving again -/

namespace RunnerConfig

section Again

variable (c : RunnerConfig) (form : ConfigUpdate)

/-- The configuration after it was updated with itself. -/
def savedAgain (c : RunnerConfig) : RunnerConfig :=
  c.applyUpdate (.ofConfig c)

theorem eq_of_parts {c c' : RunnerConfig} (henabled : c.enabled = c'.enabled)
    (hurls : c.baseUrls = c'.baseUrls) (hentries : c.apiConfigs = c'.apiConfigs) : c = c' := by
  cases c
  cases c'
  rw [mk.injEq]
  exact ⟨henabled, hurls, hentries⟩

theorem apiConfigs_savedAgain :
    (c.applyUpdate form).savedAgain.apiConfigs = (c.applyUpdate form).apiConfigs := by
  refine List.filter_eq_self.2 fun entry hentry => ?_
  have hposition : (c.applyUpdate form).isPosition entry.1 = true := (List.mem_filter.1 hentry).2
  exact (isPosition_applyUpdate_iff (c.applyUpdate form) _).2 (isPosition_iff.1 hposition)

theorem baseUrls_savedAgain_iff :
    (c.applyUpdate form).savedAgain.baseUrls = (c.applyUpdate form).baseUrls ↔
      ∀ url ∈ form.baseUrls, ¬HasBlankBeforeSlashes url := by
  have hagain : (c.applyUpdate form).savedAgain.baseUrls =
      form.baseUrls.map fun url => normalizeBaseUrl (normalizeBaseUrl url) := by
    rw [savedAgain, baseUrls_applyUpdate, ConfigUpdate.ofConfig, baseUrls_applyUpdate,
      List.map_map]
    rfl
  rw [hagain, baseUrls_applyUpdate, List.map_inj_left]
  exact forall₂_congr fun url _ => normalizeBaseUrl_normalizeBaseUrl_iff url

/-- The normal form of a base URL has no slash at its end and no blank at its start; it has a blank
at its end, and is not its own normal form, exactly if the URL has a blank before the slashes at its
end.  Saving an updated configuration again, with what it was read as, keeps its switch and its
entries, and its URLs exactly if no such URL was given to it. -/
theorem saving_again_keeps_urls_without_blank_before_slashes :
    (∀ url, (normalizeBaseUrl url).toList.getLast? ≠ some '/' ∧
      (∀ first, (normalizeBaseUrl url).toList.head? = some first →
        Text.isBlank first = false) ∧
      (EndsBlank (normalizeBaseUrl url) ↔ HasBlankBeforeSlashes url) ∧
      (normalizeBaseUrl (normalizeBaseUrl url) = normalizeBaseUrl url ↔
        ¬HasBlankBeforeSlashes url)) ∧
    let after := c.applyUpdate form
    after.savedAgain.enabled = after.enabled ∧
      after.savedAgain.apiConfigs = after.apiConfigs ∧
      (after.savedAgain = after ↔ ∀ url ∈ form.baseUrls, ¬HasBlankBeforeSlashes url) ∧
      ((∀ entry ∈ form.apiConfigs, entry.2.Tidy) →
        ConfigUpdate.decode (.ofMembers after.readMembers) = .ok (.ofConfig after)) := by
  refine ⟨fun url => ?_, ?_⟩
  · exact ⟨getLast?_normalizeBaseUrl url, fun _ hfirst => head?_normalizeBaseUrl hfirst,
      endsBlank_normalizeBaseUrl_iff url, normalizeBaseUrl_normalizeBaseUrl_iff url⟩
  · intro after
    have henabled : after.savedAgain.enabled = after.enabled := rfl
    have hentries : after.savedAgain.apiConfigs = after.apiConfigs := apiConfigs_savedAgain c form
    have hsame : after.savedAgain = after ↔ after.savedAgain.baseUrls = after.baseUrls :=
      ⟨congrArg baseUrls, fun hurls => eq_of_parts henabled hurls hentries⟩
    refine ⟨henabled, hentries, hsame.trans (baseUrls_savedAgain_iff c form), fun htidy => ?_⟩
    apply ConfigUpdate.decode_readMembers
    intro entry hentry
    exact htidy entry (List.mem_of_mem_filter hentry)

end Again

/-- An update with blanks around its URL, and with a member that its entry only keeps. -/
def notedUpdate : ConfigUpdate where
  enabled := none
  baseUrls := [" http://a// "]
  apiConfigs := [("0", { prefixId := some "p", extra := [("note", .null)] })]

theorem saving_again_keeps_noted :
    let after := ({} : RunnerConfig).applyUpdate notedUpdate
    (∀ entry ∈ notedUpdate.apiConfigs, entry.2.Tidy) ∧
      after.baseUrls = ["http://a"] ∧ after.savedAgain = after ∧
      ConfigUpdate.decode (.ofMembers after.readMembers) = .ok (.ofConfig after) := by
  intro after
  have htidy : ∀ entry ∈ notedUpdate.apiConfigs, entry.2.Tidy := by
    rintro entry hentry
    obtain rfl := List.mem_singleton.1 hentry
    exact ⟨by decide, by simp [Schema.field?, Record.schema, Record.fields]⟩
  have hblank : ∀ url ∈ notedUpdate.baseUrls, ¬HasBlankBeforeSlashes url := by
    rintro url hurl
    obtain rfl := List.mem_singleton.1 hurl
    exact (normalizeBaseUrl_normalizeBaseUrl_iff _).1 (by decide +kernel)
  obtain ⟨-, -, -, hagain, hdecode⟩ :=
    saving_again_keeps_urls_without_blank_before_slashes {} notedUpdate
  exact ⟨htidy, by decide +kernel, hagain.2 hblank, hdecode htidy⟩

/-- The first update leaves a blank at the end of the URL, and the second one removes it. -/
theorem saving_again_drops_a_blank :
    let after := ({} : RunnerConfig).applyUpdate
      { enabled := none, baseUrls := ["http://a/ /"], apiConfigs := [] }
    after.baseUrls = ["http://a/ "] ∧ after.savedAgain.baseUrls = ["http://a"] ∧
      after.savedAgain ≠ after ∧
      normalizeBaseUrl "http://a/ /" = "http://a/ " ∧
      normalizeBaseUrl (normalizeBaseUrl "http://a/ /") = "http://a" := by
  intro after
  have hfirst : after.baseUrls = ["http://a/ "] := by decide +kernel
  have hsecond : after.savedAgain.baseUrls = ["http://a"] := by decide +kernel
  refine ⟨hfirst, hsecond, ?_, by decide +kernel, by decide +kernel⟩
  intro hsame
  rw [hsame, hfirst] at hsecond
  simp at hsecond

end RunnerConfig
end RunnerGateway
