import RunnerGateway.Proofs.Json.Shapes
import RunnerGateway.Runner.Config

/-!
# Reading back a stored configuration

The text of a configuration is read as that configuration, if the members that its entries only keep
can be read back: they are no fields, have ascending keys, are nested less deep than a text may be,
and have no floating-point numbers.
-/

namespace RunnerGateway

open Json

/-! ## Entries -/

namespace BackendConfig

/-- How deep the members that an entry only keeps may be nested: three levels are around them. -/
def extraLevels : Nat := maxLevels - 3

/-- The members that the entry only keeps are in order and are no fields. -/
structure Tidy (c : BackendConfig) : Prop where
  sorted : Dict.Sorted c.extra
  unknown : ∀ m ∈ c.extra, Record.schema.field? .backendConfig m.1 = none

/-- The members that the entry only keeps are in order, are no fields, and are not nested too
deep. -/
structure Orderly (c : BackendConfig) : Prop where
  sorted : Dict.Sorted c.extra
  unknown : ∀ m ∈ c.extra, Record.schema.field? .backendConfig m.1 = none
  fits : ∀ m ∈ c.extra, Fits extraLevels m.2

/-- The entry can be written and read back. -/
structure Storable (c : BackendConfig) : Prop extends Orderly c where
  floatFree : ∀ m ∈ c.extra, FloatFree m.2

/-- The entry without the members that it only keeps. -/
def known (c : BackendConfig) : BackendConfig :=
  { c with extra := [] }

variable {c : BackendConfig}

theorem Orderly.tidy (h : c.Orderly) : c.Tidy :=
  ⟨h.sorted, h.unknown⟩

theorem members_eq_known_append (c : BackendConfig) : c.members = c.known.members ++ c.extra := by
  simp [members, known]

theorem keys_known_sublist (c : BackendConfig) :
    (Dict.keys c.known.members).Sublist
      ["enable", "key", "prefix_id", "tags", "model_ids", "connection_type"] := by
  unfold members known
  cases c.key <;> cases c.prefixId <;> cases c.connectionType <;>
    simp [Dict.keys, optionalMember]

theorem isSome_field?_of_mem_known {m : String × Json} (hm : m ∈ c.known.members) :
    (Record.schema.field? .backendConfig m.1).isSome = true := by
  have hall : ∀ k ∈ ["enable", "key", "prefix_id", "tags", "model_ids", "connection_type"],
      (Record.schema.field? .backendConfig k).isSome = true := by
    simp [Schema.field?, Record.schema, Record.fields]
  exact hall _ ((keys_known_sublist c).subset (List.mem_map_of_mem hm))

theorem Tidy.nodup_keys (h : c.Tidy) : (Dict.keys c.members).Nodup := by
  have hknown : (Dict.keys c.known.members).Nodup :=
    (keys_known_sublist c).nodup (by simp)
  rw [members_eq_known_append, Dict.keys, List.map_append]
  refine List.nodup_append.2 ⟨hknown, h.sorted.nodup, ?_⟩
  rintro a ha b hb rfl
  obtain ⟨m, hm, rfl⟩ := List.mem_map.1 ha
  obtain ⟨m', hm', hsame⟩ := List.mem_map.1 hb
  have hsome := isSome_field?_of_mem_known hm
  rw [← hsame, h.unknown m' hm'] at hsome
  exact Bool.false_ne_true hsome

theorem forall_optionalMember {p : String × Json → Prop} {key : String} {text : Option String}
    (h : ∀ s, p (key, .str s)) : ∀ m ∈ optionalMember key text, p m := by
  cases text with
  | none => simp [optionalMember]
  | some s => simpa [optionalMember] using h s

/-- What holds of every field in its kind holds of all fields that the entry writes. -/
theorem forall_known {p : String × Json → Prop}
    (henable : ∀ b, p ("enable", .bool b)) (hkey : ∀ s, p ("key", .str s))
    (hspace : ∀ s, p ("prefix_id", .str s))
    (htags : ∀ tags : List Tag, p ("tags", .arr (tags.map Tag.toJson)))
    (hids : ∀ ids, p ("model_ids", .ofStrings ids))
    (hconnection : ∀ s, p ("connection_type", .str s)) : ∀ m ∈ c.known.members, p m := by
  intro m hm
  simp only [members, known, List.append_nil, List.mem_append, List.mem_cons, List.not_mem_nil,
    or_false] at hm
  rcases hm with (((rfl | hm) | hm) | rfl | rfl) | hm
  · exact henable _
  · exact forall_optionalMember hkey m hm
  · exact forall_optionalMember hspace m hm
  · exact htags _
  · exact hids _
  · exact forall_optionalMember hconnection m hm

theorem reads_tag {levels : Nat} (tag : Tag) :
    Record.schema.Reads (levels + 1) .tag tag.toJson tag.toJson := by
  cases tag with
  | name n => exact reads_tag_str n
  | object n => exact reads_tag_obj n

theorem reads_strings {levels : Nat} (items : List String) :
    Record.schema.Reads (levels + 1) (.list .string) (.ofStrings items) (.ofStrings items) := by
  refine reads_list (List.forall₂_same.2 fun v hv => ?_)
  obtain ⟨s, -, rfl⟩ := List.mem_map.1 hv
  exact reads_string s

theorem field?_backendConfig :
    Record.schema.field? .backendConfig "enable" = some ⟨"enable", .defaulted, .bool⟩ ∧
    Record.schema.field? .backendConfig "key" = some ⟨"key", .optional, .string⟩ ∧
    Record.schema.field? .backendConfig "prefix_id" = some ⟨"prefix_id", .optional, .string⟩ ∧
    Record.schema.field? .backendConfig "tags" = some ⟨"tags", .defaulted, .list .tag⟩ ∧
    Record.schema.field? .backendConfig "model_ids" =
      some ⟨"model_ids", .defaulted, .list .string⟩ ∧
    Record.schema.field? .backendConfig "connection_type" =
      some ⟨"connection_type", .optional, .string⟩ := by
  simp [Schema.field?, Record.schema, Record.fields]

theorem readsField_of_field {levels : Nat} {k : String} {f : Json.Field Record} (v : Json)
    (hf : Record.schema.field? .backendConfig k = some f) (hnull : v ≠ .null)
    (hread : Record.schema.Reads levels f.shape v v) :
    Record.schema.ReadsField levels .backendConfig (k, v) (k, v) := by
  refine ⟨rfl, ?_⟩
  simp only [hf]
  exact ⟨hnull, hread⟩

theorem Storable.readsField (h : c.Storable) :
    ∀ m ∈ c.members, Record.schema.ReadsField extraLevels .backendConfig m m := by
  obtain ⟨henable, hkey, hspace, htags, hids, hconnection⟩ := field?_backendConfig
  have hknown : ∀ m ∈ c.known.members,
      Record.schema.ReadsField extraLevels .backendConfig m m := by
    apply forall_known
    · intro b
      exact readsField_of_field (.bool b) henable nofun (reads_bool b)
    · intro s
      exact readsField_of_field (.str s) hkey nofun (reads_string s)
    · intro s
      exact readsField_of_field (.str s) hspace nofun (reads_string s)
    · intro tags
      refine readsField_of_field (.arr _) htags nofun (reads_list (List.forall₂_same.2 ?_))
      intro v hv
      obtain ⟨tag, -, rfl⟩ := List.mem_map.1 hv
      exact reads_tag tag
    · intro ids
      exact readsField_of_field (.arr _) hids nofun (reads_strings ids)
    · intro s
      exact readsField_of_field (.str s) hconnection nofun (reads_string s)
  intro m hm
  rw [members_eq_known_append] at hm
  rcases List.mem_append.1 hm with hm | hm
  · exact hknown m hm
  · refine ⟨rfl, ?_⟩
    rw [h.unknown m hm]
    exact ⟨rfl, reads_any (h.fits m hm) (h.floatFree m hm)⟩

theorem Storable.floatFree_members (h : c.Storable) : ∀ m ∈ c.members, FloatFree m.2 := by
  intro m hm
  obtain ⟨-, hread⟩ := h.readsField m hm
  split at hread
  · exact hread.2.floatFree
  · exact hread.2.floatFree

theorem missing?_backendConfig (present : List String) :
    Record.schema.missing? .backendConfig present = none := by
  simp [Schema.missing?, Record.schema, Record.fields]

/-- The text of an entry is read as a record with the entry's members. -/
theorem Storable.reads (h : c.Storable) :
    Record.schema.Reads (extraLevels + 1) (.record .backendConfig) c.toJson
      (.ofMembers c.members) :=
  reads_record (List.forall₂_same.2 h.readsField) h.floatFree_members h.tidy.nodup_keys
    (missing?_backendConfig _)

/-! ## Entries out of records -/

theorem get?_optionalMember (k : String) (text : Option String) (key : String) :
    Dict.get? (optionalMember k text) key = if key = k then text.map .str else none := by
  cases text with
  | none => simp [optionalMember]
  | some s => simp [optionalMember, Dict.get?_cons]

theorem Tidy.get?_extra_eq_none (h : c.Tidy) {key : String}
    (hkey : (Record.schema.field? .backendConfig key).isSome = true) :
    Dict.get? c.extra key = none := by
  apply Dict.get?_eq_none_of_forall_ne
  rintro m hm rfl
  rw [h.unknown m hm] at hkey
  exact Bool.false_ne_true hkey

theorem get?_known_eq_none {key : String}
    (hkey : Record.schema.field? .backendConfig key = none) :
    Dict.get? c.known.members key = none := by
  apply Dict.get?_eq_none_of_forall_ne
  rintro m hm rfl
  have hsome := isSome_field?_of_mem_known hm
  rw [hkey] at hsome
  exact Bool.false_ne_true hsome

/-- What stands under each key of the written record. -/
theorem Tidy.get?_members (h : c.Tidy) (key : String) :
    Dict.get? c.members key =
      if key = "enable" then some (.bool c.enable)
      else if key = "key" then c.key.map .str
      else if key = "prefix_id" then c.prefixId.map .str
      else if key = "tags" then some (.arr (c.tags.map Tag.toJson))
      else if key = "model_ids" then some (.ofStrings c.modelIds)
      else if key = "connection_type" then c.connectionType.map .str
      else Dict.get? c.extra key := by
  obtain ⟨-, hkey, hspace, -, -, hconnection⟩ := field?_backendConfig
  have hkey := h.get?_extra_eq_none (Option.isSome_of_eq_some hkey)
  have hspace := h.get?_extra_eq_none (Option.isSome_of_eq_some hspace)
  have hconnection := h.get?_extra_eq_none (Option.isSome_of_eq_some hconnection)
  simp only [members, Dict.get?_append, Dict.get?_cons, Dict.get?_nil, get?_optionalMember]
  split_ifs <;> simp_all

theorem Tidy.extras_eq (h : c.Tidy) :
    Record.extras .backendConfig (Dict.ofList c.members) = c.extra := by
  have hsorted : Dict.Sorted (Record.extras .backendConfig (Dict.ofList c.members)) :=
    (Dict.sorted_ofList _).filter _
  refine Dict.ext_get? hsorted h.sorted fun key => ?_
  rw [Record.extras,
    Dict.get?_filter_of_key (p := fun k => (Record.schema.field? .backendConfig k).isNone)]
  cases hkey : Record.schema.field? .backendConfig key with
  | some f => simp [h.get?_extra_eq_none (by rw [hkey]; rfl)]
  | none =>
      rw [Option.isNone_none, if_pos rfl, Dict.get?_ofList_of_nodup h.nodup_keys,
        members_eq_known_append, Dict.get?_append, get?_known_eq_none hkey, Option.none_or]

@[simp] theorem ofJson?_toJson (tag : Tag) : Tag.ofJson? tag.toJson = some tag := by
  cases tag <;> rfl

theorem strings_ofStrings (items : List String) : Record.strings (.ofStrings items) = items := by
  simp only [Record.strings, ofStrings, Json.array?, Option.getD_some, List.filterMap_map]
  exact List.filterMap_some

theorem member?_eq_of_get? {members : Dict Json} {key : String} {found : Option Json}
    (h : Dict.get? members key = found) (hnull : found ≠ some .null) :
    Record.member? members key = found := by
  unfold Record.member?
  rw [h]
  split
  · exact (hnull rfl).elim
  · rfl

theorem bind_string?_map_str (text : Option String) :
    (text.map Json.str).bind Json.string? = text := by
  cases text <;> rfl

theorem map_str_ne_null (text : Option String) : text.map Json.str ≠ some .null := by
  cases text <;> simp

/-- A record in which the same is found as in the written one stands for the entry. -/
theorem Tidy.ofCanonical_eq (h : c.Tidy) {d : Dict Json}
    (hd : ∀ key, Dict.get? d key = Dict.get? c.members key)
    (hextras : Record.extras .backendConfig d = c.extra) : ofCanonical (.obj d) = c := by
  have hmember : ∀ {key found}, Dict.get? c.members key = found → found ≠ some .null →
      Record.member? d key = found := by
    intro key found hfound hnull
    exact member?_eq_of_get? ((hd key).trans hfound) hnull
  have henable := hmember (h.get?_members "enable") nofun
  have hkey := hmember (h.get?_members "key") (map_str_ne_null _)
  have hspace := hmember (h.get?_members "prefix_id") (map_str_ne_null _)
  have htags := hmember (h.get?_members "tags") nofun
  have hids := hmember (h.get?_members "model_ids") nofun
  have hconnection := hmember (h.get?_members "connection_type") (map_str_ne_null _)
  simp only [String.reduceEq, if_true, if_false] at henable hkey hspace htags hids hconnection
  simp only [ofCanonical, Json.object?, Option.getD_some, henable, hkey, hspace, htags,
    hids, hconnection, hextras, bind_string?_map_str, Option.bind_some, Option.map_some,
    Json.bool?, Json.array?, strings_ofStrings, List.filterMap_map, Function.comp_def,
    ofJson?_toJson, List.filterMap_some]

/-- The record that an entry is written as stands for the entry. -/
theorem Tidy.ofCanonical_members (h : c.Tidy) : ofCanonical (.ofMembers c.members) = c :=
  h.ofCanonical_eq (Dict.get?_ofList_of_nodup h.nodup_keys) h.extras_eq

end BackendConfig

/-! ## Configurations -/

/-- All entries can be written and read back. -/
structure StorableEntries (entries : Dict BackendConfig) : Prop where
  sorted : Dict.Sorted entries
  storable : ∀ entry ∈ entries, entry.2.Storable

namespace RunnerConfig

variable {c : RunnerConfig}

/-- The entries as they are read: each as a record with its members in order. -/
def readEntries (c : RunnerConfig) : List (String × Json) :=
  c.apiConfigs.map fun entry => (entry.1, .ofMembers entry.2.members)

theorem sorted_readEntries (h : StorableEntries c.apiConfigs) : Dict.Sorted c.readEntries :=
  Dict.sorted_map_snd.2 h.sorted

theorem reads_readEntries (h : StorableEntries c.apiConfigs) :
    Record.schema.Reads (BackendConfig.extraLevels + 2) (.dict (.record .backendConfig))
      (.obj (entryMembers c.apiConfigs)) (.obj c.readEntries) := by
  have hsorted : Dict.Sorted (entryMembers c.apiConfigs) := Dict.sorted_map_snd.2 h.sorted
  have hreads : Record.schema.ReadsMembers (BackendConfig.extraLevels + 1)
      (.record .backendConfig) (entryMembers c.apiConfigs) c.readEntries := by
    refine List.forall₂_map_left_iff.2 (List.forall₂_map_right_iff.2 (List.forall₂_same.2 ?_))
    intro entry hentry
    exact ⟨rfl, (h.storable entry hentry).reads⟩
  have hdict := reads_dict hreads hsorted.nodup
  rwa [ofMembers, Dict.ofList_eq_self (sorted_readEntries h)] at hdict

theorem entriesOfCanonical_readEntries (h : ∀ entry ∈ c.apiConfigs, entry.2.Tidy) :
    entriesOfCanonical (.obj c.readEntries) = c.apiConfigs := by
  simp only [entriesOfCanonical, Json.object?, Option.getD_some, readEntries, List.map_map]
  refine (List.map_congr_left fun entry hentry => ?_).trans (List.map_id _)
  simp only [Function.comp_apply, (h entry hentry).ofCanonical_members, id_eq]

theorem field?_runnerConfig :
    Record.schema.field? .runnerConfig Record.enabledKey =
      some ⟨Record.enabledKey, .defaulted, .bool⟩ ∧
    Record.schema.field? .runnerConfig Record.baseUrlsKey =
      some ⟨Record.baseUrlsKey, .defaulted, .list .string⟩ ∧
    Record.schema.field? .runnerConfig Record.apiConfigsKey =
      some ⟨Record.apiConfigsKey, .defaulted, .dict (.record .backendConfig)⟩ := by
  simp [Schema.field?, Record.schema, Record.fields, Record.enabledKey, Record.baseUrlsKey,
    Record.apiConfigsKey]

theorem missing?_runnerConfig (present : List String) :
    Record.schema.missing? .runnerConfig present = none := by
  simp [Schema.missing?, Record.schema, Record.fields]

/-- The members of the configuration as they are read. -/
def readMembers (c : RunnerConfig) : List (String × Json) :=
  [(Record.enabledKey, .bool c.enabled), (Record.baseUrlsKey, .ofStrings c.baseUrls),
    (Record.apiConfigsKey, .obj c.readEntries)]

theorem nodup_fieldKeys :
    [Record.enabledKey, Record.baseUrlsKey, Record.apiConfigsKey].Nodup := by
  simp [Record.enabledKey, Record.baseUrlsKey, Record.apiConfigsKey]

theorem reads_readMembers (h : StorableEntries c.apiConfigs) :
    Record.schema.Reads maxLevels (.record .runnerConfig) c.toJson (.ofMembers c.readMembers) := by
  obtain ⟨henabled, hurls, hentries⟩ := field?_runnerConfig
  have hlevels : maxLevels = BackendConfig.extraLevels + 2 + 1 := rfl
  have hstrings : Record.schema.Reads (BackendConfig.extraLevels + 2) (.list .string)
      (.ofStrings c.baseUrls) (.ofStrings c.baseUrls) := BackendConfig.reads_strings c.baseUrls
  rw [hlevels]
  refine reads_record (.cons ?_ (.cons ?_ (.cons ?_ .nil))) ?_ nodup_fieldKeys
    (missing?_runnerConfig _)
  · refine ⟨rfl, ?_⟩
    simp only [henabled]
    exact ⟨nofun, reads_bool _⟩
  · refine ⟨rfl, ?_⟩
    simp only [hurls]
    exact ⟨nofun, hstrings⟩
  · refine ⟨rfl, ?_⟩
    simp only [hentries]
    exact ⟨nofun, reads_readEntries h⟩
  · intro m hm
    simp only [List.mem_cons, List.not_mem_nil, or_false] at hm
    rcases hm with rfl | rfl | rfl
    · exact .bool _
    · exact hstrings.floatFree
    · exact (reads_readEntries h).floatFree

theorem member?_readMembers (c : RunnerConfig) :
    Record.member? (Dict.ofList c.readMembers) Record.enabledKey = some (.bool c.enabled) ∧
    Record.member? (Dict.ofList c.readMembers) Record.baseUrlsKey =
      some (.ofStrings c.baseUrls) ∧
    Record.member? (Dict.ofList c.readMembers) Record.apiConfigsKey =
      some (.obj c.readEntries) := by
  have hnodup : (Dict.keys c.readMembers).Nodup := nodup_fieldKeys
  have hmember : ∀ key found, Dict.get? c.readMembers key = found → found ≠ some .null →
      Record.member? (Dict.ofList c.readMembers) key = found := by
    intro key found hfound hnull
    exact BackendConfig.member?_eq_of_get?
      ((Dict.get?_ofList_of_nodup hnodup key).trans hfound) hnull
  refine ⟨hmember _ _ ?_ nofun, hmember _ _ ?_ nofun, hmember _ _ ?_ nofun⟩
  · simp [readMembers, Dict.get?_cons]
  · simp [readMembers, Dict.get?_cons, Record.enabledKey, Record.baseUrlsKey]
  · simp [readMembers, Dict.get?_cons, Record.enabledKey, Record.baseUrlsKey,
      Record.apiConfigsKey]

theorem ofCanonical_readMembers (h : ∀ entry ∈ c.apiConfigs, entry.2.Tidy) :
    ofCanonical (.ofMembers c.readMembers) = c := by
  obtain ⟨henabled, hurls, hentries⟩ := member?_readMembers c
  simp only [ofCanonical, ofMembers, Json.object?, Option.getD_some, henabled, hurls, hentries,
    Option.bind_some, Option.map_some, Json.bool?, BackendConfig.strings_ofStrings,
    entriesOfCanonical_readEntries h]

/-- The text of a configuration is read as that configuration. -/
theorem read_render (h : StorableEntries c.apiConfigs) : read c.toJson.render = .ok c := by
  rw [read, (reads_readMembers h).read_render]
  simp only [Except.map,
    ofCanonical_readMembers fun entry hentry => (h.storable entry hentry).tidy]

end RunnerConfig
end RunnerGateway
