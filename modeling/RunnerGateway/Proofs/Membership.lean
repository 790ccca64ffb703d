import RunnerGateway.Proofs.Listing

/-!
# Which models are in the list of all models

What the list has is said in terms of the answers of the backends alone.  A backend `Offers` a model
if its answer names it and its entry allows it; `serves_fetched_iff` says that the list has exactly
the models that are offered, under the names that they have within the catalogue.
-/

namespace RunnerGateway
namespace Gateway

open Json Exchange

/-! ## Which models are offered -/

/-- The object names the model `own`: as its `model`, or as its `name` if its `model` is no text. -/
def Names (members : Dict Json) (own : String) : Prop :=
  Dict.get? members "model" = some (.str own) ∨
    (∀ text, Dict.get? members "model" ≠ some (.str text)) ∧
      Dict.get? members "name" = some (.str own)

/-- The answer names the model `own` among its models. -/
def Tells (v : Json) (own : String) : Prop :=
  ∃ items members, v.field? "models" = some (.arr items) ∧ .obj members ∈ items ∧
    Names members own

/-- The backend is enabled, answers with success and in JSON, and the answer names the model `own`,
which the backend's entry allows. -/
def Offers (b : Backend) (answer : Outcome) (own : String) : Prop :=
  b.config.enable = true ∧
    (∃ reply v, answer = .ok reply ∧ 200 ≤ reply.status ∧ reply.status < 300 ∧
      reply.json? = some v ∧ Tells v own) ∧
    (b.config.modelIds = [] ∨ own ∈ b.config.modelIds)

theorem nameOf?_eq_some_iff {members : Dict Json} {own : String} :
    ModelEntry.nameOf? members = some own ↔ Names members own := by
  unfold ModelEntry.nameOf? Names
  split
  · rename_i model hmodel
    simp [hmodel]
  · rename_i hmodel
    have hname : ((Dict.get? members "name").bind Json.string?) = some own ↔
        Dict.get? members "name" = some (.str own) := by
      rw [Option.bind_eq_some_iff]
      constructor
      · rintro ⟨v, hv, hstring⟩
        cases v with
        | str s =>
            obtain rfl : s = own := by simpa [Json.string?] using hstring
            exact hv
        | _ => simp [Json.string?] at hstring
      · intro h
        exact ⟨_, h, rfl⟩
    rw [hname]
    constructor
    · intro h
      exact Or.inr ⟨hmodel, h⟩
    · rintro (h | ⟨-, h⟩)
      · exact (hmodel own h).elim
      · exact h

theorem exists_mem_reported_iff {v : Json} {own : String} :
    (∃ e ∈ ModelList.reported v, e.model = own) ↔ Tells v own := by
  have hitem : ∀ item, (∃ e, ModelEntry.ofValue? item = some e ∧ e.model = own) ↔
      ∃ members, item = .obj members ∧ Names members own := by
    intro item
    cases item with
    | obj members =>
        simp only [ModelEntry.ofValue?, Json.object?, Option.bind_some, Option.map_eq_some_iff]
        constructor
        · rintro ⟨e, ⟨name, hname, rfl⟩, rfl⟩
          exact ⟨members, rfl, nameOf?_eq_some_iff.1 hname⟩
        · rintro ⟨members', hobj, hnames⟩
          obtain rfl := Json.obj.inj hobj
          exact ⟨_, ⟨own, nameOf?_eq_some_iff.2 hnames, rfl⟩, rfl⟩
    | _ => simp [ModelEntry.ofValue?, Json.object?]
  have harray : ∀ found : Option Json, (∃ item ∈ (found.bind Json.array?).getD [],
      ∃ e, ModelEntry.ofValue? item = some e ∧ e.model = own) ↔
      ∃ items members, found = some (.arr items) ∧ .obj members ∈ items ∧
        Names members own := by
    intro found
    constructor
    · rintro ⟨item, hmem, hexists⟩
      obtain ⟨members, rfl, hnames⟩ := (hitem item).1 hexists
      match found with
      | some (.arr items) => exact ⟨items, members, rfl, hmem, hnames⟩
    · rintro ⟨items, members, rfl, hmem, hnames⟩
      exact ⟨_, hmem, (hitem _).2 ⟨members, rfl, hnames⟩⟩
  rw [Tells, ← harray, ModelList.reported]
  simp only [List.mem_filterMap]
  constructor
  · rintro ⟨e, ⟨item, hmem, he⟩, hmodel⟩
    exact ⟨item, hmem, e, he, hmodel⟩
  · rintro ⟨item, hmem, e, he, hmodel⟩
    exact ⟨e, ⟨item, hmem, he⟩, hmodel⟩

theorem value?_eq_some_iff {answer : Outcome} {v : Json} :
    value? answer = some v ↔ ∃ reply, answer = .ok reply ∧ 200 ≤ reply.status ∧
      reply.status < 300 ∧ reply.json? = some v := by
  cases answer with
  | error fault => simp [value?]
  | ok reply =>
      simp only [value?, Reply.isSuccess, Bool.and_eq_true, decide_eq_true_eq]
      by_cases hstatus : 200 ≤ reply.status ∧ reply.status < 300
      · simp [hstatus]
      · simp only [if_neg hstatus, Except.ok.injEq, exists_eq_left', reduceCtorEq, false_iff]
        tauto

theorem allows_iff {config : BackendConfig} {own : String} :
    config.allows own = true ↔ config.modelIds = [] ∨ own ∈ config.modelIds := by
  simp [BackendConfig.allows]

/-- The list of all models has exactly the models that are offered. -/
theorem serves_fetched_iff {c : RunnerConfig} (hc : c.enabled = true)
    {tags loaded : Nat → Outcome} {model : String} {idx : Nat} :
    ModelList.Serves (fetched c tags loaded) model idx ↔
      ∃ b own, c.backend? idx = some b ∧ Offers b (tags idx) own ∧ b.qualify own = model := by
  rw [fetched, if_pos hc, ModelList.serves_annotate_iff, ModelList.serves_merge_iff, listsOf]
  simp only [List.getElem?_map, RunnerConfig.backends_getElem?, Option.map_eq_some_iff]
  constructor
  · rintro ⟨list, ⟨b, hb, hlist⟩, e, he, rfl⟩
    cases henabled : b.isEnabled with
    | false => simp [henabled] at hlist
    | true =>
        simp only [henabled, if_true, Option.map_eq_some_iff] at hlist
        obtain ⟨v, hv, rfl⟩ := hlist
        obtain ⟨entry, hentry, hallows, rfl⟩ := Backend.mem_decorateModels_iff.1 he
        rw [RunnerConfig.backend?_idx hb] at hv
        obtain ⟨reply, hreply, hlow, hhigh, hjson⟩ := value?_eq_some_iff.1 hv
        have htells : Tells v entry.model := exists_mem_reported_iff.1 ⟨entry, hentry, rfl⟩
        exact ⟨b, entry.model, hb,
          ⟨henabled, ⟨reply, v, hreply, hlow, hhigh, hjson, htells⟩, allows_iff.1 hallows⟩,
          (Backend.decorate_model b entry).symm⟩
  · rintro ⟨b, own, hb, ⟨henabled, ⟨reply, v, hreply, hlow, hhigh, hjson, htells⟩, hallows⟩, rfl⟩
    obtain ⟨entry, hentry, rfl⟩ := exists_mem_reported_iff.2 htells
    have hv : value? (tags b.idx) = some v := by
      rw [RunnerConfig.backend?_idx hb]
      exact value?_eq_some_iff.2 ⟨reply, hreply, hlow, hhigh, hjson⟩
    refine ⟨b.decorateModels (ModelList.reported v), ⟨b, hb, ?_⟩, b.decorate entry, ?_, ?_⟩
    · simp [show b.isEnabled = true from henabled, hv]
    · exact Backend.mem_decorateModels_iff.2 ⟨entry, hentry, allows_iff.2 hallows, rfl⟩
    · exact Backend.decorate_model b entry

/-! ## Positions that backends claim -/

/-- A listed model without the positions that it claims. -/
def withoutUrls : Json → Json
  | .obj members => .obj (Dict.erase members "urls")
  | v => v

/-- The models that an answer lists, without the positions that they claim. -/
def listed (v : Json) : List Json :=
  (((v.field? "models").bind Json.array?).getD []).map withoutUrls

theorem nameOf?_erase_urls (members : Dict Json) :
    ModelEntry.nameOf? (Dict.erase members "urls") = ModelEntry.nameOf? members := by
  have hmodel : Dict.get? (Dict.erase members "urls") "model" = Dict.get? members "model" := by
    rw [Dict.get?_erase, if_neg (by decide)]
  have hname : Dict.get? (Dict.erase members "urls") "name" = Dict.get? members "name" := by
    rw [Dict.get?_erase, if_neg (by decide)]
  unfold ModelEntry.nameOf?
  rw [hmodel, hname]

theorem erase_urls_erase (members : Dict Json) (key : String) :
    Dict.erase (Dict.erase (Dict.erase members "urls") key) "urls" =
      Dict.erase (Dict.erase members key) "urls" := by
  simp only [Dict.erase, List.filter_filter]
  refine List.filter_congr fun entry _ => ?_
  by_cases hurls : entry.1 = "urls" <;> simp [hurls]

theorem ofValue?_withoutUrls (v : Json) :
    ModelEntry.ofValue? (withoutUrls v) = ModelEntry.ofValue? v := by
  cases v with
  | obj members =>
      simp only [withoutUrls, ModelEntry.ofValue?, Json.object?, Option.bind_some,
        nameOf?_erase_urls, erase_urls_erase]
  | _ => rfl

theorem reported_eq_filterMap_listed (v : Json) :
    ModelList.reported v = (listed v).filterMap ModelEntry.ofValue? := by
  rw [listed, List.filterMap_map]
  exact List.filterMap_congr fun item _ => (ofValue?_withoutUrls item).symm

/-- Backends whose answers list the same models, up to the positions that these claim, give the same
list. -/
theorem fetched_congr_listed {c : RunnerConfig} {tags tags' : Nat → Outcome}
    (loaded : Nat → Outcome)
    (h : ∀ idx, (value? (tags idx)).map listed = (value? (tags' idx)).map listed) :
    fetched c tags' loaded = fetched c tags loaded := by
  have hreported : ∀ idx, (value? (tags idx)).map ModelList.reported =
      (value? (tags' idx)).map ModelList.reported := by
    intro idx
    have hmap := congrArg (Option.map (List.filterMap ModelEntry.ofValue?)) (h idx)
    simpa only [Option.map_map, Function.comp_def, ← reported_eq_filterMap_listed] using hmap
  have hlists : listsOf Backend.decorateModels c tags' =
      listsOf Backend.decorateModels c tags := by
    refine List.map_congr_left fun b _ => ?_
    split
    · have hmap := congrArg (Option.map b.decorateModels) (hreported b.idx)
      simpa only [Option.map_map, Function.comp_def] using hmap.symm
    · rfl
  rw [fetched, fetched, hlists]

/-! ## The list -/

/-- The list of all models has every model once, with the ascending positions of exactly those
backends that offer it; each of them knows the model by the name that it told, and the positions
that backends claim count for nothing. -/
theorem fetchModels_lists_offers {c : RunnerConfig} (hc : c.enabled = true)
    (tags loaded : Nat → Outcome) (past : List Act) :
    ∃ models, (∀ found, fetchModels.Leads past (fetching c tags loaded ++ past) found ↔
        found = models) ∧
      (models.map ModelEntry.model).Nodup ∧
      (∀ e ∈ models, e.urls ≠ [] ∧ e.urls.Pairwise (· < ·)) ∧
      (∀ model idx, (∃ e ∈ models, e.model = model ∧ idx ∈ e.urls) ↔
        ∃ b own, c.backend? idx = some b ∧ Offers b (tags idx) own ∧ b.qualify own = model) ∧
      (∀ model idx b own, c.backend? idx = some b → Offers b (tags idx) own →
        b.qualify own = model → b.unqualify model = own) ∧
      ∀ tags' : Nat → Outcome,
        (∀ idx, (value? (tags idx)).map listed = (value? (tags' idx)).map listed) →
          fetchModels.Leads past (fetching c tags' loaded ++ past) models := by
  have horderly := orderly_fetched c tags loaded
  refine ⟨fetched c tags loaded, fun found => ⟨fun hfound => ?_, ?_⟩, horderly.nodup,
    fun e he => ⟨horderly.nonempty e he, horderly.ascending e he⟩,
    fun model idx => serves_fetched_iff hc, ?_, ?_⟩
  · exact hfound.unique (fetchModels_leads c tags loaded past)
  · rintro rfl
    exact fetchModels_leads c tags loaded past
  · rintro model idx b own - - rfl
    exact b.unqualify_qualify own
  · intro tags' hsame
    rw [← fetched_congr_listed loaded hsame]
    exact fetchModels_leads c tags' loaded past

/-- Two backends, the name space of one of which begins like that of the other. -/
def nestedSpaces : RunnerConfig where
  baseUrls := ["http://a", "http://b"]
  apiConfigs := [("0", { prefixId := some "x" }), ("1", { prefixId := some "x.y" })]

/-- Answers in which two backends tell different names for what becomes one model. -/
def nestedAnswer (idx : Nat) : Outcome :=
  let own := if idx = 0 then "y.z" else "z"
  let text := "\x7b\"models\":[\x7b\"model\":\"" ++ own ++ "\",\"urls\":[7]\x7d]\x7d"
  .ok { status := 200, headers := [], body := { bytes := text.toUTF8.toList } }

theorem value?_nestedAnswer_zero :
    value? (nestedAnswer 0) =
      some (.obj [("models", .arr [.obj [("model", .str "y.z"), ("urls", .arr [.int 7])]])]) := by
  cbv

theorem value?_nestedAnswer_one :
    value? (nestedAnswer 1) =
      some (.obj [("models", .arr [.obj [("model", .str "z"), ("urls", .arr [.int 7])]])]) := by
  cbv

/-- Both backends stand behind the one model that both seem to have. -/
theorem fetchModels_lists_nested :
    nestedSpaces.enabled = true ∧
      ∃ models, fetchModels.Leads []
          (fetching nestedSpaces nestedAnswer (fun _ => .error .badValue) ++ []) models ∧
        ModelList.Serves models "x.y.z" 0 ∧ ModelList.Serves models "x.y.z" 1 := by
  obtain ⟨models, hleads, -, -, hserves, -, -⟩ :=
    fetchModels_lists_offers (c := nestedSpaces) rfl nestedAnswer (fun _ => .error .badValue) []
  obtain ⟨reply₀, hreply₀, hlow₀, hhigh₀, hjson₀⟩ := value?_eq_some_iff.1 value?_nestedAnswer_zero
  obtain ⟨reply₁, hreply₁, hlow₁, hhigh₁, hjson₁⟩ := value?_eq_some_iff.1 value?_nestedAnswer_one
  refine ⟨rfl, models, (hleads models).2 rfl, (hserves "x.y.z" 0).2 ?_, (hserves "x.y.z" 1).2 ?_⟩
  · refine ⟨⟨0, "http://a", { prefixId := some "x" }⟩, "y.z", rfl, ⟨rfl, ?_, Or.inl rfl⟩, by cbv⟩
    exact ⟨reply₀, _, hreply₀, hlow₀, hhigh₀, hjson₀, _, _, rfl, List.mem_singleton_self _,
      Or.inl rfl⟩
  · refine ⟨⟨1, "http://b", { prefixId := some "x.y" }⟩, "z", rfl, ⟨rfl, ?_, Or.inl rfl⟩, by cbv⟩
    exact ⟨reply₁, _, hreply₁, hlow₁, hhigh₁, hjson₁, _, _, rfl, List.mem_singleton_self _,
      Or.inl rfl⟩

end Gateway
end RunnerGateway
